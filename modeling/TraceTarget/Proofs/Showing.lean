import TraceTarget.Program
import TraceTarget.Proofs.Budget
import TraceTarget.Proofs.Writing

/-!
# What a demonstration shows

Where the sink of a demonstration takes everything, nothing can fail, and what the sink holds in the
end is a function of the settings. It tells an initial revision from the others, and of the others
it tells the message, whatever the message is; it tells nothing else.

- `Sink.Accepts`: a sink that takes everything.
- `performAll_accepting`: on such a sink a run writes its whole transcript.
- `Settings.lines`, `Settings.shown`: what a demonstration shows, line by line and as bytes.
- `bytes_demonstrate`: it shows exactly that.
- `messageIn`: reads the message back from what was shown.
- `demonstrate_tells_message`: two demonstrations show the same exactly if they are both initial, or
  neither is and they have the same message.
-/

namespace TraceTarget

/-! ### Sinks that take everything -/

/-- A sink that takes every write and passes on every flush. -/
structure Sink.Accepts (s : Sink) : Prop where
  onWrite : ∀ past bs, s.behaviour.onWrite past bs = none
  onFlush : ∀ past, s.behaviour.onFlush past = none

namespace Sink

variable {s s' : Sink} {bs : Text.Bytes}

theorem accepts_default : (default : Sink).Accepts := ⟨fun _ _ => rfl, fun _ => rfl⟩

theorem Accepts.takesAll (h : s.Accepts) : s.TakesAll := h.onWrite

theorem Accepts.take (h : s.Accepts) (bs : Text.Bytes) : (s.take bs).Accepts :=
  ⟨h.onWrite, h.onFlush⟩

/-- A flush succeeds. -/
theorem Accepts.flush (h : s.Accepts) : s.flush.1 = .ok () := by
  unfold Sink.flush
  rw [h.onFlush]

end Sink

section Accepting

variable {s s' : Sink} {e : Emission}

/-- An emission whose writer ends well is not cut short. -/
theorem Emission.not_cutShort {halt : Halt} (hend : e.ending = .done) (hs : s.Accepts) :
    ¬e.CutShort s s' halt := by
  intro h
  cases h with
  | refused hrefuses => exact hs.takesAll.not_refuses hrefuses
  | ended _ hhalt =>
    rw [hend] at hhalt
    cases hhalt
  | unflushed _ htakes hflush =>
    have hflushed := (hs.take e.bytes).flush
    rw [← htakes.eq_take, hflush] at hflushed
    cases hflushed

/-- A sink that takes everything goes on doing so. -/
theorem Delivered.accepts {es : List Emission} {σ τ : SinkId → Sink} {id : SinkId}
    (h : Delivered es σ τ) (hs : (σ id).Accepts) : (τ id).Accepts := by
  have hsame := h.sameBehaviour id
  constructor
  · rw [hsame]
    exact hs.onWrite
  · rw [hsame]
    exact hs.onFlush

variable {d : Driver} {text : Text.Bytes} {st : Stage}

/-- What a move writes goes to the sink of the driver or to that of the counter, and ends as the
reporter does. -/
theorem emission?_sink {out own : SinkId} {m : Move}
    (h : m.emission? out own text .done = some e) :
    (e.sink = out ∨ e.sink = own) ∧ e.ending = .done := by
  cases m <;> cases h
  · exact ⟨.inl rfl, rfl⟩
  · exact ⟨.inl rfl, rfl⟩
  · exact ⟨.inr rfl, rfl⟩
  · exact ⟨.inl rfl, rfl⟩

/-- On sinks that take everything, all moves of a run succeed. -/
theorem exists_performAll_of_accepts (h : d.reporter.script.Prints text .done) {out : SinkId}
    (hout : (st.bench.sink out).Accepts) (hown : (st.bench.sink st.counter.sink).Accepts) :
    ∃ st', d.performAll out d.moves st = (.ok (), st') := by
  rcases hall : d.performAll out d.moves st with ⟨halt | u, st'⟩
  · -- the move that failed had an emission cut short, and on these sinks there is no such thing
    obtain ⟨done, move, rest, st₁, -, hdone, hmove⟩ := Driver.performAll_error hall
    obtain ⟨hdelivered, hsame⟩ := Driver.performAll_delivers h rfl hdone
    obtain ⟨e, he, -, hcut⟩ := Driver.perform_error h hsame hmove
    obtain ⟨hsink, hend⟩ := emission?_sink he
    refine absurd hcut (Emission.not_cutShort hend ?_)
    rcases hsink with hsink | hsink
    · rw [hsink]
      exact hdelivered.accepts hout
    · rw [hsink]
      exact hdelivered.accepts hown
  · exact ⟨st', rfl⟩

/-- On a sink that takes everything, shared by driver and counter, all moves of a run succeed and
the sink gets the transcript. -/
theorem performAll_accepting (h : d.reporter.script.Prints text .done)
    (hs : (st.bench.sink st.counter.sink).Accepts) :
    ∃ st', d.performAll st.counter.sink d.moves st = (.ok (), st') ∧
      (st'.bench.sink st.counter.sink).Accepts ∧
      (st'.bench.sink st.counter.sink).bytes =
        (st.bench.sink st.counter.sink).bytes ++ d.transcript text := by
  obtain ⟨st', hall⟩ := exists_performAll_of_accepts h hs hs
  have hdelivered := (Driver.performAll_delivers h rfl hall).1
  have hbytes := hdelivered.bytes st.counter.sink
  rw [bytesAt_moves, bytes_moves] at hbytes
  exact ⟨st', hall, hdelivered.accepts hs, hbytes⟩

end Accepting

/-! ### The lines of a demonstration -/

namespace Settings

/-- The lines that a demonstration shows. A message may itself be of several lines, or look like one
of the others. -/
def lines (s : Settings) : List String :=
  "child process start" ::
    (List.range 10).flatMap (fun i => ["func is " ++ i.repr, "test is " ++ i.repr]) ++
    (if s.revision = .initial then [] else s.message.toList) ++
    "child process end" :: if s.revision = .initial then [] else ["destructor: 0xa"]

/-- What a demonstration shows: its lines, each with a line feed. -/
def shown (s : Settings) : Text.Bytes :=
  s.lines.flatMap lineBytes

/-- What the reporter of a demonstration prints. -/
def reported (s : Settings) : Text.Bytes :=
  s.message.toList.flatMap lineBytes

/-- The last lines of a demonstration whose revision is not initial. -/
def closing : Text.Bytes :=
  lineBytes "child process end" ++ lineBytes "destructor: 0xa"

end Settings

theorem linesBefore_ten :
    linesBefore 10 = lineBytes "child process start" ++ (List.range 10).flatMap fun i =>
      lineBytes ("func is " ++ i.repr) ++ lineBytes ("test is " ++ i.repr) := by
  rw [linesBefore, List.flatMap_congr]
  · rfl
  · intro i hi
    have hlt : i < UInt32.size := (List.mem_range.mp hi).trans (by decide)
    have hi : (UInt32.ofNat i).toNat = i := UInt32.toNat_ofNat_of_lt' hlt
    simp only [Line.bytes, Line.text, hi]
    rfl

namespace Settings

variable {s t : Settings}

theorem shown_initial (h : s.revision = .initial) :
    s.shown = linesBefore 10 ++ lineBytes "child process end" := by
  rw [shown, lines, if_pos h, if_pos h, linesBefore_ten]
  simp only [List.append_nil, List.cons_append, List.flatMap_cons, List.flatMap_append,
    List.flatMap_nil, List.flatMap_assoc, List.append_assoc]

theorem shown_of_ne_initial (h : s.revision ≠ .initial) :
    s.shown = linesBefore 10 ++ (s.reported ++ closing) := by
  rw [shown, lines, if_neg h, if_neg h, linesBefore_ten, reported, closing]
  simp only [List.append_nil, List.cons_append, List.flatMap_cons, List.flatMap_append,
    List.flatMap_nil, List.flatMap_assoc, List.append_assoc]

/-- The reporter of a demonstration prints the message, if there is one. -/
theorem prints_reported (s : Settings) (sleeper : Sleeper) :
    ((Driver.ofSettings s).withSleeper sleeper).reporter.script.Prints s.reported .done := by
  obtain ⟨revision, delay, message⟩ := s
  cases message with
  | none => exact Reporter.prints_silent
  | some text =>
    rw [reported, Option.toList_some, List.flatMap_singleton]
    exact Reporter.prints_message text

/-- The last words of a fresh counter after the ten tests of a run. -/
theorem lastWords_forRevision (out : SinkId) (r : Revision) :
    (Counter.forRevision out r).lastWords 10 =
      if r = .initial then [] else lineBytes "destructor: 0xa" := by
  have hcount : (Line.destructor (.ofNat (min (0 + 10) 0xffffffff))).text = "destructor: 0xa" := by
    decide
  cases r with
  | initial => rfl
  | linked => exact congrArg lineBytes hcount
  | final => exact congrArg lineBytes hcount

/-- What is shown is the transcript of the run and the last words of its counter. -/
theorem shown_eq (s : Settings) (sleeper : Sleeper) (out : SinkId) :
    ((Driver.ofSettings s).withSleeper sleeper).transcript s.reported ++
      (Counter.forRevision out s.revision).lastWords 10 = s.shown := by
  have hdriver : ((Driver.ofSettings s).withSleeper sleeper).revision = s.revision := rfl
  rw [Driver.transcript, hdriver, lastWords_forRevision]
  by_cases h : s.revision = .initial
  · rw [if_pos h, shown_initial h, h]
    simp only [Revision.callsReporter, Bool.false_eq_true, if_false, List.append_nil]
    rfl
  · have hcalls : s.revision.callsReporter = true := by
      revert h
      cases s.revision <;> decide
    rw [if_neg h, shown_of_ne_initial h, hcalls, if_pos rfl, List.append_assoc, List.append_assoc]
    rfl

/-- What the sink of a demonstration holds when the counter's life is over. -/
def left (s : Settings) (sleeper : Sleeper) (out : SinkId) (b : Bench) : Text.Bytes :=
  ((s.demonstrate sleeper out out b).bench.sink out).bytes

/-- Where the sink takes everything, a demonstration succeeds and shows its lines. -/
theorem bytes_demonstrate (s : Settings) (sleeper : Sleeper) {out : SinkId} {b : Bench}
    (h : (b.sink out).Accepts) :
    (∃ summary, (s.demonstrate sleeper out out b).result = .ok summary) ∧
      s.left sleeper out b = (b.sink out).bytes ++ s.shown := by
  have hstart : ((Stage.mk (.forRevision out s.revision) b).bench.sink
      (Counter.forRevision out s.revision).sink).Accepts := h
  obtain ⟨after, hall, haccepts, hbytes⟩ :=
    performAll_accepting (prints_reported s sleeper) hstart
  have hretire := (lockstep_of_ok hall).bytes_retire
  have hrun := Driver.run_of_ok hall
  rw [haccepts.takesAll.write, Sink.bytes_take, hbytes, List.append_assoc] at hretire
  unfold left demonstrate
  dsimp only
  have hout : (Counter.forRevision out s.revision).sink = out := rfl
  rw [hout] at hrun hretire
  rw [hrun]
  refine ⟨⟨_, rfl⟩, hretire.trans (congrArg _ ?_)⟩
  exact shown_eq s sleeper out

end Settings

/-! ### Reading the message back -/

/-- The message in what a demonstration showed, if there is one: what stands between the lines
before it and the lines after it. -/
def messageIn (bs : Text.Bytes) : Option String :=
  let middle := (bs.drop (linesBefore 10).length).take
    (bs.length - (linesBefore 10).length - Settings.closing.length)
  if middle = [] then none else (Text.decode? middle.dropLast).map String.ofList

/-- The message is read back from what was shown, whatever it is. -/
theorem messageIn_shown {s : Settings} (h : s.revision ≠ .initial) :
    messageIn s.shown = s.message := by
  have hmiddle : ((s.shown.drop (linesBefore 10).length).take
      (s.shown.length - (linesBefore 10).length - Settings.closing.length)) = s.reported := by
    rw [Settings.shown_of_ne_initial h, List.drop_left]
    simp only [List.length_append, Nat.add_sub_cancel_left, Nat.add_sub_cancel]
    exact List.take_left
  rw [messageIn, hmiddle]
  cases hmessage : s.message with
  | none => simp [Settings.reported, hmessage]
  | some text =>
    have hreported : s.reported = Text.encode text.toList ++ [0x0a] := by
      rw [Settings.reported, hmessage, Option.toList_some, List.flatMap_singleton, lineBytes_eq]
    simp only [hreported, List.append_eq_nil_iff, List.cons_ne_self, and_false, if_false,
      List.dropLast_concat, Text.decode?_encode, Option.map_some, String.ofList_toList]

namespace Settings

variable {s t : Settings}

/-- What an initial revision shows is shorter than what any other shows. -/
theorem shown_ne_of_initial (hs : s.revision = .initial) (ht : t.revision ≠ .initial) :
    s.shown ≠ t.shown := by
  intro h
  have hlength := congrArg List.length h
  rw [shown_initial hs, shown_of_ne_initial ht, closing] at hlength
  have hlast : 0 < (lineBytes "destructor: 0xa").length := by decide
  simp only [List.length_append] at hlength
  omega

/-- What is shown tells initial revisions from the others, and of the others it tells the
message. -/
theorem shown_eq_iff : s.shown = t.shown ↔
    (s.revision = .initial ∧ t.revision = .initial) ∨
      (s.revision ≠ .initial ∧ t.revision ≠ .initial ∧ s.message = t.message) := by
  by_cases hs : s.revision = .initial
  · by_cases ht : t.revision = .initial
    · rw [shown_initial hs, shown_initial ht]
      exact iff_of_true rfl (.inl ⟨hs, ht⟩)
    · refine iff_of_false (shown_ne_of_initial hs ht) ?_
      rintro (⟨-, h⟩ | ⟨h, -⟩)
      · exact ht h
      · exact h hs
  · by_cases ht : t.revision = .initial
    · refine iff_of_false (shown_ne_of_initial ht hs).symm ?_
      rintro (⟨h, -⟩ | ⟨-, h, -⟩)
      · exact hs h
      · exact h ht
    · constructor
      · intro h
        have hmessage := congrArg messageIn h
        rw [messageIn_shown hs, messageIn_shown ht] at hmessage
        exact .inr ⟨hs, ht, hmessage⟩
      · rintro (⟨h, -⟩ | ⟨-, -, h⟩)
        · exact absurd h hs
        · rw [shown_of_ne_initial hs, shown_of_ne_initial ht, reported, reported, h]

end Settings

/-- **A demonstration tells its message and no more**: on a sink that takes everything, two
demonstrations leave the same bytes exactly if both revisions are initial, or neither is and the
messages are the same. Where the revision is not initial, the message can be read back. -/
theorem demonstrate_tells_message (s t : Settings) (sleeper sleeper' : Sleeper) {out : SinkId}
    {b : Bench} (h : (b.sink out).Accepts) :
    (s.left sleeper out b = t.left sleeper' out b ↔
      (s.revision = .initial ∧ t.revision = .initial) ∨
        (s.revision ≠ .initial ∧ t.revision ≠ .initial ∧ s.message = t.message)) ∧
      (s.revision ≠ .initial →
        messageIn ((s.left sleeper out b).drop (b.sink out).bytes.length) = s.message) := by
  rw [(s.bytes_demonstrate sleeper h).2, (t.bytes_demonstrate sleeper' h).2]
  constructor
  · rw [List.append_right_inj]
    exact Settings.shown_eq_iff
  · intro hs
    rw [List.drop_left]
    exact messageIn_shown hs

/-- The case of no message and of an empty one, with another delay and another name of the
revision: they are told apart. -/
theorem demonstrate_tells_empty_message :
    let s : Settings := { revision := .linked, delay := .ofMillis 5 }
    let t : Settings := { revision := .final, delay := .ofMillis 100, message := some "" }
    (({} : Bench).sink 0).Accepts ∧ s.left .clock 0 {} ≠ t.left .clock 0 {} := by
  intro s t
  have haccepts : (({} : Bench).sink 0).Accepts := Sink.accepts_default
  exact ⟨haccepts, (demonstrate_tells_message s t .clock .clock haccepts).1.not.mpr (by decide)⟩

end TraceTarget
