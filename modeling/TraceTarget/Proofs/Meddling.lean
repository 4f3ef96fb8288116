import TraceTarget.Proofs.Parties

/-!
# The exported words only mirror

A debugger may overwrite the exported words whenever it likes, or call the two entry points at which
they are published. The program never notices, since it writes the words and does not read them: all
that is done comes to the same, and the next time that a word is published it is right again.

- `Bench.SameButWords`, `Session.SameButWords`: two states with the same in them, but for the words.
- `Confined.blind`: an action that keeps to some sinks does not see the words.
- `Session.step_blind`: nor does any operation, or the end of a session (`Session.close_blind`).
- `Session.undisturbed`: what the operations come to that somebody meddles with.
- `Driver.runMeddled`: a run in which the words are overwritten before every move.
- `words_only_mirror`: meddling changes nothing, and does not last.
-/

namespace TraceTarget

open Session (Operation Answer Change)

/-! ### States that differ in the words -/

/-- Two benches with the same on them, except for the exported words. -/
structure Bench.SameButWords (b b' : Bench) : Prop where
  sink : ∀ id, b'.sink id = b.sink id
  slept : b'.slept = b.slept
  journal : b'.journal = b.journal

/-- Two stages with the same counter and the same on their benches, except for the words. -/
structure Stage.SameButWords (s t : Stage) : Prop where
  counter : t.counter = s.counter
  bench : s.bench.SameButWords t.bench

/-- Two sessions with the same in them, except for the words. -/
structure Session.SameButWords (s t : Session) : Prop where
  bench : s.bench.SameButWords t.bench
  fresh : t.fresh = s.fresh
  sinks : t.sinks = s.sinks
  counters : t.counters = s.counters
  drivers : t.drivers = s.drivers

namespace Bench.SameButWords

variable {b b' b₁ : Bench}

theorem refl (b : Bench) : b.SameButWords b :=
  ⟨fun _ => rfl, rfl, rfl⟩

theorem trans (h : b.SameButWords b₁) (h' : b₁.SameButWords b') : b.SameButWords b' where
  sink id := (h'.sink id).trans (h.sink id)
  slept := h'.slept.trans h.slept
  journal := h'.journal.trans h.journal

/-- The words may be overwritten with anything. -/
theorem overwrite (h : b.SameButWords b') (e : Exports) :
    b.SameButWords { b' with exports := e } :=
  ⟨h.sink, h.slept, h.journal⟩

end Bench.SameButWords

/-- An action that keeps to some of the sinks does not see the words. -/
theorem Confined.blind {α : Type} {P : SinkId → Prop} {act : Bench → α × Bench}
    (hact : Confined P act) (hP : ∀ id, P id) {b b' : Bench} (h : b.SameButWords b') :
    (act b').1 = (act b).1 ∧ (act b).2.SameButWords (act b').2 := by
  have hagree : b'.AgreeOn P b := fun id _ => h.sink id
  obtain ⟨pauses, events, hadds', hadds⟩ := hact.adds hagree
  refine ⟨hact.result hagree, fun id => hact.sinks hagree id (hP id), ?_, ?_⟩
  · rw [hadds'.slept, hadds.slept, h.slept]
  · rw [hadds'.journal, hadds.journal, h.journal]

/-! ### Operations -/

/-- A single party owns everything. -/
def Owners.everything : Owners Unit where
  counter _ := ()
  driver _ := ()
  sink _ := ()
  sinkId _ := ()

namespace Session

variable {s t u : Session}

theorem SameButWords.refl (s : Session) : s.SameButWords s :=
  ⟨.refl s.bench, rfl, rfl, rfl, rfl⟩

/-- Meddling leaves everything but the words. -/
theorem SameButWords.meddle (h : s.SameButWords t) {op : Operation} (hop : op.meddles = true) :
    s.SameButWords (t.step op).2 := by
  cases op with
  | enterFunc index => exact { h with bench := h.bench.overwrite _ }
  | enterTest index count => exact { h with bench := h.bench.overwrite _ }
  | poke index count => exact { h with bench := h.bench.overwrite _ }
  | _ => cases hop

/-- Changes that are made in both sessions leave them the same. -/
theorem SameButWords.changed (h : s.SameButWords t) {b b' : Bench} (hb : b.SameButWords b')
    (xs : List Change) : (s.changed b xs).SameButWords (t.changed b' xs) := by
  have hstart : SameButWords { s with bench := b } { t with bench := b' } := { h with bench := hb }
  refine List.foldl_rel hstart fun x _ s' t' h' => ?_
  cases x with
  | putCounter name c => exact { h' with counters := congrArg (·.put name c) h'.counters }
  | eraseCounter name => exact { h' with counters := congrArg (·.erase name) h'.counters }
  | putDriver name d => exact { h' with drivers := congrArg (·.put name d) h'.drivers }

/-- Whatever an operation comes to, it comes to the same when only the words are different. -/
theorem carries_blind {op : Operation} (h : s.SameButWords t)
    (hop : ∃ act, Owners.everything.Carries () s op act) :
    (t.step op).1 = (s.step op).1 ∧ (s.step op).2.SameButWords (t.step op).2 := by
  obtain ⟨act, hact⟩ := hop
  have hsame : Owners.everything.Same () s t :=
    { counters := fun name _ => congrArg (·.get? name) h.counters.symm
      drivers := fun name _ => congrArg (·.get? name) h.drivers.symm
      sinks := fun name _ => congrArg (·.get? name) h.sinks.symm
      bench := fun id _ => (h.bench.sink id).symm }
  obtain ⟨hresult, hbench⟩ := hact.confined.blind (fun _ => rfl) h.bench
  rw [hact.step t hsame, hact.step s (.refl _ _ s), hresult]
  exact ⟨rfl, h.changed hbench _⟩

/-- An operation comes to the same when only the words are different. -/
theorem step_blind (h : s.SameButWords t) (op : Operation) :
    (t.step op).1 = (s.step op).1 ∧ (s.step op).2.SameButWords (t.step op).2 := by
  have hapart : Owners.everything.Apart s := ⟨fun _ => rfl, fun _ => rfl⟩
  cases op with
  | openSink name sink =>
    -- the numbers of sinks are no part of what parties own, so a new one is looked at by itself
    refine ⟨rfl, ⟨fun id => ?_, h.bench.slept, h.bench.journal⟩, congrArg (· + 1) h.fresh, ?_,
      h.counters, h.drivers⟩
    · show (t.bench.withSink t.fresh sink).sink id = (s.bench.withSink s.fresh sink).sink id
      rw [h.fresh]
      by_cases hid : id = s.fresh
      · rw [hid, Bench.sink_withSink_self, Bench.sink_withSink_self]
      · rw [Bench.sink_withSink_other _ _ hid, Bench.sink_withSink_other _ _ hid, h.bench.sink]
    · show t.sinks.put name t.fresh = s.sinks.put name s.fresh
      rw [h.sinks, h.fresh]
  | sleep delay =>
    have hslept : t.bench.slept ++ [delay] = s.bench.slept ++ [delay] := by rw [h.bench.slept]
    exact ⟨congrArg Answer.slept hslept,
      { h with bench := ⟨h.bench.sink, hslept, h.bench.journal⟩ }⟩
  | _ => exact carries_blind h (Owners.exists_carries hapart (by simp [Owners.Allows]))

/-- The end of a counter's life is an operation. -/
theorem step_retire (s : Session) (name : String) : (s.step (.retire name)).2 = s.retire name := by
  rw [step]
  split
  · next hnone => rw [retire, hnone]
  · rfl

/-- So does the end of a session. -/
theorem close_blind (h : s.SameButWords t) : s.close.SameButWords t.close := by
  unfold close
  rw [h.counters]
  refine List.foldl_rel h fun name _ s' t' h' => ?_
  have hone := (step_blind h' (.retire name)).2
  rwa [step_retire, step_retire] at hone

/-! ### Sessions that somebody meddles with -/

/-- What operations come to, each with its answer and the state it led to, where somebody meddles
with them: what the meddling itself comes to is left out. -/
def undisturbed (s : Session) : List Operation → List (Answer × Session)
  | [] => []
  | op :: ops =>
    if op.meddles then (s.step op).2.undisturbed ops
    else s.step op :: (s.step op).2.undisturbed ops

/-- The operations among which somebody meddles. -/
def unmeddled (ops : List Operation) : List Operation :=
  ops.filter fun op => !op.meddles

/-- An answer is the same, and so is the state that it comes with, except for the words. -/
def SameOutcome (p q : Answer × Session) : Prop :=
  q.1 = p.1 ∧ p.2.SameButWords q.2

/-- Operations come to the same, whoever meddles in between. -/
theorem undisturbed_blind (h : s.SameButWords t) (ops : List Operation) :
    List.Forall₂ SameOutcome (s.steps (unmeddled ops)) (t.undisturbed ops) ∧
      (s.after (unmeddled ops)).SameButWords (t.after ops) := by
  induction ops generalizing s t with
  | nil => exact ⟨.nil, h⟩
  | cons op ops ih =>
    rw [undisturbed, after_cons]
    by_cases hop : op.meddles = true
    · have hskip : unmeddled (op :: ops) = unmeddled ops := List.filter_cons_of_neg (by simp [hop])
      rw [if_pos hop, hskip]
      exact ih (h.meddle hop)
    · have hkeep : unmeddled (op :: ops) = op :: unmeddled ops :=
        List.filter_cons_of_pos (by simp [hop])
      have hone := step_blind h op
      obtain ⟨hrest, hafter⟩ := ih hone.2
      rw [if_neg hop, hkeep, steps, after_cons]
      exact ⟨.cons hone hrest, hafter⟩

end Session

/-! ### Runs that somebody meddles with -/

/-- The stage after the exported words were overwritten. -/
def Stage.overwrite (s : Stage) (f : Exports → Exports) : Stage :=
  { s with bench := { s.bench with exports := f s.bench.exports } }

namespace Driver

variable {s t : Stage}

/-- Makes moves one after the other until one of them fails, with the exported words overwritten
before each. -/
def performMeddled (d : Driver) (out : SinkId) :
    List ((Exports → Exports) × Move) → Stage → Except Halt Unit × Stage
  | [], s => (.ok (), s)
  | (f, move) :: rest, s =>
    match d.perform out move (s.overwrite f) with
    | (.ok (), s) => d.performMeddled out rest s
    | (.error halt, s) => (.error halt, s)

/-- A run with the exported words overwritten before each move, in a way of its own each time. -/
def runMeddled (d : Driver) (out : SinkId) (meddle : Nat → Exports → Exports) (s : Stage) :
    Except Halt Summary × Stage :=
  match d.performMeddled out (d.moves.zipIdx.map fun (move, i) => (meddle i, move)) s with
  | (.ok (), s) =>
    (.ok ⟨d.revision, Line.iterations, s.counter.count, d.revision.callsReporter⟩, s)
  | (.error halt, s) => (.error halt, s)

/-- A move comes to the same when only the words are different. -/
theorem perform_blind (h : s.SameButWords t) (d : Driver) (out : SinkId) (move : Move) :
    (d.perform out move t).1 = (d.perform out move s).1 ∧
      (d.perform out move s).2.SameButWords (d.perform out move t).2 := by
  obtain ⟨c, b⟩ := s
  obtain ⟨c', b'⟩ := t
  obtain rfl : c' = c := h.counter
  -- a move is confined to any sinks, as long as all of them are allowed
  let anywhere : SinkId → Prop := fun _ => True
  have hout : anywhere out := trivial
  have hact := confined_perform (c := c') hout trivial d move
  obtain ⟨hresult, hbench⟩ := hact.blind (fun _ => trivial) h.bench
  obtain ⟨hresult, hcounter⟩ := Prod.mk.inj hresult
  exact ⟨hresult, hcounter, hbench⟩

/-- So do moves made one after the other, whoever meddles in between. -/
theorem performMeddled_blind (h : s.SameButWords t) (d : Driver) (out : SinkId)
    (ms : List ((Exports → Exports) × Move)) :
    (d.performMeddled out ms t).1 = (d.performAll out (ms.map Prod.snd) s).1 ∧
      (d.performAll out (ms.map Prod.snd) s).2.SameButWords (d.performMeddled out ms t).2 := by
  induction ms generalizing s t with
  | nil => exact ⟨rfl, h⟩
  | cons m ms ih =>
    obtain ⟨f, move⟩ := m
    have hstart : s.SameButWords (t.overwrite f) := { h with bench := h.bench.overwrite _ }
    obtain ⟨hresult, hafter⟩ := perform_blind hstart d out move
    rw [performMeddled, List.map_cons, performAll]
    rcases hs : d.perform out move s with ⟨halt | u, s₁⟩ <;>
      rcases ht : d.perform out move (t.overwrite f) with ⟨halt' | u', t₁⟩ <;>
        rw [hs, ht] at hresult hafter
    · cases hresult
      exact ⟨rfl, hafter⟩
    · cases hresult
    · cases hresult
    · exact ih hafter

/-- A run comes to the same, whoever meddles with it. -/
theorem runMeddled_blind (h : s.SameButWords t) (d : Driver) (out : SinkId)
    (meddle : Nat → Exports → Exports) :
    (d.runMeddled out meddle t).1 = (d.run out s).1 ∧
      (d.run out s).2.SameButWords (d.runMeddled out meddle t).2 := by
  have hmoves : (d.moves.zipIdx.map fun (move, i) => (meddle i, move)).map Prod.snd = d.moves := by
    rw [List.map_map]
    exact List.zipIdx_map_fst 0 d.moves
  have hall := performMeddled_blind h d out
    (d.moves.zipIdx.map fun (move, i) => (meddle i, move))
  rw [hmoves] at hall
  rw [runMeddled, run]
  generalize d.performAll out d.moves s = plain, d.performMeddled out _ t = meddled at hall ⊢
  obtain ⟨result, s₁⟩ := plain
  obtain ⟨result', t₁⟩ := meddled
  obtain ⟨hresult, hafter⟩ := hall
  obtain rfl : result' = result := hresult
  cases result' with
  | error halt => exact ⟨rfl, hafter⟩
  | ok u =>
    have hcount : t₁.counter = s₁.counter := hafter.counter
    have hsummary : (⟨d.revision, Line.iterations, t₁.counter.count, d.revision.callsReporter⟩ :
        Summary) = ⟨d.revision, Line.iterations, s₁.counter.count, d.revision.callsReporter⟩ := by
      rw [hcount]
    exact ⟨congrArg Except.ok hsummary, hafter⟩

end Driver

/-! ### All of it -/

/-- **The exported words only mirror**: whoever overwrites them or enters where they are published,
before, between and after any operations or before any moves of a run, everything else comes to the
same, up to the end of the session. Every test publishes the count that it leaves, every call of the
free reporting function its index, whether or not the line can be printed; so after any operations
that nobody meddles with, the words hold what was published last, whatever was in them before. -/
theorem words_only_mirror (s : Session) (ops : List Operation) :
    List.Forall₂ Session.SameOutcome (s.steps (Session.unmeddled ops)) (s.undisturbed ops) ∧
      (s.after (Session.unmeddled ops)).SameButWords (s.after ops) ∧
      (s.after (Session.unmeddled ops)).close.SameButWords (s.after ops).close ∧
      (∀ (d : Driver) (out : SinkId) (meddle : Nat → Exports → Exports) (st : Stage),
        (d.runMeddled out meddle st).1 = (d.run out st).1 ∧
          (d.run out st).2.SameButWords (d.runMeddled out meddle st).2) ∧
      (∀ (c : Counter) (index : UInt32) (b : Bench),
        (c.test index b).2.2.exports =
          { b.exports with count := (c.test index b).2.1.count.toUInt64 }) ∧
      (∀ (b : Bench) (id : SinkId) (index : UInt32),
        (b.reportFunc id index).2.exports = { b.exports with index := index.toUInt64 }) ∧
      ∀ later, (∀ op ∈ later, op.meddles = false) →
        ((s.after ops).after later).bench.exports = (s.after ops).bench.exports.published
          ((s.after ops).last? Session.index? later) ((s.after ops).last? Session.count? later) := by
  obtain ⟨hsteps, hafter⟩ := Session.undisturbed_blind (.refl s) ops
  refine ⟨hsteps, hafter, Session.close_blind hafter, fun d out meddle st => ?_,
    fun c index b => ?_, fun _ _ _ => rfl, fun later hlater => Session.exports_after hlater⟩
  · exact Driver.runMeddled_blind ⟨rfl, .refl st.bench⟩ d out meddle
  · exact c.test_exports index b

end TraceTarget
