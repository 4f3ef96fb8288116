import TraceTarget.Session
import TraceTarget.Proofs.Ledger

/-!
# Actions that keep to some of the sinks

Everything that is done on a bench is done at a few of its sinks. What is at the others has no
influence on it, and stays as it is. The exported words, the recorded pauses and the log have no
influence either: they are only ever written, the last two at their ends.

- `Bench.AgreeOn`: two benches with the same at some sinks; there is nothing to say of the rest.
- `Bench.Adds`: pauses and events that came in addition.
- `Confined`: an action that keeps to some sinks. Its result, what it does to these sinks and what
  it adds are the same on any two benches that agree on them.
- `Confined.bind`: one confined action after another is confined.
- `confined_test`, `confined_retire`, `confined_report`, `confined_reportFunc`, `confined_run`: so
  is everything that the parties of a demonstration do, up to whole runs, however they end.
-/

namespace TraceTarget

/-! ### Confined actions -/

/-- The same at some of the sinks. -/
def Bench.AgreeOn (P : SinkId → Prop) (b b' : Bench) : Prop :=
  ∀ id, P id → b.sink id = b'.sink id

/-- More pauses are recorded and more is told to the log in the second of two states. -/
structure Bench.Adds (pauses : List Duration) (events : List Event) (b b' : Bench) : Prop where
  slept : b'.slept = b.slept ++ pauses
  journal : b'.journal = b.journal ++ events

theorem Bench.Adds.of_eq {b b' : Bench} (hslept : b'.slept = b.slept)
    (hjournal : b'.journal = b.journal) : Adds [] [] b b' where
  slept := hslept.trans (List.append_nil _).symm
  journal := hjournal.trans (List.append_nil _).symm

theorem Bench.Adds.trans {pauses pauses' : List Duration} {events events' : List Event}
    {b b₁ b' : Bench} (h : Adds pauses events b b₁) (h' : Adds pauses' events' b₁ b') :
    Adds (pauses ++ pauses') (events ++ events') b b' where
  slept := by rw [h'.slept, h.slept, List.append_assoc]
  journal := by rw [h'.journal, h.journal, List.append_assoc]

/-- An action on a bench that keeps to some of its sinks. -/
structure Confined {α : Type} (P : SinkId → Prop) (act : Bench → α × Bench) : Prop where
  /-- No other sink is touched. -/
  others : ∀ b id, ¬P id → (act b).2.sink id = b.sink id
  result : ∀ {b b'}, b.AgreeOn P b' → (act b).1 = (act b').1
  sinks : ∀ {b b'}, b.AgreeOn P b' → (act b).2.AgreeOn P (act b').2
  /-- What is added does not depend on what was there, nor does anything else. -/
  adds : ∀ {b b'}, b.AgreeOn P b' → ∃ pauses events,
    Bench.Adds pauses events b (act b).2 ∧ Bench.Adds pauses events b' (act b').2

namespace Confined

variable {α β : Type} {P : SinkId → Prop}

/-- Something may be noted on the bench without a sink. -/
theorem note (a : α) {f : Bench → Bench} {pauses : List Duration} {events : List Event}
    (hsinks : ∀ b, (f b).sinks = b.sinks) (hadds : ∀ b, Bench.Adds pauses events b (f b)) :
    Confined P fun b => (a, f b) := by
  have hsink (b : Bench) (id : SinkId) : (f b).sink id = b.sink id := by
    rw [Bench.sink, Bench.sink, hsinks]
  refine ⟨fun b id _ => hsink b id, fun _ => rfl, fun h id hid => ?_,
    fun {b b'} _ => ⟨pauses, events, hadds b, hadds b'⟩⟩
  show (f _).sink id = (f _).sink id
  rw [hsink, hsink, h id hid]

/-- Nothing needs to be done at all. -/
theorem pure (a : α) : Confined P fun b => (a, b) :=
  note a (f := id) (fun _ => rfl) fun _ => .of_eq rfl rfl

/-- A request to one of the sinks. -/
theorem request {id : SinkId} (hid : P id) (f : Sink → α × Sink) :
    Confined P fun b => ((f (b.sink id)).1, b.withSink id (f (b.sink id)).2) where
  others b id' hid' := by
    have hne : id' ≠ id := fun h => hid' (h ▸ hid)
    exact b.sink_withSink_other _ hne
  result h := by
    dsimp only
    rw [h id hid]
  sinks {b b'} h id' hid' := by
    by_cases hsame : id' = id
    · subst hsame
      simp [h id' hid]
    · simp [Bench.sink_withSink_other _ _ hsame, h id' hid']
  adds _ := ⟨[], [], .of_eq rfl rfl, .of_eq rfl rfl⟩

/-- One action after another. What the second one is depends on the result of the first. -/
theorem bind {act : Bench → α × Bench} {k : α → Bench → β × Bench} (h : Confined P act)
    (hk : ∀ b, Confined P (k (act b).1)) : Confined P fun b => k (act b).1 (act b).2 where
  others b id hid := ((hk b).others _ id hid).trans (h.others b id hid)
  result {b b'} hb := by
    rw [← h.result hb]
    exact (hk b).result (h.sinks hb)
  sinks {b b'} hb := by
    rw [← h.result hb]
    exact (hk b).sinks (h.sinks hb)
  adds {b b'} hb := by
    obtain ⟨pauses, events, hadds, hadds'⟩ := h.adds hb
    rw [← h.result hb]
    obtain ⟨pauses₁, events₁, hadds₁, hadds₁'⟩ := (hk b).adds (h.sinks hb)
    exact ⟨pauses ++ pauses₁, events ++ events₁, hadds.trans hadds₁, hadds'.trans hadds₁'⟩

theorem congr {act act' : Bench → α × Bench} (h : Confined P act) (hact : ∀ b, act b = act' b) :
    Confined P act' := by
  rwa [← funext hact]

/-- The result may be looked at in another way. -/
theorem map {act : Bench → α × Bench} (h : Confined P act) (g : α → β) :
    Confined P fun b => (g (act b).1, (act b).2) :=
  h.bind (k := fun a b => (g a, b)) fun b => pure (g (act b).1)

/-- How many pauses an action records may be part of what comes of it. -/
theorem timed {act : Bench → α × Bench} (h : Confined P act) :
    Confined P fun b => (((act b).1, (act b).2.slept.length - b.slept.length), (act b).2) where
  others := h.others
  result {b b'} hb := by
    -- the benches may have recorded different pauses before, but the same ones come in addition
    obtain ⟨pauses, events, hadds, hadds'⟩ := h.adds hb
    dsimp only
    rw [h.result hb, hadds.slept, hadds'.slept, List.length_append, List.length_append,
      Nat.add_sub_cancel_left, Nat.add_sub_cancel_left]
  sinks := h.sinks
  adds := h.adds

end Confined

/-! ### Sinks and counters -/

section Parties

variable {P : SinkId → Prop} {id : SinkId}

theorem confined_write (h : P id) (bs : Text.Bytes) : Confined P fun b => b.write id bs :=
  .request h (·.write bs)

theorem confined_flush (h : P id) : Confined P fun b => b.flush id :=
  .request h (·.flush)

theorem confined_emit (h : P id) (bs : Text.Bytes) : Confined P fun b => b.emit id bs :=
  .request h (·.emit bs)

/-- What is published is read by nobody. -/
theorem confined_publish (f : Exports → Exports) :
    Confined P fun b => ((), { b with exports := f b.exports }) :=
  .note () (fun _ => rfl) fun _ => .of_eq rfl rfl

/-- What the log is told is read by nobody. -/
theorem confined_log {α : Type} (a : α) (e : Event) : Confined P fun b => (a, b.log e) :=
  .note a (fun _ => rfl) fun _ => ⟨(List.append_nil _).symm, rfl⟩

/-- The free reporting function keeps to the sink it is given. -/
theorem confined_reportFunc (h : P id) (index : UInt32) :
    Confined P fun b => b.reportFunc id index :=
  (confined_publish fun e => { e with index := index.toUInt64 }).bind
    (k := fun _ b => b.emit id (Line.func index).bytes) fun _ => confined_emit h _

/-- A routine keeps to the sink it is given, whatever it does there. -/
theorem confined_script (h : P id) (s : Script) : Confined P fun b => s.run id b := by
  induction s with
  | finish ending => exact .pure ending
  | write bytes next ih =>
    exact (confined_write h bytes).bind (k := fun r b => (next r).run id b) fun b => ih _
  | flush next ih =>
    exact (confined_flush h).bind (k := fun r b => (next r).run id b) fun b => ih _

/-- So does a reporter. -/
theorem confined_report (h : P id) (r : Reporter) : Confined P fun b => r.report id b := by
  simp only [Reporter.report_eq_run_script]
  exact confined_script h r.script

variable {c : Counter}

/-- A test keeps to the counter's own sink. -/
theorem confined_test (h : P c.sink) (index : UInt32) :
    Confined P fun b => (((c.test index b).1, (c.test index b).2.1), (c.test index b).2.2) := by
  have hemit : Confined P fun b =>
      (b.publishCount c.bump.count).emit c.sink (Line.test index).bytes :=
    (confined_publish fun e => { e with count := c.bump.count.toUInt64 }).bind
      (k := fun _ b => b.emit c.sink (Line.test index).bytes) fun _ => confined_emit h _
  simp only [Counter.test_eq]
  exact hemit.map fun r => (r, c.bump)

/-- Several tests keep to it as well. -/
theorem confined_testMany (h : P c.sink) (index : UInt32) (times : Nat) :
    Confined P fun b => (((Session.testMany index times c b).1,
      (Session.testMany index times c b).2.1), (Session.testMany index times c b).2.2) := by
  induction times generalizing c with
  | zero => exact .pure (0, c)
  | succ n ih =>
    -- the other tests are made with the counter that the first one leaves, and it has its sink
    have hown (b : Bench) : P (c.test index b).2.1.sink := by
      rw [Counter.test_eq]
      simpa using h
    have hall := (confined_test h index).bind (k := fun r b =>
      (((Session.testMany index n r.2 b).1 + r.1.isOk.toNat,
        (Session.testMany index n r.2 b).2.1), (Session.testMany index n r.2 b).2.2)) fun b => by
      dsimp only
      exact (ih (hown b)).map fun q => (q.1 + (c.test index b).1.isOk.toNat, q.2)
    dsimp only at hall
    refine hall.congr fun b => ?_
    rw [Session.testMany]
    rcases c.test index b with ⟨_ | _, c', b'⟩ <;> rfl

/-- What follows the report of a counter's end. -/
def Counter.afterEndReport (c : Counter) : Except Fault Unit → Bench → Bench
  | .ok (), b => b
  | .error fault, b => b.log (endFailure c.count fault)

/-- The end of a counter's life keeps to its sink. -/
theorem confined_retire (h : P c.sink) : Confined P fun b => ((), c.retire b) := by
  unfold Counter.retire
  cases c.endReport with
  | silent => exact .pure ()
  | hexCount =>
    have hemit := (confined_emit h (Line.destructor c.count).bytes).bind
      (k := fun r b => ((), c.afterEndReport r b)) fun b => by
        cases (b.emit c.sink (Line.destructor c.count).bytes).1 with
        | ok u => exact .pure ()
        | error fault => exact confined_log () _
    refine hemit.congr fun b => ?_
    dsimp only
    rcases b.emit c.sink (Line.destructor c.count).bytes with ⟨_ | _, b'⟩ <;> rfl

/-! ### Runs -/

variable {out : SinkId}

/-- What follows a reporter, by how it ended. -/
def Driver.afterReport (out : SinkId) (c : Counter) :
    Ending → Bench → (Except Halt Unit × Counter) × Bench
  | .done, b => (((b.flush out).1.mapError Halt.reporter, c), (b.flush out).2)
  | .failed fault, b => ((.error (.reporter fault), c), b)
  | .panicked, b => ((.error .panicked, c), b)

/-- A move keeps to the sink of its driver and that of its counter. -/
theorem confined_perform (hout : P out) (hc : P c.sink) (d : Driver) (move : Move) :
    Confined P fun b => (((d.perform out move ⟨c, b⟩).1, (d.perform out move ⟨c, b⟩).2.counter),
      (d.perform out move ⟨c, b⟩).2.bench) := by
  cases move with
  | begin => exact confined_log (Except.ok (), c) (d.within d.startedEvent)
  | banner label line =>
    simp only [Driver.perform, Driver.settle_result, Driver.settle_counter, Driver.settle_bench]
    exact (confined_emit hout line.bytes).map fun r => (r.mapError (Halt.write label), c)
  | func i =>
    simp only [Driver.perform, Driver.settle_result, Driver.settle_counter, Driver.settle_bench]
    exact (confined_reportFunc hout i).map fun r => (r.mapError (Halt.write .funcLine), c)
  | test i =>
    have htest := (confined_test hc i).map fun r => (r.1.mapError (Halt.write .testLine), r.2)
    refine htest.congr fun b => ?_
    rw [Driver.perform]
    dsimp only
    generalize c.test i b = tested
    simp only [Driver.settle_result, Driver.settle_counter, Driver.settle_bench]
  | iterated i => exact confined_log (Except.ok (), c) (d.within (Driver.iterationEvent i c.count))
  | pause =>
    simp only [Driver.perform, Sleeper.sleep_eq]
    split
    · exact .note _ (fun _ => rfl) fun b => ⟨rfl, (List.append_nil _).symm⟩
    · exact .pure _
  | report =>
    have hreport := (confined_report hout d.reporter).bind (k := Driver.afterReport out c)
      fun b => by
        cases (d.reporter.report out b).1 with
        | done => exact (confined_flush hout).map fun r => (r.mapError Halt.reporter, c)
        | failed fault => exact .pure _
        | panicked => exact .pure _
    refine hreport.congr fun b => ?_
    rw [Driver.perform]
    dsimp only
    rcases d.reporter.report out b with ⟨_ | _ | _, b'⟩
    · simp only [Driver.afterReport, Driver.settle_result, Driver.settle_counter,
        Driver.settle_bench]
    · rfl
    · rfl
  | reported => exact confined_log (Except.ok (), c) (d.within Driver.reportedEvent)
  | done => exact confined_log (Except.ok (), c) (d.within (Driver.finishedEvent c.count))

/-- Moves made one after the other keep to the two sinks, however far they come. -/
theorem confined_performAll (hout : P out) (hc : P c.sink) (d : Driver) (ms : List Move) :
    Confined P fun b => (((d.performAll out ms ⟨c, b⟩).1,
      (d.performAll out ms ⟨c, b⟩).2.counter), (d.performAll out ms ⟨c, b⟩).2.bench) := by
  induction ms generalizing c with
  | nil => exact .pure (Except.ok (), c)
  | cons m ms ih =>
    -- a move leaves the counter with its sink, so the rest keeps to the same ones
    have hown (b : Bench) : P (d.perform out m ⟨c, b⟩).2.counter.sink := by
      rwa [Driver.perform_counter_sink]
    have hall := (confined_perform hout hc d m).bind (k := fun r b =>
      match r.1 with
      | .ok () => (((d.performAll out ms ⟨r.2, b⟩).1, (d.performAll out ms ⟨r.2, b⟩).2.counter),
          (d.performAll out ms ⟨r.2, b⟩).2.bench)
      | .error halt => ((Except.error halt, r.2), b)) fun b => by
        dsimp only
        cases (d.perform out m ⟨c, b⟩).1 with
        | ok u => exact ih (hown b)
        | error halt => exact .pure _
    refine hall.congr fun b => ?_
    simp only [Driver.performAll]
    rcases d.perform out m ⟨c, b⟩ with ⟨_ | _, s⟩ <;> rfl

/-- A run keeps to the two sinks, however it ends. -/
theorem confined_run (hout : P out) (hc : P c.sink) (d : Driver) :
    Confined P fun b => (((d.run out ⟨c, b⟩).1, (d.run out ⟨c, b⟩).2.counter),
      (d.run out ⟨c, b⟩).2.bench) := by
  refine ((confined_performAll hout hc d d.moves).map fun r =>
    (r.1.map fun _ =>
      (⟨d.revision, Line.iterations, r.2.count, d.revision.callsReporter⟩ : Summary),
      r.2)).congr fun b => ?_
  rw [Driver.run]
  rcases d.performAll out d.moves ⟨c, b⟩ with ⟨_ | _, s⟩ <;> rfl

end Parties

end TraceTarget
