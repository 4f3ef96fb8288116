import TraceTarget.Session

/-!
# Two names for one revision

The linked revision and the final one are the same under two names. Where one of them is put in
place of the other, everything that is done comes to the same, and only what shows a revision by its
name shows another name: summaries and drivers do, and so does the log, for a run tells it
everything in a span with the name.

- `Revision.latest`: the latest name under which a revision goes. The same is done to whatever holds
  or shows a revision: drivers and their summaries, settings, events and benches, sessions,
  operations and answers.
- `Driver.perform_latest`: a move comes to the same; `Driver.performAll_latest` and
  `Driver.run_latest`: so do moves one after the other and runs.
- `Session.step_latest`: one operation of a session; `Session.steps_latest`: any operations.
- `Driver.equipped_alike`: drivers of the two revisions that are equipped in the same way.
-/

namespace TraceTarget

/-! ### Putting the latest name -/

/-- The latest name under which a revision goes. -/
def Revision.latest : Revision → Revision
  | initial => initial
  | linked | final => final

/-- The latest name that goes for the same revision as a name does. -/
def latestName (name : String) : String :=
  if name = Revision.linked.name then Revision.final.name else name

/-- The same summary under the latest name of its revision. -/
def Summary.latest (s : Summary) : Summary :=
  { s with revision := s.revision.latest }

/-- The same driver for the latest name of its revision. -/
def Driver.latest (d : Driver) : Driver :=
  { d with revision := d.revision.latest }

/-- The same settings with the latest name of their revision. -/
def Settings.latest (s : Settings) : Settings :=
  { s with revision := s.revision.latest }

/-- The same span, with the latest name of the revision that it shows. -/
def Event.Span.latest (s : Event.Span) : Event.Span :=
  { s with
    fields := s.fields.map fun (name, value) =>
      (name, if name = "revision" then latestName value else value) }

/-- The same event, whose span shows the latest name. -/
def Event.latest (e : Event) : Event :=
  { e with span := e.span.map Event.Span.latest }

/-- The same bench, whose log shows the latest names. -/
def Bench.latest (b : Bench) : Bench :=
  { b with journal := b.journal.map Event.latest }

/-- The same stage, whose log shows the latest names. -/
def Stage.latest (s : Stage) : Stage :=
  { s with bench := s.bench.latest }

namespace Revision

@[simp] theorem latest_latest (r : Revision) : r.latest.latest = r.latest := by
  cases r <;> rfl

theorem name_latest (r : Revision) : r.latest.name = latestName r.name := by
  cases r <;> rfl

/-- The tables of the revisions have the same under both names. -/
theorem delay_latest (r : Revision) : r.latest.delay = r.delay := by
  cases r <;> rfl

theorem callsReporter_latest (r : Revision) : r.latest.callsReporter = r.callsReporter := by
  cases r <;> rfl

end Revision

/-- A counter does not know the name of its revision. -/
theorem Counter.forRevision_latest (sink : SinkId) (r : Revision) :
    forRevision sink r.latest = forRevision sink r := by
  cases r <;> rfl

/-! ### Benches -/

namespace Bench

variable (b : Bench)

theorem log_latest (e : Event) : b.latest.log e.latest = (b.log e).latest := by
  have hjournal : (b.journal ++ [e]).map Event.latest =
      b.journal.map Event.latest ++ [e.latest] := List.map_append
  rw [log, log, latest, latest, hjournal]

/-- What a sink is asked for does not show in the log. -/
theorem emit_latest (id : SinkId) (bs : Text.Bytes) :
    b.latest.emit id bs = ((b.emit id bs).1, (b.emit id bs).2.latest) := rfl

theorem reportFunc_latest (id : SinkId) (index : UInt32) :
    b.latest.reportFunc id index =
      ((b.reportFunc id index).1, (b.reportFunc id index).2.latest) := by
  have hpublish : b.latest.publishIndex index = (b.publishIndex index).latest := rfl
  rw [reportFunc, reportFunc, hpublish, emit_latest]

end Bench

theorem Script.run_latest (id : SinkId) (s : Script) (b : Bench) :
    s.run id b.latest = ((s.run id b).1, (s.run id b).2.latest) := by
  induction s generalizing b with
  | finish ending => rfl
  | write bytes next ih => exact ih _ (b.write id bytes).2
  | flush next ih => exact ih _ (b.flush id).2

theorem Reporter.report_latest (id : SinkId) (r : Reporter) (b : Bench) :
    r.report id b.latest = ((r.report id b).1, (r.report id b).2.latest) := by
  rw [report_eq_run_script, report_eq_run_script, Script.run_latest]

theorem Counter.test_latest (c : Counter) (index : UInt32) (b : Bench) :
    c.test index b.latest =
      ((c.test index b).1, (c.test index b).2.1, (c.test index b).2.2.latest) := by
  have hpublish : b.latest.publishCount c.bump.count = (b.publishCount c.bump.count).latest := rfl
  rw [test_eq, test_eq, hpublish, Bench.emit_latest]

/-- The end of a counter's life is told outside any span. -/
theorem Counter.retire_latest (c : Counter) (b : Bench) :
    c.retire b.latest = (c.retire b).latest := by
  rw [retire, retire, Bench.emit_latest]
  cases c.endReport with
  | silent => rfl
  | hexCount =>
    dsimp only
    rcases b.emit c.sink (Line.destructor c.count).bytes with ⟨fault | u, b'⟩
    · exact b'.log_latest (endFailure c.count fault)
    · rfl

/-! ### Runs -/

namespace Driver

theorem moves_latest (d : Driver) : d.latest.moves = d.moves := by
  have hcalls : d.latest.revision.callsReporter = d.revision.callsReporter :=
    d.revision.callsReporter_latest
  rw [moves, moves, hcalls]

/-- The span of a run shows the latest name if the driver has it. -/
theorem span_latest (d : Driver) : d.latest.span = d.span.latest := by
  have hname : d.latest.revision.name = latestName d.revision.name := d.revision.name_latest
  rw [span, hname]
  rfl

theorem tell_latest (d : Driver) (s : Stage) (e : Event) :
    d.latest.tell s.latest e = ((d.tell s e).1, (d.tell s e).2.latest) := by
  have hwithin : d.latest.within e = (d.within e).latest := by
    rw [within, span_latest]
    rfl
  have hlog := s.bench.log_latest (d.within e)
  rw [← hwithin] at hlog
  exact congrArg (fun b => (Except.ok (), { s with bench := b })) hlog

theorem settle_latest (s : Stage) (halt : Fault → Halt) (r : Except Fault Unit × Bench) :
    settle s.latest halt (r.1, r.2.latest) = ((settle s halt r).1, (settle s halt r).2.latest) := by
  rcases r with ⟨_ | _, b⟩ <;> rfl

/-- A move comes to the same, whatever the name of the revision is. -/
theorem perform_latest (d : Driver) (out : SinkId) (move : Move) (s : Stage) :
    d.latest.perform out move s.latest =
      ((d.perform out move s).1, (d.perform out move s).2.latest) := by
  cases move with
  | begin => exact d.tell_latest s d.startedEvent
  | banner label line =>
    simp only [perform, Stage.latest, Bench.emit_latest]
    exact settle_latest s (.write label) (s.bench.emit out line.bytes)
  | func index =>
    simp only [perform, Stage.latest, Bench.reportFunc_latest]
    exact settle_latest s (.write .funcLine) (s.bench.reportFunc out index)
  | test index =>
    have htest := s.counter.test_latest index s.bench
    simp only [perform, Stage.latest, htest]
    rcases s.counter.test index s.bench with ⟨result, c, b⟩
    exact settle_latest { s with counter := c } (.write .testLine) (result, b)
  | iterated index => exact d.tell_latest s (iterationEvent index s.counter.count)
  | pause =>
    simp only [perform, Sleeper.sleep_eq]
    show (_, Stage.mk _ (if d.sleeper.records then _ else _)) = _
    split <;> rfl
  | report =>
    have hreport := d.reporter.report_latest out s.bench
    simp only [perform, latest, Stage.latest, hreport]
    rcases d.reporter.report out s.bench with ⟨_ | _ | _, b⟩
    · exact settle_latest s .reporter (b.flush out)
    · rfl
    · rfl
  | reported => exact d.tell_latest s reportedEvent
  | done => exact d.tell_latest s (finishedEvent s.counter.count)

/-- So do moves made one after the other, however far they come. -/
theorem performAll_latest (d : Driver) (out : SinkId) (ms : List Move) (s : Stage) :
    d.latest.performAll out ms s.latest =
      ((d.performAll out ms s).1, (d.performAll out ms s).2.latest) := by
  induction ms generalizing s with
  | nil => rfl
  | cons m ms ih =>
    rw [performAll, performAll, perform_latest]
    rcases d.perform out m s with ⟨halt | u, s₁⟩
    · rfl
    · exact ih s₁

/-- A run comes to the same, up to the name of the revision in its summary and in the log. -/
theorem run_latest (d : Driver) (out : SinkId) (s : Stage) :
    d.latest.run out s.latest = ((d.run out s).1.map Summary.latest, (d.run out s).2.latest) := by
  have hcalls : d.latest.revision.callsReporter = d.revision.callsReporter :=
    d.revision.callsReporter_latest
  rw [run, run, moves_latest, performAll_latest, hcalls]
  rcases d.performAll out d.moves s with ⟨halt | u, s₁⟩ <;> rfl

/-- A summary shows the revision of its driver. -/
theorem run_result_latest {d : Driver} (h : d.latest = d) (out : SinkId) (s : Stage) :
    (d.run out s).1.map Summary.latest = (d.run out s).1 := by
  have hrevision : d.revision.latest = d.revision := congrArg revision h
  rw [run]
  rcases d.performAll out d.moves s with ⟨halt | u, s₁⟩
  · rfl
  · simp only [Except.map, Summary.latest, hrevision]

/-- A driver for a revision, with its delay or another one, a reporter and a sleeper. -/
def equipped (r : Revision) (delay : Option Duration) (reporter : Reporter) (sleeper : Sleeper) :
    Driver :=
  let d := match delay with
    | some delay => (new r).withDelay delay
    | none => new r
  (d.withReporter reporter).withSleeper sleeper

/-- The linked revision and the final one lead the same run, on whatever it is led and however far
it comes: but for the name of the revision in the log, the same is there after any number of moves,
and at the end. -/
theorem equipped_alike (delay : Option Duration) (reporter : Reporter) (sleeper : Sleeper)
    (out counterOut : SinkId) (b : Bench) :
    let linked := equipped .linked delay reporter sleeper
    let final := equipped .final delay reporter sleeper
    let s : Stage := ⟨.forRevision counterOut .linked, b⟩
    let s' : Stage := ⟨.forRevision counterOut .final, b⟩
    (∀ n, (final.performAll out (final.moves.take n) s').1 =
        (linked.performAll out (linked.moves.take n) s).1 ∧
      (final.performAll out (final.moves.take n) s').2.latest =
        (linked.performAll out (linked.moves.take n) s).2.latest) ∧
    (final.run out s').1 = (linked.run out s).1.map Summary.latest ∧
      (final.run out s').2.latest = (linked.run out s).2.latest := by
  intro linked final s s'
  have hfinal : final = linked.latest := by
    cases delay <;> rfl
  have hlatest : final.latest = final := by
    cases delay <;> rfl
  have hstage : s' = s := rfl
  rw [hstage]
  refine ⟨fun n => ?_, ?_⟩
  · -- both sides are what the final revision does where the log shows the latest names
    have hleft := final.performAll_latest out (final.moves.take n) s
    have hright := linked.performAll_latest out (linked.moves.take n) s
    rw [hlatest] at hleft
    rw [← hfinal, ← linked.moves_latest, ← hfinal, hleft] at hright
    rw [← linked.moves_latest, ← hfinal]
    exact Prod.mk.inj hright
  · have hleft := final.run_latest out s
    have hright := linked.run_latest out s
    rw [hlatest] at hleft
    rw [← hfinal, hleft] at hright
    obtain ⟨hresult, hafter⟩ := Prod.mk.inj hright
    rw [run_result_latest hlatest] at hresult
    exact ⟨hresult, hafter⟩

end Driver

/-! ### Sessions -/

/-- A registry with all values changed in the same way. -/
def Registry.map {κ α β : Type} (f : α → β) (r : Registry κ α) : Registry κ β :=
  ⟨r.entries.map fun e => (e.1, f e.2)⟩

section

variable {κ α β : Type} [DecidableEq κ]

theorem Registry.get?_map (f : α → β) (r : Registry κ α) (k : κ) :
    (r.map f).get? k = (r.get? k).map f := by
  obtain ⟨es⟩ := r
  show List.lookup k (es.map fun e => (e.1, f e.2)) = (List.lookup k es).map f
  induction es with
  | nil => rfl
  | cons e es ih =>
    rw [List.map_cons, List.lookup_cons, List.lookup_cons, ih]
    cases k == e.1 <;> rfl

theorem Registry.map_put (f : α → β) (r : Registry κ α) (k : κ) (v : α) :
    (r.put k v).map f = (r.map f).put k (f v) := by
  obtain ⟨es⟩ := r
  refine congrArg Registry.mk ?_
  show (putEntry k v es).map (fun e => (e.1, f e.2)) =
    putEntry k (f v) (es.map fun e => (e.1, f e.2))
  induction es with
  | nil => rfl
  | cons e es ih =>
    rw [List.map_cons, putEntry, putEntry, ← ih]
    split <;> rfl

end

namespace Session

/-- The same session with the latest names of its drivers' revisions, also in the log. -/
def latest (s : Session) : Session :=
  { s with bench := s.bench.latest, drivers := s.drivers.map Driver.latest }

/-- The same operation with the latest names of the revisions in it. -/
def Operation.latest : Operation → Operation
  | .makeCounter name sink revision ending =>
    .makeCounter name sink (revision.map Revision.latest) ending
  | .makeDriver name driver => .makeDriver name driver.latest
  | op => op

/-- The same answer with the latest names of the revisions in it. -/
def Answer.latest : Answer → Answer
  | .driver revision delay => .driver revision.latest delay
  | .ran result count pauses => .ran (result.map Summary.latest) count pauses
  | answer => answer

variable (s : Session)

theorem retire_latest (name : String) : s.latest.retire name = (s.retire name).latest := by
  have hcounters : s.latest.counters = s.counters := rfl
  rw [retire, retire, hcounters]
  cases s.counters.get? name with
  | none => rfl
  | some c =>
    have hbench : c.retire s.latest.bench = (c.retire s.bench).latest :=
      c.retire_latest s.bench
    dsimp only
    rw [hbench]
    rfl

/-- Several tests do not show in the log. -/
theorem testMany_latest (index : UInt32) (times : Nat) (c : Counter) (b : Bench) :
    testMany index times c b.latest = ((testMany index times c b).1,
      (testMany index times c b).2.1, (testMany index times c b).2.2.latest) := by
  induction times generalizing c b with
  | zero => rfl
  | succ n ih => simp only [testMany, Counter.test_latest, ih]

/-- An operation comes to the same under the latest names. -/
theorem step_latest (op : Operation) :
    s.latest.step op.latest = ((s.step op).1.latest, (s.step op).2.latest) := by
  have hcounters : s.latest.counters = s.counters := rfl
  have hsinks : s.latest.sinks = s.sinks := rfl
  have hbench : s.latest.bench = s.bench.latest := rfl
  cases op with
  | makeCounter name sink revision ending =>
    simp only [Operation.latest, step, hsinks, retire_latest]
    cases s.sinks.get? sink with
    | none => rfl
    | some id =>
      cases revision with
      | none => rfl
      | some r =>
        simp only [Option.map_some, Counter.forRevision_latest]
        rfl
  | test name index =>
    simp only [Operation.latest, step, hcounters, hbench, Counter.test_latest]
    cases s.counters.get? name <;> rfl
  | tests name index times =>
    simp only [Operation.latest, step, hcounters, hbench, testMany_latest]
    cases s.counters.get? name <;> rfl
  | setEndReport name report =>
    simp only [Operation.latest, step, hcounters]
    cases s.counters.get? name <;> rfl
  | retire name =>
    simp only [Operation.latest, step, hcounters, retire_latest]
    cases s.counters.get? name <;> rfl
  | func sink index =>
    simp only [Operation.latest, step, hsinks, hbench, Bench.reportFunc_latest]
    cases s.sinks.get? sink <;> rfl
  | report sink reporter =>
    simp only [Operation.latest, step, hsinks, hbench, Reporter.report_latest]
    cases s.sinks.get? sink <;> rfl
  | makeDriver name driver =>
    have hput : (s.drivers.put name driver).map Driver.latest =
        (s.drivers.map Driver.latest).put name driver.latest :=
      Registry.map_put Driver.latest s.drivers name driver
    simp only [Operation.latest, step, latest, Answer.latest, hput]
    rfl
  | run driver counter sink =>
    have hdriver : s.latest.drivers.get? driver = (s.drivers.get? driver).map Driver.latest :=
      Registry.get?_map Driver.latest s.drivers driver
    simp only [Operation.latest, step, hdriver, hcounters, hsinks]
    cases s.drivers.get? driver with
    | none => rfl
    | some d =>
      cases s.counters.get? counter with
      | none => rfl
      | some c =>
        cases s.sinks.get? sink with
        | none => rfl
        | some id =>
          have hrun : d.latest.run id ⟨c, s.latest.bench⟩ = _ := d.run_latest id ⟨c, s.bench⟩
          simp only [Option.map_some, hrun]
          rfl
  | openSink name sink => rfl
  | enterFunc index => rfl
  | enterTest index count => rfl
  | poke index count => rfl
  | sleep delay => rfl

/-- So do any operations. -/
theorem steps_latest (ops : List Operation) :
    s.latest.steps (ops.map Operation.latest) =
      (s.steps ops).map fun (answer, u) => (answer.latest, u.latest) := by
  induction ops generalizing s with
  | nil => rfl
  | cons op ops ih => simp only [List.map_cons, steps, step_latest, ih]

/-- So does the end of a session. -/
theorem close_latest : s.latest.close = s.close.latest :=
  List.foldl_hom latest fun s name => retire_latest s name

variable {s} {t : Session} {ops ops' : List Operation}

/-- Sessions and operations that are the same but for names come to the same but for names. -/
theorem steps_alike (h : s.latest = t.latest)
    (hops : ops.map Operation.latest = ops'.map Operation.latest) :
    (s.steps ops).map (fun (answer, u) => (answer.latest, u.latest)) =
      (t.steps ops').map fun (answer, u) => (answer.latest, u.latest) := by
  rw [← steps_latest, ← steps_latest, h, hops]

theorem close_alike (h : s.latest = t.latest) : s.close.latest = t.close.latest := by
  rw [← close_latest, ← close_latest, h]

end Session

end TraceTarget
