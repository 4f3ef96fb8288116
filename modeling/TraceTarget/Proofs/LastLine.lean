import Mathlib.Data.List.Induction
import TraceTarget.Proofs.Account
import TraceTarget.Proofs.Lockstep
import TraceTarget.Proofs.Printing

/-!
# The end of a counter's life

Whatever was done with a counter, and however that went, its life ends in the same way: it has its
sink write one line with its count and then flush, or does nothing at all. Nobody hears of a failure
but the log, and nobody else's things are touched.

- `Life`: what may have been done with a counter, with the number of tests among it.
- `Life.kept`: it still has the sink that it was made with, and its count tells the tests.
- `LastLine`: the three ways in which the last line may fare, request by request.
- `EndsLife`: what the end of a life leaves behind; `endsLife_retire` says that of any counter and
  any bench.
- `life_ends`: the same at the end of any life, and what becomes of a session.
-/

namespace TraceTarget

/-! ### Lives -/

/-- What may have been done with a counter, with the number of its tests so far. A run may have ended
in any way. -/
inductive Life (c : Counter) : Nat → Stage → Prop
  | made (b : Bench) : Life c 0 ⟨c, b⟩
  | tested {n : Nat} {s : Stage} (i : UInt32) : Life c n s →
    Life c (n + 1) ⟨(s.counter.test i s.bench).2.1, (s.counter.test i s.bench).2.2⟩
  | ran {n : Nat} {s : Stage} (d : Driver) (out : SinkId) : Life c n s →
    Life c (n + (d.attempted out d.moves s).countP Move.isTest) (d.run out s).2
  | changed {n : Nat} {s : Stage} (report : EndReport) : Life c n s →
    Life c n { s with counter := s.counter.withEndReport report }
  /-- Anything else may happen on the bench in the meantime. -/
  | meantime {n : Nat} {s : Stage} (b : Bench) : Life c n s → Life c n { s with bench := b }

/-- A counter that was tested so many times since it was another one. -/
structure Counter.Kept (c : Counter) (n : Nat) (c' : Counter) : Prop where
  sink : c'.sink = c.sink
  tracking : c'.tracking = c.tracking
  count : c'.count.toNat = c.countAfter n

namespace Counter.Kept

variable {c c' : Counter} {n : Nat}

theorem refl (c : Counter) : c.Kept 0 c :=
  ⟨rfl, rfl, count_advance c 0⟩

/-- More tests are counted on top of those before. -/
theorem advance (h : c.Kept n c') (k : Nat) : c.Kept (n + k) (c'.advance k) where
  sink := by rw [advance_sink, h.sink]
  tracking := by rw [advance_tracking, h.tracking]
  count := by
    have hcount := h.count
    rw [count_advance]
    unfold countAfter at hcount ⊢
    rw [h.tracking, hcount]
    split <;> omega

theorem withEndReport (h : c.Kept n c') (report : EndReport) : c.Kept n (c'.withEndReport report) :=
  ⟨h.sink, h.tracking, h.count⟩

end Counter.Kept

/-- Moves leave a counter with as many more tests as are among those that are attempted. -/
theorem Driver.enter_counter (d : Driver) (ms : List Move) (l : Ledger) :
    (ms.foldl d.enter l).counter = l.counter.advance (ms.countP Move.isTest) := by
  induction ms using List.reverseRecOn with
  | nil => rfl
  | append_singleton ms m ih =>
    rw [List.foldl_concat, List.countP_append]
    cases m with
    | test i => exact congrArg Counter.bump ih
    | _ => exact ih

/-- A run tests its counter as often as the moves that it attempts say. -/
theorem Driver.run_counter (d : Driver) (out : SinkId) (s : Stage) :
    (d.run out s).2.counter =
      s.counter.advance ((d.attempted out d.moves s).countP Move.isTest) := by
  rw [Session.run_snd]
  exact (congrArg Ledger.counter (d.performAll_ledger out d.moves s)).trans
    (d.enter_counter _ s.ledger)

/-- Whatever is done with a counter, it keeps its sink and counts its tests. -/
theorem Life.kept {c : Counter} {n : Nat} {s : Stage} (h : Life c n s) : c.Kept n s.counter := by
  induction h with
  | made b => exact .refl c
  | tested i _ ih =>
    rw [Counter.test_eq]
    exact ih.advance 1
  | ran d out _ ih =>
    rw [Driver.run_counter]
    exact ih.advance _
  | changed report _ ih => exact ih.withEndReport report
  | meantime b _ ih => exact ih

/-! ### The last line -/

/-- An event that tells of a failure at the end of a life, with the count and the fault. -/
structure TellsEnd (event : Event) (count : UInt32) (fault : Fault) : Prop where
  level : event.level = .error
  fields : event.fields = [("count", Text.decimal count.toNat)]
  message : event.message = "Failed to write destructor line: " ++ fault.message
  /-- Whatever run there was is over. -/
  span : event.span = none

/-- How a last line may fare between two states of a bench. There is one write of all of it, and one
flush if the write succeeds. -/
inductive LastLine (id : SinkId) (count : UInt32) (b b' : Bench) : Prop
  | shown {s : Sink} : (b.sink id).write (Line.destructor count).bytes = (.ok (), s) →
    s.flush = (.ok (), b'.sink id) →
    (b'.sink id).bytes = (b.sink id).bytes ++ (Line.destructor count).bytes →
    b'.journal = b.journal → LastLine id count b b'
  | unflushed {s : Sink} {fault : Fault} {event : Event} :
    (b.sink id).write (Line.destructor count).bytes = (.ok (), s) →
    s.flush = (.error fault, b'.sink id) →
    (b'.sink id).bytes = (b.sink id).bytes ++ (Line.destructor count).bytes →
    b'.journal = b.journal ++ [event] → TellsEnd event count fault → LastLine id count b b'
  | refused {n : Nat} {fault : Fault} {event : Event} :
    (b.sink id).write (Line.destructor count).bytes = (.error fault, b'.sink id) →
    (b'.sink id).bytes = (b.sink id).bytes ++ (Line.destructor count).bytes.take n →
    b'.journal = b.journal ++ [event] → TellsEnd event count fault → LastLine id count b b'

/-- What the end of a life leaves behind, given what the counter writes at its end, its sink and its
count. -/
structure EndsLife (report : EndReport) (id : SinkId) (count : UInt32) (b b' : Bench) : Prop where
  silent : report = .silent → b' = b
  spoken : report = .hexCount → LastLine id count b b'
  /-- No other sink is touched. -/
  others : OnlyAt id b.sink b'.sink
  exports : b'.exports = b.exports
  slept : b'.slept = b.slept

/-- An emission is a write and, if that succeeds, a flush. -/
theorem Sink.emit_cases (s : Sink) (bs : Text.Bytes) :
    (∃ s₁ s' result, s.write bs = (.ok (), s₁) ∧ s₁.flush = (result, s') ∧
        s.emit bs = (result, s') ∧ s'.bytes = s.bytes ++ bs) ∨
      ∃ s' fault n, s.write bs = (.error fault, s') ∧ s.emit bs = (.error fault, s') ∧
        s'.bytes = s.bytes ++ bs.take n := by
  rcases hwrite : s.write bs with ⟨fault | u, s₁⟩
  · obtain ⟨n, hbytes⟩ := (bytes_of_write_error hwrite).1
    refine .inr ⟨s₁, fault, n, rfl, ?_, hbytes⟩
    rw [emit, hwrite]
  · refine .inl ⟨s₁, s₁.flush.2, s₁.flush.1, rfl, rfl, ?_, ?_⟩
    · rw [emit, hwrite]
    · rw [bytes_flush, eq_take_of_write hwrite, bytes_take]

/-- What the end of a counter that speaks leaves at its sink and in the log. -/
theorem Counter.retire_speaking {c : Counter} {b : Bench} (h : c.endReport = .hexCount)
    {result : Except Fault Unit} {s : Sink}
    (hemit : (b.sink c.sink).emit (Line.destructor c.count).bytes = (result, s)) :
    (c.retire b).sink c.sink = s ∧ (c.retire b).journal = b.journal ++
      match result with
      | .ok _ => []
      | .error fault => [endFailure c.count fault] := by
  have hbench : b.emit c.sink (Line.destructor c.count).bytes = (result, b.withSink c.sink s) := by
    rw [Bench.emit, hemit]
  rw [retire, h, hbench]
  cases result with
  | ok u => exact ⟨Bench.sink_withSink_self .., (List.append_nil _).symm⟩
  | error fault => exact ⟨Bench.sink_withSink_self .., rfl⟩

/-- A counter that speaks at its end has its line written, and flushed unless that failed. -/
theorem lastLine_retire {c : Counter} (b : Bench) (h : c.endReport = .hexCount) :
    LastLine c.sink c.count b (c.retire b) := by
  rcases (b.sink c.sink).emit_cases (Line.destructor c.count).bytes with
    ⟨s₁, s', result, hwrite, hflush, hemit, hbytes⟩ | ⟨s', fault, n, hwrite, hemit, hbytes⟩
  · obtain ⟨hsink, hjournal⟩ := Counter.retire_speaking h hemit
    rw [← hsink] at hflush hbytes
    cases result with
    | ok u => exact .shown hwrite hflush hbytes (hjournal.trans (List.append_nil _))
    | error fault => exact .unflushed hwrite hflush hbytes hjournal ⟨rfl, rfl, rfl, rfl⟩
  · obtain ⟨hsink, hjournal⟩ := Counter.retire_speaking h hemit
    rw [← hsink] at hwrite hbytes
    exact .refused hwrite hbytes hjournal ⟨rfl, rfl, rfl, rfl⟩

/-- The end of a life touches no other sink than the counter's own. -/
theorem Counter.retire_onlyAt (c : Counter) (b : Bench) :
    OnlyAt c.sink b.sink (c.retire b).sink := by
  intro id hid
  have hother : (b.emit c.sink (Line.destructor c.count).bytes).2.sink id = b.sink id :=
    b.sink_emit_other _ hid
  unfold retire
  split
  · rfl
  · split <;> rename_i hemit <;> rw [hemit] at hother <;> exact hother

/-- The end of a life leaves no pause. -/
theorem Counter.retire_slept (c : Counter) (b : Bench) : (c.retire b).slept = b.slept := by
  unfold retire
  split
  · rfl
  · split <;> rename_i hemit <;> exact congrArg (fun r => (Prod.snd r).slept) hemit.symm

/-- The end of any counter's life, on any bench. -/
theorem endsLife_retire (c : Counter) (b : Bench) :
    EndsLife c.endReport c.sink c.count b (c.retire b) where
  silent h := by rw [Counter.retire, h]
  spoken := lastLine_retire b
  others := c.retire_onlyAt b
  exports := c.retire_exports b
  slept := c.retire_slept b

/-! ### Sessions -/

namespace Session

/-- More operations add their answers to those that were already obtained. -/
theorem steps_append (s : Session) (ops ops' : List Operation) :
    s.steps (ops ++ ops') = s.steps ops ++ (s.after ops).steps ops' := by
  induction ops generalizing s with
  | nil => rfl
  | cons op ops ih =>
    simp only [after_cons, List.cons_append, steps, ih]

/-- A session that loses the counter of a name loses nothing else. -/
structure Loses (s : Session) (name : String) (s' : Session) : Prop where
  gone : s'.counters.get? name = none
  others : ∀ name', name' ≠ name → s'.counters.get? name' = s.counters.get? name'
  sinks : s'.sinks = s.sinks
  drivers : s'.drivers = s.drivers
  fresh : s'.fresh = s.fresh

variable {s : Session} {name : String} {c : Counter}

theorem bench_retire (h : s.counters.get? name = some c) :
    (s.retire name).bench = c.retire s.bench := by
  rw [retire, h]

/-- A session loses a counter at the end of its life. -/
theorem loses_retire (h : s.counters.get? name = some c) : s.Loses name (s.retire name) where
  gone := s.retire_counters_self name
  others _ hname := s.retire_counters_other hname
  sinks := by rw [retire, h]
  drivers := by rw [retire, h]
  fresh := by rw [retire, h]

end Session

/-- A run that ends in a panic of its reporter has tested its counter ten times. -/
example : Life (.new 0) 10
    (((Driver.new .final).withReporter (.plain (.finish .panicked))).run 1 ⟨.new 0, {}⟩).2 :=
  .ran ((Driver.new .final).withReporter (.plain (.finish .panicked))) 1 (.made {})

end TraceTarget
