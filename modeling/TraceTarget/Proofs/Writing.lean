import TraceTarget.Proofs.FirstFailure

/-!
# Routines that leave the flushing to others

Where a sink takes every byte, it does not matter what a routine would do about a write that fails.
A routine that writes, ends well and does not flush does there what a routine does that prints.

- `Sink.TakesAll`: a sink that takes every byte; its flushes may fail.
- `Script.Writes`: a routine that writes these bytes and ends well, as long as no write fails.
- `Script.giveUp`: the same routine, giving up at the first write that fails.
- `Driver.steadied`: the same driver with such a reporter; `run_steadied` says that its runs are the
  same.
- `Driver.course_of_writes`: hence how a run goes whose reporter writes.
-/

namespace TraceTarget

/-! ### Sinks that take every byte -/

/-- A sink that takes every byte. What it makes of a flush is another matter. -/
def Sink.TakesAll (s : Sink) : Prop :=
  ∀ past bs, s.behaviour.onWrite past bs = none

namespace Sink

variable {s s' : Sink} {bs : Text.Bytes}

theorem TakesAll.write (h : s.TakesAll) (bs : Text.Bytes) : s.write bs = (.ok (), s.take bs) := by
  unfold Sink.write
  split
  · next hnil => rw [hnil, take_nil]
  · rw [h]

theorem TakesAll.take (h : s.TakesAll) (bs : Text.Bytes) : (s.take bs).TakesAll := h

/-- No bytes are refused, in however many pieces they come. -/
theorem TakesAll.not_refuses {fault : Fault} (h : s.TakesAll) : ¬Refuses bs s s' fault := by
  rintro ⟨done, piece, rest, s₁, -, htakes, hwrite⟩
  have hall : s₁.TakesAll := by
    rw [htakes.eq_take]
    exact h.take done
  rw [hall.write piece] at hwrite
  cases hwrite

/-! ### How a sink answers never changes -/

@[simp] theorem behaviour_write (s : Sink) (bs : Text.Bytes) :
    (s.write bs).2.behaviour = s.behaviour := by
  unfold write
  split
  · rfl
  · split <;> rfl

@[simp] theorem behaviour_flush (s : Sink) : s.flush.2.behaviour = s.behaviour := by
  rw [flush_snd]

@[simp] theorem behaviour_emit (s : Sink) (bs : Text.Bytes) :
    (s.emit bs).2.behaviour = s.behaviour := by
  have hwrite := s.behaviour_write bs
  unfold emit
  rcases hs : s.write bs with ⟨fault | u, s₁⟩
  · rwa [hs] at hwrite
  · rw [hs] at hwrite
    exact (behaviour_flush s₁).trans hwrite

end Sink

/-- Each sink answers as it did before. -/
def SameBehaviour (σ τ : SinkId → Sink) : Prop :=
  ∀ id, (τ id).behaviour = (σ id).behaviour

namespace SameBehaviour

variable {σ σ₁ τ : SinkId → Sink}

theorem trans (h : SameBehaviour σ σ₁) (h' : SameBehaviour σ₁ τ) : SameBehaviour σ τ :=
  fun id => (h' id).trans (h id)

/-- Where one sink is touched, it is enough to look at that one. -/
theorem of_onlyAt {id : SinkId} (honly : OnlyAt id σ τ)
    (h : (τ id).behaviour = (σ id).behaviour) : SameBehaviour σ τ := by
  intro id'
  by_cases hid : id' = id
  · rw [hid, h]
  · rw [honly id' hid]

theorem takesAll (h : SameBehaviour σ τ) {id : SinkId} (hall : (σ id).TakesAll) :
    (τ id).TakesAll := by
  intro past bs
  rw [h id]
  exact hall past bs

end SameBehaviour

/-- Where something lands, the sink answers as before. -/
theorem Emission.Lands.behaviour {e : Emission} {s s' : Sink} (h : e.Lands s s') :
    s'.behaviour = s.behaviour := by
  obtain ⟨-, s₁, htakes, hflush⟩ := h
  have hs' : s₁.flush.2 = s' := congrArg Prod.snd hflush
  rw [← hs', Sink.behaviour_flush, htakes.eq_take]
  rfl

theorem Delivered.sameBehaviour {es : List Emission} {σ τ : SinkId → Sink}
    (h : Delivered es σ τ) : SameBehaviour σ τ := by
  induction h with
  | nil σ => exact fun _ => rfl
  | cons hlands honly _ ih => exact (SameBehaviour.of_onlyAt honly hlands.behaviour).trans ih

namespace Bench

variable (b : Bench) (id : SinkId)

theorem sameBehaviour_write (bs : Text.Bytes) : SameBehaviour b.sink (b.write id bs).2.sink := by
  have hsink : (b.write id bs).2.sink id = ((b.sink id).write bs).2 := sink_withSink_self ..
  refine .of_onlyAt (fun _ h => b.sink_write_other bs h) ?_
  rw [hsink, Sink.behaviour_write]

theorem sameBehaviour_flush : SameBehaviour b.sink (b.flush id).2.sink := by
  have hsink : (b.flush id).2.sink id = (b.sink id).flush.2 := sink_withSink_self ..
  refine .of_onlyAt (fun _ h => b.sink_flush_other h) ?_
  rw [hsink, Sink.behaviour_flush]

theorem sameBehaviour_emit (bs : Text.Bytes) : SameBehaviour b.sink (b.emit id bs).2.sink := by
  have hsink : (b.emit id bs).2.sink id = ((b.sink id).emit bs).2 := sink_withSink_self ..
  refine .of_onlyAt (fun _ h => b.sink_emit_other bs h) ?_
  rw [hsink, Sink.behaviour_emit]

end Bench

theorem Script.sameBehaviour_run (id : SinkId) (s : Script) (b : Bench) :
    SameBehaviour b.sink (s.run id b).2.sink := by
  induction s generalizing b with
  | finish ending => exact fun _ => rfl
  | write bytes next ih => exact (b.sameBehaviour_write id bytes).trans (ih _ _)
  | flush next ih => exact (b.sameBehaviour_flush id).trans (ih _ _)

/-- No move changes how the sinks answer. -/
theorem Driver.sameBehaviour_perform (d : Driver) (out : SinkId) (move : Move) (s : Stage) :
    SameBehaviour s.bench.sink (d.perform out move s).2.bench.sink := by
  cases move with
  | banner label line =>
    rw [perform, settle_bench]
    exact s.bench.sameBehaviour_emit out line.bytes
  | func i =>
    rw [perform, settle_bench]
    exact (s.bench.publishIndex i).sameBehaviour_emit out (Line.func i).bytes
  | test i =>
    rw [perform_test, settle_bench]
    exact (s.bench.publishCount s.counter.bump.count).sameBehaviour_emit s.counter.sink
      (Line.test i).bytes
  | report =>
    have hrun := d.reporter.script.sameBehaviour_run out s.bench
    rw [perform, Reporter.report_eq_run_script]
    rcases hb : d.reporter.script.run out s.bench with ⟨_ | _ | _, bench⟩ <;> rw [hb] at hrun
    · rw [settle_bench]
      exact hrun.trans (bench.sameBehaviour_flush out)
    · exact hrun
    · exact hrun
  | pause =>
    rw [perform, Sleeper.sleep_eq]
    split <;> exact fun _ => rfl
  | begin => exact fun _ => rfl
  | iterated i => exact fun _ => rfl
  | reported => exact fun _ => rfl
  | done => exact fun _ => rfl

/-! ### Routines that write -/

namespace Script

/-- A routine that writes these bytes in pieces, ends well and does not flush, as long as no write
fails. What it does after a write that fails is not said. -/
inductive Writes : Script → Text.Bytes → Prop
  | finish : Writes (.finish .done) []
  | write {piece rest : Text.Bytes} {next : Except Fault Unit → Script} :
    Writes (next (.ok ())) rest → Writes (.write piece next) (piece ++ rest)

/-- The same routine, giving up at the first write that fails. -/
def giveUp : Script → Script
  | .finish ending => .finish ending
  | .write bytes next => .print bytes (next (.ok ())).giveUp
  | .flush next => .flush fun result => (next result).giveUp

variable {s : Script} {text : Text.Bytes}

/-- A routine that prints and ends well is one that writes. -/
theorem Prints.writes {ending : Ending} (h : s.Prints text ending) (hend : ending = .done) :
    s.Writes text := by
  induction h with
  | finish ending =>
    rw [hend]
    exact .finish
  | write _ _ ih => exact .write (ih hend)

/-- A routine that writes prints, once it gives up at failures. -/
theorem Writes.prints_giveUp (h : s.Writes text) : s.giveUp.Prints text .done := by
  induction h with
  | finish => exact .finish .done
  | write _ ih => exact ih.print

/-- Where no write fails, giving up makes no difference. -/
theorem Writes.run_giveUp (h : s.Writes text) {id : SinkId} {b : Bench}
    (hall : (b.sink id).TakesAll) : s.giveUp.run id b = s.run id b := by
  induction h generalizing b with
  | finish => rfl
  | @write piece rest next _ ih =>
    have hwrite : b.write id piece = (.ok (), b.withSink id ((b.sink id).take piece)) := by
      rw [Bench.write, hall.write]
    have hnext := ih ((b.sameBehaviour_write id piece).takesAll hall)
    rw [hwrite] at hnext
    simp only [giveUp, print, run, hwrite]
    exact hnext

end Script

/-! ### Runs whose reporter writes -/

namespace Driver

/-- The same driver with a reporter that gives up at the first write that fails. -/
def steadied (d : Driver) : Driver :=
  d.withReporter (.plain d.reporter.script.giveUp)

variable {d : Driver} {text : Text.Bytes} {out : SinkId} {s : Stage}

theorem perform_steadied (h : d.reporter.script.Writes text) (move : Move)
    (hall : (s.bench.sink out).TakesAll) :
    d.steadied.perform out move s = d.perform out move s := by
  cases move with
  | report =>
    have hrun : d.steadied.reporter.report out s.bench = d.reporter.report out s.bench := by
      rw [Reporter.report_eq_run_script, Reporter.report_eq_run_script]
      exact h.run_giveUp hall
    rw [perform, perform, hrun]
  | _ => rfl

theorem performAll_steadied (h : d.reporter.script.Writes text) (ms : List Move)
    (hall : (s.bench.sink out).TakesAll) :
    d.steadied.performAll out ms s = d.performAll out ms s := by
  induction ms generalizing s with
  | nil => rfl
  | cons m ms ih =>
    -- the sink still takes every byte when the next move is made
    have hkept := (d.sameBehaviour_perform out m s).takesAll hall
    rw [performAll, performAll, perform_steadied h m hall]
    rcases hm : d.perform out m s with ⟨halt | u, s₁⟩
    · rfl
    · rw [hm] at hkept
      exact ih hkept

/-- On a sink that takes every byte it makes no difference what the reporter would do about a
failure. -/
theorem run_steadied (h : d.reporter.script.Writes text) (hall : (s.bench.sink out).TakesAll) :
    d.steadied.run out s = d.run out s := by
  have hmoves : d.steadied.moves = d.moves := rfl
  rw [run, run, hmoves, performAll_steadied h d.moves hall]
  rfl

/-- How a run goes whose reporter writes, on a sink that takes every byte. -/
theorem course_of_writes (h : d.reporter.script.Writes text) (hall : (s.bench.sink out).TakesAll) :
    Course (d.emissions out s.counter.sink text .done) s.bench.sink (d.run out s).2.bench.sink
      (d.run out s).1 := by
  have hcourse : Course (d.steadied.emissions out s.counter.sink text .done) s.bench.sink
      (d.steadied.run out s).2.bench.sink (d.steadied.run out s).1 :=
    run_course (d := d.steadied) h.prints_giveUp out s
  rw [run_steadied h hall] at hcourse
  exact hcourse

end Driver

end TraceTarget
