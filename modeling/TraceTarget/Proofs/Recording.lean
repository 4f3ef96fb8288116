import TraceTarget.Proofs.LastLine
import TraceTarget.Proofs.Totals

/-!
# Recorded pauses and their total

Pauses are recorded in a session by whoever asks for one: an operation that does nothing else, or a
run, which asks for the delay of its driver whenever it comes to its move that waits. What is
recorded is what was asked for, in this order, and nothing else is. Its total is exact, or there is
none.

- `Driver.pauses`, `Session.pauses`: the pauses that a run and an operation ask for. Those of a run
  are among the moves that it attempts.
- `Session.slept_step`: one operation records its pauses; `Session.slept_after`: so do any.
- `recorded_total_exact`: what is recorded in a session, and the laws of its total.
-/

namespace TraceTarget

/-- The pauses that a run asks the recording sleeper for, in order. -/
def Driver.pauses (d : Driver) (out : SinkId) (s : Stage) : List Duration :=
  if d.sleeper.records then List.replicate ((d.attempted out d.moves s).count .pause) d.delay
  else []

/-- A run records the pauses that it asks for, however far it comes. -/
theorem Driver.slept_run (d : Driver) (out : SinkId) (s : Stage) :
    (d.run out s).2.bench.slept = s.bench.slept ++ d.pauses out s := by
  unfold pauses
  rcases hall : d.performAll out d.moves s with ⟨halt | u, s'⟩
  · obtain ⟨p, rest, s₁, -, -, -, -, hattempted, hstep⟩ := lockstep_of_error hall
    rw [run_of_error hall, hattempted, hstep.pauses]
    exact hstep.slept
  · have hstep := lockstep_of_ok hall
    rw [run_of_ok hall, attempted_of_ok hall, hstep.pauses]
    exact hstep.slept

namespace Session

/-- The pauses that an operation asks the recording sleeper for, in order. -/
def pauses (s : Session) : Operation → List Duration
  | .sleep delay => [delay]
  | .run driver counter sink =>
    match s.drivers.get? driver, s.counters.get? counter, s.sinks.get? sink with
    | some d, some c, some id => d.pauses id ⟨c, s.bench⟩
    | _, _, _ => []
  | .openSink _ _ | .makeCounter _ _ _ _ | .test _ _ | .tests _ _ _ | .setEndReport _ _ | .retire _
  | .func _ _ | .report _ _ | .enterFunc _ | .enterTest _ _ | .poke _ _ | .makeDriver _ _ => []

/-- The pauses that some operations ask for, in order. -/
def pausesOf (s : Session) : List Operation → List Duration
  | [] => []
  | op :: ops => s.pauses op ++ (s.step op).2.pausesOf ops

/-- The end of a life leaves no pause. -/
theorem retire_slept (s : Session) (name : String) : (s.retire name).bench.slept = s.bench.slept := by
  unfold retire
  split
  · exact Counter.retire_slept ..
  · rfl

/-- Nor do tests. -/
theorem testMany_slept (index : UInt32) (times : Nat) (c : Counter) (b : Bench) :
    (testMany index times c b).2.2.slept = b.slept := by
  induction times generalizing c b with
  | zero => rfl
  | succ n ih =>
    have htest : (c.test index b).2.2.slept = b.slept := by
      rw [Counter.test_eq]
      rfl
    exact (ih (c.test index b).2.1 (c.test index b).2.2).trans htest

/-- An operation records the pauses that it asks for. -/
theorem slept_step (s : Session) (op : Operation) :
    (s.step op).2.bench.slept = s.bench.slept ++ s.pauses op := by
  cases op with
  | sleep delay => rfl
  | run driver counter sink =>
    rw [step, pauses]
    rcases s.drivers.get? driver with _ | d
    · exact (List.append_nil _).symm
    rcases s.counters.get? counter with _ | c
    · exact (List.append_nil _).symm
    rcases s.sinks.get? sink with _ | id
    · exact (List.append_nil _).symm
    exact d.slept_run id ⟨c, s.bench⟩
  | makeCounter name sink revision report =>
    rw [step, pauses, List.append_nil]
    split
    · rfl
    · exact retire_slept s name
  | test name index =>
    rw [step, pauses, List.append_nil]
    split
    · rfl
    · next c hc => exact testMany_slept index 1 c s.bench
  | tests name index times =>
    rw [step, pauses, List.append_nil]
    split
    · rfl
    · next c hc => exact testMany_slept index times c s.bench
  | setEndReport name report =>
    rw [step, pauses, List.append_nil]
    split <;> rfl
  | retire name =>
    rw [step, pauses, List.append_nil]
    split
    · rfl
    · exact retire_slept s name
  | func sink index =>
    rw [step, pauses, List.append_nil]
    split <;> rfl
  | report sink reporter =>
    rw [step, pauses, List.append_nil]
    split
    · rfl
    · next id hid =>
      rw [Reporter.report_eq_run_script]
      exact congrArg Ledger.slept (Script.run_ledger id reporter.script s.bench (.new id))
  | openSink name sink => exact (List.append_nil _).symm
  | enterFunc index => exact (List.append_nil _).symm
  | enterTest index count => exact (List.append_nil _).symm
  | poke index count => exact (List.append_nil _).symm
  | makeDriver name driver => exact (List.append_nil _).symm

/-- Operations record the pauses that they ask for, one operation after the other. -/
theorem slept_after (s : Session) (ops : List Operation) :
    (s.after ops).bench.slept = s.bench.slept ++ s.pausesOf ops := by
  induction ops generalizing s with
  | nil => exact (List.append_nil _).symm
  | cons op ops ih => rw [after_cons, ih, slept_step, pausesOf, List.append_assoc]

end Session

/-- **Recorded pauses have an exact total or none.** What is recorded in a session is what was asked
for, in order, by whatever operations and by runs that come however far. The total of any durations
is their exact sum, in seconds and the nanoseconds that are left; there is none exactly if the sum
reaches `2 ^ 64` seconds. So the order does not matter, nor when whole seconds are carried over, and
the total of two lists one after the other is the sum of their totals. -/
theorem recorded_total_exact :
    (∀ (s : Session) (ops : List Session.Operation),
      (s.after ops).bench.slept = s.bench.slept ++ s.pausesOf ops) ∧
    (∀ ds : List Duration,
      let nanos := (ds.map Duration.totalNanos).sum
      (∀ t, Duration.total? ds = some t ↔
        t.secs.toNat = nanos / 1000000000 ∧ t.nanos = nanos % 1000000000) ∧
      (Duration.total? ds = none ↔ 2 ^ 64 * 1000000000 ≤ nanos) ∧
      Duration.total? ds =
        Duration.ofParts? (ds.map fun d => d.secs.toNat).sum (ds.map Duration.nanos).sum) ∧
    (∀ ds es : List Duration, ds.Perm es → Duration.total? ds = Duration.total? es) ∧
    ∀ ds es : List Duration, Duration.total? (ds ++ es) =
      (Duration.total? ds).bind fun a => (Duration.total? es).bind fun b => a.add? b := by
  refine ⟨Session.slept_after, fun ds => ⟨fun t => ?_, Duration.total?_eq_none_iff, ?_⟩,
    fun _ _ => Duration.total?_perm, Duration.total?_append⟩
  · rw [Duration.total?_eq_some_iff]
    exact Duration.totalNanos_eq_iff
  · exact Duration.total?_eq_ofParts? ds

/-- The longest pause that there is and one nanosecond: in either order only the carry of the last
nanosecond is too much. -/
theorem recorded_total_exact_last_carry :
    let longest : Duration := ⟨0xffffffffffffffff, 999999999, by decide⟩
    let shortest : Duration := ⟨0, 1, by decide⟩
    let s := ({} : Session).after [.sleep longest, .sleep shortest]
    [shortest, longest].Perm s.bench.slept ∧ Duration.total? [longest] = some longest ∧
      Duration.total? s.bench.slept = none ∧ Duration.total? [shortest, longest] = none := by
  intro longest shortest s
  obtain ⟨hslept, hexact, hperm, -⟩ := recorded_total_exact
  have hrecorded : s.bench.slept = [longest, shortest] := hslept {} _
  have hnone : Duration.total? [longest, shortest] = none :=
    (hexact [longest, shortest]).2.1.mpr (by decide)
  have hsame : [shortest, longest].Perm [longest, shortest] := .swap ..
  rw [hrecorded]
  exact ⟨hsame, ((hexact [longest]).1 longest).mpr (by decide), hnone, (hperm _ _ hsame).trans hnone⟩

end TraceTarget
