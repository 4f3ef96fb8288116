import TraceTarget.Driver

/-!
# What a run changes besides its sinks

Which moves a run enters depends on the sinks, for the first failure is the last move. Everything
else that a run leaves behind — the counter, the exported words, the recorded pauses and the log —
depends on nothing but the moves that were entered.

- `Ledger`: a stage without its sinks.
- `Driver.enter`: what entering a move does to the ledger, whether or not the move succeeds.
- `Driver.attempted`: the moves that a run enters; the last of them may have failed.
- `performAll_ledger`: the ledger after some moves is the ledger before, with every move that was
  attempted entered in turn.
- `Counter.countAfter`: how far a counter has counted after some tests.
-/

namespace TraceTarget

/-! ### Counting -/

namespace Counter

/-- The count of a counter after some more tests. A counter that counts stops at the largest number
of 32 bits, and one that does not stays at zero. -/
def countAfter (c : Counter) (tests : Nat) : Nat :=
  if c.tracking then min (c.count.toNat + tests) 0xffffffff else 0

/-- A counter after some more tests. -/
def advance (c : Counter) : Nat → Counter
  | 0 => c
  | n + 1 => (c.advance n).bump

@[simp] theorem advance_sink (c : Counter) (n : Nat) : (c.advance n).sink = c.sink := by
  induction n with
  | zero => rfl
  | succ n ih => exact (bump_sink _).trans ih

@[simp] theorem advance_tracking (c : Counter) (n : Nat) :
    (c.advance n).tracking = c.tracking := by
  induction n with
  | zero => rfl
  | succ n ih => exact (bump_tracking _).trans ih

@[simp] theorem advance_endReport (c : Counter) (n : Nat) :
    (c.advance n).endReport = c.endReport := by
  induction n with
  | zero => rfl
  | succ n ih => exact (bump_endReport _).trans ih

theorem toNat_saturatingSucc (n : UInt32) :
    (saturatingSucc n).toNat = min (n.toNat + 1) 0xffffffff := by
  unfold saturatingSucc
  have hlt := n.toNat_lt
  split
  · next h => subst h; rfl
  · next h =>
    have hne : n.toNat ≠ 0xffffffff := fun he => h (UInt32.toNat.inj he)
    have hadd : (n + 1).toNat = n.toNat + 1 := by
      rw [UInt32.toNat_add]
      exact Nat.mod_eq_of_lt (by simp only [UInt32.reduceToNat]; omega)
    omega

theorem count_bump (c : Counter) :
    c.bump.count = if c.tracking then saturatingSucc c.count else c.count := by
  unfold bump
  split <;> rfl

/-- Testing a counter counts in the closed form. -/
theorem count_advance (c : Counter) (n : Nat) :
    (c.advance n).count.toNat = c.countAfter n := by
  unfold countAfter
  have hlt := c.count.toNat_lt
  cases htrack : c.tracking with
  | false =>
    have hidle := (c.advance n).idle ((advance_tracking c n).trans htrack)
    rw [hidle]
    rfl
  | true =>
    rw [if_pos rfl]
    induction n with
    | zero => simp only [advance]; omega
    | succ n ih =>
      rw [advance, count_bump, advance_tracking, htrack, if_pos rfl, toNat_saturatingSucc, ih]
      omega

end Counter

/-! ### The ledger -/

/-- What a run changes besides the sinks. -/
structure Ledger where
  counter : Counter
  exports : Exports
  slept : List Duration
  journal : List Event

/-- The ledger of a bench together with a counter. -/
def Bench.ledger (b : Bench) (c : Counter) : Ledger :=
  ⟨c, b.exports, b.slept, b.journal⟩

/-- The ledger of a stage. -/
def Stage.ledger (s : Stage) : Ledger :=
  s.bench.ledger s.counter

/-- The ledger with one more event. -/
def Ledger.log (l : Ledger) (e : Event) : Ledger :=
  { l with journal := l.journal ++ [e] }

namespace Bench

@[simp] theorem ledger_write (b : Bench) (id : SinkId) (bs : Text.Bytes) (c : Counter) :
    (b.write id bs).2.ledger c = b.ledger c := rfl

@[simp] theorem ledger_flush (b : Bench) (id : SinkId) (c : Counter) :
    (b.flush id).2.ledger c = b.ledger c := rfl

@[simp] theorem ledger_emit (b : Bench) (id : SinkId) (bs : Text.Bytes) (c : Counter) :
    (b.emit id bs).2.ledger c = b.ledger c := rfl

end Bench

/-- A routine writes and flushes and does nothing else. -/
theorem Script.run_ledger (id : SinkId) (s : Script) (b : Bench) (c : Counter) :
    (s.run id b).2.ledger c = b.ledger c := by
  induction s generalizing b with
  | finish ending => rfl
  | write bytes next ih => exact (ih _ _).trans (Bench.ledger_write ..)
  | flush next ih => exact (ih _ _).trans (Bench.ledger_flush ..)

namespace Driver

/-- What entering a move does to the ledger, whether or not the move succeeds. -/
def enter (d : Driver) (l : Ledger) : Move → Ledger
  | .begin => l.log (d.within d.startedEvent)
  | .banner _ _ | .report => l
  | .func i => { l with exports := { l.exports with index := i.toUInt64 } }
  | .test _ =>
    { l with
      counter := l.counter.bump
      exports := { l.exports with count := l.counter.bump.count.toUInt64 } }
  | .iterated i => l.log (d.within (iterationEvent i l.counter.count))
  | .pause => { l with slept := l.slept ++ if d.sleeper.records then [d.delay] else [] }
  | .reported => l.log (d.within reportedEvent)
  | .done => l.log (d.within (finishedEvent l.counter.count))

theorem settle_ledger (s : Stage) (halt : Fault → Halt) (r : Except Fault Unit × Bench) :
    (settle s halt r).2.ledger = r.2.ledger s.counter := by
  rw [Stage.ledger, settle_bench, settle_counter]

/-- A move changes the ledger by being entered. -/
theorem perform_ledger (d : Driver) (out : SinkId) (move : Move) (s : Stage) :
    (d.perform out move s).2.ledger = d.enter s.ledger move := by
  cases move with
  | begin => rfl
  | banner label line => rw [perform, settle_ledger, Bench.ledger_emit]; rfl
  | func i => rw [perform, settle_ledger, Bench.reportFunc, Bench.ledger_emit]; rfl
  | test i => rw [perform, Counter.test_eq, settle_ledger, Bench.ledger_emit]; rfl
  | iterated i => rfl
  | pause =>
    rw [perform, Sleeper.sleep_eq, enter]
    split
    · rfl
    · rw [List.append_nil]
  | report =>
    have hrun := Script.run_ledger out d.reporter.script s.bench s.counter
    rw [perform, Reporter.report_eq_run_script]
    rcases hb : d.reporter.script.run out s.bench with ⟨_ | _ | _, bench⟩
    · rw [hb] at hrun
      simp only [settle_ledger, Bench.ledger_flush]
      exact hrun
    · rw [hb] at hrun
      exact hrun
    · rw [hb] at hrun
      exact hrun
  | reported => rfl
  | done => rfl

/-! ### Attempted moves -/

/-- The moves that are entered when moves are made one after the other until one of them fails. -/
def attempted (d : Driver) (out : SinkId) : List Move → Stage → List Move
  | [], _ => []
  | move :: rest, s =>
    move ::
      match d.perform out move s with
      | (.ok (), s) => d.attempted out rest s
      | (.error _, _) => []

/-- Moves that all succeed are all attempted. -/
theorem attempted_of_ok {d : Driver} {out : SinkId} {ms : List Move} {s s' : Stage}
    (h : d.performAll out ms s = (.ok (), s')) : d.attempted out ms s = ms := by
  induction ms generalizing s with
  | nil => rfl
  | cons m ms ih =>
    rw [performAll] at h
    rw [attempted]
    rcases hm : d.perform out m s with ⟨halt | u, s₁⟩
    · rw [hm] at h
      cases h
    · rw [hm] at h
      exact congrArg (m :: ·) (ih h)

/-- A move that fails is the last one attempted. -/
theorem attempted_of_error {d : Driver} {out : SinkId} {done rest : List Move} {move : Move}
    {s s₁ s' : Stage} {halt : Halt} (hdone : d.performAll out done s = (.ok (), s₁))
    (hmove : d.perform out move s₁ = (.error halt, s')) :
    d.attempted out (done ++ move :: rest) s = done ++ [move] := by
  induction done generalizing s with
  | nil =>
    cases hdone
    rw [List.nil_append, attempted, hmove]
    rfl
  | cons m ms ih =>
    rw [performAll] at hdone
    rw [List.cons_append, attempted]
    rcases hm : d.perform out m s with ⟨halt' | u, s₂⟩
    · rw [hm] at hdone
      cases hdone
    · rw [hm] at hdone
      exact congrArg (m :: ·) (ih hdone)

/-- The ledger after some moves has every attempted move entered in turn. -/
theorem performAll_ledger (d : Driver) (out : SinkId) (ms : List Move) (s : Stage) :
    (d.performAll out ms s).2.ledger = (d.attempted out ms s).foldl d.enter s.ledger := by
  induction ms generalizing s with
  | nil => rfl
  | cons m ms ih =>
    have hstep := perform_ledger d out m s
    rw [performAll, attempted, List.foldl_cons, ← hstep]
    rcases d.perform out m s with ⟨halt | u, s₁⟩
    · rfl
    · exact ih s₁

/-- Moves leave the counter with its sink. -/
theorem perform_counter_sink (d : Driver) (out : SinkId) (move : Move) (s : Stage) :
    (d.perform out move s).2.counter.sink = s.counter.sink := by
  have hcounter : (d.perform out move s).2.counter = (d.enter s.ledger move).counter :=
    congrArg Ledger.counter (perform_ledger d out move s)
  rw [hcounter]
  cases move with
  | test _ => exact Counter.bump_sink _
  | _ => rfl

end Driver

end TraceTarget
