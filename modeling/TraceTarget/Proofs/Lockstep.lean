import Mathlib.Data.List.Basic
import TraceTarget.Proofs.Ledger
import TraceTarget.Proofs.Juncture
import TraceTarget.Proofs.Totals

/-!
# The counter, the exported words, the pauses and the log keep step

In each iteration a run publishes the index, prints, bumps the counter and publishes its count,
prints, tells the log and pauses, in this order. A failure in between leaves the five of them at
different points, and the juncture of the failure says which.

- `tellsDelay`, `tellsIteration`, `tellsReported`, `tellsFinished`: what the log is told, to the
  letter.
- `Tally`: how far each of the five has come.
- `Driver.tallyAt`: the tally of a run that fails at a juncture, as a table.
- `Lockstep`: a ledger that has come as far as a tally says; one lemma for each move says how
  entering the move advances it.
- `lockstep_before`: the moves up to a juncture bring any ledger to the tally of the juncture.
- `run_lockstep`: every run ends in step, with the tally of the juncture at which it failed.
-/

namespace TraceTarget

/-! ### What the log is told -/

/-- The span in which a run of a revision tells the log everything. -/
def spanOfRun (r : Revision) : Event.Span :=
  ⟨"run", [("revision", r.name)]⟩

/-- First comes the delay, in milliseconds. -/
def tellsDelay (r : Revision) (ms : Nat) : Event :=
  ⟨.info, "Starting demo loop", [("delay_ms", Text.decimal ms)], some (spanOfRun r)⟩

/-- After an iteration come its index and the count. -/
def tellsIteration (r : Revision) (index count : Nat) : Event :=
  ⟨.debug, "Iteration done", [("index", Text.decimal index), ("count", Text.decimal count)],
    some (spanOfRun r)⟩

/-- The reporter has returned. -/
def tellsReported (r : Revision) : Event :=
  ⟨.debug, "External reporter returned", [], some (spanOfRun r)⟩

/-- At the end come the number of iterations and the last count. -/
def tellsFinished (r : Revision) (count : Nat) : Event :=
  ⟨.info, "Demo loop finished", [("iterations", "10"), ("final_count", Text.decimal count)],
    some (spanOfRun r)⟩

namespace Driver

/-- The milliseconds of a delay are cut off below one and above 64 bits. -/
theorem within_startedEvent (d : Driver) : d.within d.startedEvent =
    tellsDelay d.revision (min (d.delay.totalNanos / 1000000) (2 ^ 64 - 1)) := by
  rw [startedEvent, Duration.millis_eq]
  rfl

theorem within_iterationEvent (d : Driver) (index count : UInt32) :
    d.within (iterationEvent index count) =
      tellsIteration d.revision index.toNat count.toNat := rfl

theorem within_finishedEvent (d : Driver) (count : UInt32) :
    d.within (finishedEvent count) = tellsFinished d.revision count.toNat := rfl

end Driver

/-! ### How far a run comes -/

/-- How far a run has come. -/
structure Tally where
  tests : Nat := 0
  pauses : Nat := 0
  /-- How many iterations the log was told of. -/
  iterations : Nat := 0
  /-- The iteration whose index was published last. -/
  index : Option Nat := none
  /-- What the log was told after the iterations. -/
  closing : List Event := []

/-- A move that tests the counter. -/
def Move.isTest : Move → Bool
  | test _ => true
  | _ => false

/-- What the log is told of iteration `j`: its index and the count after `j + 1` tests. -/
def Counter.tellsOf (c : Counter) (r : Revision) (j : Nat) : Event :=
  tellsIteration r j (c.countAfter (j + 1))

namespace Driver

/-- What the log is told after a reporter has returned, if it was called. -/
def reportedEvents (d : Driver) : List Event :=
  if d.revision.callsReporter then [tellsReported d.revision] else []

/-- The tally of a run that fails at a juncture. -/
def tallyAt (d : Driver) : Juncture → Tally
  | .startBanner => {}
  | .func i => { tests := i, pauses := i, iterations := i, index := some i }
  | .test i => { tests := i + 1, pauses := i, iterations := i, index := some i }
  | .reporter => { tests := 10, pauses := 10, iterations := 10, index := some 9 }
  | .endBanner =>
    { tests := 10, pauses := 10, iterations := 10, index := some 9, closing := d.reportedEvents }

/-- The tally of a run that does not fail. -/
def tallyAtEnd (d : Driver) (c : Counter) : Tally :=
  { tests := 10, pauses := 10, iterations := 10, index := some 9
    closing := d.reportedEvents ++ [tellsFinished d.revision (c.countAfter 10)] }

end Driver

/-- A ledger `l'` that was `l` before the run and has come as far as a tally says, by entering these
moves. -/
structure Lockstep (d : Driver) (ms : List Move) (l l' : Ledger) (t : Tally) : Prop where
  tests : ms.countP Move.isTest = t.tests
  pauses : ms.count .pause = t.pauses
  counter : l'.counter = l.counter.advance t.tests
  count : l'.counter.count.toNat = l.counter.countAfter t.tests
  published : l'.exports.count.toNat =
    if t.tests = 0 then l.exports.count.toNat else l.counter.countAfter t.tests
  index : l'.exports.index.toNat = t.index.getD l.exports.index.toNat
  slept : l'.slept =
    l.slept ++ if d.sleeper.records then List.replicate t.pauses d.delay else []
  journal : l'.journal = l.journal ++
    (tellsDelay d.revision (min (d.delay.totalNanos / 1000000) (2 ^ 64 - 1)) ::
      (List.range t.iterations).map (l.counter.tellsOf d.revision) ++ t.closing)

namespace Lockstep

variable {d : Driver} {ms : List Move} {l l' : Ledger} {t : Tally}

/-! ### One move -/

/-- One more move is a test or not. -/
theorem tests_concat (h : Lockstep d ms l l' t) (m : Move) :
    (ms ++ [m]).countP Move.isTest = t.tests + if m.isTest then 1 else 0 := by
  rw [List.countP_append, h.tests, List.countP_singleton]

/-- One more move is a pause or not. -/
theorem pauses_concat (h : Lockstep d ms l l' t) (m : Move) :
    (ms ++ [m]).count .pause = t.pauses + if m == .pause then 1 else 0 := by
  rw [List.count_append, h.pauses, List.count_singleton]

/-- The first move starts in step. -/
theorem begin (d : Driver) (l : Ledger) : Lockstep d [.begin] l (d.enter l .begin) {} where
  tests := rfl
  pauses := rfl
  counter := rfl
  count := Counter.count_advance l.counter 0
  published := rfl
  index := rfl
  slept := by cases d.sleeper.records <;> exact (List.append_nil _).symm
  journal := by
    show l.journal ++ [d.within d.startedEvent] = _
    rw [d.within_startedEvent]
    rfl

/-- A banner leaves the ledger as it is. -/
theorem banner (h : Lockstep d ms l l' t) (label : Label) (line : Line) :
    Lockstep d (ms ++ [.banner label line]) l (d.enter l' (.banner label line)) t :=
  { h with
    tests := h.tests_concat _
    pauses := h.pauses_concat _ }

/-- The call of the reporter leaves the ledger as it is. -/
theorem report (h : Lockstep d ms l l' t) :
    Lockstep d (ms ++ [.report]) l (d.enter l' .report) t :=
  { h with
    tests := h.tests_concat _
    pauses := h.pauses_concat _ }

/-- The function publishes the index before it prints. -/
theorem func (h : Lockstep d ms l l' t) {i : Nat} (hi : i < 10) :
    Lockstep d (ms ++ [.func (.ofNat i)]) l (d.enter l' (.func (.ofNat i)))
      { t with index := some i } :=
  { h with
    tests := h.tests_concat _
    pauses := h.pauses_concat _
    index := by
      show (UInt32.ofNat i).toUInt64.toNat = i
      rw [UInt32.toNat_toUInt64, UInt32.toNat_ofNat_of_lt' (Nat.lt_trans hi (by decide))] }

/-- A test counts, and publishes the count, before it prints. -/
theorem test (h : Lockstep d ms l l' t) (i : UInt32) :
    Lockstep d (ms ++ [.test i]) l (d.enter l' (.test i)) { t with tests := t.tests + 1 } := by
  have hcounter : l'.counter.bump = l.counter.advance (t.tests + 1) :=
    congrArg Counter.bump h.counter
  have hcount : l'.counter.bump.count.toNat = l.counter.countAfter (t.tests + 1) := by
    rw [hcounter, Counter.count_advance]
  exact
    { h with
      tests := h.tests_concat _
      pauses := h.pauses_concat _
      counter := hcounter
      count := hcount
      published := (UInt32.toNat_toUInt64 _).trans hcount }

/-- The end of an iteration tells the log its index and the count. -/
theorem iterated (h : Lockstep d ms l l' t) (htests : t.tests = t.iterations + 1)
    (hlt : t.iterations < 10) (hclosing : t.closing = []) :
    Lockstep d (ms ++ [.iterated (.ofNat t.iterations)]) l
      (d.enter l' (.iterated (.ofNat t.iterations)))
      { t with iterations := t.iterations + 1 } := by
  have hindex : (UInt32.ofNat t.iterations).toNat = t.iterations :=
    UInt32.toNat_ofNat_of_lt' (Nat.lt_trans hlt (by decide))
  have hevent : d.within (Driver.iterationEvent (.ofNat t.iterations) l'.counter.count) =
      l.counter.tellsOf d.revision t.iterations := by
    rw [d.within_iterationEvent, hindex, h.count, htests, Counter.tellsOf]
  exact
    { h with
      tests := h.tests_concat _
      pauses := h.pauses_concat _
      journal := by
        show l'.journal ++ [d.within (Driver.iterationEvent (.ofNat t.iterations) _)] = _
        rw [hevent, h.journal, hclosing, List.range_succ]
        simp only [List.map_append, List.map_singleton, List.append_nil, List.append_assoc,
          List.cons_append] }

/-- A pause is recorded, if the sleeper records, with the delay of the driver. -/
theorem pause (h : Lockstep d ms l l' t) :
    Lockstep d (ms ++ [.pause]) l (d.enter l' .pause) { t with pauses := t.pauses + 1 } :=
  { h with
    tests := h.tests_concat _
    pauses := h.pauses_concat _
    slept := by
      show l'.slept ++ (if d.sleeper.records then [d.delay] else []) = _
      rw [h.slept, List.append_assoc]
      split
      · rw [List.replicate_succ']
      · rfl }

/-- What is told after the iterations. -/
theorem tell (h : Lockstep d ms l l' t) {move : Move} {e : Event}
    (henter : d.enter l' move = l'.log e) (htest : move.isTest = false) (hpause : move ≠ .pause) :
    Lockstep d (ms ++ [move]) l (d.enter l' move) { t with closing := t.closing ++ [e] } := by
  rw [henter]
  exact
    { h with
      tests := by rw [h.tests_concat, htest]; rfl
      pauses := by rw [h.pauses_concat, beq_eq_false_iff_ne.mpr hpause]; rfl
      journal := by
        show l'.journal ++ [e] = _
        rw [h.journal]
        simp only [List.append_assoc, List.cons_append] }

end Lockstep

/-! ### Iterations -/

/-- The tally after some iterations. -/
def Tally.after (n : Nat) : Tally where
  tests := n
  pauses := n
  iterations := n
  index := if n = 0 then none else some (n - 1)

/-- The moves before the loop and some iterations keep step. -/
theorem lockstep_rounds (d : Driver) (l : Ledger) {n : Nat} (hn : n ≤ 10) :
    Lockstep d (Driver.opening ++ rounds n) l ((Driver.opening ++ rounds n).foldl d.enter l)
      (.after n) := by
  induction n with
  | zero => exact (Lockstep.begin d l).banner .startBanner .start
  | succ n ih =>
    -- each of the four moves of an iteration advances its own part of the tally
    have hfunc := (ih (by omega)).func (i := n) (by omega)
    have htest := hfunc.test (.ofNat n)
    have hround := (htest.iterated rfl (by exact hn) rfl).pause
    have hmoves : Driver.opening ++ rounds (n + 1) = Driver.opening ++ rounds n ++
        [.func (.ofNat n)] ++ [.test (.ofNat n)] ++ [.iterated (.ofNat n)] ++ [.pause] := by
      rw [rounds_succ]
      simp only [List.append_assoc, List.cons_append, List.nil_append]
    rw [hmoves, List.foldl_concat, List.foldl_concat, List.foldl_concat, List.foldl_concat]
    exact hround

/-- So do the moves of the reporter after ten iterations. -/
theorem lockstep_reporting (d : Driver) (l : Ledger) :
    Lockstep d (Driver.opening ++ rounds 10 ++ d.reporting) l
      ((Driver.opening ++ rounds 10 ++ d.reporting).foldl d.enter l)
      { Tally.after 10 with closing := d.reportedEvents } := by
  have h := lockstep_rounds d l (Nat.le_refl 10)
  unfold Driver.reporting Driver.reportedEvents
  cases d.revision.callsReporter with
  | false =>
    rw [if_neg Bool.false_ne_true, if_neg Bool.false_ne_true, List.append_nil]
    exact h
  | true =>
    have hmoves : Driver.opening ++ rounds 10 ++ [Move.report, Move.reported] =
        Driver.opening ++ rounds 10 ++ [Move.report] ++ [Move.reported] := by
      rw [List.append_assoc _ [Move.report], List.singleton_append]
    rw [if_pos rfl, if_pos rfl, hmoves, List.foldl_concat, List.foldl_concat]
    exact h.report.tell rfl rfl (by decide)

/-- The moves up to a juncture, and the move there, bring a ledger to the tally of the juncture. -/
theorem lockstep_before (d : Driver) (l : Ledger) {p : Juncture} (hp : d.Reaches p) :
    Lockstep d (d.before p ++ [p.move]) l ((d.before p ++ [p.move]).foldl d.enter l)
      (d.tallyAt p) := by
  rw [List.foldl_concat]
  cases p with
  | startBanner => exact (Lockstep.begin d l).banner .startBanner .start
  | func i =>
    have hi : i < 10 := hp
    exact (lockstep_rounds d l (Nat.le_of_lt hi)).func hi
  | test i =>
    have hi : i < 10 := hp
    have h := (lockstep_rounds d l (Nat.le_of_lt hi)).func hi
    rw [Driver.before, List.foldl_concat]
    exact h.test (.ofNat i)
  | reporter => exact (lockstep_rounds d l (Nat.le_refl 10)).report
  | endBanner => exact (lockstep_reporting d l).banner .endBanner .finish

/-- All the moves of a run bring a ledger to the tally of the end. -/
theorem lockstep_moves (d : Driver) (l : Ledger) :
    Lockstep d d.moves l (d.moves.foldl d.enter l) (d.tallyAtEnd l.counter) := by
  have h := (lockstep_reporting d l).banner .endBanner .finish
  have hmoves : d.moves = Driver.opening ++ rounds 10 ++ d.reporting ++
      [.banner .endBanner .finish] ++ [.done] := by
    rw [Driver.moves_eq]
    simp only [List.append_assoc, List.cons_append, List.nil_append]
  rw [hmoves, List.foldl_concat, List.foldl_concat]
  refine h.tell ?_ rfl (by decide)
  have hcount := h.count
  show Ledger.log _ (d.within (Driver.finishedEvent _)) = _
  rw [d.within_finishedEvent, hcount]
  rfl

/-! ### A whole run -/

/-- Moves that fail have done so at a juncture, and came to it in step. -/
theorem lockstep_of_error {d : Driver} {out : SinkId} {s s' : Stage} {halt : Halt}
    (h : d.performAll out d.moves s = (.error halt, s')) :
    ∃ p rest s₁, d.Reaches p ∧ d.moves = d.before p ++ p.move :: rest ∧
      d.performAll out (d.before p) s = (.ok (), s₁) ∧
      d.perform out p.move s₁ = (.error halt, s') ∧
      d.attempted out d.moves s = d.before p ++ [p.move] ∧
      Lockstep d (d.before p ++ [p.move]) s.ledger s'.ledger (d.tallyAt p) := by
  have hledger := Driver.performAll_ledger d out d.moves s
  obtain ⟨done, move, rest, s₁, hmoves, hdone, hmove⟩ := Driver.performAll_error h
  obtain ⟨p, hp, rfl, rfl⟩ := Driver.exists_juncture hmoves (Driver.perform_haltsWith hmove)
  have hattempted : d.attempted out d.moves s = d.before p ++ [p.move] := by
    rw [hmoves]
    exact Driver.attempted_of_error hdone hmove
  refine ⟨p, rest, s₁, hp, hmoves, hdone, hmove, hattempted, ?_⟩
  rw [h, hattempted] at hledger
  rw [hledger]
  exact lockstep_before d s.ledger hp

/-- Moves that all succeed keep step to the end. -/
theorem lockstep_of_ok {d : Driver} {out : SinkId} {s s' : Stage}
    (h : d.performAll out d.moves s = (.ok (), s')) :
    Lockstep d d.moves s.ledger s'.ledger (d.tallyAtEnd s.counter) := by
  have hledger := Driver.performAll_ledger d out d.moves s
  rw [h, Driver.attempted_of_ok h] at hledger
  rw [hledger]
  exact lockstep_moves d s.ledger

/-- A run that does not fail keeps step to the end. -/
theorem lockstep_of_run_ok {d : Driver} {out : SinkId} {s : Stage} {summary : Summary}
    (h : (d.run out s).1 = .ok summary) :
    Lockstep d d.moves s.ledger (d.run out s).2.ledger (d.tallyAtEnd s.counter) := by
  rcases hall : d.performAll out d.moves s with ⟨halt | u, s'⟩
  · rw [Driver.run_of_error hall] at h
    cases h
  · rw [Driver.run_of_ok hall]
    exact lockstep_of_ok hall

/-- **A run keeps step**: whatever the sinks and the reporter do, a run that fails does so at some
juncture, reports it as the juncture has it, and has then made exactly the moves before it and the
one there; and the counter, the exported words, the pauses and the log have come exactly as far as
the table says. A run that does not fail has made all of its moves. -/
theorem run_lockstep (d : Driver) (out : SinkId) (s : Stage) :
    match (d.run out s).1 with
    | .ok _ =>
      d.attempted out d.moves s = d.moves ∧
        Lockstep d d.moves s.ledger (d.run out s).2.ledger (d.tallyAtEnd s.counter)
    | .error halt => ∃ p, d.Reaches p ∧ p.move.HaltsWith halt ∧
        d.attempted out d.moves s = d.before p ++ [p.move] ∧
        Lockstep d (d.before p ++ [p.move]) s.ledger (d.run out s).2.ledger (d.tallyAt p) := by
  rcases hall : d.performAll out d.moves s with ⟨halt | u, s'⟩
  · obtain ⟨p, rest, s₁, hp, -, -, hmove, hattempted, hstep⟩ := lockstep_of_error hall
    rw [Driver.run_of_error hall]
    exact ⟨p, hp, Driver.perform_haltsWith hmove, hattempted, hstep⟩
  · rw [Driver.run_of_ok hall]
    exact ⟨Driver.attempted_of_ok hall, lockstep_of_ok hall⟩

end TraceTarget
