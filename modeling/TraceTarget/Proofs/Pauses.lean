import TraceTarget.Proofs.Lockstep
import TraceTarget.Proofs.Precedence
import TraceTarget.Proofs.Showing

/-!
# Delays arrive as they were set

A delay goes from a number of milliseconds in 64 bits to seconds and nanoseconds, from there to the
sleeper, and back to milliseconds in 64 bits for the log. Nothing is lost on the way of a delay that
a configuration can set. Of other delays, only what the log is told may be less: it leaves out what
is below a millisecond, and shows what is beyond 64 bits as the largest number there.

- `Waits`: the pauses of one length that were recorded, and what the log was told of it first.
- `exists_waits`: every run waits as its driver has it, however far it comes.
- `delays_arrive`: the delays of configurations, and any others.
-/

namespace TraceTarget

/-- In a run of a revision the log is told the delay first, in whole milliseconds of at most 64
bits, and so many pauses are recorded if any are, each of them exactly the delay. -/
structure Waits (r : Revision) (delay : Duration) (records : Bool) (b b' : Bench) (pauses : Nat) :
    Prop where
  told : ∃ events, b'.journal = b.journal ++
    tellsDelay r (min (delay.totalNanos / 1000000) (2 ^ 64 - 1)) :: events
  slept : b'.slept = b.slept ++ if records then List.replicate pauses delay else []

/-- Whatever keeps step waits. -/
theorem Lockstep.waits {d : Driver} {ms : List Move} {s s' : Stage} {t : Tally}
    (h : Lockstep d ms s.ledger s'.ledger t) :
    Waits d.revision d.delay d.sleeper.records s.bench s'.bench t.pauses where
  told := ⟨_, h.journal⟩
  slept := h.slept

/-- No run pauses more than ten times. -/
theorem Driver.tallyAt_pauses_le {d : Driver} {p : Juncture} (hp : d.Reaches p) :
    (d.tallyAt p).pauses ≤ 10 := by
  cases p with
  | startBanner => exact Nat.zero_le _
  | func i =>
    have hi : i < 10 := hp
    exact Nat.le_of_lt hi
  | test i =>
    have hi : i < 10 := hp
    exact Nat.le_of_lt hi
  | reporter => exact Nat.le_refl _
  | endBanner => exact Nat.le_refl _

/-- A run waits at most ten times, and ten times if it comes to its end. -/
theorem exists_waits (d : Driver) (out : SinkId) (s : Stage) :
    ∃ pauses, Waits d.revision d.delay d.sleeper.records s.bench (d.run out s).2.bench pauses ∧
      pauses ≤ 10 ∧ ∀ summary, (d.run out s).1 = .ok summary → pauses = 10 := by
  rcases hall : d.performAll out d.moves s with ⟨halt | u, s'⟩
  · obtain ⟨p, rest, s₁, hp, -, -, -, -, hstep⟩ := lockstep_of_error hall
    rw [Driver.run_of_error hall]
    exact ⟨_, hstep.waits, Driver.tallyAt_pauses_le hp, nofun⟩
  · rw [Driver.run_of_ok hall]
    exact ⟨10, (lockstep_of_ok hall).waits, Nat.le_refl 10, fun _ _ => rfl⟩

/-- Ten pauses of a number of milliseconds that fits in 64 bits can be added up. -/
theorem exists_total_pauses {delay : Duration} {ms : UInt64}
    (h : delay.totalNanos = ms.toNat * 1000000) :
    ∃ t, Duration.total? (List.replicate 10 delay) = some t ∧
      t.totalNanos = 10 * ms.toNat * 1000000 := by
  have hsum : ((List.replicate 10 delay).map Duration.totalNanos).sum =
      10 * ms.toNat * 1000000 := by
    rw [List.map_replicate, List.sum_replicate_nat, h, Nat.mul_assoc]
  -- ten times the largest number of milliseconds is far below 64 bits of seconds
  have hlt : 10 * ms.toNat * 1000000 < UInt64.size * 1000000000 := by
    have hms : ms.toNat < UInt64.size := ms.toNat_lt
    omega
  obtain ⟨t, ht⟩ := Duration.exists_totalNanos hlt
  exact ⟨t, Duration.total?_eq_some_iff.mpr (ht.trans hsum.symm), ht⟩

/-- **Delays arrive as they were set.** A delay of milliseconds in a configuration is the delay of
the settings, whatever revision is chosen; on sinks that take everything, the run comes to its end,
has recorded exactly ten pauses of exactly this length, which can be added up, and has told the log
exactly this number. Any other delay that a driver is given is that of each pause that the run comes
to, on whatever sinks; the log is told its whole milliseconds, up to 64 bits. -/
theorem delays_arrive :
    (∀ (config : Option Config) (env : Option String) (ms : UInt64) (sleeper : Sleeper)
        (out : SinkId) (c : Counter) (b : Bench),
      Config.SetsDelay config ms → sleeper.records = true → (b.sink out).Accepts →
        (b.sink c.sink).Accepts →
      let s := Settings.resolve config env
      let ran := ((Driver.ofSettings s).withSleeper sleeper).run out ⟨c, b⟩
      (∃ summary, ran.1 = .ok summary) ∧ s.delay.totalNanos = ms.toNat * 1000000 ∧
        ran.2.bench.slept = b.slept ++ List.replicate 10 s.delay ∧
        (∃ t, Duration.total? (List.replicate 10 s.delay) = some t ∧
          t.totalNanos = 10 * ms.toNat * 1000000) ∧
        ∃ events, ran.2.bench.journal = b.journal ++ tellsDelay s.revision ms.toNat :: events) ∧
    ∀ (d : Driver) (delay : Duration) (out : SinkId) (s : Stage),
      let ran := (d.withDelay delay).run out s
      ∃ pauses, Waits d.revision delay d.sleeper.records s.bench ran.2.bench pauses ∧
        pauses ≤ 10 ∧ ∀ summary, ran.1 = .ok summary → pauses = 10 := by
  refine ⟨?_, fun d delay out s => exists_waits (d.withDelay delay) out s⟩
  intro config env ms sleeper out c b hsets hrecords hout hown s ran
  let d := (Driver.ofSettings s).withSleeper sleeper
  have hdelay : s.delay.totalNanos = ms.toNat * 1000000 :=
    (Settings.merged_resolve config env).set ms hsets
  obtain ⟨st, hall⟩ : ∃ st, d.performAll out d.moves ⟨c, b⟩ = (.ok (), st) :=
    exists_performAll_of_accepts (Settings.prints_reported s sleeper) hout hown
  have hran : ran = (.ok _, st) := Driver.run_of_ok hall
  have hwaits : Waits s.revision s.delay true b st.bench 10 := by
    rw [← hrecords]
    exact (lockstep_of_ok hall).waits
  rw [hran]
  refine ⟨⟨_, rfl⟩, hdelay, hwaits.slept, exists_total_pauses hdelay, ?_⟩
  -- the milliseconds of a delay that fits in 64 bits are what was set
  have hms : min (s.delay.totalNanos / 1000000) (2 ^ 64 - 1) = ms.toNat := by
    have hlt := ms.toNat_lt
    omega
  rw [← hms]
  exact hwaits.told

/-- The longest delay that a configuration can set, under a revision from the environment; and the
longest one that there is, of which the log is told less. -/
theorem delays_arrive_longest :
    let config : Option Config := some { run := some { delayMs := some 0xffffffffffffffff } }
    let s := Settings.resolve config (some "initial")
    let longest : Duration := ⟨0xffffffffffffffff, 999999999, by decide⟩
    let d := (Driver.new .final).withSleeper .recorder
    let b : Bench := {}
    let ran := ((Driver.ofSettings s).withSleeper .recorder).run 0 ⟨.new 0, b⟩
    let ran' := (d.withDelay longest).run 0 ⟨.new 0, b⟩
    Config.SetsDelay config 0xffffffffffffffff ∧ (b.sink 0).Accepts ∧
      s.delay.totalNanos = (2 ^ 64 - 1) * 1000000 ∧
      ran.2.bench.slept = b.slept ++ List.replicate 10 s.delay ∧
      (∃ t, Duration.total? (List.replicate 10 s.delay) = some t ∧
        t.totalNanos = 10 * (2 ^ 64 - 1) * 1000000) ∧
      (∃ events, ran.2.bench.journal = b.journal ++ tellsDelay .initial (2 ^ 64 - 1) :: events) ∧
      ran'.2.bench.slept = b.slept ++ List.replicate 10 longest ∧
      ∃ events, ran'.2.bench.journal = b.journal ++ tellsDelay .final (2 ^ 64 - 1) :: events := by
  intro config s longest d b
  have hsets : Config.SetsDelay config 0xffffffffffffffff := ⟨_, _, rfl, rfl, rfl⟩
  have haccepts : (b.sink 0).Accepts := Sink.accepts_default
  have hms : (0xffffffffffffffff : UInt64).toNat = 2 ^ 64 - 1 := by decide
  have hrevision : (Settings.resolve config (some "initial")).revision = .initial := by
    decide +kernel
  have hset := delays_arrive.1 config (some "initial") 0xffffffffffffffff .recorder 0 (.new 0) b
    hsets rfl haccepts haccepts
  rw [hms] at hset
  obtain ⟨-, hdelay, hslept, htotal, htold⟩ := hset
  rw [hrevision] at htold
  obtain ⟨pauses, hpauses, -, hten⟩ := delays_arrive.2 d longest 0 ⟨.new 0, b⟩
  -- a driver without a reporter comes to its end
  obtain ⟨st, hall⟩ : ∃ st, (d.withDelay longest).performAll 0 (d.withDelay longest).moves
      ⟨.new 0, b⟩ = (.ok (), st) :=
    exists_performAll_of_accepts Reporter.prints_silent haccepts haccepts
  obtain rfl : pauses = 10 := hten _ (congrArg Prod.fst (Driver.run_of_ok hall))
  have hwaits : Waits .final longest true b
      ((d.withDelay longest).run 0 ⟨.new 0, b⟩).2.bench 10 := hpauses
  have hnanos : min (longest.totalNanos / 1000000) (2 ^ 64 - 1) = 2 ^ 64 - 1 := by decide
  obtain ⟨htold', hslept'⟩ := hwaits
  rw [hnanos] at htold'
  rw [if_pos rfl] at hslept'
  -- nothing is left to compute, least of all the runs
  with_reducible
    exact ⟨hsets, haccepts, hdelay, hslept, htotal, htold, hslept', htold'⟩

end TraceTarget
