import Mathlib.Data.List.Basic
import Mathlib.Data.List.Induction
import TraceTarget.Proofs.Ledger

/-!
# Drivers run as they were fitted

A driver is made for a revision or for settings and then fitted with a delay, a reporter and a
sleeper, in any order and any number of times. Each call replaces what it is named for and leaves
the rest, so what was given last counts. Whoever gives a reporter or a sleeper may wrap it up first,
and wrappers do not show: a run asks a reporter for nothing but to be called, and a sleeper for
nothing but to wait.

- `Fitting`, `Driver.fitted`: calls that fit a driver, and the driver after some of them.
- `Driver.fitted_part`: what was given last counts, one lemma for all that can be given.
- `Reporter.bare`, `Sleeper.bare`: what is inside all wrappers.
- `Driver.Alike`: drivers that differ in wrappers only. `Alike.perform` is about one move,
  `Alike.run` about whole runs, and `Alike.runs` about runs one after the other, between which the
  routine inside may learn.
- `fitted_runs_as_plain`: however a driver was fitted, it runs as the one that holds what was given
  last, unwrapped.
-/

namespace TraceTarget

/-! ### Wrappers -/

/-- The routine without its wrappers. -/
def Reporter.bare : Reporter → Reporter
  | .plain s => .plain s
  | .boxed r | .lent r => r.bare

/-- The sleeper without its wrappers. -/
def Sleeper.bare : Sleeper → Sleeper
  | .lent s => s.bare
  | .clock => .clock
  | .recorder => .recorder

/-- The same wrappers with another routine inside. -/
def Reporter.taught (script : Script) : Reporter → Reporter
  | .plain _ => .plain script
  | .boxed r => .boxed (r.taught script)
  | .lent r => .lent (r.taught script)

namespace Reporter

variable (r : Reporter)

theorem bare_eq : r.bare = .plain r.script := by
  induction r with
  | plain s => rfl
  | boxed r ih => exact ih
  | lent r ih => exact ih

/-- Without its wrappers a reporter does the same. -/
theorem report_bare (id : SinkId) (b : Bench) : r.bare.report id b = r.report id b := by
  rw [bare_eq, report_eq_run_script id r]
  rfl

/-- What a reporter has learnt is all that it does. -/
theorem report_taught (script : Script) (id : SinkId) (b : Bench) :
    (r.taught script).report id b = script.run id b := by
  induction r with
  | plain s => rfl
  | boxed r ih => exact ih
  | lent r ih => exact ih

end Reporter

/-- Without its wrappers a sleeper waits the same. -/
theorem Sleeper.sleep_bare (s : Sleeper) (delay : Duration) (b : Bench) :
    s.bare.sleep delay b = s.sleep delay b := by
  induction s with
  | clock => rfl
  | recorder => rfl
  | lent s ih => exact ih

/-! ### Drivers that differ in wrappers -/

namespace Driver

/-- Two drivers that are the same for whoever only leads runs with them. -/
structure Alike (d d' : Driver) : Prop where
  revision : d.revision = d'.revision
  delay : d.delay = d'.delay
  report : ∀ id b, d.reporter.report id b = d'.reporter.report id b
  sleep : ∀ delay b, d.sleeper.sleep delay b = d'.sleeper.sleep delay b

/-- The same driver, whose reporter has learnt to do something else. -/
def taught (d : Driver) (script : Script) : Driver :=
  d.withReporter (d.reporter.taught script)

/-- One of several runs. Anything may happen before it, and the routine inside the reporter does
this time what it has learnt until then. -/
structure Turn where
  before : Stage → Stage
  script : Script
  out : SinkId

/-- Runs one after the other, each with what it came to and the stage that it left. -/
def runs (d : Driver) : List Turn → Stage → List (Except Halt Summary × Stage)
  | [], _ => []
  | t :: ts, s =>
    let ran := (d.taught t.script).run t.out (t.before s)
    ran :: d.runs ts ran.2

namespace Alike

variable {d d' : Driver}

theorem moves (h : Alike d d') : d.moves = d'.moves := by
  rw [Driver.moves, Driver.moves, h.revision]

/-- The log is told the same, in the same span. -/
theorem tell (h : Alike d d') (s : Stage) (e : Event) : d.tell s e = d'.tell s e := by
  have hspan : d.span = d'.span := by rw [span, span, h.revision]
  rw [Driver.tell, Driver.tell, within, within, hspan]

/-- A move comes to the same. -/
theorem perform (h : Alike d d') (out : SinkId) (move : Move) (s : Stage) :
    d.perform out move s = d'.perform out move s := by
  cases move with
  | begin =>
    have hevent : d.startedEvent = d'.startedEvent := by
      rw [startedEvent, startedEvent, h.delay]
    rw [Driver.perform, Driver.perform, hevent, h.tell]
  | pause => rw [Driver.perform, Driver.perform, h.delay, h.sleep]
  | report => rw [Driver.perform, Driver.perform, h.report]
  | banner label line => rfl
  | func index => rfl
  | test index => rfl
  | iterated index => exact h.tell s _
  | reported => exact h.tell s _
  | done => exact h.tell s _

/-- So do moves one after the other, however far they come. -/
theorem performAll (h : Alike d d') (out : SinkId) (ms : List Move) (s : Stage) :
    d.performAll out ms s = d'.performAll out ms s := by
  induction ms generalizing s with
  | nil => rfl
  | cons m ms ih =>
    rw [Driver.performAll, Driver.performAll, h.perform]
    rcases d'.perform out m s with ⟨halt | u, s₁⟩
    · rfl
    · exact ih s₁

/-- The same moves are attempted. -/
theorem attempted (h : Alike d d') (out : SinkId) (ms : List Move) (s : Stage) :
    d.attempted out ms s = d'.attempted out ms s := by
  induction ms generalizing s with
  | nil => rfl
  | cons m ms ih =>
    rw [Driver.attempted, Driver.attempted, h.perform]
    rcases d'.perform out m s with ⟨halt | u, s₁⟩
    · rfl
    · exact congrArg (m :: ·) (ih s₁)

/-- A run comes to the same, on whatever it is led. -/
theorem run (h : Alike d d') (out : SinkId) (s : Stage) : d.run out s = d'.run out s := by
  rw [Driver.run, Driver.run, h.moves, h.performAll, h.revision]

/-- Drivers stay alike when their reporters learn the same. -/
theorem taught (h : Alike d d') (script : Script) : Alike (d.taught script) (d'.taught script) where
  revision := h.revision
  delay := h.delay
  report id b :=
    (d.reporter.report_taught script id b).trans (d'.reporter.report_taught script id b).symm
  sleep := h.sleep

/-- Runs one after the other come to the same, whatever happens between them. -/
theorem runs (h : Alike d d') (ts : List Turn) (s : Stage) : d.runs ts s = d'.runs ts s := by
  induction ts generalizing s with
  | nil => rfl
  | cons t ts ih => rw [Driver.runs, Driver.runs, (h.taught t.script).run, ih]

end Alike

/-- A driver, and the same driver with a reporter and a sleeper that have no wrappers. -/
structure Unwraps (d plain : Driver) : Prop where
  revision : d.revision = plain.revision
  delay : d.delay = plain.delay
  reporter : d.reporter.bare = plain.reporter
  sleeper : d.sleeper.bare = plain.sleeper

theorem Unwraps.alike {d plain : Driver} (h : Unwraps d plain) : Alike d plain where
  revision := h.revision
  delay := h.delay
  report id b := by rw [← h.reporter, Reporter.report_bare]
  sleep delay b := by rw [← h.sleeper, Sleeper.sleep_bare]

end Driver

/-! ### Fitting a driver -/

/-- A call that fits a driver with something. -/
inductive Fitting where
  | delay (delay : Duration)
  | reporter (reporter : Reporter)
  | sleeper (sleeper : Sleeper)

namespace Fitting

/-- The delay that a call gives. -/
def delay? : Fitting → Option Duration
  | delay given => some given
  | reporter _ | sleeper _ => none

/-- The reporter that a call gives. -/
def reporter? : Fitting → Option Reporter
  | reporter given => some given
  | delay _ | sleeper _ => none

/-- The sleeper that a call gives. -/
def sleeper? : Fitting → Option Sleeper
  | sleeper given => some given
  | delay _ | reporter _ => none

/-- What is given last by some calls, if it is given at all. -/
def last? {α : Type} (given? : Fitting → Option α) (fs : List Fitting) : Option α :=
  (fs.filterMap given?).getLast?

theorem last?_concat {α : Type} (given? : Fitting → Option α) (fs : List Fitting) (f : Fitting) :
    last? given? (fs ++ [f]) = (given? f).or (last? given? fs) := by
  rw [last?, List.filterMap_append, List.getLast?_append]
  cases hf : given? f with
  | none => rw [List.filterMap_cons_none hf]; rfl
  | some a => rw [List.filterMap_cons_some hf]; rfl

end Fitting

namespace Driver

/-- A driver after a call that fits it. -/
def fit (d : Driver) : Fitting → Driver
  | .delay given => d.withDelay given
  | .reporter given => d.withReporter given
  | .sleeper given => d.withSleeper given

/-- A driver after some calls. -/
def fitted (d : Driver) (fs : List Fitting) : Driver :=
  fs.foldl fit d

/-- If each call replaces a part by what it gives, and leaves it when it gives nothing, then some
calls replace it by what was given last. -/
theorem fitted_part {α : Type} {part : Driver → α} {given? : Fitting → Option α}
    (hfit : ∀ d f, part (d.fit f) = (given? f).getD (part d)) (d : Driver) (fs : List Fitting) :
    part (d.fitted fs) = (Fitting.last? given? fs).getD (part d) := by
  induction fs using List.reverseRecOn with
  | nil => rfl
  | append_singleton fs f ih =>
    rw [fitted, List.foldl_concat, ← fitted, hfit, ih, Fitting.last?_concat]
    cases given? f <;> rfl

/-- A call replaces the part that it gives, and leaves every other one. -/
structure FitsWith (f : Fitting) (d d' : Driver) : Prop where
  revision : d'.revision = d.revision
  delay : d'.delay = f.delay?.getD d.delay
  reporter : d'.reporter = f.reporter?.getD d.reporter
  sleeper : d'.sleeper = f.sleeper?.getD d.sleeper

theorem fitsWith_fit (d : Driver) (f : Fitting) : FitsWith f d (d.fit f) := by
  cases f <;> exact ⟨rfl, rfl, rfl, rfl⟩

/-- No call changes the revision. -/
theorem fitted_revision (d : Driver) (fs : List Fitting) :
    (d.fitted fs).revision = d.revision := by
  induction fs generalizing d with
  | nil => rfl
  | cons f fs ih => exact (ih (d.fit f)).trans (fitsWith_fit d f).revision

/-! ### Where a driver comes from -/

/-- What a driver is made for. -/
inductive Origin where
  | new (revision : Revision)
  | ofSettings (settings : Settings)

namespace Origin

/-- The driver as it is made. -/
def driver : Origin → Driver
  | new r => .new r
  | ofSettings s => .ofSettings s

/-- The revision of the runs. -/
def revision : Origin → Revision
  | new r => r
  | ofSettings s => s.revision

/-- The delay as long as no other one is given. -/
def delay : Origin → Duration
  | new r => r.delay
  | ofSettings s => s.delay

/-- The reporter as long as no other one is given. -/
def reporter : Origin → Reporter
  | new _ => .silent
  | ofSettings s => (s.message.map Reporter.message).getD .silent

/-- The driver that holds what some calls gave last, without wrappers. -/
def plain (o : Origin) (fs : List Fitting) : Driver where
  revision := o.revision
  delay := (Fitting.last? Fitting.delay? fs).getD o.delay
  reporter := ((Fitting.last? Fitting.reporter? fs).getD o.reporter).bare
  sleeper := ((Fitting.last? Fitting.sleeper? fs).getD .clock).bare

/-- A driver as it is made holds what it is made for. -/
theorem unwraps_driver (o : Origin) : Unwraps o.driver (o.plain []) := by
  cases o with
  | new r => exact ⟨rfl, rfl, rfl, rfl⟩
  | ofSettings s =>
    obtain ⟨revision, delay, message⟩ := s
    cases message <;> exact ⟨rfl, rfl, rfl, rfl⟩

/-- A driver that was fitted holds what was given last. -/
theorem unwraps_fitted (o : Origin) (fs : List Fitting) :
    Unwraps (o.driver.fitted fs) (o.plain fs) where
  revision := (fitted_revision o.driver fs).trans o.unwraps_driver.revision
  delay := by
    rw [fitted_part (fun d f => (fitsWith_fit d f).delay), plain, o.unwraps_driver.delay]
    rfl
  reporter := by
    rw [fitted_part (fun d f => (fitsWith_fit d f).reporter), plain]
    cases Fitting.last? Fitting.reporter? fs with
    | none => exact o.unwraps_driver.reporter
    | some given => rfl
  sleeper := by
    rw [fitted_part (fun d f => (fitsWith_fit d f).sleeper), plain]
    cases Fitting.last? Fitting.sleeper? fs with
    | none => exact o.unwraps_driver.sleeper
    | some given => rfl

end Origin

end Driver

/-- **Builders and wrappers do not show.** However a driver was made and then fitted, in whatever
order and however often, and whatever the reporters and sleepers were wrapped in, it holds what was
given last, and runs as the driver that holds just that without wrappers: with the same moves, the
same result and the same stage left, on whatever it is led; and so do runs one after the other,
whatever happens between them and whatever the routine inside learns meanwhile. No call changes a
part that it does not give. -/
theorem fitted_runs_as_plain (o : Driver.Origin) (fs : List Fitting) :
    let built := o.driver.fitted fs
    let plain := o.plain fs
    Driver.Unwraps built plain ∧
    (∀ (out : SinkId) (s : Stage),
      built.attempted out built.moves s = plain.attempted out plain.moves s ∧
        built.run out s = plain.run out s) ∧
    (∀ (ts : List Driver.Turn) (s : Stage), built.runs ts s = plain.runs ts s) ∧
    ∀ (d : Driver) (f : Fitting), Driver.FitsWith f d (d.fit f) := by
  intro built plain
  have hunwraps : Driver.Unwraps built plain := o.unwraps_fitted fs
  have halike := hunwraps.alike
  refine ⟨hunwraps, fun out s => ⟨?_, halike.run out s⟩, halike.runs, Driver.fitsWith_fit⟩
  rw [halike.moves]
  exact halike.attempted out plain.moves s

end TraceTarget
