import TraceTarget.Counter
import TraceTarget.Reporter
import TraceTarget.Settings

/-!
# Drivers

A driver leads one run: the start banner, ten iterations that each print from the free function and
from the counter and then pause, the external reporter if the revision calls it, and the end
banner. A run is a list of moves that are made one after the other until one of them fails.

- `Driver.span`: the span in which a run tells the log everything.
- `Driver.moves`: the moves of a run.
- `Driver.perform`: makes one move.
- `Driver.performAll`: makes moves until one fails; `performAll_error` says where it does.
- `Driver.run`: a whole run.
-/

namespace TraceTarget

/-- What waits between iterations, owned or lent any number of times. -/
inductive Sleeper where
  /-- Waits for real and leaves no trace. -/
  | clock
  /-- Records the pauses on the bench. -/
  | recorder
  | lent (inner : Sleeper)
  deriving DecidableEq, Repr, Inhabited

/-- Waits for a while. -/
def Sleeper.sleep (d : Duration) : Sleeper → Bench → Bench
  | .clock, b => b
  | .recorder, b => b.pause d
  | .lent s, b => s.sleep d b

/-- Whether a sleeper records the pauses in the end. -/
def Sleeper.records : Sleeper → Bool
  | .clock => false
  | .recorder => true
  | .lent s => s.records

/-- A sleeper either records a pause or leaves no trace of it. -/
theorem Sleeper.sleep_eq (d : Duration) (s : Sleeper) (b : Bench) :
    s.sleep d b = if s.records then b.pause d else b := by
  induction s with
  | clock => rfl
  | recorder => rfl
  | lent s ih => exact ih

/-- The lines that a run names when it cannot write them. -/
inductive Label where
  | startBanner
  | funcLine
  | testLine
  | endBanner
  deriving DecidableEq, Repr

/-- How a line is named. -/
def Label.text : Label → String
  | startBanner => "start banner"
  | funcLine => "func line"
  | testLine => "test line"
  | endBanner => "end banner"

/-- Why a run stopped before its end. -/
inductive Halt where
  | write (label : Label) (fault : Fault)
  | reporter (fault : Fault)
  | panicked
  deriving DecidableEq, Repr

/-- The wording of a stop; a panic leaves nobody to word it. -/
def Halt.message : Halt → String
  | write label fault => "failed to write " ++ label.text ++ ": " ++ fault.message
  | reporter fault => "external reporter failed: " ++ fault.message
  | panicked => "panicked"

/-- What a run that reached its end did. -/
structure Summary where
  revision : Revision
  iterations : UInt32
  finalCount : UInt32
  reporterCalled : Bool
  deriving DecidableEq, Repr

/-- Leads runs. -/
structure Driver where
  revision : Revision
  delay : Duration
  reporter : Reporter := .silent
  sleeper : Sleeper := .clock

/-- What a run changes: its counter and the bench. -/
structure Stage where
  counter : Counter
  bench : Bench

/-- A fresh stage: the counter of a revision and a driver share sink 0, which follows a plan. -/
def Stage.onOneSink (r : Revision) (p : Sink.Plan) : Stage :=
  ⟨.forRevision 0 r, ({} : Bench).withSink 0 (.ofPlan p)⟩

/-- A step of a run. -/
inductive Move where
  /-- Tells the log that the run begins. -/
  | begin
  /-- Prints a banner. -/
  | banner (label : Label) (line : Line)
  /-- Prints from the free function. -/
  | func (index : UInt32)
  /-- Prints from the counter. -/
  | test (index : UInt32)
  /-- Tells the log that an iteration is over. -/
  | iterated (index : UInt32)
  /-- Waits. -/
  | pause
  /-- Calls the external reporter and flushes what it wrote. -/
  | report
  /-- Tells the log that the reporter is back. -/
  | reported
  /-- Tells the log that the run is over. -/
  | done
  deriving DecidableEq, Repr

namespace Driver

/-! ### Making drivers -/

/-- A driver for a revision, with the revision's delay, a silent reporter and the clock. -/
def new (r : Revision) : Driver :=
  { revision := r, delay := r.delay }

/-- The same driver with another delay. -/
def withDelay (d : Driver) (delay : Duration) : Driver :=
  { d with delay }

/-- The same driver with another reporter. -/
def withReporter (d : Driver) (reporter : Reporter) : Driver :=
  { d with reporter }

/-- The same driver with another sleeper. -/
def withSleeper (d : Driver) (sleeper : Sleeper) : Driver :=
  { d with sleeper }

/-- A driver for settings. Its reporter prints the message, if there is one. -/
def ofSettings (s : Settings) : Driver :=
  (new s.revision).withDelay s.delay |>.withReporter <| .boxed <|
    match s.message with
    | some text => .message text
    | none => .silent

/-! ### What the log hears of a run -/

/-- The span of a run, which shows the revision. -/
def span (d : Driver) : Event.Span :=
  { name := "run", fields := [("revision", d.revision.name)] }

/-- An event as it is told in a run. -/
def within (d : Driver) (e : Event) : Event :=
  { e with span := some d.span }

/-- The run begins. -/
def startedEvent (d : Driver) : Event where
  level := .info
  message := "Starting demo loop"
  fields := [("delay_ms", Text.decimal d.delay.millis)]

/-- An iteration is over. -/
def iterationEvent (index count : UInt32) : Event where
  level := .debug
  message := "Iteration done"
  fields := [("index", Text.decimal index.toNat), ("count", Text.decimal count.toNat)]

/-- The reporter is back. -/
def reportedEvent : Event where
  level := .debug
  message := "External reporter returned"

/-- The run is over. -/
def finishedEvent (count : UInt32) : Event where
  level := .info
  message := "Demo loop finished"
  fields :=
    [("iterations", Text.decimal Line.iterations.toNat), ("final_count", Text.decimal count.toNat)]

/-! ### Running -/

/-- The indices of the iterations. -/
def indices : List UInt32 :=
  (List.range Line.iterations.toNat).map UInt32.ofNat

/-- The moves of one iteration. -/
def iteration (index : UInt32) : List Move :=
  [.func index, .test index, .iterated index, .pause]

/-- The moves of a run. -/
def moves (d : Driver) : List Move :=
  .begin :: .banner .startBanner .start :: indices.flatMap iteration ++
    (if d.revision.callsReporter then [.report, .reported] else []) ++
    [.banner .endBanner .finish, .done]

/-- Notes on the bench what a request to a sink came to. -/
def settle (s : Stage) (halt : Fault → Halt) : Except Fault Unit × Bench → Except Halt Unit × Stage
  | (.ok (), bench) => (.ok (), { s with bench })
  | (.error fault, bench) => (.error (halt fault), { s with bench })

@[simp] theorem settle_result (s : Stage) (halt : Fault → Halt) (r : Except Fault Unit × Bench) :
    (settle s halt r).1 = r.1.mapError halt := by
  rcases r with ⟨_ | _, bench⟩ <;> rfl

@[simp] theorem settle_bench (s : Stage) (halt : Fault → Halt) (r : Except Fault Unit × Bench) :
    (settle s halt r).2.bench = r.2 := by
  rcases r with ⟨_ | _, bench⟩ <;> rfl

@[simp] theorem settle_counter (s : Stage) (halt : Fault → Halt) (r : Except Fault Unit × Bench) :
    (settle s halt r).2.counter = s.counter := by
  rcases r with ⟨_ | _, bench⟩ <;> rfl

/-- Tells the log, in the span of the run. -/
def tell (d : Driver) (s : Stage) (e : Event) : Except Halt Unit × Stage :=
  (.ok (), { s with bench := s.bench.log (d.within e) })

/-- Makes one move, with `out` as the driver's own sink. -/
def perform (d : Driver) (out : SinkId) (move : Move) (s : Stage) : Except Halt Unit × Stage :=
  match move with
  | .begin => d.tell s d.startedEvent
  | .banner label line => settle s (.write label) (s.bench.emit out line.bytes)
  | .func index => settle s (.write .funcLine) (s.bench.reportFunc out index)
  | .test index =>
    let (result, counter, bench) := s.counter.test index s.bench
    settle { s with counter } (.write .testLine) (result, bench)
  | .iterated index => d.tell s (iterationEvent index s.counter.count)
  | .pause => (.ok (), { s with bench := d.sleeper.sleep d.delay s.bench })
  | .report =>
    match d.reporter.report out s.bench with
    | (.done, bench) => settle s .reporter (bench.flush out)
    | (.failed fault, bench) => (.error (.reporter fault), { s with bench })
    | (.panicked, bench) => (.error .panicked, { s with bench })
  | .reported => d.tell s reportedEvent
  | .done => d.tell s (finishedEvent s.counter.count)

/-- Makes moves one after the other until one of them fails. -/
def performAll (d : Driver) (out : SinkId) : List Move → Stage → Except Halt Unit × Stage
  | [], s => (.ok (), s)
  | move :: rest, s =>
    match d.perform out move s with
    | (.ok (), s) => d.performAll out rest s
    | (.error halt, s) => (.error halt, s)

/-- A run that writes to `out`. The counter stays alive. -/
def run (d : Driver) (out : SinkId) (s : Stage) : Except Halt Summary × Stage :=
  match d.performAll out d.moves s with
  | (.ok (), s) =>
    (.ok { revision := d.revision
           iterations := Line.iterations
           finalCount := s.counter.count
           reporterCalled := d.revision.callsReporter }, s)
  | (.error halt, s) => (.error halt, s)

/-- Moves stop at the first one that fails: those before it succeeded. -/
theorem performAll_error {d : Driver} {out : SinkId} {ms : List Move} {s s' : Stage} {halt : Halt}
    (h : d.performAll out ms s = (.error halt, s')) :
    ∃ done move rest s₁, ms = done ++ move :: rest ∧ d.performAll out done s = (.ok (), s₁) ∧
      d.perform out move s₁ = (.error halt, s') := by
  induction ms generalizing s with
  | nil => cases congrArg Prod.fst h
  | cons m ms ih =>
    rw [performAll] at h
    rcases hm : d.perform out m s with ⟨halt' | u, s₂⟩
    · rw [hm] at h
      cases h
      exact ⟨[], m, ms, s, rfl, rfl, hm⟩
    · rw [hm] at h
      obtain ⟨done, move, rest, s₁, rfl, hdone, hmove⟩ := ih h
      refine ⟨m :: done, move, rest, s₁, rfl, ?_, hmove⟩
      rw [performAll, hm]
      exact hdone

/-- A run fails when one of its moves does. -/
theorem run_of_error {d : Driver} {out : SinkId} {s s' : Stage} {halt : Halt}
    (h : d.performAll out d.moves s = (.error halt, s')) : d.run out s = (.error halt, s') := by
  rw [run, h]

/-- A run whose moves all succeed says what it did. -/
theorem run_of_ok {d : Driver} {out : SinkId} {s s' : Stage}
    (h : d.performAll out d.moves s = (.ok (), s')) :
    d.run out s = (.ok ⟨d.revision, Line.iterations, s'.counter.count, d.revision.callsReporter⟩,
      s') := by
  rw [run, h]

end Driver

end TraceTarget
