import TraceTarget.Driver

/-!
# Sessions

A session is a bench on which counters, sinks and drivers go by names and are used in any order.

- `Session.Operation`, `Session.Answer`: what can be asked, and what comes back.
- `Session.step`: one operation. An operation on a name that nothing has leaves all as it was.
- `Session.close`: the end of the session, at which the counters that are left end their lives in
  the order of their names.
- `Session.received`: what the sinks took between two states of a session.
-/

namespace TraceTarget

/-- A bench with names for what is on it. -/
structure Session where
  bench : Bench := {}
  /-- The next sink gets this number. -/
  fresh : SinkId := 0
  sinks : Registry String SinkId := .empty
  counters : Registry String Counter := .empty
  drivers : Registry String Driver := .empty

namespace Session

/-- What can be asked of a session. -/
inductive Operation where
  /-- Opens a sink. A counter keeps the sink it was made with, even when its name is given away. -/
  | openSink (name : String) (sink : Sink)
  /-- Makes a counter; the one that had the name before ends its life. -/
  | makeCounter (name sink : String) (revision : Option Revision) (report : Option EndReport)
  | test (counter : String) (index : UInt32)
  | tests (counter : String) (index : UInt32) (times : Nat)
  | setEndReport (counter : String) (report : EndReport)
  | retire (counter : String)
  | func (sink : String) (index : UInt32)
  | report (sink : String) (reporter : Reporter)
  /-- Enters the entry point that publishes an index. -/
  | enterFunc (index : UInt32)
  /-- Enters the entry point that publishes a count. -/
  | enterTest (index count : UInt32)
  /-- Overwrites both exported words. -/
  | poke (index count : UInt64)
  | sleep (delay : Duration)
  | makeDriver (name : String) (driver : Driver)
  | run (driver counter sink : String)

/-- What comes back from an operation. -/
inductive Answer where
  | done
  | counter (count : UInt32) (report : EndReport)
  | tested (result : Except Fault Unit) (count : UInt32)
  /-- How many of several tests could print their line. -/
  | testedMany (printed : Nat) (count : UInt32)
  | printed (result : Except Fault Unit)
  | reported (ending : Ending)
  | slept (pauses : List Duration)
  | driver (revision : Revision) (delay : Duration)
  | ran (result : Except Halt Summary) (count : UInt32) (pauses : Nat)
  /-- Nothing has this name. -/
  | unknown (name : String)

/-- Tests a counter several times; the number says how many lines could be printed. -/
def testMany (index : UInt32) : Nat → Counter → Bench → Nat × Counter × Bench
  | 0, c, b => (0, c, b)
  | n + 1, c, b =>
    let (result, c, b) := c.test index b
    let (printed, c, b) := testMany index n c b
    (match result with | .ok () => printed + 1 | .error _ => printed, c, b)

/-- Ends the life of the counter of a name, if there is one. -/
def retire (s : Session) (name : String) : Session :=
  match s.counters.get? name with
  | some c => { s with bench := c.retire s.bench, counters := s.counters.erase name }
  | none => s

/-- One operation. -/
def step (s : Session) : Operation → Answer × Session
  | .openSink name sink =>
    (.done, { s with
      bench := s.bench.withSink s.fresh sink
      fresh := s.fresh + 1
      sinks := s.sinks.put name s.fresh })
  | .makeCounter name sink revision report =>
    match s.sinks.get? sink with
    | none => (.unknown sink, s)
    | some id =>
      let made := match revision with | some r => Counter.forRevision id r | none => .new id
      let made := match report with | some r => made.withEndReport r | none => made
      let s := s.retire name
      (.counter made.count made.endReport, { s with counters := s.counters.put name made })
  | .test name index =>
    match s.counters.get? name with
    | none => (.unknown name, s)
    | some c =>
      let (result, c, bench) := c.test index s.bench
      (.tested result c.count, { s with bench, counters := s.counters.put name c })
  | .tests name index times =>
    match s.counters.get? name with
    | none => (.unknown name, s)
    | some c =>
      let (printed, c, bench) := testMany index times c s.bench
      (.testedMany printed c.count, { s with bench, counters := s.counters.put name c })
  | .setEndReport name report =>
    match s.counters.get? name with
    | none => (.unknown name, s)
    | some c =>
      let c := c.withEndReport report
      (.counter c.count c.endReport, { s with counters := s.counters.put name c })
  | .retire name =>
    match s.counters.get? name with
    | none => (.unknown name, s)
    | some _ => (.done, s.retire name)
  | .func sink index =>
    match s.sinks.get? sink with
    | none => (.unknown sink, s)
    | some id =>
      let (result, bench) := s.bench.reportFunc id index
      (.printed result, { s with bench })
  | .report sink reporter =>
    match s.sinks.get? sink with
    | none => (.unknown sink, s)
    | some id =>
      let (ending, bench) := reporter.report id s.bench
      (.reported ending, { s with bench })
  | .enterFunc index => (.done, { s with bench := s.bench.publishIndex index })
  | .enterTest _ count => (.done, { s with bench := s.bench.publishCount count })
  | .poke index count => (.done, { s with bench := { s.bench with exports := { index, count } } })
  | .sleep delay =>
    let bench := s.bench.pause delay
    (.slept bench.slept, { s with bench })
  | .makeDriver name driver =>
    (.driver driver.revision driver.delay, { s with drivers := s.drivers.put name driver })
  | .run driver counter sink =>
    match s.drivers.get? driver, s.counters.get? counter, s.sinks.get? sink with
    | none, _, _ => (.unknown driver, s)
    | _, none, _ => (.unknown counter, s)
    | _, _, none => (.unknown sink, s)
    | some d, some c, some id =>
      let (result, after) := d.run id ⟨c, s.bench⟩
      (.ran result after.counter.count (after.bench.slept.length - s.bench.slept.length),
        { s with bench := after.bench, counters := s.counters.put counter after.counter })

/-- The operations of a session, each with its answer and the state it led to. -/
def steps (s : Session) : List Operation → List (Answer × Session)
  | [] => []
  | op :: ops =>
    let (answer, next) := s.step op
    (answer, next) :: next.steps ops

/-- The end of a session: the counters that are left end their lives in the order of their names. -/
def close (s : Session) : Session :=
  (s.counters.entries.map Prod.fst).mergeSort (fun a b => decide (a ≤ b)) |>.foldl retire s

/-- What each sink that has a name took since an earlier state. -/
def received (before after : Session) : List (String × Text.Bytes) :=
  after.sinks.entries.map fun (name, id) =>
    let sink := after.bench.sink id
    (name, (sink.newestFirst.take (sink.past.taken - (before.bench.sink id).past.taken)).reverse)

end Session

end TraceTarget
