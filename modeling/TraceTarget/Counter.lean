import TraceTarget.Bench
import TraceTarget.Revision

/-!
# Counters

A counter prints a line for every test and keeps the number of tests. It owns the sink it was made
with, so that it can still write when its life ends.

- `Counter.test`: counts, publishes the count, prints.
- `Counter.retire`: the end of its life. Nobody is left to hear of a failure then, so that goes to
  the log.
-/

namespace TraceTarget

/-- A counter. -/
structure Counter where
  count : UInt32 := 0
  /-- Whether tests are counted. -/
  tracking : Bool := true
  /-- What is written at the end of its life. -/
  endReport : EndReport := .silent
  sink : SinkId
  /-- Nothing is ever counted by a counter that does not count. -/
  idle : tracking = false → count = 0 := by simp
  deriving DecidableEq, Repr

namespace Counter

/-- A counter that counts and ends in silence. -/
def new (sink : SinkId) : Counter :=
  { sink }

/-- A counter as a revision has it. -/
def forRevision (sink : SinkId) (r : Revision) : Counter :=
  { tracking := r.tracksCount, endReport := r.endReport, sink }

/-- The same counter with another end. -/
def withEndReport (c : Counter) (report : EndReport) : Counter :=
  { c with endReport := report }

/-- The next number, or the same if there is none in 32 bits. -/
def saturatingSucc (n : UInt32) : UInt32 :=
  if n = 0xffffffff then n else n + 1

/-- The counter after one more test. -/
def bump (c : Counter) : Counter :=
  if h : c.tracking then { c with count := saturatingSucc c.count, idle := by simp [h] } else c

@[simp] theorem bump_sink (c : Counter) : c.bump.sink = c.sink := by
  unfold bump
  split <;> rfl

@[simp] theorem bump_tracking (c : Counter) : c.bump.tracking = c.tracking := by
  unfold bump
  split <;> rfl

@[simp] theorem bump_endReport (c : Counter) : c.bump.endReport = c.endReport := by
  unfold bump
  split <;> rfl

/-- Counts, publishes the count and prints the line of a test. The test is counted whether or not
its line can be printed. -/
def test (c : Counter) (index : UInt32) (b : Bench) : Except Fault Unit × Counter × Bench :=
  let c := c.bump
  let (result, b) := (b.publishCount c.count).emit c.sink (Line.test index).bytes
  (result, c, b)

/-- A test, part by part. -/
theorem test_eq (c : Counter) (index : UInt32) (b : Bench) :
    c.test index b =
      (((b.publishCount c.bump.count).emit c.sink (Line.test index).bytes).1, c.bump,
        ((b.publishCount c.bump.count).emit c.sink (Line.test index).bytes).2) := by
  simp only [test, bump_sink]

/-- What a failure at the end of a counter's life tells the log. -/
def endFailure (count : UInt32) (fault : Fault) : Event where
  level := .error
  message := "Failed to write destructor line: " ++ fault.message
  fields := [("count", Text.decimal count.toNat)]

/-- The end of a counter's life. -/
def retire (c : Counter) (b : Bench) : Bench :=
  match c.endReport with
  | .silent => b
  | .hexCount =>
    match b.emit c.sink (Line.destructor c.count).bytes with
    | (.ok (), b) => b
    | (.error fault, b) => b.log (endFailure c.count fault)

end Counter

end TraceTarget
