import TraceTarget.Bench

/-!
# External reporters

After the loop a routine from outside the demonstration is called. All that is known of it is that
it may write to the sink it is given and flush it, may look at how that went, and ends well, with a
fault or in a panic.

- `Script`: a routine, as the tree of what it does and how it goes on.
- `Reporter`: a routine behind any number of wrappers; `Reporter.script` looks through them.
- `Reporter.report`: calls it.
-/

namespace TraceTarget

/-- How a routine ends. -/
inductive Ending where
  | done
  | failed (fault : Fault)
  | panicked
  deriving DecidableEq, Repr

/-- What a routine does with the sink it is given. -/
inductive Script where
  | finish (ending : Ending)
  | write (bytes : Text.Bytes) (next : Except Fault Unit → Script)
  | flush (next : Except Fault Unit → Script)

namespace Script

/-- Writes some bytes; a failure ends the routine with its fault. -/
def print (bytes : Text.Bytes) (next : Script) : Script :=
  .write bytes fun
    | .ok () => next
    | .error fault => .finish (.failed fault)

/-- Runs a routine on a sink of the bench. -/
def run (sink : SinkId) : Script → Bench → Ending × Bench
  | .finish ending, b => (ending, b)
  | .write bytes next, b =>
    let (result, b) := b.write sink bytes
    (next result).run sink b
  | .flush next, b =>
    let (result, b) := b.flush sink
    (next result).run sink b

end Script

/-- A reporter: a routine, owned or lent any number of times. -/
inductive Reporter where
  | plain (script : Script)
  | boxed (inner : Reporter)
  | lent (inner : Reporter)

namespace Reporter

/-- Does nothing. -/
def silent : Reporter := .plain (.finish .done)

/-- Prints a line. -/
def message (text : String) : Reporter :=
  .plain (.print (lineBytes text) (.finish .done))

instance : Inhabited Reporter := ⟨silent⟩

/-- The routine behind all wrappers. -/
def script : Reporter → Script
  | .plain s => s
  | .boxed r | .lent r => r.script

/-- Calls the reporter with a sink of the bench. -/
def report (sink : SinkId) : Reporter → Bench → Ending × Bench
  | .plain s, b => s.run sink b
  | .boxed r, b | .lent r, b => r.report sink b

/-- Wrappers do not show. -/
theorem report_eq_run_script (sink : SinkId) (r : Reporter) (b : Bench) :
    r.report sink b = r.script.run sink b := by
  induction r with
  | plain s => rfl
  | boxed r ih => exact ih
  | lent r ih => exact ih

end Reporter

end TraceTarget
