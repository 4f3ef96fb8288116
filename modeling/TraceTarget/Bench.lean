import TraceTarget.Duration
import TraceTarget.Event
import TraceTarget.Line
import TraceTarget.Registry
import TraceTarget.Sink

/-!
# The bench

All parties of a demonstration share one bench: the sinks, two exported words that a debugger
watches, the pauses asked for and the log.

- `Bench.sink`: the view of a bench at one sink.
- `Bench.write`, `Bench.flush`, `Bench.emit`: requests to one sink; the `_other` lemmas say that no
  other sink is touched.
- `Exports`: the exported words. They follow the program, and the program never reads them.
-/

namespace TraceTarget

/-- What a sink is known by. -/
abbrev SinkId := Nat

/-- The two exported words: the index of the iteration in progress and the latest count. -/
structure Exports where
  index : UInt64 := 0
  count : UInt64 := 0
  deriving DecidableEq, Repr, Inhabited

/-- What all parties of a demonstration share. -/
structure Bench where
  sinks : Registry SinkId Sink := .empty
  exports : Exports := {}
  /-- The recorded pauses, in order. -/
  slept : List Duration := []
  /-- The log, in order. -/
  journal : List Event := []
  deriving Inhabited

namespace Bench

/-- The sink of a name; a name without one stands for a fresh sink that takes everything. -/
def sink (b : Bench) (id : SinkId) : Sink :=
  (b.sinks.get? id).getD default

/-- The bench with a sink under a name. -/
def withSink (b : Bench) (id : SinkId) (s : Sink) : Bench :=
  { b with sinks := b.sinks.put id s }

/-- Writes to a sink. -/
def write (b : Bench) (id : SinkId) (bs : Text.Bytes) : Except Fault Unit × Bench :=
  let (result, s) := (b.sink id).write bs
  (result, b.withSink id s)

/-- Flushes a sink. -/
def flush (b : Bench) (id : SinkId) : Except Fault Unit × Bench :=
  let (result, s) := (b.sink id).flush
  (result, b.withSink id s)

/-- Writes to a sink and flushes it, unless the write failed. -/
def emit (b : Bench) (id : SinkId) (bs : Text.Bytes) : Except Fault Unit × Bench :=
  let (result, s) := (b.sink id).emit bs
  (result, b.withSink id s)

/-- Tells the log. -/
def log (b : Bench) (e : Event) : Bench :=
  { b with journal := b.journal ++ [e] }

/-- Records a pause. -/
def pause (b : Bench) (d : Duration) : Bench :=
  { b with slept := b.slept ++ [d] }

/-- The entry point that a debugger stops at before an index is printed: publishes the index. -/
def publishIndex (b : Bench) (index : UInt32) : Bench :=
  { b with exports := { b.exports with index := index.toUInt64 } }

/-- The entry point that a debugger stops at in each test: publishes the count. -/
def publishCount (b : Bench) (count : UInt32) : Bench :=
  { b with exports := { b.exports with count := count.toUInt64 } }

/-- The free reporting function: publishes the index and then prints its line. -/
def reportFunc (b : Bench) (id : SinkId) (index : UInt32) : Except Fault Unit × Bench :=
  (b.publishIndex index).emit id (Line.func index).bytes

/-! ### Views -/

@[simp] theorem sink_withSink_self (b : Bench) (id : SinkId) (s : Sink) :
    (b.withSink id s).sink id = s := by
  simp [sink, withSink]

theorem sink_withSink_other (b : Bench) {id id' : SinkId} (s : Sink) (h : id' ≠ id) :
    (b.withSink id s).sink id' = b.sink id' := by
  simp [sink, withSink, Registry.get?_put_other _ _ h]

theorem sink_write_other (b : Bench) {id id' : SinkId} (bs : Text.Bytes) (h : id' ≠ id) :
    (b.write id bs).2.sink id' = b.sink id' :=
  sink_withSink_other b _ h

theorem sink_flush_other (b : Bench) {id id' : SinkId} (h : id' ≠ id) :
    (b.flush id).2.sink id' = b.sink id' :=
  sink_withSink_other b _ h

theorem sink_emit_other (b : Bench) {id id' : SinkId} (bs : Text.Bytes) (h : id' ≠ id) :
    (b.emit id bs).2.sink id' = b.sink id' :=
  sink_withSink_other b _ h

end Bench

end TraceTarget
