import TraceTarget.Fault
import TraceTarget.Text.Utf8

/-!
# Sinks

A sink takes bytes and is flushed. What it does with a request depends only on the request and on
what it has been through: it may take all bytes of a write, or some of them from the front and then
fail; it may flush or fail to.

- `Sink.Behaviour`: any way in which a sink may answer.
- `Sink.Plan`: the ways used by the demonstration's tests, such as "takes 20 bytes in all".
- `Sink.write`, `Sink.flush`, `Sink.emit`: the requests; `emit` writes and then flushes.
- `Sink.bytes`: the view of a sink as the bytes it took.
-/

namespace TraceTarget

namespace Sink

/-- What a sink has been through. -/
structure Past where
  /-- How many bytes it took. -/
  taken : Nat := 0
  /-- How many writes failed. -/
  failedWrites : Nat := 0
  /-- How often it was flushed, whether that failed or not. -/
  flushes : Nat := 0
  deriving DecidableEq, Repr

/-- How a sink answers. A write of some bytes is answered by nothing when all of them are taken, or
by the number of bytes taken before the failure and its fault. -/
structure Behaviour where
  onWrite : Past → Text.Bytes → Option (Nat × Fault)
  onFlush : Past → Option Fault

/-- The sink that takes everything. -/
def Behaviour.accepting : Behaviour where
  onWrite _ _ := none
  onFlush _ := none

/-- The sink that takes nothing. -/
def Behaviour.failing (fault : Fault) : Behaviour where
  onWrite _ _ := some (0, fault)
  onFlush _ := some fault

instance : Inhabited Behaviour := ⟨.accepting⟩

/-- A plan for a sink that fails. -/
structure Plan where
  /-- How many bytes it takes in all; no number means any. -/
  accept : Option Nat := none
  /-- The first flush that fails, counted from 1. -/
  failFlush : Option Nat := none
  /-- Why a write fails. -/
  writeFault : Fault := .brokenPipe
  /-- Why a flush fails. -/
  flushFault : Fault := .brokenPipe
  /-- Whether the sink is well again after one failure of a kind. -/
  heals : Bool := false
  deriving DecidableEq, Repr, Inhabited

/-- A sink that follows a plan takes of a write what there is room for. -/
def Plan.behaviour (p : Plan) : Behaviour where
  onWrite past bs :=
    match p.accept with
    | none => none
    | some limit =>
      if p.heals ∧ 0 < past.failedWrites then none
      else if past.taken + bs.length ≤ limit then none
      else some (limit - past.taken, p.writeFault)
  onFlush past :=
    match p.failFlush with
    | none => none
    | some k =>
      if (if p.heals then past.flushes + 1 = k else k ≤ past.flushes + 1) then some p.flushFault
      else none

end Sink

/-- A sink: how it answers, what it has been through, and the bytes it took, the newest first. -/
structure Sink where
  behaviour : Sink.Behaviour := .accepting
  past : Sink.Past := {}
  newestFirst : Text.Bytes := []
  deriving Inhabited

namespace Sink

/-- The bytes that a sink took, in order. -/
def bytes (s : Sink) : Text.Bytes :=
  s.newestFirst.reverse

/-- A fresh sink that follows a plan. -/
def ofPlan (p : Plan) : Sink :=
  { behaviour := p.behaviour }

/-- The sink after it took some bytes. -/
def take (s : Sink) (bs : Text.Bytes) : Sink :=
  { s with
    past := { s.past with taken := s.past.taken + bs.length }
    newestFirst := bs.reverse ++ s.newestFirst }

/-- Writes all bytes, or those before a failure. Nothing is asked of the sink when there is nothing
to write. -/
def write (s : Sink) (bs : Text.Bytes) : Except Fault Unit × Sink :=
  if bs = [] then (.ok (), s)
  else
    match s.behaviour.onWrite s.past bs with
    | none => (.ok (), s.take bs)
    | some (n, fault) =>
      let s := s.take (bs.take n)
      (.error fault, { s with past := { s.past with failedWrites := s.past.failedWrites + 1 } })

/-- Passes on what was taken. -/
def flush (s : Sink) : Except Fault Unit × Sink :=
  let after := { s with past := { s.past with flushes := s.past.flushes + 1 } }
  match s.behaviour.onFlush s.past with
  | none => (.ok (), after)
  | some fault => (.error fault, after)

/-- Writes some bytes and flushes, unless the write failed. -/
def emit (s : Sink) (bs : Text.Bytes) : Except Fault Unit × Sink :=
  match s.write bs with
  | (.ok (), s) => s.flush
  | (.error fault, s) => (.error fault, s)

/-! ### The view of each operation -/

@[simp] theorem bytes_take (s : Sink) (bs : Text.Bytes) : (s.take bs).bytes = s.bytes ++ bs := by
  simp [bytes, take]

/-- A write adds a beginning of its bytes, and all of them if it succeeds. -/
theorem bytes_write (s : Sink) (bs : Text.Bytes) :
    ∃ n, (s.write bs).2.bytes = s.bytes ++ bs.take n ∧
      ((s.write bs).1 = .ok () → bs.take n = bs) := by
  unfold write
  split
  · next h => exact ⟨0, by simp [h], by simp [h]⟩
  · split
    · exact ⟨bs.length, by simp, by simp⟩
    · next n fault _ => exact ⟨n, bytes_take s (bs.take n), by simp⟩

@[simp] theorem bytes_flush (s : Sink) : s.flush.2.bytes = s.bytes := by
  unfold flush
  split <;> rfl

end Sink

end TraceTarget
