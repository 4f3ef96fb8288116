/-!
# Lengths of time

A duration is a number of seconds that fits in 64 bits and a remainder in nanoseconds. Pauses are
requested, logged and added up in this form.

- `Duration.totalNanos`: the view of a duration as one number.
- `Duration.ofMillis`: any 64-bit number of milliseconds; all of them fit.
- `Duration.millis`: the whole milliseconds, as a log shows them.
- `Duration.total?`: the sum of a list, unless its seconds leave 64 bits.
-/

namespace TraceTarget

/-- A length of time: seconds in 64 bits, and nanoseconds below one second. -/
structure Duration where
  secs : UInt64
  nanos : Nat
  nanos_lt : nanos < 1000000000
  deriving DecidableEq, Repr

namespace Duration

/-- No time at all. -/
def zero : Duration := ⟨0, 0, by decide⟩

instance : Inhabited Duration := ⟨zero⟩

/-- The length in nanoseconds. -/
def totalNanos (d : Duration) : Nat :=
  d.secs.toNat * 1000000000 + d.nanos

/-- The duration of a number of milliseconds. -/
def ofMillis (ms : UInt64) : Duration where
  secs := ms / 1000
  nanos := (ms % 1000).toNat * 1000000
  nanos_lt := by
    have : (ms % 1000).toNat < 1000 := by
      rw [UInt64.toNat_mod]; exact Nat.mod_lt _ (by decide)
    omega

/-- The duration of a number of seconds and nanoseconds; whole seconds among the nanoseconds are
carried over, and nothing is left when the seconds leave 64 bits. -/
def ofParts? (secs nanos : Nat) : Option Duration :=
  let s := secs + nanos / 1000000000
  if s < UInt64.size then some ⟨.ofNat s, nanos % 1000000000, Nat.mod_lt _ (by decide)⟩ else none

/-- The sum of two durations, unless its seconds leave 64 bits. -/
def add? (a b : Duration) : Option Duration :=
  ofParts? (a.secs.toNat + b.secs.toNat) (a.nanos + b.nanos)

/-- The sum of a list of durations, added one after the other. -/
def total? (ds : List Duration) : Option Duration :=
  ds.foldlM add? zero

/-- The whole milliseconds of a duration; more than 64 bits hold are shown as the largest number
that they do hold. -/
def millis (d : Duration) : Nat :=
  min (d.secs.toNat * 1000 + d.nanos / 1000000) (UInt64.size - 1)

/-! ### Small laws -/

@[simp] theorem totalNanos_zero : totalNanos zero = 0 := rfl

/-- A number of milliseconds becomes exactly that many millions of nanoseconds. -/
theorem totalNanos_ofMillis (ms : UInt64) : (ofMillis ms).totalNanos = ms.toNat * 1000000 := by
  simp only [totalNanos, ofMillis, UInt64.toNat_div, UInt64.toNat_mod, UInt64.reduceToNat]
  omega

end Duration

end TraceTarget
