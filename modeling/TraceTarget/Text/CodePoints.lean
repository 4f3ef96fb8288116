/-!
# Sets of characters

Properties of characters that Unicode lists, and no rule gives, are kept as ranges of code points.

- `CodePoints`: a set of code points.
- `CodePoints.has`: whether it has a character.
-/

namespace TraceTarget.Text

/-- Runs of code points, each by its first and its last, in increasing order. -/
abbrev CodePoints := List (Nat × Nat)

/-- Whether a character is in one of the runs. -/
def CodePoints.has (runs : CodePoints) (c : Char) : Bool :=
  runs.any fun (first, last) => first ≤ c.toNat && c.toNat ≤ last

end TraceTarget.Text
