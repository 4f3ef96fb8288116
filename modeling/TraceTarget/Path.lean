import TraceTarget.Text.Quoted
import TraceTarget.Text.Utf8

/-!
# Paths

A path is a sequence of bytes, usually the UTF-8 form of a text, in which slashes separate names.

- `Path.join`: a path below another one.
- `Path.display`, `Path.quoted`: how a path is shown, as it is and in quotes. Bytes that belong to
  no character are shown as U+FFFD in the one and by their number in the other.
- `Path.above?`: a path without its last name.
- `Path.names`: the names of a path from left to right.
-/

namespace TraceTarget

/-- A path, which may be any bytes. -/
structure Path where
  bytes : Text.Bytes
  deriving DecidableEq, Repr, Inhabited

namespace Path

/-- The byte that separates names. -/
def slash : UInt8 := 0x2f

/-- The path that a text is. -/
def ofString (s : String) : Path :=
  ⟨Text.encode s.toList⟩

/-- A path below another one. A slash is put between the two unless there is one already. -/
def join (base : Path) (below : String) : Path :=
  let tail := Text.encode below.toList
  if base.bytes = [] ∨ base.bytes.getLast? = some slash then ⟨base.bytes ++ tail⟩
  else ⟨base.bytes ++ slash :: tail⟩

/-- A path as it is shown. -/
def display (p : Path) : String :=
  String.ofList (Text.display p.bytes)

/-- A byte by its number, as it is shown in quotes. -/
def numberedByte (b : UInt8) : List Char :=
  '\\' :: 'x' :: [digit (b.toNat / 16), digit (b.toNat % 16)]
where
  /-- A hexadecimal digit in upper case. -/
  digit (n : Nat) : Char := (Nat.digitChar n).toUpper

/-- A path in quotes. -/
def quoted (p : Path) : String :=
  String.ofList <| '"' :: (Text.segments p.bytes).flatMap (fun
    | .char c => Text.escape c
    | .junk bytes => bytes.flatMap numberedByte) ++ ['"']

/-- Whether a path begins at the root. -/
def isAbsolute (p : Path) : Bool :=
  p.bytes.head? = some slash

/-- A path without its last name and the slash before it. A path without a slash has nothing above
it. -/
def above? (p : Path) : Option Path :=
  if p.bytes.contains slash then
    some ⟨((p.bytes.reverse.dropWhile (· ≠ slash)).drop 1).reverse⟩
  else none

/-- The names of a path from left to right. Slashes without a name between them give empty names. -/
def names (p : Path) : List Text.Bytes :=
  p.bytes.splitOn slash

end Path

end TraceTarget
