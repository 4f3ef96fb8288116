import TraceTarget.Toml.Span

/-!
# Documents as trees

A TOML document is a tree of tables. Every key and every value remembers where it stands.

- `Value`: what a key can have.
- `Number`: the floating-point numbers as they are written, before they are rounded.
-/

namespace TraceTarget.Toml

/-- A floating-point number as it is written. -/
inductive Number where
  /-- `digits · 10 ^ scale`, with a sign. -/
  | finite (negative : Bool) (digits : Nat) (scale : Int)
  | infinite (negative : Bool)
  | notANumber
  deriving DecidableEq, Repr

/-- A key. The place is that of the key as written, with its quotes. -/
structure Key where
  name : String
  span : Span
  deriving DecidableEq, Repr

/-- What a key can have. -/
inductive Value where
  | string (text : String)
  | integer (n : Int)
  /-- A word that passes for an integer and is none. -/
  | numberless
  | float (n : Number)
  | boolean (b : Bool)
  /-- A date, a time, or both. Only their form is looked at, so their parts are not kept. -/
  | datetime
  | array (items : List (Located Value))
  | table (entries : List (Key × Located Value))

instance : Inhabited Value := ⟨.table []⟩

/-- The entries of a table. -/
abbrev Entries := List (Key × Located Value)

end TraceTarget.Toml
