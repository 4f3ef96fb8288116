import TraceTarget.Toml.Quotation
import TraceTarget.Toml.Value

/-!
# Keys

A key is a bare word of ASCII letters, digits, `_` and `-`, or a string within a line. Several keys
with dots between them name a place inside nested tables.

- `KeyPath`: the keys of nested tables and the key in the innermost.
- `key`, `keyPath`: a single key and a dotted one at the front of a text.
-/

namespace TraceTarget.Toml

/-- A dotted key: the keys of the tables to go through, and the key there. -/
structure KeyPath where
  parents : List Key
  last : Key
  deriving Repr

/-- All keys of a dotted key. -/
def KeyPath.keys (p : KeyPath) : List Key :=
  p.parents ++ [p.last]

/-- The most keys that a dotted key may have. -/
def maxKeys : Nat := 80

/-- The characters of a bare key. -/
def isBareKey (c : Char) : Bool :=
  ('a' ≤ c && c ≤ 'z') || ('A' ≤ c && c ≤ 'Z') || isDigit c || c = '_' || c = '-'
where
  /-- The ASCII digits. -/
  isDigit (c : Char) : Bool := '0' ≤ c && c ≤ '9'

/-- The text of a single key, and the rest. -/
def keyText (cs : List Char) : Option (List Char × List Char) :=
  match cs with
  | '"' :: rest => basic rest
  | '\'' :: rest => literal rest
  | _ =>
    let (word, rest) := cs.span isBareKey
    if word = [] then none else some (word, rest)

/-- A single key. -/
def key (cs : List Char) : Option (Key × List Char) :=
  (keyText cs).map fun (text, rest) => (⟨String.ofList text, .between cs rest⟩, rest)

/-- A dotted key of at most so many keys, with spaces around the dots and after the last key. -/
def keyPathUpTo : Nat → List Char → Option (KeyPath × List Char)
  | 0, _ => none
  | n + 1, cs => do
    let (k, rest) ← key cs
    match skipSpaces rest with
    | '.' :: more =>
      let (path, rest) ← keyPathUpTo n (skipSpaces more)
      return (⟨k :: path.parents, path.last⟩, rest)
    | rest => return (⟨[], k⟩, rest)

/-- A dotted key, with the spaces after it. -/
def keyPath (cs : List Char) : Option (KeyPath × List Char) :=
  keyPathUpTo maxKeys cs

end TraceTarget.Toml
