import TraceTarget.Toml.Draft
import TraceTarget.Toml.Scalar

/-!
# Values

A value is a string, a bare scalar, an array or an inline table. Arrays and inline tables may be
nested; how deep is bounded, and the bound is what their reader recurses on.

- `quoted?`: a string, for which the opening quotes tell the form.
- `items`, `pairs`: the insides of an array and of an inline table.
- `value`: any value at the front of a text.
-/

namespace TraceTarget.Toml

/-- How deep arrays and inline tables may be nested. -/
def maxDepth : Nat := 80

/-- A string at the front of a text. -/
def quoted? (cs : List Char) : Option (List Char × List Char) :=
  match cs with
  | '"' :: '"' :: '"' :: rest => basicBlock rest
  | '"' :: rest => basic rest
  | '\'' :: '\'' :: '\'' :: rest => literalBlock rest
  | '\'' :: rest => literal rest
  | _ => none

/-- A value without values inside it. -/
def atom (cs : List Char) : Option (Value × List Char) :=
  if cs.head? = some '"' ∨ cs.head? = some '\'' then
    (quoted? cs).map fun (text, rest) => (.string (String.ofList text), rest)
  else scalar cs

/-- The items of an array up to its closing bracket; the last may have a comma after it. Each item
takes at least one character, so the length of the text bounds their number. -/
def items (item : List Char → Option (Located Value × List Char)) :
    Nat → List Char → Option (List (Located Value) × List Char)
  | 0, _ => none
  | n + 1, cs => do
    let cs ← skipFiller cs
    match cs with
    | ']' :: rest => return ([], rest)
    | _ =>
      let (v, cs) ← item cs
      match ← skipFiller cs with
      | ',' :: rest =>
        let (vs, rest) ← items item n rest
        return (v :: vs, rest)
      | ']' :: rest => return ([v], rest)
      | _ => none

/-- A key and its value in an inline table. -/
def pair (item : List Char → Option (Located Value × List Char)) (cs : List Char) :
    Option (KeyPath × Located Value × List Char) := do
  let (path, cs) ← keyPath cs
  match ← skipFiller cs with
  | '=' :: rest =>
    let (v, cs) ← item (← skipFiller rest)
    return (path, v, cs)
  | _ => none

/-- The pairs of an inline table up to its closing brace; the last may have a comma after it. -/
def pairs (item : List Char → Option (Located Value × List Char)) :
    Nat → Draft.Entries → List Char → Option (Draft.Entries × List Char)
  | 0, _, _ => none
  | n + 1, es, cs => do
    let cs ← skipFiller cs
    match cs with
    | '\x7d' :: rest => return (es, rest)
    | _ =>
      let (path, v, cs) ← pair item cs
      let es ← Draft.insert path v es
      match ← skipFiller cs with
      | ',' :: rest => pairs item n es rest
      | '\x7d' :: rest => return (es, rest)
      | _ => none

/-- A value at the front of a text, with at most so many levels of arrays and inline tables. -/
def valueUpTo : Nat → List Char → Option (Located Value × List Char)
  | depth, cs => do
    let (v, rest) ←
      match depth, cs with
      | d + 1, '[' :: rest =>
        (items (valueUpTo d) (rest.length + 1) rest).map fun (vs, rest) => (Value.array vs, rest)
      | d + 1, '\x7b' :: rest =>
        (pairs (valueUpTo d) (rest.length + 1) [] rest).map fun (es, rest) =>
          (Value.table (Draft.finishEntries es), rest)
      | _, cs => atom cs
    return (⟨.between cs rest, v⟩, rest)

/-- A value at the front of a text. -/
def value (cs : List Char) : Option (Located Value × List Char) :=
  valueUpTo maxDepth cs

end TraceTarget.Toml
