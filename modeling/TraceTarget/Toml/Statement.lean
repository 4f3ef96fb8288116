import TraceTarget.Toml.Expression

/-!
# Statements

A document is a sequence of statements, each on lines of its own: headers, which begin a table or an
element of an array of tables, and pairs of a key and a value, which belong to the header before
them.

- `Statement`: the kinds.
- `statement`: a statement at the front of a line.
- `statements`: all statements of a document.
-/

namespace TraceTarget.Toml

/-- A statement of a document. The span of a header covers its brackets. -/
inductive Statement where
  | table (header : Span) (path : KeyPath)
  | element (header : Span) (path : KeyPath)
  | pair (path : KeyPath) (value : Located Value)

/-- A statement at the front of a text, and what follows it on its line. -/
def statement (cs : List Char) : Option (Statement × List Char) :=
  match cs with
  | '[' :: '[' :: rest => do
    let (path, rest) ← keyPath (skipSpaces rest)
    match rest with
    | ']' :: ']' :: rest => return (.element (.between cs rest) path, rest)
    | _ => none
  | '[' :: rest => do
    let (path, rest) ← keyPath (skipSpaces rest)
    match rest with
    | ']' :: rest => return (.table (.between cs rest) path, rest)
    | _ => none
  | _ => do
    let (path, rest) ← keyPath cs
    match rest with
    | '=' :: rest =>
      let (v, rest) ← value (skipSpaces rest)
      return (.pair path v, rest)
    | _ => none

/-- The statements of at most so many lines. -/
def statementsUpTo : Nat → List Char → Option (List Statement)
  | 0, _ => none
  | n + 1, cs =>
    match skipSpaces cs with
    | [] => some []
    | line =>
      if line.head? = some '#' ∨ (lineBreak? line).isSome then
        (endOfLine line).bind (statementsUpTo n)
      else do
        let (s, rest) ← statement line
        let ss ← statementsUpTo n (← endOfLine rest)
        return s :: ss

/-- The statements of a document. Every line but the last takes at least one character, so the
length of the text bounds their number. -/
def statements (cs : List Char) : Option (List Statement) :=
  statementsUpTo (cs.length + 1) cs

end TraceTarget.Toml
