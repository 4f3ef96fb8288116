import TraceTarget.Toml.Statement

/-!
# Documents

The statements of a document are carried out one after the other on a table under construction. A
byte order mark at the very beginning is passed over.

- `apply`: carries out one statement.
- `assemble`: the table that statements make, unless one of them contradicts an earlier one.
- `parse?`: the root table of a document, unless the text is none.
-/

namespace TraceTarget.Toml

/-- The root table under construction, and the table that pairs go to. -/
structure Progress where
  root : Draft.Entries := []
  current : List Key := []

/-- Carries out one statement. -/
def Progress.apply (p : Progress) : Statement → Option Progress
  | .table header path => do
    return { root := ← Draft.open header path p.root, current := path.keys }
  | .element header path => do
    return { root := ← Draft.openElement header path p.root, current := path.keys }
  | .pair path value => do
    return { p with root := ← Draft.update .header (Draft.insert path value) p.current p.root }

/-- The table that statements make, unless one of them contradicts an earlier one. -/
def assemble (ss : List Statement) : Option Entries :=
  (ss.foldlM Progress.apply {}).map fun p => Draft.finishEntries p.root

/-- A text without a byte order mark at its beginning. -/
def dropMark : List Char → List Char
  | '\ufeff' :: cs => cs
  | cs => cs

/-- The root table of a document, unless the text is none. -/
def parse? (cs : List Char) : Option Entries :=
  (statements (dropMark cs)).bind assemble

end TraceTarget.Toml
