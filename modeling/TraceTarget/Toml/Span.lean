/-!
# Places in a text

A reader that consumes a text from the front knows at every moment how many characters are left. A
mark is such a number, and a span is the stretch between two marks, so that reading needs no
position to be carried along.

- `Span.between`: the stretch from one rest of a text to a later one.
- `Span.before`, `Span.covered`: what stands before a span and what it covers.
- `Located`: something together with its span.
-/

namespace TraceTarget.Toml

/-- A stretch of a text: how many characters are left where it begins and where it ends. -/
structure Span where
  start : Nat
  stop : Nat
  deriving DecidableEq, Repr, Inhabited

namespace Span

/-- The stretch from one rest of a text to a later one. -/
def between (start stop : List Char) : Span :=
  ⟨start.length, stop.length⟩

/-- The part of a text before a span. -/
def before (text : List Char) (s : Span) : List Char :=
  text.take (text.length - s.start)

/-- The part of a text from the beginning of a span. -/
def after (text : List Char) (s : Span) : List Char :=
  text.drop (text.length - s.start)

/-- The part of a text that a span covers. -/
def covered (text : List Char) (s : Span) : List Char :=
  (s.after text).take (s.start - s.stop)

end Span

/-- Something that stands in a text, with its place. -/
structure Located (α : Type) where
  span : Span
  value : α
  deriving Repr

end TraceTarget.Toml
