import TraceTarget.Text.Numeral
import TraceTarget.Text.Utf8
import TraceTarget.Toml.Span

/-!
# Pointing at a place in a document

A report shows the line on which a span begins and points at the span with carets. Lines and columns
are counted from 1, columns in characters; the number of carets goes by bytes.

- `Report.line`, `Report.column`, `Report.source`: where a span begins.
- `Report.carets`: how long the pointer is. It is at least one and does not go past the line.
- `report`: all of it, with a reason below.
-/

namespace TraceTarget.Toml

namespace Report

/-- The number of the line on which a span begins. -/
def line (text : List Char) (s : Span) : Nat :=
  (s.before text).count '\n' + 1

/-- The part of its line that stands before a span. -/
def indent (text : List Char) (s : Span) : List Char :=
  ((s.before text).reverse.takeWhile (· ≠ '\n')).reverse

/-- The column in which a span begins. -/
def column (text : List Char) (s : Span) : Nat :=
  (indent text s).length + 1

/-- The line on which a span begins. -/
def source (text : List Char) (s : Span) : List Char :=
  indent text s ++ (s.after text).takeWhile (· ≠ '\n')

/-- The number of carets that point at a span. -/
def carets (text : List Char) (s : Span) : Nat :=
  max 1 (min (Text.byteLength (s.covered text))
    (Text.byteLength (source text s) - (column text s - 1)))

/-- A character so many times. -/
def repeated (n : Nat) (c : Char) : String :=
  String.ofList (List.replicate n c)

end Report

/-- The report of a reason at a place of a document. The gutter is as wide as the line's number. -/
def report (text : List Char) (s : Span) (reason : String) : String :=
  let number := Text.decimal (Report.line text s)
  let column := Report.column text s
  let gutter := Report.repeated (number.length + 1) ' ' ++ "|"
  "TOML parse error at line " ++ number ++ ", column " ++ Text.decimal column ++ "\n" ++
    gutter ++ "\n" ++
    number ++ " | " ++ String.ofList (Report.source text s) ++ "\n" ++
    gutter ++ Report.repeated column ' ' ++ Report.repeated (Report.carets text s) '^' ++ "\n" ++
    reason ++ "\n"

end TraceTarget.Toml
