/-!
# Layout of a document

Between the parts of a document there may be spaces and tabs, comments and line breaks. A line
break is a line feed, alone or after a carriage return; a carriage return that stands for itself is
nowhere allowed, and neither are the other control characters except the tab.

- `skipSpaces`: within a line.
- `endOfLine`: what may stand between the end of a statement and the next line.
- `skipFiller`: between the items of an array or of an inline table, where lines do not matter.
-/

namespace TraceTarget.Toml

/-- The characters that separate within a line. -/
def isSpace (c : Char) : Bool :=
  c = ' ' || c = '\t'

/-- The characters that may stand in comments and in strings. -/
def isPlain (c : Char) : Bool :=
  c = '\t' || (0x20 ≤ c.toNat && c.toNat ≠ 0x7f)

/-- The rest of a line after spaces and tabs. -/
def skipSpaces (cs : List Char) : List Char :=
  cs.dropWhile isSpace

/-- The text after a line break. -/
def lineBreak? : List Char → Option (List Char)
  | '\n' :: rest => some rest
  | '\r' :: '\n' :: rest => some rest
  | _ => none

/-- The text after the end of a line, which is a line break or the end of the document. Spaces, tabs
and a comment may stand before it. -/
def endOfLine (cs : List Char) : Option (List Char) :=
  let rest :=
    match skipSpaces cs with
    | '#' :: comment => comment.dropWhile isPlain
    | rest => rest
  if rest = [] then some [] else lineBreak? rest

/-- The text after any number of spaces, tabs, comments and line breaks. The flag says whether the
text begins within a comment. -/
def skipFillerFrom : Bool → List Char → Option (List Char)
  | _, [] => some []
  | inComment, c :: rest =>
    if c = '\n' then skipFillerFrom false rest
    else if c = '\r' then if rest.head? = some '\n' then skipFillerFrom false rest else none
    else if inComment then if isPlain c then skipFillerFrom true rest else none
    else if c = '#' then skipFillerFrom true rest
    else if isSpace c then skipFillerFrom false rest
    else some (c :: rest)

/-- The text after any number of spaces, tabs, comments and line breaks. -/
def skipFiller (cs : List Char) : Option (List Char) :=
  skipFillerFrom false cs

end TraceTarget.Toml
