import TraceTarget.Text.Numeral
import TraceTarget.Toml.Layout

/-!
# Strings

Strings come in four forms. A basic string stands between double quotes and knows escape sequences;
a literal string stands between single quotes and knows none. Either may be written with three
quotes on each side; then it may go over several lines, a line break right after the opening quotes
is left out, and one or two quotes may stand directly before the closing ones. In a basic string
over several lines, a backslash at the end of a line leaves out the line break and all white space
up to the next character.

- `basic`, `literal`: strings within a line, after the opening quote.
- `basicBlock`, `literalBlock`: strings over several lines, after the opening quotes.

All four give the text of the string and what follows the closing quotes.
-/

namespace TraceTarget.Toml

/-! ### Escape sequences -/

/-- The character that a one-letter escape stands for. -/
def letterEscape? (c : Char) : Option Char :=
  match c with
  | 'b' => some '\x08'
  | 't' => some '\t'
  | 'n' => some '\n'
  | 'f' => some '\x0c'
  | 'r' => some '\r'
  | 'e' => some '\x1b'
  | '"' => some '"'
  | '\\' => some '\\'
  | _ => none

/-- How far a reader of a basic string is into an escape sequence. -/
inductive Pending where
  /-- It is in none. -/
  | text
  /-- A backslash came. -/
  | escape
  /-- Some hexadecimal digits are still to come, after the given value. -/
  | digits (left value : Nat)
  /-- A backslash and white space came; the line must end before the next character. -/
  | lineEnd
  /-- A line break was left out; white space before the next character is left out too. -/
  | fold
  deriving DecidableEq, Repr

/-- Whether a string may close here. -/
def Pending.mayClose : Pending → Bool
  | .text | .fold => true
  | _ => false

/-- What one character does to a reader of a basic string: where the reader is then, and what the
string gets. `block` says that the string may go over several lines. -/
def Pending.step (block : Bool) (c : Char) : Pending → Option (Pending × List Char)
  | .text => plain c
  | .escape =>
    match letterEscape? c, Text.escapeDigits? c with
    | some d, _ => some (.text, [d])
    | none, some n => some (.digits n 0, [])
    | none, none =>
      if !block then none
      else if c = '\n' then some (.fold, [])
      else if isSpace c || c = '\r' then some (.lineEnd, [])
      else none
  | .digits 0 _ => none
  | .digits (left + 1) value => do
    let value := value * 16 + (← Text.hexValue? c)
    if left = 0 then return (.text, [← Text.scalar? value]) else return (.digits left value, [])
  | .lineEnd =>
    if c = '\n' then some (.fold, [])
    else if isSpace c || c = '\r' then some (.lineEnd, [])
    else none
  | .fold => if isSpace c || c = '\n' || c = '\r' then some (.fold, []) else plain c
where
  /-- A character outside any escape sequence. -/
  plain (c : Char) : Option (Pending × List Char) :=
    if c = '\\' then some (.escape, [])
    else if isPlain c || (block && (c = '\n' || c = '\r')) then some (.text, [c])
    else none

/-! ### The four forms -/

/-- Puts characters in front of the text of a string that was read. -/
def prepend (cs : List Char) (read : List Char × List Char) : List Char × List Char :=
  (cs ++ read.1, read.2)

/-- The rest of a basic string within a line. -/
def basicFrom : Pending → List Char → Option (List Char × List Char)
  | _, [] => none
  | p, c :: rest =>
    if p.mayClose && c = '"' then some ([], rest)
    else do
      let (p, out) ← p.step false c
      return prepend out (← basicFrom p rest)

/-- A basic string within a line, after the opening quote. -/
def basic (cs : List Char) : Option (List Char × List Char) :=
  basicFrom .text cs

/-- A literal string within a line, after the opening quote. -/
def literal (cs : List Char) : Option (List Char × List Char) :=
  match cs.span fun c => isPlain c && c ≠ '\'' with
  | (text, '\'' :: rest) => some (text, rest)
  | _ => none

/-- The end of a string over several lines: three quotes, and up to two more before them that belong
to the string. -/
def closeBlock (quote : Char) (cs : List Char) : Option (List Char × List Char) :=
  let n := min (cs.takeWhile (· = quote)).length 5
  if n < 3 then none else some (List.replicate (n - 3) quote, cs.drop n)

/-- A text without a line break at its very beginning. -/
def dropLineBreak (cs : List Char) : List Char :=
  (lineBreak? cs).getD cs

/-- The rest of a basic string over several lines. -/
def basicBlockFrom : Pending → List Char → Option (List Char × List Char)
  | _, [] => none
  | p, c :: rest =>
    match if p.mayClose then closeBlock '"' (c :: rest) else none with
    | some closed => some closed
    | none =>
      if c = '\r' && rest.head? ≠ some '\n' then none
      else do
        let (p, out) ← p.step true c
        return prepend out (← basicBlockFrom p rest)

/-- A basic string over several lines, after the opening quotes. -/
def basicBlock (cs : List Char) : Option (List Char × List Char) :=
  basicBlockFrom .text (dropLineBreak cs)

/-- The rest of a literal string over several lines. -/
def literalBlockFrom : List Char → Option (List Char × List Char)
  | [] => none
  | c :: rest =>
    match closeBlock '\'' (c :: rest) with
    | some closed => some closed
    | none =>
      if isPlain c || c = '\n' || (c = '\r' && rest.head? = some '\n') then do
        return prepend [c] (← literalBlockFrom rest)
      else none

/-- A literal string over several lines, after the opening quotes. -/
def literalBlock (cs : List Char) : Option (List Char × List Char) :=
  literalBlockFrom (dropLineBreak cs)

end TraceTarget.Toml
