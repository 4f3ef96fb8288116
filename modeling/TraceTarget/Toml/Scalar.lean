import TraceTarget.Toml.DateTime

/-!
# Bare scalars

A value that is no string, array or inline table is a bare word: a truth value, a number, a date or
a time. It goes on over spaces and tabs up to the next string, comment, line break or mark of
punctuation, so that what stands between is read as a whole or not at all.

- `scalar`: a bare scalar at the front of a text.
-/

namespace TraceTarget.Toml

/-- Whether a character ends a bare word wherever it stands. -/
def endsWord (c : Char) : Bool :=
  c = '\n' || c = '\r' || c = '#' || c = ',' || c = '=' ||
    c = '[' || c = ']' || c = '\x7b' || c = '\x7d'

/-- A bare word from the inside, and the rest; the flag says that a space comes before. Spaces and
tabs belong to the word if it goes on after them, and a quote after them opens a string. -/
def bareWordFrom : Bool → List Char → List Char × List Char
  | _, [] => ([], [])
  | afterSpace, c :: rest =>
    if isSpace c then
      match bareWordFrom true rest with
      | ([], _) => ([], c :: rest)
      | (word, rest) => (c :: word, rest)
    else if endsWord c || (afterSpace && (c = '"' || c = '\'')) then ([], c :: rest)
    else
      let (word, rest) := bareWordFrom false rest
      (c :: word, rest)

/-- The bare word at the front of a text, and the rest. -/
def bareWord (cs : List Char) : List Char × List Char :=
  bareWordFrom true cs

/-- The value of a bare word. -/
def wordValue? (cs : List Char) : Option Value :=
  if cs = "true".toList then some (.boolean true)
  else if cs = "false".toList then some (.boolean false)
  else integer? cs <|> (float? cs).map .float <|> (if isDateTime cs then some .datetime else none)

/-- A bare scalar at the front of a text. -/
def scalar (cs : List Char) : Option (Value × List Char) :=
  let (word, rest) := bareWord cs
  (wordValue? word).map (·, rest)

end TraceTarget.Toml
