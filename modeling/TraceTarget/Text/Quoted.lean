import TraceTarget.Text.Unprintable

/-!
# Texts in quotes

Messages show a text or a path between double quotes, in a form from which every character can be
read off: a quote and a backslash are preceded by a backslash, four control characters have a letter
of their own, and every other character without a glyph is given by its number in lower-case
hexadecimal, as in `\u{200b}`.

- `escape`: what stands for one character.
- `quote`: a text in quotes.
-/

namespace TraceTarget.Text

/-- A character given by its number. -/
def numbered (c : Char) : List Char :=
  ['\\', 'u', '\x7b'] ++ Nat.toDigits 16 c.toNat ++ ['\x7d']

/-- What stands for one character between double quotes. -/
def escape (c : Char) : List Char :=
  if c = '"' ∨ c = '\\' then ['\\', c]
  else if c = '\x00' then ['\\', '0']
  else if c = '\t' then ['\\', 't']
  else if c = '\n' then ['\\', 'n']
  else if c = '\r' then ['\\', 'r']
  else if isPrintable c then [c]
  else numbered c

/-- A text in double quotes. -/
def quote (cs : List Char) : List Char :=
  '"' :: cs.flatMap escape ++ ['"']

end TraceTarget.Text
