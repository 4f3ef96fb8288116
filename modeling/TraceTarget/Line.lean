import TraceTarget.Text.Utf8
import TraceTarget.Text.Numeral

/-!
# The lines of the demonstration

Whoever traces the demonstration recognises it by its lines. There are five kinds; three of them
carry a number.

- `Line.text`: how a line is written, without its end.
- `Line.bytes`: the bytes of a line with the line feed that ends it.
-/

namespace TraceTarget

/-- A line that the demonstration writes. -/
inductive Line where
  /-- Before the loop. -/
  | start
  /-- From the free reporting function, with the index of the iteration. -/
  | func (index : UInt32)
  /-- From the counter, with the index of the iteration. -/
  | test (index : UInt32)
  /-- After the loop and after the reporter. -/
  | finish
  /-- At the end of the counter's life, with its count. -/
  | destructor (count : UInt32)
  deriving DecidableEq, Repr

/-- A text with the line feed that ends it, as bytes. -/
def lineBytes (text : String) : Text.Bytes :=
  Text.encode (text.toList ++ ['\n'])

theorem lineBytes_eq (text : String) : lineBytes text = Text.encode text.toList ++ [0x0a] :=
  Text.encode_append ..

namespace Line

/-- How many times the loop runs. -/
def iterations : UInt32 := 10

/-- The index and the end-of-life count are the only numbers: the one in decimal, the other in
lower-case hexadecimal after `0x`, both without leading zeros. -/
def text : Line → String
  | start => "child process start"
  | func i => "func is " ++ Text.decimal i.toNat
  | test i => "test is " ++ Text.decimal i.toNat
  | finish => "child process end"
  | destructor n => "destructor: 0x" ++ Text.hexadecimal n.toNat

/-- The bytes of a line with the line feed that ends it. -/
def bytes (l : Line) : Text.Bytes :=
  lineBytes l.text

end Line

end TraceTarget
