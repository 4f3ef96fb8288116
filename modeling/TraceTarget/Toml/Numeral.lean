import TraceTarget.Toml.Quotation
import TraceTarget.Toml.Value

/-!
# Numbers

Integers are decimal with an optional sign and no leading zeros, or come in one of three other bases
after a mark, without a sign. Floating-point numbers have a fraction or an exponent. Everywhere an
underscore may stand between two digits.

- `ungroup`: digits without their underscores.
- `ofDigits`: the number that digits stand for.
- `integer?`, `float?`: the two kinds of numbers. Any size is a number here.
- `passesForInteger`: the words that are let through as integers although they are no numbers. They
  are harmless as long as nobody asks for their value.
-/

namespace TraceTarget.Toml

/-- The digits of a text without the underscores between them. There is at least one digit, and
every underscore stands between two. -/
def ungroup (isDigit : Char → Bool) : List Char → Option (List Char)
  | [] => none
  | [c] => if isDigit c then some [c] else none
  | c :: '_' :: rest => if isDigit c then (ungroup isDigit rest).map (c :: ·) else none
  | c :: rest => if isDigit c then (ungroup isDigit rest).map (c :: ·) else none

/-- The number that digits stand for in a base; hexadecimal digits may have either case. -/
def ofDigits (base : Nat) (ds : List Char) : Nat :=
  ds.foldl (fun n d => n * base + (Text.hexValue? d).getD 0) 0

/-- Whether a character is a digit of a base of at most ten. -/
def isDigitOf (base : Nat) (c : Char) : Bool :=
  '0' ≤ c && c.toNat < '0'.toNat + base

/-- A sign, true for minus, and what follows it. -/
def splitSign : List Char → Bool × List Char
  | '+' :: rest => (false, rest)
  | '-' :: rest => (true, rest)
  | cs => (false, cs)

/-- The digits of a decimal number without sign: no zero comes first unless it is alone. -/
def decimalDigits? (cs : List Char) : Option (List Char) :=
  (ungroup (isDigitOf 10) cs).filter fun ds => ds.length = 1 || ds.head? ≠ some '0'

/-- Whether a character is a hexadecimal digit. -/
def isHexDigit (c : Char) : Bool :=
  (Text.hexValue? c).isSome

/-- Whether the pieces of a word after its first underscore keep underscores between digits, as far
as that is looked at: each begins with a hexadecimal digit, and each but the last ends with one. -/
def laterPieces : List (List Char) → Bool
  | [] => true
  | [p] => p.head?.any isHexDigit
  | p :: ps => p.head?.any isHexDigit && p.getLast?.any isHexDigit && laterPieces ps

/-- Whether a word without sign passes for a decimal integer. It begins with digits and an
underscore; apart from the characters next to its underscores, it may hold anything but a space, a
point and the letter of an exponent. -/
def passesForInteger (cs : List Char) : Bool :=
  match cs.splitOn '_' with
  | first :: second :: rest =>
    first.all (isDigitOf 10) && first.head?.any (· ≠ '0') && laterPieces (second :: rest) &&
      cs.all fun c => c ≠ ' ' && c ≠ '.' && c ≠ 'e' && c ≠ 'E'
  | _ => false

/-- A number after the mark of its base. A mark alone passes for an integer. -/
def marked (base : Nat) (isDigit : Char → Bool) (cs : List Char) : Option Value :=
  if cs = [] then some .numberless
  else (ungroup isDigit cs).map fun ds => .integer (ofDigits base ds)

/-- An integer. -/
def integer? (cs : List Char) : Option Value :=
  match cs with
  | '0' :: 'x' :: rest => marked 16 isHexDigit rest
  | '0' :: 'o' :: rest => marked 8 (isDigitOf 8) rest
  | '0' :: 'b' :: rest => marked 2 (isDigitOf 2) rest
  | _ =>
    let (negative, rest) := splitSign cs
    match decimalDigits? rest with
    | some ds =>
      let n : Int := ofDigits 10 ds
      some (.integer (if negative then -n else n))
    | none => if passesForInteger rest then some .numberless else none

/-- The exponent after its letter. -/
def exponent? (cs : List Char) : Option Int :=
  let (negative, rest) := splitSign cs
  (ungroup (isDigitOf 10) rest).map fun ds =>
    let n : Int := ofDigits 10 ds
    if negative then -n else n

/-- The words for the numbers that are not finite, after the sign. -/
def word? (negative : Bool) (cs : List Char) : Option Number :=
  if cs = "inf".toList then some (.infinite negative)
  else if cs = "nan".toList then some .notANumber
  else none

/-- A floating-point number. -/
def float? (cs : List Char) : Option Number :=
  let (negative, rest) := splitSign cs
  word? negative rest <|> do
    let (mantissa, exponent) := rest.span fun c => c ≠ 'e' && c ≠ 'E'
    let (whole, fraction) := mantissa.span (· ≠ '.')
    if exponent = [] ∧ fraction = [] then none
    let wholeDigits ← decimalDigits? whole
    let fractionDigits ← if fraction = [] then some [] else ungroup (isDigitOf 10) (fraction.drop 1)
    let scale ← if exponent = [] then some 0 else exponent? (exponent.drop 1)
    return .finite negative (ofDigits 10 (wholeDigits ++ fractionDigits))
      (scale - fractionDigits.length)

end TraceTarget.Toml
