import TraceTarget.Toml.Numeral

/-!
# Dates and times

A date is `YYYY-MM-DD` with a day that the month has. A time is `HH:MM`, with optional seconds and
an optional fraction of a second. A date and a time stand together with `T` or a space between them,
and only together may they have an offset from universal time.

- `date`, `time`, `offset`: the parts, each giving what follows it.
- `isDateTime`: any of the four forms.
-/

namespace TraceTarget.Toml

/-- A number of exactly two digits, at least `low` and at most `high`. -/
def twoDigits (low high : Nat) : List Char → Option (Nat × List Char)
  | a :: b :: rest =>
    if isDigitOf 10 a && isDigitOf 10 b then
      let n := ofDigits 10 [a, b]
      if low ≤ n ∧ n ≤ high then some (n, rest) else none
    else none
  | _ => none

/-- The text after a given character. -/
def after (c : Char) : List Char → Option (List Char)
  | d :: rest => if d = c then some rest else none
  | [] => none

/-- Whether February has 29 days. -/
def isLeapYear (y : Nat) : Bool :=
  (y % 4 = 0 && y % 100 ≠ 0) || y % 400 = 0

/-- How many days a month has. -/
def daysIn (year month : Nat) : Nat :=
  if month = 2 then if isLeapYear year then 29 else 28
  else if month = 4 ∨ month = 6 ∨ month = 9 ∨ month = 11 then 30
  else 31

/-- What follows a date. -/
def date (cs : List Char) : Option (List Char) := do
  let (century, cs) ← twoDigits 0 99 cs
  let (year, cs) ← twoDigits 0 99 cs
  let (month, cs) ← twoDigits 1 12 (← after '-' cs)
  let (_, cs) ← twoDigits 1 (daysIn (century * 100 + year) month) (← after '-' cs)
  return cs

/-- What follows a fraction of a second, which may be missing. -/
def fraction : List Char → Option (List Char)
  | '.' :: rest => if (rest.head?.map (isDigitOf 10)) = some true then
      some (rest.dropWhile (isDigitOf 10)) else none
  | cs => some cs

/-- What follows a time of day. The last second of a minute may be a leap second. -/
def time (cs : List Char) : Option (List Char) := do
  let (_, cs) ← twoDigits 0 23 cs
  let (_, cs) ← twoDigits 0 59 (← after ':' cs)
  match cs with
  | ':' :: rest => do
    let (_, cs) ← twoDigits 0 60 rest
    fraction cs
  | _ => return cs

/-- What follows an offset from universal time, which may be missing. -/
def offset : List Char → Option (List Char)
  | [] => some []
  | c :: rest =>
    if c = 'Z' ∨ c = 'z' then some rest
    else if c = '+' ∨ c = '-' then do
      let (_, cs) ← twoDigits 0 23 rest
      let (_, cs) ← twoDigits 0 59 (← after ':' cs)
      return cs
    else some (c :: rest)

/-- Whether a text is a date, a time, or a date and a time with or without an offset. -/
def isDateTime (cs : List Char) : Bool :=
  match date cs with
  | some [] => true
  | some (c :: rest) => (c = 'T' || c = 't' || c = ' ') && (time rest).bind offset = some []
  | none => time cs = some []

end TraceTarget.Toml
