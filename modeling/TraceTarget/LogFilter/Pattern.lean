import TraceTarget.Text.Blank
import TraceTarget.Text.Letters
import TraceTarget.Text.Numeral

/-!
# Patterns

The value that a directive asks of a field may be given by a regular expression. A filter has to
know whether a text is one; what it matches plays no part outside the spans of a run.

A pattern is about characters or, after the switch `-u`, about bytes. Nothing is known here of the
letters and digits of Unicode. So in a pattern about characters, case cannot be ignored for
anything, and there are neither short names for kinds of characters nor edges of words; a pattern
about bytes has all this, but it must not name anything outside ASCII. Kinds of characters named by
their category are in neither. Nor is a count after braces: a pattern stands inside braces itself
and holds no closing one.

- `Pattern.Mode`: what the switches decide.
- `Pattern.Item`: what stands for a single place; `Mode.admits`, `Mode.admitsInClass`.
- `Pattern.classRest?`: a class between brackets.
- `Pattern.isValid`: whether a text is a pattern.
-/

namespace TraceTarget.LogFilter.Pattern

/-! ### Switches -/

/-- How a pattern is read from some point on. -/
structure Mode where
  /-- White space and comments are passed over. -/
  spaced : Bool := false
  /-- Upper and lower case are the same. -/
  caseless : Bool := false
  /-- The pattern is about bytes. -/
  bytes : Bool := false
  deriving DecidableEq, Repr

/-- The letters of the switches. -/
def switches : List Char := "imsUuRx".toList

/-- A mode with a switch on or off. Most switches only change what is matched. -/
def Mode.set (on : Bool) (m : Mode) : Char → Mode
  | 'i' => { m with caseless := on }
  | 'u' => { m with bytes := !on }
  | 'x' => { m with spaced := on }
  | _ => m

/-- A mode after some switches. Each is given at most once; those after a minus sign, of which there
is at least one, are turned off. -/
def Mode.switched? (m : Mode) (letters : List Char) : Option Mode :=
  if letters.Nodup ∧ letters.getLast? ≠ some '-' ∧
      letters.all fun c => c = '-' || switches.contains c then
    let (on, off) := letters.span (· ≠ '-')
    some (off.foldl (Mode.set false) (on.foldl (Mode.set true) m))
  else none

/-- A text without white space and comments in front; a comment goes to the end of the line. -/
def passBlank (isComment : Bool) : List Char → List Char
  | [] => []
  | c :: rest =>
    if isComment then passBlank (c ≠ '\n') rest
    else if Text.isBlank c then passBlank false rest
    else if c = '#' then passBlank true rest
    else c :: rest

/-- A text without what is passed over in front. -/
def Mode.pass (m : Mode) (cs : List Char) : List Char :=
  if m.spaced then passBlank false cs else cs

/-! ### Items -/

/-- What stands for a single place. -/
inductive Item where
  /-- A character, perhaps given by a number below 256. -/
  | char (c : Char) (isByte : Bool)
  /-- Anything but the end of a line. -/
  | any
  /-- A kind of characters with a short name: digits, white space, words; or all other
  characters. -/
  | kind (negated : Bool)
  /-- The beginning or the end of a line or of the whole text. -/
  | edge
  /-- The beginning or the end of a word, or the absence of both. -/
  | wordEdge
  deriving DecidableEq, Repr

/-- Whether an item may stand by itself. -/
def Mode.admits (m : Mode) : Item → Bool
  | .char c isByte => if m.bytes then !isByte || c.toNat < 0x80 else !m.caseless
  | .any => !m.bytes
  | .kind negated => m.bytes && !negated
  | .edge => true
  | .wordEdge => m.bytes

/-- Whether an item may be in a class. -/
def Mode.admitsInClass (m : Mode) : Item → Bool
  | .char c _ => if m.bytes then c.toNat < 0x80 else !m.caseless
  | .kind negated => m.bytes && !negated
  | .any | .edge | .wordEdge => false

/-- What a character stands for after a backslash: a letter stands for something or is an error, a
digit is an error, and any other ASCII character stands for itself. -/
def escaped? (c : Char) : Option Item :=
  match c with
  | 'a' => some (.char '\x07' false)
  | 'f' => some (.char '\x0c' false)
  | 'n' => some (.char '\n' false)
  | 'r' => some (.char '\r' false)
  | 't' => some (.char '\t' false)
  | 'v' => some (.char '\x0b' false)
  | 'd' | 's' | 'w' => some (.kind false)
  | 'D' | 'S' | 'W' => some (.kind true)
  | 'A' | 'z' => some .edge
  | 'b' | 'B' | '<' | '>' => some .wordEdge
  | _ => if c.toNat < 0x80 ∧ !c.isAlphanum then some (.char c false) else none

/-- A number in some hexadecimal digits, after the digits that gave a value, and the rest. -/
def number? (m : Mode) : Nat → Nat → List Char → Option (Nat × List Char)
  | 0, value, cs => some (value, cs)
  | digits + 1, value, cs =>
    match m.pass cs with
    | [] => none
    | c :: rest => do number? m digits (value * 16 + (← Text.hexValue? c)) rest

/-- An item and the rest. -/
def item? (m : Mode) : List Char → Option (Item × List Char)
  | [] | ['\\'] => none
  | '\\' :: c :: rest =>
    match Text.escapeDigits? c with
    | some digits => do
      let (value, rest) ← number? m digits 0 rest
      return (.char (← Text.scalar? value) (c = 'x'), rest)
    | none => (escaped? c).map (·, rest)
  | '.' :: rest => some (.any, rest)
  | '^' :: rest | '$' :: rest => some (.edge, rest)
  | c :: rest => some (.char c false, rest)

/-! ### Nesting -/

/-- How deep a pattern may be nested. -/
def deepest : Nat := 250

/-- How deep things are nested that stand side by side. One of them alone adds no level. -/
def depth : List Nat → Nat
  | [] => 0
  | [d] => d
  | ds => ds.foldl max 0 + 1

/-! ### Classes -/

/-- A class between brackets, as far as it was read. -/
structure Class where
  /-- Nothing came yet but hyphens. -/
  isNew : Bool := true
  /-- How deep the left side of an operator is nested. -/
  left : Option Nat := none
  /-- How deep each member since then is nested. -/
  members : List Nat := []

namespace Class

/-- How deep a class is nested, without its own brackets. -/
def height (k : Class) : Nat :=
  match k.left with
  | none => depth k.members
  | some d => max d (depth k.members) + 1

/-- A class with one more member. -/
def add (k : Class) (d : Nat) : Class :=
  { k with isNew := false, members := d :: k.members }

/-- A class after an operator. -/
def operator (k : Class) : Class :=
  { isNew := false, left := some k.height }

end Class

/-- The names of the kinds of ASCII characters. -/
def asciiKinds : List String :=
  ["alnum", "alpha", "ascii", "blank", "cntrl", "digit", "graph", "lower", "print", "punct",
    "space", "upper", "word", "xdigit"]

/-- A kind of ASCII characters between colons in brackets, after the opening bracket: whether it is
negated, and the rest. -/
def asciiKind? : List Char → Option (Bool × List Char)
  | ':' :: cs =>
    let (negated, cs) := match cs with
      | '^' :: rest => (true, rest)
      | _ => (false, cs)
    match cs.span (· ≠ ':') with
    | (name, ':' :: ']' :: rest) =>
      if asciiKinds.contains (String.ofList name) then some (negated, rest) else none
    | _ => none
  | _ => none

/-- Whether a class is negated, after its opening bracket, and the rest. -/
def negation (m : Mode) (cs : List Char) : Bool × List Char :=
  match m.pass cs with
  | '^' :: rest => (true, rest)
  | rest => (false, rest)

/-- An item of a class as it is written, and the rest. -/
def member? (m : Mode) : List Char → Option (Item × List Char)
  | '\\' :: rest => item? m ('\\' :: rest)
  | c :: rest => some (.char c false, rest)
  | [] => none

/-- The character after a hyphen. A sign that begins a comment is passed over by itself. -/
def afterHyphen? (m : Mode) (cs : List Char) : Option Char :=
  if m.spaced then
    match cs.dropWhile Text.isBlank with
    | '#' :: rest => (rest.dropWhile Text.isBlank).head?
    | rest => rest.head?
  else cs.head?

/-- The rest after an item of a class or a range from one character to another. A hyphen makes no
range if it is the last in its class or the first of an operator. -/
def range? (m : Mode) (cs : List Char) : Option (List Char) := do
  let (first, rest) ← member? m cs
  guard (m.admitsInClass first)
  match m.pass rest with
  | '-' :: after =>
    if afterHyphen? m after = some ']' ∨ afterHyphen? m after = some '-' then
      return '-' :: after
    else
      let (last, rest) ← member? m (m.pass after)
      guard (m.admitsInClass last)
      match first, last with
      | .char a _, .char b _ => if a ≤ b then return rest else none
      | _, _ => none
  | rest => return rest

/-- The rest of a class, some classes around it being open as well: how deep the outermost one is
nested, and what follows it. -/
def classRest? (m : Mode) : Nat → List Class → Class → List Char → Option (Nat × List Char)
  | 0, _, _, _ => none
  | fuel + 1, outer, k, cs =>
    let literal := m.admitsInClass (.char ']' false)
    match m.pass cs with
    | [] => none
    | '[' :: rest =>
      match asciiKind? rest with
      | some (negated, rest) =>
        if literal ∧ !(m.bytes && negated) then classRest? m fuel outer (k.add 0) rest else none
      | none =>
        let (negated, rest) := negation m rest
        if negated ∧ (m.bytes ∨ m.caseless) then none else classRest? m fuel (k :: outer) {} rest
    | ']' :: rest =>
      if k.isNew ∧ k.members = [] then
        if literal then classRest? m fuel outer (k.add 0) rest else none
      else
        match outer with
        | [] => some (k.height + 1, rest)
        | around :: outer => classRest? m fuel outer (around.add (k.height + 1)) rest
    | '&' :: '&' :: rest | '~' :: '~' :: rest => classRest? m fuel outer k.operator rest
    | '-' :: rest =>
      if k.isNew then
        if literal then classRest? m fuel outer { k.add 0 with isNew := true } rest else none
      else
        match rest with
        | '-' :: rest => classRest? m fuel outer k.operator rest
        | _ => do classRest? m fuel outer (k.add 0) (← range? m ('-' :: rest))
    | cs => do classRest? m fuel outer (k.add 0) (← range? m cs)

/-! ### Groups -/

/-- What an opening parenthesis begins. -/
inductive Opening where
  /-- A group, perhaps with a name, which is read in some mode. -/
  | group (name : Option (List Char)) (mode : Mode)
  /-- Switches for the rest of the group around; they are read to their end. -/
  | switch (mode : Mode)

/-- Whether a text can be the name of a group. -/
def isName : List Char → Bool
  | [] => false
  | c :: cs =>
    (c = '_' || Text.isAlphabetic c) &&
      cs.all fun c => c = '_' || c = '.' || c = '[' || c = ']' || Text.isAlphanumeric c

/-- A name that is ended by an angle bracket, and the rest. -/
def name? (cs : List Char) : Option (List Char × List Char) :=
  match cs.span (· ≠ '>') with
  | (name, '>' :: rest) => if isName name then some (name, rest) else none
  | _ => none

/-- What an opening parenthesis begins, and the rest. -/
def opening? (m : Mode) (cs : List Char) : Option (Opening × List Char) :=
  match m.pass cs with
  | '?' :: 'P' :: '<' :: rest | '?' :: '<' :: rest =>
    (name? rest).map fun (name, rest) => (.group (some name) m, rest)
  | '?' :: rest =>
    match rest.span fun c => c ≠ ':' && c ≠ ')' with
    | (letters, ':' :: rest) => (m.switched? letters).map fun mode => (.group none mode, rest)
    | (letters, ')' :: rest) =>
      if letters = [] then none else (m.switched? letters).map fun mode => (.switch mode, rest)
    | _ => none
  | rest => some (.group none m, rest)

/-! ### Patterns -/

/-- A part of a pattern. -/
structure Piece where
  /-- How deep it is nested. -/
  depth : Nat := 0
  /-- Whether it can be repeated. -/
  isRepeatable : Bool := true

/-- A group, or the whole pattern, as far as it was read. -/
structure Scope where
  mode : Mode := {}
  /-- How deep each alternative before the last one is nested. -/
  branches : List Nat := []
  /-- The pieces of the last alternative, the newest first. -/
  pieces : List Piece := []

namespace Scope

/-- How deep the last alternative is nested. -/
def branch (s : Scope) : Nat :=
  Pattern.depth (s.pieces.map Piece.depth)

/-- How deep the alternatives together are nested. -/
def height (s : Scope) : Nat :=
  Pattern.depth (s.branch :: s.branches)

/-- A scope with one more piece. -/
def add (s : Scope) (p : Piece) : Scope :=
  { s with pieces := p :: s.pieces }

/-- A scope whose last piece is repeated, if it can be. -/
def repeated? (s : Scope) : Option Scope :=
  match s.pieces with
  | [] => none
  | p :: ps =>
    if p.isRepeatable then some { s with pieces := { depth := p.depth + 1 } :: ps } else none

end Scope

/-- Whether the rest of a pattern is in order, after the names of the groups so far, in some open
groups. -/
def isRest : Nat → List (List Char) → List Scope → Scope → List Char → Bool
  | 0, _, _, _, _ => false
  | fuel + 1, names, outer, s, cs =>
    match s.mode.pass cs with
    | [] => outer.isEmpty && s.height ≤ deepest
    | '(' :: rest =>
      match opening? s.mode rest with
      | none => false
      | some (.switch mode, rest) =>
        isRest fuel names outer { s.add { isRepeatable := false } with mode } rest
      | some (.group none mode, rest) => isRest fuel names (s :: outer) { mode } rest
      | some (.group (some name) mode, rest) =>
        !names.contains name && isRest fuel (name :: names) (s :: outer) { mode } rest
    | ')' :: rest =>
      match outer with
      | [] => false
      | around :: outer => isRest fuel names outer (around.add { depth := s.height + 1 }) rest
    | '|' :: rest =>
      isRest fuel names outer { s with branches := s.branch :: s.branches, pieces := [] } rest
    | '?' :: rest | '*' :: rest | '+' :: rest =>
      match s.repeated? with
      | none => false
      | some s => isRest fuel names outer s (if rest.head? = some '?' then rest.drop 1 else rest)
    | '{' :: _ => false
    | '[' :: rest =>
      let (negated, rest) := negation s.mode rest
      match classRest? s.mode (rest.length + 1) [] {} rest with
      | none => false
      | some (depth, rest) =>
        !(negated && s.mode.bytes) && isRest fuel names outer (s.add { depth }) rest
    | cs =>
      match item? s.mode cs with
      | none => false
      | some (item, rest) => s.mode.admits item && isRest fuel names outer (s.add {}) rest

/-- Whether a text is a pattern. Every step reads at least one character. -/
def isValid (cs : List Char) : Bool :=
  isRest (cs.length + 1) [] [] {} cs

end TraceTarget.LogFilter.Pattern
