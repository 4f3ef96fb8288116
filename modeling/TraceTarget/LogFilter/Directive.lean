import TraceTarget.LogFilter.Pattern
import TraceTarget.Text.Utf8

/-!
# Directives

A directive gives a verbosity to everything, or to the parts of the program whose names begin with a
given target. It may be limited to a span of the run, in brackets, or to what has a field, in braces
inside the brackets, as in `warn`, `net=debug` and `net[request\x7bid=7\x7d]=trace`. The value of a
field is a number, a truth value or a pattern.

A directive is read without the white space around it, but its parts are cut out of the text with
that white space, at the places counted without it. So white space in front shifts every part but a
first word, which begins with the text.

- `Directive`: one directive.
- `Directive.parse`: a directive as it is written; `Flaw` says why it may not be one.
-/

namespace TraceTarget.LogFilter

/-- What a directive asks of a field. -/
structure FieldTest where
  name : List Char
  /-- The value as it is written. -/
  value : Option (List Char) := none
  deriving DecidableEq, Repr

/-- A directive. -/
structure Directive where
  /-- How the names of the parts that it is about begin. -/
  target : Option (List Char) := none
  /-- The span of the run that it is limited to. -/
  span : Option (List Char) := none
  /-- The field that it is limited to. -/
  field : Option FieldTest := none
  /-- Events up to this verbosity are taken in. -/
  verbosity : Nat
  deriving DecidableEq, Repr

/-- Why a text is no directive. -/
inductive Flaw where
  | malformed
  /-- A part that has to be cut out begins or ends inside a character. -/
  | severed
  deriving DecidableEq, Repr

/-! ### Verbosities -/

/-- The highest verbosity. -/
def everything : Nat := 5

/-- The names of the verbosities, from nothing to everything. -/
def names : List String := ["off", "error", "warn", "info", "debug", "trace"]

/-- A number in decimal digits, perhaps after a plus sign. -/
def number? (cs : List Char) : Option Nat :=
  let digits := match cs with
    | '+' :: rest => rest
    | _ => cs
  if digits ≠ [] ∧ digits.all Char.isDigit then
    some (digits.foldl (fun n d => n * 10 + (d.toNat - '0'.toNat)) 0)
  else none

/-- A verbosity: its number, or its name in any case of the letters. -/
def verbosity? (cs : List Char) : Option Nat :=
  match number? cs with
  | some n => if n ≤ everything then some n else none
  | none => names.findIdx? fun name => name.toList = Text.lower cs

/-- The verbosity after an equals sign; none at all stands for everything. -/
def givenVerbosity? (cs : List Char) : Option Nat :=
  if cs = [] then some everything else verbosity? cs

/-! ### Fields -/

/-- Whether a text is an exponent: digits after its letter and perhaps a sign. -/
def isExponent : List Char → Bool
  | e :: cs =>
    let digits := match cs with
      | '+' :: rest | '-' :: rest => rest
      | _ => cs
    (e = 'e' || e = 'E') && digits ≠ [] && digits.all Char.isDigit
  | [] => false

/-- Whether a text is a number without a sign: infinite, not a number, or digits with perhaps a
point among or next to them and perhaps an exponent. -/
def isNumeral (cs : List Char) : Bool :=
  let (whole, rest) := cs.span Char.isDigit
  let (fraction, rest) := match rest with
    | '.' :: rest => rest.span Char.isDigit
    | _ => ([], rest)
  ["inf", "infinity", "nan"].contains (String.ofList (Text.lower cs)) ||
    (whole ≠ [] || fraction ≠ []) && (rest = [] || isExponent rest)

/-- Whether a field may be asked for a value. Truth values, and numbers without a plus sign in
front, are patterns as well. -/
def isValue (cs : List Char) : Bool :=
  (match cs with
    | '+' :: rest => isNumeral rest
    | _ => false) || Pattern.isValid cs

/-- What is asked of a field: its name, and perhaps a value after an equals sign. What stands after
a second equals sign is left out. -/
def fieldTest? (cs : List Char) : Option FieldTest :=
  match cs.splitOn '=' with
  | [] | [[]] => none
  | [name] => some { name }
  | name :: value :: _ => if isValue value then some { name, value } else none

/-! ### Directives -/

/-- Whether a directive may begin with a character, apart from a bracket. -/
def beginsWord (c : Char) : Bool :=
  c = '-' || c = ':' || c = '_' || Text.isAlphanumeric c

/-- How far a reader of a directive is. Places are counted in bytes. -/
inductive Progress where
  /-- At the beginning. -/
  | start
  /-- In the first word, a verbosity or a target. -/
  | word
  /-- In brackets that were opened before a place. -/
  | brackets (first : Nat)
  /-- In braces that were opened before a place. -/
  | braces (first : Nat)
  /-- After the braces. -/
  | tested
  /-- After the brackets. -/
  | limited
  /-- In the verbosity from a place on. -/
  | verbosity (first : Nat)
  deriving DecidableEq, Repr

namespace Directive

/-- A stretch of a text. -/
def part (text : List Char) (first last : Nat) : Except Flaw (List Char) :=
  (Text.cut? text first last).elim (.error .severed) .ok

/-- What can be found, or else a flaw. -/
def found {α : Type} (a : Option α) : Except Flaw α :=
  a.elim (.error .malformed) .ok

/-- A directive and a reader after one more character, with the places before and after it. -/
def step (text : List Char) (d : Directive) (p : Progress) (c : Char) (here next : Nat) :
    Except Flaw (Directive × Progress) := do
  match p, c with
  | .start, '[' => return (d, .brackets next)
  | .start, c => if beginsWord c then return (d, .word) else throw .malformed
  | .word, '=' => return ({ d with target := ← part text 0 here }, .verbosity next)
  | .word, '[' => return ({ d with target := ← part text 0 here }, .brackets next)
  | .word, _ => return (d, .word)
  | .brackets first, ']' => return ({ d with span := ← part text first here }, .limited)
  | .brackets first, '\x7b' =>
    let span ← part text first here
    return ({ d with span := if span = [] then none else some span }, .braces next)
  | .braces first, '\x7d' =>
    return ({ d with field := ← found (fieldTest? (← part text first here)) }, .tested)
  | .tested, ']' => return (d, .limited)
  | .limited, '=' => return (d, .verbosity next)
  | .tested, _ | .limited, _ => throw .malformed
  | p, _ => return (d, p)

/-- A directive when the text is at its end. A word alone is a verbosity if it names one, and else a
target of which everything is taken in. -/
def finish (text : List Char) (d : Directive) : Progress → Except Flaw Directive
  | .word =>
    match verbosity? text with
    | some v => .ok { d with verbosity := v }
    | none => .ok { d with target := text }
  | .limited => .ok d
  | .verbosity first => do
    let v ← found (givenVerbosity? (← part text first (Text.byteLength text)))
    return { d with verbosity := v }
  | .start | .brackets _ | .braces _ | .tested => .error .malformed

/-- A directive after the rest of the text, which begins at a place. -/
def read (text : List Char) (d : Directive) (p : Progress) (here : Nat) :
    List Char → Except Flaw Directive
  | [] => finish text d p
  | c :: rest => do
    let next := here + c.utf8Size
    let (d, p) ← step text d p c here next
    read text d p next rest

/-- A directive as it is written. -/
def parse (text : List Char) : Except Flaw Directive :=
  read text { verbosity := everything } .start 0 (Text.trim text)

end Directive

end TraceTarget.LogFilter
