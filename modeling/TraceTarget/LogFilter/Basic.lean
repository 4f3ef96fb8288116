import TraceTarget.Event
import TraceTarget.LogFilter.Directive

/-!
# Log filters

A log takes in only some of the events. Which ones is said by directives, separated by commas, as in
`warn,net=debug,net[request\x7bid\x7d]=trace`. The most specific directive that applies to an event
decides.

- `LogFilter.parse`: a list of directives as it is written.
- `LogFilter.enables`: whether an event is taken in.
-/

namespace TraceTarget

/-- Which events a log takes in. -/
structure LogFilter where
  directives : List LogFilter.Directive
  deriving DecidableEq, Repr

namespace LogFilter

/-- A filter without targets. -/
def upTo (level : Level) : LogFilter :=
  ⟨[{ verbosity := level.verbosity }]⟩

/-- The filter that a text describes; the first directive with a flaw decides which flaw it has.
Without any directive only errors are taken in. -/
def parse (cs : List Char) : Except Flaw LogFilter := do
  let words := (cs.splitOn ',').filter (· ≠ [])
  if words = [] then return upTo .error
  return ⟨← words.mapM Directive.parse⟩

/-! ### Applying -/

/-- The names of the fields of an event. The message counts as a field. -/
def fieldNames (e : Event) : List (List Char) :=
  "message".toList :: e.fields.map fun (name, _) => name.toList

/-- Whether a directive applies to an event of a part of the program, outside any span. Fields are
only asked for their values in spans. -/
def Directive.applies (d : Directive) (target : String) (e : Event) : Bool :=
  d.span = none && (d.target.getD []).isPrefixOf target.toList &&
    d.field.all fun test => test.value = none && (fieldNames e).contains test.name

/-- Whether one of two directives decides before the other, if both apply: if it is as specific, or
more so. The longer target is the more specific one, then any field; of two fields, the later in the
order of their names comes first. -/
def Directive.overrules (d other : Directive) : Bool :=
  if d.target ≠ other.target then
    (other.target.getD []).length < (d.target.getD []).length
  else
    match d.field, other.field with
    | some test, some otherTest =>
      String.ofList otherTest.name ≤ String.ofList test.name
    | none, some _ => false
    | _, none => true

/-- Of a directive so far and a later one, the one that decides. -/
def Directive.deciding (sofar : Option Directive) (d : Directive) : Option Directive :=
  match sofar with
  | some s => if d.overrules s then some d else some s
  | none => some d

/-- Whether an event of a part of the program is taken in. -/
def enables (f : LogFilter) (target : String) (e : Event) : Bool :=
  match (f.directives.filter (·.applies target e)).foldl Directive.deciding none with
  | some d => e.level.verbosity ≤ d.verbosity
  | none => false

end LogFilter

end TraceTarget
