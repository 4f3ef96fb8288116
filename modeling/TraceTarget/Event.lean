import TraceTarget.Text.Quoted

/-!
# Log events

What happens is also told to a log, event by event. An event has a level, a message and named
fields; all fields are texts. It may be told in a span, a stretch of the program that has a name and
fields of its own.

- `Event.Span`: spans, with `Event.Span.text` as they are shown before an event.
- `Event.text`: an event as it is written to a log.
-/

namespace TraceTarget

/-- How serious an event is. -/
inductive Level where
  | error
  | warn
  | info
  | debug
  deriving DecidableEq, Repr

/-- The name of a level. -/
def Level.name : Level → String
  | error => "ERROR"
  | warn => "WARN"
  | info => "INFO"
  | debug => "DEBUG"

/-- How much a log has to take in to see events of a level: the more serious, the less. -/
def Level.verbosity : Level → Nat
  | error => 1
  | warn => 2
  | info => 3
  | debug => 4

/-- Named texts as they are written to a log. -/
def shownFields (fields : List (String × String)) : List String :=
  fields.map fun (name, value) => name ++ "=" ++ value

/-- A stretch of the program. -/
structure Event.Span where
  name : String
  fields : List (String × String) := []
  deriving DecidableEq, Repr

/-- A span as it is shown before an event. -/
def Event.Span.text (s : Event.Span) : String :=
  s.name ++ "\x7b" ++ " ".intercalate (shownFields s.fields) ++ "\x7d:"

/-- Something told to the log. -/
structure Event where
  level : Level
  message : String
  fields : List (String × String) := []
  /-- The span in which it is told, if it is told in one. -/
  span : Option Event.Span := none
  deriving DecidableEq, Repr

/-- What is written for a character of a message. Control characters that a terminal may obey are
given by their numbers; line breaks and tabs are not among them. -/
def Event.harmless (c : Char) : List Char :=
  if c = '\x07' ∨ c = '\x08' ∨ c = '\x0c' then ['\\', 'x', '0'] ++ Nat.toDigits 16 c.toNat
  else if c = '\x1b' ∨ c = '\x7f' then ['\\', 'x'] ++ Nat.toDigits 16 c.toNat
  else if 0x80 ≤ c.toNat ∧ c.toNat < 0xa0 then Text.numbered c
  else [c]

/-- An event as it is written to a log: its level, its span, its message and its fields. -/
def Event.text (e : Event) : String :=
  " ".intercalate
    (e.level.name :: (e.span.map Event.Span.text).toList ++
      String.ofList (e.message.toList.flatMap Event.harmless) :: shownFields e.fields)

end TraceTarget
