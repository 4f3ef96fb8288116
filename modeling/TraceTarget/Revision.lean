import TraceTarget.Text.Blank
import TraceTarget.Duration

/-!
# Revisions of the demonstration

The demonstration has three revisions. They differ in the pause after each iteration, in whether
the external reporter is called, in whether the counter counts, and in what the counter writes at
the end of its life.

- `Revision.ofName?`: the strict reading of a name, for files.
- `Revision.parse`: the lenient reading, for what a person types: white space around the name and
  the case of ASCII letters do not matter.
-/

namespace TraceTarget

/-- What a counter writes at the end of its life. -/
inductive EndReport where
  /-- Nothing. -/
  | silent
  /-- One line with the count in hexadecimal. -/
  | hexCount
  deriving DecidableEq, Repr, Inhabited

/-- A revision of the demonstration. -/
inductive Revision where
  | initial
  | linked
  | final
  deriving DecidableEq, Repr

/-- A text that names no revision. -/
structure UnknownRevision where
  input : String
  deriving DecidableEq, Repr

/-- The wording shows the text as it was given, with its case and its white space. -/
def UnknownRevision.message (e : UnknownRevision) : String :=
  "unknown revision `" ++ e.input ++ "` (expected initial, linked, or final)"

namespace Revision

/-- The latest revision is the one that runs when nothing else is asked for. -/
instance : Inhabited Revision := ⟨final⟩

/-- All revisions, oldest first. -/
def all : List Revision := [initial, linked, final]

/-- The name of a revision, also the form in which it is written down. -/
def name : Revision → String
  | initial => "initial"
  | linked => "linked"
  | final => "final"

/-- A revision is shown by its name. -/
instance : ToString Revision := ⟨name⟩

/-- The pause after each iteration. -/
def delay : Revision → Duration
  | initial => .ofMillis 1000
  | linked | final => .ofMillis 100

/-- Whether the external reporter is called after the loop. -/
def callsReporter : Revision → Bool
  | initial => false
  | linked | final => true

/-- Whether the counter counts. -/
def tracksCount : Revision → Bool
  | initial => false
  | linked | final => true

/-- What the counter writes at the end of its life. -/
def endReport : Revision → EndReport
  | initial => .silent
  | linked | final => .hexCount

/-- The revision with exactly this name. -/
def ofName? (s : String) : Option Revision :=
  all.find? (·.name = s)

/-- The revision that a text names when white space around it and the case of its ASCII letters are
left out of account. -/
def parse (s : String) : Except UnknownRevision Revision :=
  match ofName? (String.ofList (Text.lower (Text.trim s.toList))) with
  | some r => .ok r
  | none => .error ⟨s⟩

/-! ### Small laws -/

theorem ofName?_name (r : Revision) : ofName? r.name = some r := by
  cases r <;> decide

theorem eq_name_of_ofName? {s : String} {r : Revision} (h : ofName? s = some r) : s = r.name := by
  have := List.find?_some h
  exact (of_decide_eq_true this).symm

end Revision

end TraceTarget
