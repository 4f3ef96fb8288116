import TraceTarget.Revision

/-!
# Configurations

A configuration has two optional sections. An empty section says nothing, just like an absent one,
but the two are told apart.
-/

namespace TraceTarget

/-- The section that says how to run. -/
structure RunSection where
  revision : Option Revision := none
  /-- The pause after each iteration in milliseconds, in place of the revision's own. -/
  delayMs : Option UInt64 := none
  deriving DecidableEq, Repr, Inhabited

/-- The section on the external reporter. -/
structure ReporterSection where
  /-- The line that the reporter prints; without one it is silent. -/
  message : Option String := none
  deriving DecidableEq, Repr, Inhabited

/-- A configuration. -/
structure Config where
  run : Option RunSection := none
  reporter : Option ReporterSection := none
  deriving DecidableEq, Repr, Inhabited

end TraceTarget
