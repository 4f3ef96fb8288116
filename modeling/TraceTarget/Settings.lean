import TraceTarget.Config.Basic
import TraceTarget.Event

/-!
# Settings of a run

What a run needs to know comes from three places: the environment may name a revision, which wins
over the configuration's, which wins over the default. A delay in the configuration wins over the
delay of the revision that was chosen in the end.

- `Settings.resolve`: the settings.
- `Settings.warnings`: what resolving them tells the log: a name from the environment that is no
  revision's is passed over with a warning.
-/

namespace TraceTarget

/-- Everything that a run needs to know. -/
structure Settings where
  revision : Revision
  delay : Duration
  message : Option String := none
  deriving DecidableEq, Repr

namespace Settings

/-- The environment variable that names a revision. -/
def revisionVariable : String := "TRACEE_REVISION"

/-- The settings of a revision as it was. -/
def forRevision (r : Revision) : Settings :=
  { revision := r, delay := r.delay }

/-- The settings when nothing is asked for. -/
def standard : Settings := forRevision default

instance : Inhabited Settings := ⟨standard⟩

/-- The revision that the environment names, if it names one. -/
def override (env : Option String) : Option Revision :=
  env.bind fun s => (Revision.parse s).toOption

/-- The settings from a configuration and the environment's revision name. -/
def resolve (config : Option Config) (env : Option String) : Settings :=
  let run := config.bind Config.run
  let revision := ((override env).or (run.bind RunSection.revision)).getD default
  { revision
    delay := ((run.bind RunSection.delayMs).map Duration.ofMillis).getD revision.delay
    message := (config.bind Config.reporter).bind ReporterSection.message }

/-- What resolving the settings tells the log. -/
def warnings (env : Option String) : List Event :=
  match env.map Revision.parse with
  | some (.error e) =>
    [{ level := .warn
       message := "Ignoring override: " ++ e.message
       fields := [("env_var", revisionVariable)] }]
  | _ => []

end Settings

end TraceTarget
