import TraceTarget.Config.Load
import TraceTarget.Driver
import TraceTarget.LogFilter.Basic

/-!
# The demonstration as a program

A process opens its log, loads its configuration, resolves its settings and leads one run that
writes to the standard output. It reports a failure on the standard error and by its exit status.
The standard streams belong to whoever watches the process, so the log goes to a file, or nowhere if
no file can be opened. Nothing else depends on the log, unless its file is also the configuration.

- `Demonstration`, `Settings.demonstrate`: a run together with the end of its counter.
- `Program.openLog`: where the log goes.
- `Program.load`, `Program.settings`: what the process knows before the run.
- `Program.Failure`: why a process fails, and how it says so.
- `Program.run`: everything.
-/

namespace TraceTarget

/-! ### One demonstration -/

/-- A run and the end of its counter. -/
structure Demonstration where
  driver : Driver
  result : Except Halt Summary
  /-- The counter and the bench when the run was over. -/
  stage : Stage
  /-- The bench after the counter's life. -/
  bench : Bench

/-- A demonstration with some settings: a counter of the settings' revision that writes to
`counterOut`, a driver that writes to `out`, one run, and the end of the counter. -/
def Settings.demonstrate (s : Settings) (sleeper : Sleeper) (out counterOut : SinkId) (b : Bench) :
    Demonstration :=
  let driver := (Driver.ofSettings s).withSleeper sleeper
  let (result, stage) := driver.run out ⟨.forRevision counterOut s.revision, b⟩
  { driver, result, stage, bench := stage.counter.retire stage.bench }

namespace Program

/-! ### The log -/

/-- Where the log of a process may go. -/
inductive LogPlace where
  /-- Below the home directory. -/
  | home
  /-- In the directory for temporary files. -/
  | temporary
  deriving DecidableEq, Repr

/-- The places for the log in the order in which they are tried. -/
def LogPlace.all : List LogPlace := [home, temporary]

/-- The places that are known. -/
def LogPlace.known (e : Environment) : List LogPlace :=
  if e.HasHome then all else [temporary]

/-- The directory of a log. -/
def LogPlace.directory (e : Environment) : LogPlace → Path
  | home => e.logDirectory
  | temporary => (Path.mk e.temporary).join "tracee"

/-- The file of a log. -/
def LogPlace.path (e : Environment) (place : LogPlace) : Path :=
  (place.directory e).join Environment.logName

/-- The name under which the process itself tells its log something. -/
def logTarget : String := "tracee"

/-- What the log of a process takes in, unless the process cannot read its filter at all. A filter
that is malformed counts as not given. -/
def logFilter? (e : Environment) : Option LogFilter :=
  match (Environment.text? e.filter).map fun s => LogFilter.parse s.toList with
  | some (.ok f) => some f
  | some (.error .severed) => none
  | some (.error .malformed) | none => some (.upTo .info)

/-- What is first told to a log: where it is, and which places could not be used. -/
def logOpening (e : Environment) (place : LogPlace) (skipped : List LogPlace) : List Event :=
  { level := .info
    message := "Logging initialized"
    fields := [("path", (place.path e).display), ("pid", Text.decimal e.process)] } ::
  skipped.map fun s =>
    { level := .warn
      message := "Skipped log file " ++ (s.path e).display }

/-- Some events as they are written to a log, without those that it does not take in. -/
def logBytes (f : LogFilter) (events : List Event) : Text.Bytes :=
  (events.filter (f.enables logTarget)).flatMap fun e => lineBytes e.text

/-- Opens the log at a place and tells it something, and says whether that was possible. Its
directory is made first, and stays even if the file cannot be opened. -/
def openAt (e : Environment) (place : LogPlace) (opening : Text.Bytes) (t : FileTree) :
    Bool × FileTree :=
  match t.makeDirectories (place.directory e) with
  | (true, t) => t.append (place.path e) opening
  | (false, t) => (false, t)

/-- Opens the first log that can be opened, after some that could not. -/
def openLog (e : Environment) (f : LogFilter) (skipped : List LogPlace) :
    List LogPlace → FileTree → Option LogPlace × FileTree
  | [], t => (none, t)
  | place :: rest, t =>
    match openAt e place (logBytes f (logOpening e place skipped)) t with
    | (true, t) => (some place, t)
    | (false, t) => openLog e f (skipped ++ [place]) rest t

/-! ### Failures -/

/-- Why a process failed. -/
inductive Failure where
  /-- The filter of the log is neither in order nor malformed: it cannot be read to its end. -/
  | filter
  | config (path : Path) (failure : LoadFailure)
  | run (halt : Halt)
  deriving DecidableEq, Repr

namespace Failure

/-- What the process was trying to do. -/
def attempt : Failure → String
  | filter => "failed to read the log filter"
  | config _ _ => "failed to load tracee config"
  | run _ => "demo run failed"

/-- Why that failed, the nearest cause first. -/
def causes : Failure → List String
  | filter => ["a part of a directive begins or ends inside a character"]
  | config path f => [f.message path, f.cause]
  | run (.write label fault) => [(Halt.write label fault).message, fault.message]
  | run (.reporter fault) => [(Halt.reporter fault).message, fault.message]
  | run .panicked => []

/-- A text of several lines, all but the first indented. -/
def indented (text : String) : String :=
  String.ofList (text.toList.flatMap fun c => if c = '\n' then "\n       ".toList else [c])

/-- Causes with their numbers, each beginning on a line of its own. -/
def numbered (n : Nat) : List String → List String
  | [] => []
  | cause :: causes =>
    ("    " ++ Text.decimal n ++ ": " ++ indented cause ++ "\n") :: numbered (n + 1) causes

/-- A failure as it is told on the standard error: what was tried, and below it one cause after the
other. -/
def report (f : Failure) : String :=
  "Error: " ++ f.attempt ++ "\n\nCaused by:\n" ++ String.join (numbered 0 f.causes)

end Failure

/-! ### The process -/

/-- What is left of a process. -/
structure Outcome where
  failure : Option Failure
  /-- What the standard output took. -/
  output : Text.Bytes
  log : Option LogPlace
  /-- The files. What the log is told after its opening is left out. -/
  files : FileTree

/-- The exit status. A process that cannot read its log filter breaks off. -/
def exitCode : Option Failure → Nat
  | none => 0
  | some .filter => 101
  | some _ => 1

/-- What is told on the standard error. -/
def errorText (failure : Option Failure) : String :=
  (failure.map Failure.report).getD ""

/-- What a process comes to that looks for its configuration. Without a place to look it finds none,
and tells the log nothing. -/
def load (e : Environment) (t : FileTree) : Loaded :=
  if e.looks then Config.load (t.find? e.configPath) else .missing

/-- The settings of a process that looked for its configuration. -/
def settings (e : Environment) (loaded : Loaded) : Except Failure Settings :=
  match loaded.config? with
  | .error f => .error (.config e.configPath f)
  | .ok config => .ok (.resolve config e.revisionName)

/-- What the log is told of the settings before the run. -/
def resolvedEvent (s : Settings) : Event where
  level := .info
  message := "Resolved run settings"
  fields := [("revision", s.revision.name), ("reporter", toString s.message.isSome)]

/-- How the result of a run is a failure of the process. -/
def runFailure {α : Type} : Except Halt α → Option Failure
  | .ok _ => none
  | .error halt => some (.run halt)

/-- What a process does once its configuration was looked for, with a standard output: whether it
fails, and what the output took. -/
def perform (e : Environment) (loaded : Loaded) (stdout : Sink) : Option Failure × Text.Bytes :=
  match settings e loaded with
  | .error f => (some f, stdout.bytes)
  | .ok s =>
    let played := s.demonstrate .clock 0 0 (({} : Bench).withSink 0 stdout)
    (runFailure played.result, (played.bench.sink 0).bytes)

/-- A whole process. The log is opened before the configuration is looked for, and may be found
there. -/
def run (e : Environment) (t : FileTree) (stdout : Sink) : Outcome :=
  let e := e.settled
  match logFilter? e with
  | none => { failure := some .filter, output := stdout.bytes, log := none, files := t }
  | some f =>
    let (log, t) := openLog e f [] (LogPlace.known e) t
    let (failure, output) := perform e (load e t) stdout
    { failure, output, log, files := t }

end Program

end TraceTarget
