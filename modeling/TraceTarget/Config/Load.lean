import TraceTarget.Config.Decode
import TraceTarget.Event
import TraceTarget.Fault
import TraceTarget.FileTree

/-!
# Finding and loading a configuration

The environment may name the file of the configuration; otherwise it is expected below the home
directory. No file there is no failure: the demonstration then runs with its defaults. What is found
falls into one of four cases, and each case but success tells the log one event.

- `Environment`: the variables that matter.
- `Environment.configPath`, `Environment.logPath`: the places of the configuration and of the log,
  where the home directory is known; `Environment.settled` is the environment with what the system
  knows of it, and `Environment.looks` says whether there is any place for the configuration.
- `Loaded`: the cases; `LoadFailure` has the two that are failures, with their wording.
- `Config.load`: the case of whatever is found at a path.
- `Config.loadFrom`, `Environment.loadConfig`: the configuration at a path of a file tree, and at
  the path that the environment selects; a failure comes with its path.
-/

namespace TraceTarget

/-- The environment variables that matter, as the bytes they are; nothing stands for a variable that
is not set. The directory for temporary files and the process are always known. -/
structure Environment where
  /-- The home directory; empty if the variable is empty or not set. -/
  home : Text.Bytes
  /-- The home directory in the system's record of the user, if there is one. -/
  account : Option Text.Bytes := none
  temporary : Text.Bytes
  config : Option Text.Bytes := none
  revision : Option Text.Bytes := none
  /-- What the log takes in. -/
  filter : Option Text.Bytes := none
  /-- The number of the process. -/
  process : Nat := 1
  deriving DecidableEq, Repr, Inhabited

namespace Environment

/-- The home directory is known. -/
def HasHome (e : Environment) : Prop :=
  e.home ≠ []

instance (e : Environment) : Decidable e.HasHome :=
  inferInstanceAs (Decidable (e.home ≠ []))

/-- The same environment with the home directory of the system's record, unless the variable says
another one. The record counts for nothing if it is empty. -/
def settled (e : Environment) : Environment :=
  if e.HasHome then e else { e with home := e.account.getD [] }

theorem settled_of_hasHome {e : Environment} (h : e.HasHome) : e.settled = e :=
  if_pos h

/-- The environment variable that names the configuration's file. -/
def configVariable : String := "TRACEE_CONFIG"

/-- The environment variable that says what the log takes in. -/
def filterVariable : String := "RUST_LOG"

/-- The value of a variable in a block of variables, in which each stands with an equals sign
between name and value, and a null byte ends each. -/
def valueIn? (block : Text.Bytes) (name : String) : Option Text.Bytes :=
  let start := Text.encode (name.toList ++ ['='])
  ((block.splitOn 0).find? start.isPrefixOf).map (·.drop start.length)

/-- The home directory of a user in a list of records, one a line, in which colons stand between the
parts: the third part is the number of the user and the sixth his home directory. -/
def homeIn? (records : Text.Bytes) (user : Nat) : Option Text.Bytes :=
  (records.splitOn 0x0a).findSome? fun record =>
    match record.splitOn 0x3a with
    | _ :: _ :: number :: _ :: _ :: home :: _ =>
      if number = Text.encode (Text.decimal user).toList then some home else none
    | _ => none

/-- The text of a variable. One that is not UTF-8 counts as not set. -/
def text? (bytes : Option Text.Bytes) : Option String :=
  (bytes.bind Text.decode?).map String.ofList

/-- The directory of the demonstration below the home directory. -/
def directory (e : Environment) : Path :=
  (Path.mk e.home).join ".tracee"

/-- The file of the configuration: the one that the environment names, unless that name is blank.
A name that is not blank is used with the white space around it. -/
def configPath (e : Environment) : Path :=
  match text? e.config with
  | some name =>
    if Text.isAllBlank name.toList then e.directory.join "config.toml" else .ofString name
  | none => e.directory.join "config.toml"

/-- Whether there is a place to look for the configuration: the environment names a file, or the
home directory is known. -/
def looks (e : Environment) : Bool :=
  ((text? e.config).any fun name => !Text.isAllBlank name.toList) || decide e.HasHome

theorem looks_of_hasHome {e : Environment} (h : e.HasHome) : e.looks = true := by
  rw [looks, decide_eq_true h, Bool.or_true]

/-- The directory of the log, wherever the configuration is. -/
def logDirectory (e : Environment) : Path :=
  e.directory.join "logs"

/-- The name of a log file in its directory. -/
def logName : String := "tracee.log"

/-- The file of the log. -/
def logPath (e : Environment) : Path :=
  e.logDirectory.join logName

/-- The revision's name in the environment. -/
def revisionName (e : Environment) : Option String :=
  text? e.revision

end Environment

/-- The report on a text that is no configuration. For one that is no document at all, only that is
said. -/
def ParseFailure.report (text : List Char) : ParseFailure → String
  | .syntactic => "not a TOML document\n"
  | .schema r => r.report text

/-- Why what is found at a path is no configuration. -/
inductive LoadFailure where
  | unreadable (fault : Fault)
  | rejected (text : List Char) (failure : ParseFailure)
  deriving DecidableEq, Repr

namespace LoadFailure

/-- What failed, at a path in the given form. -/
def attempt (shown : String) : LoadFailure → String
  | unreadable _ => "read config at " ++ shown
  | rejected _ _ => "parse config at " ++ shown

/-- Why it failed. -/
def cause : LoadFailure → String
  | unreadable fault => fault.message
  | rejected text failure => failure.report text

/-- The wording of a failure, for whoever asked for the configuration at a path. -/
def message (path : Path) (f : LoadFailure) : String :=
  "failed to " ++ f.attempt path.display ++ ": " ++ f.cause

/-- What the log is told. -/
def event (path : Path) (f : LoadFailure) : Event where
  level := .warn
  message := "Failed to " ++ f.attempt path.quoted ++ ": " ++ f.cause

end LoadFailure

/-- What became of loading a configuration. -/
inductive Loaded where
  | missing
  | failed (failure : LoadFailure)
  | found (config : Config)
  deriving Repr

namespace Loaded

/-- The configuration to run with, if there is one, unless loading failed. -/
def config? : Loaded → Except LoadFailure (Option Config)
  | missing => .ok none
  | failed f => .error f
  | found c => .ok (some c)

/-- What the log is told. -/
def events (path : Path) : Loaded → List Event
  | missing =>
    [{ level := .debug
       message := "No config file, using defaults"
       fields := [("path", path.display)] }]
  | failed f => [f.event path]
  | found _ => []

end Loaded

/-- The configuration in some bytes. -/
def Config.ofBytes (contents : Text.Bytes) : Loaded :=
  match Text.decode? contents with
  | none => .failed (.unreadable .notUtf8)
  | some text =>
    match Config.parse text with
    | .ok c => .found c
    | .error failure => .failed (.rejected text failure)

/-- The configuration in whatever is found at a path. -/
def Config.load : Option FileEntry → Loaded
  | none => .missing
  | some .directory => .failed (.unreadable (.system .isDirectory))
  | some (.file contents) => Config.ofBytes contents

/-! ### Loading from a file tree -/

/-- A failure to load a configuration, with the path at which it was looked for. -/
structure LoadError where
  path : Path
  failure : LoadFailure
  deriving DecidableEq, Repr

/-- The wording of a failure. -/
def LoadError.message (e : LoadError) : String :=
  e.failure.message e.path

/-- The configuration at a path, if there is one, and what the log is told. -/
def Config.loadFrom (t : FileTree) (path : Path) : Except LoadError (Option Config) × List Event :=
  let loaded := Config.load (t.find? path)
  (loaded.config?.mapError fun failure => ⟨path, failure⟩, loaded.events path)

/-- The configuration at the path that the environment selects, if there is one, and what the log is
told. This is for environments that have a place to look (`Environment.looks`). -/
def Environment.loadConfig (e : Environment) (t : FileTree) :
    Except LoadError (Option Config) × List Event :=
  Config.loadFrom t e.configPath

end TraceTarget
