import TraceTarget.Program

/-!
# Command line

The program in the world. It takes no arguments: everything that it wants to know is in the
environment and in the configuration. What to print, in which order, and what a failure means is
decided by the moves of a driver; here they are only carried out, with real files, a real standard
output and real pauses.

- `CommandLine.attempt`: does something that prints, on the standard output.
- `CommandLine.play`: a run and the end of its counter.
- `CommandLine.run`: the whole process, with its exit status.
-/

namespace TraceTarget.CommandLine

open Program

/-! ### The system's answers -/

/-- The system's number of a failure, which may come as a negative number in 32 bits. -/
def positiveCode (code : UInt32) : Nat :=
  if code.toNat < UInt32.size / 2 then code.toNat else UInt32.size - code.toNat

/-- The number and the wording with which the system reports a failure. -/
def systemReport? : IO.Error → Option (Nat × String)
  | .alreadyExists _ code text | .interrupted _ code text | .noFileOrDirectory _ code text
  | .invalidArgument _ code text | .permissionDenied _ code text | .resourceExhausted _ code text
  | .inappropriateType _ code text | .noSuchThing _ code text
  | .otherError code text | .resourceBusy code text | .resourceVanished code text
  | .unsupportedOperation code text | .hardwareFault code text | .unsatisfiedConstraints code text
  | .illegalOperation code text | .protocolError code text | .timeExpired code text =>
    some (positiveCode code, text)
  | .unexpectedEof | .userError _ => none

/-- A failed request as a fault. -/
def faultOf (e : IO.Error) : Fault :=
  match systemReport? e with
  | some (code, text) => .ofCode code text
  | none => .other (toString e)

/-- The numbers with which the system says that nothing can be found at a path: there is no such
name, a name on the way is no directory, or a name is too long. -/
def notFoundCodes : List Nat := [2, 20, 36]

/-! ### The environment, the configuration and the log -/

/-- The system's record of the environment, which shows every variable as the bytes it is. -/
def environmentRecord : String := "/proc/self/environ"

/-- A variable: as the record shows it, or as a text where there is no record. -/
def readVariable (name : String) : IO (Option Text.Bytes) := do
  try
    return Environment.valueIn? (← IO.FS.readBinFile environmentRecord).toList name
  catch _ =>
    return (← IO.getEnv name).map fun s => Text.encode s.toList

/-- The system's record of the process, which begins with its number. -/
def processRecord : String := "/proc/self/stat"

/-- The number of the process, as far as there is a record. -/
def processNumber : IO Nat := do
  try
    let number := (← IO.FS.readFile processRecord).toList.takeWhile Char.isDigit
    return (String.ofList number).toNat?.getD 1
  catch _ => return 1

/-- The system's record of what the process may do. -/
def userRecord : String := "/proc/self/status"

/-- How the line of that record begins that has the number of the user. -/
def userEntry : String := "Uid:\t"

/-- The system's records of its users. -/
def accountRecords : String := "/etc/passwd"

/-- The home directory in the system's record of the user, as far as there is one. -/
def accountHome : IO (Option Text.Bytes) := do
  try
    let status ← IO.FS.lines userRecord
    let user := (status.toList.find? fun line => line.startsWith userEntry).map fun line =>
      String.ofList ((line.toList.drop userEntry.length).takeWhile Char.isDigit)
    match user.bind String.toNat? with
    | some number =>
      return Environment.homeIn? (← IO.FS.readBinFile accountRecords).toList number
    | none => return none
  catch _ => return none

/-- The variables that matter, the home directory of the user and the process. -/
def environment : IO Environment := do
  return {
    home := (← readVariable "HOME").getD []
    account := ← accountHome
    temporary := (← readVariable "TMPDIR").getD (Text.encode "/tmp".toList)
    config := ← readVariable Environment.configVariable
    revision := ← readVariable Settings.revisionVariable
    filter := ← readVariable Environment.filterVariable
    process := ← processNumber }

/-- What becomes of loading the configuration at a path. -/
def load (path : Path) : IO Loaded := do
  try
    return Config.ofBytes (← IO.FS.readBinFile path.display).toList
  catch e =>
    if (systemReport? e).any fun (code, _) => notFoundCodes.contains code then return .missing
    else return .failed (.unreadable (faultOf e))

/-- A log: its filter, and its file, if one could be opened. -/
structure Log where
  filter : LogFilter
  file : Option IO.FS.Handle

/-- Tells a log some events. Nothing depends on whether that goes well. -/
def tell (log : Log) (events : List Event) : IO Unit := do
  try
    for file in log.file do
      file.write (ByteArray.mk (logBytes log.filter events).toArray)
      file.flush
  catch _ => return

/-- Whether there is a directory at a path. -/
def isDirectory (path : Path) : IO Bool := do
  try
    (← IO.FS.realPath path.display).isDir
  catch _ => return false

/-- The number with which the system says that there is no such name. -/
def missingCode : Nat := 2

/-- Makes a directory and all that are missing on the way. Those above it are only made if it cannot
be made without them, so nothing is made for a path that the system takes for none. -/
partial def makeDirectories (path : Path) : IO Unit := do
  try
    IO.FS.createDir path.display
  catch e =>
    match path.above? with
    | some above =>
      if (systemReport? e).any fun (code, _) => code = missingCode then
        makeDirectories above
        try
          IO.FS.createDir path.display
        catch e => unless ← isDirectory path do throw e
      else unless ← isDirectory path do throw e
    | none => unless ← isDirectory path do throw e

/-- Opens the first log that can be opened, after some that could not. -/
def openLog (e : Environment) (f : LogFilter) (skipped : List LogPlace) : List LogPlace → IO Log
  | [] => return ⟨f, none⟩
  | place :: rest => do
    try
      makeDirectories (place.directory e)
      let log : Log := ⟨f, some (← IO.FS.Handle.mk (place.path e).display .append)⟩
      tell log (logOpening e place skipped)
      return log
    catch _ => openLog e f (skipped ++ [place]) rest

/-! ### A run -/

/-- Writes to the standard output and flushes it; gives the fault, if there is one. -/
def deliver (bytes : Text.Bytes) : IO (Option Fault) := do
  try
    let out ← IO.getStdout
    out.write (ByteArray.mk bytes.toArray)
    out.flush
    return none
  catch e => return some (faultOf e)

/-- The sink that stands for the standard output. -/
def stdout : SinkId := 0

/-- Does something that prints. It is done on a sink that takes everything, and what the sink took
goes to the standard output. If it cannot go there, the same is done on a sink that fails for that
reason instead. -/
def attempt {α : Type} (log : Log) (act : Bench → α × Bench) : IO α := do
  let (result, bench) := act (({} : Bench).withSink stdout {})
  let (result, bench) ← match ← deliver (bench.sink stdout).bytes with
    | none => pure (result, bench)
    | some fault => pure (act (({} : Bench).withSink stdout { behaviour := .failing fault }))
  tell log bench.journal
  return result

/-- The longest pause that the system is asked for at once, in milliseconds. -/
def longestPause : Nat := UInt32.size - 1

/-- Waits for a while. -/
def wait (d : Duration) : IO Unit := do
  for _ in [0 : d.millis / longestPause] do
    IO.sleep (.ofNat longestPause)
  IO.sleep (.ofNat (d.millis % longestPause))

/-- Makes moves one after the other until one of them fails. -/
def playAll (log : Log) (d : Driver) : List Move → Counter → IO (Except Halt Unit × Counter)
  | [], c => return (.ok (), c)
  | move :: rest, c => do
    if move = .pause then wait d.delay
    let (result, c) ← attempt log fun bench =>
      let (result, after) := d.perform stdout move ⟨c, bench⟩
      ((result, after.counter), after.bench)
    match result with
    | .ok () => playAll log d rest c
    | .error halt => return (.error halt, c)

/-- A run with some settings and the end of its counter. -/
def play (log : Log) (s : Settings) : IO (Option Failure) := do
  let d := Driver.ofSettings s
  let (result, c) ← playAll log d d.moves (.forRevision stdout s.revision)
  attempt log fun bench => ((), c.retire bench)
  return runFailure result

/-- What the process does once it has read its log filter; gives its failure, if there is one. -/
def perform (e : Environment) (f : LogFilter) : IO (Option Failure) := do
  let log ← openLog e f [] (LogPlace.known e)
  let loaded ← if e.looks then load e.configPath else pure .missing
  if e.looks then tell log (loaded.events e.configPath)
  match settings e loaded with
  | .error failure => return some failure
  | .ok s =>
    tell log (Settings.warnings e.revisionName ++ [resolvedEvent s])
    play log s

/-- The whole process. -/
def run : IO UInt32 := do
  let e := (← environment).settled
  let failure ← match logFilter? e with
    | none => pure (some .filter)
    | some f => perform e f
  IO.eprint (errorText failure)
  return .ofNat (exitCode failure)

end TraceTarget.CommandLine

/-- Runs the demonstration. -/
def main : IO UInt32 :=
  TraceTarget.CommandLine.run
