import TraceTarget.Text.Numeral

/-!
# Failures of input and output

A fault is the reason why bytes could not be written, passed on or read.

- `Fault.message`: its wording.
- `SystemFault`: the faults that the operating system reports by a number.
-/

namespace TraceTarget

/-- A fault that the operating system reports by a number. -/
inductive SystemFault where
  | inputOutput
  | isDirectory
  | noSpace
  | brokenPipe
  deriving DecidableEq, Repr

namespace SystemFault

/-- All of them, by their numbers. -/
def all : List SystemFault := [inputOutput, isDirectory, noSpace, brokenPipe]

/-- The system's number of a fault. -/
def code : SystemFault → Nat
  | inputOutput => 5
  | isDirectory => 21
  | noSpace => 28
  | brokenPipe => 32

/-- The system's own wording. -/
def text : SystemFault → String
  | inputOutput => "Input/output error"
  | isDirectory => "Is a directory"
  | noSpace => "No space left on device"
  | brokenPipe => "Broken pipe"

/-- A wording of the system together with a number. -/
def wording (text : String) (code : Nat) : String :=
  text ++ " (os error " ++ Text.decimal code ++ ")"

/-- The system's wording together with the number. -/
def message (f : SystemFault) : String :=
  wording f.text f.code

/-- The fault of a number. -/
def ofCode? (code : Nat) : Option SystemFault :=
  all.find? (·.code = code)

end SystemFault

/-- Why bytes could not be written, passed on or read. -/
inductive Fault where
  | brokenPipe
  | permissionDenied
  | storageFull
  | wouldBlock
  | unexpectedEnd
  | interrupted
  | timedOut
  /-- A sink that is not full took nothing. -/
  | writeZero
  /-- Bytes that should have been a text are none. -/
  | notUtf8
  | system (fault : SystemFault)
  /-- Anything else, in the words of whoever reports it. -/
  | other (text : String)
  deriving DecidableEq, Repr, Inhabited

/-- The wording of a fault. -/
def Fault.message : Fault → String
  | brokenPipe => "broken pipe"
  | permissionDenied => "permission denied"
  | storageFull => "no storage space"
  | wouldBlock => "operation would block"
  | unexpectedEnd => "unexpected end of file"
  | interrupted => "operation interrupted"
  | timedOut => "timed out"
  | writeZero => "failed to write whole buffer"
  | notUtf8 => "stream did not contain valid UTF-8"
  | system f => f.message
  | other text => text

/-- The fault that the operating system reports by a number and a wording. -/
def Fault.ofCode (code : Nat) (text : String) : Fault :=
  match SystemFault.ofCode? code with
  | some f => .system f
  | none => .other (SystemFault.wording text code)

end TraceTarget
