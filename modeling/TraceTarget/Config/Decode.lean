import TraceTarget.Config.Basic
import TraceTarget.Decimal.Shortest
import TraceTarget.Text.Quoted
import TraceTarget.Toml.Document
import TraceTarget.Toml.Report

/-!
# Configurations in documents

The schema of a configuration: which keys there are at which level, and what they may have. The keys
of a table are visited in the order of their names, each with everything below it, and the first
complaint decides. Names are ordered by code point, which is also the order of their UTF-8 bytes.

- `Reason`: the complaints, with their wording in `Reason.message`.
- `Rejection`: a complaint with its place.
- `Config.ofDocument`: the configuration that a document holds.
- `Config.parse`: the same from the text of a document.

A section may also be written as an array of its fields in a fixed order, and a revision as a table
whose only key is the name and has nothing under it.
-/

namespace TraceTarget

open Toml (Located Value Key Span)

/-! ### Complaints -/

/-- The tables of a configuration. -/
inductive Scope where
  | root
  | run
  | reporter
  deriving DecidableEq, Repr

/-- What a place of the schema asks for. -/
inductive Expected where
  | delay
  | message
  | runSection
  | reporterSection
  deriving DecidableEq, Repr

/-- What is found where a revision has nothing but its name. -/
inductive Payload where
  | string
  | integer
  | float
  | boolean
  | datetime
  deriving DecidableEq, Repr

/-- Why a document holds no configuration. -/
inductive Reason where
  | unknownField (name : String) (scope : Scope)
  | unknownVariant (name : String)
  /-- A revision as a table without a key, or with several. -/
  | notOneKey (none : Bool)
  | notEmptyTable
  | notEmptyArray
  | notTable (found : Payload)
  | notStringOrTable
  /-- A value of another type; `found` describes it. -/
  | wrongType (found : String) (expected : Expected)
  /-- A negative number of milliseconds. -/
  | negative (n : Int)
  /-- A section as an array with too few items. -/
  | tooShort (length : Nat) (expected : Expected)
  | integerOverflow
  | floatOverflow
  deriving DecidableEq, Repr

/-- A text between back quotes. -/
def backQuoted (s : String) : String :=
  "`" ++ s ++ "`"

/-- The keys that a table knows. -/
def Scope.fields : Scope → String
  | root => "`run` or `reporter`"
  | run => "`revision` or `delay_ms`"
  | reporter => "`message`"

/-- What a place asks for, in words. -/
def Expected.text : Expected → String
  | delay => "u64"
  | message => "a string"
  | runSection => "struct RunConfig"
  | reporterSection => "struct ReporterConfig"

/-- How many items a section has when it is an array, in words. -/
def Expected.items : Expected → String
  | runSection => "2 elements"
  | _ => "1 element"

/-- What is found under the name of a revision, in words. -/
def Payload.text : Payload → String
  | string => "string"
  | integer => "integer"
  | float => "float"
  | boolean => "boolean"
  | datetime => "datetime"

/-- The names of the revisions, as a complaint lists them. -/
def revisionNames : String :=
  ", ".intercalate (Revision.all.map fun r => backQuoted r.name)

/-- The wording of a complaint. -/
def Reason.message : Reason → String
  | unknownField name scope =>
    "unknown field " ++ backQuoted name ++ ", expected " ++ scope.fields
  | unknownVariant name =>
    "unknown variant " ++ backQuoted name ++ ", expected one of " ++ revisionNames
  | notOneKey true => "wanted exactly 1 element, found 0 elements"
  | notOneKey false => "wanted exactly 1 element, more than 1 element"
  | notEmptyTable => "expected empty table"
  | notEmptyArray => "expected empty array"
  | notTable found => "expected table, found " ++ found.text
  | notStringOrTable => "wanted string or table"
  | wrongType found expected => "invalid type: " ++ found ++ ", expected " ++ expected.text
  | negative n =>
    "invalid value: integer " ++ backQuoted (Text.signed n) ++ ", expected " ++ Expected.delay.text
  | tooShort length expected =>
    "invalid length " ++ Text.decimal length ++ ", expected " ++ expected.text ++ " with " ++
      expected.items
  | integerOverflow => "integer number overflowed"
  | floatOverflow => "floating-point number overflowed"

/-- A complaint and its place. -/
structure Rejection where
  span : Span
  reason : Reason
  deriving DecidableEq, Repr

/-! ### Descriptions of values -/

/-- The text of a floating-point number, unless it is too large for one. -/
def Toml.Number.text? : Toml.Number → Option String
  | .finite negative digits scale =>
    (Decimal.Binary.ofDecimal digits scale).map fun b =>
      (if negative then "-" else "") ++ String.ofList b.text
  | .infinite negative => some (if negative then "-inf" else "inf")
  | .notANumber => some "NaN"

/-- An integer as a complaint describes it: from 64 bits on, the width that holds it is named. No
more than 128 bits hold an integer at all. -/
def describeInteger (n : Int) : Except Reason String :=
  if -Int.pow 2 63 ≤ n ∧ n < Int.pow 2 64 then .ok ("integer " ++ backQuoted (Text.signed n))
  else if -Int.pow 2 127 ≤ n ∧ n < Int.pow 2 127 then
    .ok ("integer " ++ backQuoted (Text.signed n) ++ " as i128")
  else if 0 ≤ n ∧ n < Int.pow 2 128 then
    .ok ("integer " ++ backQuoted (Text.signed n) ++ " as u128")
  else .error .integerOverflow

/-- A value as a complaint describes it. -/
def describe : Value → Except Reason String
  | .string text => .ok ("string " ++ String.ofList (Text.quote text.toList))
  | .integer n => describeInteger n
  | .numberless => .error .integerOverflow
  | .float n =>
    match n.text? with
    | some text => .ok ("floating point " ++ backQuoted text)
    | none => .error .floatOverflow
  | .boolean b => .ok ("boolean " ++ backQuoted (if b then "true" else "false"))
  | .datetime | .table _ => .ok "map"
  | .array _ => .ok "sequence"

/-- The complaint about a value of another type than expected. -/
def mismatch (v : Value) (expected : Expected) : Reason :=
  match describe v with
  | .ok found => .wrongType found expected
  | .error reason => reason

/-! ### Fields -/

/-- What is under the name of a revision: a table or an array, and neither holds anything. -/
def checkPayload (v : Located Value) : Except Rejection Unit :=
  let fail reason := .error ⟨v.span, reason⟩
  match v.value with
  | .table [] | .array [] => .ok ()
  | .table _ => fail .notEmptyTable
  | .array _ => fail .notEmptyArray
  | .string _ => fail (.notTable .string)
  | .integer _ | .numberless => fail (.notTable .integer)
  | .float _ => fail (.notTable .float)
  | .boolean _ => fail (.notTable .boolean)
  | .datetime => fail (.notTable .datetime)

/-- The revision of a name at a place; only the exact names count. -/
def revisionNamed (span : Span) (name : String) : Except Rejection Revision :=
  match Revision.ofName? name with
  | some r => .ok r
  | none => .error ⟨span, .unknownVariant name⟩

/-- A revision: its name, or a table with the name as its only key. -/
def decodeRevision (v : Located Value) : Except Rejection Revision :=
  match v.value with
  | .string name => revisionNamed v.span name
  | .table [] => .error ⟨v.span, .notOneKey true⟩
  | .table [(k, payload)] => do
    let r ← revisionNamed k.span k.name
    checkPayload payload
    return r
  | .table _ => .error ⟨v.span, .notOneKey false⟩
  | _ => .error ⟨v.span, .notStringOrTable⟩

/-- A delay: a number of milliseconds in 64 bits. -/
def decodeDelay (v : Located Value) : Except Rejection UInt64 :=
  match v.value with
  | .integer n =>
    if 0 ≤ n ∧ n < UInt64.size then .ok (.ofNat n.toNat)
    else if -Int.pow 2 63 ≤ n ∧ n < 0 then .error ⟨v.span, .negative n⟩
    else .error ⟨v.span, mismatch v.value .delay⟩
  | other => .error ⟨v.span, mismatch other .delay⟩

/-- A message. -/
def decodeMessage (v : Located Value) : Except Rejection String :=
  match v.value with
  | .string text => .ok text
  | other => .error ⟨v.span, mismatch other .message⟩

/-! ### Sections -/

/-- The entries of a table in the order in which they are visited. -/
def visitOrder (es : Toml.Entries) : Toml.Entries :=
  es.mergeSort fun a b => decide (a.1.name ≤ b.1.name)

/-- The key under which a section would have a date; no section knows it. -/
def dateField : String := "$__toml_private_datetime"

/-- Reads a section from the entries of a table, one after the other. -/
def decodeFields {σ : Type} (field : σ → Key × Located Value → Except Rejection σ) (start : σ)
    (es : Toml.Entries) : Except Rejection σ :=
  (visitOrder es).foldlM field start

/-- Reads one entry of the section on running. -/
def runField (s : RunSection) : Key × Located Value → Except Rejection RunSection
  | (k, v) =>
    if k.name = "revision" then return { s with revision := some (← decodeRevision v) }
    else if k.name = "delay_ms" then return { s with delayMs := some (← decodeDelay v) }
    else .error ⟨k.span, .unknownField k.name .run⟩

/-- The section on running: a table, or an array with the revision and the delay. -/
def decodeRun (v : Located Value) : Except Rejection RunSection :=
  match v.value with
  | .table es => decodeFields runField {} es
  | .array (r :: d :: _) => do
    let r ← decodeRevision r
    return { revision := some r, delayMs := some (← decodeDelay d) }
  | .array [r] => do
    let _ ← decodeRevision r
    .error ⟨v.span, .tooShort 1 .runSection⟩
  | .array [] => .error ⟨v.span, .tooShort 0 .runSection⟩
  | .datetime => .error ⟨v.span, .unknownField dateField .run⟩
  | other => .error ⟨v.span, mismatch other .runSection⟩

/-- Reads one entry of the section on the reporter. -/
def reporterField (s : ReporterSection) : Key × Located Value → Except Rejection ReporterSection
  | (k, v) =>
    if k.name = "message" then return { s with message := some (← decodeMessage v) }
    else .error ⟨k.span, .unknownField k.name .reporter⟩

/-- The section on the reporter: a table, or an array with the message. -/
def decodeReporter (v : Located Value) : Except Rejection ReporterSection :=
  match v.value with
  | .table es => decodeFields reporterField {} es
  | .array (m :: _) => do return { message := some (← decodeMessage m) }
  | .array [] => .error ⟨v.span, .tooShort 0 .reporterSection⟩
  | .datetime => .error ⟨v.span, .unknownField dateField .reporter⟩
  | other => .error ⟨v.span, mismatch other .reporterSection⟩

/-! ### Configurations -/

/-- Reads one entry of the root table. -/
def rootField (c : Config) : Key × Located Value → Except Rejection Config
  | (k, v) =>
    if k.name = "run" then return { c with run := some (← decodeRun v) }
    else if k.name = "reporter" then return { c with reporter := some (← decodeReporter v) }
    else .error ⟨k.span, .unknownField k.name .root⟩

/-- The configuration that a document holds. -/
def Config.ofDocument (root : Toml.Entries) : Except Rejection Config :=
  decodeFields rootField {} root

/-- Why a text is not a configuration. -/
inductive ParseFailure where
  /-- It is no document. -/
  | syntactic
  /-- It is a document with something else in it. -/
  | schema (rejection : Rejection)
  deriving DecidableEq, Repr

/-- The configuration that a text holds. -/
def Config.parse (text : List Char) : Except ParseFailure Config :=
  match Toml.parse? text with
  | none => .error .syntactic
  | some root => (Config.ofDocument root).mapError .schema

/-- The report of a rejection, pointing into the text. -/
def Rejection.report (text : List Char) (r : Rejection) : String :=
  Toml.report text r.span r.reason.message

end TraceTarget
