import TraceTarget.Config.Decode

/-!
# Revisions as data

Apart from a configuration, a revision may be handed over as data of a general kind: by its name, or
by a record whose only member has that name and holds nothing. The name is looked at before what the
member holds.

- `Datum`: data, as far as a reader of revisions tells them apart.
- `Revision.toDatum`: the datum that stands for a revision.
- `Revision.ofDatum`: the revision that a datum stands for.
- `NoRevision`: why there is none, with its wording in `NoRevision.message`.
-/

namespace TraceTarget

/-- Data. What is in a list does not matter. -/
inductive Datum where
  | nothing
  | boolean (b : Bool)
  /-- The number `digits · 10 ^ scale`, with a sign; the scale of a whole number is zero. -/
  | number (negative : Bool) (digits : Nat) (scale : Int)
  | string (text : String)
  | list
  | record (members : List (String × Datum))

instance : Inhabited Datum := ⟨.nothing⟩

/-- A number as a complaint describes it: whole numbers are kept in 64 bits, and all others are
rounded. -/
def describeNumber (negative : Bool) (digits : Nat) (scale : Int) : String :=
  let n : Int := if negative then -digits else digits
  if scale = 0 ∧ -Int.pow 2 63 ≤ n ∧ n < Int.pow 2 64 then "integer " ++ backQuoted (Text.signed n)
  else
    let magnitude := (Decimal.Binary.ofDecimal digits scale).elim "inf" fun b =>
      String.ofList b.compactText
    "floating point " ++ backQuoted ((if negative then "-" else "") ++ magnitude)

/-- A datum as a complaint describes it. -/
def Datum.described : Datum → String
  | nothing => "null"
  | boolean b => "boolean " ++ backQuoted (if b then "true" else "false")
  | number negative digits scale => describeNumber negative digits scale
  | string text => "string " ++ String.ofList (Text.quote text.toList)
  | list => "sequence"
  | record _ => "map"

/-- The name of a revision as a title has it, with a capital letter. -/
def Revision.title : Revision → String
  | initial => "Initial"
  | linked => "Linked"
  | final => "Final"

/-- The datum that stands for a revision: its title in lower case. -/
def Revision.toDatum (r : Revision) : Datum :=
  .string (String.ofList (Text.lower r.title.toList))

/-- Why a datum stands for no revision. -/
inductive NoRevision where
  | unknown (name : String)
  /-- The member with the name of a revision holds something. -/
  | notEmpty (found : Datum)
  /-- A record without a member, or with several. -/
  | notOneMember
  | neitherNameNorRecord (found : Datum)

/-- The wording of a complaint. -/
def NoRevision.message : NoRevision → String
  | unknown name => (Reason.unknownVariant name).message
  | notEmpty found => "invalid type: " ++ found.described ++ ", expected unit"
  | notOneMember => "invalid value: map, expected map with a single key"
  | neitherNameNorRecord found =>
    "invalid type: " ++ found.described ++ ", expected string or map"

/-- The revision that a datum stands for. Only the exact names count. -/
def Revision.ofDatum : Datum → Except NoRevision Revision
  | .string name => named name
  | .record [(name, held)] => do
    let r ← named name
    match held with
    | .nothing => return r
    | found => throw (.notEmpty found)
  | .record _ => .error .notOneMember
  | found => .error (.neitherNameNorRecord found)
where
  /-- The revision of a name. -/
  named (name : String) : Except NoRevision Revision :=
    (Revision.ofName? name).elim (.error (.unknown name)) .ok

end TraceTarget
