import TraceTarget.Datum
import TraceTarget.Settings
import TraceTarget.Proofs.FlatDocument
import TraceTarget.Proofs.Schema
import TraceTarget.Proofs.Spelling

/-!
# The routes by which a revision is named

A revision may be named in a file, in a datum or in the environment. The first two take its exact
name only. The environment is more lenient, and the gap between them is exactly the white space and
the capital letters that it forgives. What all three take leads to the same settings, and every form
in which a revision is written down is taken by all three.

- `Config.OnlyNames`: the documents that say nothing but the name of a revision.
- `parse_onlyNames_iff`: such a document is accepted exactly if the name is exact.
- `Revision.name_eq_iff`: a text is an exact name exactly if it can be read and there is nothing to
  forgive in it.
- `Revision.SameByRoutes`, `Revision.Written`: what the routes have in common for a text, and for
  the forms of a revision.
- `routes_agree`: this holds of every text and of every revision.
-/

namespace TraceTarget

open Toml (Located Value Key Entries Section)

/-! ### The route through a file -/

namespace Config

/-- The configuration with nothing but a revision. -/
def ofRevision (r : Revision) : Config :=
  { run := some { revision := some r } }

/-- A text is a document in which there is nothing but a section on running, with nothing but a name
for the revision. -/
def OnlyNames (text : List Char) (name : String) : Prop :=
  ∃ root, Toml.parse? text = some root ∧
    List.Forall₂ Section.Holds [⟨"run", [("revision", .text name)]⟩] root

/-- Every name can be put into such a document. -/
theorem exists_onlyNames (name : String) : ∃ text, OnlyNames text name := by
  have hlegible : Toml.Legible [⟨"run", [("revision", .text name)]⟩] := by
    constructor
    · have hbare : ∀ key ∈ ["run", "revision"], Toml.IsBareName key := by decide
      intro r hr
      rcases List.mem_pair.mp hr with rfl | rfl
      · exact hbare "run" (by decide)
      · exact hbare "revision" (by decide)
    · simp
    · simp
  exact ⟨_, Toml.parse?_written hlegible⟩

/-- A table with one entry is read by reading that. -/
theorem decodeFields_singleton {σ : Type}
    (field : σ → Key × Located Value → Except Rejection σ) (start : σ) (e : Key × Located Value) :
    decodeFields field start [e] = field start e := by
  simp [decodeFields, visitOrder]

variable {text : List Char} {name : String} {c : Config}

/-- The root table of such a document has one entry, and so has the section in it. -/
theorem OnlyNames.root (h : OnlyNames text name) :
    ∃ run body revision value, Toml.parse? text = some [(run, body)] ∧ run.name = "run" ∧
      body.value = .table [(revision, value)] ∧ revision.name = "revision" ∧
      value.value = .string name := by
  obtain ⟨root, hparse, hholds⟩ := h
  obtain ⟨⟨run, body⟩, rest, ⟨hrun, es, hsection, hes⟩, hrest, rfl⟩ :=
    List.forall₂_cons_left_iff.mp hholds
  obtain ⟨⟨revision, value⟩, more, ⟨hrevision, hvalue⟩, hmore, rfl⟩ :=
    List.forall₂_cons_left_iff.mp hes
  rw [List.forall₂_nil_left_iff.mp hrest] at hparse
  rw [List.forall₂_nil_left_iff.mp hmore] at hsection
  exact ⟨run, body, revision, value, hparse, hrun, hsection, hrevision, hvalue⟩

theorem decodeRevision_string {value : Located Value} (h : value.value = .string name)
    {r : Revision} : decodeRevision value = .ok r ↔ name = r.name := by
  rw [decodeRevision, h]
  exact revisionNamed_ok_iff

/-- A file takes the exact names and nothing else. -/
theorem parse_onlyNames_iff (h : OnlyNames text name) :
    Config.parse text = .ok c ↔ ∃ r, name = r.name ∧ c = .ofRevision r := by
  obtain ⟨run, body, revision, value, hparse, hrun, hsection, hrevision, hvalue⟩ := h.root
  -- first the section, then the root table: each has a single entry to be read
  have hrun' {s : RunSection} :
      decodeRun body = .ok s ↔ ∃ r, name = r.name ∧ s = { revision := some r } := by
    rw [decodeRun, hsection]
    dsimp only
    rw [decodeFields_singleton, runField, if_pos hrevision, return_eq_ok]
    simp only [decodeRevision_string hvalue]
  have hroot : Config.ofDocument [(run, body)] = .ok c ↔
      ∃ r, name = r.name ∧ c = .ofRevision r := by
    rw [Config.ofDocument, decodeFields_singleton, rootField, if_pos hrun, return_eq_ok]
    constructor
    · rintro ⟨s, hs, rfl⟩
      obtain ⟨r, hr, rfl⟩ := hrun'.mp hs
      exact ⟨r, hr, rfl⟩
    · rintro ⟨r, hr, rfl⟩
      exact ⟨_, hrun'.mpr ⟨r, hr, rfl⟩, rfl⟩
  exact (Config.parse_ok_iff hparse).trans hroot

end Config

/-! ### The other routes -/

namespace Revision

open Text (trim lower)

variable {t : String} {r : Revision}

/-- So does a datum. -/
theorem ofDatum_string_iff : ofDatum (.string t) = .ok r ↔ t = r.name := by
  rw [ofDatum, ofDatum.named]
  constructor
  · intro h
    cases hname : ofName? t with
    | none =>
      rw [hname] at h
      cases h
    | some r' =>
      rw [hname] at h
      cases h
      exact eq_name_of_ofName? hname
  · rintro rfl
    rw [ofName?_name]
    rfl

/-- The exact names are the texts that can be read without forgiving anything. -/
theorem name_eq_iff :
    t = r.name ↔ parse t = .ok r ∧ trim t.toList = t.toList ∧ lower t.toList = t.toList := by
  rw [parse_ok_iff, spells_iff]
  constructor
  · rintro rfl
    cases r <;> decide
  · rintro ⟨hspells, htrim, hlower⟩
    rw [htrim, hlower] at hspells
    exact String.toList_inj.mp hspells

theorem parse_name (r : Revision) : parse r.name = .ok r :=
  (name_eq_iff.mp rfl).1

/-! ### All of them -/

/-- What the routes make of a text. -/
structure SameByRoutes (t : String) : Prop where
  /-- A document that gives the text for the revision is accepted exactly if the text is a name. -/
  file : ∀ text, Config.OnlyNames text t → ∀ c,
    Config.parse text = .ok c ↔ ∃ r, t = r.name ∧ c = .ofRevision r
  datum : ∀ r, ofDatum (.string t) = .ok r ↔ t = r.name
  /-- Names are the texts that the environment may give, as long as there is no white space around
  them and no capital letter in them. -/
  environment : ∀ r,
    t = r.name ↔ parse t = .ok r ∧ trim t.toList = t.toList ∧ lower t.toList = t.toList
  /-- What a file may give makes the same settings in the environment, and nobody is warned. -/
  settings : ∀ text, Config.OnlyNames text t → ∀ c, Config.parse text = .ok c →
    Settings.resolve (some c) none = Settings.resolve none (some t) ∧
      Settings.warnings none = [] ∧ Settings.warnings (some t) = []

/-- The forms of a revision are one form, and every route takes it. -/
structure Written (r : Revision) : Prop where
  shown : toString r = r.name
  datum : r.toDatum = .string r.name
  parse_shown : parse (toString r) = .ok r
  ofDatum_toDatum : ofDatum r.toDatum = .ok r
  parse_file : ∀ text, Config.OnlyNames text (toString r) → Config.parse text = .ok (.ofRevision r)

theorem sameByRoutes (t : String) : SameByRoutes t where
  file text htext c := Config.parse_onlyNames_iff htext
  datum r := ofDatum_string_iff
  environment r := name_eq_iff
  settings text htext c hc := by
    obtain ⟨r, rfl, rfl⟩ := (Config.parse_onlyNames_iff htext).mp hc
    refine ⟨?_, rfl, ?_⟩
    · simp [Settings.resolve, Settings.override, parse_name, Config.ofRevision, Except.toOption]
    · simp [Settings.warnings, parse_name]

/-- The datum of a revision is its name. -/
theorem toDatum_eq (r : Revision) : r.toDatum = .string r.name := by
  have hlower : String.ofList (lower r.title.toList) = r.name := by cases r <;> decide
  rw [toDatum, hlower]

theorem written (r : Revision) : Written r where
  shown := rfl
  datum := toDatum_eq r
  parse_shown := parse_name r
  ofDatum_toDatum := by
    rw [toDatum_eq]
    exact ofDatum_string_iff.mpr rfl
  parse_file text htext := (Config.parse_onlyNames_iff htext).mpr ⟨r, rfl, rfl⟩

/-- **The routes agree**: what a file takes for a revision makes the same settings in the
environment. A file and a datum take the same texts, and so does the environment but for the white
space and the capital letters that it forgives. The forms of a revision are one and the same, every
route takes it, and there is a document for every text. -/
theorem routes_agree :
    (∀ t, SameByRoutes t ∧ ∃ text, Config.OnlyNames text t) ∧ ∀ r, Written r :=
  ⟨fun t => ⟨sameByRoutes t, Config.exists_onlyNames t⟩, written⟩

end Revision

end TraceTarget
