import TraceTarget.Config.Load
import TraceTarget.Proofs.FlatDocument
import TraceTarget.Proofs.Schema

/-!
# Writing a configuration down

Every configuration can be written down, and what was written is read back as the same
configuration. The text is a flat document: a section that is there has its header, even if it says
nothing, and a field that is there has its line.

- `Config.text`: the text of a configuration.
- `rel_under`: what a table read back has under a name.
- `isRoot_of_holds`: the table read back is as the schema has it.
- `parse_text`: the text is read back.
- `config_round_trip`: so it is from a file, and the log is told nothing.
-/

namespace TraceTarget

open Toml (Located Value Key Entries Plain Section names under)
open Schema

/-! ### Texts of configurations -/

/-- The fields of the section on running that are there. -/
def RunSection.fields (s : RunSection) : List (String × Plain) :=
  (s.revision.map fun r => ("revision", .text r.name)).toList ++
    (s.delayMs.map fun n => ("delay_ms", .number n.toNat)).toList

/-- The fields of the section on the reporter that are there. -/
def ReporterSection.fields (s : ReporterSection) : List (String × Plain) :=
  (s.message.map fun text => ("message", .text text)).toList

/-- The sections that are there. -/
def Config.sections (c : Config) : List Section :=
  (c.run.map fun s => ⟨"run", s.fields⟩).toList ++
    (c.reporter.map fun s => ⟨"reporter", s.fields⟩).toList

/-- The text of a configuration. -/
def Config.text (c : Config) : List Char :=
  Toml.writtenDocument c.sections

theorem RunSection.fields_names (s : RunSection) :
    (s.fields.map Prod.fst).Sublist ["revision", "delay_ms"] := by
  obtain ⟨_ | r, _ | n⟩ := s <;> simp [fields]

theorem ReporterSection.fields_names (s : ReporterSection) :
    (s.fields.map Prod.fst).Sublist ["message"] := by
  obtain ⟨_ | text⟩ := s <;> simp [fields]

theorem Config.sections_names (c : Config) :
    (c.sections.map Section.name).Sublist ["run", "reporter"] := by
  obtain ⟨_ | run, _ | reporter⟩ := c <;> simp [sections]

/-- The fields of any section have known names, each at most once. -/
theorem Config.sections_fields (c : Config) {s : Section} (hs : s ∈ c.sections) :
    (s.fields.map Prod.fst).Sublist ["revision", "delay_ms", "message"] := by
  rw [sections, List.mem_append, Option.mem_toList, Option.mem_toList, Option.map_eq_some_iff,
    Option.map_eq_some_iff] at hs
  rcases hs with ⟨run, -, rfl⟩ | ⟨reporter, -, rfl⟩
  · exact run.fields_names.trans (by decide)
  · exact reporter.fields_names.trans (by decide)

/-- The sections of a configuration can be written down. -/
theorem Config.legible (c : Config) : Toml.Legible c.sections where
  names := c.sections_names.nodup (by decide)
  fields s hs := (c.sections_fields hs).nodup (by decide)
  bare r hr := by
    obtain ⟨s, hs, hr⟩ := List.mem_flatMap.mp hr
    have hname : ∀ name ∈ ["run", "reporter"], Toml.IsBareName name := by decide
    have hfield : ∀ name ∈ ["revision", "delay_ms", "message"], Toml.IsBareName name := by decide
    rw [Section.rows, List.mem_cons, List.mem_map] at hr
    rcases hr with rfl | ⟨f, hf, rfl⟩
    · exact hname _ (c.sections_names.subset (List.mem_map_of_mem hs))
    · exact hfield _ ((c.sections_fields hs).subset (List.mem_map_of_mem hf))

/-! ### Tables read back -/

section Tables

variable {α : Type} {R : α → Key × Located Value → Prop} {n : α → String} {as : List α}
  {es : Entries}

variable (hname : ∀ {a e}, R a e → e.1.name = n a)

include hname

theorem names_eq_map (h : List.Forall₂ R as es) : names es = as.map n := by
  induction h with
  | nil => rfl
  | cons hentry _ ih => exact congrArg₂ List.cons (hname hentry) ih

/-- A table has under a name what was read from the first thing of that name. -/
theorem rel_under {Q : Value → α → Prop} (hvalue : ∀ {a e}, R a e → Q e.2.value a)
    (h : List.Forall₂ R as es) (name : String) :
    Option.Rel Q (under name es) (as.find? (n · = name)) := by
  induction h with
  | nil => exact .none
  | @cons a e as es hentry _ ih =>
    rw [under, List.find?_cons, List.find?_cons, hname hentry]
    by_cases hn : n a = name
    · rw [decide_eq_true hn]
      exact .some (hvalue hentry)
    · rw [decide_eq_false hn]
      exact ih

/-- A table is tidy if the names of what it was read from are. -/
theorem tidy_of_forall₂ (hnames : (as.map n).Nodup)
    (htidy : ∀ {a e}, a ∈ as → R a e → e.2.value.Tidy) (h : List.Forall₂ R as es) :
    (Value.table es).Tidy := by
  refine .table ((names_eq_map (R := R) hname h).symm ▸ hnames) fun e he => ?_
  obtain ⟨a, ha, hentry⟩ := Toml.exists_of_mem_right h he
  exact htidy ha hentry

end Tables

/-- A field that may be missing, read back. -/
theorem rel_of_map {α β : Type} {Q : Value → β → Prop} {R : Value → α → Prop} {g : α → β}
    (hQ : ∀ {v a}, Q v (g a) → R v a) {o : Option Value} {o' : Option α}
    (h : Option.Rel Q o (o'.map g)) : Option.Rel R o o' := by
  cases o' with
  | none =>
    cases h
    exact .none
  | some a =>
    cases h with
    | some hv => exact .some (hQ hv)

section Fields

variable {fields : List (String × Plain)} {es : Entries}

/-- A field that was read back has the value that was written. -/
theorem under_fields (h : List.Forall₂ Toml.IsField fields es) (name : String) :
    Option.Rel (fun v f => v = f.2.value) (under name es) (fields.find? (·.1 = name)) :=
  rel_under And.left And.right h name

theorem tidy_fields (hnames : (fields.map Prod.fst).Nodup)
    (h : List.Forall₂ Toml.IsField fields es) : (Value.table es).Tidy := by
  refine tidy_of_forall₂ And.left hnames (fun {f e} _ he => ?_) h
  rw [he.2]
  cases f.2 with
  | text s => exact .string s
  | number n => exact .integer n

/-- The section on running is read back. -/
theorem isRun_of_fields {s : RunSection} (h : List.Forall₂ Toml.IsField s.fields es) :
    IsRun (.table es) s := by
  have hrevision : s.fields.find? (·.1 = "revision") =
      s.revision.map fun r => ("revision", .text r.name) := by
    obtain ⟨_ | r, _ | n⟩ := s <;> rfl
  have hdelay : s.fields.find? (·.1 = "delay_ms") =
      s.delayMs.map fun n => ("delay_ms", .number n.toNat) := by
    obtain ⟨_ | r, _ | n⟩ := s <;> rfl
  refine .table ⟨fun e he => ?_, ?_, ?_⟩
  · obtain ⟨f, hf, hname, -⟩ := Toml.exists_of_mem_right h he
    simpa [hname] using s.fields_names.subset (List.mem_map_of_mem hf)
  · refine rel_of_map (fun {v r} hv => ?_) (hrevision ▸ under_fields h "revision")
    exact hv ▸ .name r
  · refine rel_of_map (fun {v n} hv => ?_) (hdelay ▸ under_fields h "delay_ms")
    exact hv ▸ .integer n

/-- The section on the reporter is read back. -/
theorem isReporter_of_fields {s : ReporterSection} (h : List.Forall₂ Toml.IsField s.fields es) :
    IsReporter (.table es) s := by
  have hmessage : s.fields.find? (·.1 = "message") =
      s.message.map fun text => ("message", .text text) := by
    obtain ⟨_ | text⟩ := s <;> rfl
  refine .table ⟨fun e he => ?_, ?_⟩
  · obtain ⟨f, hf, hname, -⟩ := Toml.exists_of_mem_right h he
    simpa [hname] using s.fields_names.subset (List.mem_map_of_mem hf)
  · refine rel_of_map (fun {v text} hv => ?_) (hmessage ▸ under_fields h "message")
    exact hv ▸ .string text

end Fields

/-! ### The round trip -/

/-- A document that was read back is as the schema has it, and says the configuration. -/
theorem isRoot_of_holds {c : Config} {root : Entries}
    (h : List.Forall₂ Section.Holds c.sections root) : IsRoot root c := by
  have hunder (name : String) : Option.Rel
      (fun v (s : Section) =>
        ∃ es, v = .table es ∧ List.Forall₂ Toml.IsField s.fields es)
      (under name root) (c.sections.find? (·.name = name)) :=
    rel_under And.left And.right h name
  have hrun : c.sections.find? (·.name = "run") = c.run.map fun s => ⟨"run", s.fields⟩ := by
    obtain ⟨_ | run, _ | reporter⟩ := c <;> rfl
  have hreporter : c.sections.find? (·.name = "reporter") =
      c.reporter.map fun s => ⟨"reporter", s.fields⟩ := by
    obtain ⟨_ | run, _ | reporter⟩ := c <;> rfl
  refine ⟨fun e he => ?_, ?_, ?_⟩
  · obtain ⟨s, hs, hname, -⟩ := Toml.exists_of_mem_right h he
    simpa [hname] using c.sections_names.subset (List.mem_map_of_mem hs)
  · refine rel_of_map ?_ (hrun ▸ hunder "run")
    rintro v s ⟨es, rfl, hes⟩
    exact isRun_of_fields hes
  · refine rel_of_map ?_ (hreporter ▸ hunder "reporter")
    rintro v s ⟨es, rfl, hes⟩
    exact isReporter_of_fields hes

theorem tidy_of_holds {c : Config} {root : Entries}
    (h : List.Forall₂ Section.Holds c.sections root) : (Value.table root).Tidy := by
  refine tidy_of_forall₂ And.left c.legible.names ?_ h
  rintro s e hs ⟨-, es, hvalue, hes⟩
  rw [hvalue]
  exact tidy_fields (c.legible.fields s hs) hes

/-- The text of a configuration is read back. -/
theorem parse_text (c : Config) : Config.parse c.text = .ok c := by
  obtain ⟨root, hparse, hholds⟩ := Toml.parse?_written c.legible
  have hdecode : Config.ofDocument root = .ok c :=
    (isRoot_of_holds hholds).ofDocument (tidy_of_holds hholds)
  exact (Config.parse_ok_iff hparse).mpr hdecode

/-- **Every configuration can be written down and is read back**: its text is read as that
configuration, and so is a file that holds the text, of which the log is not told anything. -/
theorem config_round_trip (c : Config) :
    Config.parse c.text = .ok c ∧
      let loaded := Config.load (some (.file (Text.encode c.text)))
      loaded = .found c ∧ loaded.config? = .ok (some c) ∧ ∀ path, loaded.events path = [] := by
  have hloaded : Config.load (some (.file (Text.encode c.text))) = .found c := by
    rw [Config.load, Config.ofBytes, Text.decode?_encode]
    simp only [parse_text]
  refine ⟨parse_text c, hloaded, ?_, fun path => ?_⟩
  · rw [hloaded]
    rfl
  · rw [hloaded]
    rfl

/-- A quote, a line break and a letter beyond ASCII in a message. -/
example :
    let c : Config :=
      { run := some { delayMs := some 18446744073709551615 }
        reporter := some { message := some "a\"\né" } }
    String.ofList c.text =
      "[run]\ndelay_ms = 18446744073709551615\n[reporter]\nmessage = \"a\\\"\\u000Aé\"\n" := by
  decide +kernel

end TraceTarget
