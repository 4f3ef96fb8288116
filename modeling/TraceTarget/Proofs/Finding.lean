import TraceTarget.Program

/-!
# How a configuration is found and loaded

The environment selects one path, and what can be found there decides everything else: whether there
is a configuration, whether loading it fails and how, and what the log is told. There is no second
path to fall back to, and a file that cannot be used is not taken for one that is missing.

- `Path.gap`, `join_join`: what stands between a path and what is below it.
- `Environment.NamesFile`: the environment has a text for the path of the configuration that is not
  all white space.
- `Environment.Selects`: the path that is selected, which is that text, or else a path below the
  home directory.
- `Config.Sorted`: what loading comes to, by what is found at a path.
- `loading_is_sorted`: loading comes to that at the selected path; and what it does not depend on.
-/

namespace TraceTarget

open Text (encode decode?)

/-! ### Paths below a directory -/

namespace Path

/-- What stands between a path and what is below it: a slash, unless there is one already. -/
def gap (base : Path) : Text.Bytes :=
  if base.bytes = [] ∨ base.bytes.getLast? = some slash then [] else [slash]

theorem bytes_join (base : Path) (below : String) :
    (base.join below).bytes = base.bytes ++ base.gap ++ encode below.toList := by
  unfold join gap
  split <;> simp

/-- After a name there is a slash. -/
theorem gap_join (base : Path) {below : String} {last : UInt8}
    (hbelow : (encode below.toList).getLast? = some last) (hlast : last ≠ slash) :
    (base.join below).gap = [slash] := by
  have hne : encode below.toList ≠ [] := by
    intro hnil
    simp [hnil] at hbelow
  rw [gap, bytes_join]
  simp [hne, hbelow, hlast]

/-- What is below a name in a directory is below the directory. -/
theorem join_join (base : Path) {below : String} {last : UInt8}
    (hbelow : (encode below.toList).getLast? = some last) (hlast : last ≠ slash) (rest : String) :
    (base.join below).join rest = base.join (below ++ "/" ++ rest) := by
  have hslash : encode "/".toList = [slash] := by decide
  have hbytes : ((base.join below).join rest).bytes = (base.join (below ++ "/" ++ rest)).bytes := by
    rw [bytes_join, bytes_join, bytes_join, gap_join base hbelow hlast, ← hslash]
    simp only [String.toList_append, Text.encode_append, List.append_assoc]
  exact congrArg Path.mk hbytes

end Path

namespace Environment

variable {e e' : Environment} {text : List Char} {path : Path}

theorem directory_join (e : Environment) (rest : String) :
    e.directory.join rest = (Path.mk e.home).join (".tracee/" ++ rest) := by
  have hlast : (encode ".tracee".toList).getLast? = some 0x65 := by decide
  exact Path.join_join (Path.mk e.home) hlast (by decide) rest

/-- The log is below the home directory. -/
theorem logPath_eq (e : Environment) :
    e.logPath = (Path.mk e.home).join ".tracee/logs/tracee.log" := by
  have hlast : (encode ".tracee/logs".toList).getLast? = some 0x73 := by decide
  rw [logPath, logDirectory, directory_join]
  exact Path.join_join (Path.mk e.home) hlast (by decide) logName

/-! ### The selected path -/

/-- The environment has a text for the path of the configuration, and it is not all white space. -/
def NamesFile (e : Environment) (text : List Char) : Prop :=
  e.config = some (encode text) ∧ ∃ c ∈ text, Text.isBlank c = false

/-- A path is the one where the configuration is looked for. -/
inductive Selects (e : Environment) : Path → Prop
  /-- The environment names it: it is used as it is, with the white space around it. -/
  | named {text : List Char} : e.NamesFile text → Selects e ⟨encode text⟩
  /-- The environment names none: there is nothing, no text, or only white space. -/
  | standard : (∀ text, ¬e.NamesFile text) →
    Selects e ((Path.mk e.home).join ".tracee/config.toml")

theorem text?_eq_some_iff {bytes : Option Text.Bytes} {name : String} :
    text? bytes = some name ↔ bytes = some (encode name.toList) := by
  constructor
  · intro h
    obtain ⟨cs, hcs, rfl⟩ := Option.map_eq_some_iff.mp h
    obtain ⟨bs, rfl, hbs⟩ := Option.bind_eq_some_iff.mp hcs
    rw [Text.decode?_eq_some_iff.mp hbs, String.toList_ofList]
  · rintro rfl
    rw [text?, Option.bind_some, Text.decode?_encode, Option.map_some, String.ofList_toList]

theorem isAllBlank_eq_false_iff {cs : List Char} :
    Text.isAllBlank cs = false ↔ ∃ c ∈ cs, Text.isBlank c = false := by
  simp [Text.isAllBlank]

/-- The environment names at most one file. -/
theorem configPath_of_namesFile (h : e.NamesFile text) : e.configPath = ⟨encode text⟩ := by
  obtain ⟨hconfig, hblank⟩ := h
  have hname : text? e.config = some (String.ofList text) := by
    rw [text?_eq_some_iff, hconfig, String.toList_ofList]
  have hshown : Text.isAllBlank text = false := isAllBlank_eq_false_iff.mpr hblank
  simp [configPath, hname, hshown, Path.ofString]

theorem configPath_of_not_namesFile (h : ∀ text, ¬e.NamesFile text) :
    e.configPath = (Path.mk e.home).join ".tracee/config.toml" := by
  have hstandard := directory_join e "config.toml"
  unfold configPath
  split
  · next name hname =>
    split
    · exact hstandard
    · next hblank =>
      have hnamed : e.NamesFile name.toList :=
        ⟨text?_eq_some_iff.mp hname, isAllBlank_eq_false_iff.mp (Bool.eq_false_iff.mpr hblank)⟩
      exact absurd hnamed (h name.toList)
  · exact hstandard

/-- Exactly one path is selected. -/
theorem selects_iff : e.Selects path ↔ e.configPath = path := by
  constructor
  · rintro (hnamed | hnone)
    · exact configPath_of_namesFile hnamed
    · exact configPath_of_not_namesFile hnone
  · rintro rfl
    by_cases hnamed : ∃ text, e.NamesFile text
    · obtain ⟨text, htext⟩ := hnamed
      rw [configPath_of_namesFile htext]
      exact .named htext
    · have hnone : ∀ text, ¬e.NamesFile text := fun text htext => hnamed ⟨text, htext⟩
      rw [configPath_of_not_namesFile hnone]
      exact .standard hnone

end Environment

/-! ### What is found there -/

namespace Config

variable {found : Option FileEntry} {bytes : Text.Bytes} {text : List Char}

/-- A file holds a text exactly if its bytes are read as that text. -/
theorem file_eq_iff :
    some (FileEntry.file bytes) = some (.file (encode text)) ↔ decode? bytes = some text := by
  simp [Text.decode?_eq_some_iff]

theorem not_text_iff : (∀ text, bytes ≠ encode text) ↔ decode? bytes = none := by
  simp [Option.eq_none_iff_forall_ne_some, Text.decode?_eq_some_iff]

theorem load_missing_iff : load found = .missing ↔ found = none := by
  rcases found with _ | _ | bytes
  · simp [load]
  · simp [load]
  · simp only [load, ofBytes]
    split
    · simp
    · split <;> simp

theorem load_unreadable_iff {fault : Fault} : load found = .failed (.unreadable fault) ↔
    (found = some .directory ∧ fault = .system .isDirectory) ∨
      ∃ bytes, found = some (.file bytes) ∧ (∀ text, bytes ≠ encode text) ∧ fault = .notUtf8 := by
  rcases found with _ | _ | bytes
  · simp [load]
  · simp [load, eq_comm]
  · simp only [load, ofBytes, not_text_iff]
    cases hdecode : decode? bytes with
    | none => simp [hdecode, eq_comm]
    | some text => cases hparse : parse text <;> simp [hdecode, hparse]

theorem load_rejected_iff {failure : ParseFailure} : load found = .failed (.rejected text failure) ↔
    found = some (.file (encode text)) ∧ parse text = .error failure := by
  rcases found with _ | _ | bytes
  · simp [load]
  · simp [load]
  · simp only [load, ofBytes, file_eq_iff]
    cases hdecode : decode? bytes with
    | none => simp
    | some text' =>
      by_cases htext : text' = text
      · subst htext
        cases hparse : parse text' <;> simp [hparse]
      · dsimp only
        cases parse text' <;> simp [htext]

theorem load_found_iff {c : Config} : load found = .found c ↔
    ∃ text, found = some (.file (encode text)) ∧ parse text = .ok c := by
  rcases found with _ | _ | bytes
  · simp [load]
  · simp [load]
  · simp only [load, ofBytes, file_eq_iff]
    cases hdecode : decode? bytes with
    | none => simp
    | some text' => cases hparse : parse text' <;> simp [hparse]

/-- What loading comes to at a path, by what is found there: the result, and what the log is
told. -/
structure Sorted (path : Path) (found : Option FileEntry)
    (result : Except LoadError (Option Config)) (told : List Event) : Prop where
  /-- There is no configuration exactly if there is nothing at the path. -/
  missing : result = .ok none ↔ found = none
  /-- Reading fails exactly on a directory and on bytes that are no text. -/
  unreadable : ∀ fault, result = .error ⟨path, .unreadable fault⟩ ↔
    (found = some .directory ∧ fault = .system .isDirectory) ∨
      ∃ bytes, found = some (.file bytes) ∧ (∀ text, bytes ≠ encode text) ∧ fault = .notUtf8
  /-- Otherwise there is a text. It is rejected exactly if it is no configuration. -/
  rejected : ∀ text failure, result = .error ⟨path, .rejected text failure⟩ ↔
    found = some (.file (encode text)) ∧ parse text = .error failure
  accepted : ∀ c, result = .ok (some c) ↔
    ∃ text, found = some (.file (encode text)) ∧ parse text = .ok c
  /-- Every failure comes with the path. -/
  path_eq : ∀ e, result = .error e → e.path = path
  /-- A file that is missing is worth a remark, once. -/
  told_missing : result = .ok none →
    told = [⟨.debug, "No config file, using defaults", [("path", path.display)], none⟩]
  /-- A failure is warned of, once. -/
  told_failure : ∀ e, result = .error e →
    told =
      [⟨.warn, "Failed to " ++ e.failure.attempt path.quoted ++ ": " ++ e.failure.cause, [], none⟩]
  told_accepted : ∀ c, result = .ok (some c) → told = []

variable {t : FileTree} {path : Path}

/-- The result is what was loaded, with the path at a failure. -/
theorem loadFrom_fst : (loadFrom t path).1 =
    match load (t.find? path) with
    | .missing => .ok none
    | .failed failure => .error ⟨path, failure⟩
    | .found c => .ok (some c) := by
  unfold loadFrom
  cases load (t.find? path) <;> rfl

theorem loadFrom_missing_iff :
    (loadFrom t path).1 = .ok none ↔ load (t.find? path) = .missing := by
  cases h : load (t.find? path) <;> simp [loadFrom_fst, h]

theorem loadFrom_found_iff {c : Config} :
    (loadFrom t path).1 = .ok (some c) ↔ load (t.find? path) = .found c := by
  cases h : load (t.find? path) <;> simp [loadFrom_fst, h]

theorem loadFrom_error_iff {e : LoadError} :
    (loadFrom t path).1 = .error e ↔ load (t.find? path) = .failed e.failure ∧ e.path = path := by
  obtain ⟨path', failure⟩ := e
  cases h : load (t.find? path) <;> simp [loadFrom_fst, h, and_comm, eq_comm]

/-- What is found at a path decides what loading comes to. -/
theorem sorted_loadFrom (t : FileTree) (path : Path) :
    Sorted path (t.find? path) (loadFrom t path).1 (loadFrom t path).2 where
  missing := loadFrom_missing_iff.trans load_missing_iff
  unreadable fault := by
    rw [loadFrom_error_iff, ← load_unreadable_iff]
    simp
  rejected text failure := by
    rw [loadFrom_error_iff, ← load_rejected_iff]
    simp
  accepted c := loadFrom_found_iff.trans load_found_iff
  path_eq e he := (loadFrom_error_iff.mp he).2
  told_missing h := by
    show (load (t.find? path)).events path = _
    rw [loadFrom_missing_iff.mp h]
    rfl
  told_failure e he := by
    show (load (t.find? path)).events path = _
    rw [(loadFrom_error_iff.mp he).1]
    rfl
  told_accepted c hc := by
    show (load (t.find? path)).events path = _
    rw [loadFrom_found_iff.mp hc]
    rfl

end Config

/-- **Loading sorts what it finds**: one path is selected, and loading comes to what is found there.
Where the environment names the file the home directory does not matter, nothing in any other place
ever does, and the place of the log depends on the home directory alone. -/
theorem loading_is_sorted (e : Environment) (t : FileTree) :
    (∀ path, e.Selects path ↔ e.configPath = path) ∧
      Config.Sorted e.configPath (t.find? e.configPath) (e.loadConfig t).1 (e.loadConfig t).2 ∧
      (∀ text, e.NamesFile text → ∀ e' : Environment, e'.config = e.config →
        e'.loadConfig t = e.loadConfig t) ∧
      (∀ t' : FileTree, t'.find? e.configPath = t.find? e.configPath →
        e.loadConfig t' = e.loadConfig t) ∧
      e.logPath = (Path.mk e.home).join ".tracee/logs/tracee.log" ∧
      ∀ e' : Environment, e'.home = e.home → e'.logPath = e.logPath := by
  refine ⟨fun path => Environment.selects_iff, Config.sorted_loadFrom t e.configPath, ?_, ?_,
    e.logPath_eq, ?_⟩
  · intro text htext e' hconfig
    have htext' : e'.NamesFile text := ⟨hconfig.trans htext.1, htext.2⟩
    rw [Environment.loadConfig, Environment.loadConfig, Environment.configPath_of_namesFile htext,
      Environment.configPath_of_namesFile htext']
  · intro t' hfind
    simp only [Environment.loadConfig, Config.loadFrom, hfind]
  · intro e' hhome
    rw [e'.logPath_eq, e.logPath_eq, hhome]

end TraceTarget
