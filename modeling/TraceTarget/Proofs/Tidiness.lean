import TraceTarget.Proofs.Tables
import TraceTarget.Toml.Document

/-!
# Documents are tidy

A table under construction gets a name at most once: whatever changes it changes the entry of a name
where that stands, or adds one for a name that is new. So in a document that was read no table has a
name twice, at any depth, and what is known of tidy documents holds of all that can be read.

- `Draft.IsTidy`: the drafts that are tidy when they are finished.
- `Draft.Keeps`: changes of a table that keep it tidy; `keeps_alter` and `keeps_update` for the
  changes that all others are made of.
- `Progress.apply_tidy`: one statement keeps the root table tidy.
- `parse?_tidy`: the root table of a document is tidy.
-/

namespace TraceTarget.Toml

/-! ### Tidy drafts -/

namespace Draft

theorem finishEntries_eq_map (es : Entries) :
    finishEntries es = es.map fun e => (e.1, e.2.finish) := by
  induction es with
  | nil => rfl
  | cons e es ih => exact congrArg ((e.1, e.2.finish) :: ·) ih

theorem finishElements_eq_map (elements : List (Span × Entries)) :
    finishElements elements = elements.map fun e => ⟨e.1, .table (finishEntries e.2)⟩ := by
  induction elements with
  | nil => rfl
  | cons e es ih => exact congrArg (⟨e.1, .table (finishEntries e.2)⟩ :: ·) ih

/-- A draft whose finished value is tidy. -/
def IsTidy (d : Draft) : Prop :=
  d.finish.value.Tidy

/-- A table under construction that is tidy when it is finished. -/
def TidyEntries (es : Entries) : Prop :=
  (Value.table (finishEntries es)).Tidy

variable {es es' : Entries} {name : String}

theorem tidyEntries_iff :
    TidyEntries es ↔ (es.map (·.1.name)).Nodup ∧ ∀ e ∈ es, e.2.IsTidy := by
  have hnames : names (finishEntries es) = es.map (·.1.name) := by
    rw [names, finishEntries_eq_map, List.map_map]
    rfl
  constructor
  · intro h
    refine ⟨hnames ▸ h.names_nodup, fun e he => ?_⟩
    refine h.entry (e := (e.1, e.2.finish)) ?_
    rw [finishEntries_eq_map]
    exact List.mem_map_of_mem he
  · rintro ⟨hnodup, hentries⟩
    refine .table (hnames ▸ hnodup) fun e he => ?_
    rw [finishEntries_eq_map] at he
    obtain ⟨d, hd, rfl⟩ := List.mem_map.mp he
    exact hentries d hd

theorem tidyEntries_nil : TidyEntries [] :=
  .table List.nodup_nil nofun

theorem tidyEntries_cons {e : Key × Draft} :
    TidyEntries (e :: es) ↔ (e.1.name ∉ es.map (·.1.name) ∧ e.2.IsTidy) ∧ TidyEntries es := by
  rw [tidyEntries_iff, tidyEntries_iff, List.map_cons, List.nodup_cons, List.forall_mem_cons]
  exact and_and_and_comm

/-- An array of tables is tidy when its elements are. -/
theorem isTidy_tables_iff {span lastSpan : Span} {earlier : List (Span × Entries)}
    {last : Entries} : (Draft.tables span earlier lastSpan last).IsTidy ↔
      (∀ e ∈ earlier, TidyEntries e.2) ∧ TidyEntries last := by
  have hitems (v : Located Value) :
      v ∈ finishElements earlier ++ [⟨lastSpan, .table (finishEntries last)⟩] ↔
        (∃ e ∈ earlier, v = ⟨e.1, .table (finishEntries e.2)⟩) ∨
          v = ⟨lastSpan, .table (finishEntries last)⟩ := by
    rw [List.mem_append, finishElements_eq_map, List.mem_map, List.mem_singleton]
    simp only [eq_comm]
  constructor
  · rintro ⟨⟩
    rename_i h
    exact ⟨fun e he => h _ ((hitems _).mpr (.inl ⟨e, he, rfl⟩)), h _ ((hitems _).mpr (.inr rfl))⟩
  · rintro ⟨hearlier, hlast⟩
    refine .array fun v hv => ?_
    rcases (hitems v).mp hv with ⟨e, he, rfl⟩ | rfl
    · exact hearlier e he
    · exact hlast

/-! ### Changes that keep a table tidy -/

/-- A change that keeps tables tidy. -/
def Keeps (f : Entries → Option Entries) : Prop :=
  ∀ es es', TidyEntries es → f es = some es' → TidyEntries es'

/-- A change of the entry of a name: the entry that comes of it has this name and is tidy, if the one
before was, if there was one. -/
def KeepsEntry (name : String) (f : Option (Key × Draft) → Option (Key × Draft)) : Prop :=
  ∀ o e', (∀ e ∈ o, e.1.name = name ∧ e.2.IsTidy) → f o = some e' →
    e'.1.name = name ∧ e'.2.IsTidy

/-- The names that a table has after the entry of a name was changed. -/
theorem mem_names_alter {f : Option (Key × Draft) → Option (Key × Draft)}
    (hf : KeepsEntry name f) (h : ∀ e ∈ es, e.2.IsTidy) (halter : alter name f es = some es') :
    ∀ n ∈ es'.map (·.1.name), n = name ∨ n ∈ es.map (·.1.name) := by
  induction es generalizing es' with
  | nil =>
    obtain ⟨e', he', rfl⟩ := Option.map_eq_some_iff.mp halter
    have hname : e'.1.name = name := (hf none e' nofun he').1
    simp [hname]
  | cons e es ih =>
    obtain ⟨he, hes⟩ := List.forall_mem_cons.mp h
    rw [alter] at halter
    split at halter
    · next hname =>
      obtain ⟨e', he', rfl⟩ := Option.map_eq_some_iff.mp halter
      have hname' : e'.1.name = name := (hf (some e) e' (by simp [hname, he]) he').1
      simp only [List.map_cons, List.mem_cons, hname', hname]
      exact fun n hn => hn.imp_right .inr
    · obtain ⟨es₁, hes₁, rfl⟩ := Option.map_eq_some_iff.mp halter
      have hrest := ih hes hes₁
      simp only [List.map_cons, List.mem_cons]
      rintro n (rfl | hn)
      · exact .inr (.inl rfl)
      · exact (hrest n hn).imp_right .inr

theorem keeps_alter {f : Option (Key × Draft) → Option (Key × Draft)} (hf : KeepsEntry name f) :
    Keeps (alter name f) := by
  intro es es' h halter
  induction es generalizing es' with
  | nil =>
    obtain ⟨e', he', rfl⟩ := Option.map_eq_some_iff.mp halter
    have htidy : e'.2.IsTidy := (hf none e' nofun he').2
    exact tidyEntries_cons.mpr ⟨⟨List.not_mem_nil, htidy⟩, h⟩
  | cons e es ih =>
    obtain ⟨⟨hnew, he⟩, hes⟩ := tidyEntries_cons.mp h
    rw [alter] at halter
    split at halter
    · next hname =>
      obtain ⟨e', he', rfl⟩ := Option.map_eq_some_iff.mp halter
      obtain ⟨hname', htidy⟩ := hf (some e) e' (by simp [hname, he]) he'
      rw [hname, ← hname'] at hnew
      exact tidyEntries_cons.mpr ⟨⟨hnew, htidy⟩, hes⟩
    · next hname =>
      obtain ⟨es₁, hes₁, rfl⟩ := Option.map_eq_some_iff.mp halter
      refine tidyEntries_cons.mpr ⟨⟨fun hmem => ?_, he⟩, ih es₁ hes hes₁⟩
      rcases mem_names_alter hf (tidyEntries_iff.mp hes).2 hes₁ _ hmem with heq | hold
      · exact hname heq
      · exact hnew hold

/-- A change of the table at a path keeps the table tidy if it keeps that one tidy. -/
theorem keeps_update {access : Access} {f : Entries → Option Entries} (hf : Keeps f)
    (path : List Key) : Keeps (update access f path) := by
  induction path with
  | nil => exact hf
  | cons k ks ih =>
    refine keeps_alter fun o e' ho he' => ?_
    rcases o with _ | ⟨k', d⟩
    · obtain ⟨inner, hinner, he'⟩ := Option.bind_eq_some_iff.mp he'
      cases he'
      exact ⟨rfl, ih [] inner tidyEntries_nil hinner⟩
    · obtain ⟨hname, hd⟩ := ho _ rfl
      cases d with
      | closed value => cases he'
      | table origin span inner =>
        obtain ⟨origin', -, he'⟩ := Option.bind_eq_some_iff.mp he'
        obtain ⟨inner', hinner, he'⟩ := Option.bind_eq_some_iff.mp he'
        cases he'
        exact ⟨hname, ih inner inner' hd hinner⟩
      | tables span earlier lastSpan last =>
        dsimp only at he'
        split at he'
        · obtain ⟨last', hlast, he'⟩ := Option.bind_eq_some_iff.mp he'
          cases he'
          obtain ⟨hearlier, hlast₀⟩ := isTidy_tables_iff.mp hd
          exact ⟨hname, isTidy_tables_iff.mpr ⟨hearlier, ih last last' hlast₀ hlast⟩⟩
        · cases he'

theorem keeps_insert (path : KeyPath) {value : Located Value} (h : value.value.Tidy) :
    Keeps (insert path value) := by
  refine keeps_update (keeps_alter fun o e' _ he' => ?_) path.parents
  cases o with
  | none =>
    cases he'
    exact ⟨rfl, h⟩
  | some e => cases he'

theorem keeps_open (header : Span) (path : KeyPath) : Keeps («open» header path) := by
  refine keeps_update (keeps_alter fun o e' ho he' => ?_) path.parents
  rcases o with _ | ⟨k, d⟩
  · cases he'
    exact ⟨rfl, tidyEntries_nil⟩
  · obtain ⟨-, hd⟩ := ho _ rfl
    split at he'
    · next heq => cases heq
    · next heq =>
      cases heq
      cases he'
      exact ⟨rfl, hd⟩
    · cases he'

theorem keeps_openElement (header : Span) (path : KeyPath) : Keeps (openElement header path) := by
  refine keeps_update (keeps_alter fun o e' ho he' => ?_) path.parents
  rcases o with _ | ⟨k, d⟩
  · cases he'
    exact ⟨rfl, isTidy_tables_iff.mpr ⟨nofun, tidyEntries_nil⟩⟩
  · obtain ⟨hname, hd⟩ := ho _ rfl
    split at he'
    · next heq => cases heq
    · next heq =>
      cases heq
      cases he'
      obtain ⟨hearlier, hlast⟩ := isTidy_tables_iff.mp hd
      refine ⟨hname, isTidy_tables_iff.mpr ⟨?_, tidyEntries_nil⟩⟩
      exact List.forall_mem_append.mpr ⟨hearlier, List.forall_mem_singleton.mpr hlast⟩
    · cases he'

end Draft

/-! ### Values -/

section

variable {item : List Char → Option (Located Value × List Char)}

/-- What an item reader reads is tidy. -/
def ReadsTidy (item : List Char → Option (Located Value × List Char)) : Prop :=
  ∀ cs v rest, item cs = some (v, rest) → v.value.Tidy

theorem items_tidy (hitem : ReadsTidy item) (n : Nat) {cs rest : List Char}
    {vs : List (Located Value)} (h : items item n cs = some (vs, rest)) :
    ∀ v ∈ vs, v.value.Tidy := by
  induction n generalizing cs vs with
  | zero => cases h
  | succ n ih =>
    rw [items] at h
    obtain ⟨cs₁, -, h⟩ := Option.bind_eq_some_iff.mp h
    split at h
    · cases h
      exact nofun
    · obtain ⟨⟨v, cs₂⟩, hv, h⟩ := Option.bind_eq_some_iff.mp h
      have hv : v.value.Tidy := hitem _ _ _ hv
      obtain ⟨cs₃, -, h⟩ := Option.bind_eq_some_iff.mp h
      dsimp only at h
      split at h
      · obtain ⟨⟨more, rest'⟩, hmore, h⟩ := Option.bind_eq_some_iff.mp h
        cases h
        exact List.forall_mem_cons.mpr ⟨hv, ih hmore⟩
      · cases h
        exact List.forall_mem_singleton.mpr hv
      · cases h

theorem pair_tidy (hitem : ReadsTidy item) {cs rest : List Char} {path : KeyPath}
    {v : Located Value} (h : pair item cs = some (path, v, rest)) : v.value.Tidy := by
  rw [pair] at h
  obtain ⟨⟨path', cs₁⟩, -, h⟩ := Option.bind_eq_some_iff.mp h
  obtain ⟨cs₂, -, h⟩ := Option.bind_eq_some_iff.mp h
  dsimp only at h
  split at h
  · obtain ⟨cs₃, -, h⟩ := Option.bind_eq_some_iff.mp h
    obtain ⟨⟨v', cs₄⟩, hv, h⟩ := Option.bind_eq_some_iff.mp h
    cases h
    exact hitem _ _ _ hv
  · cases h

theorem pairs_tidy (hitem : ReadsTidy item) (n : Nat) {cs rest : List Char} {es es' : Draft.Entries}
    (htidy : Draft.TidyEntries es) (h : pairs item n es cs = some (es', rest)) :
    Draft.TidyEntries es' := by
  induction n generalizing cs es with
  | zero => cases h
  | succ n ih =>
    rw [pairs] at h
    obtain ⟨cs₁, -, h⟩ := Option.bind_eq_some_iff.mp h
    split at h
    · cases h
      exact htidy
    · obtain ⟨⟨path, v, cs₂⟩, hv, h⟩ := Option.bind_eq_some_iff.mp h
      have hv : v.value.Tidy := pair_tidy hitem hv
      obtain ⟨es₁, hes₁, h⟩ := Option.bind_eq_some_iff.mp h
      have hes₁ : Draft.TidyEntries es₁ := Draft.keeps_insert path hv es es₁ htidy hes₁
      obtain ⟨cs₃, -, h⟩ := Option.bind_eq_some_iff.mp h
      split at h
      · exact ih hes₁ h
      · cases h
        exact hes₁
      · cases h

end

/-- A number after the mark of its base has nothing inside. -/
theorem marked_tidy {base : Nat} {isDigit : Char → Bool} {cs : List Char} {v : Value}
    (h : marked base isDigit cs = some v) : v.Tidy := by
  rw [marked] at h
  split at h
  · cases h
    exact .numberless
  · obtain ⟨ds, -, rfl⟩ := Option.map_eq_some_iff.mp h
    exact .integer _

theorem integer?_tidy {cs : List Char} {v : Value} (h : integer? cs = some v) : v.Tidy := by
  unfold integer? at h
  split at h
  · exact marked_tidy h
  · exact marked_tidy h
  · exact marked_tidy h
  · dsimp only at h
    split at h
    · cases h
      exact .integer _
    · split at h
      · cases h
        exact .numberless
      · cases h

theorem wordValue?_tidy {cs : List Char} {v : Value} (h : wordValue? cs = some v) : v.Tidy := by
  unfold wordValue? at h
  split at h
  · cases h
    exact .boolean true
  split at h
  · cases h
    exact .boolean false
  simp only [Option.orElse_eq_orElse, Option.orElse_eq_or, Option.or_eq_some_iff] at h
  rcases h with h | ⟨-, h | ⟨-, h⟩⟩
  · exact integer?_tidy h
  · obtain ⟨n, -, rfl⟩ := Option.map_eq_some_iff.mp h
    exact .float n
  · split at h
    · cases h
      exact .datetime
    · cases h

theorem atom_tidy {cs rest : List Char} {v : Value} (h : atom cs = some (v, rest)) : v.Tidy := by
  rw [atom] at h
  split at h
  · obtain ⟨⟨text, rest'⟩, -, heq⟩ := Option.map_eq_some_iff.mp h
    cases heq
    exact .string _
  · obtain ⟨w, hw, heq⟩ := Option.map_eq_some_iff.mp h
    cases heq
    exact wordValue?_tidy hw

/-- A value is tidy however deep arrays and inline tables are nested in it. -/
theorem valueUpTo_tidy (depth : Nat) : ReadsTidy (valueUpTo depth) := by
  induction depth with
  | zero =>
    intro cs v rest h
    obtain ⟨⟨value, rest'⟩, hvalue, heq⟩ := Option.bind_eq_some_iff.mp h
    cases heq
    exact atom_tidy hvalue
  | succ d ih =>
    intro cs v rest h
    unfold valueUpTo at h
    dsimp only at h
    split at h
    · next d' rest₀ hd =>
      obtain rfl : d = d' := Nat.succ.inj hd
      obtain ⟨⟨value, rest'⟩, hvalue, heq⟩ := Option.bind_eq_some_iff.mp h
      cases heq
      obtain ⟨⟨vs, rest''⟩, hitems, heq⟩ := Option.map_eq_some_iff.mp hvalue
      cases heq
      exact .array (items_tidy ih _ hitems)
    · next d' rest₀ hd =>
      obtain rfl : d = d' := Nat.succ.inj hd
      obtain ⟨⟨value, rest'⟩, hvalue, heq⟩ := Option.bind_eq_some_iff.mp h
      cases heq
      obtain ⟨⟨es, rest''⟩, hpairs, heq⟩ := Option.map_eq_some_iff.mp hvalue
      cases heq
      exact pairs_tidy ih _ Draft.tidyEntries_nil hpairs
    · obtain ⟨⟨value, rest'⟩, hvalue, heq⟩ := Option.bind_eq_some_iff.mp h
      cases heq
      exact atom_tidy hvalue

/-! ### Documents -/

/-- A statement with a tidy value, if it has one. -/
def Statement.IsTidy : Statement → Prop
  | .table _ _ | .element _ _ => True
  | .pair _ v => v.value.Tidy

theorem statement_tidy {cs rest : List Char} {s : Statement}
    (h : statement cs = some (s, rest)) : s.IsTidy := by
  unfold statement at h
  split at h
  · obtain ⟨⟨path, rest₁⟩, -, h⟩ := Option.bind_eq_some_iff.mp h
    dsimp only at h
    split at h
    · cases h
      trivial
    · cases h
  · obtain ⟨⟨path, rest₁⟩, -, h⟩ := Option.bind_eq_some_iff.mp h
    dsimp only at h
    split at h
    · cases h
      trivial
    · cases h
  · obtain ⟨⟨path, rest₁⟩, -, h⟩ := Option.bind_eq_some_iff.mp h
    dsimp only at h
    split at h
    · obtain ⟨⟨v, rest₂⟩, hv, h⟩ := Option.bind_eq_some_iff.mp h
      cases h
      exact valueUpTo_tidy maxDepth _ _ _ hv
    · cases h

theorem statementsUpTo_tidy (n : Nat) {cs : List Char} {ss : List Statement}
    (h : statementsUpTo n cs = some ss) : ∀ s ∈ ss, s.IsTidy := by
  induction n generalizing cs ss with
  | zero => cases h
  | succ n ih =>
    rw [statementsUpTo] at h
    split at h
    · cases h
      exact nofun
    · split at h
      · obtain ⟨rest, -, h⟩ := Option.bind_eq_some_iff.mp h
        exact ih h
      · obtain ⟨⟨s, rest⟩, hs, h⟩ := Option.bind_eq_some_iff.mp h
        obtain ⟨rest', -, h⟩ := Option.bind_eq_some_iff.mp h
        obtain ⟨more, hmore, h⟩ := Option.bind_eq_some_iff.mp h
        cases h
        exact List.forall_mem_cons.mpr ⟨statement_tidy hs, ih hmore⟩

/-- One statement keeps the root table tidy. -/
theorem Progress.apply_tidy {p p' : Progress} {s : Statement} (hs : s.IsTidy)
    (hp : Draft.TidyEntries p.root) (h : p.apply s = some p') : Draft.TidyEntries p'.root := by
  cases s with
  | table header path =>
    obtain ⟨root, hroot, heq⟩ := Option.bind_eq_some_iff.mp h
    cases heq
    exact Draft.keeps_open header path _ _ hp hroot
  | element header path =>
    obtain ⟨root, hroot, heq⟩ := Option.bind_eq_some_iff.mp h
    cases heq
    exact Draft.keeps_openElement header path _ _ hp hroot
  | pair path value =>
    obtain ⟨root, hroot, heq⟩ := Option.bind_eq_some_iff.mp h
    cases heq
    exact Draft.keeps_update (Draft.keeps_insert path hs) p.current _ _ hp hroot

/-- So do all statements of a document, one after the other. -/
theorem Progress.foldlM_apply_tidy {ss : List Statement} (hss : ∀ s ∈ ss, s.IsTidy)
    {p p' : Progress} (hp : Draft.TidyEntries p.root) (h : ss.foldlM Progress.apply p = some p') :
    Draft.TidyEntries p'.root := by
  induction ss generalizing p with
  | nil =>
    cases h
    exact hp
  | cons s ss ih =>
    obtain ⟨hs, hss⟩ := List.forall_mem_cons.mp hss
    rw [List.foldlM_cons] at h
    obtain ⟨p₁, hp₁, h⟩ := Option.bind_eq_some_iff.mp h
    exact ih hss (Progress.apply_tidy hs hp hp₁) h

/-- The root table of a document is tidy. -/
theorem parse?_tidy {cs : List Char} {root : Entries} (h : parse? cs = some root) :
    (Value.table root).Tidy := by
  obtain ⟨ss, hss, h⟩ := Option.bind_eq_some_iff.mp h
  obtain ⟨p, hp, rfl⟩ := Option.map_eq_some_iff.mp h
  exact Progress.foldlM_apply_tidy (statementsUpTo_tidy _ hss) Draft.tidyEntries_nil hp

end TraceTarget.Toml
