import Mathlib.Data.List.Forall2
import TraceTarget.Config.Decode

/-!
# Tables as maps from names

A table of a document is a list of entries, and no two of them have the same name. So what it has
under a name does not depend on the order of its entries.

- `names`, `under`: the names of a table, and what it has under one of them.
- `Value.Tidy`: a value in which no table has a name twice, at any depth.
- `under_perm`: the order of the entries does not matter.
- `under_concat`: a table with one more entry.
-/

namespace TraceTarget.Toml

/-- The names of the entries of a table. -/
def names (es : Entries) : List String :=
  es.map (·.1.name)

/-- What a table has under a name. -/
def under (name : String) (es : Entries) : Option Value :=
  (es.find? (·.1.name = name)).map (·.2.value)

/-- A value in which no table has a name twice. -/
inductive Value.Tidy : Value → Prop
  | string (text : String) : Tidy (.string text)
  | integer (n : Int) : Tidy (.integer n)
  | numberless : Tidy .numberless
  | float (n : Number) : Tidy (.float n)
  | boolean (b : Bool) : Tidy (.boolean b)
  | datetime : Tidy .datetime
  | array {items : List (Located Value)} : (∀ v ∈ items, Tidy v.value) → Tidy (.array items)
  | table {es : Entries} : (names es).Nodup → (∀ e ∈ es, Tidy e.2.value) → Tidy (.table es)

theorem Value.Tidy.names_nodup {es : Entries} (h : (Value.table es).Tidy) : (names es).Nodup := by
  cases h with
  | table hnames _ => exact hnames

theorem Value.Tidy.entry {es : Entries} (h : (Value.table es).Tidy) {e : Key × Located Value}
    (he : e ∈ es) : e.2.value.Tidy := by
  cases h with
  | table _ hentries => exact hentries e he

variable {es es' : Entries} {e : Key × Located Value} {name : String}

theorem mem_names : name ∈ names es ↔ ∃ e ∈ es, e.1.name = name :=
  List.mem_map

theorem names_perm (h : es.Perm es') : (names es).Perm (names es') :=
  h.map _

/-- A tidy table stays tidy when its entries change places. -/
theorem Value.Tidy.perm (h : (Value.table es).Tidy) (hperm : es.Perm es') :
    (Value.table es').Tidy :=
  .table ((names_perm hperm).nodup h.names_nodup) fun _ he => h.entry (hperm.mem_iff.mpr he)

/-! ### Looking a name up -/

@[simp] theorem under_nil (name : String) : under name [] = none := rfl

theorem under_eq_none_iff : under name es = none ↔ name ∉ names es := by
  rw [under, Option.map_eq_none_iff, List.find?_eq_none, mem_names]
  simp only [decide_eq_true_eq, not_exists, not_and]

/-- A name that no entry has, but the last one. -/
theorem under_concat_self (hnew : e.1.name ∉ names es) :
    under e.1.name (es ++ [e]) = some e.2.value := by
  have hnone := under_eq_none_iff.mpr hnew
  rw [under, Option.map_eq_none_iff] at hnone
  rw [under, List.find?_append, hnone, Option.none_or, List.find?_singleton, if_pos (by simp)]
  rfl

/-- An entry does not matter to other names. -/
theorem under_concat_other (h : e.1.name ≠ name) : under name (es ++ [e]) = under name es := by
  rw [under, List.find?_append, List.find?_singleton, if_neg (by simpa using h), Option.or_none]
  rfl

/-- Where no name comes twice, the entry of a name is the one that has it. -/
theorem under_eq_some_iff (h : (names es).Nodup) {v : Value} :
    under name es = some v ↔ ∃ e ∈ es, e.1.name = name ∧ e.2.value = v := by
  induction es with
  | nil => simp
  | cons e es ih =>
    obtain ⟨hnew, hrest⟩ := List.nodup_cons.mp h
    by_cases hname : e.1.name = name
    · have hunder : under name (e :: es) = some e.2.value := by
        rw [under, List.find?_cons_of_pos (by simpa using hname)]
        rfl
      rw [hunder]
      constructor
      · exact fun hv => ⟨e, List.mem_cons_self, hname, Option.some.inj hv⟩
      · rintro ⟨e', he', hname', rfl⟩
        rcases List.mem_cons.mp he' with rfl | htail
        · rfl
        · exact absurd (mem_names.mpr ⟨e', htail, hname'.trans hname.symm⟩) hnew
    · have hunder : under name (e :: es) = under name es := by
        rw [under, List.find?_cons_of_neg (by simpa using hname)]
        rfl
      rw [hunder, ih hrest]
      simp only [List.mem_cons, exists_eq_or_imp, hname, false_and, false_or]

/-- The order of the entries does not matter. -/
theorem under_perm (hperm : es.Perm es') (h : (names es).Nodup) (name : String) :
    under name es = under name es' := by
  refine Option.ext fun v => ?_
  rw [under_eq_some_iff h, under_eq_some_iff ((names_perm hperm).nodup h)]
  simp only [hperm.mem_iff]

/-! ### Lists that are related item by item -/

section Related

variable {α β : Type} {R : α → β → Prop} {as : List α} {bs : List β}

theorem exists_of_mem_left (h : List.Forall₂ R as bs) {a : α} (ha : a ∈ as) : ∃ b ∈ bs, R a b := by
  induction h with
  | nil => cases ha
  | @cons a' b as bs hab _ ih =>
    rcases List.mem_cons.mp ha with rfl | ha
    · exact ⟨b, List.mem_cons_self, hab⟩
    · obtain ⟨b', hb', hr⟩ := ih ha
      exact ⟨b', List.mem_cons_of_mem b hb', hr⟩

theorem exists_of_mem_right (h : List.Forall₂ R as bs) {b : β} (hb : b ∈ bs) : ∃ a ∈ as, R a b :=
  exists_of_mem_left h.flip hb

end Related

end TraceTarget.Toml
