import Mathlib.Data.List.Perm.Basic
import TraceTarget.Proofs.Complaints

/-!
# The order of the keys in a document does not matter

A table is visited in the order of its names, wherever its entries stand. So a document that has the
entries of its tables in another order, at any depth, comes to the same configuration or to the same
complaint. What comes after the key with the complaint does not matter at all.

- `Toml.Reordered`: the same value with the entries of its tables in another order.
- `Respects`: a relation between values and what they say that is blind to that order; one lemma for
  each relation of the schema.
- `AgreeOn`: two tables that have the same under some names.
- `FirstFailing.agree`: a table has the same first failing key as one that agrees with it up to that
  key.
- `ChangedAfter`: a document that was changed only after the key with the complaint.
- `first_complaint_decides`: the result for documents.
-/

namespace TraceTarget

namespace Toml

/-- The same value with the entries of its tables in another order, at any depth. Where keys and
values stand may change. -/
inductive Reordered : Value → Value → Prop
  | same (v : Value) : Reordered v v
  | array {items items' : List (Located Value)} :
    List.Forall₂ (fun v v' => Reordered v.value v'.value) items items' →
      Reordered (.array items) (.array items')
  | table {es fs es' : Entries} : es.Perm fs → names es' = names fs →
    List.Forall₂ (fun e e' => Reordered e.2.value e'.2.value) fs es' →
      Reordered (.table es) (.table es')

/-- Entries that are the same up to order: their names are equal, and their values are the same up
to order. -/
def SameEntry (e e' : Key × Located Value) : Prop :=
  e'.1.name = e.1.name ∧ Reordered e.2.value e'.2.value

/-- Turning round lists that are related item by item. -/
theorem forall₂_turn {α β : Type} {R : α → β → Prop} {S : β → α → Prop} {as : List α}
    {bs : List β} (h : List.Forall₂ R as bs)
    (hturn : ∀ a ∈ as, ∀ b, R a b → S b a) : List.Forall₂ S bs as := by
  induction h with
  | nil => exact .nil
  | @cons a b as bs hab _ ih =>
    exact .cons (hturn a List.mem_cons_self b hab)
      (ih fun a ha => hturn a (List.mem_cons_of_mem _ ha))

/-- Tables that have the same names in the same order, and related values. -/
theorem forall₂_sameEntry_iff {es es' : Entries} : List.Forall₂ SameEntry es es' ↔
    names es' = names es ∧ List.Forall₂ (fun e e' => Reordered e.2.value e'.2.value) es es' := by
  constructor
  · intro h
    refine ⟨?_, h.imp fun _ _ => And.right⟩
    rw [names, names, ← List.forall₂_eq_eq_eq, List.forall₂_map_left_iff,
      List.forall₂_map_right_iff]
    exact h.flip.imp fun _ _ => And.left
  · rintro ⟨hnames, h⟩
    induction h with
    | nil => exact .nil
    | cons hr _ ih =>
      obtain ⟨hname, hnames⟩ := List.cons.inj hnames
      exact .cons ⟨hname, hr⟩ (ih hnames)

namespace Reordered

variable {v v' : Value} {es es' : Entries}

/-- A table stays a table. -/
theorem exists_table (h : Reordered (.table es) v') : ∃ es', v' = .table es' := by
  cases h with
  | same => exact ⟨es, rfl⟩
  | @table _ _ es' => exact ⟨es', rfl⟩

/-- An array stays an array, item by item. -/
theorem exists_array {items : List (Located Value)} (h : Reordered (.array items) v') :
    ∃ items', v' = .array items' ∧
      List.Forall₂ (fun w w' => Reordered w.value w'.value) items items' := by
  cases h with
  | same => exact ⟨items, rfl, List.forall₂_same.mpr fun w _ => .same w.value⟩
  | @array _ items' hrel => exact ⟨items', rfl, hrel⟩

/-- In a table the entries change places and are then the same one by one. -/
theorem exists_perm (h : Reordered (.table es) (.table es')) :
    ∃ fs, es.Perm fs ∧ List.Forall₂ SameEntry fs es' := by
  cases h with
  | same => exact ⟨es, .refl es, List.forall₂_same.mpr fun e _ => ⟨rfl, .same _⟩⟩
  | table hperm hnames hrel => exact ⟨_, hperm, forall₂_sameEntry_iff.mpr ⟨hnames, hrel⟩⟩

theorem of_perm {fs : Entries} (hperm : es.Perm fs) (hrel : List.Forall₂ SameEntry fs es') :
    Reordered (.table es) (.table es') :=
  .table hperm (forall₂_sameEntry_iff.mp hrel).1 (forall₂_sameEntry_iff.mp hrel).2

/-- A table keeps its names. -/
theorem names_perm (h : Reordered (.table es) (.table es')) : (names es).Perm (names es') := by
  obtain ⟨fs, hperm, hrel⟩ := h.exists_perm
  rw [(forall₂_sameEntry_iff.mp hrel).1]
  exact Toml.names_perm hperm

/-- An entry of a table is found again. -/
theorem exists_entry (h : Reordered (.table es) (.table es')) {e : Key × Located Value}
    (he : e ∈ es) : ∃ e' ∈ es', SameEntry e e' := by
  obtain ⟨fs, hperm, hrel⟩ := h.exists_perm
  exact exists_of_mem_left hrel (hperm.mem_iff.mp he)

/-- An entry of the other table was there before. -/
theorem exists_entry_before (h : Reordered (.table es) (.table es')) {e' : Key × Located Value}
    (he' : e' ∈ es') : ∃ e ∈ es, SameEntry e e' := by
  obtain ⟨fs, hperm, hrel⟩ := h.exists_perm
  obtain ⟨e, he, hsame⟩ := exists_of_mem_right hrel he'
  exact ⟨e, hperm.mem_iff.mpr he, hsame⟩

/-- The empty table stays empty. -/
theorem table_nil (h : Reordered (.table []) (.table es')) : es' = [] := by
  obtain ⟨fs, hperm, hrel⟩ := h.exists_perm
  rw [List.nil_perm.mp hperm] at hrel
  cases hrel
  rfl

/-- A table with one entry keeps it. -/
theorem table_singleton {e : Key × Located Value} (h : Reordered (.table [e]) (.table es')) :
    ∃ e', es' = [e'] ∧ SameEntry e e' := by
  obtain ⟨fs, hperm, hrel⟩ := h.exists_perm
  rw [List.perm_singleton.mp hperm.symm] at hrel
  obtain _ | ⟨hsame, hnil⟩ := hrel
  cases hnil
  exact ⟨_, rfl, hsame⟩

/-- A table keeps the number of its entries. -/
theorem length_eq (h : Reordered (.table es) (.table es')) : es'.length = es.length := by
  obtain ⟨fs, hperm, hrel⟩ := h.exists_perm
  rw [hperm.length_eq, hrel.length_eq]

/-- A tidy value stays tidy. -/
theorem tidy (htidy : v.Tidy) (h : Reordered v v') : v'.Tidy := by
  induction htidy generalizing v' with
  | array hitems ih =>
    cases h with
    | same => exact .array hitems
    | array hrel =>
      refine .array fun w hw => ?_
      obtain ⟨u, hu, hr⟩ := exists_of_mem_right hrel hw
      exact ih u hu hr
  | @table es hnames hentries ih =>
    have hall := h
    cases h with
    | same => exact .table hnames hentries
    | table =>
      refine .table (hall.names_perm.nodup_iff.mp hnames) fun e' he' => ?_
      obtain ⟨e, he, -, hr⟩ := hall.exists_entry_before he'
      exact ih e he hr
  | string text => cases h; exact .string text
  | integer n => cases h; exact .integer n
  | numberless => cases h; exact .numberless
  | float n => cases h; exact .float n
  | boolean b => cases h; exact .boolean b
  | datetime => cases h; exact .datetime

/-- The order can be changed back. -/
theorem symm (htidy : v.Tidy) (h : Reordered v v') : Reordered v' v := by
  induction htidy generalizing v' with
  | array _ ih =>
    cases h with
    | same => exact .same _
    | array hrel => exact .array (forall₂_turn hrel fun u hu _ hr => ih u hu hr)
  | table _ _ ih =>
    have hall := h
    cases h with
    | same => exact .same _
    | table =>
      -- the entries may as well become others first and change places then
      obtain ⟨fs, hperm, hrel⟩ := hall.exists_perm
      obtain ⟨gs, hes, hgs⟩ := List.perm_comp_forall₂ hperm hrel
      exact of_perm hgs.symm (forall₂_turn hes fun e he _ hr => ⟨hr.1.symm, ih e he hr.2⟩)
  | string text => cases h; exact .same _
  | integer n => cases h; exact .same _
  | numberless => cases h; exact .same _
  | float n => cases h; exact .same _
  | boolean b => cases h; exact .same _
  | datetime => cases h; exact .same _

end Reordered

end Toml

open Toml (Located Value Key Entries names under Reordered SameEntry)

/-! ### What does not see the order -/

/-- A relation between a value and what it says that does not see the order of entries. -/
def Respects {α : Type} (R : Value → α → Prop) : Prop :=
  ∀ ⦃v v' : Value⦄ ⦃a : α⦄, v.Tidy → Reordered v v' → R v a → R v' a

/-- Two tables that have the same entries under some names. -/
structure AgreeOn (p : String → Prop) (es es' : Entries) : Prop where
  there : ∀ e ∈ es, p e.1.name → ∃ e' ∈ es', SameEntry e e'
  before : ∀ e' ∈ es', p e'.1.name → ∃ e ∈ es, SameEntry e e'

theorem AgreeOn.mono {p q : String → Prop} {es es' : Entries} (h : AgreeOn p es es')
    (hq : ∀ name, q name → p name) : AgreeOn q es es' :=
  ⟨fun e he hname => h.there e he (hq _ hname), fun e' he' hname => h.before e' he' (hq _ hname)⟩

theorem Toml.Reordered.agreeOn {es es' : Entries} (h : Reordered (.table es) (.table es'))
    (p : String → Prop) : AgreeOn p es es' :=
  ⟨fun _ he _ => h.exists_entry he, fun _ he' _ => h.exists_entry_before he'⟩

/-- A complaint about the type of a value does not look into it. -/
theorem mismatch_reordered {v v' : Value} (h : Reordered v v') (expected : Expected) :
    mismatch v' expected = mismatch v expected := by
  cases h <;> rfl

namespace Schema

/-! ### What values say -/

theorem respects_isRevision : Respects IsRevision := by
  intro v v' r _ hr h
  cases h with
  | name r =>
    cases hr
    exact .name r
  | @key k payload r hname hpayload =>
    obtain ⟨es', rfl⟩ := hr.exists_table
    obtain ⟨⟨k', payload'⟩, rfl, hname', hsame⟩ := hr.table_singleton
    refine .key (hname'.trans hname) ?_
    have hsame : Reordered payload.value payload'.value := hsame
    rcases hpayload with hnil | hnil <;> rw [hnil] at hsame
    · obtain ⟨es', hes'⟩ := hsame.exists_table
      rw [hes'] at hsame
      rw [hes', hsame.table_nil]
      exact .inl rfl
    · obtain ⟨items', hitems', hrel⟩ := hsame.exists_array
      cases hrel
      exact .inr hitems'

theorem respects_isDelay : Respects IsDelay := by
  rintro v v' _ - hr ⟨n⟩
  cases hr
  exact .integer _

theorem respects_isMessage : Respects IsMessage := by
  rintro v v' _ - hr ⟨text⟩
  cases hr
  exact .string _

/-- What a table says under a name. -/
theorem rel_under_reordered {α : Type} {R : Value → α → Prop} (hR : Respects R) {es es' : Entries}
    (htidy : (Value.table es).Tidy) (hr : Reordered (.table es) (.table es')) {name : String}
    {o : Option α} (h : Option.Rel R (under name es) o) : Option.Rel R (under name es') o := by
  generalize hunder : under name es = u at h
  cases h with
  | none =>
    have hnew : under name es' = none := by
      rw [Toml.under_eq_none_iff, ← hr.names_perm.mem_iff]
      exact Toml.under_eq_none_iff.mp hunder
    rw [hnew]
    exact .none
  | @some v a hv =>
    obtain ⟨e, he, rfl, rfl⟩ := (Toml.under_eq_some_iff htidy.names_nodup).mp hunder
    obtain ⟨e', he', hname, hsame⟩ := hr.exists_entry he
    have hfound : under e.1.name es' = some e'.2.value :=
      (Toml.under_eq_some_iff (hr.tidy htidy).names_nodup).mpr ⟨e', he', hname, rfl⟩
    rw [hfound]
    exact .some (hR (htidy.entry he) hsame hv)

theorem pair_reordered {α β : Type} {n₁ n₂ : String} {R₁ : Value → α → Prop}
    {R₂ : Value → β → Prop} (h₁ : Respects R₁) (h₂ : Respects R₂) {es es' : Entries}
    (htidy : (Value.table es).Tidy) (hr : Reordered (.table es) (.table es')) {a : Option α}
    {b : Option β} (h : Pair n₁ n₂ R₁ R₂ es a b) : Pair n₁ n₂ R₁ R₂ es' a b where
  known e' he' := by
    obtain ⟨e, he, hname, -⟩ := hr.exists_entry_before he'
    rw [hname]
    exact h.known e he
  first := rel_under_reordered h₁ htidy hr h.first
  second := rel_under_reordered h₂ htidy hr h.second

theorem respects_isRun : Respects IsRun := by
  intro v v' s htidy hr h
  cases h with
  | table hs =>
    obtain ⟨es', rfl⟩ := hr.exists_table
    exact .table (pair_reordered respects_isRevision respects_isDelay htidy hr hs)
  | array hrevision hdelay =>
    obtain ⟨items', rfl, hrel⟩ := hr.exists_array
    obtain _ | ⟨hr₁, _ | ⟨hr₂, -⟩⟩ := hrel
    cases htidy with
    | array hitems =>
      obtain ⟨ht₁, hitems⟩ := List.forall_mem_cons.mp hitems
      have ht₂ := (List.forall_mem_cons.mp hitems).1
      exact .array (respects_isRevision ht₁ hr₁ hrevision) (respects_isDelay ht₂ hr₂ hdelay)

theorem respects_isReporter : Respects IsReporter := by
  intro v v' s htidy hr h
  cases h with
  | table hs =>
    obtain ⟨es', rfl⟩ := hr.exists_table
    refine .table ⟨fun e' he' => ?_, rel_under_reordered respects_isMessage htidy hr hs.message⟩
    obtain ⟨e, he, hname, -⟩ := hr.exists_entry_before he'
    exact hname.trans (hs.known e he)
  | array hmessage =>
    obtain ⟨items', rfl, hrel⟩ := hr.exists_array
    obtain _ | ⟨hr₁, -⟩ := hrel
    cases htidy with
    | array hitems =>
      exact .array (respects_isMessage (List.forall_mem_cons.mp hitems).1 hr₁ hmessage)

/-! ### What is wrong with values -/

theorem respects_failsAsPayload : Respects FailsAsPayload := by
  intro v v' reason _ hr h
  cases h with
  | table =>
    obtain ⟨es', rfl⟩ := hr.exists_table
    obtain ⟨e', es', rfl⟩ := List.exists_cons_of_length_eq_add_one hr.length_eq
    exact .table
  | array =>
    obtain ⟨items', rfl, hrel⟩ := hr.exists_array
    obtain _ | ⟨-, -⟩ := hrel
    exact .array
  | string text => cases hr; exact .string text
  | integer n => cases hr; exact .integer n
  | numberless => cases hr; exact .numberless
  | float n => cases hr; exact .float n
  | boolean b => cases hr; exact .boolean b
  | datetime => cases hr; exact .datetime

theorem respects_failsAsRevision : Respects FailsAsRevision := by
  intro v v' reason htidy hr h
  cases h with
  | name hname =>
    cases hr
    exact .name hname
  | noKey =>
    obtain ⟨es', rfl⟩ := hr.exists_table
    rw [hr.table_nil]
    exact .noKey
  | severalKeys =>
    obtain ⟨es', rfl⟩ := hr.exists_table
    match es', hr.length_eq with
    | _ :: _ :: _, _ => exact .severalKeys
  | key hname =>
    obtain ⟨es', rfl⟩ := hr.exists_table
    obtain ⟨⟨k', payload'⟩, rfl, hname', -⟩ := hr.table_singleton
    rw [← hname'] at hname
    exact .key hname
  | payload hname hpayload =>
    obtain ⟨es', rfl⟩ := hr.exists_table
    obtain ⟨⟨k', payload'⟩, rfl, hname', hsame⟩ := hr.table_singleton
    have hentry := htidy.entry List.mem_cons_self
    exact .payload (hname'.trans hname) (respects_failsAsPayload hentry hsame hpayload)
  | other hstring htable =>
    cases hr with
    | same => exact .other hstring htable
    | array => exact .other nofun nofun
    | table => exact absurd rfl (htable _)

theorem respects_failsAsDelay : Respects FailsAsDelay := by
  intro v v' reason _ hr h
  cases h with
  | negative hlow hneg => cases hr; exact .negative hlow hneg
  | outside hout => cases hr; exact .outside hout
  | other hne =>
    rw [← mismatch_reordered hr .delay]
    cases hr with
    | same => exact .other hne
    | array => exact .other nofun
    | table => exact .other nofun

theorem respects_failsAsMessage : Respects FailsAsMessage := by
  rintro v v' _ - hr ⟨hne⟩
  rw [← mismatch_reordered hr .message]
  cases hr with
  | same => exact .other hne
  | array => exact .other nofun
  | table => exact .other nofun

/-- An entry that fails does so in any order of what is under its key. -/
theorem failsInEntry_sameEntry {keys : List (String × (Value → Reason → Prop))} {scope : Scope}
    (hkeys : ∀ key ∈ keys, Respects key.2) {e e' : Key × Located Value} {reason : Reason}
    (htidy : e.2.value.Tidy) (hsame : SameEntry e e') (h : FailsInEntry keys scope e reason) :
    FailsInEntry keys scope e' reason := by
  obtain ⟨hname, hr⟩ := hsame
  cases h with
  | known hkey hknown hfails => exact .known hkey (hname.trans hknown) (hkeys _ hkey htidy hr hfails)
  | unknown hunknown =>
    rw [← hname] at hunknown ⊢
    exact .unknown hunknown

section Agree

variable {keys : List (String × (Value → Reason → Prop))} {scope : Scope} {es es' : Entries}
  {e : Key × Located Value} {reason : Reason}

/-- A key that fails before a name fails in every table that has the same entries before that
name. -/
theorem not_fails_before (hkeys : ∀ key ∈ keys, Respects key.2) (htidy : (Value.table es).Tidy)
    {name : String} (hagree : AgreeOn (ComesBefore · name) es es')
    (h : ∀ f ∈ es, ComesBefore f.1.name name → ∀ reason, ¬FailsInEntry keys scope f reason) :
    ∀ f' ∈ es', ComesBefore f'.1.name name → ∀ reason, ¬FailsInEntry keys scope f' reason := by
  intro f' hf' hbefore reason hfails
  obtain ⟨f, hf, hname, hr⟩ := hagree.before f' hf' hbefore
  have ht := htidy.entry hf
  rw [hname] at hbefore
  exact h f hf hbefore reason
    (failsInEntry_sameEntry hkeys (hr.tidy ht) ⟨hname.symm, hr.symm ht⟩ hfails)

/-- A table has the same first failing key as one that agrees with it up to that key. -/
theorem FirstFailing.agree (hkeys : ∀ key ∈ keys, Respects key.2) (htidy : (Value.table es).Tidy)
    (h : FirstFailing (FailsInEntry keys scope) es e reason)
    (hagree : AgreeOn (¬ComesBefore e.1.name ·) es es') :
    ∃ e', FirstFailing (FailsInEntry keys scope) es' e' reason := by
  obtain ⟨e', he', hsame⟩ := hagree.there e h.mem (List.lt_irrefl _)
  have hbefore := not_fails_before hkeys htidy (hagree.mono fun _ => List.lt_asymm) h.before
  rw [← hsame.1] at hbefore
  exact ⟨e', he', failsInEntry_sameEntry hkeys (htidy.entry h.mem) hsame h.complaint, hbefore⟩

end Agree

theorem respects_runKeys : ∀ key ∈ runKeys, Respects key.2 :=
  List.forall_mem_cons.mpr
    ⟨respects_failsAsRevision, List.forall_mem_singleton.mpr respects_failsAsDelay⟩

theorem respects_reporterKeys : ∀ key ∈ reporterKeys, Respects key.2 :=
  List.forall_mem_singleton.mpr respects_failsAsMessage

theorem respects_failsAsRun : Respects FailsAsRun := by
  intro v v' reason htidy hr h
  cases h with
  | entry hfirst =>
    obtain ⟨es', rfl⟩ := hr.exists_table
    obtain ⟨e', hfirst'⟩ := hfirst.agree respects_runKeys htidy (hr.agreeOn _)
    exact .entry hfirst'
  | noItems =>
    obtain ⟨items', rfl, hrel⟩ := hr.exists_array
    cases hrel
    exact .noItems
  | revision hrevision =>
    obtain ⟨items', rfl, hrel⟩ := hr.exists_array
    obtain _ | ⟨hr₁, -⟩ := hrel
    cases htidy with
    | array hitems =>
      exact .revision (respects_failsAsRevision (List.forall_mem_cons.mp hitems).1 hr₁ hrevision)
  | oneItem hrevision =>
    obtain ⟨items', rfl, hrel⟩ := hr.exists_array
    obtain _ | ⟨hr₁, _ | -⟩ := hrel
    cases htidy with
    | array hitems =>
      exact .oneItem (respects_isRevision (List.forall_mem_cons.mp hitems).1 hr₁ hrevision)
  | delayMs hrevision hdelay =>
    obtain ⟨items', rfl, hrel⟩ := hr.exists_array
    obtain _ | ⟨hr₁, _ | ⟨hr₂, -⟩⟩ := hrel
    cases htidy with
    | array hitems =>
      obtain ⟨ht₁, hitems⟩ := List.forall_mem_cons.mp hitems
      have ht₂ := (List.forall_mem_cons.mp hitems).1
      exact .delayMs (respects_isRevision ht₁ hr₁ hrevision) (respects_failsAsDelay ht₂ hr₂ hdelay)
  | datetime =>
    cases hr
    exact .datetime
  | other htable harray hdatetime =>
    cases hr with
    | same => exact .other htable harray hdatetime
    | array => exact absurd rfl (harray _)
    | table => exact absurd rfl (htable _)

theorem respects_failsAsReporter : Respects FailsAsReporter := by
  intro v v' reason htidy hr h
  cases h with
  | entry hfirst =>
    obtain ⟨es', rfl⟩ := hr.exists_table
    obtain ⟨e', hfirst'⟩ := hfirst.agree respects_reporterKeys htidy (hr.agreeOn _)
    exact .entry hfirst'
  | noItems =>
    obtain ⟨items', rfl, hrel⟩ := hr.exists_array
    cases hrel
    exact .noItems
  | message hmessage =>
    obtain ⟨items', rfl, hrel⟩ := hr.exists_array
    obtain _ | ⟨hr₁, -⟩ := hrel
    cases htidy with
    | array hitems =>
      exact .message (respects_failsAsMessage (List.forall_mem_cons.mp hitems).1 hr₁ hmessage)
  | datetime =>
    cases hr
    exact .datetime
  | other htable harray hdatetime =>
    cases hr with
    | same => exact .other htable harray hdatetime
    | array => exact absurd rfl (harray _)
    | table => exact absurd rfl (htable _)

theorem respects_rootKeys : ∀ key ∈ rootKeys, Respects key.2 :=
  List.forall_mem_cons.mpr
    ⟨respects_failsAsRun, List.forall_mem_singleton.mpr respects_failsAsReporter⟩

/-! ### Changes after the complaint -/

/-- The names of the sections, with what is wrong with an entry of each. -/
inductive SectionKey : String → (Key × Located Value → Reason → Prop) → Prop
  | run : SectionKey "run" (FailsInEntry runKeys .run)
  | reporter : SectionKey "reporter" (FailsInEntry reporterKeys .reporter)

/-- A document with a complaint, and one that was changed only after the key with that complaint, in
the table where the key is: the root table, or the table of a section. -/
inductive ChangedAfter (root root' : Entries) (reason : Reason) : Prop
  | inRoot {e : Key × Located Value} :
    FirstFailing (FailsInEntry rootKeys .root) root e reason →
      AgreeOn (¬ComesBefore e.1.name ·) root root' → ChangedAfter root root' reason
  | inSection {k k' : Key} {v v' : Located Value} {es es' : Entries} {e : Key × Located Value}
    {fails : Key × Located Value → Reason → Prop} :
    FirstFailing (FailsInEntry rootKeys .root) root (k, v) reason →
      AgreeOn (ComesBefore · k.name) root root' → (k', v') ∈ root' → k'.name = k.name →
        SectionKey k.name fails → v.value = .table es → v'.value = .table es' →
          FirstFailing fails es e reason → AgreeOn (¬ComesBefore e.1.name ·) es es' →
            ChangedAfter root root' reason

/-- A section that was changed only after its first failing key fails as before. -/
theorem SectionKey.agree {name : String} {fails : Key × Located Value → Reason → Prop}
    (h : SectionKey name fails) {es es' : Entries} {e : Key × Located Value} {reason : Reason}
    (htidy : (Value.table es).Tidy) (hfirst : FirstFailing fails es e reason)
    (hagree : AgreeOn (¬ComesBefore e.1.name ·) es es') {k : Key} {v : Located Value}
    (hname : k.name = name) (hv : v.value = .table es') :
    FailsInEntry rootKeys .root (k, v) reason := by
  cases h with
  | run =>
    obtain ⟨e', hfirst'⟩ := hfirst.agree respects_runKeys htidy hagree
    refine .known List.mem_cons_self hname ?_
    rw [hv]
    exact .entry hfirst'
  | reporter =>
    obtain ⟨e', hfirst'⟩ := hfirst.agree respects_reporterKeys htidy hagree
    refine .known (List.mem_cons_of_mem _ List.mem_cons_self) hname ?_
    rw [hv]
    exact .entry hfirst'

/-- What was changed after the complaint does not matter. -/
theorem ChangedAfter.firstFailing {root root' : Entries} {reason : Reason}
    (h : ChangedAfter root root' reason) (htidy : (Value.table root).Tidy) :
    ∃ e, FirstFailing (FailsInEntry rootKeys .root) root' e reason := by
  cases h with
  | inRoot hfirst hagree => exact hfirst.agree respects_rootKeys htidy hagree
  | @inSection k k' v v' es es' e fails hroot hbefore hmem hname hkey hv hv' hfirst hagree =>
    have htable := htidy.entry hroot.mem
    rw [hv] at htable
    have hnone := not_fails_before respects_rootKeys htidy hbefore hroot.before
    rw [← hname] at hnone
    exact ⟨(k', v'), hmem, hkey.agree htable hfirst hagree hname hv', hnone⟩

end Schema

/-! ### Documents -/

/-- What reading a document comes to: the configuration, or the reason of the complaint. -/
def Config.outcome (root : Entries) : Except Reason Config :=
  (Config.ofDocument root).mapError Rejection.reason

theorem Config.outcome_ok_iff {root : Entries} {c : Config} :
    Config.outcome root = .ok c ↔ Config.ofDocument root = .ok c := by
  unfold outcome
  cases Config.ofDocument root <;> simp [Except.mapError]

theorem Config.outcome_error_iff {root : Entries} {reason : Reason} :
    Config.outcome root = .error reason ↔ Complains (Config.ofDocument root) reason := by
  unfold outcome Complains
  rcases Config.ofDocument root with ⟨span, reason'⟩ | c <;> simp [Except.mapError, eq_comm]

open Schema

/-- A document in another order comes to the same. -/
theorem outcome_reordered {root root' : Entries} (h : (Value.table root).Tidy)
    (hr : Reordered (.table root) (.table root')) :
    Config.outcome root' = Config.outcome root := by
  have h' := hr.tidy h
  rcases ok_or_complains (Config.ofDocument root) with ⟨c, hok⟩ | ⟨reason, hfails⟩
  · have hroot := isRoot_of_ofDocument h hok
    have hroot' : IsRoot root' c := pair_reordered respects_isRun respects_isReporter h hr hroot
    rw [Config.outcome_ok_iff.mpr hok, Config.outcome_ok_iff.mpr (hroot'.ofDocument h')]
  · obtain ⟨e, hfirst⟩ := (ofDocument_complains_iff h).mp hfails
    have hfirst' := hfirst.agree respects_rootKeys h (hr.agreeOn _)
    rw [Config.outcome_error_iff.mpr hfails,
      Config.outcome_error_iff.mpr ((ofDocument_complains_iff h').mpr hfirst')]

/-- **The first complaint decides**: a document with the entries of its tables in another order comes
to the same configuration or to the same complaint. The complaint is that about the first key that
fails in the order of the bytes of their names, with everything below a key read at its place; and it
stays the same when the document is changed after that key. -/
theorem first_complaint_decides {root : Entries} (h : (Value.table root).Tidy) :
    (∀ root', Reordered (.table root) (.table root') →
      Config.outcome root' = Config.outcome root) ∧
    (∀ reason, Config.outcome root = .error reason ↔
      ∃ e, FirstFailing (FailsInEntry rootKeys .root) root e reason) ∧
    ∀ root' reason, (Value.table root').Tidy → ChangedAfter root root' reason →
      Config.outcome root' = .error reason := by
  refine ⟨fun root' => outcome_reordered h, fun reason => ?_, fun root' reason h' hchanged => ?_⟩
  · rw [Config.outcome_error_iff, ofDocument_complains_iff h]
  · rw [Config.outcome_error_iff, ofDocument_complains_iff h']
    exact hchanged.firstFailing h

/-- The case of a section with two keys that fail: the delay comes before the revision, whichever of
them is written first. -/
theorem delay_fails_before_revision :
    let key (name : String) : Key := ⟨name, ⟨0, 0⟩⟩
    let delay : Key × Located Value := (key "delay_ms", ⟨⟨0, 0⟩, .integer (-1)⟩)
    let revision : Key × Located Value := (key "revision", ⟨⟨0, 0⟩, .string "later"⟩)
    let root : Entries := [(key "run", ⟨⟨0, 0⟩, .table [revision, delay]⟩)]
    let root' : Entries := [(key "run", ⟨⟨0, 0⟩, .table [delay, revision]⟩)]
    (Value.table root).Tidy ∧ Reordered (.table root) (.table root') ∧
      Config.outcome root = .error (.negative (-1)) ∧
      Config.outcome root' = .error (.negative (-1)) := by
  intro key delay revision root root'
  have hsection : (Value.table [revision, delay]).Tidy :=
    .table (by decide)
      (List.forall_mem_cons.mpr ⟨.string _, List.forall_mem_singleton.mpr (.integer _)⟩)
  have htidy : (Value.table root).Tidy :=
    .table (List.nodup_singleton _) (List.forall_mem_singleton.mpr hsection)
  have hswap : Reordered (.table [revision, delay]) (.table [delay, revision]) :=
    .of_perm (.swap delay revision [])
      (.cons ⟨rfl, .same _⟩ (.cons ⟨rfl, .same _⟩ .nil))
  have hreordered : Reordered (.table root) (.table root') :=
    .of_perm (.refl _) (.cons ⟨rfl, hswap⟩ .nil)
  have hdelay : FirstFailing (FailsInEntry runKeys .run) [revision, delay] delay (.negative (-1)) := by
    refine ⟨by simp, ?_, ?_⟩
    · exact .known (List.mem_cons_of_mem _ List.mem_cons_self) rfl (.negative (by decide) (by decide))
    · intro e he hbefore
      rw [comesBefore_iff] at hbefore
      rcases List.mem_cons.mp he with rfl | he
      · exact absurd hbefore (by decide)
      · rw [List.mem_singleton.mp he] at hbefore
        exact absurd hbefore (String.lt_irrefl _)
  have hrun : FirstFailing (FailsInEntry rootKeys .root) root
      (key "run", ⟨⟨0, 0⟩, .table [revision, delay]⟩) (.negative (-1)) := by
    refine ⟨List.mem_cons_self, .known List.mem_cons_self rfl (.entry hdelay), ?_⟩
    intro e he hbefore
    rw [List.mem_singleton.mp he] at hbefore
    exact absurd hbefore (List.lt_irrefl _)
  have hdecides := first_complaint_decides htidy
  have hroot := (hdecides.2.1 _).mpr ⟨_, hrun⟩
  exact ⟨htidy, hreordered, hroot, (hdecides.1 root' hreordered).trans hroot⟩

end TraceTarget
