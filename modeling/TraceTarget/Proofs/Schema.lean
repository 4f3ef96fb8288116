import Mathlib.Data.List.Induction
import TraceTarget.Proofs.Tables

/-!
# The schema of a configuration

Which documents hold a configuration, and which one, said without reading them entry by entry.

- `Schema.IsRevision`, `Schema.IsDelay`, `Schema.IsMessage`: the values that a field may have, and
  what each of them says.
- `Schema.IsRun`, `Schema.IsReporter`: the same for the two sections.
- `Schema.IsRoot`: the same for the root table of a document.
- `decodeFields_ok_iff`: a table that is read entry by entry says what the schema has it say, if one
  more entry adds what that entry says.
- `ofDocument_ok_iff`: a document is accepted exactly if it is as the schema has it, and then the
  configuration is the one that the schema says.
-/

namespace TraceTarget

open Toml (Located Value Key Entries names under)

/-! ### The schema -/

namespace Schema

/-- The values that say a revision: its name, or a table with the name as its only key and nothing
under it. -/
inductive IsRevision : Value → Revision → Prop
  | name (r : Revision) : IsRevision (.string r.name) r
  | key {k : Key} {payload : Located Value} {r : Revision} : k.name = r.name →
    payload.value = .table [] ∨ payload.value = .array [] → IsRevision (.table [(k, payload)]) r

/-- The values that say a delay: the integers of 64 bits without a sign. -/
inductive IsDelay : Value → UInt64 → Prop
  | integer (n : UInt64) : IsDelay (.integer n.toNat) n

/-- The values that say a message: the strings. -/
inductive IsMessage : Value → String → Prop
  | string (text : String) : IsMessage (.string text) text

/-- A table that has entries under two names at most, and what it says under each of them. -/
structure Pair {α β : Type} (n₁ n₂ : String) (R₁ : Value → α → Prop) (R₂ : Value → β → Prop)
    (es : Entries) (a : Option α) (b : Option β) : Prop where
  known : ∀ e ∈ es, e.1.name = n₁ ∨ e.1.name = n₂
  first : Option.Rel R₁ (under n₁ es) a
  second : Option.Rel R₂ (under n₂ es) b

/-- The tables that say how to run. -/
def RunTable (es : Entries) (s : RunSection) : Prop :=
  Pair "revision" "delay_ms" IsRevision IsDelay es s.revision s.delayMs

/-- The values that say how to run: such a table, or an array that begins with a revision and a
delay. -/
inductive IsRun : Value → RunSection → Prop
  | table {es : Entries} {s : RunSection} : RunTable es s → IsRun (.table es) s
  | array {r d : Located Value} {rest : List (Located Value)} {revision : Revision}
    {delayMs : UInt64} : IsRevision r.value revision → IsDelay d.value delayMs →
      IsRun (.array (r :: d :: rest)) { revision := some revision, delayMs := some delayMs }

/-- The tables that say what the reporter prints. -/
structure ReporterTable (es : Entries) (s : ReporterSection) : Prop where
  known : ∀ e ∈ es, e.1.name = "message"
  message : Option.Rel IsMessage (under "message" es) s.message

/-- The values that say what the reporter prints: such a table, or an array that begins with a
message. -/
inductive IsReporter : Value → ReporterSection → Prop
  | table {es : Entries} {s : ReporterSection} : ReporterTable es s → IsReporter (.table es) s
  | array {m : Located Value} {rest : List (Located Value)} {text : String} :
    IsMessage m.value text → IsReporter (.array (m :: rest)) { message := some text }

/-- The root tables that say a configuration. -/
def IsRoot (root : Entries) (c : Config) : Prop :=
  Pair "run" "reporter" IsRun IsReporter root c.run c.reporter

end Schema

open Schema

/-! ### Fields -/

/-- A bind that succeeds does so in both its parts. -/
theorem bind_eq_ok {ε α β : Type} {x : Except ε α} {f : α → Except ε β} {b : β} :
    x >>= f = .ok b ↔ ∃ a, x = .ok a ∧ f a = .ok b := by
  cases x with
  | ok a => simp [bind, Except.bind]
  | error e => simp [bind, Except.bind]

/-- A value that is computed and put into something. -/
theorem return_eq_ok {ε α β : Type} {x : Except ε α} {f : α → β} {b : β} :
    (do return f (← x)) = (.ok b : Except ε β) ↔ ∃ a, x = .ok a ∧ b = f a := by
  rw [bind_eq_ok]
  simp only [pure, Except.pure, Except.ok.injEq, eq_comm]

theorem checkPayload_ok_iff {v : Located Value} :
    checkPayload v = .ok () ↔ v.value = .table [] ∨ v.value = .array [] := by
  unfold checkPayload
  split <;> simp_all

theorem revisionNamed_ok_iff {span : Toml.Span} {name : String} {r : Revision} :
    revisionNamed span name = .ok r ↔ name = r.name := by
  unfold revisionNamed
  constructor
  · intro h
    split at h
    · next hname =>
      cases h
      exact Revision.eq_name_of_ofName? hname
    · cases h
  · rintro rfl
    rw [Revision.ofName?_name]

theorem decodeRevision_ok_iff {v : Located Value} {r : Revision} :
    decodeRevision v = .ok r ↔ IsRevision v.value r := by
  obtain ⟨span, value⟩ := v
  constructor
  · intro h
    unfold decodeRevision at h
    split at h
    · next name hvalue =>
      obtain rfl := revisionNamed_ok_iff.mp h
      rw [hvalue]
      exact .name r
    · cases h
    · next k payload hvalue =>
      obtain ⟨r', hname, h⟩ := bind_eq_ok.mp h
      obtain ⟨u, hpayload, h⟩ := bind_eq_ok.mp h
      cases h
      rw [hvalue]
      exact .key (revisionNamed_ok_iff.mp hname) (checkPayload_ok_iff.mp hpayload)
    · cases h
    · cases h
  · intro h
    cases h with
    | name r => exact revisionNamed_ok_iff.mpr rfl
    | key hname hpayload =>
      exact bind_eq_ok.mpr ⟨r, revisionNamed_ok_iff.mpr hname,
        bind_eq_ok.mpr ⟨(), checkPayload_ok_iff.mpr hpayload, rfl⟩⟩

/-- An integer that fits in 64 bits without a sign is kept by them. -/
theorem toNat_ofNat_toNat {n : Int} (h : 0 ≤ n ∧ n < UInt64.size) :
    ((UInt64.ofNat n.toNat).toNat : Int) = n := by
  have hlt : n.toNat < UInt64.size := by omega
  rw [UInt64.toNat_ofNat_of_lt' hlt, Int.toNat_of_nonneg h.1]

theorem decodeDelay_ok_iff {v : Located Value} {n : UInt64} :
    decodeDelay v = .ok n ↔ IsDelay v.value n := by
  obtain ⟨span, value⟩ := v
  have hlt := n.toNat_lt
  constructor
  · intro h
    unfold decodeDelay at h
    split at h
    · next m hvalue =>
      split at h
      · next hrange =>
        cases h
        have hdelay := IsDelay.integer (.ofNat m.toNat)
        rw [toNat_ofNat_toNat hrange] at hdelay
        rw [hvalue]
        exact hdelay
      · split at h <;> cases h
    · cases h
  · rintro ⟨⟩
    have hrange : (0 : Int) ≤ n.toNat ∧ (n.toNat : Int) < UInt64.size :=
      ⟨Int.natCast_nonneg _, Int.ofNat_lt.mpr n.toNat_lt⟩
    simp only [decodeDelay, hrange, and_self, if_true, Int.toNat_natCast, UInt64.ofNat_toNat]

theorem decodeMessage_ok_iff {v : Located Value} {text : String} :
    decodeMessage v = .ok text ↔ IsMessage v.value text := by
  obtain ⟨span, value⟩ := v
  constructor
  · intro h
    unfold decodeMessage at h
    split at h
    · next hvalue =>
      cases h
      rw [hvalue]
      exact .string _
    · cases h
  · rintro ⟨⟩
    rfl

/-! ### Tables -/

section Tables

variable {es : Entries} {e : Key × Located Value}

/-- What the last entry of a table says, if no other has its name. -/
theorem rel_concat_self {α : Type} {R : Value → α → Prop} (hnew : e.1.name ∉ names es)
    {o : Option α} :
    Option.Rel R (under e.1.name (es ++ [e])) o ↔ ∃ a, R e.2.value a ∧ o = some a := by
  rw [Toml.under_concat_self hnew]
  constructor
  · rintro ⟨h⟩
    exact ⟨_, h, rfl⟩
  · rintro ⟨a, h, rfl⟩
    exact .some h

/-- A name that no entry has says nothing. -/
theorem rel_of_new {α : Type} {R : Value → α → Prop} (hnew : e.1.name ∉ names es) :
    Option.Rel R (under e.1.name es) none := by
  rw [Toml.under_eq_none_iff.mpr hnew]
  exact .none

/-- Something that holds of all entries of a longer table. -/
theorem forall_mem_concat {p : Key × Located Value → Prop} :
    (∀ x ∈ es ++ [e], p x) ↔ (∀ x ∈ es, p x) ∧ p e := by
  simp only [List.mem_append, List.mem_singleton, or_imp, forall_and, forall_eq]

/-- Reading a table entry by entry. What the entries so far say is known of the empty table, and
grows with each entry as that is read. -/
theorem foldlM_ok_iff {σ : Type} {field : σ → Key × Located Value → Except Rejection σ}
    {start : σ} {P : Entries → σ → Prop} (hnil : ∀ s, P [] s ↔ s = start)
    (hconcat : ∀ es e s', e.1.name ∉ names es → e.2.value.Tidy →
      (P (es ++ [e]) s' ↔ ∃ s, P es s ∧ field s e = .ok s'))
    (h : (Value.table es).Tidy) {s : σ} : es.foldlM field start = .ok s ↔ P es s := by
  induction es using List.reverseRecOn generalizing s with
  | nil =>
    rw [hnil, List.foldlM_nil]
    exact ⟨fun hs => by cases hs; rfl, fun hs => by rw [hs]; rfl⟩
  | append_singleton es e ih =>
    -- the entry that is read last is new to the ones read before
    obtain ⟨hinit, hentry⟩ := forall_mem_concat.mp fun _ he => h.entry he
    have hnodup := h.names_nodup
    rw [names, List.map_append, List.nodup_append] at hnodup
    obtain ⟨hnames, -, hdisjoint⟩ := hnodup
    have hnew : e.1.name ∉ names es := fun he => hdisjoint _ he _ List.mem_cons_self rfl
    rw [hconcat es e s hnew hentry, List.foldlM_append, bind_eq_ok]
    simp only [ih (.table hnames hinit), List.foldlM_cons, List.foldlM_nil, bind_pure]

/-- Reading a table in the order of its names. What a table says does not depend on the order of its
entries. -/
theorem decodeFields_ok_iff {σ : Type} {field : σ → Key × Located Value → Except Rejection σ}
    {start : σ} {P : Entries → σ → Prop} (hnil : ∀ s, P [] s ↔ s = start)
    (hconcat : ∀ es e s', e.1.name ∉ names es → e.2.value.Tidy →
      (P (es ++ [e]) s' ↔ ∃ s, P es s ∧ field s e = .ok s'))
    (hperm : ∀ es es' s, es.Perm es' → (names es).Nodup → P es s → P es' s)
    (h : (Value.table es).Tidy) {s : σ} : decodeFields field start es = .ok s ↔ P es s := by
  have hvisit : (visitOrder es).Perm es := List.mergeSort_perm ..
  have hvisited := h.perm hvisit.symm
  rw [decodeFields, foldlM_ok_iff hnil hconcat hvisited]
  exact ⟨hperm _ _ _ hvisit hvisited.names_nodup, hperm _ _ _ hvisit.symm h.names_nodup⟩

variable {α β : Type} {n₁ n₂ : String} {R₁ : Value → α → Prop} {R₂ : Value → β → Prop}

theorem pair_nil {a : Option α} {b : Option β} :
    Pair n₁ n₂ R₁ R₂ [] a b ↔ a = none ∧ b = none := by
  constructor
  · rintro ⟨-, hfirst, hsecond⟩
    cases hfirst
    cases hsecond
    exact ⟨rfl, rfl⟩
  · rintro ⟨rfl, rfl⟩
    exact ⟨fun _ he => absurd he List.not_mem_nil, .none, .none⟩

/-- A table with one more entry says under the name of the entry what the entry says, and nothing
else changes. -/
theorem pair_concat {a : Option α} {b : Option β} (hne : n₁ ≠ n₂) (hnew : e.1.name ∉ names es) :
    Pair n₁ n₂ R₁ R₂ (es ++ [e]) a b ↔ ∃ a' b', Pair n₁ n₂ R₁ R₂ es a' b' ∧
      ((e.1.name = n₁ ∧ ∃ x, R₁ e.2.value x ∧ a = some x ∧ b = b') ∨
        (e.1.name = n₂ ∧ ∃ y, R₂ e.2.value y ∧ a = a' ∧ b = some y)) := by
  constructor
  · rintro ⟨hknown, hfirst, hsecond⟩
    -- before the last entry was read, nothing was said under its name
    obtain ⟨hinit, rfl | rfl⟩ := forall_mem_concat.mp hknown
    · rw [Toml.under_concat_other hne] at hsecond
      obtain ⟨x, hx, rfl⟩ := (rel_concat_self hnew).mp hfirst
      exact ⟨none, b, ⟨hinit, rel_of_new hnew, hsecond⟩, .inl ⟨rfl, x, hx, rfl, rfl⟩⟩
    · rw [Toml.under_concat_other hne.symm] at hfirst
      obtain ⟨y, hy, rfl⟩ := (rel_concat_self hnew).mp hsecond
      exact ⟨a, none, ⟨hinit, hfirst, rel_of_new hnew⟩, .inr ⟨rfl, y, hy, rfl, rfl⟩⟩
  · rintro ⟨a', b', ⟨hknown, hfirst, hsecond⟩, ⟨rfl, x, hx, rfl, rfl⟩ | ⟨rfl, y, hy, rfl, rfl⟩⟩
    · refine ⟨forall_mem_concat.mpr ⟨hknown, .inl rfl⟩, (rel_concat_self hnew).mpr ⟨x, hx, rfl⟩, ?_⟩
      rw [Toml.under_concat_other hne]
      exact hsecond
    · refine ⟨forall_mem_concat.mpr ⟨hknown, .inr rfl⟩, ?_, (rel_concat_self hnew).mpr ⟨y, hy, rfl⟩⟩
      rw [Toml.under_concat_other hne.symm]
      exact hfirst

theorem pair_perm {es' : Entries} {a : Option α} {b : Option β} (hperm : es.Perm es')
    (hnames : (names es).Nodup) (h : Pair n₁ n₂ R₁ R₂ es a b) : Pair n₁ n₂ R₁ R₂ es' a b where
  known e he := h.known e (hperm.mem_iff.mpr he)
  first := Toml.under_perm hperm hnames _ ▸ h.first
  second := Toml.under_perm hperm hnames _ ▸ h.second

/-- Reading a section with two fields. It is enough to know what reading an entry does to them. -/
theorem decodeFields_pair_iff {σ : Type} {field : σ → Key × Located Value → Except Rejection σ}
    {start : σ} {f : σ → Option α} {g : σ → Option β} (hne : n₁ ≠ n₂)
    (hstart : ∀ s, f s = none ∧ g s = none ↔ s = start) (hmake : ∀ a b, ∃ s, f s = a ∧ g s = b)
    (hfield : ∀ s e s', e.2.value.Tidy → (field s e = .ok s' ↔
      (e.1.name = n₁ ∧ ∃ x, R₁ e.2.value x ∧ f s' = some x ∧ g s' = g s) ∨
        (e.1.name = n₂ ∧ ∃ y, R₂ e.2.value y ∧ f s' = f s ∧ g s' = some y)))
    (h : (Value.table es).Tidy) {s : σ} :
    decodeFields field start es = .ok s ↔ Pair n₁ n₂ R₁ R₂ es (f s) (g s) := by
  refine decodeFields_ok_iff (P := fun es s => Pair n₁ n₂ R₁ R₂ es (f s) (g s))
    (fun s => pair_nil.trans (hstart s)) (fun es e s' hnew he => ?_)
    (fun es es' s hperm hnames => pair_perm hperm hnames) h
  rw [pair_concat hne hnew]
  constructor
  · rintro ⟨a, b, hpair, hentry⟩
    obtain ⟨s, rfl, rfl⟩ := hmake a b
    exact ⟨s, hpair, (hfield s e s' he).mpr hentry⟩
  · rintro ⟨s, hpair, hentry⟩
    exact ⟨f s, g s, hpair, (hfield s e s' he).mp hentry⟩

end Tables

/-! ### Sections -/

section Sections

variable {es es' : Entries} {e : Key × Located Value}

/-- An entry of the section on running is read when its name is known and its value fits. -/
theorem runField_ok_iff (s : RunSection) (e : Key × Located Value) (s' : RunSection) :
    runField s e = .ok s' ↔
      (e.1.name = "revision" ∧
        ∃ r, IsRevision e.2.value r ∧ s'.revision = some r ∧ s'.delayMs = s.delayMs) ∨
      (e.1.name = "delay_ms" ∧
        ∃ n, IsDelay e.2.value n ∧ s'.revision = s.revision ∧ s'.delayMs = some n) := by
  obtain ⟨k, v⟩ := e
  obtain ⟨revision, delayMs⟩ := s'
  by_cases hrevision : k.name = "revision"
  · rw [runField, if_pos hrevision, return_eq_ok]
    simp [hrevision, decodeRevision_ok_iff]
  by_cases hdelay : k.name = "delay_ms"
  · rw [runField, if_neg hrevision, if_pos hdelay, return_eq_ok]
    simp [hdelay, decodeDelay_ok_iff]
  · simp [runField, hrevision, hdelay]

/-- An entry of the section on the reporter is read when it is a message. -/
theorem reporterField_ok_iff (s : ReporterSection) (e : Key × Located Value)
    (s' : ReporterSection) :
    reporterField s e = .ok s' ↔
      e.1.name = "message" ∧ ∃ text, IsMessage e.2.value text ∧ s'.message = some text := by
  obtain ⟨k, v⟩ := e
  obtain ⟨message⟩ := s'
  by_cases hmessage : k.name = "message"
  · rw [reporterField, if_pos hmessage, return_eq_ok]
    simp [hmessage, decodeMessage_ok_iff]
  · simp [reporterField, hmessage]

theorem decodeRun_ok_iff {v : Located Value} (h : v.value.Tidy) {s : RunSection} :
    decodeRun v = .ok s ↔ IsRun v.value s := by
  obtain ⟨span, value⟩ := v
  have hstart (s : RunSection) : s.revision = none ∧ s.delayMs = none ↔ s = {} := by
    obtain ⟨revision, delayMs⟩ := s
    simp
  have htable {es : Entries} (hes : (Value.table es).Tidy) :
      decodeFields runField {} es = .ok s ↔ RunTable es s :=
    decodeFields_pair_iff (by decide) hstart (fun a b => ⟨⟨a, b⟩, rfl, rfl⟩)
      (fun s e s' _ => runField_ok_iff s e s') hes
  constructor
  · intro hs
    unfold decodeRun at hs
    split at hs
    · next es hvalue =>
      obtain rfl : value = .table es := hvalue
      exact .table ((htable h).mp hs)
    · next r d rest hvalue =>
      obtain ⟨revision, hr, hs⟩ := bind_eq_ok.mp hs
      obtain ⟨delayMs, hd, rfl⟩ := return_eq_ok.mp hs
      rw [hvalue]
      exact .array (decodeRevision_ok_iff.mp hr) (decodeDelay_ok_iff.mp hd)
    · obtain ⟨r, -, hs⟩ := bind_eq_ok.mp hs
      cases hs
    · cases hs
    · cases hs
    · cases hs
  · intro hs
    cases hs with
    | table hs => exact (htable h).mpr hs
    | array hr hd =>
      exact bind_eq_ok.mpr ⟨_, decodeRevision_ok_iff.mpr hr,
        return_eq_ok.mpr ⟨_, decodeDelay_ok_iff.mpr hd, rfl⟩⟩

theorem reporterTable_concat {es : Entries} {e : Key × Located Value} {s' : ReporterSection}
    (hnew : e.1.name ∉ names es) :
    ReporterTable (es ++ [e]) s' ↔ ∃ s, ReporterTable es s ∧ reporterField s e = .ok s' := by
  simp only [reporterField_ok_iff]
  constructor
  · rintro ⟨hknown, hmessage⟩
    obtain ⟨hinit, hname⟩ := forall_mem_concat.mp hknown
    rw [← hname] at hmessage
    refine ⟨{}, ⟨hinit, ?_⟩, hname, (rel_concat_self hnew).mp hmessage⟩
    exact hname ▸ rel_of_new hnew
  · rintro ⟨s, ⟨hknown, -⟩, hname, hmessage⟩
    refine ⟨forall_mem_concat.mpr ⟨hknown, hname⟩, ?_⟩
    exact hname ▸ (rel_concat_self hnew).mpr hmessage

theorem decodeReporter_ok_iff {v : Located Value} (h : v.value.Tidy) {s : ReporterSection} :
    decodeReporter v = .ok s ↔ IsReporter v.value s := by
  obtain ⟨span, value⟩ := v
  have hnil (s : ReporterSection) : ReporterTable [] s ↔ s = {} := by
    obtain ⟨message⟩ := s
    constructor
    · rintro ⟨-, hmessage⟩
      cases hmessage
      rfl
    · rintro ⟨⟩
      exact ⟨fun _ he => absurd he List.not_mem_nil, .none⟩
  have hperm (es es' : Entries) (s : ReporterSection) (hp : es.Perm es') (hn : (names es).Nodup)
      (hs : ReporterTable es s) : ReporterTable es' s :=
    ⟨fun e he => hs.known e (hp.mem_iff.mpr he), Toml.under_perm hp hn _ ▸ hs.message⟩
  have htable {es : Entries} (hes : (Value.table es).Tidy) :
      decodeFields reporterField {} es = .ok s ↔ ReporterTable es s :=
    decodeFields_ok_iff hnil (fun _ _ _ hnew _ => reporterTable_concat hnew) hperm hes
  constructor
  · intro hs
    unfold decodeReporter at hs
    split at hs
    · next es hvalue =>
      obtain rfl : value = .table es := hvalue
      exact .table ((htable h).mp hs)
    · next m rest hvalue =>
      obtain ⟨text, hm, rfl⟩ := return_eq_ok.mp hs
      rw [hvalue]
      exact .array (decodeMessage_ok_iff.mp hm)
    · cases hs
    · cases hs
    · cases hs
  · intro hs
    cases hs with
    | table hs => exact (htable h).mpr hs
    | array hm => exact return_eq_ok.mpr ⟨_, decodeMessage_ok_iff.mpr hm, rfl⟩

end Sections

/-! ### Documents -/

/-- An entry of the root table is read when it is a section and the section is as it should be. -/
theorem rootField_ok_iff (c : Config) (e : Key × Located Value) (c' : Config)
    (he : e.2.value.Tidy) :
    rootField c e = .ok c' ↔
      (e.1.name = "run" ∧
        ∃ s, IsRun e.2.value s ∧ c'.run = some s ∧ c'.reporter = c.reporter) ∨
      (e.1.name = "reporter" ∧
        ∃ s, IsReporter e.2.value s ∧ c'.run = c.run ∧ c'.reporter = some s) := by
  obtain ⟨k, v⟩ := e
  obtain ⟨run, reporter⟩ := c'
  by_cases hrun : k.name = "run"
  · rw [rootField, if_pos hrun, return_eq_ok]
    simp [hrun, decodeRun_ok_iff he]
  by_cases hreporter : k.name = "reporter"
  · rw [rootField, if_neg hrun, if_pos hreporter, return_eq_ok]
    simp [hreporter, decodeReporter_ok_iff he]
  · simp [rootField, hrun, hreporter]

/-- A configuration without sections is the empty one. -/
theorem Config.sections_none_iff (c : Config) : c.run = none ∧ c.reporter = none ↔ c = {} := by
  obtain ⟨run, reporter⟩ := c
  simp

/-- A document that is read has the two sections that were read. -/
theorem isRoot_of_ofDocument {root : Entries} (h : (Value.table root).Tidy) {c : Config}
    (hok : Config.ofDocument root = .ok c) : IsRoot root c :=
  (decodeFields_pair_iff (by decide) Config.sections_none_iff (fun a b => ⟨⟨a, b⟩, rfl, rfl⟩)
    rootField_ok_iff h).mp hok

/-- A document that has two sections as they should be is read. -/
theorem Schema.IsRoot.ofDocument {root : Entries} {c : Config} (hroot : IsRoot root c)
    (h : (Value.table root).Tidy) : Config.ofDocument root = .ok c :=
  (decodeFields_pair_iff (by decide) Config.sections_none_iff (fun a b => ⟨⟨a, b⟩, rfl, rfl⟩)
    rootField_ok_iff h).mpr hroot

/-- A text that is a document holds the configuration that the document holds. -/
theorem Config.parse_ok_iff {text : List Char} {root : Entries} (h : Toml.parse? text = some root)
    {c : Config} : Config.parse text = .ok c ↔ Config.ofDocument root = .ok c := by
  rw [Config.parse, h]
  dsimp only
  cases Config.ofDocument root <;> simp [Except.mapError]

/-- **The schema of a configuration**: a document holds a configuration exactly if it is as the
schema has it. Each section is there exactly if its name is, each field of it exactly if its own
name is, and each field has exactly the value that is given for it. -/
theorem ofDocument_ok_iff {root : Entries} (h : (Value.table root).Tidy) {c : Config} :
    Config.ofDocument root = .ok c ↔ IsRoot root c :=
  ⟨isRoot_of_ofDocument h, fun hroot => hroot.ofDocument h⟩

/-- The case of `run = ["linked", 5]` with an empty section on the reporter. -/
theorem ofDocument_ok_array :
    let at₀ (value : Value) : Located Value := ⟨⟨0, 0⟩, value⟩
    let root : Entries :=
      [(⟨"run", ⟨0, 0⟩⟩, at₀ (.array [at₀ (.string "linked"), at₀ (.integer 5)])),
        (⟨"reporter", ⟨0, 0⟩⟩, at₀ (.table []))]
    let c : Config := { run := some { revision := some .linked, delayMs := some 5 }
                        reporter := some {} }
    (Value.table root).Tidy ∧ Config.ofDocument root = .ok c := by
  intro at₀ root c
  have htidy : (Value.table root).Tidy := by
    refine .table (by decide) (List.forall_mem_cons.mpr ⟨?_, List.forall_mem_singleton.mpr ?_⟩)
    · exact .array
        (List.forall_mem_cons.mpr ⟨.string _, List.forall_mem_singleton.mpr (.integer _)⟩)
    · exact .table List.nodup_nil nofun
  have hroot : IsRoot root c := by
    refine ⟨by decide, .some (.array (.name .linked) (.integer 5)), .some (.table ?_)⟩
    exact ⟨nofun, .none⟩
  exact ⟨htidy, (ofDocument_ok_iff htidy).mpr hroot⟩

end TraceTarget
