import Mathlib.Data.List.Nodup
import TraceTarget.Proofs.ByteOrder
import TraceTarget.Proofs.Schema

/-!
# What is wrong with a configuration

Which complaint there is about a document that holds no configuration, said without reading it entry
by entry. The complaint about a table is that about the first of its keys that fails, in the order of
the bytes of their names; that about any other value says what is wrong with it.

- `ComesBefore`: the order of the bytes of two names.
- `Complains`: a reading that ends in a complaint.
- `Schema.FailsAsRevision`, `Schema.FailsAsDelay`, `Schema.FailsAsMessage`: what is wrong with the
  value of a field. The checks of a value come in a fixed order, which shows in the cases.
- `Schema.FailsInEntry`: what is wrong with an entry of a table, given the keys that the table knows.
- `Schema.FirstFailing`: the first entry of a table about which there is a complaint.
- `Schema.FailsAsRun`, `Schema.FailsAsReporter`: what is wrong with a section.
- `decodeFields_complains_iff`: reading a table ends in the complaint about its first failing key.
- `ofDocument_complains_iff`: so does reading a document, with everything below a key read at its
  place.
-/

namespace TraceTarget

open Toml (Located Value Key Entries names)

/-! ### Complaints -/

/-- A name comes before another in the order of their bytes. -/
def ComesBefore (name name' : String) : Prop :=
  Text.encode name.toList < Text.encode name'.toList

/-- The order of the bytes is the order in which names are compared. -/
theorem comesBefore_iff {name name' : String} : ComesBefore name name' ↔ name < name' :=
  Text.encode_lt_iff

/-- A reading that ends in a complaint with this reason, at whatever place. -/
def Complains {α : Type} (x : Except Rejection α) (reason : Reason) : Prop :=
  ∃ span, x = .error ⟨span, reason⟩

section Complains

variable {α β : Type} {x : Except Rejection α} {reason reason' : Reason} {span : Toml.Span}

theorem not_complains_ok {a : α} : ¬Complains (.ok a : Except Rejection α) reason := by
  rintro ⟨span, h⟩
  cases h

theorem complains_error :
    Complains (.error ⟨span, reason'⟩ : Except Rejection α) reason ↔ reason = reason' := by
  constructor
  · rintro ⟨span', h⟩
    cases h
    rfl
  · rintro rfl
    exact ⟨span, rfl⟩

/-- A reading either succeeds or ends in a complaint. -/
theorem ok_or_complains (x : Except Rejection α) : (∃ a, x = .ok a) ∨ ∃ reason, Complains x reason := by
  cases x with
  | ok a => exact .inl ⟨a, rfl⟩
  | error rejection => exact .inr ⟨rejection.reason, rejection.span, rfl⟩

theorem ok_of_not_complains (h : ∀ reason, ¬Complains x reason) : ∃ a, x = .ok a := by
  rcases ok_or_complains x with hok | ⟨reason, hfails⟩
  · exact hok
  · exact absurd hfails (h reason)

/-- A reading in two steps complains in the first one, or else in the second. -/
theorem complains_bind {f : α → Except Rejection β} :
    Complains (x >>= f) reason ↔ Complains x reason ∨ ∃ a, x = .ok a ∧ Complains (f a) reason := by
  cases x with
  | ok a => simp [bind, Except.bind, not_complains_ok]
  | error rejection => simp [bind, Except.bind, Complains]

/-- A value that is read and put into something. -/
theorem complains_return {f : α → β} :
    Complains (do return f (← x)) reason ↔ Complains x reason := by
  rw [complains_bind]
  simp only [pure, Except.pure, not_complains_ok, and_false, exists_false, or_false]

end Complains

/-! ### The complaints of the schema -/

namespace Schema

/-- What is wrong under the name of a revision. -/
inductive FailsAsPayload : Value → Reason → Prop
  | table {e : Key × Located Value} {es : Entries} : FailsAsPayload (.table (e :: es)) .notEmptyTable
  | array {v : Located Value} {vs : List (Located Value)} :
    FailsAsPayload (.array (v :: vs)) .notEmptyArray
  | string (text : String) : FailsAsPayload (.string text) (.notTable .string)
  | integer (n : Int) : FailsAsPayload (.integer n) (.notTable .integer)
  | numberless : FailsAsPayload .numberless (.notTable .integer)
  | float (n : Toml.Number) : FailsAsPayload (.float n) (.notTable .float)
  | boolean (b : Bool) : FailsAsPayload (.boolean b) (.notTable .boolean)
  | datetime : FailsAsPayload .datetime (.notTable .datetime)

/-- What is wrong with a name that should be that of a revision. -/
inductive FailsAsName : String → Reason → Prop
  | unknown {name : String} : (∀ r : Revision, name ≠ r.name) →
    FailsAsName name (.unknownVariant name)

/-- What is wrong with a value that should say a revision. Of a table the number of its keys is
checked first, then the key and then what is under it. -/
inductive FailsAsRevision : Value → Reason → Prop
  | name {name : String} {reason : Reason} : FailsAsName name reason →
    FailsAsRevision (.string name) reason
  | noKey : FailsAsRevision (.table []) (.notOneKey true)
  | severalKeys {e e' : Key × Located Value} {es : Entries} :
    FailsAsRevision (.table (e :: e' :: es)) (.notOneKey false)
  | key {k : Key} {payload : Located Value} {reason : Reason} : FailsAsName k.name reason →
    FailsAsRevision (.table [(k, payload)]) reason
  | payload {k : Key} {payload : Located Value} {r : Revision} {reason : Reason} :
    k.name = r.name → FailsAsPayload payload.value reason →
      FailsAsRevision (.table [(k, payload)]) reason
  | other {v : Value} : (∀ name, v ≠ .string name) → (∀ es, v ≠ .table es) →
    FailsAsRevision v .notStringOrTable

/-- What is wrong with a value that should say a delay. -/
inductive FailsAsDelay : Value → Reason → Prop
  | negative {n : Int} : -Int.pow 2 63 ≤ n → n < 0 → FailsAsDelay (.integer n) (.negative n)
  | outside {n : Int} : n < -Int.pow 2 63 ∨ (UInt64.size : Int) ≤ n →
    FailsAsDelay (.integer n) (mismatch (.integer n) .delay)
  | other {v : Value} : (∀ n, v ≠ .integer n) → FailsAsDelay v (mismatch v .delay)

/-- What is wrong with a value that should say a message. -/
inductive FailsAsMessage : Value → Reason → Prop
  | other {v : Value} : (∀ text, v ≠ .string text) → FailsAsMessage v (mismatch v .message)

/-- The first entry of a table that fails, in the order of the bytes of their names. -/
structure FirstFailing (fails : Key × Located Value → Reason → Prop) (es : Entries)
    (e : Key × Located Value) (reason : Reason) : Prop where
  mem : e ∈ es
  complaint : fails e reason
  before : ∀ e' ∈ es, ComesBefore e'.1.name e.1.name → ∀ reason', ¬fails e' reason'

/-- What is wrong with an entry of a table that knows some keys: something about its value, or that
its key is not known. -/
inductive FailsInEntry (keys : List (String × (Value → Reason → Prop))) (scope : Scope)
    (e : Key × Located Value) : Reason → Prop
  | known {key : String × (Value → Reason → Prop)} {reason : Reason} : key ∈ keys →
    e.1.name = key.1 → key.2 e.2.value reason → FailsInEntry keys scope e reason
  | unknown : (∀ key ∈ keys, e.1.name ≠ key.1) →
    FailsInEntry keys scope e (.unknownField e.1.name scope)

/-- The keys of the section on running, with what may be wrong with their values. -/
def runKeys : List (String × (Value → Reason → Prop)) :=
  [("revision", FailsAsRevision), ("delay_ms", FailsAsDelay)]

/-- The keys of the section on the reporter. -/
def reporterKeys : List (String × (Value → Reason → Prop)) :=
  [("message", FailsAsMessage)]

/-- What is wrong with a value that should say how to run. In an array the revision comes first, then
the number of items and then the delay. -/
inductive FailsAsRun : Value → Reason → Prop
  | entry {es : Entries} {e : Key × Located Value} {reason : Reason} :
    FirstFailing (FailsInEntry runKeys .run) es e reason → FailsAsRun (.table es) reason
  | noItems : FailsAsRun (.array []) (.tooShort 0 .runSection)
  | revision {r : Located Value} {rest : List (Located Value)} {reason : Reason} :
    FailsAsRevision r.value reason → FailsAsRun (.array (r :: rest)) reason
  | oneItem {r : Located Value} {revision : Revision} : IsRevision r.value revision →
    FailsAsRun (.array [r]) (.tooShort 1 .runSection)
  | delayMs {r d : Located Value} {rest : List (Located Value)} {revision : Revision}
    {reason : Reason} : IsRevision r.value revision → FailsAsDelay d.value reason →
      FailsAsRun (.array (r :: d :: rest)) reason
  | datetime : FailsAsRun .datetime (.unknownField dateField .run)
  | other {v : Value} : (∀ es, v ≠ .table es) → (∀ items, v ≠ .array items) → v ≠ .datetime →
    FailsAsRun v (mismatch v .runSection)

/-- What is wrong with a value that should say what the reporter prints. -/
inductive FailsAsReporter : Value → Reason → Prop
  | entry {es : Entries} {e : Key × Located Value} {reason : Reason} :
    FirstFailing (FailsInEntry reporterKeys .reporter) es e reason →
      FailsAsReporter (.table es) reason
  | noItems : FailsAsReporter (.array []) (.tooShort 0 .reporterSection)
  | message {m : Located Value} {rest : List (Located Value)} {reason : Reason} :
    FailsAsMessage m.value reason → FailsAsReporter (.array (m :: rest)) reason
  | datetime : FailsAsReporter .datetime (.unknownField dateField .reporter)
  | other {v : Value} : (∀ es, v ≠ .table es) → (∀ items, v ≠ .array items) → v ≠ .datetime →
    FailsAsReporter v (mismatch v .reporterSection)

/-- The keys of the root table. -/
def rootKeys : List (String × (Value → Reason → Prop)) :=
  [("run", FailsAsRun), ("reporter", FailsAsReporter)]

end Schema

open Schema

/-! ### Fields -/

theorem checkPayload_complains_iff {v : Located Value} {reason : Reason} :
    Complains (checkPayload v) reason ↔ FailsAsPayload v.value reason := by
  obtain ⟨span, value⟩ := v
  constructor
  · intro h
    unfold checkPayload at h
    dsimp only at h
    split at h
    · exact absurd h not_complains_ok
    · exact absurd h not_complains_ok
    · next es hne =>
      obtain rfl := complains_error.mp h
      obtain ⟨e, es, rfl⟩ := List.exists_cons_of_ne_nil hne
      exact .table
    · next items hne =>
      obtain rfl := complains_error.mp h
      obtain ⟨v, vs, rfl⟩ := List.exists_cons_of_ne_nil hne
      exact .array
    all_goals
      obtain rfl := complains_error.mp h
      constructor
  · intro h
    cases h <;> exact ⟨span, rfl⟩

theorem revisionNamed_complains_iff {span : Toml.Span} {name : String} {reason : Reason} :
    Complains (revisionNamed span name) reason ↔ FailsAsName name reason := by
  constructor
  · intro h
    have hnone (r : Revision) : name ≠ r.name := by
      intro hname
      rw [revisionNamed_ok_iff.mpr hname] at h
      exact not_complains_ok h
    unfold revisionNamed at h
    split at h
    · exact absurd h not_complains_ok
    · obtain rfl := complains_error.mp h
      exact .unknown hnone
  · rintro ⟨hnone⟩
    unfold revisionNamed
    split
    · next r hname => exact absurd (Revision.eq_name_of_ofName? hname) (hnone r)
    · exact ⟨span, rfl⟩

theorem decodeRevision_complains_iff {v : Located Value} {reason : Reason} :
    Complains (decodeRevision v) reason ↔ FailsAsRevision v.value reason := by
  obtain ⟨span, value⟩ := v
  constructor
  · intro h
    unfold decodeRevision at h
    dsimp only at h
    split at h
    · exact .name (revisionNamed_complains_iff.mp h)
    · obtain rfl := complains_error.mp h
      exact .noKey
    · rcases complains_bind.mp h with hname | ⟨r, hname, h⟩
      · exact .key (revisionNamed_complains_iff.mp hname)
      · rcases complains_bind.mp h with hpayload | ⟨u, -, h⟩
        · exact .payload (revisionNamed_ok_iff.mp hname) (checkPayload_complains_iff.mp hpayload)
        · exact absurd h not_complains_ok
    · next es hnil hone =>
      -- the tables with no key and with one key were read above
      obtain rfl := complains_error.mp h
      match es with
      | [] => exact absurd rfl hnil
      | [(k, payload)] => exact absurd rfl (hone k payload)
      | e :: e' :: es => exact .severalKeys
    · next hstring _ _ htable =>
      obtain rfl := complains_error.mp h
      exact .other hstring htable
  · intro h
    cases h with
    | name hname => exact revisionNamed_complains_iff.mpr hname
    | noKey => exact ⟨span, rfl⟩
    | severalKeys => exact ⟨span, rfl⟩
    | key hname => exact complains_bind.mpr (.inl (revisionNamed_complains_iff.mpr hname))
    | payload hname hpayload =>
      refine complains_bind.mpr (.inr ⟨_, revisionNamed_ok_iff.mpr hname, ?_⟩)
      exact complains_bind.mpr (.inl (checkPayload_complains_iff.mpr hpayload))
    | other hstring htable =>
      cases value with
      | string name => exact absurd rfl (hstring name)
      | table es => exact absurd rfl (htable es)
      | _ => exact ⟨span, rfl⟩

theorem decodeDelay_complains_iff {v : Located Value} {reason : Reason} :
    Complains (decodeDelay v) reason ↔ FailsAsDelay v.value reason := by
  obtain ⟨span, value⟩ := v
  cases value with
  | integer n =>
    have hsize : (0 : Int) ≤ UInt64.size := Int.natCast_nonneg _
    constructor
    · intro h
      simp only [decodeDelay] at h
      split at h
      · exact absurd h not_complains_ok
      · split at h
        · next hnegative =>
          obtain rfl := complains_error.mp h
          exact .negative hnegative.1 hnegative.2
        · obtain rfl := complains_error.mp h
          exact .outside (by omega)
    · intro h
      simp only [decodeDelay]
      cases h with
      | negative hlow hneg =>
        rw [if_neg (by omega), if_pos ⟨hlow, hneg⟩]
        exact ⟨span, rfl⟩
      | outside hout =>
        have hlow : Int.pow 2 63 = 0x8000000000000000 := by decide
        rw [if_neg (by omega), if_neg (by omega)]
        exact ⟨span, rfl⟩
      | other hne => exact absurd rfl (hne n)
  | _ =>
    constructor
    · intro h
      obtain rfl := complains_error.mp h
      refine .other ?_
      intro _ hne
      cases hne
    · rintro ⟨⟩
      exact ⟨span, rfl⟩

theorem decodeMessage_complains_iff {v : Located Value} {reason : Reason} :
    Complains (decodeMessage v) reason ↔ FailsAsMessage v.value reason := by
  obtain ⟨span, value⟩ := v
  cases value with
  | string text =>
    refine iff_of_false not_complains_ok ?_
    rintro ⟨hne⟩
    exact hne text rfl
  | _ =>
    constructor
    · intro h
      obtain rfl := complains_error.mp h
      refine .other ?_
      intro _ hne
      cases hne
    · rintro ⟨⟩
      exact ⟨span, rfl⟩

/-! ### Tables -/

section Tables

variable {σ : Type} {field : σ → Key × Located Value → Except Rejection σ}
  {fails : Key × Located Value → Reason → Prop} {es : Entries} {reason : Reason}

/-- The entries of a table are visited in the order of their names, and no name comes twice. -/
theorem pairwise_visitOrder (h : (names es).Nodup) :
    (visitOrder es).Pairwise fun e e' => e.1.name < e'.1.name := by
  have hperm : (visitOrder es).Perm es := List.mergeSort_perm ..
  have hnodup : (names (visitOrder es)).Nodup := (Toml.names_perm hperm).nodup_iff.mpr h
  have hsorted : (visitOrder es).Pairwise fun e e' => decide (e.1.name ≤ e'.1.name) = true := by
    refine List.pairwise_mergeSort (fun a b c hab hbc => ?_) (fun a b => ?_) es
    · exact decide_eq_true (String.le_trans (of_decide_eq_true hab) (of_decide_eq_true hbc))
    · rw [Bool.or_eq_true, decide_eq_true_iff, decide_eq_true_iff]
      exact String.le_total _ _
  refine (hsorted.and (List.pairwise_map.mp hnodup)).imp ?_
  rintro e e' ⟨hle, hne⟩
  by_contra hlt
  exact hne (String.le_antisymm (of_decide_eq_true hle) hlt)

/-- Reading entries one after the other ends in the complaint about the first one that fails. -/
theorem foldlM_complains_iff (hsorted : es.Pairwise fun e e' => e.1.name < e'.1.name)
    (hfield : ∀ s, ∀ e ∈ es, ∀ reason, Complains (field s e) reason ↔ fails e reason) (s : σ) :
    Complains (es.foldlM field s) reason ↔ ∃ e, FirstFailing fails es e reason := by
  -- by induction on what is still to be read, with whatever was read so far
  induction es generalizing s with
  | nil =>
    refine iff_of_false not_complains_ok ?_
    rintro ⟨e, hfirst⟩
    exact absurd hfirst.mem List.not_mem_nil
  | cons e es ih =>
    obtain ⟨hfirst, hrest⟩ := List.pairwise_cons.mp hsorted
    have hhead (reason : Reason) : Complains (field s e) reason ↔ fails e reason :=
      hfield s e List.mem_cons_self reason
    have htail (s : σ) := ih hrest (fun s e' he' => hfield s e' (List.mem_cons_of_mem e he')) s
    rw [List.foldlM_cons, complains_bind, hhead]
    constructor
    · rintro (hfails | ⟨s', hok, hfails⟩)
      · -- nothing comes before the entry that is read first
        refine ⟨e, List.mem_cons_self, hfails, fun e' he' hbefore => ?_⟩
        rw [comesBefore_iff] at hbefore
        rcases List.mem_cons.mp he' with rfl | he'
        · exact absurd hbefore (String.lt_irrefl _)
        · exact absurd (String.lt_trans hbefore (hfirst e' he')) (String.lt_irrefl _)
      · obtain ⟨e', hmem, hcomplaint, hbefore⟩ := (htail s').mp hfails
        refine ⟨e', List.mem_cons_of_mem e hmem, hcomplaint, fun e'' he'' hlt reason' => ?_⟩
        rcases List.mem_cons.mp he'' with rfl | he''
        · rw [← hhead, hok]
          exact not_complains_ok
        · exact hbefore e'' he'' hlt reason'
    · rintro ⟨e', hmem, hcomplaint, hbefore⟩
      rcases List.mem_cons.mp hmem with rfl | hmem
      · exact .inl hcomplaint
      · -- the first one that fails comes later, so this one is read
        have hnone (reason' : Reason) : ¬Complains (field s e) reason' := by
          rw [hhead]
          exact hbefore e List.mem_cons_self (comesBefore_iff.mpr (hfirst e' hmem)) reason'
        obtain ⟨s', hok⟩ := ok_of_not_complains hnone
        refine .inr ⟨s', hok, (htail s').mpr ⟨e', hmem, hcomplaint, fun e'' he'' => ?_⟩⟩
        exact hbefore e'' (List.mem_cons_of_mem e he'')

/-- Reading a table ends in the complaint about its first entry that fails. -/
theorem decodeFields_complains_iff (h : (Value.table es).Tidy)
    (hfield : ∀ s e, e.2.value.Tidy → ∀ reason, Complains (field s e) reason ↔ fails e reason)
    (start : σ) :
    Complains (decodeFields field start es) reason ↔ ∃ e, FirstFailing fails es e reason := by
  have hperm : (visitOrder es).Perm es := List.mergeSort_perm ..
  have hvisited (s : σ) (e : Key × Located Value) (he : e ∈ visitOrder es) :=
    hfield s e (h.entry (hperm.mem_iff.mp he))
  rw [decodeFields, foldlM_complains_iff (pairwise_visitOrder h.names_nodup) hvisited]
  refine exists_congr fun e => ⟨fun hfirst => ?_, fun hfirst => ?_⟩
  · exact ⟨hperm.mem_iff.mp hfirst.mem, hfirst.complaint,
      fun e' he' => hfirst.before e' (hperm.mem_iff.mpr he')⟩
  · exact ⟨hperm.mem_iff.mpr hfirst.mem, hfirst.complaint,
      fun e' he' => hfirst.before e' (hperm.mem_iff.mp he')⟩

end Tables

/-! ### Sections and documents -/

section Sections

variable {keys : List (String × (Value → Reason → Prop))} {scope : Scope}
  {e : Key × Located Value} {reason : Reason}

/-- Under a known key the value fails, as that key has it. -/
theorem failsInEntry_known_iff (hkeys : (keys.map Prod.fst).Nodup)
    {key : String × (Value → Reason → Prop)} (hkey : key ∈ keys) (hname : e.1.name = key.1) :
    FailsInEntry keys scope e reason ↔ key.2 e.2.value reason := by
  constructor
  · rintro (⟨hkey', hname', hfails⟩ | hunknown)
    · rwa [List.inj_on_of_nodup_map hkeys hkey hkey' (hname.symm.trans hname')]
    · exact absurd hname (hunknown key hkey)
  · exact .known hkey hname

/-- Another key fails because it is not known. -/
theorem failsInEntry_unknown_iff (hunknown : ∀ key ∈ keys, e.1.name ≠ key.1) :
    FailsInEntry keys scope e reason ↔ reason = .unknownField e.1.name scope := by
  constructor
  · rintro (⟨hkey, hname, -⟩ | -)
    · exact absurd hname (hunknown _ hkey)
    · rfl
  · rintro rfl
    exact .unknown hunknown

theorem runField_complains_iff (s : RunSection) (e : Key × Located Value) :
    Complains (runField s e) reason ↔ FailsInEntry runKeys .run e reason := by
  have hkeys : (runKeys.map Prod.fst).Nodup := by decide
  have hfirst : ("revision", FailsAsRevision) ∈ runKeys := List.mem_cons_self
  have hsecond : ("delay_ms", FailsAsDelay) ∈ runKeys := List.mem_cons_of_mem _ List.mem_cons_self
  obtain ⟨k, v⟩ := e
  by_cases hrevision : k.name = "revision"
  · rw [runField, if_pos hrevision, complains_return, decodeRevision_complains_iff,
      failsInEntry_known_iff hkeys hfirst hrevision]
  by_cases hdelay : k.name = "delay_ms"
  · rw [runField, if_neg hrevision, if_pos hdelay, complains_return, decodeDelay_complains_iff,
      failsInEntry_known_iff hkeys hsecond hdelay]
  · have hunknown : ∀ key ∈ runKeys, k.name ≠ key.1 :=
      List.forall_mem_cons.mpr ⟨hrevision, List.forall_mem_singleton.mpr hdelay⟩
    rw [runField, if_neg hrevision, if_neg hdelay, complains_error,
      failsInEntry_unknown_iff hunknown]

theorem reporterField_complains_iff (s : ReporterSection) (e : Key × Located Value) :
    Complains (reporterField s e) reason ↔ FailsInEntry reporterKeys .reporter e reason := by
  have hkeys : (reporterKeys.map Prod.fst).Nodup := by decide
  have honly : ("message", FailsAsMessage) ∈ reporterKeys := List.mem_cons_self
  obtain ⟨k, v⟩ := e
  by_cases hmessage : k.name = "message"
  · rw [reporterField, if_pos hmessage, complains_return, decodeMessage_complains_iff,
      failsInEntry_known_iff hkeys honly hmessage]
  · have hunknown : ∀ key ∈ reporterKeys, k.name ≠ key.1 := List.forall_mem_singleton.mpr hmessage
    rw [reporterField, if_neg hmessage, complains_error, failsInEntry_unknown_iff hunknown]

theorem decodeRun_complains_iff {v : Located Value} (h : v.value.Tidy) :
    Complains (decodeRun v) reason ↔ FailsAsRun v.value reason := by
  obtain ⟨span, value⟩ := v
  have htable {es : Entries} (hes : (Value.table es).Tidy) :
      Complains (decodeFields runField {} es) reason ↔
        ∃ e, FirstFailing (FailsInEntry runKeys .run) es e reason :=
    decodeFields_complains_iff hes (fun s e _ _ => runField_complains_iff s e) {}
  constructor
  · intro hfails
    unfold decodeRun at hfails
    split at hfails
    · next es hvalue =>
      obtain rfl : value = .table es := hvalue
      obtain ⟨e, hfirst⟩ := (htable h).mp hfails
      exact .entry hfirst
    · next r d rest hvalue =>
      rw [hvalue]
      rcases complains_bind.mp hfails with hr | ⟨revision, hr, hd⟩
      · exact .revision (decodeRevision_complains_iff.mp hr)
      · exact .delayMs (decodeRevision_ok_iff.mp hr)
          (decodeDelay_complains_iff.mp (complains_return.mp hd))
    · next r hvalue =>
      rw [hvalue]
      rcases complains_bind.mp hfails with hr | ⟨revision, hr, hshort⟩
      · exact .revision (decodeRevision_complains_iff.mp hr)
      · obtain rfl := complains_error.mp hshort
        exact .oneItem (decodeRevision_ok_iff.mp hr)
    · next hvalue =>
      obtain rfl := complains_error.mp hfails
      rw [hvalue]
      exact .noItems
    · next hvalue =>
      obtain rfl := complains_error.mp hfails
      rw [hvalue]
      exact .datetime
    · next htable' hmany hone hnone hdatetime =>
      obtain rfl := complains_error.mp hfails
      refine .other htable' (fun items hitems => ?_) hdatetime
      match items with
      | [] => exact hnone hitems
      | [r] => exact hone r hitems
      | r :: d :: rest => exact hmany r d rest hitems
  · intro hfails
    cases hfails with
    | entry hfirst => exact (htable h).mpr ⟨_, hfirst⟩
    | noItems => exact ⟨span, rfl⟩
    | @revision r rest _ hr =>
      cases rest <;> exact complains_bind.mpr (.inl (decodeRevision_complains_iff.mpr hr))
    | oneItem hr =>
      exact complains_bind.mpr (.inr ⟨_, decodeRevision_ok_iff.mpr hr, span, rfl⟩)
    | delayMs hr hd =>
      refine complains_bind.mpr (.inr ⟨_, decodeRevision_ok_iff.mpr hr, ?_⟩)
      exact complains_return.mpr (decodeDelay_complains_iff.mpr hd)
    | datetime => exact ⟨span, rfl⟩
    | other hne hitems hdatetime =>
      cases value with
      | table es => exact absurd rfl (hne es)
      | array items => exact absurd rfl (hitems items)
      | datetime => exact absurd rfl hdatetime
      | _ => exact ⟨span, rfl⟩

theorem decodeReporter_complains_iff {v : Located Value} (h : v.value.Tidy) :
    Complains (decodeReporter v) reason ↔ FailsAsReporter v.value reason := by
  obtain ⟨span, value⟩ := v
  have htable {es : Entries} (hes : (Value.table es).Tidy) :
      Complains (decodeFields reporterField {} es) reason ↔
        ∃ e, FirstFailing (FailsInEntry reporterKeys .reporter) es e reason :=
    decodeFields_complains_iff hes (fun s e _ _ => reporterField_complains_iff s e) {}
  constructor
  · intro hfails
    unfold decodeReporter at hfails
    split at hfails
    · next es hvalue =>
      obtain rfl : value = .table es := hvalue
      obtain ⟨e, hfirst⟩ := (htable h).mp hfails
      exact .entry hfirst
    · next m rest hvalue =>
      rw [hvalue]
      exact .message (decodeMessage_complains_iff.mp (complains_return.mp hfails))
    · next hvalue =>
      obtain rfl := complains_error.mp hfails
      rw [hvalue]
      exact .noItems
    · next hvalue =>
      obtain rfl := complains_error.mp hfails
      rw [hvalue]
      exact .datetime
    · next htable' hsome hnone hdatetime =>
      obtain rfl := complains_error.mp hfails
      refine .other htable' (fun items hitems => ?_) hdatetime
      match items with
      | [] => exact hnone hitems
      | m :: rest => exact hsome m rest hitems
  · intro hfails
    cases hfails with
    | entry hfirst => exact (htable h).mpr ⟨_, hfirst⟩
    | noItems => exact ⟨span, rfl⟩
    | message hm => exact complains_return.mpr (decodeMessage_complains_iff.mpr hm)
    | datetime => exact ⟨span, rfl⟩
    | other hne hitems hdatetime =>
      cases value with
      | table es => exact absurd rfl (hne es)
      | array items => exact absurd rfl (hitems items)
      | datetime => exact absurd rfl hdatetime
      | _ => exact ⟨span, rfl⟩

theorem rootField_complains_iff (c : Config) (e : Key × Located Value) (he : e.2.value.Tidy) :
    Complains (rootField c e) reason ↔ FailsInEntry rootKeys .root e reason := by
  have hkeys : (rootKeys.map Prod.fst).Nodup := by decide
  have hfirst : ("run", FailsAsRun) ∈ rootKeys := List.mem_cons_self
  have hsecond : ("reporter", FailsAsReporter) ∈ rootKeys := List.mem_cons_of_mem _ List.mem_cons_self
  obtain ⟨k, v⟩ := e
  by_cases hrun : k.name = "run"
  · rw [rootField, if_pos hrun, complains_return, decodeRun_complains_iff he,
      failsInEntry_known_iff hkeys hfirst hrun]
  by_cases hreporter : k.name = "reporter"
  · rw [rootField, if_neg hrun, if_pos hreporter, complains_return, decodeReporter_complains_iff he,
      failsInEntry_known_iff hkeys hsecond hreporter]
  · have hunknown : ∀ key ∈ rootKeys, k.name ≠ key.1 :=
      List.forall_mem_cons.mpr ⟨hrun, List.forall_mem_singleton.mpr hreporter⟩
    rw [rootField, if_neg hrun, if_neg hreporter, complains_error,
      failsInEntry_unknown_iff hunknown]

/-- **The complaint about a document**: reading a document ends in a complaint exactly if some key
of its root table fails, and then in that about the first of them, with everything below a key read
at the place of the key. -/
theorem ofDocument_complains_iff {root : Entries} (h : (Value.table root).Tidy) :
    Complains (Config.ofDocument root) reason ↔
      ∃ e, FirstFailing (FailsInEntry rootKeys .root) root e reason :=
  decodeFields_complains_iff h (fun c e he _ => rootField_complains_iff c e he) {}

end Sections

end TraceTarget
