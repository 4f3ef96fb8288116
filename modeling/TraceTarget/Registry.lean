/-!
# Registries

A registry keeps one value under each of its keys. Putting a value under a key that is there already
replaces the old value and keeps its place.

The lemmas say what each operation does to the view `get?`: putting or erasing changes the reading
of its own key and of no other.
-/

namespace TraceTarget

/-- Values under keys, each key at most once. -/
structure Registry (κ α : Type) where
  entries : List (κ × α) := []
  deriving Repr

namespace Registry

variable {κ α : Type} [DecidableEq κ]

/-- The registry without entries. -/
def empty : Registry κ α := ⟨[]⟩

instance : Inhabited (Registry κ α) := ⟨empty⟩

/-- The value under a key. -/
def get? (r : Registry κ α) (k : κ) : Option α :=
  r.entries.lookup k

/-- A list of entries with a value put under a key. -/
def putEntry (k : κ) (v : α) : List (κ × α) → List (κ × α)
  | [] => [(k, v)]
  | (k', v') :: es => if k' = k then (k, v) :: es else (k', v') :: putEntry k v es

/-- The registry with a value put under a key. -/
def put (r : Registry κ α) (k : κ) (v : α) : Registry κ α :=
  ⟨putEntry k v r.entries⟩

/-- The registry without a key. -/
def erase (r : Registry κ α) (k : κ) : Registry κ α :=
  ⟨r.entries.filter fun e => e.1 ≠ k⟩

/-! ### The view of each operation -/

@[simp] theorem get?_empty (k : κ) : (empty : Registry κ α).get? k = none := rfl

@[simp] theorem get?_put_self (r : Registry κ α) (k : κ) (v : α) : (r.put k v).get? k = some v := by
  obtain ⟨es⟩ := r
  show List.lookup k (putEntry k v es) = some v
  induction es with
  | nil => exact List.lookup_cons_self
  | cons e es ih =>
    obtain ⟨k', v'⟩ := e
    by_cases h : k' = k
    · simp [putEntry, h]
    · have hne : (k == k') = false := by simpa using fun he => h he.symm
      simp [putEntry, h, List.lookup_cons, hne, ih]

theorem get?_put_other (r : Registry κ α) {k k' : κ} (v : α) (h : k' ≠ k) :
    (r.put k v).get? k' = r.get? k' := by
  obtain ⟨es⟩ := r
  show List.lookup k' (putEntry k v es) = List.lookup k' es
  induction es with
  | nil =>
    have hne : (k' == k) = false := by simpa using h
    simp [putEntry, List.lookup_cons, hne]
  | cons e es ih =>
    obtain ⟨k'', v''⟩ := e
    by_cases h' : k'' = k
    · have hne : (k' == k) = false := by simpa using h
      simp [putEntry, h', List.lookup_cons, hne]
    · simp only [putEntry, h', if_false, List.lookup_cons, ih]

theorem get?_put (r : Registry κ α) (k k' : κ) (v : α) :
    (r.put k v).get? k' = if k' = k then some v else r.get? k' := by
  split
  · next h => rw [h, get?_put_self]
  · next h => rw [get?_put_other r v h]

/-- A value that is there after putting is the one that was put, or was there before. -/
theorem get?_put_eq_some {r : Registry κ α} {k k' : κ} {v x : α}
    (h : (r.put k v).get? k' = some x) : k' = k ∧ x = v ∨ k' ≠ k ∧ r.get? k' = some x := by
  rw [get?_put] at h
  split at h
  · next hk => exact .inl ⟨hk, (Option.some.inj h).symm⟩
  · next hk => exact .inr ⟨hk, h⟩

@[simp] theorem get?_erase_self (r : Registry κ α) (k : κ) : (r.erase k).get? k = none := by
  obtain ⟨es⟩ := r
  show List.lookup k (es.filter fun e => e.1 ≠ k) = none
  rw [List.lookup_eq_none_iff]
  intro e he
  obtain ⟨-, hne⟩ := List.mem_filter.mp he
  exact bne_iff_ne.mpr (Ne.symm (of_decide_eq_true hne))

theorem get?_erase_other (r : Registry κ α) {k k' : κ} (h : k' ≠ k) :
    (r.erase k).get? k' = r.get? k' := by
  obtain ⟨es⟩ := r
  show List.lookup k' (es.filter fun e => e.1 ≠ k) = List.lookup k' es
  induction es with
  | nil => rfl
  | cons e es ih =>
    obtain ⟨k'', v⟩ := e
    by_cases hk : k'' = k
    · have hne : (k' == k'') = false := beq_false_of_ne fun he => h (he.trans hk)
      rw [List.filter_cons_of_neg (by simpa using hk), List.lookup_cons, hne]
      exact ih
    · rw [List.filter_cons_of_pos (by simpa using hk), List.lookup_cons, List.lookup_cons, ih]

theorem get?_erase (r : Registry κ α) (k k' : κ) :
    (r.erase k).get? k' = if k' = k then none else r.get? k' := by
  split
  · next h => rw [h, get?_erase_self]
  · next h => rw [get?_erase_other r h]

end Registry

end TraceTarget
