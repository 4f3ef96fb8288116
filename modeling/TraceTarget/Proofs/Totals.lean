import Mathlib.Algebra.GroupWithZero.Nat
import TraceTarget.Duration

/-!
# Durations by their length

A duration stands for a number of nanoseconds, and that number says all there is to say about it.
What is computed with durations is computed with these numbers, as long as they are not too large.

- `Duration.ext_totalNanos`: durations of the same length are the same.
- `Duration.exists_totalNanos`: every length below the bound is that of a duration.
- `Duration.total?_eq_some_iff`: the sum of a list is exact, and there is one whenever the exact sum
  is below the bound. That the lengths are added one after the other does not matter: no sum on the
  way is larger than the last one.
- `Duration.total?_eq_none_iff`: otherwise there is none.
- `Duration.total?_eq_ofParts?`, `Duration.total?_perm`, `Duration.total?_append`: nor does it matter
  when whole seconds are carried over, in which order the list is, or how it is cut in two.
- `Duration.millis_eq`: the milliseconds that a log shows.
-/

namespace TraceTarget

namespace Duration

/-- A duration is known by its length in nanoseconds. -/
theorem ext_totalNanos {a b : Duration} (h : a.totalNanos = b.totalNanos) : a = b := by
  obtain ⟨asecs, ananos, ha⟩ := a
  obtain ⟨bsecs, bnanos, hb⟩ := b
  simp only [totalNanos] at h
  -- the remainders are below one second, so the seconds agree
  have hsecs : asecs.toNat = bsecs.toNat := by omega
  have hnanos : ananos = bnanos := by omega
  obtain rfl := UInt64.toNat.inj hsecs
  subst hnanos
  rfl

/-- Different numbers of milliseconds are different durations. -/
theorem ofMillis_inj {m n : UInt64} : ofMillis m = ofMillis n ↔ m = n := by
  constructor
  · intro h
    have hnanos := congrArg totalNanos h
    rw [totalNanos_ofMillis, totalNanos_ofMillis] at hnanos
    exact UInt64.toNat.inj (by omega)
  · exact congrArg ofMillis

/-- No duration is longer than 64 bits of seconds. -/
theorem totalNanos_lt (d : Duration) : d.totalNanos < UInt64.size * 1000000000 := by
  have hsecs : d.secs.toNat < UInt64.size := d.secs.toNat_lt
  have hnanos := d.nanos_lt
  unfold totalNanos
  omega

/-- The seconds and the nanoseconds of a duration are those of its length. -/
theorem totalNanos_eq_iff {d : Duration} {n : Nat} :
    d.totalNanos = n ↔ d.secs.toNat = n / 1000000000 ∧ d.nanos = n % 1000000000 := by
  have hnanos := d.nanos_lt
  unfold totalNanos
  omega

/-- Every length below the bound is that of a duration. -/
theorem exists_totalNanos {n : Nat} (h : n < UInt64.size * 1000000000) :
    ∃ d : Duration, d.totalNanos = n := by
  refine ⟨⟨.ofNat (n / 1000000000), n % 1000000000, Nat.mod_lt _ (by decide)⟩, ?_⟩
  have hsecs : n / 1000000000 < UInt64.size := by omega
  simp only [totalNanos, UInt64.toNat_ofNat_of_lt' hsecs]
  omega

/-! ### Sums -/

/-- Seconds and nanoseconds make the duration of their length, if there is one. -/
theorem ofParts?_eq_some_iff {secs nanos : Nat} {d : Duration} :
    ofParts? secs nanos = some d ↔ d.totalNanos = secs * 1000000000 + nanos := by
  unfold ofParts?
  dsimp only
  split
  · next hlt =>
    have hlength : (Duration.mk (.ofNat (secs + nanos / 1000000000)) (nanos % 1000000000)
        (Nat.mod_lt _ (by decide))).totalNanos = secs * 1000000000 + nanos := by
      simp only [totalNanos, UInt64.toNat_ofNat_of_lt' hlt]
      omega
    rw [Option.some.injEq]
    constructor
    · rintro rfl
      exact hlength
    · intro h
      exact ext_totalNanos (hlength.trans h.symm)
  · have hlt := d.totalNanos_lt
    exact iff_of_false (Option.some_ne_none d).symm (by omega)

/-- Adding two durations adds their lengths. -/
theorem add?_eq_some_iff {a b c : Duration} :
    add? a b = some c ↔ c.totalNanos = a.totalNanos + b.totalNanos := by
  rw [add?, ofParts?_eq_some_iff]
  simp only [totalNanos]
  omega

/-- Adding a list to a duration adds all lengths. -/
theorem foldlM_add?_eq_some_iff {ds : List Duration} {a t : Duration} :
    ds.foldlM add? a = some t ↔ t.totalNanos = a.totalNanos + (ds.map totalNanos).sum := by
  induction ds generalizing a with
  | nil =>
    rw [List.map_nil, List.sum_nil, Nat.add_zero]
    constructor
    · rintro ⟨⟩
      rfl
    · intro h
      exact congrArg some (ext_totalNanos h.symm)
  | cons d ds ih =>
    rw [List.foldlM_cons, List.map_cons, List.sum_cons, Option.bind_eq_bind,
      Option.bind_eq_some_iff]
    simp only [ih, add?_eq_some_iff]
    constructor
    · rintro ⟨c, hc, ht⟩
      omega
    · intro ht
      -- what has been added so far is no longer than the whole, so there is such a duration
      have hlt := t.totalNanos_lt
      obtain ⟨c, hc⟩ := exists_totalNanos (n := a.totalNanos + d.totalNanos) (by omega)
      exact ⟨c, hc, by omega⟩

/-- The sum of a list is the duration of the sum of the lengths, if there is one. -/
theorem total?_eq_some_iff {ds : List Duration} {t : Duration} :
    total? ds = some t ↔ t.totalNanos = (ds.map totalNanos).sum := by
  rw [total?, foldlM_add?_eq_some_iff, totalNanos_zero, Nat.zero_add]

/-- A list has no sum exactly if the exact sum is out of bounds. -/
theorem total?_eq_none_iff {ds : List Duration} :
    total? ds = none ↔ UInt64.size * 1000000000 ≤ (ds.map totalNanos).sum := by
  constructor
  · intro hnone
    refine Nat.le_of_not_lt fun hlt => ?_
    obtain ⟨t, ht⟩ := exists_totalNanos hlt
    rw [total?_eq_some_iff.mpr ht] at hnone
    cases hnone
  · intro hle
    refine Option.eq_none_iff_forall_ne_some.mpr fun t ht => ?_
    have hlt := t.totalNanos_lt
    rw [total?_eq_some_iff.mp ht] at hlt
    exact absurd hle (Nat.not_le_of_lt hlt)

/-- Seconds and nanoseconds may as well be added up apart, and carried over once at the end. -/
theorem total?_eq_ofParts? (ds : List Duration) :
    total? ds = ofParts? (ds.map fun d => d.secs.toNat).sum (ds.map nanos).sum := by
  have hsum : (ds.map totalNanos).sum =
      (ds.map fun d => d.secs.toNat).sum * 1000000000 + (ds.map nanos).sum := by
    induction ds with
    | nil => rfl
    | cons d ds ih =>
      simp only [List.map_cons, List.sum_cons, ih]
      unfold totalNanos
      omega
  ext t
  rw [total?_eq_some_iff, ofParts?_eq_some_iff, hsum]

/-- The order of a list does not matter to its sum. -/
theorem total?_perm {ds es : List Duration} (h : ds.Perm es) : total? ds = total? es := by
  ext t
  rw [total?_eq_some_iff, total?_eq_some_iff, (h.map totalNanos).sum_nat]

/-- The sum of a list in two parts is the sum of the sums of the parts, if there is one. -/
theorem total?_append (ds es : List Duration) :
    total? (ds ++ es) = (total? ds).bind fun a => (total? es).bind fun b => add? a b := by
  ext t
  simp only [Option.bind_eq_some_iff, total?_eq_some_iff, add?_eq_some_iff, List.map_append,
    List.sum_append]
  constructor
  · intro ht
    -- neither part is longer than the whole
    have hlt := t.totalNanos_lt
    obtain ⟨a, ha⟩ := exists_totalNanos (n := (ds.map totalNanos).sum) (by omega)
    obtain ⟨b, hb⟩ := exists_totalNanos (n := (es.map totalNanos).sum) (by omega)
    exact ⟨a, ha, b, hb, by omega⟩
  · rintro ⟨a, ha, b, hb, ht⟩
    omega

/-! ### Milliseconds -/

/-- A log shows the whole milliseconds of a length, up to 64 bits. -/
theorem millis_eq (d : Duration) :
    d.millis = min (d.totalNanos / 1000000) (UInt64.size - 1) := by
  have hwhole : d.secs.toNat * 1000 + d.nanos / 1000000 = d.totalNanos / 1000000 := by
    unfold totalNanos
    omega
  exact congrArg (min · (UInt64.size - 1)) hwhole

end Duration

end TraceTarget
