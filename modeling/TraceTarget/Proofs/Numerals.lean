import Mathlib.Data.Nat.Digits.Lemmas
import TraceTarget.Text.Numeral

/-!
# Canonical numerals

A number has one numeral in each base: digits whose letters are in lower case, of which the first
is no zero unless it stands alone. Whoever reads a numeral strictly accepts no other text for the
number.

- `IsNumeral`: what a numeral is, said of its digits and of their value alone.
- `numeral?`: the strict reader.
- `toDigits_eq`: how a number is written, as the library's digits of it.
- `isNumeral_decimal_iff`, `isNumeral_hexadecimal_iff`: what is written for a number is its numeral,
  and it has no other one.
- `numeral?_eq_some_iff`: numerals are read back, and nothing else is.
-/

namespace TraceTarget.Text

/-- The numeral of a number in a base of at most sixteen. -/
structure IsNumeral (base : Nat) (cs : List Char) (n : Nat) : Prop where
  ne_nil : cs ≠ []
  /-- No zero comes first unless it is alone. -/
  leading : cs.head? = some '0' → cs = ['0']
  /-- The digits, the first one counting most; their letters are in lower case. -/
  digits : ∃ vs : List Nat, (∀ v ∈ vs, v < base) ∧ vs.map Nat.digitChar = cs ∧
    Nat.ofDigits base vs.reverse = n

/-- The value of a digit. A letter in upper case is none. -/
def digit? (base : Nat) (c : Char) : Option Nat :=
  (List.range base).find? (Nat.digitChar · = c)

/-- The number that a text is the numeral of. -/
def numeral? (base : Nat) (cs : List Char) : Option Nat :=
  if cs = [] ∨ cs.head? = some '0' ∧ cs ≠ ['0'] then none
  else (cs.mapM (digit? base)).map fun vs => Nat.ofDigits base vs.reverse

variable {base n : Nat}

/-! ### How numbers are written -/

/-- What is written for a number that is not zero is its digits, the last one of the list first. -/
theorem toDigits_eq (hbase : 1 < base) (hn : n ≠ 0) :
    Nat.toDigits base n = (Nat.digits base n).reverse.map Nat.digitChar := by
  induction n using Nat.strongRecOn with
  | ind n ih =>
    rw [Nat.digits_def' hbase (Nat.pos_of_ne_zero hn), List.reverse_cons, List.map_append,
      List.map_singleton]
    by_cases hlt : n < base
    · rw [Nat.toDigits_of_lt_base hlt, Nat.div_eq_of_lt hlt, Nat.mod_eq_of_lt hlt, Nat.digits_zero]
      rfl
    · have hge : base ≤ n := Nat.le_of_not_lt hlt
      have hsmaller : n / base < n := Nat.div_lt_self (Nat.pos_of_ne_zero hn) hbase
      have hpos : n / base ≠ 0 := (Nat.div_pos hge (Nat.zero_lt_of_lt hbase)).ne'
      rw [Nat.toDigits_of_base_le hbase hge, ih (n / base) hsmaller hpos]

/-- The written form of a number begins with a zero only if it is zero. -/
theorem head?_toDigits (hbase : 1 < base) (hn : n ≠ 0) :
    (Nat.toDigits base n).head? ≠ some '0' := by
  have hdigits : Nat.digits base n ≠ [] := Nat.digits_ne_nil_iff_ne_zero.mpr hn
  rw [toDigits_eq hbase hn, List.head?_map, List.head?_reverse,
    List.getLast?_eq_some_getLast hdigits, Option.map_some]
  intro h
  exact Nat.getLast_digit_ne_zero base hn (Nat.digitChar_eq_zero.mp (Option.some.inj h))

/-- What is written for a number is its numeral. -/
theorem isNumeral_toDigits (hbase : 1 < base) : IsNumeral base (Nat.toDigits base n) n := by
  by_cases hn : n = 0
  · subst hn
    rw [Nat.toDigits_zero]
    have hzero : ∀ v ∈ [0], v < base := List.forall_mem_singleton.mpr (Nat.zero_lt_of_lt hbase)
    exact ⟨List.cons_ne_nil _ _, fun _ => rfl, [0], hzero, rfl, by simp⟩
  · refine ⟨Nat.toDigits_ne_nil, fun h => absurd h (head?_toDigits hbase hn), ?_⟩
    refine ⟨(Nat.digits base n).reverse, ?_, (toDigits_eq hbase hn).symm, ?_⟩
    · intro v hv
      exact Nat.digits_lt_base hbase (List.mem_reverse.mp hv)
    · rw [List.reverse_reverse, Nat.ofDigits_digits]

/-- A number has no other numeral. -/
theorem IsNumeral.eq_toDigits {cs : List Char} (h : IsNumeral base cs n) (hbase : 1 < base) :
    cs = Nat.toDigits base n := by
  obtain ⟨vs, hvs, rfl, hvalue⟩ := h.digits
  by_cases hzero : (vs.map Nat.digitChar).head? = some '0'
  · have hsingle := h.leading hzero
    obtain ⟨v, rfl, hv⟩ := List.map_eq_singleton_iff.mp hsingle
    obtain rfl := Nat.digitChar_eq_zero.mp hv
    have hn : n = 0 := by rw [← hvalue]; simp
    rw [hn, Nat.toDigits_zero]
    rfl
  · -- the first digit is none, so the digits are all there are of the number
    have hne : vs ≠ [] := fun hnil => h.ne_nil (congrArg (List.map _) hnil)
    have hlast (hrev : vs.reverse ≠ []) : vs.reverse.getLast hrev ≠ 0 := by
      intro hlast
      refine hzero ?_
      rw [List.getLast_reverse] at hlast
      rw [List.head?_map, List.head?_eq_some_head hne, hlast]
      rfl
    have hdigits : Nat.digits base n = vs.reverse := by
      rw [← hvalue]
      exact Nat.digits_ofDigits base hbase _ (fun v hv => hvs v (List.mem_reverse.mp hv)) hlast
    have hn : n ≠ 0 := by
      rintro rfl
      rw [Nat.digits_zero] at hdigits
      exact hne (List.reverse_eq_nil_iff.mp hdigits.symm)
    rw [toDigits_eq hbase hn, hdigits, List.reverse_reverse]

/-- The numeral of a number is what is written for it. -/
theorem isNumeral_iff (hbase : 1 < base) {cs : List Char} :
    IsNumeral base cs n ↔ cs = Nat.toDigits base n := by
  constructor
  · intro h
    exact h.eq_toDigits hbase
  · rintro rfl
    exact isNumeral_toDigits hbase

/-- The decimal numeral of a number is what is written for it. -/
theorem isNumeral_decimal_iff {cs : List Char} : IsNumeral 10 cs n ↔ cs = (decimal n).toList := by
  rw [decimal, String.toList_ofList]
  exact isNumeral_iff (by decide)

/-- So is the hexadecimal one. -/
theorem isNumeral_hexadecimal_iff {cs : List Char} :
    IsNumeral 16 cs n ↔ cs = (hexadecimal n).toList := by
  rw [hexadecimal, String.toList_ofList]
  exact isNumeral_iff (by decide)

/-! ### Reading -/

theorem digit?_eq_some_iff (hbase : base ≤ 16) {c : Char} {v : Nat} :
    digit? base c = some v ↔ v < base ∧ Nat.digitChar v = c := by
  have hinj : ∀ v < 16, ∀ w < 16, Nat.digitChar v = Nat.digitChar w → v = w := by decide
  have hfound {c : Char} {v : Nat} (h : digit? base c = some v) :
      v < base ∧ Nat.digitChar v = c := by
    have hdigit := List.find?_some h
    exact ⟨List.mem_range.mp (List.mem_of_find?_eq_some h), of_decide_eq_true hdigit⟩
  constructor
  · exact hfound
  · rintro ⟨hv, rfl⟩
    -- some digit is found, and there is only one
    cases hfind : digit? base (Nat.digitChar v) with
    | none =>
      have hnone := List.find?_eq_none.mp hfind v (List.mem_range.mpr hv)
      exact absurd (decide_eq_true rfl) hnone
    | some w =>
      obtain ⟨hw, hsame⟩ := hfound hfind
      rw [hinj w (by omega) v (by omega) hsame]

/-- Reading item by item undoes writing item by item, if that is so of each item. -/
theorem mapM_eq_some_iff {α β : Type} {read : α → Option β} {write : β → α} {P : β → Prop}
    (hread : ∀ {a b}, read a = some b ↔ P b ∧ write b = a) {as : List α} {bs : List β} :
    as.mapM read = some bs ↔ (∀ b ∈ bs, P b) ∧ bs.map write = as := by
  induction as generalizing bs with
  | nil =>
    rw [List.mapM_nil, List.map_eq_nil_iff]
    constructor
    · rintro ⟨⟩
      exact ⟨List.forall_mem_nil _, rfl⟩
    · rintro ⟨-, rfl⟩
      rfl
  | cons a as ih =>
    simp only [List.mapM_cons, Option.bind_eq_bind, Option.bind_eq_some_iff, hread, ih]
    constructor
    · rintro ⟨b, ⟨hb, rfl⟩, bs', ⟨hbs, rfl⟩, ⟨⟩⟩
      exact ⟨List.forall_mem_cons.mpr ⟨hb, hbs⟩, rfl⟩
    · rintro ⟨hbs, has⟩
      obtain ⟨b, bs', rfl, ha, has⟩ := List.map_eq_cons_iff.mp has
      obtain ⟨hb, hbs⟩ := List.forall_mem_cons.mp hbs
      exact ⟨b, ⟨hb, ha⟩, bs', ⟨hbs, has⟩, rfl⟩

/-- A strict reader reads the numeral of a number, and nothing else, as the number. -/
theorem numeral?_eq_some_iff (hbase : base ≤ 16) {cs : List Char} :
    numeral? base cs = some n ↔ IsNumeral base cs n := by
  unfold numeral?
  split
  · next hbad =>
    refine iff_of_false nofun fun h => ?_
    rcases hbad with hnil | ⟨hzero, hmore⟩
    · exact h.ne_nil hnil
    · exact hmore (h.leading hzero)
  · next hgood =>
    rw [not_or, not_and_not_right] at hgood
    simp only [Option.map_eq_some_iff, mapM_eq_some_iff (digit?_eq_some_iff hbase)]
    constructor
    · rintro ⟨vs, ⟨hvs, hcs⟩, hvalue⟩
      exact ⟨hgood.1, hgood.2, vs, hvs, hcs, hvalue⟩
    · intro h
      obtain ⟨vs, hvs, hcs, hvalue⟩ := h.digits
      exact ⟨vs, ⟨hvs, hcs⟩, hvalue⟩

end TraceTarget.Text
