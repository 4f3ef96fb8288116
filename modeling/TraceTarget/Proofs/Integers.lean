import Mathlib.Data.List.Forall2
import Mathlib.Data.Nat.Digits.Defs
import TraceTarget.Proofs.Reading

/-!
# The spellings of integers

An integer can be spelled in decimal, with a sign and without leading zeros, or in one of three
other bases after a mark, without a sign and with any number of leading zeros. Letters may have
either case, and an underscore may stand between two digits.

- `IsDigit`, `Digits`: digits with their values, and sequences of them with underscores.
- `Spells`: the words that spell an integer. Nothing bounds their length.
- `ungroup_of_digits`, `digits_of_ungroup`: reading digits, in both directions.
- `integer?_eq_some_iff`: these words are exactly what is read as integers, each as the integer that
  it spells.
- `wordValue?_of_spells`: they are no other words.
-/

namespace TraceTarget.Toml

/-! ### The grammar -/

/-- A digit of a base with its value; letters may have either case. -/
def IsDigit (base : Nat) (c : Char) (v : Nat) : Prop :=
  v < base ∧ (c = Nat.digitChar v ∨ c = hexDigit v)

/-- Digits with single underscores between them, and the values of the digits. -/
inductive Digits (base : Nat) : List Char → List Nat → Prop
  | last {c : Char} {v : Nat} : IsDigit base c v → Digits base [c] [v]
  | next {c : Char} {v : Nat} {cs : List Char} {vs : List Nat} : IsDigit base c v →
    Digits base cs vs → Digits base (c :: cs) (v :: vs)
  | grouped {c : Char} {v : Nat} {cs : List Char} {vs : List Nat} : IsDigit base c v →
    Digits base cs vs → Digits base (c :: '_' :: cs) (v :: vs)

/-- The number that digits stand for, the first one counting most. -/
def numberOf (base : Nat) (vs : List Nat) : Nat :=
  Nat.ofDigits base vs.reverse

/-- A decimal number without a sign. No zero comes first unless it is alone. -/
def SpellsDecimal (cs : List Char) (n : Nat) : Prop :=
  ∃ vs, Digits 10 cs vs ∧ (vs.head? = some 0 → vs.length = 1) ∧ numberOf 10 vs = n

/-- The words that spell an integer. -/
inductive Spells : List Char → Int → Prop
  | decimal {cs : List Char} {n : Nat} : SpellsDecimal cs n → Spells cs n
  | plus {cs : List Char} {n : Nat} : SpellsDecimal cs n → Spells ('+' :: cs) n
  | minus {cs : List Char} {n : Nat} : SpellsDecimal cs n → Spells ('-' :: cs) (-n)
  | hexadecimal {cs : List Char} {vs : List Nat} : Digits 16 cs vs →
    Spells ('0' :: 'x' :: cs) (numberOf 16 vs)
  | octal {cs : List Char} {vs : List Nat} : Digits 8 cs vs →
    Spells ('0' :: 'o' :: cs) (numberOf 8 vs)
  | binary {cs : List Char} {vs : List Nat} : Digits 2 cs vs →
    Spells ('0' :: 'b' :: cs) (numberOf 2 vs)

/-! ### Digits -/

section Digit

variable {base : Nat} {c : Char} {v : Nat}

/-- What holds of the digits of both cases holds of every digit. -/
theorem IsDigit.of_forall {P : Char → Prop} (h : IsDigit base c v)
    (hP : ∀ v < base, P (Nat.digitChar v) ∧ P (hexDigit v)) : P c := by
  obtain ⟨hv, rfl | rfl⟩ := h
  · exact (hP v hv).1
  · exact (hP v hv).2

theorem IsDigit.mono {base' : Nat} (h : IsDigit base c v) (hle : base ≤ base') :
    IsDigit base' c v :=
  ⟨Nat.lt_of_lt_of_le h.1 hle, h.2⟩

/-- The reader of hexadecimal digits reads the digits of every base. -/
theorem IsDigit.hexValue? (h : IsDigit base c v) (hbase : base ≤ 16) :
    Text.hexValue? c = some v := by
  have hlower : ∀ {v}, v < 16 → Text.hexValue? (Nat.digitChar v) = some v := by decide
  obtain ⟨hv, rfl | rfl⟩ := h.mono hbase
  · exact hlower hv
  · exact hexValue?_hexDigit hv

theorem isDigit_of_hexValue? (h : Text.hexValue? c = some v) : IsDigit 16 c v := by
  have hlower : ∀ {v}, v < 16 → 10 ≤ v → (Nat.digitChar v).toNat = 'a'.toNat + (v - 10) := by decide
  have hupper : ∀ {v}, v < 16 → 10 ≤ v → (hexDigit v).toNat = 'A'.toNat + (v - 10) := by decide
  unfold Text.hexValue? at h
  split at h
  · next hc =>
    cases h
    have hlow : 48 ≤ c.toNat := hc.1
    have hhigh : c.toNat ≤ 57 := hc.2
    have hzero : '0'.toNat = 48 := rfl
    refine ⟨by omega, .inl (Char.toNat_inj.mp ?_)⟩
    rw [Nat.toNat_digitChar_of_lt_ten (by omega)]
    omega
  split at h
  · next hc =>
    cases h
    have hlow : 97 ≤ c.toNat := hc.1
    have hhigh : c.toNat ≤ 102 := hc.2
    have ha : 'a'.toNat = 97 := rfl
    refine ⟨by omega, .inl (Char.toNat_inj.mp ?_)⟩
    rw [hlower (by omega) (by omega)]
    omega
  split at h
  · next hc =>
    cases h
    have hlow : 65 ≤ c.toNat := hc.1
    have hhigh : c.toNat ≤ 70 := hc.2
    have ha : 'A'.toNat = 65 := rfl
    refine ⟨by omega, .inr (Char.toNat_inj.mp ?_)⟩
    rw [hupper (by omega) (by omega)]
    omega
  · cases h

theorem isHexDigit_iff : isHexDigit c = true ↔ ∃ v, IsDigit 16 c v := by
  rw [isHexDigit, Option.isSome_iff_exists]
  exact ⟨fun ⟨v, h⟩ => ⟨v, isDigit_of_hexValue? h⟩, fun ⟨v, h⟩ => ⟨v, h.hexValue? (Nat.le_refl _)⟩⟩

/-- Up to ten, the digits of a base are the first ones. -/
theorem isDigitOf_iff (hbase : base ≤ 10) : isDigitOf base c = true ↔ ∃ v, IsDigit base c v := by
  simp only [isDigitOf, Bool.and_eq_true, decide_eq_true_eq]
  have hzero : '0'.toNat = 48 := rfl
  constructor
  · rintro ⟨hlow, hhigh⟩
    have hlow : 48 ≤ c.toNat := hlow
    refine ⟨c.toNat - 48, by omega, .inl (Char.toNat_inj.mp ?_)⟩
    rw [Nat.toNat_digitChar_of_lt_ten (by omega)]
    omega
  · rintro ⟨v, hv, hc⟩
    have hten : v < 10 := Nat.lt_of_lt_of_le hv hbase
    have hsame : ∀ {v}, v < 10 → hexDigit v = Nat.digitChar v := by decide
    have hnumber : c.toNat = 48 + v := by
      rw [hsame hten, or_self] at hc
      rw [hc, Nat.toNat_digitChar_of_lt_ten hten]
    have hlow : 48 ≤ c.toNat := by omega
    exact ⟨hlow, by omega⟩

end Digit

/-- What holds of all digits and of the underscore holds of all characters of a sequence of digits. -/
theorem Digits.of_forall {base : Nat} {cs : List Char} {vs : List Nat} {P : Char → Prop}
    (h : Digits base cs vs) (hP : ∀ v < base, P (Nat.digitChar v) ∧ P (hexDigit v))
    (hunderscore : P '_') : ∀ c ∈ cs, P c := by
  induction h with
  | last hd => exact List.forall_mem_singleton.mpr (hd.of_forall hP)
  | next hd _ ih => exact List.forall_mem_cons.mpr ⟨hd.of_forall hP, ih⟩
  | grouped hd _ ih =>
    exact List.forall_mem_cons.mpr
      ⟨hd.of_forall hP, List.forall_mem_cons.mpr ⟨hunderscore, ih⟩⟩

/-- A sequence of digits begins with a digit. -/
theorem Digits.exists_cons {base : Nat} {cs : List Char} {vs : List Nat} (h : Digits base cs vs) :
    ∃ c v rest, cs = c :: rest ∧ IsDigit base c v := by
  cases h with
  | last hd => exact ⟨_, _, _, rfl, hd⟩
  | next hd _ => exact ⟨_, _, _, rfl, hd⟩
  | grouped hd _ => exact ⟨_, _, _, rfl, hd⟩

/-! ### Reading digits -/

section Reading

variable {base : Nat} {isDigit : Char → Bool} {cs ds : List Char} {vs : List Nat}

/-- What a reader computes of digits is the number that they stand for. -/
theorem ofDigits_eq (hbase : base ≤ 16) (h : List.Forall₂ (IsDigit base) ds vs) :
    ofDigits base ds = numberOf base vs := by
  have hfold (n : Nat) : ds.foldl (fun n d => n * base + (Text.hexValue? d).getD 0) n =
      n * base ^ vs.length + numberOf base vs := by
    induction h generalizing n with
    | nil => simp [numberOf]
    | @cons c v ds vs hd _ ih =>
      have hnumber : numberOf base (v :: vs) = numberOf base vs + base ^ vs.length * v := by
        rw [numberOf, List.reverse_cons, Nat.ofDigits_append, List.length_reverse,
          Nat.ofDigits_singleton, numberOf]
      rw [List.foldl_cons, ih, hd.hexValue? hbase, Option.getD_some, hnumber, List.length_cons]
      ring
  rw [ofDigits, hfold, Nat.zero_mul, Nat.zero_add]

/-- Decimal digits begin with a zero exactly if their values do. -/
theorem head?_eq_zero_iff (h : List.Forall₂ (IsDigit 10) ds vs) :
    ds.head? = some '0' ↔ vs.head? = some 0 := by
  cases h with
  | nil => exact iff_of_false nofun nofun
  | @cons c v ds vs hd _ =>
    rw [List.head?_cons, List.head?_cons, Option.some.injEq, Option.some.injEq]
    constructor
    · rintro rfl
      exact (Option.some.inj (hd.hexValue? (by decide))).symm
    · rintro rfl
      exact hd.2.elim id id

variable (hdigit : ∀ c, isDigit c = true ↔ ∃ v, IsDigit base c v)

include hdigit

/-- Digits with underscores between them are read as the digits alone. -/
theorem ungroup_of_digits (hbase : base ≤ 16) (h : Digits base cs vs) :
    ∃ ds, ungroup isDigit cs = some ds ∧ List.Forall₂ (IsDigit base) ds vs := by
  induction h with
  | @last c v hd => exact ⟨[c], by rw [ungroup, if_pos ((hdigit c).mpr ⟨v, hd⟩)], .cons hd .nil⟩
  | @next c v cs vs hd hds ih =>
    obtain ⟨ds, hread, hall⟩ := ih
    obtain ⟨c', v', rest, rfl, hd'⟩ := hds.exists_cons
    have hhead : (c' :: rest).head? ≠ some '_' := by
      rintro ⟨⟩
      cases hd'.hexValue? hbase
    refine ⟨c :: ds, ?_, .cons hd hall⟩
    rw [ungroup_cons ((hdigit c).mpr ⟨v, hd⟩) (List.cons_ne_nil _ _) hhead, hread]
    rfl
  | @grouped c v cs vs hd hds ih =>
    obtain ⟨ds, hread, hall⟩ := ih
    refine ⟨c :: ds, ?_, .cons hd hall⟩
    rw [ungroup, if_pos ((hdigit c).mpr ⟨v, hd⟩), hread]
    rfl

/-- Nothing else is read as digits. -/
theorem digits_of_ungroup (h : ungroup isDigit cs = some ds) :
    ∃ vs, Digits base cs vs ∧ List.Forall₂ (IsDigit base) ds vs := by
  fun_induction ungroup isDigit cs generalizing ds with
  | case1 => cases h
  | case2 c hc =>
    cases h
    obtain ⟨v, hd⟩ := (hdigit c).mp hc
    exact ⟨[v], .last hd, .cons hd .nil⟩
  | case3 => cases h
  | case4 c rest hc ih =>
    obtain ⟨ds', hread, rfl⟩ := Option.map_eq_some_iff.mp h
    obtain ⟨v, hd⟩ := (hdigit c).mp hc
    obtain ⟨vs, hds, hall⟩ := ih hread
    exact ⟨v :: vs, .grouped hd hds, .cons hd hall⟩
  | case5 => cases h
  | case6 c rest _ _ hc ih =>
    obtain ⟨ds', hread, rfl⟩ := Option.map_eq_some_iff.mp h
    obtain ⟨v, hd⟩ := (hdigit c).mp hc
    obtain ⟨vs, hds, hall⟩ := ih hread
    exact ⟨v :: vs, .next hd hds, .cons hd hall⟩
  | case7 => cases h

/-- After the mark of a base the digits of that base are read as an integer, and nothing else is. -/
theorem marked_eq_some_iff (hbase : base ≤ 16) {n : Int} :
    marked base isDigit cs = some (.integer n) ↔
      ∃ vs, Digits base cs vs ∧ n = numberOf base vs := by
  by_cases hnil : cs = []
  · subst hnil
    exact iff_of_false nofun nofun
  · rw [marked, if_neg hnil, Option.map_eq_some_iff]
    constructor
    · rintro ⟨ds, hread, heq⟩
      cases heq
      obtain ⟨vs, hds, hall⟩ := digits_of_ungroup hdigit hread
      exact ⟨vs, hds, congrArg Nat.cast (ofDigits_eq hbase hall)⟩
    · rintro ⟨vs, hds, rfl⟩
      obtain ⟨ds, hread, hall⟩ := ungroup_of_digits hdigit hbase hds
      exact ⟨ds, hread, by rw [ofDigits_eq hbase hall]⟩

end Reading

/-! ### Reading integers -/

/-- Decimal digits without leading zeros are read as a number, and nothing else is. -/
theorem decimalDigits?_iff {cs : List Char} {n : Nat} :
    (∃ ds, decimalDigits? cs = some ds ∧ ofDigits 10 ds = n) ↔ SpellsDecimal cs n := by
  have hdigit (c : Char) : isDigitOf 10 c = true ↔ ∃ v, IsDigit 10 c v :=
    isDigitOf_iff (Nat.le_refl _)
  have hzero {ds : List Char} {vs : List Nat} (h : List.Forall₂ (IsDigit 10) ds vs) :
      (ds.length = 1 || ds.head? ≠ some '0') = true ↔ (vs.head? = some 0 → vs.length = 1) := by
    rw [← head?_eq_zero_iff h, ← h.length_eq]
    simp only [Bool.or_eq_true, decide_eq_true_eq]
    exact or_comm.trans imp_iff_not_or.symm
  simp only [decimalDigits?, Option.filter_eq_some_iff]
  constructor
  · rintro ⟨ds, ⟨hread, hplain⟩, rfl⟩
    obtain ⟨vs, hds, hall⟩ := digits_of_ungroup hdigit hread
    exact ⟨vs, hds, (hzero hall).mp hplain, (ofDigits_eq (by decide) hall).symm⟩
  · rintro ⟨vs, hds, hplain, rfl⟩
    obtain ⟨ds, hread, hall⟩ := ungroup_of_digits hdigit (by decide) hds
    exact ⟨ds, ⟨hread, (hzero hall).mpr hplain⟩, ofDigits_eq (by decide) hall⟩

theorem splitSign_cases (cs : List Char) :
    (∃ rest, cs = '+' :: rest ∧ splitSign cs = (false, rest)) ∨
      (∃ rest, cs = '-' :: rest ∧ splitSign cs = (true, rest)) ∨ splitSign cs = (false, cs) := by
  unfold splitSign
  split
  · exact .inl ⟨_, rfl, rfl⟩
  · exact .inr (.inl ⟨_, rfl, rfl⟩)
  · exact .inr (.inr rfl)

/-- A word without a mark is read as a decimal number with its sign. -/
theorem unmarked_eq_some_iff {negative : Bool} {cs : List Char} {n : Int} :
    (match decimalDigits? cs with
      | some ds =>
        let n : Int := ofDigits 10 ds
        some (Value.integer (if negative then -n else n))
      | none => if passesForInteger cs then some .numberless else none) = some (.integer n) ↔
      ∃ m : Nat, SpellsDecimal cs m ∧ n = if negative then -(m : Int) else m := by
  simp only [← decimalDigits?_iff]
  cases hread : decimalDigits? cs with
  | none =>
    refine iff_of_false ?_ nofun
    dsimp only
    split <;> nofun
  | some ds =>
    constructor
    · intro h
      cases h
      exact ⟨_, ⟨ds, rfl, rfl⟩, rfl⟩
    · rintro ⟨m, ⟨ds', hds, rfl⟩, rfl⟩
      cases hds
      rfl

/-- A decimal number without sign has no mark, and no sign either. -/
theorem SpellsDecimal.integer? {cs : List Char} {n : Nat} (h : SpellsDecimal cs n) :
    integer? cs = some (.integer n) := by
  have hread : ∃ m : Nat, SpellsDecimal cs m ∧ (n : Int) = if false then -(m : Int) else m :=
    ⟨n, h, rfl⟩
  obtain ⟨vs, hds, -⟩ := h
  have hall : ∀ c ∈ cs, c ∉ ['x', 'o', 'b', '+', '-'] := hds.of_forall (by decide) (by decide)
  have hnone {c : Char} (before : List Char) {rest : List Char} (hcs : cs = before ++ c :: rest) :
      c ∉ ['x', 'o', 'b', '+', '-'] :=
    hall c (hcs ▸ List.mem_append_right before List.mem_cons_self)
  have hsign : splitSign cs = (false, cs) := by
    rcases splitSign_cases cs with ⟨rest, rfl, -⟩ | ⟨rest, rfl, -⟩ | hsign
    · exact absurd (by decide) (hnone [] rfl)
    · exact absurd (by decide) (hnone [] rfl)
    · exact hsign
  unfold Toml.integer?
  split
  · exact absurd (by decide) (hnone ['0'] rfl)
  · exact absurd (by decide) (hnone ['0'] rfl)
  · exact absurd (by decide) (hnone ['0'] rfl)
  · rw [hsign]
    exact unmarked_eq_some_iff.mpr hread

/-- The words that spell an integer are read as that integer, and no other word is read as one. -/
theorem integer?_eq_some_iff {cs : List Char} {n : Int} :
    integer? cs = some (.integer n) ↔ Spells cs n := by
  have height (c : Char) : isDigitOf 8 c = true ↔ ∃ v, IsDigit 8 c v := isDigitOf_iff (by decide)
  have htwo (c : Char) : isDigitOf 2 c = true ↔ ∃ v, IsDigit 2 c v := isDigitOf_iff (by decide)
  constructor
  · intro h
    unfold integer? at h
    split at h
    · obtain ⟨vs, hds, rfl⟩ := (marked_eq_some_iff (fun _ => isHexDigit_iff) (by decide)).mp h
      exact .hexadecimal hds
    · obtain ⟨vs, hds, rfl⟩ := (marked_eq_some_iff height (by decide)).mp h
      exact .octal hds
    · obtain ⟨vs, hds, rfl⟩ := (marked_eq_some_iff htwo (by decide)).mp h
      exact .binary hds
    · rcases splitSign_cases cs with ⟨rest, rfl, hsign⟩ | ⟨rest, rfl, hsign⟩ | hsign
      · rw [hsign] at h
        obtain ⟨m, hm, rfl⟩ := unmarked_eq_some_iff.mp h
        exact .plus hm
      · rw [hsign] at h
        obtain ⟨m, hm, rfl⟩ := unmarked_eq_some_iff.mp h
        exact .minus hm
      · rw [hsign] at h
        obtain ⟨m, hm, rfl⟩ := unmarked_eq_some_iff.mp h
        exact .decimal hm
  · intro h
    cases h with
    | decimal h => exact h.integer?
    | plus h => exact unmarked_eq_some_iff.mpr ⟨_, h, rfl⟩
    | minus h => exact unmarked_eq_some_iff.mpr ⟨_, h, rfl⟩
    | hexadecimal h =>
      exact (marked_eq_some_iff (fun _ => isHexDigit_iff) (by decide)).mpr ⟨_, h, rfl⟩
    | octal h => exact (marked_eq_some_iff height (by decide)).mpr ⟨_, h, rfl⟩
    | binary h => exact (marked_eq_some_iff htwo (by decide)).mpr ⟨_, h, rfl⟩

/-! ### Words -/

/-- A word that spells an integer stands in a document as it is. -/
theorem Spells.inWord {cs : List Char} {n : Int} (h : Spells cs n) : ∀ c ∈ cs, InWord c := by
  have hdigits {base : Nat} {cs : List Char} {vs : List Nat} (h : Digits base cs vs)
      (hbase : base ≤ 16) : ∀ c ∈ cs, InWord c := by
    have hall : ∀ v < 16, InWord (Nat.digitChar v) ∧ InWord (hexDigit v) := by decide
    exact h.of_forall (fun v hv => hall v (Nat.lt_of_lt_of_le hv hbase)) (by decide)
  have hmarked {x : Char} {base : Nat} {cs : List Char} {vs : List Nat} (hx : InWord x)
      (h : Digits base cs vs) (hbase : base ≤ 16) : ∀ c ∈ '0' :: x :: cs, InWord c :=
    List.forall_mem_cons.mpr ⟨by decide, List.forall_mem_cons.mpr ⟨hx, hdigits h hbase⟩⟩
  cases h with
  | decimal h =>
    obtain ⟨vs, hds, -⟩ := h
    exact hdigits hds (by decide)
  | plus h =>
    obtain ⟨vs, hds, -⟩ := h
    exact List.forall_mem_cons.mpr ⟨by decide, hdigits hds (by decide)⟩
  | minus h =>
    obtain ⟨vs, hds, -⟩ := h
    exact List.forall_mem_cons.mpr ⟨by decide, hdigits hds (by decide)⟩
  | hexadecimal h => exact hmarked (by decide) h (by decide)
  | octal h => exact hmarked (by decide) h (by decide)
  | binary h => exact hmarked (by decide) h (by decide)

theorem Spells.ne_nil {cs : List Char} {n : Int} (h : Spells cs n) : cs ≠ [] := by
  rintro rfl
  cases integer?_eq_some_iff.mpr h

/-- A word that spells an integer has that value, and no other. -/
theorem wordValue?_of_spells {cs : List Char} {n : Int} (h : Spells cs n) :
    wordValue? cs = some (.integer n) := by
  have hread := integer?_eq_some_iff.mpr h
  have hne {word : List Char} (hword : integer? word = none) : cs ≠ word := by
    rintro rfl
    rw [hword] at hread
    cases hread
  rw [wordValue?, if_neg (hne (by decide)), if_neg (hne (by decide)), hread]
  rfl

end TraceTarget.Toml
