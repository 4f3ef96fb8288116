import Mathlib.Tactic.SplitIfs
import TraceTarget.Text.Utf8

/-!
# The order of texts is the order of their bytes

Two texts compare by their first characters that differ, and so do their UTF-8 forms: those of two
characters differ before either of them ends, and where they differ first, the smaller character has
the smaller byte.

- `Before`: bytes that come before others whatever follows each of them.
- `encodeChar_before`: so do the UTF-8 forms of two characters.
- `encode_lt_iff`: texts compare like their UTF-8 forms.
-/

namespace TraceTarget.Text

/-- Bytes that come before others, whatever follows each of them. -/
def Before (bs cs : Bytes) : Prop :=
  ∀ x y : Bytes, bs ++ x < cs ++ y

/-- Where the first bytes differ, they decide; otherwise the rest does. -/
theorem before_cons {m n : Nat} {bs cs : Bytes} (hm : m < 256) (hn : n < 256) (hle : m ≤ n)
    (hrest : m = n → Before bs cs) : Before (.ofNat m :: bs) (.ofNat n :: cs) := by
  intro x y
  show UInt8.ofNat m :: (bs ++ x) < UInt8.ofNat n :: (cs ++ y)
  rw [List.cons_lt_cons_iff]
  rcases Nat.eq_or_lt_of_le hle with rfl | hlt
  · exact .inr ⟨rfl, hrest rfl x y⟩
  · refine .inl (UInt8.lt_iff_toNat_lt.mpr ?_)
    rwa [UInt8.toNat_ofNat_of_lt' hm, UInt8.toNat_ofNat_of_lt' hn]

/-- Of two characters the smaller one has the UTF-8 form that comes first. -/
theorem encodeChar_before {c d : Char} (h : c < d) :
    Before (String.utf8EncodeChar c) (String.utf8EncodeChar d) := by
  have hlt : c.val.toNat < d.val.toNat := UInt32.lt_iff_toNat_lt.mp h
  have hmax : d.val.toNat < 0x110000 := by
    rcases d.valid with hd | hd
    · omega
    · exact hd.2
  unfold String.utf8EncodeChar
  generalize c.val.toNat = m at hlt
  generalize d.val.toNat = n at hlt hmax
  -- forms of different lengths differ in the first byte; otherwise the bytes are digits of the
  -- numbers, the highest ones first
  dsimp only
  by_cases hm : m ≤ 127
  · rw [if_pos hm]
    split_ifs
    all_goals exact before_cons (by omega) (by omega) (by omega) (by omega)
  rw [if_neg hm, if_neg (show ¬n ≤ 127 by omega)]
  by_cases hm : m ≤ 2047
  · rw [if_pos hm]
    split_ifs
    · refine before_cons (by omega) (by omega) (by omega) fun _ => ?_
      exact before_cons (by omega) (by omega) (by omega) (by omega)
    all_goals exact before_cons (by omega) (by omega) (by omega) (by omega)
  rw [if_neg hm, if_neg (show ¬n ≤ 2047 by omega)]
  by_cases hm : m ≤ 65535
  · rw [if_pos hm]
    split_ifs
    · refine before_cons (by omega) (by omega) (by omega) fun _ => ?_
      refine before_cons (by omega) (by omega) (by omega) fun _ => ?_
      exact before_cons (by omega) (by omega) (by omega) (by omega)
    · exact before_cons (by omega) (by omega) (by omega) (by omega)
  rw [if_neg hm, if_neg (show ¬n ≤ 65535 by omega)]
  refine before_cons (by omega) (by omega) (by omega) fun _ => ?_
  refine before_cons (by omega) (by omega) (by omega) fun _ => ?_
  refine before_cons (by omega) (by omega) (by omega) fun _ => ?_
  exact before_cons (by omega) (by omega) (by omega) (by omega)

/-- A text that comes before another has the UTF-8 form that comes first. -/
theorem encode_lt {as bs : List Char} (h : as < bs) : encode as < encode bs := by
  induction as generalizing bs with
  | nil =>
    cases bs with
    | nil => exact absurd h (List.lt_irrefl [])
    | cons b bs =>
      have hne : encode (b :: bs) ≠ [] := by
        rw [encode, List.flatMap_cons]
        exact List.append_ne_nil_of_left_ne_nil String.utf8EncodeChar_ne_nil _
      obtain ⟨x, xs, hcons⟩ := List.exists_cons_of_ne_nil hne
      rw [hcons]
      exact List.nil_lt_cons x xs
  | cons a as ih =>
    cases bs with
    | nil => exact absurd h (List.not_lt_nil _)
    | cons b bs =>
      rw [encode, encode, List.flatMap_cons, List.flatMap_cons]
      rcases List.cons_lt_cons_iff.mp h with hlt | ⟨rfl, hrest⟩
      · exact encodeChar_before hlt _ _
      · exact List.append_left_lt (ih hrest)

/-- Texts compare like their UTF-8 forms. -/
theorem encode_lt_iff {as bs : List Char} : encode as < encode bs ↔ as < bs := by
  refine ⟨fun h => ?_, encode_lt⟩
  by_cases hlt : as < bs
  · exact hlt
  · by_cases hgt : bs < as
    · exact absurd (encode_lt hgt) (List.lt_asymm h)
    · rw [List.le_antisymm (List.not_lt.mp hgt) (List.not_lt.mp hlt)] at h
      exact absurd h (List.lt_irrefl _)

end TraceTarget.Text
