import Mathlib.Data.List.DropRight
import Mathlib.Data.List.Forall2
import TraceTarget.Revision
import TraceTarget.Text.CodePoints

/-!
# How the name of a revision may be spelled

What a person types is read leniently: white space at the two ends does not matter, and neither does
the case of the ASCII letters. Nothing else is forgiven. In particular no character beyond ASCII is
taken for a letter, however much it looks like one, and none that does not show is passed over
unless it is white space.

- `Text.Lowers`: a character and its lower case; `lower_eq_iff` says that `Text.lower` goes from
  each character to its lower case.
- `trim_padded`, `exists_padding`: `Text.trim` takes white space away at both ends, and all of it.
- `Revision.Spells`: the texts that spell the name of a revision.
- `parse_reads_spellings`: these are the texts that are read, and every other text comes back as it
  was given.
-/

namespace TraceTarget

namespace Text

/-! ### The case of letters -/

/-- A character and its lower case. The capital letters of ASCII have their small letters, and every
other character stays as it is. -/
inductive Lowers : Char → Char → Prop
  | capital {c d : Char} : 'A' ≤ c → c ≤ 'Z' → d.toNat = c.toNat + 32 → Lowers c d
  | other {c : Char} : ¬('A' ≤ c ∧ c ≤ 'Z') → Lowers c c

variable {c d : Char} {cs ds : List Char}

theorem toNat_toLower (c : Char) :
    c.toLower.toNat = if 'A' ≤ c ∧ c ≤ 'Z' then c.toNat + 32 else c.toNat := by
  unfold Char.toLower
  by_cases hc : 'A' ≤ c ∧ c ≤ 'Z'
  · have hhigh : c.val.toNat ≤ 90 := UInt32.le_iff_toNat_le.mp hc.2
    have hstep : ('a'.val - 'A'.val).toNat = 32 := rfl
    rw [dif_pos (show c.val ≥ 'A'.val ∧ c.val ≤ 'Z'.val from hc), if_pos hc]
    show (c.val + ('a'.val - 'A'.val)).toNat = c.val.toNat + 32
    rw [UInt32.toNat_add, hstep]
    exact Nat.mod_eq_of_lt (by omega)
  · rw [dif_neg (show ¬(c.val ≥ 'A'.val ∧ c.val ≤ 'Z'.val) from hc), if_neg hc]

theorem toLower_eq_iff : c.toLower = d ↔ Lowers c d := by
  have hnat := toNat_toLower c
  constructor
  · rintro rfl
    by_cases hc : 'A' ≤ c ∧ c ≤ 'Z'
    · exact .capital hc.1 hc.2 (hnat.trans (if_pos hc))
    · rw [Char.toNat_inj.mp (hnat.trans (if_neg hc))]
      exact .other hc
  · rintro (⟨hlow, hhigh, hd⟩ | hc)
    · exact Char.toNat_inj.mp ((hnat.trans (if_pos ⟨hlow, hhigh⟩)).trans hd.symm)
    · exact Char.toNat_inj.mp (hnat.trans (if_neg hc))

/-- A text in lower case has the lower case of each character, and nothing else. -/
theorem lower_eq_iff : lower cs = ds ↔ List.Forall₂ Lowers cs ds :=
  calc lower cs = ds
    _ ↔ List.Forall₂ (· = ·) (cs.map Char.toLower) ds := by
      rw [List.forall₂_eq_eq_eq]
      rfl
    _ ↔ List.Forall₂ (fun c d => c.toLower = d) cs ds := List.forall₂_map_left_iff
    _ ↔ List.Forall₂ Lowers cs ds := by simp only [toLower_eq_iff]

/-- White space has no case. -/
theorem isBlank_toLower (c : Char) : isBlank c.toLower = isBlank c := by
  have hnat := toNat_toLower c
  by_cases hc : 'A' ≤ c ∧ c ≤ 'Z'
  · -- neither a capital letter nor its small letter is white space
    have hlow : 65 ≤ c.toNat := UInt32.le_iff_toNat_le.mp hc.1
    have hhigh : c.toNat ≤ 90 := UInt32.le_iff_toNat_le.mp hc.2
    have hletter {d : Char} (hd : 65 ≤ d.toNat) (hd' : d.toNat ≤ 122) : isBlank d = false := by
      simp [isBlank]
      omega
    rw [if_pos hc] at hnat
    rw [hletter hlow (by omega), hletter (by omega) (by omega)]
  · rw [Char.toNat_inj.mp (hnat.trans (if_neg hc))]

/-- Texts that differ at most in the case of ASCII letters. -/
def SameButCase (cs ds : List Char) : Prop :=
  ∃ ls, List.Forall₂ Lowers cs ls ∧ List.Forall₂ Lowers ds ls

theorem sameButCase_iff : SameButCase cs ds ↔ lower cs = lower ds := by
  simp only [SameButCase, ← lower_eq_iff]
  constructor
  · rintro ⟨ls, hcs, hds⟩
    rw [hcs, hds]
  · intro h
    exact ⟨lower ds, h, rfl⟩

/-! ### White space at the ends -/

/-- Nothing but white space. -/
def Blank (cs : List Char) : Prop :=
  ∀ c ∈ cs, isBlank c = true

variable {u w : List Char}

/-- White space at the ends goes. -/
theorem trim_padded (hu : Blank u) (hw : Blank w) (cs : List Char) :
    trim (u ++ cs ++ w) = trim cs := by
  show ((u ++ cs ++ w).dropWhile isBlank).rdropWhile isBlank =
    (cs.dropWhile isBlank).rdropWhile isBlank
  rw [List.append_assoc, List.dropWhile_append_of_pos hu, List.dropWhile_append]
  split
  · next hcs =>
    rw [List.isEmpty_iff.mp hcs, List.dropWhile_eq_nil_iff.mpr hw]
  · have hw' : ∀ c ∈ w.reverse, isBlank c = true := fun c hc => hw c (List.mem_reverse.mp hc)
    rw [List.rdropWhile, List.reverse_append, List.dropWhile_append_of_pos hw']
    rfl

/-- Nothing but white space at the ends goes. -/
theorem exists_padding (cs : List Char) : ∃ u w, cs = u ++ trim cs ++ w ∧ Blank u ∧ Blank w := by
  have hend : trim cs ++ (cs.dropWhile isBlank).rtakeWhile isBlank = cs.dropWhile isBlank :=
    List.rdropWhile_append_rtakeWhile
  refine ⟨cs.takeWhile isBlank, (cs.dropWhile isBlank).rtakeWhile isBlank, ?_, ?_, ?_⟩
  · rw [List.append_assoc, hend, List.takeWhile_append_dropWhile]
  · exact fun c hc => List.mem_takeWhile_imp hc
  · exact fun c hc => List.mem_rtakeWhile_imp hc

/-- A text without white space is left alone. -/
theorem trim_of_forall (h : ∀ c ∈ cs, isBlank c = false) : trim cs = cs := by
  have hfirst : cs.dropWhile isBlank = cs :=
    List.dropWhile_eq_self_iff.mpr fun hpos => by simp [h _ (List.getElem_mem hpos)]
  have hlast : cs.rdropWhile isBlank = cs :=
    List.rdropWhile_eq_self_iff.mpr fun hne => by simp [h _ (List.getLast_mem hne)]
  show (cs.dropWhile isBlank).rdropWhile isBlank = cs
  rw [hfirst, hlast]

/-- It does not matter whether the ends or the letters come first. -/
theorem trim_lower (cs : List Char) : trim (lower cs) = lower (trim cs) := by
  have hblank : isBlank ∘ Char.toLower = isBlank := funext isBlank_toLower
  simp only [trim, lower, List.dropWhile_map, ← List.map_reverse, hblank]

end Text

namespace Revision

open Text

/-! ### Spellings -/

/-- A text spells the name of a revision if it is the name in any case of its letters, with any
white space around it. -/
def Spells (s : String) (r : Revision) : Prop :=
  ∃ u v w, s.toList = u ++ v ++ w ∧ Blank u ∧ Blank w ∧ List.Forall₂ Lowers v r.name.toList

variable {s : String} {r : Revision} {c : Char}

/-- A character in the spelling of a name, up to its case, is no white space. -/
theorem not_blank_of_lowers {v : List Char} (h : List.Forall₂ Lowers v r.name.toList) :
    ∀ c ∈ v, isBlank c = false := by
  have hname : ∀ d ∈ r.name.toList, isBlank d = false := by
    cases r <;> simp [name] <;> decide
  rw [← lower_eq_iff] at h
  intro c hc
  rw [← isBlank_toLower]
  exact hname _ (h ▸ List.mem_map_of_mem hc)

/-- What is left of a spelling without the white space around it is the name, up to its case. -/
theorem spells_iff : Spells s r ↔ lower (trim s.toList) = r.name.toList := by
  constructor
  · rintro ⟨u, v, w, hs, hu, hw, hv⟩
    rw [hs, trim_padded hu hw, trim_of_forall (not_blank_of_lowers hv)]
    exact lower_eq_iff.mpr hv
  · intro h
    obtain ⟨u, w, hs, hu, hw⟩ := exists_padding s.toList
    exact ⟨u, trim s.toList, w, hs, hu, hw, lower_eq_iff.mp h⟩

/-- A text is read as a revision exactly if it spells its name. -/
theorem parse_ok_iff : parse s = .ok r ↔ Spells s r := by
  rw [spells_iff]
  unfold parse
  constructor
  · intro h
    split at h
    · next r' hr' =>
      cases h
      have hname := eq_name_of_ofName? hr'
      rw [← hname, String.toList_ofList]
    · cases h
  · intro h
    rw [h, String.ofList_toList, ofName?_name]

/-- A text that spells no name is complained of as it was given. -/
theorem parse_error_iff {e : UnknownRevision} :
    parse s = .error e ↔ (∀ r, ¬Spells s r) ∧ e.input = s := by
  constructor
  · intro h
    refine ⟨fun r hr => ?_, ?_⟩
    · rw [← parse_ok_iff, h] at hr
      cases hr
    · unfold parse at h
      split at h
      · cases h
      · cases h
        rfl
  · rintro ⟨hnone, rfl⟩
    cases hparse : parse e.input with
    | ok r => exact absurd (parse_ok_iff.mp hparse) (hnone r)
    | error e' =>
      unfold parse at hparse
      split at hparse
      · cases hparse
      · cases hparse
        rfl

/-- Apart from white space a spelling has nothing but ASCII characters. -/
theorem Spells.ascii (h : Spells s r) (hc : c ∈ s.toList) : isBlank c = true ∨ c.toNat < 128 := by
  obtain ⟨u, v, w, hs, hu, hw, hv⟩ := h
  rw [hs, List.mem_append, List.mem_append] at hc
  rcases hc with (hc | hc) | hc
  · exact .inl (hu c hc)
  · have hname : ∀ d ∈ r.name.toList, d.toNat < 128 := by cases r <;> simp [name]
    rw [← lower_eq_iff] at hv
    have hlower := hname c.toLower (hv ▸ List.mem_map_of_mem hc)
    rw [toNat_toLower] at hlower
    right
    split at hlower <;> omega
  · exact .inl (hw c hc)

/-- More white space at the ends makes no difference to what is spelled. -/
theorem spells_padded {u w : List Char} (hu : Blank u) (hw : Blank w) :
    Spells (String.ofList (u ++ s.toList ++ w)) r ↔ Spells s r := by
  rw [spells_iff, spells_iff, String.toList_ofList, trim_padded hu hw]

/-- Nor does the case of the letters. -/
theorem spells_sameButCase {s' : String} (h : SameButCase s.toList s'.toList) :
    Spells s' r ↔ Spells s r := by
  rw [spells_iff, spells_iff, ← trim_lower, ← trim_lower, sameButCase_iff.mp h]

/-- Characters that look like letters of a name, and characters that do not show: a dotted and a
dotless `i`, a long `s`, the sign for kelvin, the letters in full width, and characters without
width. -/
def lookAlikes : CodePoints :=
  [(0x130, 0x131), (0x17f, 0x17f), (0x180e, 0x180e), (0x200b, 0x200d), (0x2060, 0x2060),
    (0x212a, 0x212a), (0xfeff, 0xfeff), (0xff21, 0xff3a), (0xff41, 0xff5a)]

/-- None of them is white space, and none is in ASCII. -/
theorem not_blank_of_lookAlikes (h : lookAlikes.has c = true) :
    isBlank c = false ∧ 128 ≤ c.toNat := by
  simp only [CodePoints.has, lookAlikes, List.any_cons, List.any_nil, Bool.or_eq_true,
    Bool.and_eq_true, decide_eq_true_eq, Bool.or_false] at h
  refine ⟨?_, by omega⟩
  simp [isBlank]
  omega

/-- **The language of the names of revisions**: a text is read as a revision exactly if it spells
its name, and every other text comes back as it was given. So white space at the ends and the case
of the letters make no difference; and a text with a character that is neither white space nor in
ASCII is refused, whatever the character looks like and whether or not it shows. -/
theorem parse_reads_spellings (s : String) :
    (∀ r, parse s = .ok r ↔ Spells s r) ∧
      (∀ e, parse s = .error e ↔ (∀ r, ¬Spells s r) ∧ e.input = s) ∧
      (∀ u w, Blank u → Blank w → ∀ r,
        parse (String.ofList (u ++ s.toList ++ w)) = .ok r ↔ parse s = .ok r) ∧
      (∀ s' : String, SameButCase s.toList s'.toList → ∀ r, parse s' = .ok r ↔ parse s = .ok r) ∧
      (∀ c ∈ s.toList, isBlank c = false → 128 ≤ c.toNat → parse s = .error ⟨s⟩) ∧
      ∀ c ∈ s.toList, lookAlikes.has c = true → parse s = .error ⟨s⟩ := by
  have hforeign : ∀ c ∈ s.toList, isBlank c = false → 128 ≤ c.toNat → parse s = .error ⟨s⟩ := by
    intro c hc hblank hascii
    refine parse_error_iff.mpr ⟨fun r hr => ?_, rfl⟩
    rcases hr.ascii hc with h | h
    · rw [hblank] at h
      cases h
    · omega
  refine ⟨fun r => parse_ok_iff, fun e => parse_error_iff, fun u w hu hw r => ?_,
    fun s' hs' r => ?_, hforeign, fun c hc hlook => ?_⟩
  · rw [parse_ok_iff, parse_ok_iff, spells_padded hu hw]
  · rw [parse_ok_iff, parse_ok_iff, spells_sameButCase hs']
  · obtain ⟨hblank, hascii⟩ := not_blank_of_lookAlikes hlook
    exact hforeign c hc hblank hascii

/-- An ideographic space is passed over, and the sign for kelvin is no letter. -/
example : parse "\u3000LiNked\t" = .ok .linked ∧
    parse "lin\u212aed" = .error ⟨"lin\u212aed"⟩ := by
  decide +kernel

end Revision

end TraceTarget
