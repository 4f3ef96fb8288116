import Mathlib.Data.List.Basic
import Mathlib.Data.List.TakeDrop
import TraceTarget.Proofs.Numerals
import TraceTarget.Toml.Statement

/-!
# Written values and how they are read

Texts and natural numbers have a plain written form: a text stands between double quotes on one
line, with an escape sequence for what may not stand there as it is, and a number is in decimal.
Each reader takes what was written and leaves what follows.

- `escaped`: a character as it is written in a text; `basicFrom_escaped` reads one, and
  `basic_escaped` a whole text.
- `integer?_toDigits`: the integer that decimal digits stand for.
- `InWord`, `value_word`: bare words, up to the end of their line.
- `Plain`: texts and numbers; `value_written` reads either, up to the end of its line.
- `IsBareName`, `keyPath_bareName`: names that need no quotes.
-/

namespace TraceTarget.Toml

/-! ### Texts -/

/-- A hexadecimal digit, in upper case. -/
def hexDigit (d : Nat) : Char :=
  (Nat.digitChar d).toUpper

/-- A character as it is written in a text. -/
def escaped (c : Char) : List Char :=
  if c = '"' then ['\\', '"']
  else if c = '\\' then ['\\', '\\']
  else if c.toNat < 0x20 ∨ c.toNat = 0x7f then
    ['\\', 'u', '0', '0', hexDigit (c.toNat / 16), hexDigit (c.toNat % 16)]
  else [c]

theorem hexValue?_hexDigit : ∀ {d : Nat}, d < 16 → Text.hexValue? (hexDigit d) = some d := by
  decide

theorem scalar?_toNat (c : Char) : Text.scalar? c.toNat = some c := by
  have hvalid : c.toNat.isValidChar := c.valid
  rw [Text.scalar?, dif_pos hvalid]
  rfl

/-- A character that does not close the string is worked off by one step of the reader. -/
theorem basicFrom_step {p p' : Pending} {c : Char} {out : List Char}
    (hstep : p.step false c = some (p', out)) (hopen : p.mayClose = false ∨ c ≠ '"')
    (rest : List Char) : basicFrom p (c :: rest) = (basicFrom p' rest).map (prepend out) := by
  have hgoes : ¬(p.mayClose && c = '"') = true := by
    rcases hopen with h | h <;> simp [h]
  rw [basicFrom, if_neg hgoes, hstep]
  exact Option.map_eq_bind.symm

/-- A digit of an escape sequence that is not the last one. -/
theorem step_digit {c : Char} {d : Nat} (hd : Text.hexValue? c = some d) (left value : Nat) :
    (Pending.digits (left + 2) value).step false c =
      some (.digits (left + 1) (value * 16 + d), []) := by
  simp [Pending.step, hd]

/-- The last digit of an escape sequence. -/
theorem step_lastDigit {c c' : Char} {d value : Nat} (hd : Text.hexValue? c = some d)
    (hc' : Text.scalar? (value * 16 + d) = some c') :
    (Pending.digits 1 value).step false c = some (.text, [c']) := by
  simp [Pending.step, hd, hc']

/-- A character inside an escape sequence that gives nothing by itself. -/
theorem basicFrom_skip {p p' : Pending} {c : Char} (hstep : p.step false c = some (p', []))
    (hopen : p.mayClose = false ∨ c ≠ '"') (rest : List Char) :
    basicFrom p (c :: rest) = basicFrom p' rest := by
  rw [basicFrom_step hstep hopen]
  cases basicFrom p' rest <;> rfl

/-- A character that is given by its number. -/
theorem basicFrom_number {c : Char} (h : c.toNat < 0x100) (rest : List Char) :
    basicFrom .escape
        ('u' :: '0' :: '0' :: hexDigit (c.toNat / 16) :: hexDigit (c.toNat % 16) :: rest) =
      (basicFrom .text rest).map (prepend [c]) := by
  have hopens : Pending.escape.step false 'u' = some (.digits 4 0, []) := rfl
  have hzero : Text.hexValue? '0' = some 0 := rfl
  have hhigh := hexValue?_hexDigit (d := c.toNat / 16) (by omega)
  have hlow := hexValue?_hexDigit (d := c.toNat % 16) (by omega)
  have hwhole : Text.scalar? ((0 * 16 + c.toNat / 16) * 16 + c.toNat % 16) = some c := by
    rw [Nat.zero_mul, Nat.zero_add, Nat.div_add_mod', scalar?_toNat]
  rw [basicFrom_skip hopens (.inl rfl), basicFrom_skip (step_digit hzero ..) (.inl rfl),
    basicFrom_skip (step_digit hzero ..) (.inl rfl),
    basicFrom_skip (step_digit hhigh ..) (.inl rfl),
    basicFrom_step (step_lastDigit hlow hwhole) (.inl rfl)]

/-- An escaped character is read back. -/
theorem basicFrom_escaped (c : Char) (rest : List Char) :
    basicFrom .text (escaped c ++ rest) = (basicFrom .text rest).map (prepend [c]) := by
  have hbackslash (cs : List Char) : basicFrom .text ('\\' :: cs) = basicFrom .escape cs :=
    basicFrom_skip rfl (.inr (by decide)) cs
  unfold escaped
  split
  · next hquote =>
    subst hquote
    exact (hbackslash _).trans (basicFrom_step rfl (.inl rfl) rest)
  split
  · next hslash =>
    subst hslash
    exact (hbackslash _).trans (basicFrom_step rfl (.inl rfl) rest)
  split
  · next hcontrol => exact (hbackslash _).trans (basicFrom_number (by omega) rest)
  · next hquote hslash hcontrol =>
    have hplain : isPlain c = true := by
      simp only [isPlain, Bool.or_eq_true, Bool.and_eq_true, decide_eq_true_eq]
      omega
    refine basicFrom_step ?_ (.inr hquote) rest
    simp [Pending.step, Pending.step.plain, hslash, hplain]

/-- A text that was written is read back. -/
theorem basic_escaped (text rest : List Char) :
    basic (text.flatMap escaped ++ '"' :: rest) = some (text, rest) := by
  unfold basic
  induction text with
  | nil => rfl
  | cons c text ih =>
    rw [List.flatMap_cons, List.append_assoc, basicFrom_escaped, ih]
    rfl

/-- No escaped character begins with a quote. -/
theorem exists_escaped (c : Char) : ∃ x xs, escaped c = x :: xs ∧ x ≠ '"' := by
  unfold escaped
  split
  · exact ⟨_, _, rfl, by decide⟩
  split
  · exact ⟨_, _, rfl, by decide⟩
  split
  · exact ⟨_, _, rfl, by decide⟩
  · next hquote _ _ => exact ⟨_, _, rfl, hquote⟩

/-- A text in quotes is read back. Its opening quote is not taken for the first of three, not even
when the text is empty. -/
theorem quoted?_escaped (text : List Char) {c : Char} (hc : c ≠ '"') (rest : List Char) :
    quoted? ('"' :: (text.flatMap escaped ++ '"' :: c :: rest)) = some (text, c :: rest) := by
  have hthree : ∀ more, text.flatMap escaped ++ '"' :: c :: rest ≠ '"' :: '"' :: more := by
    intro more h
    cases text with
    | nil => exact hc (List.cons.inj (List.cons.inj h).2).1
    | cons c' text =>
      obtain ⟨x, xs, hx, hne⟩ := exists_escaped c'
      rw [List.flatMap_cons, hx] at h
      exact hne (List.cons.inj h).1
  rw [quoted?]
  · exact basic_escaped ..
  · exact hthree

/-! ### Numbers -/

theorem isDigitOf_of_mem_toDigits {n : Nat} {c : Char} (h : c ∈ Nat.toDigits 10 n) :
    isDigitOf 10 c = true := by
  have hdigit := Nat.isDigit_of_mem_toDigits (by decide) (by decide) h
  simp only [Char.isDigit, Bool.and_eq_true, decide_eq_true_eq] at hdigit
  simp only [isDigitOf, Bool.and_eq_true, decide_eq_true_eq]
  exact ⟨hdigit.1, Nat.lt_succ_of_le hdigit.2⟩

/-- A digit with something behind it that is no underscore. -/
theorem ungroup_cons {isDigit : Char → Bool} {c : Char} {cs : List Char} (hc : isDigit c = true)
    (hne : cs ≠ []) (hhead : cs.head? ≠ some '_') :
    ungroup isDigit (c :: cs) = (ungroup isDigit cs).map (c :: ·) := by
  rw [ungroup]
  · rw [if_pos hc]
  · exact hne
  · rintro rest rfl
    exact hhead rfl

/-- Digits without underscores stay as they are. -/
theorem ungroup_of_forall {isDigit : Char → Bool} (hunderscore : isDigit '_' = false)
    {ds : List Char} (hne : ds ≠ []) (hds : ∀ c ∈ ds, isDigit c = true) :
    ungroup isDigit ds = some ds := by
  induction ds with
  | nil => exact absurd rfl hne
  | cons c ds ih =>
    obtain ⟨hc, hds⟩ := List.forall_mem_cons.mp hds
    cases ds with
    | nil => rw [ungroup, if_pos hc]
    | cons c' ds =>
      have hhead : (c' :: ds).head? ≠ some '_' := by
        rintro ⟨⟩
        rw [hds '_' List.mem_cons_self] at hunderscore
        cases hunderscore
      rw [ungroup_cons hc (List.cons_ne_nil _ _) hhead, ih (List.cons_ne_nil _ _) hds]
      rfl

theorem decimalDigits?_toDigits (n : Nat) :
    decimalDigits? (Nat.toDigits 10 n) = some (Nat.toDigits 10 n) := by
  rw [decimalDigits?, ungroup_of_forall (by decide) Nat.toDigits_ne_nil
    fun _ => isDigitOf_of_mem_toDigits]
  refine Option.filter_eq_some_iff.mpr ⟨rfl, ?_⟩
  rcases eq_or_ne n 0 with rfl | hne
  · rfl
  · have hhead : (Nat.toDigits 10 n).head? ≠ some '0' := Text.head?_toDigits (by decide) hne
    simp [hhead]

theorem ofDigits_toDigits (n : Nat) : ofDigits 10 (Nat.toDigits 10 n) = n := by
  have happend (ds : List Char) (c : Char) :
      ofDigits 10 (ds ++ [c]) = ofDigits 10 ds * 10 + (Text.hexValue? c).getD 0 := by
    rw [ofDigits, List.foldl_append]
    rfl
  have hdigit : ∀ {d : Nat}, d < 10 → (Text.hexValue? (Nat.digitChar d)).getD 0 = d := by decide
  induction n using Nat.strongRecOn with
  | ind n ih =>
    rcases Nat.lt_or_ge n 10 with hlt | hge
    · rw [Nat.toDigits_of_lt_base hlt, ← List.nil_append [_], happend, hdigit hlt]
      exact Nat.zero_add n
    · rw [Nat.toDigits_of_base_le (by decide) hge, happend, hdigit (Nat.mod_lt n (by decide)),
        ih (n / 10) (Nat.div_lt_self (by omega) (by decide)), Nat.div_add_mod']

/-- Decimal digits are the integer that they stand for. -/
theorem integer?_toDigits (n : Nat) : integer? (Nat.toDigits 10 n) = some (.integer n) := by
  have hdigits : ∀ c ∈ Nat.toDigits 10 n, isDigitOf 10 c = true :=
    fun _ => isDigitOf_of_mem_toDigits
  have hsign : splitSign (Nat.toDigits 10 n) = (false, Nat.toDigits 10 n) := by
    unfold splitSign
    split
    · next h => exact absurd (hdigits '+' (h ▸ List.mem_cons_self)) (by decide)
    · next h => exact absurd (hdigits '-' (h ▸ List.mem_cons_self)) (by decide)
    · rfl
  have hmark {c : Char} {rest : List Char} (h : Nat.toDigits 10 n = '0' :: c :: rest) :
      isDigitOf 10 c = true :=
    hdigits c (h ▸ List.mem_cons_of_mem _ List.mem_cons_self)
  unfold integer?
  split
  · next h => exact absurd (hmark h) (by decide)
  · next h => exact absurd (hmark h) (by decide)
  · next h => exact absurd (hmark h) (by decide)
  · rw [hsign]
    simp only [decimalDigits?_toDigits, ofDigits_toDigits]
    rfl

/-- There are ten decimal digits. -/
theorem exists_digitChar {c : Char} (h : isDigitOf 10 c = true) :
    ∃ d < 10, c = Nat.digitChar d := by
  simp only [isDigitOf, Bool.and_eq_true, decide_eq_true_eq] at h
  have hlow : 48 ≤ c.toNat := h.1
  have hhigh : c.toNat < 48 + 10 := h.2
  refine ⟨c.toNat - 48, by omega, Char.toNat_inj.mp ?_⟩
  rw [Nat.toNat_digitChar_of_lt_ten (by omega)]
  omega

/-- A character that stands inside a bare word, wherever it comes. -/
def InWord (c : Char) : Prop :=
  isSpace c = false ∧ endsWord c = false ∧ c ≠ '"' ∧ c ≠ '\''

instance (c : Char) : Decidable (InWord c) :=
  inferInstanceAs (Decidable (_ ∧ _))

theorem inWord_of_isDigitOf {c : Char} (h : isDigitOf 10 c = true) : InWord c := by
  obtain ⟨d, hd, rfl⟩ := exists_digitChar h
  have hinside : ∀ {d}, d < 10 → InWord (Nat.digitChar d) := by decide
  exact hinside hd

theorem bareWordFrom_inWord {c : Char} (h : InWord c) (afterSpace : Bool) (rest : List Char) :
    bareWordFrom afterSpace (c :: rest) =
      (c :: (bareWordFrom false rest).1, (bareWordFrom false rest).2) := by
  obtain ⟨hspace, hends, hquote, happostrophe⟩ := h
  simp [bareWordFrom, hspace, hends, hquote, happostrophe]

/-- A bare word ends with its line. -/
theorem bareWord_inWord {word : List Char} (hword : ∀ c ∈ word, InWord c) (rest : List Char) :
    bareWord (word ++ '\n' :: rest) = (word, '\n' :: rest) := by
  unfold bareWord
  generalize true = afterSpace
  induction word generalizing afterSpace with
  | nil => cases afterSpace <;> rfl
  | cons c word ih =>
    obtain ⟨hc, hword⟩ := List.forall_mem_cons.mp hword
    rw [List.cons_append, bareWordFrom_inWord hc, ih hword]

theorem wordValue?_toDigits (n : Nat) :
    wordValue? (Nat.toDigits 10 n) = some (.integer n) := by
  have hno {c : Char} {cs : List Char} (hc : c ∈ cs) (hdigit : isDigitOf 10 c = false) :
      Nat.toDigits 10 n ≠ cs := by
    rintro rfl
    rw [isDigitOf_of_mem_toDigits hc] at hdigit
    cases hdigit
  rw [wordValue?, if_neg (hno (c := 'e') (by decide) (by decide)),
    if_neg (hno (c := 'e') (by decide) (by decide)), integer?_toDigits]
  rfl

/-! ### Values -/

/-- A value with a plain written form. -/
inductive Plain where
  | text (s : String)
  | number (n : Nat)
  deriving DecidableEq, Repr

namespace Plain

/-- The value itself. -/
def value : Plain → Value
  | text s => .string s
  | number n => .integer n

/-- The written form. -/
def written : Plain → List Char
  | text s => '"' :: s.toList.flatMap escaped ++ ['"']
  | number n => Nat.toDigits 10 n

end Plain

/-- A text that opens no array and no inline table is read as a string or a bare scalar. -/
theorem value_eq_atom {cs rest : List Char} {v : Value} (harray : cs.head? ≠ some '[')
    (htable : cs.head? ≠ some '\x7b') (h : atom cs = some (v, rest)) :
    value cs = some (⟨.between cs rest, v⟩, rest) := by
  rw [value, maxDepth, valueUpTo, h]
  · rfl
  · rintro d more - rfl
    exact harray rfl
  · rintro d more - rfl
    exact htable rfl

theorem skipSpaces_cons {c : Char} (hc : isSpace c = false) (cs : List Char) :
    skipSpaces (c :: cs) = c :: cs :=
  List.dropWhile_cons_of_neg (by simp [hc])

section Word

variable {word : List Char} (hne : word ≠ []) (hword : ∀ c ∈ word, InWord c)

include hne hword

/-- A bare word does not begin with a space. -/
theorem skipSpaces_word (rest : List Char) : skipSpaces (word ++ rest) = word ++ rest := by
  obtain ⟨c, cs, rfl⟩ := List.exists_cons_of_ne_nil hne
  exact skipSpaces_cons (hword c List.mem_cons_self).1 _

/-- A bare word is read as what it stands for at the end of a line. -/
theorem value_word {v : Value} (h : wordValue? word = some v) (rest : List Char) :
    value (word ++ '\n' :: rest) =
      some (⟨.between (word ++ '\n' :: rest) ('\n' :: rest), v⟩, '\n' :: rest) := by
  obtain ⟨c, cs, rfl⟩ := List.exists_cons_of_ne_nil hne
  obtain ⟨-, hends, hquote, happostrophe⟩ := hword c List.mem_cons_self
  have hatom : atom (c :: cs ++ '\n' :: rest) = some (v, '\n' :: rest) := by
    rw [atom, if_neg (by simp [hquote, happostrophe]), scalar, bareWord_inWord hword]
    simp only [h, Option.map_some]
  -- an opening bracket would end the word
  have hopens {x : Char} (hx : endsWord x = true) : (c :: cs ++ '\n' :: rest).head? ≠ some x := by
    intro heq
    obtain rfl : c = x := Option.some.inj heq
    rw [hends] at hx
    cases hx
  exact value_eq_atom (hopens rfl) (hopens rfl) hatom

end Word

/-- A written value does not begin with a space. -/
theorem skipSpaces_written (p : Plain) (rest : List Char) :
    skipSpaces (p.written ++ rest) = p.written ++ rest := by
  cases p with
  | text s => exact skipSpaces_cons (by decide) _
  | number n =>
    exact skipSpaces_word Nat.toDigits_ne_nil
      (fun _ hc => inWord_of_isDigitOf (isDigitOf_of_mem_toDigits hc)) rest

/-- A written value is read back at the end of a line. -/
theorem value_written (p : Plain) (rest : List Char) :
    ∃ v, value (p.written ++ '\n' :: rest) = some (v, '\n' :: rest) ∧ v.value = p.value := by
  cases p with
  | text s =>
    have hquoted := quoted?_escaped s.toList (c := '\n') (by decide) rest
    have hatom : atom ((Plain.text s).written ++ '\n' :: rest) =
        some (.string s, '\n' :: rest) := by
      rw [Plain.written, List.cons_append, List.cons_append, List.append_assoc, atom,
        if_pos (.inl rfl), List.singleton_append, hquoted]
      simp only [Option.map_some, String.ofList_toList]
    exact ⟨_, value_eq_atom (by simp [Plain.written]) (by simp [Plain.written]) hatom, rfl⟩
  | number n =>
    have hdigits : ∀ c ∈ Nat.toDigits 10 n, InWord c :=
      fun _ hc => inWord_of_isDigitOf (isDigitOf_of_mem_toDigits hc)
    exact ⟨_, value_word Nat.toDigits_ne_nil hdigits (wordValue?_toDigits n) rest, rfl⟩

/-! ### Names -/

/-- A name that can be written as a key without quotes. -/
def IsBareName (name : String) : Prop :=
  name ≠ "" ∧ name.toList.all isBareKey = true

instance (name : String) : Decidable (IsBareName name) :=
  inferInstanceAs (Decidable (_ ∧ _))

/-- A bare name is read up to the character that ends it. -/
theorem keyText_bareName {name : String} (h : IsBareName name) {c : Char}
    (hc : isBareKey c = false) (rest : List Char) :
    keyText (name.toList ++ c :: rest) = some (name.toList, c :: rest) := by
  obtain ⟨hne, hall⟩ := h
  have hbare := List.all_eq_true.mp hall
  have hnonempty : name.toList ≠ [] := fun h => hne (String.toList_eq_nil_iff.mp h)
  have hspan : (name.toList ++ c :: rest).span isBareKey = (name.toList, c :: rest) := by
    rw [List.span_eq_takeWhile_dropWhile, List.takeWhile_append_of_pos hbare,
      List.dropWhile_append_of_pos hbare, List.takeWhile_cons_of_neg (by simp [hc]),
      List.dropWhile_cons_of_neg (by simp [hc]), List.append_nil]
  -- a quote is no character of a bare name
  have hhead {x : Char} (hx : isBareKey x = false) (more : List Char) :
      name.toList ++ c :: rest ≠ x :: more := by
    intro heq
    obtain ⟨y, ys, hy⟩ := List.exists_cons_of_ne_nil hnonempty
    rw [hy] at heq hbare
    obtain rfl := (List.cons.inj heq).1
    rw [hbare y List.mem_cons_self] at hx
    cases hx
  rw [keyText, hspan]
  · exact if_neg hnonempty
  · exact hhead (by decide)
  · exact hhead (by decide)

/-- A bare name is a key by itself, unless a dot follows. -/
theorem keyPath_bareName {name : String} (h : IsBareName name) {c : Char}
    (hc : isBareKey c = false) (rest : List Char)
    (hdot : ∀ more, skipSpaces (c :: rest) ≠ '.' :: more) :
    ∃ k : Key, keyPath (name.toList ++ c :: rest) = some (⟨[], k⟩, skipSpaces (c :: rest)) ∧
      k.name = name := by
  refine ⟨⟨name, .between (name.toList ++ c :: rest) (c :: rest)⟩, ?_, rfl⟩
  rw [keyPath, maxKeys, keyPathUpTo, key, keyText_bareName h hc]
  simp only [Option.map_some, String.ofList_toList, Option.bind_eq_bind, Option.bind_some]
  rfl

end TraceTarget.Toml
