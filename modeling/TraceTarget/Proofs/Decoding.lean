import Mathlib.Data.List.Basic
import TraceTarget.Proofs.Numerals
import TraceTarget.Proofs.Writing

/-!
# The lines can be decoded

Whoever traces the demonstration reads its lines from a stream of bytes. No line holds a line feed,
so the stream falls into lines again, and of each line the fixed words tell its kind and the numeral
its number. So nothing is lost: a stream is that of one sequence of lines only.

- `Line.Written`: what a line looks like, with the numerals said on their own.
- `Line.read?`: reads a line strictly; `Line.readAll?` reads a stream.
- `Line.read?_eq_some_iff`: a text is read as the one line that it is written for.
- `lines_decode`: so are streams. What a sink holds that took the lines one after the other is such
  a stream.
-/

namespace TraceTarget

/-! ### Line feeds -/

namespace Text

/-- The byte that ends a line. -/
def lineFeed : UInt8 := 0x0a

/-- Only the line feed has that byte in its UTF-8 form. -/
theorem lineFeed_mem_encodeChar {c : Char} :
    lineFeed ∈ String.utf8EncodeChar c ↔ c = '\n' := by
  have hbyte {m : Nat} (hm : m < 256) : lineFeed = .ofNat m ↔ m = 10 := by
    rw [← UInt8.toNat_inj, UInt8.toNat_ofNat_of_lt' hm]
    exact eq_comm
  have hchar : c = '\n' ↔ c.val.toNat = 10 := by
    rw [← Char.toNat_inj]
    rfl
  rw [hchar]
  unfold String.utf8EncodeChar
  generalize c.val.toNat = n
  dsimp only
  -- of the bytes of a longer form none is below 128
  split_ifs <;> simp only [List.mem_cons, List.not_mem_nil, or_false]
  · exact hbyte (by omega)
  · rw [hbyte (by omega), hbyte (by omega)]
    omega
  · rw [hbyte (by omega), hbyte (by omega), hbyte (by omega)]
    omega
  · rw [hbyte (by omega), hbyte (by omega), hbyte (by omega), hbyte (by omega)]
    omega

theorem lineFeed_mem_encode {cs : List Char} : lineFeed ∈ encode cs ↔ '\n' ∈ cs := by
  simp only [encode, List.mem_flatMap, lineFeed_mem_encodeChar, exists_eq_right]

/-- A numeral holds no line feed. -/
theorem IsNumeral.lineFeed_notMem {base n : Nat} {cs : List Char} (h : IsNumeral base cs n) :
    '\n' ∉ cs := by
  obtain ⟨vs, -, rfl, -⟩ := h.digits
  intro hmem
  obtain ⟨v, -, hv⟩ := List.mem_map.mp hmem
  exact Nat.digitChar_ne '\n' rfl hv

end Text

/-! ### One line -/

namespace Line

/-- What a line looks like without its end: fixed words, and in three kinds a numeral after them. -/
inductive Written : Line → List Char → Prop
  | start : Written start "child process start".toList
  | func {i : UInt32} {ds : List Char} : Text.IsNumeral 10 ds i.toNat →
    Written (func i) ("func is ".toList ++ ds)
  | test {i : UInt32} {ds : List Char} : Text.IsNumeral 10 ds i.toNat →
    Written (test i) ("test is ".toList ++ ds)
  | finish : Written finish "child process end".toList
  | destructor {n : UInt32} {ds : List Char} : Text.IsNumeral 16 ds n.toNat →
    Written (destructor n) ("destructor: 0x".toList ++ ds)

/-- Reads fixed words and a numeral after them; the number has to fit in 32 bits. -/
def numbered? (words : String) (base : Nat) (make : UInt32 → Line) (cs : List Char) :
    Option Line := do
  let n ← Text.numeral? base (← cs.dropPrefix? words.toList)
  if n < UInt32.size then some (make (.ofNat n)) else none

/-- Reads a line without its end. -/
def read? (cs : List Char) : Option Line :=
  if cs = "child process start".toList then some start
  else if cs = "child process end".toList then some finish
  else numbered? "func is " 10 func cs <|> numbered? "test is " 10 test cs <|>
    numbered? "destructor: 0x" 16 destructor cs

/-- Reads a stream: every line feed ends a line, and nothing is left after the last one. -/
def readAll? (bs : Text.Bytes) : Option (List Line) :=
  let pieces := bs.splitOn Text.lineFeed
  if pieces.getLast? = some [] then
    pieces.dropLast.mapM fun piece => (Text.decode? piece).bind read?
  else none

/-- What a line looks like is what is written for it. -/
theorem written_iff {l : Line} {cs : List Char} : l.Written cs ↔ cs = l.text.toList := by
  constructor
  · intro h
    cases h with
    | start | finish => rfl
    | func hn | test hn =>
      rw [text, String.toList_append, Text.isNumeral_decimal_iff.mp hn]
    | destructor hn =>
      rw [text, String.toList_append, Text.isNumeral_hexadecimal_iff.mp hn]
  · rintro rfl
    cases l with
    | start => exact .start
    | finish => exact .finish
    | func i =>
      rw [text, String.toList_append]
      exact .func (Text.isNumeral_decimal_iff.mpr rfl)
    | test i =>
      rw [text, String.toList_append]
      exact .test (Text.isNumeral_decimal_iff.mpr rfl)
    | destructor n =>
      rw [text, String.toList_append]
      exact .destructor (Text.isNumeral_hexadecimal_iff.mpr rfl)

section

variable {l : Line} {cs : List Char}

/-- A line holds no line feed. -/
theorem Written.lineFeed_notMem (h : l.Written cs) : '\n' ∉ cs := by
  cases h with
  | start | finish => decide
  | func hn | test hn | destructor hn =>
    rw [List.mem_append, not_or]
    exact ⟨by decide, hn.lineFeed_notMem⟩

section

variable (words : String) {base : Nat} (make : UInt32 → Line) (hbase : base ≤ 16)

include hbase

theorem numbered?_eq_some_iff :
    numbered? words base make cs = some l ↔
      ∃ n ds, Text.IsNumeral base ds n.toNat ∧ words.toList ++ ds = cs ∧ make n = l := by
  have hdrop {ds : List Char} :
      cs.dropPrefix? words.toList = some ds ↔ words.toList ++ ds = cs := by
    simp only [List.dropPrefix?_eq_some_iff, beq_iff_eq, exists_eq_right]
    exact eq_comm
  simp only [numbered?, Option.bind_eq_bind, Option.bind_eq_some_iff, hdrop,
    Text.numeral?_eq_some_iff hbase, Option.ite_none_right_eq_some, Option.some.injEq]
  constructor
  · rintro ⟨ds, hcs, n, hn, hlt, rfl⟩
    have hsame : (UInt32.ofNat n).toNat = n := UInt32.toNat_ofNat_of_lt' hlt
    exact ⟨.ofNat n, ds, by rwa [hsame], hcs, rfl⟩
  · rintro ⟨n, ds, hn, hcs, rfl⟩
    exact ⟨ds, hcs, n.toNat, hn, n.toNat_lt, by rw [UInt32.ofNat_toNat]⟩

/-- Texts that begin in another way are not read. -/
theorem numbered?_eq_none (h : ∀ ds, words.toList ++ ds ≠ cs) :
    numbered? words base make cs = none := by
  refine Option.eq_none_iff_forall_ne_some.mpr fun l hl => ?_
  obtain ⟨n, ds, -, hcs, -⟩ := (numbered?_eq_some_iff words make hbase).mp hl
  exact h ds hcs

theorem numbered?_numeral {ds : List Char} {n : UInt32} (hn : Text.IsNumeral base ds n.toNat) :
    numbered? words base make (words.toList ++ ds) = some (make n) :=
  (numbered?_eq_some_iff words make hbase).mpr ⟨n, ds, hn, rfl, rfl⟩

end

/-- A line is read back. -/
theorem Written.read? (h : l.Written cs) : read? cs = some l := by
  -- no kind of line begins like an earlier one
  cases h with
  | start => rfl
  | finish => rfl
  | func hn =>
    rw [Line.read?, if_neg (by simp), if_neg (by simp), numbered?_numeral _ _ (by decide) hn]
    rfl
  | test hn =>
    rw [Line.read?, if_neg (by simp), if_neg (by simp), numbered?_eq_none _ _ (by decide) (by simp),
      numbered?_numeral _ _ (by decide) hn]
    rfl
  | destructor hn =>
    rw [Line.read?, if_neg (by simp), if_neg (by simp), numbered?_eq_none _ _ (by decide) (by simp),
      numbered?_eq_none _ _ (by decide) (by simp), numbered?_numeral _ _ (by decide) hn]
    rfl

/-- A text is read as a line exactly if it looks like that line. -/
theorem read?_eq_some_iff : read? cs = some l ↔ l.Written cs := by
  refine ⟨fun h => ?_, Written.read?⟩
  unfold Line.read? at h
  split at h
  · next hstart =>
    cases h
    rw [hstart]
    exact .start
  split at h
  · next hfinish =>
    cases h
    rw [hfinish]
    exact .finish
  rcases (Option.orElse_eq_some ..).mp h with h | ⟨-, h⟩
  · obtain ⟨i, ds, hn, rfl, rfl⟩ := (numbered?_eq_some_iff _ _ (by decide)).mp h
    exact .func hn
  rcases (Option.orElse_eq_some ..).mp h with h | ⟨-, h⟩
  · obtain ⟨i, ds, hn, rfl, rfl⟩ := (numbered?_eq_some_iff _ _ (by decide)).mp h
    exact .test hn
  · obtain ⟨n, ds, hn, rfl, rfl⟩ := (numbered?_eq_some_iff _ _ (by decide)).mp h
    exact .destructor hn

/-- Different lines have different texts. -/
theorem text_injective : Function.Injective text := by
  intro l l' h
  have hread := (written_iff.mpr rfl : l.Written l.text.toList).read?
  rw [h, (written_iff.mpr rfl : l'.Written l'.text.toList).read?] at hread
  exact (Option.some.inj hread).symm

end

/-! ### Streams of lines -/

/-- The UTF-8 form of a line without its end. -/
def encoded (l : Line) : Text.Bytes :=
  Text.encode l.text.toList

theorem lineFeed_notMem_encoded (l : Line) : Text.lineFeed ∉ l.encoded :=
  fun h => (written_iff.mpr rfl : l.Written _).lineFeed_notMem (Text.lineFeed_mem_encode.mp h)

/-- The pieces of a stream of lines are the lines and nothing after the last line feed. -/
theorem intercalate_encoded (ls : List Line) :
    [Text.lineFeed].intercalate (ls.map encoded ++ [[]]) = ls.flatMap bytes := by
  induction ls with
  | nil => rfl
  | cons l ls ih =>
    rw [List.map_cons, List.cons_append, List.intercalate_cons_of_ne_nil (by simp), ih,
      List.flatMap_cons, bytes, lineBytes_eq]
    rfl

theorem splitOn_flatMap_bytes (ls : List Line) :
    (ls.flatMap bytes).splitOn Text.lineFeed = ls.map encoded ++ [[]] := by
  have hpieces : ∀ piece ∈ ls.map encoded ++ [[]], Text.lineFeed ∉ piece := by
    intro piece hpiece
    rcases List.mem_append.mp hpiece with hline | hrest
    · obtain ⟨l, -, rfl⟩ := List.mem_map.mp hline
      exact lineFeed_notMem_encoded l
    · rw [List.mem_singleton.mp hrest]
      exact List.not_mem_nil
  rw [← intercalate_encoded, List.splitOn_intercalate _ hpieces (by simp)]

/-- The pieces of a stream are read as lines exactly if they are their UTF-8 forms. -/
theorem mapM_read?_eq_some_iff {pieces : List Text.Bytes} {ls : List Line} :
    pieces.mapM (fun piece => (Text.decode? piece).bind read?) = some ls ↔
      ls.map encoded = pieces := by
  have hpiece {piece : Text.Bytes} {l : Line} :
      (Text.decode? piece).bind read? = some l ↔ True ∧ l.encoded = piece := by
    simp only [Option.bind_eq_some_iff, Text.decode?_eq_some_iff, read?_eq_some_iff, written_iff,
      exists_eq_right, true_and]
    exact eq_comm
  rw [Text.mapM_eq_some_iff hpiece]
  exact and_iff_right fun _ _ => trivial

/-- A stream is read as some lines exactly if it is what is written for them. -/
theorem readAll?_eq_some_iff {bs : Text.Bytes} {ls : List Line} :
    readAll? bs = some ls ↔ bs = ls.flatMap bytes := by
  simp only [readAll?, Option.ite_none_right_eq_some, mapM_read?_eq_some_iff]
  constructor
  · rintro ⟨hlast, hlines⟩
    have hpieces := List.dropLast_append_getLast? [] hlast
    rw [← hlines] at hpieces
    rw [← intercalate_encoded, hpieces, List.intercalate_splitOn]
  · rintro rfl
    rw [splitOn_flatMap_bytes]
    exact ⟨List.getLast?_concat, (List.dropLast_concat).symm⟩

end Line

/-! ### Writing lines to a sink -/

/-- A sink after some lines were written to it, each with its end and a flush. -/
def Sink.emitLines (s : Sink) (ls : List Line) : Sink :=
  ls.foldl (fun s l => (s.emit l.bytes).2) s

theorem Sink.TakesAll.bytes_emitLines {s : Sink} (h : s.TakesAll) (ls : List Line) :
    (s.emitLines ls).bytes = s.bytes ++ ls.flatMap Line.bytes := by
  induction ls generalizing s with
  | nil => exact (List.append_nil _).symm
  | cons l ls ih =>
    have hkept : (s.emit l.bytes).2.TakesAll := by
      intro past bs
      rw [Sink.behaviour_emit]
      exact h past bs
    have hemit : (s.emit l.bytes).2.bytes = s.bytes ++ l.bytes := by
      rw [Sink.emit, h.write]
      simp
    show ((s.emit l.bytes).2.emitLines ls).bytes = _
    rw [ih hkept, hemit, List.flatMap_cons, List.append_assoc]

/-- **The lines can be decoded**: a stream of bytes is read as a sequence of lines exactly if it is
that sequence, each line with a line feed, and that is what a sink holds that took the lines one
after the other. No line holds a line feed itself; each is its fixed words and, in three kinds, the
numeral of its number; and no two lines have the same text. -/
theorem lines_decode :
    (∀ (bs : Text.Bytes) (ls : List Line),
      Line.readAll? bs = some ls ↔ bs = ls.flatMap Line.bytes) ∧
    (∀ ls : List Line, Line.readAll? ((default : Sink).emitLines ls).bytes = some ls) ∧
    (∀ l : Line, Text.lineFeed ∉ Text.encode l.text.toList) ∧
    (∀ (l : Line) (cs : List Char), l.Written cs ↔ cs = l.text.toList) ∧
    Function.Injective Line.text := by
  refine ⟨fun bs ls => Line.readAll?_eq_some_iff, fun ls => ?_, Line.lineFeed_notMem_encoded,
    fun l cs => Line.written_iff, Line.text_injective⟩
  have hall : (default : Sink).TakesAll := fun _ _ => rfl
  exact Line.readAll?_eq_some_iff.mpr (hall.bytes_emitLines ls)

/-- A numeral with a zero in front, or with a letter in upper case, is that of no line. -/
example :
    Line.readAll? (lineBytes "test is 07") = none ∧
      Line.readAll? (lineBytes "destructor: 0xA") = none := by
  decide +kernel

end TraceTarget
