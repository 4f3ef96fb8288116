/-!
# Texts as bytes

Files, environment variables and paths are bytes; most of them are the UTF-8 form of a text.

- `encode`: the UTF-8 form of a text.
- `decode?`: the text whose UTF-8 form the bytes are, if there is one.
- `cut?`: the stretch of a text between two of its bytes.
- `segments`: any bytes at all, cut into the characters they hold and the stretches that belong to
  no character. A stretch ends where the bytes stop being the beginning of a well-formed sequence.
- `display`: any bytes as a text for a reader, with U+FFFD for each such stretch.
-/

namespace TraceTarget.Text

/-- A sequence of bytes. -/
abbrev Bytes := List UInt8

/-- The UTF-8 form of a text. -/
def encode (cs : List Char) : Bytes :=
  cs.flatMap String.utf8EncodeChar

/-- The number of bytes in the UTF-8 form of a text. -/
def byteLength (cs : List Char) : Nat :=
  cs.foldr (fun c n => c.utf8Size + n) 0

/-- The text whose UTF-8 form the bytes are, if there is one. -/
def decode? (bs : Bytes) : Option (List Char) :=
  (ByteArray.mk bs.toArray).utf8Decode?.map Array.toList

/-! ### Stretches of a text -/

/-- A text without some bytes at its front, if those are whole characters. -/
def dropBytes? : Nat → List Char → Option (List Char)
  | 0, cs => some cs
  | n + 1, c :: cs => if c.utf8Size ≤ n + 1 then dropBytes? (n + 1 - c.utf8Size) cs else none
  | _, [] => none

/-- Some bytes at the front of a text, if they are whole characters. -/
def takeBytes? : Nat → List Char → Option (List Char)
  | 0, _ => some []
  | n + 1, c :: cs =>
    if c.utf8Size ≤ n + 1 then (takeBytes? (n + 1 - c.utf8Size) cs).map (c :: ·) else none
  | _, [] => none

/-- The stretch of a text from one place to another, both counted in bytes, if neither place is
inside a character. -/
def cut? (cs : List Char) (first last : Nat) : Option (List Char) := do
  takeBytes? (last - first) (← dropBytes? first cs)

/-! ### Bytes that need not be UTF-8 -/

/-- A piece of a byte sequence: a character in its UTF-8 form, or bytes that belong to none. -/
inductive Segment where
  | char (c : Char)
  | junk (bytes : Bytes)
  deriving DecidableEq, Repr

/-- The bytes that may follow a first byte, as inclusive ranges: these exclude overlong forms,
surrogates and numbers above U+10FFFF. A byte that begins no sequence has no entry. -/
def continuation (first : UInt8) : Option (List (UInt8 × UInt8)) :=
  let tail := (0x80, 0xbf)
  if first < 0x80 then some []
  else if first < 0xc2 then none
  else if first < 0xe0 then some [tail]
  else if first = 0xe0 then some [(0xa0, 0xbf), tail]
  else if first = 0xed then some [(0x80, 0x9f), tail]
  else if first < 0xf0 then some [tail, tail]
  else if first = 0xf0 then some [(0x90, 0xbf), tail, tail]
  else if first < 0xf4 then some [tail, tail, tail]
  else if first = 0xf4 then some [(0x80, 0x8f), tail, tail]
  else none

/-- The bytes at the front that lie one by one in the given ranges. -/
def within : List (UInt8 × UInt8) → Bytes → Bytes
  | (lo, hi) :: ranges, b :: bs => if lo ≤ b ∧ b ≤ hi then b :: within ranges bs else []
  | _, _ => []

/-- The piece that begins with a given byte. -/
def segment (first : UInt8) (rest : Bytes) : Segment × Nat :=
  match continuation first with
  | none => (.junk [first], 0)
  | some ranges =>
    let tail := within ranges rest
    let piece := first :: tail
    match (if tail.length = ranges.length then decode? piece else none) with
    | some [c] => (.char c, tail.length)
    | _ => (.junk piece, tail.length)

/-- Any bytes, cut into the characters they hold and the stretches that belong to none. -/
def segments : Bytes → List Segment
  | [] => []
  | b :: bs =>
    let (piece, more) := segment b bs
    piece :: segments (bs.drop more)
  termination_by bs => bs.length
  decreasing_by simp only [List.length_drop, List.length_cons]; omega

/-- Any bytes as a text for a reader; what belongs to no character becomes U+FFFD. -/
def display (bs : Bytes) : List Char :=
  (segments bs).map fun
    | .char c => c
    | .junk _ => '\ufffd'

/-! ### Small laws -/

@[simp] theorem encode_nil : encode [] = [] := rfl

@[simp] theorem encode_append (a b : List Char) : encode (a ++ b) = encode a ++ encode b := by
  simp [encode]

/-- The UTF-8 form of a text, as the array of bytes that the library has for it. -/
theorem byteArray_encode (cs : List Char) : ByteArray.mk (encode cs).toArray = cs.utf8Encode := by
  ext1
  simp [encode, List.utf8Encode]

/-- Writing a text and reading the bytes gives the text back. -/
theorem decode?_encode (cs : List Char) : decode? (encode cs) = some cs := by
  rw [decode?, byteArray_encode, List.utf8Decode?_utf8Encode]
  simp

/-- Nothing but the UTF-8 form of a text is read as that text. -/
theorem decode?_eq_some_iff {bs : Bytes} {cs : List Char} :
    decode? bs = some cs ↔ bs = encode cs := by
  constructor
  · intro h
    obtain ⟨found, hfound, rfl⟩ := Option.map_eq_some_iff.mp h
    have hsome : (ByteArray.mk bs.toArray).utf8Decode?.isSome = true := by rw [hfound]; rfl
    have hback := ByteArray.utf8Encode_get_utf8Decode? (h := hsome)
    simp only [hfound, Option.get_some, ← byteArray_encode] at hback
    simpa using congrArg (·.data.toList) hback.symm
  · rintro rfl
    exact decode?_encode cs

end TraceTarget.Text
