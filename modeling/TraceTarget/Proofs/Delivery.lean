import TraceTarget.Driver

/-!
# What becomes of the things a run writes

A run writes a line and flushes it, then the next one, and so on, to two sinks that may be the same
one. Here is what it means that some of these emissions reached their sinks, and that one of them
was cut short.

- `Sink.Takes`, `Sink.Refuses`: bytes that reach a sink in one piece or in several, and bytes of
  which some piece meets a failure.
- `Emission`: bytes for a sink, to be followed by one flush of it.
- `Emission.Lands`, `Emission.CutShort`: the two things that may become of an emission.
- `Delivered`: emissions that land one after the other.
- `Delivered.bytes`, `Delivered.flushes`: the views of a delivery at each sink: the bytes of its own
  emissions in order, and one flush for each; with `_then`, and what was done at one sink after it.
- `Emission.CutShort.bytes`: what is cut short leaves a beginning of its bytes.
-/

namespace TraceTarget

namespace Sink

/-! ### Bytes in pieces -/

/-- Bytes that reach a sink in one write or in several, none of which fails. -/
inductive Takes : Text.Bytes → Sink → Sink → Prop
  | nil (s : Sink) : Takes [] s s
  | cons {piece rest : Text.Bytes} {s s₁ s₂ : Sink} :
    s.write piece = (.ok (), s₁) → Takes rest s₁ s₂ → Takes (piece ++ rest) s s₂

/-- Bytes that are written in pieces until one of the pieces meets a failure. -/
def Refuses (bs : Text.Bytes) (s s' : Sink) (fault : Fault) : Prop :=
  ∃ done piece rest s₁, bs = done ++ (piece ++ rest) ∧ Takes done s s₁ ∧
    s₁.write piece = (.error fault, s')

@[simp] theorem take_nil (s : Sink) : s.take [] = s := rfl

theorem take_append (s : Sink) (bs cs : Text.Bytes) : s.take (bs ++ cs) = (s.take bs).take cs := by
  simp [take, Nat.add_assoc]

/-- A write that succeeds leaves the sink with all of its bytes. -/
theorem eq_take_of_write {s s' : Sink} {bs : Text.Bytes} (h : s.write bs = (.ok (), s')) :
    s' = s.take bs := by
  unfold write at h
  split at h
  · next hnil =>
    rw [hnil, take_nil]
    exact (congrArg Prod.snd h).symm
  · split at h
    · exact (congrArg Prod.snd h).symm
    · cases congrArg Prod.fst h

/-- A write that fails leaves the sink with a beginning of its bytes and without another flush. -/
theorem bytes_of_write_error {s s' : Sink} {bs : Text.Bytes} {fault : Fault}
    (h : s.write bs = (.error fault, s')) :
    (∃ n, s'.bytes = s.bytes ++ bs.take n) ∧ s'.past.flushes = s.past.flushes := by
  unfold write at h
  split at h
  · cases congrArg Prod.fst h
  · split at h
    · cases congrArg Prod.fst h
    · next n _ _ =>
      obtain rfl : _ = s' := congrArg Prod.snd h
      exact ⟨⟨n, bytes_take s (bs.take n)⟩, rfl⟩

theorem Takes.one {s s' : Sink} {bs : Text.Bytes} (h : s.write bs = (.ok (), s')) :
    Takes bs s s' := by
  have := Takes.cons h (Takes.nil s')
  rwa [List.append_nil] at this

/-- In how many pieces bytes are written does not show in the end. -/
theorem Takes.eq_take {bs : Text.Bytes} {s s' : Sink} (h : Takes bs s s') : s' = s.take bs := by
  induction h with
  | nil s => rw [take_nil]
  | cons hwrite _ ih => rw [ih, eq_take_of_write hwrite, ← take_append]

/-- Bytes that meet a failure leave a beginning of them behind and no flush. -/
theorem Refuses.bytes {bs : Text.Bytes} {s s' : Sink} {fault : Fault} (h : Refuses bs s s' fault) :
    (∃ n, s'.bytes = s.bytes ++ bs.take n) ∧ s'.past.flushes = s.past.flushes := by
  obtain ⟨done, piece, rest, s₁, rfl, htakes, hwrite⟩ := h
  -- the pieces before the failure are there whole, and of the bad one the first `n` bytes
  obtain ⟨⟨n, hbytes⟩, hflushes⟩ := bytes_of_write_error hwrite
  rw [htakes.eq_take] at hbytes hflushes
  refine ⟨⟨done.length + min n piece.length, ?_⟩, hflushes⟩
  rw [hbytes, bytes_take, List.append_assoc, List.take_length_add_append,
    List.take_append_of_le_length (Nat.min_le_right ..), ← List.take_take, List.take_length]

/-- A flush leaves the bytes of a sink as they are and is counted, whether or not it succeeds. -/
theorem flush_snd (s : Sink) :
    s.flush.2 = { s with past := { s.past with flushes := s.past.flushes + 1 } } := by
  unfold flush
  split <;> rfl

end Sink

/-! ### Emissions -/

/-- Bytes for a sink, to be followed by one flush of it. -/
structure Emission where
  sink : SinkId
  bytes : Text.Bytes
  /-- How a run reports that the sink failed. -/
  halt : Fault → Halt
  /-- How the one who writes the bytes ends; for a line there is only one way. -/
  ending : Ending := .done

/-- What a run reports when a writer has come to its own end, unless that was a good one. -/
def Ending.halt? (halt : Fault → Halt) : Ending → Option Halt
  | .done => none
  | .failed fault => some (halt fault)
  | .panicked => some .panicked

namespace Emission

/-- The sink takes all the bytes of an emission and is then flushed with success. -/
def Lands (e : Emission) (s s' : Sink) : Prop :=
  e.ending = .done ∧ ∃ s₁, Sink.Takes e.bytes s s₁ ∧ s₁.flush = (.ok (), s')

/-- What keeps an emission from landing, and what the run then reports. -/
inductive CutShort (e : Emission) (s s' : Sink) : Halt → Prop
  /-- The sink fails somewhere among the bytes. -/
  | refused {fault : Fault} : Sink.Refuses e.bytes s s' fault → CutShort e s s' (e.halt fault)
  /-- All the bytes are written, and their writer fails or panics by itself. -/
  | ended {halt : Halt} : Sink.Takes e.bytes s s' → e.ending.halt? e.halt = some halt →
    CutShort e s s' halt
  /-- All the bytes are written, and the flush fails. -/
  | unflushed {s₁ : Sink} {fault : Fault} : e.ending = .done → Sink.Takes e.bytes s s₁ →
    s₁.flush = (.error fault, s') → CutShort e s s' (e.halt fault)

/-- An emission of which only the first bytes are left. -/
def cut (n : Nat) (e : Emission) : Emission :=
  { e with bytes := e.bytes.take n }

/-- An emission that lands adds all of its bytes and one flush. -/
theorem Lands.bytes {e : Emission} {s s' : Sink} (h : e.Lands s s') :
    s'.bytes = s.bytes ++ e.bytes ∧ s'.past.flushes = s.past.flushes + 1 := by
  obtain ⟨-, s₁, htakes, hflush⟩ := h
  have hs' : s₁.flush.2 = s' := congrArg Prod.snd hflush
  rw [← hs', Sink.flush_snd, htakes.eq_take]
  exact ⟨Sink.bytes_take s e.bytes, rfl⟩

/-- An emission that is cut short leaves a beginning of its bytes, and all of them if the sink was
flushed. -/
theorem CutShort.bytes {e : Emission} {s s' : Sink} {halt : Halt} (h : e.CutShort s s' halt) :
    (∃ n, s'.bytes = s.bytes ++ (e.cut n).bytes) ∧
      (s'.past.flushes = s.past.flushes ∨
        s'.past.flushes = s.past.flushes + 1 ∧ s'.bytes = s.bytes ++ e.bytes) := by
  cases h with
  | refused hrefuses => exact ⟨hrefuses.bytes.1, .inl hrefuses.bytes.2⟩
  | ended htakes _ =>
    rw [htakes.eq_take]
    refine ⟨⟨e.bytes.length, ?_⟩, .inl rfl⟩
    rw [Sink.bytes_take, cut, List.take_length]
  | @unflushed s₁ _ _ htakes hflush =>
    have hs' : s₁.flush.2 = s' := congrArg Prod.snd hflush
    have hbytes : s'.bytes = s.bytes ++ e.bytes := by
      rw [← hs', Sink.bytes_flush, htakes.eq_take, Sink.bytes_take]
    refine ⟨⟨e.bytes.length, ?_⟩, .inr ⟨?_, hbytes⟩⟩
    · rw [hbytes, cut, List.take_length]
    · rw [← hs', Sink.flush_snd, htakes.eq_take]
      rfl

end Emission

/-! ### Deliveries -/

/-- Nothing happens at other sinks than this one. -/
def OnlyAt (id : SinkId) (σ τ : SinkId → Sink) : Prop :=
  ∀ id', id' ≠ id → τ id' = σ id'

/-- Emissions that land one after the other. -/
inductive Delivered : List Emission → (SinkId → Sink) → (SinkId → Sink) → Prop
  | nil (σ : SinkId → Sink) : Delivered [] σ σ
  | cons {e : Emission} {es : List Emission} {σ σ₁ τ : SinkId → Sink} :
    e.Lands (σ e.sink) (σ₁ e.sink) → OnlyAt e.sink σ σ₁ → Delivered es σ₁ τ →
      Delivered (e :: es) σ τ

/-- The emissions that are for one sink. -/
def emissionsAt (id : SinkId) (es : List Emission) : List Emission :=
  es.filter (·.sink = id)

/-- The bytes that emissions have for one sink. -/
def bytesAt (id : SinkId) (es : List Emission) : Text.Bytes :=
  (emissionsAt id es).flatMap Emission.bytes

@[simp] theorem emissionsAt_append (id : SinkId) (es fs : List Emission) :
    emissionsAt id (es ++ fs) = emissionsAt id es ++ emissionsAt id fs :=
  List.filter_append ..

@[simp] theorem bytesAt_append (id : SinkId) (es fs : List Emission) :
    bytesAt id (es ++ fs) = bytesAt id es ++ bytesAt id fs := by
  rw [bytesAt, emissionsAt_append, List.flatMap_append]
  rfl

theorem emissionsAt_singleton_self (e : Emission) : emissionsAt e.sink [e] = [e] := by
  simp [emissionsAt]

theorem emissionsAt_singleton_other {e : Emission} {id : SinkId} (h : id ≠ e.sink) :
    emissionsAt id [e] = [] := by
  simp [emissionsAt, Ne.symm h]

theorem bytesAt_singleton_self (e : Emission) : bytesAt e.sink [e] = e.bytes := by
  rw [bytesAt, emissionsAt_singleton_self, List.flatMap_singleton]

theorem bytesAt_singleton_other {e : Emission} {id : SinkId} (h : id ≠ e.sink) :
    bytesAt id [e] = [] := by
  rw [bytesAt, emissionsAt_singleton_other h, List.flatMap_nil]

/-- Each sink gets exactly the bytes of its own emissions, in their order. -/
theorem Delivered.bytes {es : List Emission} {σ τ : SinkId → Sink} (h : Delivered es σ τ)
    (id : SinkId) : (τ id).bytes = (σ id).bytes ++ bytesAt id es := by
  induction h with
  | nil σ => exact (List.append_nil _).symm
  | @cons e es σ σ₁ τ hlands honly _ ih =>
    rw [ih, ← List.singleton_append, bytesAt_append, ← List.append_assoc]
    congr 1
    by_cases hid : id = e.sink
    · subst hid
      rw [hlands.bytes.1, bytesAt_singleton_self]
    · rw [honly id hid, bytesAt_singleton_other hid, List.append_nil]

/-- Each sink is flushed once for each of its own emissions. -/
theorem Delivered.flushes {es : List Emission} {σ τ : SinkId → Sink} (h : Delivered es σ τ)
    (id : SinkId) :
    (τ id).past.flushes = (σ id).past.flushes + (emissionsAt id es).length := by
  induction h with
  | nil σ => rfl
  | @cons e es σ σ₁ τ hlands honly _ ih =>
    rw [ih, ← List.singleton_append, emissionsAt_append, List.length_append, ← Nat.add_assoc]
    congr 1
    by_cases hid : id = e.sink
    · subst hid
      rw [hlands.bytes.2, emissionsAt_singleton_self, List.length_singleton]
    · rw [honly id hid, emissionsAt_singleton_other hid, List.length_nil, Nat.add_zero]

/-- What the sinks hold after a delivery and some more bytes at one of them. -/
theorem Delivered.bytes_then {es : List Emission} {e : Emission} {σ σ₁ τ : SinkId → Sink}
    (h : Delivered es σ σ₁) (honly : OnlyAt e.sink σ₁ τ)
    (hbytes : (τ e.sink).bytes = (σ₁ e.sink).bytes ++ e.bytes) (id : SinkId) :
    (τ id).bytes = (σ id).bytes ++ bytesAt id (es ++ [e]) := by
  rw [bytesAt_append, ← List.append_assoc, ← h.bytes id]
  by_cases hid : id = e.sink
  · subst hid
    rw [hbytes, bytesAt_singleton_self]
  · rw [honly id hid, bytesAt_singleton_other hid, List.append_nil]

/-- How often the sinks were flushed after a delivery and some more flushes of one of them. -/
theorem Delivered.flushes_then {es : List Emission} {e : Emission} {σ σ₁ τ : SinkId → Sink}
    (h : Delivered es σ σ₁) (honly : OnlyAt e.sink σ₁ τ) {n : Nat}
    (hflushes : (τ e.sink).past.flushes = (σ₁ e.sink).past.flushes + n) (id : SinkId) :
    (τ id).past.flushes = (σ id).past.flushes + (emissionsAt id es).length +
      n * (emissionsAt id [e]).length := by
  rw [← h.flushes id]
  by_cases hid : id = e.sink
  · subst hid
    rw [hflushes, emissionsAt_singleton_self, List.length_singleton, Nat.mul_one]
  · rw [honly id hid, emissionsAt_singleton_other hid, List.length_nil, Nat.mul_zero, Nat.add_zero]

end TraceTarget
