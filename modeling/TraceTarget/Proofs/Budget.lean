import Mathlib.Data.Nat.Count
import TraceTarget.Proofs.FirstFailure
import TraceTarget.Proofs.Lockstep

/-!
# A run on a sink with limited room

A driver and a counter share a sink that takes a number of bytes and then fails a write. What the
sink holds after the run and the end of the counter's life is known in closed form, wherever in the
transcript the sink fails, and whether or not it is well again after that.

- `Sink.HasRoom`: a sink that takes some more bytes and then fails.
- `Sink.Hurt`: such a sink after its failure.
- `HasRoom.write`: a write either fits or is cut at the limit. From it the same is derived for bytes
  in pieces, for emissions and for deliveries.
- `Driver.transcript`: all that a run writes.
- `count_funcEnd`: how many tests a run has made, read off the place of the failure.
- `SpillsAt`: what is known of a run that fails because the room ends.
- `EndsWithin`, `run_ends_within_budget`: the closed form.
-/

namespace TraceTarget

/-! ### Sinks with limited room -/

namespace Sink

/-- A plan to take some bytes in all. -/
def Plan.limited (limit : Nat) (fault : Fault) (heals : Bool) : Plan :=
  { accept := some limit, writeFault := fault, heals }

theorem Plan.limited_onWrite (limit : Nat) (fault : Fault) (heals : Bool) (past : Past)
    (bs : Text.Bytes) :
    (limited limit fault heals).behaviour.onWrite past bs =
      if heals ∧ 0 < past.failedWrites ∨ past.taken + bs.length ≤ limit then none
      else some (limit - past.taken, fault) := by
  show (if heals = true ∧ 0 < past.failedWrites then none
    else if past.taken + bs.length ≤ limit then none else some (limit - past.taken, fault)) = _
  by_cases h : heals = true ∧ 0 < past.failedWrites
  · rw [if_pos h, if_pos (.inl h)]
  · simp only [h, if_false, false_or]

/-- A sink that takes `n` more bytes and fails the write that brings more than that. Afterwards it
takes everything if it heals, and nothing otherwise. Its flushes work. -/
structure HasRoom (s : Sink) (n : Nat) (fault : Fault) (heals : Bool) : Prop where
  behaviour : s.behaviour = (Plan.limited (s.past.taken + n) fault heals).behaviour
  unhurt : s.past.failedWrites = 0

/-- A sink that had limited room and failed. -/
structure Hurt (s : Sink) (heals : Bool) : Prop where
  behaviour : ∃ fault, s.behaviour = (Plan.limited s.past.taken fault heals).behaviour
  hurt : 0 < s.past.failedWrites

variable {s s' : Sink} {n : Nat} {fault : Fault} {heals : Bool} {bs : Text.Bytes}

/-- A fresh sink with a plan to take some bytes has room for them. -/
theorem hasRoom_ofPlan (n : Nat) (fault : Fault) (heals : Bool) :
    (ofPlan (.limited n fault heals)).HasRoom n fault heals := by
  refine ⟨?_, rfl⟩
  show _ = (Plan.limited (0 + n) fault heals).behaviour
  rw [Nat.zero_add]
  rfl

/-- What a sink with room takes leaves it with less room. -/
theorem HasRoom.take (h : s.HasRoom n fault heals) (hfits : bs.length ≤ n) :
    (s.take bs).HasRoom (n - bs.length) fault heals := by
  have htaken : (s.take bs).past.taken + (n - bs.length) = s.past.taken + n := by
    show s.past.taken + bs.length + (n - bs.length) = s.past.taken + n
    omega
  refine ⟨?_, h.unhurt⟩
  rw [htaken]
  exact h.behaviour

/-- A write either fits or is cut where the room ends. -/
theorem HasRoom.write (h : s.HasRoom n fault heals) (bs : Text.Bytes) :
    match s.write bs with
    | (.ok (), s') => bs.length ≤ n ∧ s'.HasRoom (n - bs.length) fault heals
    | (.error f, s') =>
      n < bs.length ∧ f = fault ∧ s'.bytes = s.bytes ++ bs.take n ∧ s'.Hurt heals := by
  unfold Sink.write
  by_cases hnil : bs = []
  · rw [if_pos hnil, hnil]
    exact ⟨Nat.zero_le n, h⟩
  have hanswer : s.behaviour.onWrite s.past bs =
      if s.past.taken + bs.length ≤ s.past.taken + n then none else some (n, fault) := by
    rw [h.behaviour, Plan.limited_onWrite, h.unhurt]
    simp only [Nat.lt_irrefl, and_false, false_or, Nat.add_sub_cancel_left]
  rw [if_neg hnil, hanswer]
  by_cases hfits : bs.length ≤ n
  · rw [if_pos (by omega)]
    exact ⟨hfits, h.take hfits⟩
  · -- exactly the room is used up, and the count of failed writes tells so from now on
    rw [if_neg (by omega)]
    have hlength : (bs.take n).length = n := List.length_take_of_le (by omega)
    refine ⟨by omega, rfl, bytes_take s (bs.take n), ⟨fault, ?_⟩, Nat.succ_pos _⟩
    show s.behaviour = (Plan.limited (s.past.taken + (bs.take n).length) fault heals).behaviour
    rw [hlength]
    exact h.behaviour

/-- Whether or not it succeeds, a write leaves what there is room for. -/
theorem HasRoom.bytes_write (h : s.HasRoom n fault heals) (bs : Text.Bytes) :
    (s.write bs).2.bytes = s.bytes ++ bs.take n := by
  have hwritten := h.write bs
  rcases hwrite : s.write bs with ⟨f | u, s'⟩ <;> rw [hwrite] at hwritten
  · exact hwritten.2.2.1
  · rw [eq_take_of_write hwrite, bytes_take, List.take_of_length_le hwritten.1]

/-- A sink that failed takes everything or nothing. -/
theorem Hurt.bytes_write (h : s.Hurt heals) (bs : Text.Bytes) :
    (s.write bs).2.bytes = s.bytes ++ if heals then bs else [] := by
  obtain ⟨⟨fault, hbehaviour⟩, hhurt⟩ := h
  unfold Sink.write
  by_cases hnil : bs = []
  · rw [if_pos hnil, hnil, ite_self, List.append_nil]
  have hlength : 0 < bs.length := List.length_pos_iff.mpr hnil
  have hanswer : s.behaviour.onWrite s.past bs = if heals then none else some (0, fault) := by
    rw [hbehaviour, Plan.limited_onWrite, Nat.sub_self]
    cases heals with
    | false => exact if_neg (by simp only [Bool.false_eq_true, false_and, false_or]; omega)
    | true => exact if_pos (.inl ⟨rfl, hhurt⟩)
  rw [if_neg hnil, hanswer]
  cases heals with
  | false => exact bytes_take s []
  | true => exact bytes_take s bs

/-- A flush takes no room and succeeds. -/
theorem HasRoom.flush (h : s.HasRoom n fault heals) :
    s.flush.1 = .ok () ∧ s.flush.2.HasRoom n fault heals := by
  have hanswer : s.behaviour.onFlush s.past = none := by
    rw [h.behaviour]
    rfl
  rw [flush_snd]
  refine ⟨?_, h.behaviour, h.unhurt⟩
  unfold Sink.flush
  rw [hanswer]

/-- Bytes that are taken in pieces fit as a whole. -/
theorem HasRoom.takes (h : s.HasRoom n fault heals) (htakes : Takes bs s s') :
    bs.length ≤ n ∧ s'.HasRoom (n - bs.length) fault heals := by
  induction htakes generalizing n with
  | nil s => exact ⟨Nat.zero_le n, h⟩
  | @cons piece rest s s₁ s₂ hwrite _ ih =>
    have hpiece := h.write piece
    rw [hwrite] at hpiece
    obtain ⟨hfits, hroom⟩ := ih hpiece.2
    rw [List.length_append, ← Nat.sub_sub]
    exact ⟨by omega, hroom⟩

/-- Bytes that are refused somewhere are cut where the room ends. -/
theorem HasRoom.refuses {f : Fault} (h : s.HasRoom n fault heals) (hrefuses : Refuses bs s s' f) :
    n < bs.length ∧ f = fault ∧ s'.bytes = s.bytes ++ bs.take n ∧ s'.Hurt heals := by
  obtain ⟨done, piece, rest, s₁, rfl, htakes, hwrite⟩ := hrefuses
  obtain ⟨hfits, hroom⟩ := h.takes htakes
  have hpiece := hroom.write piece
  rw [hwrite] at hpiece
  obtain ⟨hspills, hfault, hbytes, hhurt⟩ := hpiece
  refine ⟨by simp only [List.length_append]; omega, hfault, ?_, hhurt⟩
  rw [hbytes, htakes.eq_take, bytes_take, List.append_assoc, List.take_append,
    List.take_of_length_le hfits, List.take_append_of_le_length (by omega)]

end Sink

/-! ### Emissions -/

section Emissions

variable {s s' : Sink} {n : Nat} {fault : Fault} {heals : Bool} {e : Emission}

/-- An emission that lands fits. -/
theorem Emission.Lands.fits (h : e.Lands s s') (hroom : s.HasRoom n fault heals) :
    e.bytes.length ≤ n ∧ s'.HasRoom (n - e.bytes.length) fault heals := by
  obtain ⟨-, s₁, htakes, hflush⟩ := h
  obtain ⟨hfits, hroom₁⟩ := hroom.takes htakes
  have hflushed := hroom₁.flush.2
  rw [hflush] at hflushed
  exact ⟨hfits, hflushed⟩

/-- An emission whose writer ends well is cut short only where the room ends. -/
theorem Emission.CutShort.spills {halt : Halt} (h : e.CutShort s s' halt) (hend : e.ending = .done)
    (hroom : s.HasRoom n fault heals) :
    n < e.bytes.length ∧ halt = e.halt fault ∧ s'.bytes = s.bytes ++ e.bytes.take n ∧
      s'.Hurt heals := by
  cases h with
  | refused hrefuses =>
    obtain ⟨hspills, rfl, hbytes, hhurt⟩ := hroom.refuses hrefuses
    exact ⟨hspills, rfl, hbytes, hhurt⟩
  | ended _ hhalt =>
    rw [hend] at hhalt
    cases hhalt
  | unflushed _ htakes hflush =>
    have hflushed := (hroom.takes htakes).2.flush.1
    rw [hflush] at hflushed
    cases hflushed

/-- Emissions that are delivered fit as a whole. -/
theorem Delivered.fits {es : List Emission} {σ τ : SinkId → Sink} {id : SinkId}
    (h : Delivered es σ τ) (hroom : (σ id).HasRoom n fault heals) :
    (bytesAt id es).length ≤ n ∧ (τ id).HasRoom (n - (bytesAt id es).length) fault heals := by
  induction h generalizing n with
  | nil σ => exact ⟨Nat.zero_le n, hroom⟩
  | @cons e es σ σ₁ τ hlands honly _ ih =>
    rw [← List.singleton_append, bytesAt_append, List.length_append, ← Nat.sub_sub]
    by_cases hid : id = e.sink
    · subst hid
      rw [bytesAt_singleton_self]
      obtain ⟨hfits, hroom₁⟩ := hlands.fits hroom
      obtain ⟨hrest, hlast⟩ := ih hroom₁
      exact ⟨by omega, hlast⟩
    · rw [bytesAt_singleton_other hid, List.length_nil, Nat.zero_add, Nat.sub_zero]
      rw [← honly id hid] at hroom
      exact ih hroom

end Emissions

/-! ### The transcript -/

/-- The start banner and the lines of the first iterations. -/
def linesBefore (i : Nat) : Text.Bytes :=
  Line.start.bytes ++
    (List.range i).flatMap fun k => (Line.func (.ofNat k)).bytes ++ (Line.test (.ofNat k)).bytes

/-- Where the line ends that the function prints in an iteration. -/
def funcEnd (i : Nat) : Nat :=
  (linesBefore i ++ (Line.func (.ofNat i)).bytes).length

/-- All that a run writes, if its reporter writes this text when it is called. -/
def Driver.transcript (d : Driver) (text : Text.Bytes) : Text.Bytes :=
  linesBefore 10 ++ (if d.revision.callsReporter then text else []) ++ Line.finish.bytes

/-- What a run writes before a juncture. -/
def Driver.written (d : Driver) (text : Text.Bytes) : Juncture → Text.Bytes
  | .startBanner => []
  | .func i => linesBefore i
  | .test i => linesBefore i ++ (Line.func (.ofNat i)).bytes
  | .reporter => linesBefore 10
  | .endBanner => linesBefore 10 ++ if d.revision.callsReporter then text else []

/-- What a move writes. -/
def Move.bytes (text : Text.Bytes) : Move → Text.Bytes
  | banner _ line => line.bytes
  | func i => (Line.func i).bytes
  | test i => (Line.test i).bytes
  | report => text
  | begin | iterated _ | pause | reported | done => []

section Transcript

variable {out : SinkId} {text : Text.Bytes} {d : Driver}

/-- Where driver and counter share a sink, everything that a move writes goes there. -/
theorem emission?_shared {m : Move} {e : Emission}
    (h : m.emission? out out text .done = some e) :
    e.sink = out ∧ e.bytes = m.bytes text ∧ e.ending = .done := by
  cases m <;> cases h <;> exact ⟨rfl, rfl, rfl⟩

/-- The moves that have no emission in them write nothing. -/
theorem bytes_of_emission?_none {m : Move} (h : m.emission? out out text .done = none) :
    m.bytes text = [] := by
  cases m <;> first | rfl | cases h

/-- The bytes of all emissions of some moves, for the shared sink. -/
theorem bytesAt_moves (ms : List Move) :
    bytesAt out (ms.filterMap (Move.emission? out out text .done)) =
      ms.flatMap (Move.bytes text) := by
  induction ms with
  | nil => rfl
  | cons m ms ih =>
    rw [List.flatMap_cons, ← ih]
    cases he : m.emission? out out text .done with
    | none => rw [List.filterMap_cons_none he, bytes_of_emission?_none he, List.nil_append]
    | some e =>
      obtain ⟨rfl, hbytes, -⟩ := emission?_shared he
      rw [List.filterMap_cons_some he, ← List.singleton_append, bytesAt_append,
        bytesAt_singleton_self, hbytes]

theorem bytes_opening_rounds (n : Nat) :
    (Driver.opening ++ rounds n).flatMap (Move.bytes text) = linesBefore n := by
  have hrounds : (rounds n).flatMap (Move.bytes text) =
      (List.range n).flatMap fun k =>
        (Line.func (.ofNat k)).bytes ++ (Line.test (.ofNat k)).bytes := by
    rw [rounds, List.flatMap_assoc]
    simp only [Driver.iteration, List.flatMap_cons, List.flatMap_nil, Move.bytes, List.append_nil]
  rw [List.flatMap_append, hrounds]
  simp only [Driver.opening, List.flatMap_cons, List.flatMap_nil, Move.bytes, List.append_nil,
    List.nil_append, linesBefore]

theorem bytes_reporting (d : Driver) :
    d.reporting.flatMap (Move.bytes text) = if d.revision.callsReporter then text else [] := by
  unfold Driver.reporting
  cases d.revision.callsReporter with
  | false => rfl
  | true => exact List.append_nil text

/-- The moves before a juncture write what the table says. -/
theorem bytes_before (d : Driver) (p : Juncture) :
    (d.before p).flatMap (Move.bytes text) = d.written text p := by
  cases p with
  | startBanner => rfl
  | func i => exact bytes_opening_rounds i
  | test i =>
    rw [Driver.before, List.flatMap_append, bytes_opening_rounds, List.flatMap_singleton]
    rfl
  | reporter => exact bytes_opening_rounds 10
  | endBanner =>
    rw [Driver.before, List.flatMap_append, bytes_opening_rounds, bytes_reporting]
    rfl

/-- All the moves of a run write its transcript. -/
theorem bytes_moves (d : Driver) : d.moves.flatMap (Move.bytes text) = d.transcript text := by
  rw [Driver.moves_eq, ← List.append_assoc, List.flatMap_append, bytes_opening_rounds,
    List.flatMap_append, bytes_reporting, ← List.append_assoc]
  rfl

end Transcript

/-! ### Reading the tests off the place of the failure -/

theorem linesBefore_succ (i : Nat) :
    (linesBefore (i + 1)).length = funcEnd i + (Line.test (.ofNat i)).bytes.length := by
  simp only [linesBefore, funcEnd, List.range_succ, List.flatMap_append, List.flatMap_singleton,
    List.length_append]
  omega

theorem linesBefore_le_funcEnd (i : Nat) : (linesBefore i).length ≤ funcEnd i := by
  rw [funcEnd, List.length_append]
  exact Nat.le_add_right ..

theorem funcEnd_le_linesBefore {i j : Nat} (h : i < j) : funcEnd i ≤ (linesBefore j).length := by
  induction j, h using Nat.le_induction with
  | base =>
    rw [linesBefore_succ]
    exact Nat.le_add_right ..
  | succ j _ ih =>
    have hj := linesBefore_le_funcEnd j
    rw [linesBefore_succ]
    omega

theorem linesBefore_le_funcEnd_of_le {i j : Nat} (h : i ≤ j) :
    (linesBefore i).length ≤ funcEnd j := by
  rcases Nat.eq_or_lt_of_le h with rfl | h
  · exact linesBefore_le_funcEnd i
  · exact (linesBefore_le_funcEnd i).trans
      ((funcEnd_le_linesBefore h).trans (linesBefore_le_funcEnd j))

theorem funcEnd_mono {i j : Nat} (h : i ≤ j) : funcEnd i ≤ funcEnd j := by
  rcases Nat.eq_or_lt_of_le h with rfl | h
  · exact Nat.le_refl _
  · exact (funcEnd_le_linesBefore h).trans (linesBefore_le_funcEnd j)

/-- The lines of the function that lie within the first `n` bytes are those of the first `k`
iterations. -/
theorem count_funcEnd_eq {n k : Nat} (hk : k ≤ 10) (hbefore : ∀ i < k, funcEnd i ≤ n)
    (hafter : ∀ i, k ≤ i → i < 10 → n < funcEnd i) : Nat.count (funcEnd · ≤ n) 10 = k := by
  obtain ⟨r, hr⟩ := Nat.exists_eq_add_of_le hk
  have hfirst : Nat.count (funcEnd · ≤ n) k = k := Nat.count_iff_forall.mpr hbefore
  have hlast : Nat.count (fun i => funcEnd (k + i) ≤ n) r = 0 := by
    rw [Nat.count_iff_forall_not]
    intro i hi
    exact Nat.not_le.mpr (hafter (k + i) (by omega) (by omega))
  rw [hr, Nat.count_add, hfirst, hlast, Nat.add_zero]

/-- All ten iterations lie within the first `n` bytes. -/
theorem count_funcEnd_all {n : Nat} (h : (linesBefore 10).length ≤ n) :
    Nat.count (funcEnd · ≤ n) 10 = 10 := by
  apply count_funcEnd_eq (Nat.le_refl 10)
  · intro i hi
    exact (funcEnd_le_linesBefore hi).trans h
  · intro i hk hi
    exact absurd hk (Nat.not_le.mpr hi)

/-- A run that fails because byte `n` of its transcript has no room has made as many tests as lines
of the function lie within the first `n` bytes. -/
theorem count_funcEnd {d : Driver} {text : Text.Bytes} {n : Nat} {p : Juncture} (hp : d.Reaches p)
    (hle : (d.written text p).length ≤ n)
    (hlt : n < (d.written text p).length + (p.move.bytes text).length) :
    Nat.count (funcEnd · ≤ n) 10 = (d.tallyAt p).tests := by
  cases p with
  | startBanner =>
    have hn : n < (linesBefore 0).length := by
      rw [linesBefore, List.range_zero, List.flatMap_nil, List.append_nil,
        ← Nat.zero_add (List.length _)]
      exact hlt
    apply count_funcEnd_eq (Nat.zero_le _)
    · intro i hi
      exact absurd hi (Nat.not_lt_zero i)
    · intro i _ _
      exact hn.trans_le (linesBefore_le_funcEnd_of_le (Nat.zero_le i))
  | func i =>
    have hn : n < funcEnd i := by
      rw [funcEnd, List.length_append]
      exact hlt
    apply count_funcEnd_eq (Nat.le_of_lt hp)
    · intro k hk
      exact (funcEnd_le_linesBefore hk).trans hle
    · intro k hk _
      exact hn.trans_le (funcEnd_mono hk)
  | test i =>
    have hn : n < (linesBefore (i + 1)).length := by
      rw [linesBefore_succ, funcEnd]
      exact hlt
    -- the line of the function is there whole, so this iteration's test counts as well
    apply count_funcEnd_eq hp
    · intro k hk
      exact (funcEnd_mono (Nat.le_of_lt_succ hk)).trans hle
    · intro k hk _
      exact hn.trans_le (linesBefore_le_funcEnd_of_le hk)
  | reporter => exact count_funcEnd_all hle
  | endBanner =>
    refine count_funcEnd_all (le_trans ?_ hle)
    rw [Driver.written, List.length_append]
    exact Nat.le_add_right ..

/-! ### The end of the counter -/

/-- What is written at the end of the life of a counter after some more tests. -/
def Counter.lastWords (c : Counter) (tests : Nat) : Text.Bytes :=
  match c.endReport with
  | .silent => []
  | .hexCount => (Line.destructor (.ofNat (c.countAfter tests))).bytes

theorem Sink.bytes_emit (s : Sink) (bs : Text.Bytes) :
    (s.emit bs).2.bytes = (s.write bs).2.bytes := by
  unfold Sink.emit
  rcases s.write bs with ⟨fault | u, s₁⟩
  · rfl
  · exact bytes_flush s₁

/-- The end of a counter's life is one write to its sink, as far as bytes go. -/
theorem Counter.bytes_retire (c : Counter) (b : Bench) :
    ((c.retire b).sink c.sink).bytes = ((b.sink c.sink).write (c.lastWords 0)).2.bytes := by
  have hcount : UInt32.ofNat (c.countAfter 0) = c.count := by
    rw [← count_advance, UInt32.ofNat_toNat]
    rfl
  unfold retire lastWords
  cases c.endReport with
  | silent => rfl
  | hexCount =>
    have hsink : (b.emit c.sink (Line.destructor c.count).bytes).2.sink c.sink =
        ((b.sink c.sink).emit (Line.destructor c.count).bytes).2 := Bench.sink_withSink_self ..
    rw [hcount, ← Sink.bytes_emit, ← hsink]
    rcases b.emit c.sink (Line.destructor c.count).bytes with ⟨fault | u, b₁⟩ <;> rfl

theorem Counter.lastWords_advance (c : Counter) (n : Nat) :
    (c.advance n).lastWords 0 = c.lastWords n := by
  have hcount : (c.advance n).countAfter 0 = c.countAfter n := by
    rw [← count_advance, ← count_advance]
    rfl
  rw [lastWords, lastWords, advance_endReport, hcount]

/-! ### Run and end of the counter -/

/-- What remains of a run and the end of its counter's life on a shared sink with room for `n` more
bytes. -/
structure EndsWithin (d : Driver) (text : Text.Bytes) (s : Stage) (n : Nat) (fault : Fault)
    (heals : Bool) (result : Except Halt Summary) (left : Sink) : Prop where
  /-- The run succeeds exactly if its transcript fits. -/
  succeeds : (∃ summary, result = .ok summary) ↔ (d.transcript text).length ≤ n
  /-- Otherwise it fails as the emission has it that the first byte without room belongs to. -/
  fails : n < (d.transcript text).length →
    ∃ es e es', d.emissions s.counter.sink s.counter.sink text .done = es ++ e :: es' ∧
      (bytesAt s.counter.sink es).length ≤ n ∧
      n < (bytesAt s.counter.sink es).length + e.bytes.length ∧ result = .error (e.halt fault)
  /-- Unless a sink that heals fails during the run, the limit cuts the transcript and the last
  words after ten tests. -/
  cut : heals = false ∨ (d.transcript text).length ≤ n →
    left.bytes = (s.bench.sink s.counter.sink).bytes ++
      (d.transcript text ++ s.counter.lastWords 10).take n
  /-- Otherwise the limit cuts the transcript, and the last words after the tests that were made
  follow whole. -/
  healed : heals = true → n < (d.transcript text).length →
    left.bytes = (s.bench.sink s.counter.sink).bytes ++
      ((d.transcript text).take n ++ s.counter.lastWords (Nat.count (funcEnd · ≤ n) 10))

section Closed

variable {d : Driver} {text : Text.Bytes} {s s' : Stage} {n : Nat} {fault : Fault} {heals : Bool}

/-- The end of a counter that kept step. -/
theorem Lockstep.bytes_retire {ms : List Move} {t : Tally}
    (h : Lockstep d ms s.ledger s'.ledger t) :
    ((s'.counter.retire s'.bench).sink s.counter.sink).bytes =
      ((s'.bench.sink s.counter.sink).write (s.counter.lastWords t.tests)).2.bytes := by
  have hcounter : s'.counter = s.counter.advance t.tests := h.counter
  have hsink : s'.counter.sink = s.counter.sink := by rw [hcounter, Counter.advance_sink]
  have hwords : s'.counter.lastWords 0 = s.counter.lastWords t.tests := by
    rw [hcounter, Counter.lastWords_advance]
  rw [← hsink, Counter.bytes_retire, hwords]

/-- All moves succeed: the transcript fits, and the last words get the room that is left. -/
theorem endsWithin_of_ok (h : d.reporter.script.Prints text .done)
    (hroom : (s.bench.sink s.counter.sink).HasRoom n fault heals)
    (hall : d.performAll s.counter.sink d.moves s = (.ok (), s')) (summary : Summary) :
    EndsWithin d text s n fault heals (.ok summary)
      ((s'.counter.retire s'.bench).sink s.counter.sink) := by
  have hdelivered := (Driver.performAll_delivers h rfl hall).1
  obtain ⟨hfits, hroom'⟩ := hdelivered.fits hroom
  have hbytes := hdelivered.bytes s.counter.sink
  rw [bytesAt_moves, bytes_moves] at hfits hroom' hbytes
  refine { succeeds := ?_, fails := ?_, cut := ?_, healed := ?_ }
  · constructor
    · intro _
      exact hfits
    · intro _
      exact ⟨summary, rfl⟩
  · intro hlt
    exact absurd hfits (Nat.not_le.mpr hlt)
  · intro _
    rw [(lockstep_of_ok hall).bytes_retire, hroom'.bytes_write, hbytes, List.append_assoc,
      List.take_append, List.take_of_length_le hfits]
    rfl
  · intro _ hlt
    exact absurd hfits (Nat.not_le.mpr hlt)

/-- The moves of a run come to a juncture, and the room ends in what the move there writes. -/
structure SpillsAt (d : Driver) (text : Text.Bytes) (s s' : Stage) (n : Nat) (heals : Bool)
    (p : Juncture) (e : Emission) (rest : List Move) : Prop where
  reaches : d.Reaches p
  moves : d.moves = d.before p ++ p.move :: rest
  emission : p.move.emission? s.counter.sink s.counter.sink text .done = some e
  before : (d.written text p).length ≤ n
  within : n < (d.written text p).length + e.bytes.length
  bytes : (s'.bench.sink s.counter.sink).bytes =
    (s.bench.sink s.counter.sink).bytes ++ (d.transcript text).take n
  hurt : (s'.bench.sink s.counter.sink).Hurt heals
  inStep : Lockstep d (d.before p ++ [p.move]) s.ledger s'.ledger (d.tallyAt p)

/-- A run that comes to a juncture writes its transcript in three parts. -/
theorem transcript_eq {p : Juncture} {rest : List Move}
    (hmoves : d.moves = d.before p ++ p.move :: rest) :
    d.transcript text =
      d.written text p ++ (p.move.bytes text ++ rest.flatMap (Move.bytes text)) := by
  rw [← bytes_moves, hmoves, List.flatMap_append, List.flatMap_cons, bytes_before]

/-- A run that fails on a sink with limited room does so where the room ends. -/
theorem spillsAt_of_error {halt : Halt} (h : d.reporter.script.Prints text .done)
    (hroom : (s.bench.sink s.counter.sink).HasRoom n fault heals)
    (hall : d.performAll s.counter.sink d.moves s = (.error halt, s')) :
    ∃ p e rest, SpillsAt d text s s' n heals p e rest ∧ halt = e.halt fault := by
  obtain ⟨p, rest, s₁, hp, hmoves, hdone, hmove, -, hstep⟩ := lockstep_of_error hall
  obtain ⟨hdelivered, hown⟩ := Driver.performAll_delivers h rfl hdone
  obtain ⟨e, he, -, hcut⟩ := Driver.perform_error h hown hmove
  obtain ⟨hsink, hebytes, hend⟩ := emission?_shared he
  rw [hsink] at hcut
  -- what landed before the juncture fits, and what was to be written there does not
  obtain ⟨hbefore, hroom₁⟩ := hdelivered.fits hroom
  obtain ⟨hspills, hhalt, hlast, hhurt⟩ := hcut.spills hend hroom₁
  have hfirst := hdelivered.bytes s.counter.sink
  rw [bytesAt_moves, bytes_before] at hbefore hfirst hspills hlast
  have hbytes : (s'.bench.sink s.counter.sink).bytes =
      (s.bench.sink s.counter.sink).bytes ++ (d.transcript text).take n := by
    rw [hlast, hfirst, transcript_eq hmoves, ← hebytes, List.append_assoc, List.take_append,
      List.take_of_length_le hbefore, List.take_append_of_le_length (Nat.le_of_lt hspills)]
  have hwithin : n < (d.written text p).length + e.bytes.length := by omega
  exact ⟨p, e, rest, ⟨hp, hmoves, he, hbefore, hwithin, hbytes, hhurt, hstep⟩, hhalt⟩

namespace SpillsAt

variable {p : Juncture} {e : Emission} {rest : List Move}

/-- The transcript is longer than the room. -/
theorem short (h : SpillsAt d text s s' n heals p e rest) : n < (d.transcript text).length := by
  have hwithin := h.within
  rw [transcript_eq h.moves, ← (emission?_shared h.emission).2.1, List.length_append,
    List.length_append]
  omega

/-- The tests that were made can be read off the room. -/
theorem tests (h : SpillsAt d text s s' n heals p e rest) :
    Nat.count (funcEnd · ≤ n) 10 = (d.tallyAt p).tests := by
  have hwithin := h.within
  rw [(emission?_shared h.emission).2.1] at hwithin
  exact count_funcEnd h.reaches h.before hwithin

/-- The emission in which the room ends, and what stands before it. -/
theorem emissions (h : SpillsAt d text s s' n heals p e rest) :
    ∃ es es', d.emissions s.counter.sink s.counter.sink text .done = es ++ e :: es' ∧
      (bytesAt s.counter.sink es).length ≤ n ∧
      n < (bytesAt s.counter.sink es).length + e.bytes.length := by
  refine ⟨(d.before p).filterMap (Move.emission? s.counter.sink s.counter.sink text .done),
    rest.filterMap (Move.emission? s.counter.sink s.counter.sink text .done), ?_, ?_, ?_⟩
  · rw [← moves_emissions, h.moves, List.filterMap_append, List.filterMap_cons_some h.emission]
  · rw [bytesAt_moves, bytes_before]
    exact h.before
  · rw [bytesAt_moves, bytes_before]
    exact h.within

end SpillsAt

/-- A move fails: the limit lies in what it writes, and the last words meet a sink that failed. -/
theorem endsWithin_of_error {halt : Halt} (h : d.reporter.script.Prints text .done)
    (hroom : (s.bench.sink s.counter.sink).HasRoom n fault heals)
    (hall : d.performAll s.counter.sink d.moves s = (.error halt, s')) :
    EndsWithin d text s n fault heals (.error halt)
      ((s'.counter.retire s'.bench).sink s.counter.sink) := by
  obtain ⟨p, e, rest, hspills, rfl⟩ := spillsAt_of_error h hroom hall
  have hshort := hspills.short
  have hleft := hspills.inStep.bytes_retire
  rw [hspills.hurt.bytes_write, hspills.bytes] at hleft
  refine { succeeds := ?_, fails := ?_, cut := ?_, healed := ?_ }
  · constructor
    · rintro ⟨summary, hsummary⟩
      cases hsummary
    · intro hfits
      exact absurd hfits (Nat.not_le.mpr hshort)
  · intro _
    obtain ⟨es, es', hemissions, hbefore, hwithin⟩ := hspills.emissions
    exact ⟨es, e, es', hemissions, hbefore, hwithin, rfl⟩
  · intro hor
    -- the transcript does not fit, so the sink does not heal and takes none of the last words
    obtain rfl : heals = false := hor.resolve_right (Nat.not_le.mpr hshort)
    rw [hleft, List.take_append_of_le_length (Nat.le_of_lt hshort)]
    exact List.append_nil _
  · intro hheals _
    subst hheals
    rw [hleft, hspills.tests, List.append_assoc]
    rfl

end Closed

end TraceTarget
