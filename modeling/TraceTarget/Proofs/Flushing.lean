import TraceTarget.Proofs.LastLine
import TraceTarget.Proofs.Writing

/-!
# Every emission is flushed before the next one begins

Who watches a run from outside sees each line as soon as the next step is made, because every
emission has its own flush directly after it. A flush that fails shows where the flushes are: it
stops the run with all emissions so far in the sinks whole and with nothing of the next one.

- `Sink.Passes`, `Sink.FailsFlush`: sinks whose next flushes pass, and sinks of which a certain one
  fails, counted from now.
- `Sink.Answers`: how a flush yet to come is answered; `Sink.Later`: the same sink, some flushes
  later.
- `Driver.flushesAt`: how often a run flushes each sink; `length_emissionsAt` says that this is once
  for each emission.
- `Driver.haltAt`: how a run fails at its emission number `k`.
- `Completes`, `StopsAtFlush`: what a run leaves behind whose flushes pass, and one that is stopped
  by a flush; `completes_or_stops` says that there is nothing else.
- `EndsUnflushed`: a run after which the flush of the counter's last line fails.
- `run_flushes_each_emission`: which of these comes about, given the flush that fails.
-/

namespace TraceTarget

/-! ### Flushes that pass and flushes that fail -/

namespace Sink

/-- The next `n` flushes of a sink pass. -/
def Passes (s : Sink) (n : Nat) : Prop :=
  ∀ past : Past, s.past.flushes ≤ past.flushes → past.flushes < s.past.flushes + n →
    s.behaviour.onFlush past = none

/-- The flush number `k` from now on fails, and those before it pass. Of the later ones any may
fail. -/
structure FailsFlush (s : Sink) (k : Nat) (fault : Fault) : Prop where
  before : s.Passes (k - 1)
  fails : ∀ past : Past, past.flushes + 1 = s.past.flushes + k →
    s.behaviour.onFlush past = some fault

/-- The flush that comes after `m` others was answered like this. -/
def Answers (s : Sink) (m : Nat) (answer : Option Fault) : Prop :=
  ∃ past : Past, past.flushes = s.past.flushes + m ∧ s.behaviour.onFlush past = answer

/-- The same sink, some flushes later. -/
structure Later (s : Sink) (m : Nat) (s' : Sink) : Prop where
  behaviour : s'.behaviour = s.behaviour
  flushes : s'.past.flushes = s.past.flushes + m

variable {s s₁ s' : Sink} {bs : Text.Bytes} {m n k : Nat} {fault : Fault}

/-- A fresh sink with a plan to fail a flush fails that one. -/
theorem failsFlush_ofPlan (p : Plan) (hk : 1 ≤ k) (hplan : p.failFlush = some k) :
    (ofPlan p).FailsFlush k p.flushFault := by
  have hanswer (past : Past) : p.behaviour.onFlush past =
      if (if p.heals then past.flushes + 1 = k else k ≤ past.flushes + 1) then some p.flushFault
      else none := by
    unfold Plan.behaviour
    simp only [hplan]
  constructor
  · intro past _ hlt
    have hbefore : past.flushes + 1 < k := by
      have hlt : past.flushes < 0 + (k - 1) := hlt
      omega
    show p.behaviour.onFlush past = none
    rw [hanswer, if_neg]
    split <;> omega
  · intro past hpast
    have hpast : past.flushes + 1 = k := hpast.trans (Nat.zero_add k)
    show p.behaviour.onFlush past = some p.flushFault
    rw [hanswer, if_pos]
    split <;> omega

theorem Passes.not_answers (h : s.Passes n) (hm : m < n) : ¬s.Answers m (some fault) := by
  rintro ⟨past, hpast, hanswer⟩
  rw [h past (by omega) (by omega)] at hanswer
  cases hanswer

theorem FailsFlush.answer (h : s.FailsFlush (m + 1) fault) {answer : Option Fault}
    (hanswers : s.Answers m answer) : answer = some fault := by
  obtain ⟨past, hpast, rfl⟩ := hanswers
  exact h.fails past (by omega)

/-- A flush that is yet to come is later from here. -/
theorem Later.answers (h : s.Later m s') {answer : Option Fault} (hanswers : s'.Answers n answer) :
    s.Answers (m + n) answer := by
  obtain ⟨past, hpast, rfl⟩ := hanswers
  rw [h.behaviour]
  exact ⟨past, by rw [hpast, h.flushes, Nat.add_assoc], rfl⟩

/-- A flush after some bytes is the next one. -/
theorem answers_flush {result : Except Fault Unit} (htakes : Takes bs s s₁)
    (hflush : s₁.flush = (result, s')) :
    s.Answers 0 (match result with | .ok _ => none | .error fault => some fault) := by
  rw [htakes.eq_take] at hflush
  refine ⟨(s.take bs).past, rfl, ?_⟩
  unfold flush at hflush
  split at hflush
  · next hanswer =>
    cases hflush
    exact hanswer
  · next hanswer =>
    cases hflush
    exact hanswer

end Sink

section Emissions

variable {e : Emission} {es : List Emission} {s s' : Sink} {σ τ : SinkId → Sink} {id : SinkId}

/-- An emission that lands is one flush. -/
theorem Emission.Lands.later (h : e.Lands s s') : s.Later 1 s' :=
  ⟨h.behaviour, h.bytes.2⟩

/-- Emissions that land at a sink are as many flushes of it. -/
theorem Delivered.later (h : Delivered es σ τ) (id : SinkId) :
    (σ id).Later (emissionsAt id es).length (τ id) :=
  ⟨h.sameBehaviour id, h.flushes id⟩

/-- Where everything lands, all flushes pass. -/
theorem Delivered.answers (h : Delivered es σ τ) {m : Nat} (hm : m < (emissionsAt id es).length) :
    (σ id).Answers m none := by
  induction h generalizing m with
  | nil σ => cases hm
  | @cons e es σ σ₁ τ hlands honly _ ih =>
    rw [← List.singleton_append, emissionsAt_append, List.length_append] at hm
    by_cases hid : id = e.sink
    · subst hid
      rw [emissionsAt_singleton_self, List.length_singleton] at hm
      cases m with
      | zero =>
        obtain ⟨-, s₁, htakes, hflush⟩ := hlands
        exact Sink.answers_flush htakes hflush
      | succ m =>
        -- one flush further on, `m` are left before it
        rw [Nat.add_comm]
        exact hlands.later.answers (ih (by omega))
    · rw [emissionsAt_singleton_other hid, List.length_nil, Nat.zero_add] at hm
      rw [← honly id hid]
      exact ih hm

/-- An emission that is cut short at a sink that takes every byte has arrived there whole, and its
flush failed. -/
theorem Emission.CutShort.unflushed_of_takesAll {halt : Halt} (h : e.CutShort s s' halt)
    (hend : e.ending = .done) (hall : s.TakesAll) :
    ∃ fault, halt = e.halt fault ∧ s.Answers 0 (some fault) ∧ s'.bytes = s.bytes ++ e.bytes ∧
      s'.past.flushes = s.past.flushes + 1 := by
  cases h with
  | refused hrefuses => exact absurd hrefuses hall.not_refuses
  | ended _ hhalt =>
    rw [hend] at hhalt
    cases hhalt
  | @unflushed s₁ fault _ htakes hflush =>
    have hs' : s₁.flush.2 = s' := congrArg Prod.snd hflush
    refine ⟨fault, rfl, Sink.answers_flush htakes hflush, ?_, ?_⟩
    · rw [← hs', Sink.bytes_flush, htakes.eq_take, Sink.bytes_take]
    · rw [← hs', Sink.flush_snd, htakes.eq_take]
      rfl

end Emissions

/-! ### The emissions of a run, counted -/

namespace Driver

variable {d : Driver} {out own id : SinkId} {text : Text.Bytes} {ending : Ending} {e : Emission}

/-- How often a run flushes a sink if it comes to its end: once for each emission of the driver
itself, and once for each test of the counter. -/
def flushesAt (d : Driver) (out own id : SinkId) : Nat :=
  (if id = out then if d.revision.callsReporter then 13 else 12 else 0) +
    if id = own then 10 else 0

/-- How a run fails at its emission number `k`, counted from 1. -/
def haltAt (d : Driver) (k : Nat) (fault : Fault) : Halt :=
  if k = 1 then .write .startBanner fault
  else if k ≤ 21 then .write (if k % 2 = 0 then .funcLine else .testLine) fault
  else if k = 22 ∧ d.revision.callsReporter then .reporter fault
  else .write .endBanner fault

/-- The sinks that the emissions of a run are for, in order. -/
theorem map_sink_emissions (d : Driver) (out own : SinkId) (text : Text.Bytes) (ending : Ending) :
    (d.emissions out own text ending).map Emission.sink =
      out :: (List.replicate 10 [out, own]).flatten ++
        (if d.revision.callsReporter then [out] else []) ++ [out] := by
  unfold emissions
  cases d.revision.callsReporter <;> rfl

/-- A run flushes every sink once for each of its emissions. -/
theorem length_emissionsAt (d : Driver) (out own id : SinkId) (text : Text.Bytes)
    (ending : Ending) :
    (emissionsAt id (d.emissions out own text ending)).length = d.flushesAt out own id := by
  have hcount : (emissionsAt id (d.emissions out own text ending)).length =
      ((d.emissions out own text ending).map Emission.sink).count id := by
    rw [emissionsAt, ← List.countP_eq_length_filter, List.count, List.countP_map]
    rfl
  have hrounds : (List.replicate 10 [out, own]).flatten.count id = 10 * [out, own].count id := by
    rw [List.count_flatten, List.map_replicate, List.sum_replicate_nat]
  rw [hcount, map_sink_emissions, List.count_append, List.count_append, List.count_cons, hrounds,
    flushesAt]
  simp only [List.count_cons, List.count_nil, beq_iff_eq]
  by_cases hout : out = id <;> by_cases hown : own = id <;> cases d.revision.callsReporter <;>
    simp [hout, hown, Ne.symm]

/-- How the emissions of a run make it fail, in order. -/
theorem map_halt_emissions (d : Driver) (out own : SinkId) (text : Text.Bytes) (ending : Ending)
    (fault : Fault) :
    (d.emissions out own text ending).map (fun e => e.halt fault) =
      (List.range (d.emissions out own text ending).length).map fun j => d.haltAt (j + 1) fault := by
  -- written out, the places are numbers that the table is computed at
  have hfirst : List.range 22 = [0, 1, 2, 3, 4, 5, 6, 7, 8, 9, 10, 11, 12, 13, 14, 15, 16, 17, 18,
    19, 20, 21] := rfl
  have hlast : List.range 23 = List.range 22 ++ [22] := List.range_succ
  unfold emissions haltAt
  cases d.revision.callsReporter with
  | false =>
    show _ = (List.range 22).map _
    rw [hfirst]
    rfl
  | true =>
    show _ = (List.range 23).map _
    rw [hlast, hfirst]
    rfl

/-- The emission at a place makes a run fail as the table says. -/
theorem halt_eq_haltAt {j : Nat} (h : (d.emissions out own text ending)[j]? = some e)
    (fault : Fault) : e.halt fault = d.haltAt (j + 1) fault := by
  have hmap := congrArg (·[j]?) (d.map_halt_emissions out own text ending fault)
  have hlt : j < (d.emissions out own text ending).length := by
    by_contra hge
    rw [List.getElem?_eq_none (by omega)] at h
    cases h
  simp only [List.getElem?_map, h, List.getElem?_range hlt, Option.map_some] at hmap
  exact Option.some.inj hmap

/-- An emission of a run whose reporter ends well has a writer that ends well, and is for the sink
of the driver or for that of the counter. -/
theorem emission_of_mem (h : e ∈ d.emissions out own text .done) :
    e.ending = .done ∧ (e.sink = out ∨ e.sink = own) := by
  rw [← moves_emissions] at h
  obtain ⟨move, -, hmove⟩ := List.mem_filterMap.mp h
  cases move <;> cases hmove
  · exact ⟨rfl, .inl rfl⟩
  · exact ⟨rfl, .inl rfl⟩
  · exact ⟨rfl, .inr rfl⟩
  · exact ⟨rfl, .inl rfl⟩

end Driver

/-! ### How a run goes -/

/-- A run that comes to its end: it has delivered everything and flushed it, and did nothing
else. -/
structure Completes (d : Driver) (text : Text.Bytes) (out : SinkId) (s : Stage) : Prop where
  succeeds : ∃ summary, (d.run out s).1 = .ok summary
  /-- Each emission is written whole and then flushed, before the next one. -/
  delivered : Delivered (d.emissions out s.counter.sink text .done) s.bench.sink
    (d.run out s).2.bench.sink
  /-- All these flushes passed. -/
  passed : ∀ id m, m < d.flushesAt out s.counter.sink id → (s.bench.sink id).Answers m none
  bytes : ∀ id, ((d.run out s).2.bench.sink id).bytes =
    (s.bench.sink id).bytes ++ bytesAt id (d.emissions out s.counter.sink text .done)
  flushes : ∀ id, ((d.run out s).2.bench.sink id).past.flushes =
    (s.bench.sink id).past.flushes + d.flushesAt out s.counter.sink id
  /-- Where driver and counter share a sink, that is 23 flushes or 22. -/
  shared : out = s.counter.sink → ((d.run out s).2.bench.sink out).past.flushes =
    (s.bench.sink out).past.flushes + if d.revision.callsReporter then 23 else 22

/-- A run that is stopped by flush number `k` of a sink, which is that of the emission in place `j`.
This emission and those before it are in their sinks whole, each was flushed once, and nothing else
was done. -/
structure StopsAtFlush (d : Driver) (text : Text.Bytes) (out : SinkId) (s : Stage) (id : SinkId)
    (k : Nat) (fault : Fault) (j : Nat) : Prop where
  fails : ∃ e, (d.emissions out s.counter.sink text .done)[j]? = some e ∧ e.sink = id ∧
    (d.run out s).1 = .error (e.halt fault)
  /-- It is emission number `k` of the sink. -/
  number : (emissionsAt id ((d.emissions out s.counter.sink text .done).take (j + 1))).length = k
  /-- The flushes of the sink passed up to that one. -/
  passed : ∀ m, m + 1 < k → (s.bench.sink id).Answers m none
  failed : (s.bench.sink id).Answers (k - 1) (some fault)
  bytes : ∀ id', ((d.run out s).2.bench.sink id').bytes = (s.bench.sink id').bytes ++
    bytesAt id' ((d.emissions out s.counter.sink text .done).take (j + 1))
  flushes : ∀ id', ((d.run out s).2.bench.sink id').past.flushes =
    (s.bench.sink id').past.flushes +
      (emissionsAt id' ((d.emissions out s.counter.sink text .done).take (j + 1))).length
  /-- Where driver and counter share the sink, it is emission number `k` of the run. -/
  shared : out = s.counter.sink → j + 1 = k ∧ (d.run out s).1 = .error (d.haltAt k fault)

section Run

variable {d : Driver} {text : Text.Bytes} {out id : SinkId} {s : Stage} {k j : Nat} {fault : Fault}

/-- What is left of a run whose emissions all land. -/
theorem completes_of_delivered {summary : Summary} (hok : (d.run out s).1 = .ok summary)
    (h : Delivered (d.emissions out s.counter.sink text .done) s.bench.sink
      (d.run out s).2.bench.sink) : Completes d text out s where
  succeeds := ⟨summary, hok⟩
  delivered := h
  passed id m hm := by
    rw [← Driver.length_emissionsAt d out s.counter.sink id text .done] at hm
    exact h.answers hm
  bytes := h.bytes
  flushes id := by rw [h.flushes, Driver.length_emissionsAt]
  shared hout := by
    rw [h.flushes, Driver.length_emissionsAt, Driver.flushesAt, ← hout, if_pos rfl, if_pos rfl]
    split <;> rfl

/-- Where driver and counter share a sink, each emission is for that sink. -/
theorem sink_eq_of_shared {e : Emission} (hout : out = s.counter.sink)
    (he : e ∈ d.emissions out s.counter.sink text .done) : e.sink = out := by
  rcases (Driver.emission_of_mem he).2 with hsink | hsink
  · exact hsink
  · rw [hsink, hout]

theorem emissionsAt_shared {es : List Emission} (hout : out = s.counter.sink)
    (hes : ∀ e ∈ es, e ∈ d.emissions out s.counter.sink text .done) : emissionsAt out es = es := by
  rw [emissionsAt, List.filter_eq_self]
  intro e he
  exact decide_eq_true (sink_eq_of_shared hout (hes e he))

/-- What is left of a run whose emissions land up to one whose flush fails. -/
theorem stopsAtFlush_of_split {es es' : List Emission} {e : Emission} {σ : SinkId → Sink}
    (hes : d.emissions out s.counter.sink text .done = es ++ e :: es')
    (h : Delivered es s.bench.sink σ) (honly : OnlyAt e.sink σ (d.run out s).2.bench.sink)
    (hfails : (d.run out s).1 = .error (e.halt fault)) (hanswer : (σ e.sink).Answers 0 (some fault))
    (hbytes : ((d.run out s).2.bench.sink e.sink).bytes = (σ e.sink).bytes ++ e.bytes)
    (hflushes : ((d.run out s).2.bench.sink e.sink).past.flushes = (σ e.sink).past.flushes + 1) :
    StopsAtFlush d text out s e.sink ((emissionsAt e.sink es).length + 1) fault es.length := by
  have htake : (d.emissions out s.counter.sink text .done).take (es.length + 1) = es ++ [e] := by
    rw [hes, List.take_length_add_append]
    rfl
  have hplace : (d.emissions out s.counter.sink text .done)[es.length]? = some e := by
    rw [hes, List.getElem?_append_right (Nat.le_refl _), Nat.sub_self, List.getElem?_cons_zero]
  refine
    { fails := ⟨e, hplace, rfl, hfails⟩
      number := ?_
      passed := fun m hm => h.answers (by omega)
      failed := (h.later e.sink).answers hanswer
      bytes := ?_
      flushes := fun id => ?_
      shared := fun hout => ?_ }
  · rw [htake, emissionsAt_append, emissionsAt_singleton_self, List.length_append,
      List.length_singleton]
  · rw [htake]
    exact h.bytes_then honly hbytes
  · rw [htake, emissionsAt_append, List.length_append, ← Nat.add_assoc,
      h.flushes_then honly hflushes, Nat.one_mul]
  · -- everything before is for this sink as well, so its number there is its place
    have hmem (f : Emission) (hf : f ∈ es ++ [e]) :
        f ∈ d.emissions out s.counter.sink text .done := by
      rw [hes, List.append_cons]
      exact List.mem_append_left es' hf
    have hsink : e.sink = out :=
      sink_eq_of_shared hout (hmem e (List.mem_append_right es (List.mem_singleton_self e)))
    rw [hsink, emissionsAt_shared hout fun f hf => hmem f (List.mem_append_left [e] hf)]
    exact ⟨rfl, hfails.trans (congrArg _ (Driver.halt_eq_haltAt hplace fault))⟩

/-- **The course of a run on sinks that take every byte**: it comes to its end, or it is stopped by
the first of its flushes that fails. -/
theorem completes_or_stops (h : d.reporter.script.Writes text) (hout : (s.bench.sink out).TakesAll)
    (hown : (s.bench.sink s.counter.sink).TakesAll) :
    Completes d text out s ∨ ∃ id k fault j, StopsAtFlush d text out s id k fault j := by
  have hcourse := Driver.course_of_writes h hout
  generalize hresult : (d.run out s).1 = result at hcourse
  cases hcourse with
  | whole summary hdelivered => exact .inl (completes_of_delivered hresult hdelivered)
  | @short es es' e σ halt hes hdelivered honly hcut =>
    -- what is cut short is one of the emissions, so its sink takes every byte
    have hmem : e ∈ d.emissions out s.counter.sink text .done := by
      rw [hes]
      exact List.mem_append_right es (List.mem_cons_self ..)
    obtain ⟨hend, hsink⟩ := Driver.emission_of_mem hmem
    have hall : (s.bench.sink e.sink).TakesAll := by
      rcases hsink with hsink | hsink <;> rw [hsink]
      · exact hout
      · exact hown
    obtain ⟨fault, rfl, hanswer, hbytes, hflushes⟩ :=
      hcut.unflushed_of_takesAll hend (hdelivered.sameBehaviour.takesAll hall)
    exact .inr ⟨_, _, fault, _,
      stopsAtFlush_of_split hes hdelivered honly hresult hanswer hbytes hflushes⟩

/-! ### A flush that is known to fail -/

/-- The flush that stops a run is one of those that the run makes. -/
theorem StopsAtFlush.bounds (h : StopsAtFlush d text out s id k fault j) :
    1 ≤ k ∧ k ≤ d.flushesAt out s.counter.sink id := by
  obtain ⟨e, he, rfl, -⟩ := h.fails
  have hnumber := h.number
  rw [← Driver.length_emissionsAt d out s.counter.sink e.sink text .done]
  constructor
  · have hmem : e ∈ emissionsAt e.sink
        ((d.emissions out s.counter.sink text .done).take (j + 1)) := by
      refine List.mem_filter.mpr ⟨?_, decide_eq_true rfl⟩
      rw [List.take_add_one, he]
      exact List.mem_append_right _ (List.mem_singleton_self e)
    have hpos := List.length_pos_of_mem hmem
    omega
  · rw [← hnumber]
    exact ((List.take_sublist _ _).filter _).length_le

/-- A run is not stopped at a sink whose flushes pass. -/
theorem StopsAtFlush.not_passes (h : StopsAtFlush d text out s id k fault j) :
    ¬(s.bench.sink id).Passes (d.flushesAt out s.counter.sink id) := by
  intro hpasses
  have hbounds := h.bounds
  exact hpasses.not_answers (by omega) h.failed

/-- A run that is stopped by a flush, at a sink of which a certain one fails, is stopped by that
one. -/
theorem StopsAtFlush.eq_of_failsFlush {k' : Nat} {fault' : Fault}
    (h : StopsAtFlush d text out s id k fault j) (hk' : 1 ≤ k')
    (hfails : (s.bench.sink id).FailsFlush k' fault') : k = k' ∧ fault = fault' := by
  have hbounds := h.bounds
  obtain ⟨m, rfl⟩ := Nat.exists_eq_add_of_le' hk'
  rcases Nat.lt_trichotomy k (m + 1) with hlt | rfl | hgt
  · exact absurd h.failed (hfails.before.not_answers (by omega))
  · exact ⟨rfl, Option.some.inj (hfails.answer h.failed)⟩
  · cases hfails.answer (h.passed m (by omega))

/-- Where all flushes of a run pass, it comes to its end. -/
theorem completes_of_passes (h : d.reporter.script.Writes text)
    (hout : (s.bench.sink out).TakesAll) (hown : (s.bench.sink s.counter.sink).TakesAll)
    (hpasses : ∀ id, (s.bench.sink id).Passes (d.flushesAt out s.counter.sink id)) :
    Completes d text out s := by
  rcases completes_or_stops h hout hown with hcompletes | ⟨id, k, fault, j, hstops⟩
  · exact hcompletes
  · exact absurd (hpasses id) hstops.not_passes

/-- Where one of the flushes of a run fails, it is stopped by that one. -/
theorem stopsAtFlush_of_fails (h : d.reporter.script.Writes text)
    (hout : (s.bench.sink out).TakesAll) (hown : (s.bench.sink s.counter.sink).TakesAll)
    (hk : 1 ≤ k) (hle : k ≤ d.flushesAt out s.counter.sink id)
    (hfails : (s.bench.sink id).FailsFlush k fault)
    (hothers : ∀ id', id' ≠ id → (s.bench.sink id').Passes (d.flushesAt out s.counter.sink id')) :
    ∃ j, StopsAtFlush d text out s id k fault j := by
  rcases completes_or_stops h hout hown with hcompletes | ⟨id', k', fault', j, hstops⟩
  · -- a run that comes to its end would have passed this flush
    obtain ⟨m, rfl⟩ := Nat.exists_eq_add_of_le' hk
    cases hfails.answer (hcompletes.passed id m hle)
  · by_cases hid : id' = id
    · subst hid
      obtain ⟨rfl, rfl⟩ := hstops.eq_of_failsFlush hk hfails
      exact ⟨j, hstops⟩
    · exact absurd (hothers id' hid) hstops.not_passes

/-- Where the flush that fails comes after a run, the run comes to its end. -/
theorem completes_of_fails (h : d.reporter.script.Writes text)
    (hout : (s.bench.sink out).TakesAll) (hown : (s.bench.sink s.counter.sink).TakesAll)
    (hlt : d.flushesAt out s.counter.sink id < k) (hfails : (s.bench.sink id).FailsFlush k fault)
    (hothers : ∀ id', id' ≠ id → (s.bench.sink id').Passes (d.flushesAt out s.counter.sink id')) :
    Completes d text out s := by
  refine completes_of_passes h hout hown fun id' past hge hlt' => ?_
  by_cases hid : id' = id
  · subst hid
    exact hfails.before past hge (by omega)
  · exact hothers id' hid past hge hlt'

/-! ### The flush of the last line -/

/-- A run comes to its end, and after it the counter's last line is written whole but its flush
fails. The log is told so in the only event of run and end that tells of an error. -/
structure EndsUnflushed (d : Driver) (text : Text.Bytes) (out : SinkId) (s : Stage)
    (fault : Fault) (b : Bench) : Prop where
  completes : Completes d text out s
  lastLine : ∃ count : UInt32, count.toNat = s.counter.countAfter 10 ∧
    (b.sink s.counter.sink).bytes =
      ((d.run out s).2.bench.sink s.counter.sink).bytes ++ (Line.destructor count).bytes ∧
    ∃ told event, b.journal = s.bench.journal ++ told ++ [event] ∧
      (∀ e ∈ told, e.level ≠ .error) ∧ TellsEnd event count fault

/-- The log hears of no error from a run that comes to its end. -/
theorem Lockstep.told_no_error {ms : List Move} {l l' : Ledger} {c : Counter}
    (h : Lockstep d ms l l' (d.tallyAtEnd c)) :
    ∃ told, l'.journal = l.journal ++ told ∧ ∀ e ∈ told, e.level ≠ .error := by
  refine ⟨_, h.journal, fun e he => ?_⟩
  rcases List.mem_append.mp he with he | he
  · rcases List.mem_cons.mp he with rfl | he
    · exact Level.noConfusion
    · obtain ⟨j, -, rfl⟩ := List.mem_map.mp he
      exact Level.noConfusion
  · rcases List.mem_append.mp he with he | he
    · unfold Driver.reportedEvents at he
      split at he
      · rw [List.mem_singleton.mp he]
        exact Level.noConfusion
      · cases he
    · rw [List.mem_singleton.mp he]
      exact Level.noConfusion

/-- The flush that comes directly after those of a run is that of the counter's last line. -/
theorem endsUnflushed_of_fails (hcompletes : Completes d text out s)
    (hown : (s.bench.sink s.counter.sink).TakesAll) (hend : s.counter.endReport = .hexCount)
    (hfails : (s.bench.sink s.counter.sink).FailsFlush
      (d.flushesAt out s.counter.sink s.counter.sink + 1) fault) :
    EndsUnflushed d text out s fault
      ((d.run out s).2.counter.retire (d.run out s).2.bench) := by
  obtain ⟨summary, hok⟩ := hcompletes.succeeds
  have hstep := lockstep_of_run_ok hok
  have hcounter : (d.run out s).2.counter = s.counter.advance 10 := hstep.counter
  have hsink : (d.run out s).2.counter.sink = s.counter.sink := by
    rw [hcounter, Counter.advance_sink]
  have hspeaks : (d.run out s).2.counter.endReport = .hexCount := by
    rw [hcounter, Counter.advance_endReport, hend]
  have hlater := hcompletes.delivered.later s.counter.sink
  rw [Driver.length_emissionsAt] at hlater
  have hlast := lastLine_retire (d.run out s).2.bench hspeaks
  rw [hsink] at hlast
  have hall := hcompletes.delivered.sameBehaviour.takesAll hown
  have hwritten := hall.write (Line.destructor (d.run out s).2.counter.count).bytes
  refine ⟨hcompletes, (d.run out s).2.counter.count, hstep.count, ?_⟩
  cases hlast with
  | shown hwrite hflush _ _ =>
    -- this flush would have passed, and it is the one that fails
    have hanswer := hlater.answers (Sink.answers_flush (.one hwrite) hflush)
    cases hfails.answer hanswer
  | refused hwrite _ _ _ =>
    rw [hwritten] at hwrite
    cases hwrite
  | @unflushed s₁ fault' event hwrite hflush hbytes hjournal htells =>
    have hanswer := hlater.answers (Sink.answers_flush (.one hwrite) hflush)
    obtain rfl : fault' = fault := Option.some.inj (hfails.answer hanswer)
    obtain ⟨told, htold, hlevels⟩ := hstep.told_no_error
    refine ⟨hbytes, told, event, ?_, hlevels, htells⟩
    rw [hjournal]
    exact congrArg (· ++ [event]) htold

end Run

end TraceTarget
