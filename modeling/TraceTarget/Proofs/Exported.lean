import TraceTarget.Proofs.LastLine

/-!
# What the exported words hold

The two exported words are common to all who use a session, and whoever publishes last is seen. So
after any operations one of them holds the index of the last call of the free reporting function,
and the other the count that the last test left behind. What was published before that does not
show, and whether anything could be printed does not matter.

- `Session.index?`, `Session.count?`: what an operation publishes last.
- `Session.last?`: the last thing that some operations have, one after the other.
- `exports_step`: the words after one operation.
- `exports_after`: the words after any operations, from any session.
-/

namespace TraceTarget

/-! ### What is published last -/

/-- A call that tests a counter. -/
def Call.isTest : Call → Bool
  | tested _ => true
  | made _ _ | entered _ => false

/-- The index of a call of the free reporting function. -/
def Call.index? : Call → Option UInt32
  | entered i => some i
  | made _ _ | tested _ => none

namespace Session

/-- The counter that an operation tests, if it tests any. -/
def Operation.counter? : Operation → Option String
  | .test name _ | .tests name _ _ | .run _ name _ => some name
  | _ => none

/-- The index at the last call of the free reporting function within an operation. -/
def index? (s : Session) (op : Operation) : Option UInt32 :=
  ((s.calls op).filterMap Call.index?).getLast?

/-- The count that the last test within an operation left behind. -/
def count? (s : Session) (op : Operation) : Option UInt32 :=
  if (s.calls op).any Call.isTest then
    (op.counter?.bind (s.step op).2.counters.get?).map Counter.count
  else none

/-- The last thing that some operations have, done one after the other. -/
def last? {α : Type} (f : Session → Operation → Option α) (s : Session) : List Operation → Option α
  | [] => none
  | op :: ops => (last? f (s.step op).2 ops).or (f s op)

end Session

/-- The exported words after an index and a count were published, as far as they were. -/
def Exports.published (e : Exports) (index count : Option UInt32) : Exports where
  index := (index.map UInt32.toUInt64).getD e.index
  count := (count.map UInt32.toUInt64).getD e.count

/-- What is published later is seen instead of what was published before. -/
theorem Exports.published_published (e : Exports) (index index' count count' : Option UInt32) :
    (e.published index count).published index' count' =
      e.published (index'.or index) (count'.or count) := by
  cases index' <;> cases count' <;> rfl

/-! ### Runs -/

/-- The index with which a move calls the free reporting function. -/
def Move.index? : Move → Option UInt32
  | func i => some i
  | _ => none

namespace Driver

/-- Moves leave the index of the last of them that calls the free reporting function. -/
theorem enter_index (d : Driver) (ms : List Move) (l : Ledger) :
    (ms.foldl d.enter l).exports.index =
      ((ms.filterMap Move.index?).getLast?.map UInt32.toUInt64).getD l.exports.index := by
  -- from the end, where the move stands that is seen
  induction ms using List.reverseRecOn with
  | nil => rfl
  | append_singleton ms m ih =>
    rw [List.foldl_concat, List.filterMap_append]
    cases m with
    | func i =>
      have hlast : (ms.filterMap Move.index? ++ [i]).getLast? = some i := List.getLast?_concat
      exact (congrArg (fun o => (o.map UInt32.toUInt64).getD l.exports.index) hlast).symm
    | _ =>
      simp only [List.filterMap_cons, Move.index?, List.filterMap_nil, List.append_nil]
      exact ih

/-- Moves leave the count of their counter, if they test it. -/
theorem enter_count (d : Driver) (ms : List Move) (l : Ledger) :
    (ms.foldl d.enter l).exports.count =
      if ms.any Move.isTest then (ms.foldl d.enter l).counter.count.toUInt64
      else l.exports.count := by
  induction ms using List.reverseRecOn with
  | nil => rfl
  | append_singleton ms m ih =>
    rw [List.foldl_concat, List.any_append]
    cases m with
    | test i => simp [Move.isTest, enter]
    | _ => simpa [Move.isTest, enter, Ledger.log] using ih

/-- A run tests where it makes the calls of a test. -/
theorem any_call (name : String) (ms : List Move) :
    (ms.filterMap (Move.call? name)).any Call.isTest = ms.any Move.isTest := by
  rw [List.any_filterMap]
  refine congrArg ms.any (funext fun m => ?_)
  cases m <;> rfl

theorem filterMap_call (name : String) (ms : List Move) :
    (ms.filterMap (Move.call? name)).filterMap Call.index? = ms.filterMap Move.index? := by
  rw [List.filterMap_filterMap]
  refine congrArg (List.filterMap · ms) (funext fun m => ?_)
  cases m <;> rfl

/-- A run publishes its last index and its last count. -/
theorem run_exports (d : Driver) (out : SinkId) (name : String) (c : Counter) (b : Bench) :
    (d.run out ⟨c, b⟩).2.bench.exports = b.exports.published
      ((d.calls out name d.moves ⟨c, b⟩).filterMap Call.index?).getLast?
      (if (d.calls out name d.moves ⟨c, b⟩).any Call.isTest then
        some (d.run out ⟨c, b⟩).2.counter.count else none) := by
  have hindex := d.enter_index (d.attempted out d.moves ⟨c, b⟩) (b.ledger c)
  have hcount := d.enter_count (d.attempted out d.moves ⟨c, b⟩) (b.ledger c)
  have hledger : (d.attempted out d.moves ⟨c, b⟩).foldl d.enter (b.ledger c) =
      (d.performAll out d.moves ⟨c, b⟩).2.ledger :=
    (d.performAll_ledger out d.moves ⟨c, b⟩).symm
  rw [hledger] at hindex hcount
  rw [Session.run_snd, calls, any_call, filterMap_call]
  generalize d.performAll out d.moves ⟨c, b⟩ = played at hindex hcount ⊢
  refine congrArg₂ Exports.mk hindex (hcount.trans ?_)
  split <;> rfl

end Driver

/-- A test publishes the count that it leaves. -/
theorem Counter.test_exports (c : Counter) (index : UInt32) (b : Bench) :
    (c.test index b).2.2.exports = b.exports.published none (some (c.test index b).2.1.count) := by
  rw [test_eq]
  rfl

namespace Session

variable {s : Session} {op : Operation}

theorem testMany_exports (index : UInt32) (times : Nat) (c : Counter) (b : Bench) :
    (testMany index times c b).2.2.exports = b.exports.published none
      (if times = 0 then none else some (testMany index times c b).2.1.count) := by
  induction times generalizing c b with
  | zero => rfl
  | succ n ih =>
    rw [testMany, if_neg n.succ_ne_zero]
    dsimp only
    rw [ih, c.test_exports, Exports.published_published]
    -- the first test publishes its count, unless more tests follow
    cases n with
    | zero => rw [Counter.test_eq]; rfl
    | succ n => rfl

/-- An operation that makes no calls and leaves the words publishes nothing. -/
theorem exports_idle (hcalls : s.calls op = [])
    (hexports : (s.step op).2.bench.exports = s.bench.exports) :
    (s.step op).2.bench.exports = s.bench.exports.published (s.index? op) (s.count? op) := by
  rw [hexports, index?, count?, hcalls]
  rfl

/-- A test of a counter publishes its count. -/
theorem exports_test {name : String} {index : UInt32} {c : Counter}
    (hc : s.counters.get? name = some c) :
    (s.step (.test name index)).2.bench.exports =
      s.bench.exports.published (s.index? (.test name index)) (s.count? (.test name index)) := by
  have hexports := c.test_exports index s.bench
  have hindex : ([Call.tested name].filterMap Call.index?).getLast? = none := rfl
  have hany : [Call.tested name].any Call.isTest = true := rfl
  simp only [index?, count?, step, calls, hc, hindex, hany, if_true]
  generalize c.test index s.bench = tested at hexports ⊢
  obtain ⟨result, c', b⟩ := tested
  simp only [Operation.counter?, Option.bind_some, Registry.get?_put_self, Option.map_some]
  exact hexports

/-- So do several tests of it, if there are any. -/
theorem exports_tests {name : String} {index : UInt32} {times : Nat} {c : Counter}
    (hc : s.counters.get? name = some c) :
    (s.step (.tests name index times)).2.bench.exports =
      s.bench.exports.published (s.index? (.tests name index times))
        (s.count? (.tests name index times)) := by
  have hnone : (List.replicate times (Call.tested name)).filterMap Call.index? = [] := by
    simp [Call.index?]
  have hany : (List.replicate times (Call.tested name)).any Call.isTest = true ↔ ¬times = 0 := by
    cases times <;> simp [Call.isTest]
  have hexports := testMany_exports index times c s.bench
  simp only [index?, count?, calls, step, hc, hnone, hany, ite_not]
  generalize testMany index times c s.bench = tested at hexports ⊢
  obtain ⟨printed, c', b⟩ := tested
  simp only [Operation.counter?, Option.bind_some, Registry.get?_put_self, Option.map_some]
  exact hexports

/-- An operation publishes what it publishes last. -/
theorem exports_step (hop : op.meddles = false) :
    (s.step op).2.bench.exports = s.bench.exports.published (s.index? op) (s.count? op) := by
  by_cases hquiet : op.quiet = true
  · exact exports_idle (calls_quiet hquiet) (exports_quiet hquiet)
  -- an operation with an unknown name does nothing
  cases op with
  | makeCounter name sink revision report =>
    cases hsink : s.sinks.get? sink with
    | none => exact exports_idle (by rw [calls, hsink]) (by rw [step, hsink])
    | some id =>
      have hexports := retire_exports s name
      rw [step, index?, count?, calls, hsink]
      exact hexports
  | test name index =>
    cases hc : s.counters.get? name with
    | none => exact exports_idle (by rw [calls, hc]) (by rw [step, hc])
    | some c => exact exports_test hc
  | tests name index times =>
    cases hc : s.counters.get? name with
    | none => exact exports_idle (by rw [calls, hc]) (by rw [step, hc])
    | some c => exact exports_tests hc
  | func sink index =>
    cases hsink : s.sinks.get? sink with
    | none => exact exports_idle (by rw [calls, hsink]) (by rw [step, hsink])
    | some id =>
      rw [step, index?, count?, calls, hsink]
      rfl
  | run driver counter sink =>
    rcases hd : s.drivers.get? driver with _ | d
    · exact exports_idle (by rw [calls, hd]) (by rw [step, hd])
    rcases hc : s.counters.get? counter with _ | c
    · exact exports_idle (by rw [calls, hd, hc]) (by rw [step, hd, hc])
    rcases hid : s.sinks.get? sink with _ | id
    · exact exports_idle (by rw [calls, hd, hc, hid]) (by rw [step, hd, hc, hid])
    simp only [index?, count?, calls, step, hd, hc, hid, Operation.counter?, Option.bind_some,
      Registry.get?_put_self, Option.map_some]
    exact d.run_exports id counter c s.bench
  | enterFunc _ => cases hop
  | enterTest _ _ => cases hop
  | poke _ _ => cases hop
  | _ => exact absurd rfl hquiet

/-- After any operations the exported words hold what was published last. -/
theorem exports_after {ops : List Operation} (hops : ∀ op ∈ ops, op.meddles = false) :
    (s.after ops).bench.exports =
      s.bench.exports.published (s.last? index? ops) (s.last? count? ops) := by
  induction ops generalizing s with
  | nil => rfl
  | cons op ops ih =>
    obtain ⟨hop, hops⟩ := List.forall_mem_cons.mp hops
    rw [after_cons, ih hops, exports_step hop, Exports.published_published]
    rfl

end Session

end TraceTarget
