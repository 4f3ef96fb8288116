import TraceTarget.Session
import TraceTarget.Proofs.Ledger

/-!
# What the counters and the exported words of a session say

A session uses any number of counters and sinks in any order, and much of it can fail. The counts
and the exported words depend on none of that: they can be told from the calls that were made,
whether or not a line could be printed.

- `Call`, `History`: the calls that matter, the newest first; `History.tests`, `History.published`
  and `History.index` read a history.
- `Session.calls`: the calls that an operation makes. Those of a run are among the moves that it
  attempts.
- `Accounted`: counters and exported words that say what a history tells. One lemma for each call
  keeps it, and one for whatever is no call.
- `Accounted.moves`: the moves of a run keep it, however far they come.
- `session_accounts`: a session keeps it, at every moment.
-/

namespace TraceTarget

/-! ### Histories of calls -/

/-- A call that counts, or that is exported. -/
inductive Call where
  /-- A counter was made under a name, and it counts or does not. -/
  | made (counter : String) (tracking : Bool)
  /-- The counter of a name was tested. -/
  | tested (counter : String)
  /-- The free reporting function was entered. -/
  | entered (index : UInt32)
  deriving DecidableEq, Repr

/-- Calls, the newest first. -/
abbrev History := List Call

namespace History

/-- Whether the counter of a name counts. -/
def tracks (name : String) : History → Bool
  | [] => false
  | .made n tracking :: past => if n = name then tracking else tracks name past
  | .tested _ :: past | .entered _ :: past => tracks name past

/-- How often the counter of a name was tested since it was made. -/
def tests (name : String) : History → Nat
  | [] => 0
  | .made n _ :: past => if n = name then 0 else tests name past
  | .tested n :: past => if n = name then tests name past + 1 else tests name past
  | .entered _ :: past => tests name past

/-- What the counter of a name has counted. -/
def count (name : String) (past : History) : Nat :=
  if past.tracks name then min (past.tests name) 0xffffffff else 0

/-- The count that the latest test of any counter left. -/
def published : History → Nat
  | [] => 0
  | .tested n :: past => count n (.tested n :: past)
  | .made _ _ :: past | .entered _ :: past => published past

/-- The index at the latest entry of the free reporting function. -/
def index : History → Nat
  | [] => 0
  | .entered i :: _ => i.toNat
  | .made _ _ :: past | .tested _ :: past => index past

end History

/-! ### Accounts -/

/-- What a counter tells of itself: whether it counts, and its count. -/
def Counter.standing (c : Counter) : Bool × UInt32 :=
  (c.tracking, c.count)

/-- Counters and exported words say what a history tells. -/
structure Accounted (past : History) (counters : Registry String Counter) (exports : Exports) :
    Prop where
  tracking : ∀ {name c}, counters.get? name = some c → c.tracking = past.tracks name
  count : ∀ {name c}, counters.get? name = some c →
    c.count.toNat = if c.tracking then min (past.tests name) 0xffffffff else 0
  published : exports.count.toNat = past.published
  index : exports.index.toNat = past.index

namespace Accounted

variable {past : History} {counters counters' : Registry String Counter} {exports : Exports}
  {name : String} {c : Counter}

/-- Before any call there is no counter, and nothing was exported. -/
theorem start : Accounted [] .empty {} where
  tracking h := nomatch h
  count h := nomatch h
  published := rfl
  index := rfl

/-- A counter may end its life, and one that stays may change in what does not tell. -/
theorem congr (h : Accounted past counters exports)
    (hkept : ∀ name, counters'.get? name = none ∨
      (counters'.get? name).map Counter.standing = (counters.get? name).map Counter.standing) :
    Accounted past counters' exports := by
  -- each counter that is left was there with the same standing
  have hfrom : ∀ {name c'}, counters'.get? name = some c' →
      ∃ c, counters.get? name = some c ∧ c.tracking = c'.tracking ∧ c.count = c'.count := by
    intro name c' hc'
    rcases hkept name with hnone | hsame
    · rw [hc'] at hnone
      cases hnone
    · rw [hc', Option.map_some] at hsame
      obtain ⟨c, hc, hstanding⟩ := Option.map_eq_some_iff.mp hsame.symm
      exact ⟨c, hc, congrArg Prod.fst hstanding, congrArg Prod.snd hstanding⟩
  refine { h with tracking := fun hc' => ?_, count := fun hc' => ?_ }
  · obtain ⟨c, hc, htracking, -⟩ := hfrom hc'
    exact htracking ▸ h.tracking hc
  · obtain ⟨c, hc, htracking, hcount⟩ := hfrom hc'
    rw [← htracking, ← hcount]
    exact h.count hc

/-- A new counter starts at zero, whatever had its name before. -/
theorem made (h : Accounted past counters exports) {tracks : Bool} (htracks : c.tracking = tracks)
    (hnew : c.count = 0) :
    Accounted (.made name tracks :: past) (counters.put name c) exports where
  tracking hc' := by
    rw [History.tracks]
    rcases Registry.get?_put_eq_some hc' with ⟨rfl, rfl⟩ | ⟨hother, hc'⟩
    · rw [if_pos rfl, htracks]
    · rw [if_neg hother.symm, h.tracking hc']
  count hc' := by
    rw [History.tests]
    rcases Registry.get?_put_eq_some hc' with ⟨rfl, rfl⟩ | ⟨hother, hc'⟩
    · rw [hnew, if_pos rfl, Nat.zero_min, ite_self]
      rfl
    · rw [if_neg hother.symm, h.count hc']
  published := h.published
  index := h.index

/-- A test counts for the counter that is tested and is what was exported last. -/
theorem tested (h : Accounted past counters exports) (hc : counters.get? name = some c) :
    Accounted (.tested name :: past) (counters.put name c.bump)
      { exports with count := c.bump.count.toUInt64 } := by
  have hcount : c.bump.count.toNat =
      if c.tracking then min (past.tests name + 1) 0xffffffff else 0 := by
    have hbefore := h.count hc
    rw [Counter.count_bump]
    split <;> rename_i htracking
    · rw [if_pos htracking] at hbefore
      rw [Counter.toNat_saturatingSucc]
      omega
    · rwa [if_neg htracking] at hbefore
  refine ⟨fun hc' => ?_, fun hc' => ?_, ?_, h.index⟩
  · rw [History.tracks]
    rcases Registry.get?_put_eq_some hc' with ⟨rfl, rfl⟩ | ⟨-, hc'⟩
    · rw [Counter.bump_tracking, h.tracking hc]
    · exact h.tracking hc'
  · rw [History.tests]
    rcases Registry.get?_put_eq_some hc' with ⟨rfl, rfl⟩ | ⟨hother, hc'⟩
    · rw [if_pos rfl, Counter.bump_tracking, hcount]
    · rw [if_neg hother.symm, h.count hc']
  · rw [UInt32.toNat_toUInt64, hcount, h.tracking hc, History.published, History.count,
      History.tracks, History.tests, if_pos rfl]

/-- An entry of the free reporting function exports its index. -/
theorem entered (h : Accounted past counters exports) (i : UInt32) :
    Accounted (.entered i :: past) counters { exports with index := i.toUInt64 } where
  tracking := h.tracking
  count := h.count
  published := h.published
  index := UInt32.toNat_toUInt64 i

end Accounted

/-! ### Runs -/

/-- The call that a move of a run makes. -/
def Move.call? (counter : String) : Move → Option Call
  | func i => some (.entered i)
  | test _ => some (.tested counter)
  | begin | banner _ _ | iterated _ | pause | report | reported | done => none

/-- The calls that some moves of a run make, in order: those of the moves that are attempted. -/
def Driver.calls (d : Driver) (out : SinkId) (counter : String) (ms : List Move) (s : Stage) :
    List Call :=
  (d.attempted out ms s).filterMap (Move.call? counter)

namespace Accounted

variable {past : History} {counters : Registry String Counter} {name : String}

/-- What is put under a name replaces what was put there before. -/
theorem put_put {exports : Exports} {c c' : Counter}
    (h : Accounted past ((counters.put name c).put name c') exports) :
    Accounted past (counters.put name c') exports := by
  refine h.congr fun name' => .inr ?_
  simp only [Registry.get?_put]
  split <;> rfl

/-- What is put under the name that it has already changes nothing. -/
theorem put_self {exports : Exports} {c : Counter} (h : Accounted past counters exports)
    (hc : counters.get? name = some c) : Accounted past (counters.put name c) exports := by
  refine h.congr fun name' => .inr ?_
  rw [Registry.get?_put]
  split
  · next hname => rw [hname, hc]
  · rfl

/-- Entering a move makes its call. -/
theorem enter {l : Ledger} (h : Accounted past (counters.put name l.counter) l.exports) (d : Driver)
    (move : Move) :
    Accounted ((move.call? name).toList ++ past) (counters.put name (d.enter l move).counter)
      (d.enter l move).exports := by
  cases move with
  | func i => exact h.entered i
  | test _ => exact (h.tested (Registry.get?_put_self ..)).put_put
  | _ => exact h

/-- Entering moves one after the other makes their calls in turn. -/
theorem enterAll {l : Ledger} (h : Accounted past (counters.put name l.counter) l.exports)
    (d : Driver) (ms : List Move) :
    Accounted ((ms.filterMap (Move.call? name)).reverse ++ past)
      (counters.put name (ms.foldl d.enter l).counter) (ms.foldl d.enter l).exports := by
  -- the history grows at its front, so the first call made comes last in it
  induction ms generalizing past l with
  | nil => exact h
  | cons m ms ih =>
    have hrest := ih (h.enter d m)
    rw [List.foldl_cons, List.filterMap_cons]
    cases hm : m.call? name with
    | none =>
      rw [hm] at hrest
      exact hrest
    | some call =>
      rw [hm] at hrest
      rw [List.reverse_cons, List.append_assoc]
      exact hrest

/-- The moves of a run make the calls of those that are attempted, and nothing else tells. -/
theorem moves {c : Counter} {b : Bench} (h : Accounted past counters b.exports)
    (hc : counters.get? name = some c) (d : Driver) (out : SinkId) (ms : List Move) :
    Accounted ((d.calls out name ms ⟨c, b⟩).reverse ++ past)
      (counters.put name (d.performAll out ms ⟨c, b⟩).2.counter)
      (d.performAll out ms ⟨c, b⟩).2.bench.exports := by
  have hput : Accounted past (counters.put name (Stage.mk c b).ledger.counter) b.exports :=
    h.put_self hc
  have hall := hput.enterAll d (d.attempted out ms ⟨c, b⟩)
  rw [← Driver.performAll_ledger] at hall
  exact hall

/-- Testing a counter several times makes as many calls. -/
theorem testMany {c : Counter} {b : Bench} (h : Accounted past (counters.put name c) b.exports)
    (index : UInt32) (times : Nat) :
    Accounted (List.replicate times (.tested name) ++ past)
      (counters.put name (Session.testMany index times c b).2.1)
      (Session.testMany index times c b).2.2.exports := by
  induction times generalizing past c b with
  | zero => exact h
  | succ n ih =>
    have hone := (h.tested (Registry.get?_put_self ..)).put_put
    have hrest := ih (b := (c.test index b).2.2) (by rw [Counter.test_eq]; exact hone)
    rw [List.replicate_succ', List.append_assoc]
    rw [Counter.test_eq] at hrest
    simp only [Session.testMany, Counter.test_eq]
    exact hrest

end Accounted

/-! ### Drops, pauses and reporters -/

/-- The end of a counter's life exports nothing, whether or not its line could be written. -/
@[simp] theorem Counter.retire_exports (c : Counter) (b : Bench) :
    (c.retire b).exports = b.exports := by
  unfold retire
  split
  · rfl
  · split <;> rename_i hemit <;>
      exact congrArg (fun r => (Prod.snd r).exports) hemit.symm

/-- A reporter exports nothing, however it ends. -/
theorem Reporter.report_exports (r : Reporter) (id : SinkId) (b : Bench) :
    (r.report id b).2.exports = b.exports := by
  rw [report_eq_run_script]
  exact congrArg Ledger.exports (Script.run_ledger id r.script b (.new id))

namespace Session

variable {s : Session} {past : History}

@[simp] theorem retire_exports (s : Session) (name : String) :
    (s.retire name).bench.exports = s.bench.exports := by
  unfold retire
  split
  · exact Counter.retire_exports ..
  · rfl

theorem retire_counters_other (s : Session) {name name' : String} (h : name' ≠ name) :
    (s.retire name).counters.get? name' = s.counters.get? name' := by
  unfold retire
  split
  · exact Registry.get?_erase_other _ h
  · rfl

theorem retire_counters_self (s : Session) (name : String) :
    (s.retire name).counters.get? name = none := by
  unfold retire
  split
  · exact Registry.get?_erase_self ..
  · assumption

/-- The end of a session exports nothing. -/
theorem close_exports (s : Session) : s.close.bench.exports = s.bench.exports :=
  List.foldlRecOn (motive := fun t => t.bench.exports = s.bench.exports) _ retire rfl
    fun t h name _ => (retire_exports t name).trans h

/-! ### Operations -/

/-- Whether an operation makes no call and makes no counter. -/
def Operation.quiet : Operation → Bool
  | .openSink _ _ | .setEndReport _ _ | .retire _ | .report _ _ | .sleep _ | .makeDriver _ _ => true
  | .makeCounter _ _ _ _ | .test _ _ | .tests _ _ _ | .func _ _ | .enterFunc _ | .enterTest _ _
  | .poke _ _ | .run _ _ _ => false

/-- Whether an operation reaches the exported words by itself, as a debugger would. -/
def Operation.meddles : Operation → Bool
  | .enterFunc _ | .enterTest _ _ | .poke _ _ => true
  | .openSink _ _ | .setEndReport _ _ | .retire _ | .report _ _ | .sleep _ | .makeDriver _ _
  | .makeCounter _ _ _ _ | .test _ _ | .tests _ _ _ | .func _ _ | .run _ _ _ => false

/-- The calls that an operation makes, in order. On a name that nothing has it makes none. -/
def calls (s : Session) : Operation → List Call
  | .makeCounter name sink revision _ =>
    match s.sinks.get? sink with
    | none => []
    | some _ => [.made name ((revision.map Revision.tracksCount).getD true)]
  | .test name _ =>
    match s.counters.get? name with
    | none => []
    | some _ => [.tested name]
  | .tests name _ times =>
    match s.counters.get? name with
    | none => []
    | some _ => List.replicate times (.tested name)
  | .func sink index =>
    match s.sinks.get? sink with
    | none => []
    | some _ => [.entered index]
  | .run driver counter sink =>
    match s.drivers.get? driver, s.counters.get? counter, s.sinks.get? sink with
    | some d, some c, some id => d.calls id counter d.moves ⟨c, s.bench⟩
    | _, _, _ => []
  | .openSink _ _ | .setEndReport _ _ | .retire _ | .report _ _ | .enterFunc _ | .enterTest _ _
  | .poke _ _ | .sleep _ | .makeDriver _ _ => []

/-- A quiet operation exports nothing. -/
theorem exports_quiet {op : Operation} (h : op.quiet = true) :
    (s.step op).2.bench.exports = s.bench.exports := by
  cases op with
  | setEndReport name report =>
    rw [step]
    split <;> rfl
  | retire name =>
    rw [step]
    split
    · rfl
    · exact retire_exports s name
  | report sink reporter =>
    rw [step]
    split
    · rfl
    · exact Reporter.report_exports reporter _ s.bench
  | openSink _ _ => rfl
  | sleep _ => rfl
  | makeDriver _ _ => rfl
  | _ => cases h

/-- A quiet operation leaves every counter where it stands, but for one that ends its life. -/
theorem standing_quiet {op : Operation} (h : op.quiet = true) {name : String}
    (hname : op ≠ .retire name) :
    ((s.step op).2.counters.get? name).map Counter.standing =
      (s.counters.get? name).map Counter.standing := by
  cases op with
  | setEndReport name' report =>
    rw [step]
    split
    · rfl
    · next c hc =>
      rw [Registry.get?_put]
      split
      · next hsame =>
        rw [hsame, hc]
        rfl
      · rfl
  | retire name' =>
    rw [step]
    split
    · rfl
    · rw [retire_counters_other s fun hsame : name = name' => hname (hsame ▸ rfl)]
  | report sink reporter =>
    rw [step]
    split <;> rfl
  | openSink _ _ => rfl
  | sleep _ => rfl
  | makeDriver _ _ => rfl
  | _ => cases h

/-- A quiet operation makes no call. -/
theorem calls_quiet {op : Operation} (h : op.quiet = true) : s.calls op = [] := by
  cases op <;> first | rfl | cases h

/-- What a run leaves behind is what its moves leave behind. -/
theorem run_snd (d : Driver) (out : SinkId) (st : Stage) :
    (d.run out st).2 = (d.performAll out d.moves st).2 := by
  rw [Driver.run]
  split <;> rename_i hall <;> rw [hall]

/-- A counter that ends its life leaves the account of the others. -/
theorem accounted_retire (h : Accounted past s.counters s.bench.exports) (name : String) :
    Accounted past (s.retire name).counters (s.retire name).bench.exports := by
  rw [retire_exports]
  refine h.congr fun name' => ?_
  by_cases hname : name' = name
  · exact .inl (hname ▸ retire_counters_self s name)
  · rw [retire_counters_other s hname]
    exact .inr rfl

/-- A quiet operation leaves the account as it is. -/
theorem accounted_quiet {op : Operation} (h : Accounted past s.counters s.bench.exports)
    (hquiet : op.quiet = true) :
    Accounted past (s.step op).2.counters (s.step op).2.bench.exports := by
  by_cases hretire : ∃ name, op = .retire name
  · obtain ⟨name, rfl⟩ := hretire
    rw [step]
    split
    · exact h
    · exact accounted_retire h name
  · rw [exports_quiet hquiet]
    exact h.congr fun name => .inr (standing_quiet hquiet fun hop => hretire ⟨name, hop⟩)

/-- An operation adds its calls to the account. -/
theorem accounted_step {op : Operation} (h : Accounted past s.counters s.bench.exports)
    (hop : op.meddles = false) :
    Accounted ((s.calls op).reverse ++ past) (s.step op).2.counters
      (s.step op).2.bench.exports := by
  by_cases hquiet : op.quiet = true
  · rw [calls_quiet hquiet]
    exact accounted_quiet h hquiet
  -- what is left makes calls, if it finds what it is asked to use
  cases op with
  | makeCounter name sink revision report =>
    cases hsink : s.sinks.get? sink with
    | none =>
      rw [step, calls, hsink]
      exact h
    | some id =>
      rw [step, calls, hsink]
      refine (accounted_retire h name).made ?_ ?_ <;> cases revision <;> cases report <;> rfl
  | test name index =>
    cases hc : s.counters.get? name with
    | none =>
      rw [step, calls, hc]
      exact h
    | some c =>
      simp only [step, calls, hc, Counter.test_eq]
      exact h.tested hc
  | tests name index times =>
    cases hc : s.counters.get? name with
    | none =>
      rw [step, calls, hc]
      exact h
    | some c =>
      rw [step, calls, hc, List.reverse_replicate]
      exact (h.put_self hc).testMany index times
  | func sink index =>
    cases hsink : s.sinks.get? sink with
    | none =>
      rw [step, calls, hsink]
      exact h
    | some id =>
      rw [step, calls, hsink]
      exact h.entered index
  | run driver counter sink =>
    rw [step, calls]
    rcases s.drivers.get? driver with _ | d
    · exact h
    rcases hc : s.counters.get? counter with _ | c
    · exact h
    rcases s.sinks.get? sink with _ | id
    · exact h
    simp only [run_snd]
    exact h.moves hc d id d.moves
  | enterFunc _ => cases hop
  | enterTest _ _ => cases hop
  | poke _ _ => cases hop
  | _ => exact absurd rfl hquiet

/-! ### Whole sessions -/

/-- The state that some operations lead to. -/
def after (s : Session) (ops : List Operation) : Session :=
  ((s.steps ops).getLast?.map Prod.snd).getD s

/-- The history after some operations, from what was history before them. -/
def history (s : Session) (past : History) : List Operation → History
  | [] => past
  | op :: ops => (s.step op).2.history ((s.calls op).reverse ++ past) ops

theorem after_cons (s : Session) (op : Operation) (ops : List Operation) :
    s.after (op :: ops) = (s.step op).2.after ops := by
  unfold after
  cases ops with
  | nil => rfl
  | cons op' ops =>
    simp only [steps, List.getLast?_cons, Option.map_some, Option.getD_some]

/-- Operations keep the account. -/
theorem accounted_after {ops : List Operation} (h : Accounted past s.counters s.bench.exports)
    (hops : ∀ op ∈ ops, op.meddles = false) :
    Accounted (s.history past ops) (s.after ops).counters (s.after ops).bench.exports := by
  induction ops generalizing s past with
  | nil => exact h
  | cons op ops ih =>
    rw [after_cons]
    exact ih (accounted_step h (hops op List.mem_cons_self))
      fun op' hop' => hops op' (List.mem_cons_of_mem op hop')

end Session

/-- **After any operations the counters and the exported words say what the calls so far tell.** So
they do in the middle of a run, however far it came; and what is no call changes neither. -/
theorem session_accounts {ops : List Session.Operation} (hops : ∀ op ∈ ops, op.meddles = false) :
    let s := ({} : Session).after ops
    let past := ({} : Session).history [] ops
    Accounted past s.counters s.bench.exports ∧
      (∀ (d : Driver) (out : SinkId) (n : Nat) name c, s.counters.get? name = some c →
        let stage := (d.performAll out (d.moves.take n) ⟨c, s.bench⟩).2
        Accounted ((d.calls out name (d.moves.take n) ⟨c, s.bench⟩).reverse ++ past)
          (s.counters.put name stage.counter) stage.bench.exports) ∧
      (∀ op : Session.Operation, op.quiet = true →
        (s.step op).2.bench.exports = s.bench.exports ∧
          ∀ name, op ≠ .retire name →
            ((s.step op).2.counters.get? name).map Counter.standing =
              (s.counters.get? name).map Counter.standing) ∧
      s.close.bench.exports = s.bench.exports := by
  intro s past
  have haccounted : Accounted past s.counters s.bench.exports :=
    Session.accounted_after Accounted.start hops
  refine ⟨haccounted, fun d out n name c hc => ?_, fun op hquiet => ⟨?_, fun name hname => ?_⟩, ?_⟩
  · exact haccounted.moves hc d out (d.moves.take n)
  · exact Session.exports_quiet hquiet
  · exact Session.standing_quiet hquiet hname
  · exact Session.close_exports s

/-- A run fails at its first test, which counts all the same; then a counter that does not count is
tested. -/
theorem session_accounts_failing_run :
    let ops : List Session.Operation :=
      [.openSink "narrow" (.ofPlan { accept := some 30 }), .openSink "wide" {},
        .makeCounter "x" "narrow" none none, .makeCounter "y" "wide" (some .initial) none,
        .makeDriver "d" (.new .final), .run "d" "x" "narrow", .test "y" 3]
    let s := ({} : Session).after ops
    (∀ op ∈ ops, op.meddles = false) ∧
      Accounted
        [.tested "y", .tested "x", .entered 0, .made "y" false, .made "x" true]
        s.counters s.bench.exports := by
  intro ops s
  have hops : ∀ op ∈ ops, op.meddles = false := by decide
  have hpast : ({} : Session).history [] ops =
      [.tested "y", .tested "x", .entered 0, .made "y" false, .made "x" true] := by
    decide +kernel
  exact ⟨hops, hpast ▸ (session_accounts hops).1⟩

end TraceTarget
