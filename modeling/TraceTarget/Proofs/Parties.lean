import TraceTarget.Proofs.Confinement
import TraceTarget.Proofs.Exported

/-!
# Parties that share nothing

Several parties use one session in turn, each with counters, drivers and sinks of its own. Nobody
notices the others: what comes of a party's operations, and what it has in the end, is the same as
if it were alone, however the operations of all of them are interleaved, and whatever fails. Only
the exported words are common to all, and they hold what was published last.

- `Session.Outcome`: what comes of an operation.
- `Owners`: who owns what; `Owners.Allows` says what a party may do, `Owners.Apart` that no two
  parties share a sink, `Owners.Same` that a party has the same in two sessions.
- `Owners.Carries`, `exists_carries`: what a party does comes to an action that keeps to its own
  sinks and some changes to its own names. The rest follows from this for all operations at once.
- `Owners.step_other`, `Owners.step_same`, `Owners.step_adds`: one operation, for the other parties,
  for the party itself, and for the recorded pauses and the log.
- `Owners.alone`: a party in the company of others and alone.
- `Owners.alike_after`: two ways of interleaving the same.
- `parties_are_independent`: whole sessions.
-/

namespace TraceTarget

namespace Session

/-! ### Changes -/

/-- A change to what goes by a name. -/
inductive Change where
  | putCounter (name : String) (c : Counter)
  | eraseCounter (name : String)
  | putDriver (name : String) (d : Driver)

/-- The session after a change. -/
def change (s : Session) : Change → Session
  | .putCounter name c => { s with counters := s.counters.put name c }
  | .eraseCounter name => { s with counters := s.counters.erase name }
  | .putDriver name d => { s with drivers := s.drivers.put name d }

/-- The session with another bench, after some changes. -/
def changed (s : Session) (b : Bench) (changes : List Change) : Session :=
  changes.foldl change { s with bench := b }

@[simp] theorem change_bench (s : Session) (x : Change) : (s.change x).bench = s.bench := by
  cases x <;> rfl

@[simp] theorem change_fresh (s : Session) (x : Change) : (s.change x).fresh = s.fresh := by
  cases x <;> rfl

/-- What no change touches stays as it is. -/
theorem foldl_change {α : Type} {f : Session → α} (hf : ∀ s x, f (change s x) = f s)
    (s : Session) (xs : List Change) : f (xs.foldl change s) = f s := by
  induction xs generalizing s with
  | nil => rfl
  | cons x xs ih => rw [List.foldl_cons, ih, hf]

@[simp] theorem changed_bench (s : Session) (b : Bench) (xs : List Change) :
    (s.changed b xs).bench = b :=
  foldl_change change_bench _ xs

@[simp] theorem changed_fresh (s : Session) (b : Bench) (xs : List Change) :
    (s.changed b xs).fresh = s.fresh :=
  foldl_change change_fresh _ xs

/-- What comes of an operation: its answer, the pauses that it records and what it tells the log. -/
structure Outcome where
  answer : Answer
  pauses : List Duration
  events : List Event

/-- What comes of an operation in a session. -/
def outcome (s : Session) (op : Operation) : Outcome where
  answer := (s.step op).1
  pauses := (s.step op).2.bench.slept.drop s.bench.slept.length
  events := (s.step op).2.bench.journal.drop s.bench.journal.length

/-- What comes of operations that several parties do in turn. -/
def outcomes {ι : Type} (s : Session) : List (ι × Operation) → List (ι × Outcome)
  | [] => []
  | (i, op) :: ops => (i, s.outcome op) :: (s.step op).2.outcomes ops

/-- Two sessions with the same in them, except for the exported words. What was recorded need not
have been recorded in the same order. -/
structure Alike (s t : Session) : Prop where
  counters : ∀ name, s.counters.get? name = t.counters.get? name
  drivers : ∀ name, s.drivers.get? name = t.drivers.get? name
  sinks : ∀ name, s.sinks.get? name = t.sinks.get? name
  bench : ∀ id, s.bench.sink id = t.bench.sink id
  slept : s.bench.slept.Perm t.bench.slept
  journal : s.bench.journal.Perm t.bench.journal
  fresh : s.fresh = t.fresh

/-- Tests leave a counter with its sink. -/
theorem testMany_sink (index : UInt32) (times : Nat) (c : Counter) (b : Bench) :
    (testMany index times c b).2.1.sink = c.sink := by
  induction times generalizing c b with
  | zero => rfl
  | succ n ih =>
    rw [testMany, Counter.test_eq]
    exact (ih _ _).trans c.bump_sink

end Session

open Session (Operation Answer Change Outcome)

/-! ### What belongs to a party -/

section

variable {ι α : Type} [DecidableEq ι] {i j : ι}

/-- What belongs to one party, in order. -/
def ofParty (i : ι) (xs : List (ι × α)) : List (ι × α) :=
  xs.filter (·.1 = i)

theorem ofParty_cons_self (i : ι) (x : α) (xs : List (ι × α)) :
    ofParty i ((i, x) :: xs) = (i, x) :: ofParty i xs := by
  simp [ofParty]

theorem ofParty_cons_other (h : j ≠ i) (x : α) (xs : List (ι × α)) :
    ofParty i ((j, x) :: xs) = ofParty i xs := by
  simp [ofParty, h]

/-- What is the same for each party is the same up to the order. -/
theorem perm_of_ofParty {xs ys : List (ι × α)} (h : ∀ i, ofParty i xs = ofParty i ys) :
    xs.Perm ys := by
  classical
  rw [List.perm_iff_count]
  intro x
  have hown (zs : List (ι × α)) : (ofParty x.1 zs).count x = zs.count x :=
    List.count_filter (decide_eq_true rfl)
  rw [← hown xs, h, hown]

end

/-! ### Owners -/

/-- Who owns what in a session: the names, and the sinks themselves. -/
structure Owners (ι : Type) where
  counter : String → ι
  driver : String → ι
  sink : String → ι
  sinkId : SinkId → ι

namespace Owners

variable {ι : Type}

/-- What a party may do: anything with what it owns. The exported words belong to nobody, so
everyone may reach for them. No sinks are opened, for their numbers would tell in which order that
was done; and nobody asks for the pauses of all parties together. -/
def Allows (o : Owners ι) (i : ι) : Operation → Prop
  | .makeCounter name sink _ _ => o.counter name = i ∧ o.sink sink = i
  | .test name _ | .tests name _ _ | .setEndReport name _ | .retire name => o.counter name = i
  | .func sink _ | .report sink _ => o.sink sink = i
  | .makeDriver name _ => o.driver name = i
  | .run driver counter sink => o.driver driver = i ∧ o.counter counter = i ∧ o.sink sink = i
  | .enterFunc _ | .enterTest _ _ | .poke _ _ => True
  | .openSink _ _ | .sleep _ => False

/-- The names of a party lead to nobody else's sinks. -/
structure Apart (o : Owners ι) (s : Session) : Prop where
  sinks : ∀ {name id}, s.sinks.get? name = some id → o.sinkId id = o.sink name
  counters : ∀ {name c}, s.counters.get? name = some c → o.sinkId c.sink = o.counter name

/-- Two sessions in which a party has the same. -/
structure Same (o : Owners ι) (i : ι) (s t : Session) : Prop where
  counters : ∀ name, o.counter name = i → s.counters.get? name = t.counters.get? name
  drivers : ∀ name, o.driver name = i → s.drivers.get? name = t.drivers.get? name
  sinks : ∀ name, o.sink name = i → s.sinks.get? name = t.sinks.get? name
  bench : s.bench.AgreeOn (o.sinkId · = i) t.bench

namespace Same

variable {o : Owners ι} {i : ι} {s t u : Session}

theorem refl (o : Owners ι) (i : ι) (s : Session) : o.Same i s s :=
  ⟨fun _ _ => rfl, fun _ _ => rfl, fun _ _ => rfl, fun _ _ => rfl⟩

theorem symm (h : o.Same i s t) : o.Same i t s where
  counters name hname := (h.counters name hname).symm
  drivers name hname := (h.drivers name hname).symm
  sinks name hname := (h.sinks name hname).symm
  bench id hid := (h.bench id hid).symm

theorem trans (h : o.Same i s t) (h' : o.Same i t u) : o.Same i s u where
  counters name hname := (h.counters name hname).trans (h'.counters name hname)
  drivers name hname := (h.drivers name hname).trans (h'.drivers name hname)
  sinks name hname := (h.sinks name hname).trans (h'.sinks name hname)
  bench id hid := (h.bench id hid).trans (h'.bench id hid)

end Same

/-! ### What an operation comes to -/

/-- A change that a party may make: to a name of its own, for which it has a counter with a sink of
its own. -/
def Permits (o : Owners ι) (i : ι) : Change → Prop
  | .putCounter name c => o.counter name = i ∧ o.sinkId c.sink = i
  | .eraseCounter name => o.counter name = i
  | .putDriver name _ => o.driver name = i

/-- What an operation of a party comes to: an action that keeps to the party's sinks, and permitted
changes. They are the same in all sessions in which the party has the same. -/
structure Carries (o : Owners ι) (i : ι) (s : Session) (op : Operation)
    (act : Bench → (Answer × List Change) × Bench) : Prop where
  confined : Confined (o.sinkId · = i) act
  permits : ∀ b, ∀ change ∈ (act b).1.2, o.Permits i change
  step : ∀ t, o.Same i s t →
    t.step op = ((act t.bench).1.1, t.changed (act t.bench).2 (act t.bench).1.2)

variable {o : Owners ι} {i : ι} {s : Session} {op : Operation}

/-- An operation without changes. -/
theorem carries_quiet {act : Bench → Answer × Bench} (hact : Confined (o.sinkId · = i) act)
    (hstep : ∀ t, o.Same i s t →
      t.step op = ((act t.bench).1, { t with bench := (act t.bench).2 })) :
    ∃ act, o.Carries i s op act :=
  ⟨fun b => (((act b).1, []), (act b).2), hact.map fun answer => (answer, []),
    fun _ _ hchange => absurd hchange List.not_mem_nil, hstep⟩

/-- An operation on a name that nothing has. -/
theorem carries_unknown {n : String}
    (hstep : ∀ t, o.Same i s t → t.step op = (.unknown n, t)) : ∃ act, o.Carries i s op act :=
  carries_quiet (.pure (Answer.unknown n)) hstep

/-- An operation on a sink. -/
theorem carries_sink (hs : o.Apart s) {name : String} (hname : o.sink name = i)
    {act : SinkId → Bench → Answer × Bench}
    (hact : ∀ id, o.sinkId id = i → Confined (o.sinkId · = i) (act id))
    (hstep : ∀ t : Session, t.step op =
      match t.sinks.get? name with
      | none => (.unknown name, t)
      | some id => ((act id t.bench).1, { t with bench := (act id t.bench).2 })) :
    ∃ act, o.Carries i s op act := by
  cases hsink : s.sinks.get? name with
  | none =>
    refine carries_unknown (n := name) fun t ht => ?_
    rw [hstep, ← ht.sinks name hname, hsink]
  | some id =>
    have hown : o.sinkId id = i := (hs.sinks hsink).trans hname
    refine carries_quiet (hact id hown) fun t ht => ?_
    rw [hstep, ← ht.sinks name hname, hsink]

/-- An operation on a counter, which is then replaced by one with the same sink. -/
theorem carries_counter (hs : o.Apart s) {name : String} (hname : o.counter name = i)
    {act : Counter → Bench → (Answer × Counter) × Bench}
    (hact : ∀ c, o.sinkId c.sink = i → Confined (o.sinkId · = i) (act c))
    (hsink : ∀ c b, (act c b).1.2.sink = c.sink)
    (hstep : ∀ t : Session, t.step op =
      match t.counters.get? name with
      | none => (.unknown name, t)
      | some c => ((act c t.bench).1.1, { t with
          bench := (act c t.bench).2
          counters := t.counters.put name (act c t.bench).1.2 })) :
    ∃ act, o.Carries i s op act := by
  cases hc : s.counters.get? name with
  | none =>
    refine carries_unknown (n := name) fun t ht => ?_
    rw [hstep, ← ht.counters name hname, hc]
  | some c =>
    have hown : o.sinkId c.sink = i := (hs.counters hc).trans hname
    refine ⟨fun b => (((act c b).1.1, [.putCounter name (act c b).1.2]), (act c b).2), ?_, ?_, ?_⟩
    · exact (hact c hown).map fun r => (r.1, [Change.putCounter name r.2])
    · intro b
      have hput : o.Permits i (.putCounter name (act c b).1.2) :=
        ⟨hname, (congrArg o.sinkId (hsink c b)).trans hown⟩
      exact List.forall_mem_singleton.mpr hput
    · intro t ht
      rw [hstep, ← ht.counters name hname, hc]
      rfl

/-- Making a counter ends the life of the one that had the name before. -/
theorem carries_makeCounter (hs : o.Apart s) {name sink : String} {revision : Option Revision}
    {report : Option EndReport} (hop : o.Allows i (.makeCounter name sink revision report)) :
    ∃ act, o.Carries i s (.makeCounter name sink revision report) act := by
  obtain ⟨hname, hsink⟩ := hop
  cases hid : s.sinks.get? sink with
  | none =>
    refine carries_unknown (n := sink) fun t ht => ?_
    rw [Session.step, ← ht.sinks sink hsink, hid]
  | some id =>
    have hown : o.sinkId id = i := (hs.sinks hid).trans hsink
    -- the new counter depends on nothing in the session but the number of its sink
    obtain ⟨made, hmade, hstep⟩ : ∃ made : Counter, made.sink = id ∧
        ∀ t : Session, t.sinks.get? sink = some id →
          t.step (.makeCounter name sink revision report) =
            (.counter made.count made.endReport,
              { t.retire name with counters := (t.retire name).counters.put name made }) := by
      refine ⟨_, ?_, fun t ht => by rw [Session.step, ht]⟩
      cases revision <;> cases report <;> rfl
    have hput : o.Permits i (.putCounter name made) := ⟨hname, hmade ▸ hown⟩
    cases hc : s.counters.get? name with
    | none =>
      refine ⟨fun b => ((.counter made.count made.endReport, [.putCounter name made]), b),
        .pure _, ?_, fun t ht => ?_⟩
      · exact fun _ => List.forall_mem_singleton.mpr hput
      · have htc : t.counters.get? name = none := (ht.counters name hname).symm.trans hc
        rw [hstep t ((ht.sinks sink hsink).symm.trans hid), Session.retire, htc]
        rfl
    | some c =>
      have hc' : o.sinkId c.sink = i := (hs.counters hc).trans hname
      refine ⟨fun b => ((.counter made.count made.endReport,
        [.eraseCounter name, .putCounter name made]), c.retire b), ?_, ?_, fun t ht => ?_⟩
      · exact (confined_retire hc').map fun _ =>
          (Answer.counter made.count made.endReport,
            [Change.eraseCounter name, Change.putCounter name made])
      · have herase : o.Permits i (.eraseCounter name) := hname
        exact fun _ => List.forall_mem_cons.mpr ⟨herase, List.forall_mem_singleton.mpr hput⟩
      · have htc : t.counters.get? name = some c := (ht.counters name hname).symm.trans hc
        rw [hstep t ((ht.sinks sink hsink).symm.trans hid), Session.retire, htc]
        rfl

/-- The end of a counter's life takes its name away. -/
theorem carries_retire (hs : o.Apart s) {name : String} (hop : o.Allows i (.retire name)) :
    ∃ act, o.Carries i s (.retire name) act := by
  cases hc : s.counters.get? name with
  | none =>
    refine carries_unknown (n := name) fun t ht => ?_
    rw [Session.step, ← ht.counters name hop, hc]
  | some c =>
    have hown : o.sinkId c.sink = i := (hs.counters hc).trans hop
    refine ⟨fun b => ((.done, [.eraseCounter name]), c.retire b), ?_, ?_, fun t ht => ?_⟩
    · exact (confined_retire hown).map fun _ => (Answer.done, [Change.eraseCounter name])
    · exact fun _ => List.forall_mem_singleton.mpr hop
    · have htc : t.counters.get? name = some c := (ht.counters name hop).symm.trans hc
      rw [Session.step, htc]
      dsimp only
      rw [Session.retire, htc]
      rfl

/-- A run uses three names. -/
theorem carries_run (hs : o.Apart s) {driver counter sink : String}
    (hop : o.Allows i (.run driver counter sink)) :
    ∃ act, o.Carries i s (.run driver counter sink) act := by
  obtain ⟨hdriver, hcounter, hsink⟩ := hop
  cases hd : s.drivers.get? driver with
  | none =>
    refine carries_unknown (n := driver) fun t ht => ?_
    rw [Session.step, ← ht.drivers driver hdriver, hd]
  | some d =>
  cases hc : s.counters.get? counter with
  | none =>
    refine carries_unknown (n := counter) fun t ht => ?_
    rw [Session.step, ← ht.drivers driver hdriver, ← ht.counters counter hcounter, hd, hc]
  | some c =>
  cases hid : s.sinks.get? sink with
  | none =>
    refine carries_unknown (n := sink) fun t ht => ?_
    rw [Session.step, ← ht.drivers driver hdriver, ← ht.counters counter hcounter,
      ← ht.sinks sink hsink, hd, hc, hid]
  | some id =>
    have hown : o.sinkId c.sink = i := (hs.counters hc).trans hcounter
    have hout : o.sinkId id = i := (hs.sinks hid).trans hsink
    -- the answer of a run says how many pauses there were, which is seen on the bench alone
    refine ⟨_, (confined_run hout hown d).timed.map fun r =>
      (Answer.ran r.1.1 r.1.2.count r.2, [Change.putCounter counter r.1.2]), ?_, fun t ht => ?_⟩
    · intro b
      refine List.forall_mem_singleton.mpr ⟨hcounter, ?_⟩
      rwa [Driver.run_counter, Counter.advance_sink]
    · rw [Session.step, ← ht.drivers driver hdriver, ← ht.counters counter hcounter,
        ← ht.sinks sink hsink, hd, hc, hid]
      rfl

/-- Every operation that a party may do comes to something of that kind. -/
theorem exists_carries (hs : o.Apart s) (hop : o.Allows i op) : ∃ act, o.Carries i s op act := by
  cases op with
  | openSink _ _ => exact hop.elim
  | sleep _ => exact hop.elim
  | makeCounter name sink revision report => exact carries_makeCounter hs hop
  | test name index =>
    exact carries_counter hs hop
      (fun c hc => (confined_test hc index).map fun r => (Answer.tested r.1 r.2.count, r.2))
      (fun c b => by rw [Counter.test_eq]; exact c.bump_sink) fun t => by
        cases ht : t.counters.get? name <;> simp only [Session.step, ht]
  | tests name index times =>
    exact carries_counter hs hop
      (fun c hc => (confined_testMany hc index times).map fun r =>
        (Answer.testedMany r.1 r.2.count, r.2))
      (fun c b => Session.testMany_sink index times c b) fun t => by
        cases ht : t.counters.get? name <;> simp only [Session.step, ht]
  | setEndReport name report =>
    exact carries_counter hs hop
      (fun c _ => .pure (Answer.counter c.count report, c.withEndReport report))
      (fun _ _ => rfl) fun _ => rfl
  | retire name => exact carries_retire hs hop
  | func sink index =>
    exact carries_sink hs hop
      (fun id hid => (confined_reportFunc hid index).map Answer.printed) fun t => by
        cases ht : t.sinks.get? sink <;> simp only [Session.step, ht]
  | report sink reporter =>
    exact carries_sink hs hop
      (fun id hid => (confined_report hid reporter).map Answer.reported) fun t => by
        cases ht : t.sinks.get? sink <;> simp only [Session.step, ht]
  | enterFunc index =>
    exact carries_quiet
      ((confined_publish fun e => { e with index := index.toUInt64 }).map fun _ => Answer.done)
      fun _ _ => rfl
  | enterTest index count =>
    exact carries_quiet
      ((confined_publish fun e => { e with count := count.toUInt64 }).map fun _ => Answer.done)
      fun _ _ => rfl
  | poke index count =>
    exact carries_quiet ((confined_publish fun _ => { index, count }).map fun _ => Answer.done)
      fun _ _ => rfl
  | makeDriver name driver =>
    refine ⟨fun b => ((.driver driver.revision driver.delay, [.putDriver name driver]), b),
      .pure _, fun _ => List.forall_mem_singleton.mpr hop, fun _ _ => rfl⟩
  | run driver counter sink => exact carries_run hs hop

/-! ### One operation -/

variable {j : ι} {t : Session} {x : Change}

theorem same_change (h : o.Same i s t) (x : Change) : o.Same i (s.change x) (t.change x) := by
  cases x with
  | putCounter name c =>
    refine { h with counters := fun name' hname' => ?_ }
    show (s.counters.put name c).get? name' = (t.counters.put name c).get? name'
    rw [Registry.get?_put, Registry.get?_put, h.counters name' hname']
  | eraseCounter name =>
    refine { h with counters := fun name' hname' => ?_ }
    show (s.counters.erase name).get? name' = (t.counters.erase name).get? name'
    rw [Registry.get?_erase, Registry.get?_erase, h.counters name' hname']
  | putDriver name d =>
    refine { h with drivers := fun name' hname' => ?_ }
    show (s.drivers.put name d).get? name' = (t.drivers.put name d).get? name'
    rw [Registry.get?_put, Registry.get?_put, h.drivers name' hname']

/-- A change that one party may make is none to the others. -/
theorem same_change_other (hx : o.Permits i x) (hj : j ≠ i) (s : Session) :
    o.Same j s (s.change x) := by
  have hne {f : String → ι} {name name' : String} (hname : f name = i) (hname' : f name' = j) :
      name' ≠ name := by
    rintro rfl
    exact hj (hname'.symm.trans hname)
  cases x with
  | putCounter name c =>
    exact { Same.refl o j s with
      counters := fun name' hname' => (Registry.get?_put_other _ c (hne hx.1 hname')).symm }
  | eraseCounter name =>
    exact { Same.refl o j s with
      counters := fun name' hname' => (Registry.get?_erase_other _ (hne hx hname')).symm }
  | putDriver name d =>
    exact { Same.refl o j s with
      drivers := fun name' hname' => (Registry.get?_put_other _ d (hne hx hname')).symm }

theorem apart_change (hs : o.Apart s) (hx : o.Permits i x) : o.Apart (s.change x) := by
  cases x with
  | putCounter name c =>
    refine { hs with counters := fun hc => ?_ }
    rcases Registry.get?_put_eq_some hc with ⟨rfl, rfl⟩ | ⟨-, hc⟩
    · rw [hx.1, hx.2]
    · exact hs.counters hc
  | eraseCounter name =>
    refine { hs with counters := fun {name' c} hc => ?_ }
    have hkept : (s.counters.erase name).get? name' = some c := hc
    rw [Registry.get?_erase] at hkept
    split at hkept
    · cases hkept
    · exact hs.counters hkept
  | putDriver name d => exact ⟨hs.sinks, hs.counters⟩

/-- Changes on the same bench, or on two benches that agree for the party, keep what is the same. -/
theorem same_changed (h : o.Same i s t) {b b' : Bench} (hb : b.AgreeOn (o.sinkId · = i) b')
    (xs : List Change) : o.Same i (s.changed b xs) (t.changed b' xs) := by
  have hstart : o.Same i { s with bench := b } { t with bench := b' } := { h with bench := hb }
  unfold Session.changed
  -- from here on only that the party has the same in the two sessions matters
  generalize { s with bench := b } = s', { t with bench := b' } = t' at hstart ⊢
  induction xs generalizing s' t' with
  | nil => exact hstart
  | cons x xs ih => exact ih _ _ (same_change hstart x)

/-- What a party does changes nothing for the others, and leaves all of them apart. -/
theorem changed_other {b : Bench} (hs : o.Apart s)
    (hb : ∀ id, o.sinkId id ≠ i → b.sink id = s.bench.sink id) {xs : List Change}
    (hxs : ∀ x ∈ xs, o.Permits i x) :
    o.Apart (s.changed b xs) ∧ ∀ j, j ≠ i → o.Same j s (s.changed b xs) := by
  have hstart (j : ι) (hj : j ≠ i) : o.Same j s { s with bench := b } :=
    { Same.refl o j s with bench := fun id hid => (hb id fun hi => hj (hid.symm.trans hi)).symm }
  have hapart : o.Apart { s with bench := b } := ⟨hs.sinks, hs.counters⟩
  unfold Session.changed
  generalize { s with bench := b } = u at hstart hapart ⊢
  induction xs generalizing u with
  | nil => exact ⟨hapart, hstart⟩
  | cons x xs ih =>
    obtain ⟨hx, hxs⟩ := List.forall_mem_cons.mp hxs
    exact ih hxs _ (fun j hj => (hstart j hj).trans (same_change_other hx hj u))
      (apart_change hapart hx)

/-- An operation of a party leaves everyone apart, and all others with what they had. -/
theorem step_other (hs : o.Apart s) (hop : o.Allows i op) :
    o.Apart (s.step op).2 ∧ ∀ j, j ≠ i → o.Same j s (s.step op).2 := by
  obtain ⟨act, hact⟩ := exists_carries hs hop
  rw [hact.step s (.refl o i s)]
  exact changed_other hs (fun id hid => hact.confined.others s.bench id hid)
    (hact.permits s.bench)

/-- An operation of a party comes to the same in two sessions in which the party has the same, and
leaves it with the same. -/
theorem step_same (hs : o.Apart s) (hop : o.Allows i op) (ht : o.Same i s t) :
    s.outcome op = t.outcome op ∧ o.Same i (s.step op).2 (t.step op).2 := by
  obtain ⟨act, hact⟩ := exists_carries hs hop
  -- one action describes the operation in both sessions, and it cannot tell their benches apart
  have hsteps := hact.step s (.refl o i s)
  have hstept := hact.step t ht
  obtain ⟨pauses, events, hadds, haddt⟩ := hact.confined.adds ht.bench
  have hresult := hact.confined.result ht.bench
  constructor
  · simp [Session.outcome, hsteps, hstept, hresult, hadds.slept, haddt.slept, hadds.journal,
      haddt.journal]
  · rw [hsteps, hstept, hresult]
    exact same_changed ht (hact.confined.sinks ht.bench) _

/-- The pauses and the log grow by what comes of an operation. -/
theorem step_adds (hs : o.Apart s) (hop : o.Allows i op) :
    Bench.Adds (s.outcome op).pauses (s.outcome op).events s.bench (s.step op).2.bench := by
  obtain ⟨act, hact⟩ := exists_carries hs hop
  obtain ⟨pauses, events, hadds, -⟩ := hact.confined.adds (b := s.bench) fun _ _ => rfl
  have hstep := hact.step s (.refl o i s)
  simpa [Session.outcome, hstep, hadds.slept, hadds.journal] using hadds

/-! ### Whole sessions -/

/-- The pauses and the log grow by what comes of each operation, in the order in which they are
done. -/
theorem adds_after {ops : List (ι × Operation)} (hs : o.Apart s)
    (hops : ∀ p ∈ ops, o.Allows p.1 p.2) :
    Bench.Adds ((s.outcomes ops).flatMap fun p => p.2.pauses)
      ((s.outcomes ops).flatMap fun p => p.2.events)
      s.bench (s.after (ops.map Prod.snd)).bench := by
  induction ops generalizing s with
  | nil => exact .of_eq rfl rfl
  | cons p ops ih =>
    obtain ⟨hop, hops⟩ := List.forall_mem_cons.mp hops
    have hfirst := step_adds hs hop
    rw [List.map_cons, Session.after_cons]
    exact hfirst.trans (ih (step_other hs hop).1 hops)

/-- Nobody opens a sink. -/
theorem fresh_after {ops : List (ι × Operation)} (hs : o.Apart s)
    (hops : ∀ p ∈ ops, o.Allows p.1 p.2) : (s.after (ops.map Prod.snd)).fresh = s.fresh := by
  induction ops generalizing s with
  | nil => rfl
  | cons p ops ih =>
    obtain ⟨hop, hops⟩ := List.forall_mem_cons.mp hops
    obtain ⟨act, hact⟩ := exists_carries hs hop
    rw [List.map_cons, Session.after_cons, ih (step_other hs hop).1 hops,
      hact.step s (.refl o p.1 s), Session.changed_fresh]

section Sessions

variable [DecidableEq ι] {ops ops' : List (ι × Operation)}

/-- What the operations of a party come to among those of others is what they come to alone, in any
session in which the party has the same. -/
theorem alone (hs : o.Apart s) (ht : o.Apart t) (hsame : o.Same i s t)
    (hops : ∀ p ∈ ops, o.Allows p.1 p.2) :
    ofParty i (s.outcomes ops) = t.outcomes (ofParty i ops) ∧
      o.Same i (s.after (ops.map Prod.snd)) (t.after ((ofParty i ops).map Prod.snd)) := by
  induction ops generalizing s t with
  | nil => exact ⟨rfl, hsame⟩
  | cons p ops ih =>
    obtain ⟨j, op⟩ := p
    obtain ⟨hop, hops⟩ := List.forall_mem_cons.mp hops
    obtain ⟨hs', hother⟩ := step_other hs hop
    by_cases hj : j = i
    · -- an operation of the party itself is done in both sessions
      subst hj
      obtain ⟨houtcome, hsame'⟩ := step_same hs hop hsame
      obtain ⟨hrest, hafter⟩ := ih hs' (step_other ht hop).1 hsame' hops
      rw [Session.outcomes, ofParty_cons_self, ofParty_cons_self, Session.outcomes, List.map_cons,
        List.map_cons, Session.after_cons, Session.after_cons, houtcome, hrest]
      exact ⟨rfl, hafter⟩
    · -- an operation of someone else leaves the party with the same
      have hsame' : o.Same i (s.step op).2 t := (hother i (Ne.symm hj)).symm.trans hsame
      rw [Session.outcomes, ofParty_cons_other hj, ofParty_cons_other hj, List.map_cons,
        Session.after_cons]
      exact ih hs' ht hsame' hops

/-- Operations that are the same for each party are allowed together or not at all. -/
theorem allows_of_ofParty (hops : ∀ p ∈ ops, o.Allows p.1 p.2)
    (hsame : ∀ i, ofParty i ops' = ofParty i ops) : ∀ p ∈ ops', o.Allows p.1 p.2 := by
  intro p hp
  have hown : p ∈ ofParty p.1 ops' := List.mem_filter.mpr ⟨hp, decide_eq_true rfl⟩
  rw [hsame] at hown
  exact hops p (List.mem_filter.mp hown).1

/-- Interleavings that are the same for each party come to the same for each party, and end
alike. -/
theorem alike_after (hs : o.Apart s) (hops : ∀ p ∈ ops, o.Allows p.1 p.2)
    (hsame : ∀ i, ofParty i ops' = ofParty i ops) :
    (∀ i, ofParty i (s.outcomes ops') = ofParty i (s.outcomes ops)) ∧
      (s.after (ops'.map Prod.snd)).Alike (s.after (ops.map Prod.snd)) := by
  have hops' := allows_of_ofParty hops hsame
  have houtcomes (i : ι) : ofParty i (s.outcomes ops') = ofParty i (s.outcomes ops) := by
    rw [(alone hs hs (.refl o i s) hops').1, (alone hs hs (.refl o i s) hops).1, hsame]
  have hafter (i : ι) :
      o.Same i (s.after (ops'.map Prod.snd)) (s.after (ops.map Prod.snd)) := by
    have hleft := (alone hs hs (.refl o i s) hops').2
    rw [hsame] at hleft
    exact hleft.trans (alone hs hs (.refl o i s) hops).2.symm
  have hperm := perm_of_ofParty houtcomes
  have hadds := adds_after hs hops
  have hadds' := adds_after hs hops'
  -- everything belongs to some party
  refine ⟨houtcomes, {
    counters := fun name => (hafter (o.counter name)).counters name rfl
    drivers := fun name => (hafter (o.driver name)).drivers name rfl
    sinks := fun name => (hafter (o.sink name)).sinks name rfl
    bench := fun id => (hafter (o.sinkId id)).bench id rfl
    slept := ?_
    journal := ?_
    fresh := (fresh_after hs hops').trans (fresh_after hs hops).symm }⟩
  · rw [hadds.slept, hadds'.slept]
    exact (hperm.flatMap_right _).append_left _
  · rw [hadds.journal, hadds'.journal]
    exact (hperm.flatMap_right _).append_left _

end Sessions

end Owners

/-- **Parties that share nothing do not notice each other**: whatever comes of a party's operations
among those of the others, and whatever it has afterwards, is the same as if only they had been
done. So two interleavings that are the same for each party come to the same for each of them and
end alike. The pauses and the log grow by what comes of each operation; and the exported words hold
what was published last, if nobody reaches for them otherwise. -/
theorem parties_are_independent {ι : Type} [DecidableEq ι] {o : Owners ι} {s : Session}
    (hs : o.Apart s) {ops : List (ι × Operation)} (hops : ∀ p ∈ ops, o.Allows p.1 p.2) :
    (∀ i, ofParty i (s.outcomes ops) = s.outcomes (ofParty i ops) ∧
        o.Same i (s.after (ops.map Prod.snd)) (s.after ((ofParty i ops).map Prod.snd))) ∧
      (∀ ops', (∀ i, ofParty i ops' = ofParty i ops) →
        (∀ i, ofParty i (s.outcomes ops') = ofParty i (s.outcomes ops)) ∧
          (s.after (ops'.map Prod.snd)).Alike (s.after (ops.map Prod.snd))) ∧
      Bench.Adds ((s.outcomes ops).flatMap fun p => p.2.pauses)
        ((s.outcomes ops).flatMap fun p => p.2.events) s.bench
        (s.after (ops.map Prod.snd)).bench ∧
      ((∀ p ∈ ops, p.2.meddles = false) →
        (s.after (ops.map Prod.snd)).bench.exports = s.bench.exports.published
          (s.last? Session.index? (ops.map Prod.snd))
          (s.last? Session.count? (ops.map Prod.snd))) := by
  refine ⟨fun i => Owners.alone hs hs (.refl o i s) hops,
    fun ops' hsame => Owners.alike_after hs hops hsame, Owners.adds_after hs hops,
    fun hmeddles => Session.exports_after fun op hop => ?_⟩
  obtain ⟨p, hp, rfl⟩ := List.mem_map.mp hop
  exact hmeddles p hp

/-- One party has a run that its narrow sink cuts short, and drops its counter; the other goes on
with its own in between. -/
theorem parties_are_independent_narrow_sink :
    let o : Owners Bool :=
      { counter := (· = "y"), driver := (· = "d"), sink := (· = "narrow"), sinkId := (· = 1) }
    let s : Session := ({} : Session).after
      [.openSink "wide" {}, .openSink "narrow" (.ofPlan { accept := some 30 }),
        .makeCounter "x" "wide" none none, .makeCounter "y" "narrow" none (some .hexCount),
        .makeDriver "d" (.new .linked)]
    let ops : List (Bool × Operation) :=
      [(false, .test "x" 4), (true, .run "d" "y" "narrow"), (false, .func "wide" 7),
        (true, .retire "y"), (false, .test "x" 5)]
    o.Apart s ∧ (∀ p ∈ ops, o.Allows p.1 p.2) ∧
      ofParty true (s.outcomes ops) =
        s.outcomes [(true, .run "d" "y" "narrow"), (true, .retire "y")] := by
  intro o s ops
  have hsinks : s.sinks = (Registry.empty.put "wide" 0).put "narrow" 1 := rfl
  have hcounters : s.counters = (Registry.empty.put "x" (.new 0)).put "y"
      ((Counter.new 1).withEndReport .hexCount) := rfl
  have hs : o.Apart s := by
    constructor
    · intro name id h
      rw [hsinks] at h
      rcases Registry.get?_put_eq_some h with ⟨rfl, rfl⟩ | ⟨-, h⟩
      · decide
      · rcases Registry.get?_put_eq_some h with ⟨rfl, rfl⟩ | ⟨-, h⟩
        · decide
        · cases h
    · intro name c h
      rw [hcounters] at h
      rcases Registry.get?_put_eq_some h with ⟨rfl, rfl⟩ | ⟨-, h⟩
      · decide
      · rcases Registry.get?_put_eq_some h with ⟨rfl, rfl⟩ | ⟨-, h⟩
        · decide
        · cases h
  have hops : ∀ p ∈ ops, o.Allows p.1 p.2 := by
    simp [ops, o, Owners.Allows]
  exact ⟨hs, hops, ((parties_are_independent hs hops).1 true).1⟩

end TraceTarget
