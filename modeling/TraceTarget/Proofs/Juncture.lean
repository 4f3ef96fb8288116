import TraceTarget.Driver

/-!
# The junctures at which a run can fail

A run has five kinds of junctures at which a move can fail; two of them come once in each iteration.
Every move that fails stands at one of them, and the juncture says which moves were made before.

- `Juncture`: the junctures.
- `Move.HaltsWith`: what a run reports when a move fails; `perform_haltsWith` says that nothing else
  is reported.
- `rounds`: the moves of the first iterations.
- `Driver.before`: the moves before a juncture.
- `exists_juncture`: a move of a run that can fail stands at a juncture, after the moves before.
-/

namespace TraceTarget

/-! ### Cutting lists -/

section Cutting

variable {α : Type} {as bs done rest : List α} {a : α}

/-- An element of two lists in a row stands in the first or in the second. -/
theorem append_eq_split (h : as ++ bs = done ++ a :: rest) :
    (∃ r, as = done ++ a :: r) ∨ ∃ p, done = as ++ p ∧ bs = p ++ a :: rest := by
  rcases List.append_eq_append_iff.mp h with ⟨p, hdone, hbs⟩ | ⟨c, has, hrest⟩
  · exact .inr ⟨p, hdone, hbs⟩
  · cases c with
    | nil => exact .inr ⟨[], by rw [has, List.append_nil, List.append_nil], hrest.symm⟩
    | cons x c =>
      obtain ⟨rfl, -⟩ := List.cons.inj hrest
      exact .inl ⟨c, has⟩

/-- An element of some lists in a row stands in one of them, after all those before. -/
theorem flatMap_range_eq_split {f : Nat → List α} {n : Nat}
    (h : (List.range n).flatMap f = done ++ a :: rest) :
    ∃ i < n, ∃ p q, f i = p ++ a :: q ∧ done = (List.range i).flatMap f ++ p := by
  induction n generalizing rest with
  | zero => exact absurd h.symm (List.append_ne_nil_of_right_ne_nil _ (List.cons_ne_nil a rest))
  | succ n ih =>
    -- the element stands in one of the first `n` lists, or in the last one
    rw [List.range_succ, List.flatMap_append, List.flatMap_singleton] at h
    rcases append_eq_split h with ⟨r, hfirst⟩ | ⟨p, hdone, hlast⟩
    · obtain ⟨i, hi, p, q, hf, hdone⟩ := ih hfirst
      exact ⟨i, Nat.lt_succ_of_lt hi, p, q, hf, hdone⟩
    · exact ⟨n, Nat.lt_succ_self n, p, rest, hlast, hdone⟩

end Cutting

/-! ### Junctures -/

/-- A juncture at which a run can fail. -/
inductive Juncture where
  | startBanner
  | func (iteration : Nat)
  | test (iteration : Nat)
  | reporter
  | endBanner
  deriving DecidableEq, Repr

/-- The move at a juncture. -/
def Juncture.move : Juncture → Move
  | startBanner => .banner .startBanner .start
  | func i => .func (.ofNat i)
  | test i => .test (.ofNat i)
  | reporter => .report
  | endBanner => .banner .endBanner .finish

/-- What a run reports when a move fails. The moves that do not write cannot fail. -/
def Move.HaltsWith : Move → Halt → Prop
  | banner label _, halt => ∃ fault, halt = .write label fault
  | func _, halt => ∃ fault, halt = .write .funcLine fault
  | test _, halt => ∃ fault, halt = .write .testLine fault
  | report, halt => halt = .panicked ∨ ∃ fault, halt = .reporter fault
  | begin, _ | iterated _, _ | pause, _ | reported, _ | done, _ => False

/-- The moves of the first iterations. -/
def rounds (n : Nat) : List Move :=
  (List.range n).flatMap fun i => Driver.iteration (.ofNat i)

theorem rounds_succ (n : Nat) :
    rounds (n + 1) =
      rounds n ++ [.func (.ofNat n), .test (.ofNat n), .iterated (.ofNat n), .pause] := by
  rw [rounds, List.range_succ, List.flatMap_append, List.flatMap_singleton]
  rfl

namespace Driver

variable {d : Driver} {out : SinkId}

/-- A request to a sink that fails is reported in the way that was asked for. -/
theorem settle_error {s s' : Stage} {f : Fault → Halt} {r : Except Fault Unit × Bench} {halt : Halt}
    (h : settle s f r = (.error halt, s')) : ∃ fault, halt = f fault := by
  rcases r with ⟨fault | u, b⟩
  · cases h
    exact ⟨fault, rfl⟩
  · cases h

/-- A failure is reported as the move has it. -/
theorem perform_haltsWith {move : Move} {s s' : Stage} {halt : Halt}
    (h : d.perform out move s = (.error halt, s')) : move.HaltsWith halt := by
  cases move with
  | banner label line =>
    rw [perform] at h
    exact settle_error h
  | func i =>
    rw [perform] at h
    exact settle_error h
  | test i =>
    rw [perform, Counter.test_eq] at h
    exact settle_error h
  | report =>
    rw [perform] at h
    rcases hreport : d.reporter.report out s.bench with ⟨_ | fault | _, bench⟩ <;>
      rw [hreport] at h
    · exact .inr (settle_error h)
    · cases h
      exact .inr ⟨fault, rfl⟩
    · cases h
      exact .inl rfl
  | begin => cases h
  | iterated i => cases h
  | pause => cases h
  | reported => cases h
  | done => cases h

/-- The moves before the loop. -/
def opening : List Move :=
  [.begin, .banner .startBanner .start]

/-- The moves of the reporter, if it is called. -/
def reporting (d : Driver) : List Move :=
  if d.revision.callsReporter then [.report, .reported] else []

/-- The moves before a juncture. -/
def before (d : Driver) : Juncture → List Move
  | .startBanner => [.begin]
  | .func i => opening ++ rounds i
  | .test i => opening ++ rounds i ++ [.func (.ofNat i)]
  | .reporter => opening ++ rounds 10
  | .endBanner => opening ++ rounds 10 ++ d.reporting

/-- Whether a run comes to a juncture at all. -/
def Reaches (d : Driver) : Juncture → Prop
  | .func i | .test i => i < 10
  | .reporter => d.revision.callsReporter = true
  | .startBanner | .endBanner => True

/-- The moves of a run, part by part. -/
theorem moves_eq (d : Driver) :
    d.moves = opening ++ (rounds 10 ++ (d.reporting ++ [.banner .endBanner .finish, .done])) := by
  have hindices : indices.flatMap iteration = rounds 10 := by
    rw [indices, List.flatMap_map]
    rfl
  rw [moves, hindices, reporting]
  simp only [opening, List.cons_append, List.nil_append, List.append_assoc]

/-- A move of an iteration that can fail prints from the function or from the counter. -/
theorem iteration_split {i : Nat} {p q : List Move} {move : Move} {halt : Halt}
    (h : iteration (.ofNat i) = p ++ move :: q) (hmove : move.HaltsWith halt) :
    move = (Juncture.func i).move ∧ p = [] ∨
      move = (Juncture.test i).move ∧ p = [.func (.ofNat i)] := by
  rcases p with _ | ⟨m₁, _ | ⟨m₂, _ | ⟨m₃, _ | ⟨m₄, p⟩⟩⟩⟩ <;> simp [iteration] at h
  · exact .inl ⟨h.1.symm, rfl⟩
  · exact .inr ⟨h.2.1.symm, by rw [h.1]⟩
  · rw [← h.2.2.1] at hmove
    cases hmove
  · rw [← h.2.2.2.1] at hmove
    cases hmove

/-- The reporter's own moves can only fail in the call. -/
theorem reporting_split {p q : List Move} {move : Move} {halt : Halt}
    (h : d.reporting = p ++ move :: q) (hmove : move.HaltsWith halt) :
    d.revision.callsReporter = true ∧ move = Juncture.reporter.move ∧ p = [] := by
  unfold reporting at h
  split at h
  · next hcalls =>
    rcases p with _ | ⟨m₁, _ | ⟨m₂, p⟩⟩ <;> simp at h
    · exact ⟨hcalls, h.1.symm, rfl⟩
    · rw [← h.2.1] at hmove
      cases hmove
  · exact absurd h.symm (List.append_ne_nil_of_right_ne_nil _ (List.cons_ne_nil move q))

/-- A move of a run that can fail stands at a juncture of the run, after the moves before. -/
theorem exists_juncture {done rest : List Move} {move : Move} {halt : Halt}
    (h : d.moves = done ++ move :: rest) (hmove : move.HaltsWith halt) :
    ∃ p, d.Reaches p ∧ move = p.move ∧ done = d.before p := by
  rw [moves_eq] at h
  -- before the loop
  rcases append_eq_split h with ⟨r, hopening⟩ | ⟨p₁, hdone, h₁⟩
  · rcases done with _ | ⟨m₁, _ | ⟨m₂, done⟩⟩ <;> simp [opening] at hopening
    · rw [← hopening.1] at hmove
      cases hmove
    · exact ⟨.startBanner, trivial, hopening.2.1.symm, by rw [← hopening.1]; rfl⟩
  -- in the loop
  rcases append_eq_split h₁ with ⟨r, hrounds⟩ | ⟨p₂, rfl, h₂⟩
  · obtain ⟨i, hi, p', q, hsplit, rfl⟩ := flatMap_range_eq_split hrounds
    rcases iteration_split hsplit hmove with ⟨rfl, rfl⟩ | ⟨rfl, rfl⟩
    · exact ⟨.func i, hi, rfl, by rw [hdone, List.append_nil]; rfl⟩
    · exact ⟨.test i, hi, rfl, by rw [hdone, ← List.append_assoc]; rfl⟩
  -- after the loop, in the reporter's own moves or in the last two
  rcases append_eq_split h₂ with ⟨r, hreporting⟩ | ⟨p₃, rfl, h₃⟩
  · obtain ⟨hcalls, rfl, rfl⟩ := reporting_split hreporting hmove
    exact ⟨.reporter, hcalls, rfl, by rw [hdone, List.append_nil]; rfl⟩
  · rcases p₃ with _ | ⟨m₁, _ | ⟨m₂, p₃⟩⟩ <;> simp at h₃
    · refine ⟨.endBanner, trivial, h₃.1.symm, ?_⟩
      rw [hdone, List.append_nil, ← List.append_assoc]
      rfl
    · rw [← h₃.2.1] at hmove
      cases hmove

end Driver

end TraceTarget
