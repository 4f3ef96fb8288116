import TraceTarget.Proofs.Delivery

/-!
# Routines that only print

Of a reporter nothing is known but that it writes and flushes. Most of them just print: they write
fixed bytes, in however many pieces, and end in a fixed way, except that a write of their own that
fails ends them at once with its fault.

- `Script.Prints`: a routine that prints.
- `Script.run_onlyAt`: no routine touches another sink than the one it is given.
- `Script.Prints.run`: a routine that prints either has the sink take all its bytes and ends its own
  way, or has the sink refuse some of them and ends with the fault of the sink.
-/

namespace TraceTarget

namespace OnlyAt

theorem refl (id : SinkId) (σ : SinkId → Sink) : OnlyAt id σ σ := fun _ _ => rfl

theorem trans {id : SinkId} {σ σ₁ τ : SinkId → Sink} (h : OnlyAt id σ σ₁) (h' : OnlyAt id σ₁ τ) :
    OnlyAt id σ τ := fun id' hid => (h' id' hid).trans (h id' hid)

end OnlyAt

namespace Script

/-- A routine that writes these bytes in pieces, ends like this, and gives up at once with the fault
of a write that fails. -/
inductive Prints : Script → Text.Bytes → Ending → Prop
  | finish (ending : Ending) : Prints (.finish ending) [] ending
  | write {piece rest : Text.Bytes} {next : Except Fault Unit → Script} {ending : Ending} :
    (∀ fault, next (.error fault) = .finish (.failed fault)) →
      Prints (next (.ok ())) rest ending → Prints (.write piece next) (piece ++ rest) ending

/-- Printing before a routine that prints. -/
theorem Prints.print {next : Script} {bs rest : Text.Bytes} {ending : Ending}
    (h : next.Prints rest ending) : (Script.print bs next).Prints (bs ++ rest) ending :=
  .write (fun _ => rfl) h

/-- A routine touches no other sink than the one it is given. -/
theorem run_onlyAt (id : SinkId) (s : Script) (b : Bench) :
    OnlyAt id b.sink (s.run id b).2.sink := by
  induction s generalizing b with
  | finish ending => exact .refl id b.sink
  | write bytes next ih =>
    have hstep : OnlyAt id b.sink (b.write id bytes).2.sink := fun _ h => b.sink_write_other bytes h
    exact hstep.trans (ih (b.write id bytes).1 (b.write id bytes).2)
  | flush next ih =>
    have hstep : OnlyAt id b.sink (b.flush id).2.sink := fun _ h => b.sink_flush_other h
    exact hstep.trans (ih (b.flush id).1 (b.flush id).2)

/-- A routine that prints: either the sink takes all its bytes and it ends its own way, or the sink
refuses them somewhere and it ends with the fault of the sink. -/
theorem Prints.run {s : Script} {text : Text.Bytes} {ending : Ending} (h : s.Prints text ending)
    (id : SinkId) (b : Bench) :
    ((s.run id b).1 = ending ∧ Sink.Takes text (b.sink id) ((s.run id b).2.sink id)) ∨
      ∃ fault, (s.run id b).1 = .failed fault ∧
        Sink.Refuses text (b.sink id) ((s.run id b).2.sink id) fault := by
  induction h generalizing b with
  | finish ending => exact .inl ⟨rfl, .nil _⟩
  | @write piece rest next ending hfail _ ih =>
    have hsink : (b.write id piece).2.sink id = ((b.sink id).write piece).2 :=
      Bench.sink_withSink_self ..
    have hrun : (Script.write piece next).run id b =
        (next (b.write id piece).1).run id (b.write id piece).2 := rfl
    rw [hrun]
    cases hwrite : (b.write id piece).1 with
    | ok u =>
      have hpiece : (b.sink id).write piece = (.ok (), (b.write id piece).2.sink id) :=
        Prod.ext hwrite hsink.symm
      rcases ih (b.write id piece).2 with ⟨hend, htakes⟩ | ⟨fault, hend, hrefuses⟩
      · exact .inl ⟨hend, .cons hpiece htakes⟩
      · -- the bytes before the failure grow by the piece that the sink took
        obtain ⟨done, bad, left, s₁, rfl, htakes, hbad⟩ := hrefuses
        exact .inr ⟨fault, hend, piece ++ done, bad, left, s₁, (List.append_assoc ..).symm,
          .cons hpiece htakes, hbad⟩
    | error fault =>
      have hpiece : (b.sink id).write piece = (.error fault, (b.write id piece).2.sink id) :=
        Prod.ext hwrite hsink.symm
      rw [hfail fault]
      exact .inr ⟨fault, rfl, [], piece, rest, b.sink id, rfl, .nil _, hpiece⟩

end Script

namespace Reporter

/-- The reporter that does nothing prints nothing. -/
theorem prints_silent : silent.script.Prints [] .done := .finish .done

/-- The reporter of a message prints its line. -/
theorem prints_message (text : String) : (message text).script.Prints (lineBytes text) .done := by
  have h : (Script.print (lineBytes text) (.finish .done)).Prints (lineBytes text ++ []) .done :=
    .print (.finish .done)
  rwa [List.append_nil] at h

end Reporter

end TraceTarget
