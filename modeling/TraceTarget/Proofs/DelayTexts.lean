import TraceTarget.Proofs.Integers
import TraceTarget.Proofs.Precedence
import TraceTarget.Proofs.Routes

/-!
# Integers for a delay

A document that says nothing but a delay may spell it in many ways, and as large as it likes. It is
accepted exactly if the integer that is spelled fits in 64 bits without a sign, and then it sets
exactly that many milliseconds; otherwise it is rejected for what it says, and never read as another
number.

- `delayText`: the document, with any word for the delay.
- `parse?_delayText`: the table that it is read as, if the word spells an integer.
- `Config.ofDelay`, `delayReason`: what comes of it: a configuration, or a complaint about the
  integer.
- `parse_delayText`: which of them it is.
- `delay_never_wraps`: what becomes of the document, with the settings, and for all spellings of an
  integer.
-/

namespace TraceTarget

open Toml (Located Value Key Spells)

/-! ### The document -/

/-- A document with nothing but a section on running, and nothing but a word for the delay there. -/
def delayText (word : List Char) : List Char :=
  "[run]\n".toList ++ ("delay_ms".toList ++ ' ' :: '=' :: ' ' :: (word ++ ['\n']))

/-- The document is read as the table that it looks like. -/
theorem parse?_delayText {word : List Char} {n : Int} (h : Spells word n) :
    ∃ run body k v, Toml.parse? (delayText word) = some [(run, body)] ∧ run.name = "run" ∧
      body.value = .table [(k, v)] ∧ k.name = "delay_ms" ∧ v.value = .integer n := by
  have hbare : Toml.IsBareName "run" ∧ Toml.IsBareName "delay_ms" := by decide
  let line := "delay_ms".toList ++ ' ' :: '=' :: ' ' :: (word ++ ['\n'])
  let v : Located Value := ⟨.between (word ++ ['\n']) ['\n'], .integer n⟩
  -- each of the two lines gives a statement
  obtain ⟨k, hpair, hk⟩ := Toml.statement_pair hbare.2
    (Toml.skipSpaces_word h.ne_nil h.inWord ['\n'])
    (Toml.value_word h.ne_nil h.inWord (Toml.wordValue?_of_spells h) [])
  obtain ⟨m, hm⟩ : ∃ m, (delayText word).length = m + 2 := ⟨_, rfl⟩
  have hlast (s : Toml.Statement) (hs : Toml.statement line = some (s, ['\n'])) :
      Toml.statementsUpTo (m + 2) line = some [s] :=
    Toml.statementsUpTo_cons (c := 'd') (by decide) hs (m + 1)
  obtain ⟨s, hheader, hsays⟩ := Toml.statementsUpTo_written (r := .header "run") hbare.1 (m + 2) line
  obtain ⟨span, run, rfl, hrun⟩ := hsays.exists_table
  have hstatements : Toml.statements (Toml.dropMark (delayText word)) =
      some [.table span ⟨[], run⟩, .pair ⟨[], k⟩ v] := by
    have hmark : Toml.dropMark (delayText word) = delayText word := rfl
    rw [hmark, Toml.statements, hm]
    exact hheader.trans (congrArg (Option.map _) (hlast _ hpair))
  -- the first one begins a table, and the second one goes there
  refine ⟨run, ⟨span, .table [(k, v)]⟩, k, v, ?_, hrun, rfl, hk, rfl⟩
  rw [Toml.parse?, hstatements, Option.bind_some, Toml.assemble, List.foldlM_cons,
    Toml.apply_header (List.not_mem_nil), Option.bind_eq_bind, Option.bind_some, List.foldlM_cons,
    Toml.apply_field List.not_mem_nil List.not_mem_nil]
  rfl

/-! ### Its configuration -/

/-- The configuration with nothing but a delay. -/
def Config.ofDelay (ms : UInt64) : Config :=
  { run := some { delayMs := some ms } }

/-- The complaint about an integer that is no delay. -/
def delayReason (n : Int) : Reason :=
  if -Int.pow 2 63 ≤ n ∧ n < 0 then .negative n else mismatch (.integer n) .delay

theorem decodeDelay_integer {v : Located Value} {n : Int} (h : v.value = .integer n) :
    decodeDelay v =
      if 0 ≤ n ∧ n < 2 ^ 64 then .ok (.ofNat n.toNat) else .error ⟨v.span, delayReason n⟩ := by
  rw [decodeDelay, h, delayReason]
  dsimp only
  by_cases hfits : 0 ≤ n ∧ n < 2 ^ 64
  · rw [if_pos hfits]
    exact if_pos hfits
  · rw [if_neg hfits]
    refine (if_neg hfits).trans ?_
    split <;> rfl

/-- The document is accepted if the integer fits, and is otherwise rejected for it. -/
theorem parse_delayText {word : List Char} {n : Int} (h : Spells word n) :
    ∃ span, Config.parse (delayText word) =
      if 0 ≤ n ∧ n < 2 ^ 64 then .ok (.ofDelay (.ofNat n.toNat))
      else .error (.schema ⟨span, delayReason n⟩) := by
  obtain ⟨run, body, k, v, hparse, hrun, hbody, hk, hv⟩ := parse?_delayText h
  have hrevision : k.name ≠ "revision" := by
    rw [hk]
    decide
  -- each of the two tables has a single entry to be read
  have hsection : decodeRun body = (decodeDelay v).map fun ms => { delayMs := some ms } := by
    rw [decodeRun, hbody]
    dsimp only
    rw [Config.decodeFields_singleton, runField, if_neg hrevision, if_pos hk]
    rfl
  have hroot : Config.ofDocument [(run, body)] = (decodeDelay v).map .ofDelay := by
    rw [Config.ofDocument, Config.decodeFields_singleton, rootField, if_pos hrun, hsection]
    cases decodeDelay v <;> rfl
  refine ⟨v.span, ?_⟩
  rw [Config.parse, hparse]
  dsimp only
  rw [hroot, decodeDelay_integer hv]
  split <;> rfl

/-! ### What becomes of it -/

/-- What a rejection says, wherever it points. -/
def ParseFailure.reason? : ParseFailure → Option Reason
  | .syntactic => none
  | .schema r => some r.reason

/-- **Delays never wrap.** However an integer is spelled, and however large it is, the document that
gives it for the delay is accepted exactly if the integer fits in 64 bits without a sign. It then
sets exactly this number of milliseconds and nothing else, and this is the delay of the settings
whatever the environment says. Otherwise it is rejected for what it says. The spellings of one
integer all lead to the same configuration, or to the same complaint. -/
theorem delay_never_wraps {word : List Char} {n : Int} (h : Spells word n) :
    ((∃ c, Config.parse (delayText word) = .ok c) ↔ 0 ≤ n ∧ n < 2 ^ 64) ∧
    (∀ c, Config.parse (delayText word) = .ok c →
      ∃ ms : UInt64, (ms.toNat : Int) = n ∧ c = .ofDelay ms ∧
        ∀ env, ((Settings.resolve (some c) env).delay.totalNanos : Int) = n * 1000000) ∧
    (¬(0 ≤ n ∧ n < 2 ^ 64) →
      ∃ span, Config.parse (delayText word) = .error (.schema ⟨span, delayReason n⟩)) ∧
    ∀ word', Spells word' n →
      (Config.parse (delayText word')).mapError ParseFailure.reason? =
        (Config.parse (delayText word)).mapError ParseFailure.reason? := by
  obtain ⟨span, hparse⟩ := parse_delayText h
  refine ⟨?_, ?_, ?_, ?_⟩
  · rw [hparse]
    split
    · next hfits => exact iff_of_true ⟨_, rfl⟩ hfits
    · next hfits => exact iff_of_false nofun hfits
  · intro c hc
    rw [hparse] at hc
    split at hc
    · next hfits =>
      cases hc
      have hms : ((UInt64.ofNat n.toNat).toNat : Int) = n := toNat_ofNat_toNat hfits
      refine ⟨_, hms, rfl, fun env => ?_⟩
      have hsets : Config.SetsDelay (some (.ofDelay (.ofNat n.toNat))) (.ofNat n.toNat) :=
        ⟨_, _, rfl, rfl, rfl⟩
      rw [(Settings.merged_resolve _ env).set _ hsets, Nat.cast_mul, hms]
      rfl
    · cases hc
  · intro hfits
    exact ⟨span, hparse.trans (if_neg hfits)⟩
  · intro word' h'
    obtain ⟨span', hparse'⟩ := parse_delayText h'
    rw [hparse, hparse']
    split <;> rfl

/-- The largest delay in hexadecimal, and the integer that comes next. -/
theorem delay_never_wraps_at_the_bound :
    (∃ c, Config.parse (delayText "0xFFFF_FFFF_ffff_FFFF".toList) = .ok c) ∧
      ∃ span, Config.parse (delayText "+18_446_744_073_709_551_616".toList) =
        .error (.schema ⟨span, delayReason 18446744073709551616⟩) := by
  have hlargest : Spells "0xFFFF_FFFF_ffff_FFFF".toList 18446744073709551615 :=
    Toml.integer?_eq_some_iff.mp rfl
  have hnext : Spells "+18_446_744_073_709_551_616".toList 18446744073709551616 :=
    Toml.integer?_eq_some_iff.mp rfl
  exact ⟨(delay_never_wraps hlargest).1.mpr (by decide),
    (delay_never_wraps hnext).2.2.1 (by decide)⟩

end TraceTarget
