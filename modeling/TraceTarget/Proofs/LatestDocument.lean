import TraceTarget.Program
import TraceTarget.Proofs.FirstComplaint
import TraceTarget.Proofs.RoundTrip
import TraceTarget.Proofs.Tidiness
import TraceTarget.Proofs.TwoNames

/-!
# Documents with the latest name of a revision

A document may name the linked revision in three places: as a text under the key of the revision, as
the only key of a table there, and at the front of the section when that is an array. Where the
final one is put in its place, the document says the same configuration with the final revision, and
everything that is done with it comes to the same.

- `Config.latest`: the same configuration with the latest name of its revision.
- `Toml.latestRoot`: the same document.
- `ofDocument_latest`: that document says that configuration, or the same complaint.
- `SaysLatest`: the texts of such documents, laid out in any way and in any order.
- `linked_runs_as_final`: the linked revision and the final one are the same program.
-/

namespace TraceTarget

open Toml (Located Value Key Entries Section Reordered)

/-! ### Configurations and settings -/

/-- The same section with the latest name of its revision. -/
def RunSection.latest (s : RunSection) : RunSection :=
  { s with revision := s.revision.map Revision.latest }

/-- The same configuration with the latest name of its revision. -/
def Config.latest (c : Config) : Config :=
  { c with run := c.run.map RunSection.latest }

/-- The settings differ at most in the name of the revision, and not even in that where the
environment chooses it. -/
theorem Settings.resolve_latest (config : Option Config) (env : Option String) :
    (resolve (config.map Config.latest) env).latest = (resolve config env).latest := by
  have hrun : (config.map Config.latest).bind Config.run =
      (config.bind Config.run).map RunSection.latest := by
    cases config <;> rfl
  have hmessage : ((config.map Config.latest).bind Config.reporter).bind ReporterSection.message =
      (config.bind Config.reporter).bind ReporterSection.message := by
    cases config <;> rfl
  simp only [resolve, hrun, hmessage]
  generalize config.bind Config.run = run
  cases override env with
  | some r => rcases run with _ | ⟨_ | _, _ | _⟩ <;> rfl
  | none =>
    rcases run with _ | ⟨_ | r, _ | ms⟩
    · rfl
    · rfl
    · rfl
    · simp [RunSection.latest, Settings.latest, Revision.delay_latest]
    · simp [RunSection.latest, Settings.latest]

/-! ### Demonstrations and processes -/

/-- The same demonstration for the latest name of its revision, also in the log. -/
def Demonstration.latest (d : Demonstration) : Demonstration where
  driver := d.driver.latest
  result := d.result.map Summary.latest
  stage := d.stage.latest
  bench := d.bench.latest

/-- A demonstration comes to the same: nothing but the log shows the name. -/
theorem Settings.demonstrate_latest (s : Settings) (sleeper : Sleeper) (out counterOut : SinkId)
    (b : Bench) : s.latest.demonstrate sleeper out counterOut b.latest =
      (s.demonstrate sleeper out counterOut b).latest := by
  have hdriver : (Driver.ofSettings s.latest).withSleeper sleeper =
      ((Driver.ofSettings s).withSleeper sleeper).latest := rfl
  have hcounter : Counter.forRevision counterOut s.latest.revision =
      .forRevision counterOut s.revision :=
    Counter.forRevision_latest counterOut s.revision
  have hrun := ((Driver.ofSettings s).withSleeper sleeper).run_latest out
    ⟨.forRevision counterOut s.revision, b⟩
  simp only [Stage.latest] at hrun
  simp only [demonstrate, hdriver, hcounter, hrun, Counter.retire_latest]
  rfl

/-- Settings that are the same but for the name come to the same, on the same bench. -/
theorem Settings.demonstrate_alike {s s' : Settings} (h : s'.latest = s.latest) (sleeper : Sleeper)
    (out counterOut : SinkId) (b : Bench) :
    (s'.demonstrate sleeper out counterOut b).latest =
      (s.demonstrate sleeper out counterOut b).latest := by
  rw [← demonstrate_latest, ← demonstrate_latest, h]

/-- A process does not depend on the name of the revision in its configuration. -/
theorem Program.perform_latest (e : Environment) (c : Config) (stdout : Sink) :
    perform e (.found c.latest) stdout = perform e (.found c) stdout := by
  -- what is seen of a demonstration from outside does not show the name
  have hseen {d d' : Demonstration} (h : d'.latest = d.latest) :
      (runFailure d'.result, (d'.bench.sink 0).bytes) =
        (runFailure d.result, (d.bench.sink 0).bytes) := by
    have hfailure (result : Except Halt Summary) :
        runFailure (result.map Summary.latest) = runFailure result := by
      cases result <;> rfl
    have hresult := congrArg (fun d => runFailure d.result) h
    have hsink := congrArg (fun d => (d.bench.sink 0).bytes) h
    simp only [Demonstration.latest, hfailure] at hresult
    exact Prod.ext hresult hsink
  exact hseen (Settings.demonstrate_alike (Settings.resolve_latest (some c) e.revisionName) ..)

/-! ### Documents -/

namespace Toml

/-- An entry whose value is changed if it has a name. -/
def changeIfNamed (name : String) (f : Value → Value) (e : Key × Located Value) :
    Key × Located Value :=
  if e.1.name = name then (e.1, ⟨e.2.span, f e.2.value⟩) else e

/-- A table with what it has under a name changed. -/
def changeUnder (name : String) (f : Value → Value) (es : Entries) : Entries :=
  es.map (changeIfNamed name f)

theorem changeIfNamed_name (name : String) (f : Value → Value) (e : Key × Located Value) :
    (changeIfNamed name f e).1.name = e.1.name := by
  unfold changeIfNamed
  split <;> rfl

/-- The latest name in a value that says a revision. -/
def Value.latestRevision : Value → Value
  | string name => string (latestName name)
  | table [(k, payload)] => table [({ k with name := latestName k.name }, payload)]
  | v => v

/-- The latest name in a value that says how to run. -/
def Value.latestRun : Value → Value
  | table es => table (changeUnder "revision" latestRevision es)
  | array (r :: rest) => array (⟨r.span, r.value.latestRevision⟩ :: rest)
  | v => v

/-- The latest name in a document. -/
def latestRoot (root : Entries) : Entries :=
  changeUnder "run" Value.latestRun root

end Toml

open Toml (changeIfNamed changeIfNamed_name latestRoot)

theorem revisionNamed_latest (span : Toml.Span) (name : String) :
    revisionNamed span (latestName name) = (revisionNamed span name).map Revision.latest := by
  by_cases hlinked : name = Revision.linked.name
  · rw [hlinked]
    rfl
  · rw [latestName, if_neg hlinked, revisionNamed]
    cases hname : Revision.ofName? name with
    | none => rfl
    | some r =>
      have hother : r.latest = r := by
        obtain rfl := Revision.eq_name_of_ofName? hname
        cases r with
        | linked => exact absurd rfl hlinked
        | initial => rfl
        | final => rfl
      exact congrArg Except.ok hother.symm

theorem decodeRevision_latest (span : Toml.Span) (v : Value) :
    decodeRevision ⟨span, v.latestRevision⟩ = (decodeRevision ⟨span, v⟩).map Revision.latest := by
  cases v with
  | string name => exact revisionNamed_latest span name
  | table es =>
    match es with
    | [] => rfl
    | [(k, payload)] =>
      have hnamed := revisionNamed_latest k.span k.name
      simp only [Value.latestRevision, decodeRevision, hnamed]
      cases revisionNamed k.span k.name with
      | error => rfl
      | ok r => cases checkPayload payload <;> rfl
    | _ :: _ :: _ => rfl
  | integer | numberless | float | boolean | datetime | array => rfl

/-- Reading a table whose entries and start are changed in a way that reading an entry respects. -/
theorem decodeFields_map {σ : Type} (field : σ → Key × Located Value → Except Rejection σ)
    (g : σ → σ) {h : Key × Located Value → Key × Located Value}
    (hname : ∀ e, (h e).1.name = e.1.name)
    (hfield : ∀ s e, field (g s) (h e) = (field s e).map g) (start : σ) (es : Entries) :
    decodeFields field (g start) (es.map h) = (decodeFields field start es).map g := by
  have hvisit : visitOrder (es.map h) = (visitOrder es).map h := by
    refine (List.map_mergeSort fun a _ b _ => ?_).symm
    rw [hname, hname]
  rw [decodeFields, decodeFields, hvisit]
  generalize visitOrder es = entries
  induction entries generalizing start with
  | nil => rfl
  | cons e entries ih =>
    rw [List.map_cons, List.foldlM_cons, List.foldlM_cons, hfield]
    cases field start e with
    | error => rfl
    | ok s => exact ih s

theorem runField_latest (s : RunSection) (e : Key × Located Value) :
    runField s.latest (changeIfNamed "revision" Value.latestRevision e) =
      (runField s e).map RunSection.latest := by
  obtain ⟨k, v⟩ := e
  by_cases hrevision : k.name = "revision"
  · rw [changeIfNamed, if_pos hrevision, runField, if_pos hrevision, runField, if_pos hrevision,
      decodeRevision_latest]
    cases decodeRevision v <;> rfl
  · rw [changeIfNamed, if_neg hrevision, runField, if_neg hrevision, runField, if_neg hrevision]
    split
    · cases decodeDelay v <;> rfl
    · rfl

theorem decodeRun_latest (span : Toml.Span) (v : Value) :
    decodeRun ⟨span, v.latestRun⟩ = (decodeRun ⟨span, v⟩).map RunSection.latest := by
  cases v with
  | table es =>
    exact decodeFields_map runField RunSection.latest (changeIfNamed_name _ _) runField_latest {} es
  | array items =>
    match items with
    | [] => rfl
    | [r] =>
      simp only [Value.latestRun, decodeRun, decodeRevision_latest]
      cases decodeRevision r <;> rfl
    | r :: d :: rest =>
      simp only [Value.latestRun, decodeRun, decodeRevision_latest]
      cases decodeRevision r with
      | error => rfl
      | ok => cases decodeDelay d <;> rfl
  | string | integer | numberless | float | boolean | datetime => rfl

theorem rootField_latest (c : Config) (e : Key × Located Value) :
    rootField c.latest (changeIfNamed "run" Value.latestRun e) =
      (rootField c e).map Config.latest := by
  obtain ⟨k, v⟩ := e
  by_cases hrun : k.name = "run"
  · rw [changeIfNamed, if_pos hrun, rootField, if_pos hrun, rootField, if_pos hrun,
      decodeRun_latest]
    cases decodeRun v <;> rfl
  · rw [changeIfNamed, if_neg hrun, rootField, if_neg hrun, rootField, if_neg hrun]
    split
    · cases decodeReporter v <;> rfl
    · rfl

/-- The document with the latest name says the configuration with the latest name, or it has the
same complaint at the same place. -/
theorem ofDocument_latest (root : Entries) :
    Config.ofDocument (latestRoot root) = (Config.ofDocument root).map Config.latest :=
  decodeFields_map rootField Config.latest (changeIfNamed_name _ _) rootField_latest {} root

/-! ### Texts -/

/-- A text that says what another one says, but with the latest name for its revision: both are
documents, and the tables of the second are those of the first with that name, in any order. -/
def SaysLatest (text text' : List Char) : Prop :=
  ∃ root root', Toml.parse? text = some root ∧ Toml.parse? text' = some root' ∧
    Reordered (.table root') (.table (latestRoot root))

namespace SaysLatest

variable {text text' : List Char}

/-- Two such texts come to the same configuration, up to the name, or to the same complaint. -/
theorem outcome (h : SaysLatest text text') :
    ∃ root root', Toml.parse? text = some root ∧ Toml.parse? text' = some root' ∧
      Config.outcome root' = (Config.outcome root).map Config.latest := by
  obtain ⟨root, root', hparse, hparse', hr⟩ := h
  have hreordered : Config.outcome (latestRoot root) = Config.outcome root' :=
    outcome_reordered (Toml.parse?_tidy hparse') hr
  refine ⟨root, root', hparse, hparse', ?_⟩
  rw [← hreordered, Config.outcome, ofDocument_latest, Config.outcome]
  cases Config.ofDocument root <;> rfl

/-- A configuration is read from one of them exactly if the same is read from the other one, up to
the name. -/
theorem parse_iff (h : SaysLatest text text') {c' : Config} :
    Config.parse text' = .ok c' ↔ ∃ c, Config.parse text = .ok c ∧ c.latest = c' := by
  obtain ⟨root, root', hparse, hparse', houtcome⟩ := h.outcome
  rw [Config.parse_ok_iff hparse', ← Config.outcome_ok_iff, houtcome]
  simp only [Config.parse_ok_iff hparse, ← Config.outcome_ok_iff]
  cases Config.outcome root <;> simp [Except.map]

/-- A process that finds one of them does the same as if it had found the other one, unless the text
is rejected, which the process then tells. -/
theorem perform_eq (h : SaysLatest text text') {c : Config} (hc : Config.parse text = .ok c)
    (e : Environment) (stdout : Sink) :
    Program.perform e (Config.ofBytes (Text.encode text')) stdout =
      Program.perform e (Config.ofBytes (Text.encode text)) stdout := by
  have hfound {text : List Char} {c : Config} (h : Config.parse text = .ok c) :
      Config.ofBytes (Text.encode text) = .found c := by
    rw [Config.ofBytes, Text.decode?_encode]
    simp only [h]
  rw [hfound hc, hfound (h.parse_iff.mpr ⟨c, hc, rfl⟩)]
  exact Program.perform_latest e c stdout

end SaysLatest

/-! ### Written documents -/

/-- The latest name in a value that is written down. -/
def Toml.Plain.latest : Toml.Plain → Toml.Plain
  | text name => text (latestName name)
  | number n => number n

/-- The latest name in a field that is written down. -/
def latestField (f : String × Toml.Plain) : String × Toml.Plain :=
  if f.1 = "revision" then (f.1, f.2.latest) else f

/-- The latest name in a section that is written down. -/
def latestSection (s : Section) : Section :=
  if s.name = "run" then { s with fields := s.fields.map latestField } else s

/-- What is written of a configuration with the latest name is written with the latest name. -/
theorem Config.sections_latest (c : Config) : c.latest.sections = c.sections.map latestSection := by
  have hfields (s : RunSection) : s.latest.fields = s.fields.map latestField := by
    obtain ⟨_ | r, _ | n⟩ := s
    · rfl
    · rfl
    · simp [RunSection.fields, RunSection.latest, Revision.name_latest, latestField,
        Toml.Plain.latest]
    · simp [RunSection.fields, RunSection.latest, Revision.name_latest, latestField,
        Toml.Plain.latest]
  obtain ⟨_ | run, _ | reporter⟩ := c <;>
    simp [sections, latest, latestSection, hfields]

theorem isField_latest {f : String × Toml.Plain} {e : Key × Located Value}
    (h : Toml.IsField f e) :
    Toml.IsField (latestField f) (changeIfNamed "revision" Value.latestRevision e) := by
  obtain ⟨hname, hvalue⟩ := h
  unfold latestField changeIfNamed
  rw [hname]
  split
  · refine ⟨hname, ?_⟩
    show e.2.value.latestRevision = f.2.latest.value
    rw [hvalue]
    cases f.2 <;> rfl
  · exact ⟨hname, hvalue⟩

theorem holds_latest {s : Section} {e : Key × Located Value} (h : s.Holds e) :
    (latestSection s).Holds (changeIfNamed "run" Value.latestRun e) := by
  obtain ⟨hname, es, hvalue, hes⟩ := h
  unfold latestSection changeIfNamed
  rw [hname]
  split
  · refine ⟨hname, Toml.changeUnder "revision" Value.latestRevision es, ?_, ?_⟩
    · show e.2.value.latestRun = _
      rw [hvalue]
      rfl
    · rw [Toml.changeUnder, List.forall₂_map_left_iff, List.forall₂_map_right_iff]
      exact hes.imp fun _ _ => isField_latest
  · exact ⟨hname, es, hvalue, hes⟩

/-- Two lists that are both related to a third one. -/
theorem forall₂_of_common {α β γ : Type} {R : α → β → Prop} {S : α → γ → Prop} {T : β → γ → Prop}
    (hT : ∀ a b c, R a b → S a c → T b c) {as : List α} {bs : List β} {cs : List γ}
    (hR : List.Forall₂ R as bs) (hS : List.Forall₂ S as cs) : List.Forall₂ T bs cs := by
  induction hR generalizing cs with
  | nil =>
    cases hS
    exact .nil
  | cons hab _ ih =>
    cases hS with
    | cons hac hS => exact .cons (hT _ _ _ hab hac) (ih hS)

/-- What reading gives of some written sections is determined, but for the places. -/
theorem reordered_of_holds {secs : List Section} {root root' : Entries}
    (h : List.Forall₂ Section.Holds secs root) (h' : List.Forall₂ Section.Holds secs root') :
    Reordered (.table root) (.table root') := by
  refine .of_perm (.refl root) (forall₂_of_common (fun s e e' hs hs' => ?_) h h')
  obtain ⟨hname, es, hvalue, hes⟩ := hs
  obtain ⟨hname', es', hvalue', hes'⟩ := hs'
  refine ⟨hname'.trans hname.symm, ?_⟩
  rw [hvalue, hvalue']
  refine .of_perm (.refl es) (forall₂_of_common (fun f e e' hf hf' => ?_) hes hes')
  refine ⟨hf'.1.trans hf.1.symm, ?_⟩
  rw [hf.2, hf'.2]
  exact .same _

/-- The text of a configuration says the latest name if the configuration has it. -/
theorem saysLatest_text (c : Config) : SaysLatest c.text c.latest.text := by
  obtain ⟨root, hparse, hholds⟩ := Toml.parse?_written c.legible
  obtain ⟨root', hparse', hholds'⟩ := Toml.parse?_written c.latest.legible
  have hlatest : List.Forall₂ Section.Holds c.latest.sections (latestRoot root) := by
    rw [Config.sections_latest, latestRoot, Toml.changeUnder, List.forall₂_map_left_iff,
      List.forall₂_map_right_iff]
    exact hholds.imp fun _ _ => holds_latest
  exact ⟨root, root', hparse, hparse', reordered_of_holds hholds' hlatest⟩

/-- In the text of a configuration the revision stands by its name, and what is around it does not
depend on the name. -/
theorem exists_text_around (delayMs : Option UInt64) (reporter : Option ReporterSection) :
    ∃ before after, ∀ r : Revision,
      Config.text ⟨some ⟨some r, delayMs⟩, reporter⟩ = before ++ r.name.toList ++ after := by
  let delay := (delayMs.map fun n => Toml.Row.field "delay_ms" (.number n.toNat)).toList
  let after := delay.flatMap Toml.Row.written ++ Config.text ⟨none, reporter⟩
  refine ⟨"[run]\nrevision = \"".toList, '"' :: '\n' :: after, fun r => ?_⟩
  have hrows : (Section.mk "run" (RunSection.fields ⟨some r, delayMs⟩)).rows =
      .header "run" :: .field "revision" (.text r.name) :: delay := by
    cases delayMs <;> rfl
  have hrevision : (Toml.Row.field "revision" (.text r.name)).written =
      "revision = \"".toList ++ r.name.toList ++ ['"', '\n'] := by
    cases r <;> rfl
  have htext : Config.text ⟨some ⟨some r, delayMs⟩, reporter⟩ =
      (Section.mk "run" (RunSection.fields ⟨some r, delayMs⟩)).rows.flatMap Toml.Row.written ++
        Config.text ⟨none, reporter⟩ := by
    cases reporter <;> simp [Config.text, Config.sections, Toml.writtenDocument]
  rw [htext, hrows, List.flatMap_cons, List.flatMap_cons, hrevision]
  simp [after, Toml.Row.written]

/-! ### One program -/

/-- **The linked revision and the final one are the same program.** Drivers that are equipped in the
same way, each with the counter of its revision, go through the same states of the counter and the
bench, move by move, whatever the sinks, the reporter and the sleeper do; only the span in which the
log is told shows another name. So do sessions under any operations that are the same but for names,
and at their ends. Results are the same but for the name of the revision in them. A text that says
the same as another one, with the latest name for the revision, is a configuration exactly if that
one is, and comes to the same; and the text of every configuration with the linked revision becomes
such a text when nothing but the name in it is replaced. -/
theorem linked_runs_as_final :
    (∀ (delay : Option Duration) (reporter : Reporter) (sleeper : Sleeper) (out counterOut : SinkId)
        (b : Bench),
      let linked := Driver.equipped .linked delay reporter sleeper
      let final := Driver.equipped .final delay reporter sleeper
      let s : Stage := ⟨.forRevision counterOut .linked, b⟩
      let s' : Stage := ⟨.forRevision counterOut .final, b⟩
      (∀ n, (final.performAll out (final.moves.take n) s').1 =
          (linked.performAll out (linked.moves.take n) s).1 ∧
        (final.performAll out (final.moves.take n) s').2.latest =
          (linked.performAll out (linked.moves.take n) s).2.latest) ∧
      (final.run out s').1 = (linked.run out s).1.map Summary.latest ∧
        (final.run out s').2.latest = (linked.run out s).2.latest) ∧
    (∀ s t : Session, s.latest = t.latest →
      (∀ ops ops', ops.map Session.Operation.latest = ops'.map Session.Operation.latest →
        (s.steps ops).map (fun (answer, u) => (answer.latest, u.latest)) =
          (t.steps ops').map fun (answer, u) => (answer.latest, u.latest)) ∧
      s.close.latest = t.close.latest) ∧
    (∀ text text', SaysLatest text text' →
      (∀ c', Config.parse text' = .ok c' ↔ ∃ c, Config.parse text = .ok c ∧ c.latest = c') ∧
      ∀ c, Config.parse text = .ok c →
        (∀ env sleeper out counterOut b,
          ((Settings.resolve (some c.latest) env).demonstrate sleeper out counterOut b).latest =
            ((Settings.resolve (some c) env).demonstrate sleeper out counterOut b).latest) ∧
        ∀ e stdout, Program.perform e (Config.ofBytes (Text.encode text')) stdout =
          Program.perform e (Config.ofBytes (Text.encode text)) stdout) ∧
    ∀ (delayMs : Option UInt64) (reporter : Option ReporterSection),
      let text (r : Revision) := Config.text ⟨some ⟨some r, delayMs⟩, reporter⟩
      SaysLatest (text .linked) (text .final) ∧
        ∃ before after, text .linked = before ++ "linked".toList ++ after ∧
          text .final = before ++ "final".toList ++ after := by
  refine ⟨Driver.equipped_alike, fun s t h => ⟨fun ops ops' => Session.steps_alike h,
    Session.close_alike h⟩, ?_, ?_⟩
  · intro text text' h
    refine ⟨fun c' => h.parse_iff, fun c hc => ⟨?_, h.perform_eq hc⟩⟩
    intro env sleeper out counterOut b
    exact Settings.demonstrate_alike (Settings.resolve_latest (some c) env) sleeper out counterOut b
  · intro delayMs reporter text
    refine ⟨saysLatest_text ⟨some ⟨some .linked, delayMs⟩, reporter⟩, ?_⟩
    obtain ⟨before, after, haround⟩ := exists_text_around delayMs reporter
    exact ⟨before, after, haround .linked, haround .final⟩

end TraceTarget
