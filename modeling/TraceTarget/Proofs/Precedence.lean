import TraceTarget.Proofs.Totals
import TraceTarget.Settings

/-!
# Where the settings of a run come from

The environment, the configuration and the defaults each have a say in the settings, and not in the
same order for each of them: the revision is that of the first of the three that has one, a delay in
the configuration beats the one of the revision whichever that is, and the message is nobody's but
the configuration's.

- `Config.SetsRevision`, `Config.SetsDelay`, `Config.SetsMessage`: what a configuration says, if
  there is one.
- `Settings.Names`: the revision that the environment names.
- `Settings.Chooses`: the revision that is chosen in the end.
- `Settings.Merged`: the settings that the three sources come to. There are never two such settings
  (`Merged.unique`), and resolving gives them (`merged_resolve`).
- `resolve_merges`: resolving is merging, with everything that follows from it and what it tells the
  log.
-/

namespace TraceTarget

/-! ### What the sources say -/

namespace Config

/-- There is a configuration, and it sets this revision. -/
def SetsRevision (config : Option Config) (r : Revision) : Prop :=
  ∃ c run, config = some c ∧ c.run = some run ∧ run.revision = some r

/-- There is a configuration, and it sets a delay of so many milliseconds. -/
def SetsDelay (config : Option Config) (ms : UInt64) : Prop :=
  ∃ c run, config = some c ∧ c.run = some run ∧ run.delayMs = some ms

/-- There is a configuration, and it sets this message. -/
def SetsMessage (config : Option Config) (text : String) : Prop :=
  ∃ c reporter, config = some c ∧ c.reporter = some reporter ∧ reporter.message = some text

/-- What can be reached through two sections is what a bind finds. -/
theorem bind_bind_eq_some_iff {α β γ : Type} {o : Option α} {f : α → Option β} {g : β → Option γ}
    {c : γ} : (o.bind f).bind g = some c ↔ ∃ a b, o = some a ∧ f a = some b ∧ g b = some c := by
  simp only [Option.bind_assoc, Option.bind_eq_some_iff, exists_and_left]

variable {config : Option Config}

theorem setsRevision_iff {r : Revision} :
    SetsRevision config r ↔ (config.bind run).bind RunSection.revision = some r :=
  bind_bind_eq_some_iff.symm

theorem setsDelay_iff {ms : UInt64} :
    SetsDelay config ms ↔ (config.bind run).bind RunSection.delayMs = some ms :=
  bind_bind_eq_some_iff.symm

theorem setsMessage_iff {text : String} :
    SetsMessage config text ↔ (config.bind reporter).bind ReporterSection.message = some text :=
  bind_bind_eq_some_iff.symm

end Config

namespace Settings

open Config (SetsRevision SetsDelay SetsMessage setsRevision_iff setsDelay_iff setsMessage_iff)

/-- The environment gives a text, and it is the name of this revision. -/
def Names (env : Option String) (r : Revision) : Prop :=
  ∃ e, env = some e ∧ Revision.parse e = .ok r

/-- The revision of the first source that has one. -/
inductive Chooses (config : Option Config) (env : Option String) : Revision → Prop
  | environment {r : Revision} : Names env r → Chooses config env r
  | configuration {r : Revision} : (∀ r', ¬Names env r') → SetsRevision config r →
    Chooses config env r
  | standard : (∀ r', ¬Names env r') → (∀ r', ¬SetsRevision config r') → Chooses config env .final

/-- The settings that a configuration and the environment come to. -/
structure Merged (config : Option Config) (env : Option String) (s : Settings) : Prop where
  revision : Chooses config env s.revision
  /-- A delay that is set holds exactly, whatever the revision. -/
  set : ∀ ms, SetsDelay config ms → s.delay.totalNanos = ms.toNat * 1000000
  /-- Otherwise the delay is that of the revision that was chosen in the end. -/
  unset : (∀ ms, ¬SetsDelay config ms) → s.delay = s.revision.delay
  message : ∀ text, s.message = some text ↔ SetsMessage config text

/-! ### Merging -/

variable {config config' : Option Config} {env env' : Option String} {r r' : Revision}

theorem names_iff : Names env r ↔ override env = some r := by
  rw [override, Option.bind_eq_some_iff, Names]
  refine exists_congr fun e => and_congr_right fun _ => ?_
  cases Revision.parse e <;> simp [Except.toOption]

/-- At most one revision is chosen. -/
theorem Chooses.unique (h : Chooses config env r) (h' : Chooses config env r') : r = r' := by
  -- a source that has a revision has only one
  have hnames {r₁ r₂} (h₁ : Names env r₁) (h₂ : Names env r₂) : r₁ = r₂ :=
    Option.some.inj ((names_iff.mp h₁).symm.trans (names_iff.mp h₂))
  have hsets {r₁ r₂} (h₁ : SetsRevision config r₁) (h₂ : SetsRevision config r₂) : r₁ = r₂ :=
    Option.some.inj ((setsRevision_iff.mp h₁).symm.trans (setsRevision_iff.mp h₂))
  cases h with
  | environment hr =>
    cases h' with
    | environment hr' => exact hnames hr hr'
    | configuration hnone _ => exact absurd hr (hnone _)
    | standard hnone _ => exact absurd hr (hnone _)
  | configuration hnone hr =>
    cases h' with
    | environment hr' => exact absurd hr' (hnone _)
    | configuration _ hr' => exact hsets hr hr'
    | standard _ hnone' => exact absurd hr (hnone' _)
  | standard hnone hnone₂ =>
    cases h' with
    | environment hr' => exact absurd hr' (hnone _)
    | configuration _ hr' => exact absurd hr' (hnone₂ _)
    | standard _ _ => rfl

/-- The revision of the settings is the one that is chosen. -/
theorem chooses_resolve (config : Option Config) (env : Option String) :
    Chooses config env (resolve config env).revision := by
  have hrevision : (resolve config env).revision =
      ((override env).or ((config.bind Config.run).bind RunSection.revision)).getD .final := rfl
  rw [hrevision]
  cases henv : override env with
  | some r => exact .environment (names_iff.mpr henv)
  | none =>
    have hnone : ∀ r', ¬Names env r' := by
      intro r' h
      rw [names_iff, henv] at h
      cases h
    cases hconfig : (config.bind Config.run).bind RunSection.revision with
    | some r => exact .configuration hnone (setsRevision_iff.mpr hconfig)
    | none =>
      refine .standard hnone fun r' h => ?_
      rw [setsRevision_iff, hconfig] at h
      cases h

/-- Resolving merges the three sources. -/
theorem merged_resolve (config : Option Config) (env : Option String) :
    Merged config env (resolve config env) := by
  have hdelay : (resolve config env).delay =
      (((config.bind Config.run).bind RunSection.delayMs).map Duration.ofMillis).getD
        (resolve config env).revision.delay := rfl
  refine ⟨chooses_resolve config env, fun ms h => ?_, fun h => ?_, fun text => ?_⟩
  · rw [hdelay, setsDelay_iff.mp h]
    exact Duration.totalNanos_ofMillis ms
  · have hnone : (config.bind Config.run).bind RunSection.delayMs = none :=
      Option.eq_none_iff_forall_ne_some.mpr fun ms hms => h ms (setsDelay_iff.mpr hms)
    rw [hdelay, hnone]
    rfl
  · exact setsMessage_iff.symm

/-- The three sources come to the same settings whenever they agree on the revision that is chosen
and on what is set. -/
theorem Merged.congr {s t : Settings} (hs : Merged config env s) (ht : Merged config' env' t)
    (hrevision : ∀ r, Chooses config env r → Chooses config' env' r)
    (hdelay : ∀ ms, SetsDelay config ms ↔ SetsDelay config' ms)
    (hmessage : ∀ text, SetsMessage config text ↔ SetsMessage config' text) : s = t := by
  have hr : s.revision = t.revision := (hrevision _ hs.revision).unique ht.revision
  have hd : s.delay = t.delay := by
    by_cases h : ∃ ms, SetsDelay config ms
    · obtain ⟨ms, hms⟩ := h
      apply Duration.ext_totalNanos
      rw [hs.set ms hms, ht.set ms ((hdelay ms).mp hms)]
    · have hunset : ∀ ms, ¬SetsDelay config ms := fun ms hms => h ⟨ms, hms⟩
      rw [hs.unset hunset, ht.unset fun ms hms => hunset ms ((hdelay ms).mpr hms), hr]
  have hm : s.message = t.message := by
    refine Option.ext fun text => ?_
    rw [hs.message, ht.message, hmessage]
  obtain ⟨rs, ds, ms⟩ := s
  obtain ⟨rt, dt, mt⟩ := t
  subst hr hd hm
  rfl

/-- There are no two ways to merge the same sources. -/
theorem Merged.unique {s t : Settings} (hs : Merged config env s) (ht : Merged config env t) :
    s = t :=
  hs.congr ht (fun _ h => h) (fun _ => Iff.rfl) fun _ => Iff.rfl

/-- Settings are the default ones exactly if the latest revision is chosen, its own delay is not
changed, and there is no message. -/
theorem Merged.eq_standard_iff {s : Settings} (h : Merged config env s) :
    s = standard ↔ Chooses config env .final ∧ (∀ ms, SetsDelay config ms → ms = 100) ∧
      ∀ text, ¬SetsMessage config text := by
  constructor
  · rintro rfl
    refine ⟨h.revision, fun ms hms => ?_, fun text htext => ?_⟩
    · -- a delay that is set is the one of the latest revision, in nanoseconds
      have hnanos : (Duration.ofMillis 100).totalNanos = ms.toNat * 1000000 := h.set ms hms
      rw [← Duration.totalNanos_ofMillis ms] at hnanos
      exact (Duration.ofMillis_inj.mp (Duration.ext_totalNanos hnanos)).symm
    · cases (h.message text).mpr htext
  · rintro ⟨hfinal, hdelay, hmessage⟩
    refine h.unique ⟨hfinal, fun ms hms => ?_, fun _ => rfl, fun text => ?_⟩
    · rw [hdelay ms hms]
      exact Duration.totalNanos_ofMillis 100
    · exact iff_of_false (fun htext => nomatch htext) (hmessage text)

/-! ### What the log is told -/

/-- A text from the environment that names no revision. -/
def Unreadable (env : Option String) (e : String) : Prop :=
  env = some e ∧ ∀ r, Revision.parse e ≠ .ok r

/-- A warning about a variable that shows a text as it was given. -/
structure Warns (event : Event) (e : String) : Prop where
  level : event.level = .warn
  fields : event.fields = [("env_var", "TRACEE_REVISION")]
  shows : e.toList <:+: event.message.toList

/-- A text that names no revision is warned of once. -/
theorem warnings_unreadable {e : String} (h : Unreadable env e) :
    ∃ event, warnings env = [event] ∧ Warns event e := by
  obtain ⟨rfl, hparse⟩ := h
  cases hresult : Revision.parse e with
  | ok r => exact absurd hresult (hparse r)
  | error err =>
    -- the complaint is about the text as it was given
    have hinput : err.input = e := by
      unfold Revision.parse at hresult
      split at hresult
      · cases hresult
      · cases hresult
        rfl
    refine ⟨⟨.warn, "Ignoring override: " ++ err.message, [("env_var", revisionVariable)], none⟩,
      ?_, rfl, rfl, ?_⟩
    · simp only [warnings, Option.map_some, hresult]
    · have hmessage : ("Ignoring override: " ++ err.message).toList =
          "Ignoring override: ".toList ++ ("unknown revision `".toList ++ e.toList ++
            "` (expected initial, linked, or final)".toList) := by
        rw [← hinput, ← String.toList_append, ← String.toList_append, ← String.toList_append]
        rfl
      rw [hmessage]
      exact (List.infix_append ..).trans (List.suffix_append ..).isInfix

/-- Nothing else is warned of. -/
theorem warnings_readable (h : ∀ e, ¬Unreadable env e) : warnings env = [] := by
  cases env with
  | none => rfl
  | some e =>
    rw [warnings, Option.map_some]
    cases hresult : Revision.parse e with
    | ok r => rfl
    | error err =>
      refine absurd ⟨rfl, fun r hr => ?_⟩ (h e)
      rw [hresult] at hr
      cases hr

/-- A text that names no revision chooses nothing. -/
theorem resolve_unreadable {e : String} (h : Unreadable env e) :
    resolve config env = resolve config none := by
  obtain ⟨rfl, hparse⟩ := h
  have hoverride : override (some e) = none :=
    Option.eq_none_iff_forall_ne_some.mpr fun r hr => by
      obtain ⟨e', he', hr⟩ := names_iff.mpr hr
      cases he'
      exact hparse r hr
  rw [resolve, hoverride]
  rfl

/-! ### All of it -/

/-- **Resolving merges**: the settings are those that the environment, the configuration and the
defaults come to, and no others. An unreadable name in the environment counts as none and is all
that the log hears of; an empty section counts as an absent one, and an empty configuration as none;
the default settings come out exactly if everything is as in the latest revision; and nothing
matters but the revision that is chosen, the delay and the message. -/
theorem resolve_merges (config : Option Config) (env : Option String) :
    (∀ s, s = resolve config env ↔ Merged config env s) ∧
      (∀ e, Unreadable env e → resolve config env = resolve config none ∧
        ∃ event, warnings env = [event] ∧ Warns event e) ∧
      ((∀ e, ¬Unreadable env e) → warnings env = []) ∧
      (∀ c : Config,
        resolve (some { c with run := none }) env =
          resolve (some { c with run := some {} }) env ∧
        resolve (some { c with reporter := none }) env =
          resolve (some { c with reporter := some {} }) env) ∧
      resolve none env = resolve (some {}) env ∧
      (resolve config env = standard ↔
        Chooses config env .final ∧ (∀ ms, SetsDelay config ms → ms = 100) ∧
          ∀ text, ¬SetsMessage config text) ∧
      ∀ config' env', (∀ r, Chooses config env r → Chooses config' env' r) →
        (∀ ms, SetsDelay config ms ↔ SetsDelay config' ms) →
        (∀ text, SetsMessage config text ↔ SetsMessage config' text) →
          resolve config env = resolve config' env' := by
  have hmerged := merged_resolve config env
  refine ⟨fun s => ⟨?_, fun hs => hs.unique hmerged⟩, fun e he => ⟨?_, ?_⟩, ?_,
    fun c => ⟨rfl, rfl⟩, rfl, hmerged.eq_standard_iff, fun config' env' => ?_⟩
  · rintro rfl
    exact hmerged
  · exact resolve_unreadable he
  · exact warnings_unreadable he
  · exact warnings_readable
  · exact hmerged.congr (merged_resolve config' env')

/-- The delay is never that of a revision that was overridden. -/
example : resolve (some { run := some { revision := some .initial } }) (some " LINKED\n") =
    { revision := .linked, delay := .ofMillis 100 } := by decide +kernel

end Settings

end TraceTarget
