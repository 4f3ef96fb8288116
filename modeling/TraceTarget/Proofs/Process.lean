import TraceTarget.Proofs.Opening
import TraceTarget.Proofs.Showing

/-!
# A whole process

With a standard output that takes everything, a process has two ends. Either its configuration
cannot be loaded, and then it shows nothing and fails; or it shows exactly the lines of the
demonstration with its settings, and succeeds. The log has no part in this, except that it is open
when the configuration is looked for.

- `Program.loaded`: what loading comes to once the log is open.
- `Program.Ends`: the two ends, given what loading came to.
- `run_ends`: every process with a home directory that can read its log filter comes to one of the
  two ends.
- `process_ends`: the same by what is found at the selected path beforehand, unless opening the log
  disturbs it; and the end of a process that cannot read its log filter.
- `log_decides_exit`: a configuration that is looked for in the log's own file, and a filter that
  cannot be read.
-/

namespace TraceTarget

namespace Program

/-- What a process comes to when it looks for its configuration, with its log open. -/
def loaded (e : Environment) (f : LogFilter) (t : FileTree) : Loaded :=
  Config.load ((openLog e f [] LogPlace.all t).2.find? e.configPath)

/-- How a process ends that has come to this in loading its configuration, if its standard output
takes everything. -/
structure Ends (e : Environment) (loaded : Loaded) (stdout : Sink) (o : Outcome) : Prop where
  failed : ∀ f, loaded.config? = .error f → exitCode o.failure = 1 ∧ o.output = stdout.bytes
  ran : ∀ config, loaded.config? = .ok config → exitCode o.failure = 0 ∧
    o.output = stdout.bytes ++ (Settings.resolve config e.revisionName).shown

/-- What a process does with what it has loaded. -/
theorem perform_ends (e : Environment) (loaded : Loaded) {stdout : Sink} (h : stdout.Accepts)
    (log : Option LogPlace) (files : FileTree) :
    Ends e loaded stdout
      { failure := (perform e loaded stdout).1, output := (perform e loaded stdout).2
        log, files } where
  failed f hf := by
    have hperform : perform e loaded stdout = (some (.config e.configPath f), stdout.bytes) := by
      rw [perform, settings, hf]
    rw [hperform]
    exact ⟨rfl, rfl⟩
  ran config hc := by
    have hsink : (({} : Bench).withSink 0 stdout).sink 0 = stdout := Bench.sink_withSink_self ..
    have haccepts : ((({} : Bench).withSink 0 stdout).sink 0).Accepts := hsink.symm ▸ h
    have hshown := (Settings.resolve config e.revisionName).bytes_demonstrate .clock haccepts
    rw [hsink] at hshown
    obtain ⟨⟨summary, hresult⟩, hbytes⟩ := hshown
    rw [perform, settings, hc]
    dsimp only
    rw [hresult]
    exact ⟨rfl, hbytes⟩

variable {e : Environment} {f : LogFilter} {stdout : Sink}

/-- Where the home directory is known, the log may be at all places, and the configuration is looked
for at the selected path. -/
theorem run_eq_of_hasHome (hhome : e.HasHome) (hfilter : logFilter? e = some f) (t : FileTree) :
    run e t stdout =
      { failure := (perform e (loaded e f t) stdout).1
        output := (perform e (loaded e f t) stdout).2
        log := (openLog e f [] LogPlace.all t).1
        files := (openLog e f [] LogPlace.all t).2 } := by
  have hknown : LogPlace.known e = LogPlace.all := if_pos hhome
  have hloaded : load e (openLog e f [] LogPlace.all t).2 = loaded e f t :=
    if_pos (Environment.looks_of_hasHome hhome)
  rw [run, Environment.settled_of_hasHome hhome]
  dsimp only
  rw [hfilter, hknown]
  dsimp only
  rw [hloaded]

/-- A process that can read its log filter ends by what it loads once its log is open. -/
theorem run_ends (hhome : e.HasHome) (hfilter : logFilter? e = some f) (t : FileTree)
    (h : stdout.Accepts) : Ends e (loaded e f t) stdout (run e t stdout) := by
  rw [run_eq_of_hasHome hhome hfilter]
  exact perform_ends e _ h _ _

/-- A process that cannot read its log filter breaks off at once. -/
theorem run_breaks_off (hhome : e.HasHome) (hfilter : logFilter? e = none) (t : FileTree) :
    exitCode (run e t stdout).failure = 101 ∧ (run e t stdout).output = stdout.bytes := by
  rw [run, Environment.settled_of_hasHome hhome]
  dsimp only
  rw [hfilter]
  exact ⟨rfl, rfl⟩

/-- **A process shows its demonstration or fails**: whatever the files are and the environment that
has a home directory, what is found at the selected path once the log is open decides how the
process ends. Neither the filter of the log nor whether its file can be opened matters to what is
found there, unless opening the log disturbs the place that the path leads to. Only a filter that
cannot be read ends the process before that. -/
theorem process_ends (hhome : e.HasHome) (t : FileTree) (h : stdout.Accepts) :
    (∀ f, logFilter? e = some f →
      Ends e (loaded e f t) stdout (run e t stdout) ∧
        (t.find? e.configPath = t.at? (t.goal e.configPath) →
          ¬Disturbs e t (t.goal e.configPath) →
            Ends e (Config.load (t.find? e.configPath)) stdout (run e t stdout))) ∧
      (logFilter? e = none → exitCode (run e t stdout).failure = 101 ∧
        (run e t stdout).output = stdout.bytes) := by
  refine ⟨fun f hfilter => ?_, fun hfilter => run_breaks_off hhome hfilter t⟩
  have hends := run_ends hhome hfilter t h
  refine ⟨hends, fun hfind hgoal => ?_⟩
  rwa [loaded, find?_openLog e f hfind hgoal] at hends

/-- The case of a configuration below the home directory whose message looks like the end of the
demonstration, with a revision in the environment. -/
theorem process_ends_linked :
    let text (s : String) : Text.Bytes := Text.encode s.toList
    let e : Environment :=
      { home := text "home", temporary := text "tmp", revision := some (text " LINKED\n") }
    let t : FileTree := (({} : FileTree).create e.configPath
      (text "[reporter]\nmessage = \"child process end\"\n")).2
    e.HasHome ∧ logFilter? e = some (.upTo .info) ∧ (default : Sink).Accepts ∧
      t.find? e.configPath = t.at? (t.goal e.configPath) ∧ ¬Disturbs e t (t.goal e.configPath) ∧
      exitCode (run e t default).failure = 0 ∧
      (run e t default).output =
        Settings.shown { revision := .linked, delay := .ofMillis 100
                         message := some "child process end" } := by
  intro text e t
  have hhome : e.HasHome := by decide
  have hfilter : logFilter? e = some (.upTo .info) := rfl
  have hfind : t.find? e.configPath = t.at? (t.goal e.configPath) := by decide +kernel
  have hgoal : ¬Disturbs e t (t.goal e.configPath) := by decide +kernel
  have hloaded : (Config.load (t.find? e.configPath)).config? = .ok (some
      { reporter := some { message := some "child process end" } }) := by decide +kernel
  have hresolve : Settings.resolve
      (some { reporter := some { message := some "child process end" } }) e.revisionName =
        { revision := .linked, delay := .ofMillis 100, message := some "child process end" } := by
    decide +kernel
  have hends := ((process_ends hhome t Sink.accepts_default).1 _ hfilter).2 hfind hgoal
  obtain ⟨hexit, houtput⟩ := hends.ran _ hloaded
  rw [hresolve] at houtput
  exact ⟨hhome, hfilter, Sink.accepts_default, hfind, hgoal, hexit, houtput⟩

/-- The log can decide how a process ends, in two ways. At the selected path is nothing, and it is
that of the log's own file: a log that is told nothing leaves an empty configuration there, and one
that is told where it is leaves something that is none. Or there is no configuration anywhere, and
the filter cannot be read, since a part of it begins inside the white space before it. -/
theorem log_decides_exit :
    let text (s : String) : Text.Bytes := Text.encode s.toList
    let e (config : Option Text.Bytes) (filter : String) : Environment :=
      { home := text "home", temporary := text "tmp", config, filter := some (text filter) }
    let own := some (text "home/.tracee/logs/tracee.log")
    let o (config : Option Text.Bytes) (filter : String) : Outcome :=
      run (e config filter) {} default
    (∀ config filter, (e config filter).HasHome) ∧
      ({} : FileTree).find? (e own "info").configPath = none ∧
      exitCode (o own "off").failure = 0 ∧ (o own "off").output = Settings.standard.shown ∧
      exitCode (o own "info").failure = 1 ∧ (o own "info").output = [] ∧
      ({} : FileTree).find? (e none "\u2003[run]").configPath = none ∧
      exitCode (o none "\u2003[run]").failure = 101 ∧ (o none "\u2003[run]").output = [] := by
  intro text e own o
  have hhome (config : Option Text.Bytes) (filter : String) : (e config filter).HasHome :=
    List.cons_ne_nil _ _
  have hoff : logFilter? (e own "off") = some ⟨[{ verbosity := 0 }]⟩ := by decide +kernel
  have hinfo : logFilter? (e own "info") = some (.upTo .info) := by decide +kernel
  have hsevered : logFilter? (e none "\u2003[run]") = none := by decide +kernel
  have hempty : (loaded (e own "off") ⟨[{ verbosity := 0 }]⟩ {}).config? = .ok (some {}) := by
    decide +kernel
  have htold : (loaded (e own "info") (.upTo .info) {}).config?.toOption = none := by
    decide +kernel
  obtain ⟨hexit, houtput⟩ := (run_ends (hhome _ _) hoff {} Sink.accepts_default).ran _ hempty
  have hbroken : exitCode (o none "\u2003[run]").failure = 101 ∧
      (o none "\u2003[run]").output = [] := run_breaks_off (hhome none _) hsevered {}
  have hfailed : exitCode (o own "info").failure = 1 ∧ (o own "info").output = [] := by
    rcases hloaded : (loaded (e own "info") (.upTo .info) {}).config? with failure | config
    · exact (run_ends (hhome _ _) hinfo {} Sink.accepts_default).failed _ hloaded
    · rw [hloaded] at htold
      cases htold
  exact ⟨hhome, by decide +kernel, hexit, houtput, hfailed.1, hfailed.2, by decide +kernel,
    hbroken.1, hbroken.2⟩

end Program

end TraceTarget
