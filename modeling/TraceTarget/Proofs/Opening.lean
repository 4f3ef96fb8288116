import Mathlib.Data.List.Basic
import TraceTarget.Program

/-!
# What opening the log changes

Before a process looks for its configuration it opens its log, and for that it may make directories
and write to a file. Here is where: at the places on the way to a log at which nothing was, and at
the file of the log itself. A path that leads to any other place finds there what it found before.

- `FileTree.goal`, `FileTree.route`: the place that a path leads to by its names, and all places on
  the way, whether or not anything is there.
- `FileTree.Frame`: two trees that differ at some places only, and in no place that was a directory.
- `frame_makeDirectories`, `frame_append`, `frame_openLog`: what the operations may change.
- `find?_openLog`: what is found at a path before and after.
-/

namespace TraceTarget

namespace FileTree

/-! ### Ways through a tree -/

/-- The places that names lead to one after the other, whether or not anything is there. -/
def trail : Place → List Text.Bytes → List Place
  | p, [] => [p]
  | p, name :: names => p :: trail (child p name) names

/-- The places on the way along a path. -/
def route (t : FileTree) (p : Path) : List Place :=
  trail (t.origin p) p.names

/-- The place that a path leads to. -/
def goal (t : FileTree) (p : Path) : Place :=
  p.names.foldl child (t.origin p)

variable {t t' t'' : FileTree} {p q : Place} {names : List Text.Bytes}

theorem mem_trail_self (p : Place) (names : List Text.Bytes) : p ∈ trail p names := by
  cases names <;> exact List.mem_cons_self

/-- Names lead where they lead, if anywhere. -/
theorem eq_goal_of_walk (h : t.walk p names = some q) : q = names.foldl child p := by
  induction names generalizing p with
  | nil =>
    rw [walk, Option.map_eq_some_iff] at h
    obtain ⟨_, -, rfl⟩ := h
    rfl
  | cons name names ih =>
    rw [walk] at h
    split at h
    · exact ih h
    · cases h

/-- What is found at a path is at the place that the path leads to. -/
theorem at?_goal_of_find? {path : Path} {e : FileEntry} (h : t.find? path = some e) :
    t.at? (t.goal path) = some e := by
  unfold find? at h
  split at h
  · obtain ⟨q, hwalk, hq⟩ := Option.bind_eq_some_iff.mp h
    rwa [eq_goal_of_walk hwalk] at hq
  · cases h

/-! ### Frames -/

/-- The tree `t'` is `t` except at some places. What was a directory is one still, and what was
there is there still. -/
structure Frame (P : Place → Prop) (t t' : FileTree) : Prop where
  here : t'.here = t.here
  other : ∀ q, ¬P q → t'.at? q = t.at? q
  directory : ∀ q, t.at? q = some .directory → t'.at? q = some .directory
  present : ∀ q, t.at? q ≠ none → t'.at? q ≠ none

namespace Frame

variable {P Q : Place → Prop}

theorem refl (P : Place → Prop) (t : FileTree) : Frame P t t :=
  ⟨rfl, fun _ _ => rfl, fun _ h => h, fun _ h => h⟩

theorem trans (h : Frame P t t') (h' : Frame P t' t'') : Frame P t t'' where
  here := h'.here.trans h.here
  other q hq := (h'.other q hq).trans (h.other q hq)
  directory q hq := h'.directory q (h.directory q hq)
  present q hq := h'.present q (h.present q hq)

theorem mono (h : Frame P t t') (hPQ : ∀ q, P q → Q q) : Frame Q t t' :=
  { h with other := fun q hq => h.other q fun hp => hq (hPQ q hp) }

/-- Where nothing is now, nothing was before. -/
theorem absent (h : Frame P t t') (hq : t'.at? q = none) : t.at? q = none := by
  by_contra hne
  exact h.present q hne hq

/-- A way that could be gone can still be gone. -/
theorem walk (h : Frame P t t') (hwalk : t.walk p names = some q) : t'.walk p names = some q := by
  induction names generalizing p with
  | nil =>
    rw [FileTree.walk, Option.map_eq_some_iff] at hwalk ⊢
    obtain ⟨e, he, rfl⟩ := hwalk
    obtain ⟨e', he'⟩ := Option.ne_none_iff_exists'.mp
      (h.present p (Option.ne_none_iff_exists'.mpr ⟨e, he⟩))
    exact ⟨e', he', rfl⟩
  | cons name names ih =>
    rw [FileTree.walk] at hwalk ⊢
    split at hwalk
    · next hp =>
      rw [if_pos ⟨h.directory p hp.1, hp.2⟩]
      exact ih hwalk
    · cases hwalk

theorem origin (h : Frame P t t') (path : Path) : t'.origin path = t.origin path := by
  rw [FileTree.origin, FileTree.origin, h.here]

theorem goal (h : Frame P t t') (path : Path) : t'.goal path = t.goal path := by
  rw [FileTree.goal, FileTree.goal, h.origin]

theorem route (h : Frame P t t') (path : Path) : t'.route path = t.route path := by
  rw [FileTree.route, FileTree.route, h.origin]

/-- A path that finds what is at its goal finds the same when nothing changes there. -/
theorem find? (h : Frame P t t') {path : Path} (hfind : t.find? path = t.at? (t.goal path))
    (hgoal : ¬P (t.goal path)) : t'.find? path = t.find? path := by
  have hat : t'.at? (t'.goal path) = t.at? (t.goal path) := by
    rw [h.goal]
    exact h.other _ hgoal
  cases hfound : t.find? path with
  | none =>
    -- nothing is at the goal, before and after
    rw [hfound] at hfind
    cases hafter : t'.find? path with
    | none => rfl
    | some e =>
      rw [at?_goal_of_find? hafter, ← hfind] at hat
      cases hat
  | some e =>
    -- the way to the goal can be gone as before
    rw [FileTree.find?] at hfound ⊢
    split at hfound
    · next husable =>
      obtain ⟨q, hwalk, hq⟩ := Option.bind_eq_some_iff.mp hfound
      rw [if_pos husable, h.origin, h.walk hwalk, Option.bind_some]
      have hgoal' : q = t.goal path := eq_goal_of_walk hwalk
      rw [hgoal', h.other _ hgoal, ← hgoal', hq]
    · cases hfound

end Frame

/-! ### What the operations change -/

theorem at?_put (t : FileTree) (p : Place) (e : FileEntry) (q : Place) :
    (t.put p e).at? q = if q = [] then some .directory else if q = p then some e else t.at? q := by
  unfold at? put
  by_cases hnil : q = []
  · rw [if_pos hnil, if_pos hnil]
  by_cases hq : q = p
  · rw [if_neg hnil, if_neg hnil, if_pos hq, hq, Registry.get?_put_self]
  · rw [if_neg hnil, if_neg hnil, if_neg hq, if_neg hnil, Registry.get?_put_other _ _ hq]

/-- Putting something where no directory is changes that place only. -/
theorem frame_put (e : FileEntry) (h : t.at? p ≠ some .directory) :
    Frame (· = p) t (t.put p e) where
  here := rfl
  other q hq := by
    rw [at?_put, if_neg hq]
    split
    · next hnil => rw [hnil, at?, if_pos rfl]
    · rfl
  directory q hq := by
    have hne : q ≠ p := fun he => h (he ▸ hq)
    rw [at?_put, if_neg hne, hq, ite_self]
  present q hq := by
    rw [at?_put]
    split
    · exact Option.some_ne_none _
    · split
      · exact Option.some_ne_none _
      · exact hq

/-- Making directories along some names makes them only where nothing was. -/
theorem frame_makeAlong (t : FileTree) (p : Place) (names : List Text.Bytes) :
    Frame (fun q => q ∈ trail p names ∧ t.at? q = none) t (t.makeAlong p names).2 := by
  induction names generalizing t p with
  | nil => exact .refl _ t
  | cons name names ih =>
    rw [makeAlong]
    split
    · have hnext : child p name ∈ trail p (name :: names) :=
        List.mem_cons_of_mem _ (mem_trail_self _ _)
      dsimp only
      split
      · next habsent =>
        have hput : Frame (· = child p name) t (t.put (child p name) .directory) :=
          frame_put _ (by rw [habsent]; exact nofun)
        refine (hput.mono ?_).trans ((ih _ _).mono ?_)
        · rintro q rfl
          exact ⟨hnext, habsent⟩
        · rintro q ⟨hq, hnone⟩
          exact ⟨List.mem_cons_of_mem _ hq, hput.absent hnone⟩
      · exact (ih _ _).mono fun q hq => ⟨List.mem_cons_of_mem _ hq.1, hq.2⟩
    · exact .refl _ t

/-- Making a directory makes only what is missing on the way. -/
theorem frame_makeDirectories (t : FileTree) (path : Path) :
    Frame (fun q => q ∈ t.route path ∧ t.at? q = none) t (t.makeDirectories path).2 := by
  unfold makeDirectories
  split
  · exact frame_makeAlong t (t.origin path) path.names
  · exact .refl _ t

theorem frame_modifyAt (t : FileTree) (p : Place) (f : Option Text.Bytes → Text.Bytes) :
    Frame (fun q => q = p ∧ t.at? q ≠ some .directory) t (t.modifyAt p f).2 := by
  unfold modifyAt
  split
  · exact .refl _ t
  · next contents hp =>
    have hne : t.at? p ≠ some .directory := by rw [hp]; exact nofun
    exact (frame_put _ hne).mono fun q hq => ⟨hq, hq ▸ hne⟩
  · next hp =>
    have hne : t.at? p ≠ some .directory := by rw [hp]; exact nofun
    exact (frame_put _ hne).mono fun q hq => ⟨hq, hq ▸ hne⟩

/-- Adding to a file changes the place that its path leads to, unless a directory is there. -/
theorem frame_append (t : FileTree) (path : Path) (contents : Text.Bytes) :
    Frame (fun q => q = t.goal path ∧ t.at? q ≠ some .directory) t (t.append path contents).2 := by
  unfold append
  split
  · split
    · next place name hwalk hlast =>
      have hgoal : child place name = t.goal path := by
        obtain ⟨front, hnames⟩ := List.getLast?_eq_some_iff.mp hlast
        rw [hnames, List.dropLast_concat] at hwalk
        rw [goal, hnames, List.foldl_concat, ← eq_goal_of_walk hwalk]
      split
      · unfold modifyIn
        split
        · exact .refl _ t
        · rw [hgoal]
          exact frame_modifyAt t _ _
      · exact .refl _ t
    · exact .refl _ t
  · exact .refl _ t

end FileTree

/-! ### Opening the log -/

namespace Program

/-- Whether opening the log may change what is at a place of a tree: a directory is made there for a
log, where nothing is, or it is the place of a log's file. -/
def Disturbs (e : Environment) (t : FileTree) (q : Place) : Prop :=
  ∃ place ∈ LogPlace.all, (q ∈ t.route (place.directory e) ∧ t.at? q = none) ∨
    (q = t.goal (place.path e) ∧ t.at? q ≠ some .directory)

instance (e : Environment) (t : FileTree) (q : Place) : Decidable (Disturbs e t q) :=
  inferInstanceAs (Decidable (∃ place ∈ LogPlace.all, _))

open FileTree

/-- Opening a log at one place. -/
theorem frame_openAt (e : Environment) (place : LogPlace) (opening : Text.Bytes) (t : FileTree) :
    Frame (fun q => (q ∈ t.route (place.directory e) ∧ t.at? q = none) ∨
      (q = t.goal (place.path e) ∧ t.at? q ≠ some .directory)) t (openAt e place opening t).2 := by
  have hmade := frame_makeDirectories t (place.directory e)
  unfold openAt
  rcases hmake : t.makeDirectories (place.directory e) with ⟨made, t₁⟩
  rw [hmake] at hmade
  have hfirst := hmade.mono (Q := fun q => (q ∈ t.route (place.directory e) ∧ t.at? q = none) ∨
    (q = t.goal (place.path e) ∧ t.at? q ≠ some .directory)) fun _ h => .inl h
  cases made with
  | false => exact hfirst
  | true =>
    refine hfirst.trans ((frame_append t₁ (place.path e) opening).mono ?_)
    rintro q ⟨hq, hne⟩
    rw [hmade.goal] at hq
    exact .inr ⟨hq, fun hdirectory => hne (hmade.directory q hdirectory)⟩

/-- Opening the log at the first of some places at which that is possible. -/
theorem frame_openLog (e : Environment) (f : LogFilter) (skipped places : List LogPlace)
    (t : FileTree) :
    Frame (fun q => ∃ place ∈ places, (q ∈ t.route (place.directory e) ∧ t.at? q = none) ∨
      (q = t.goal (place.path e) ∧ t.at? q ≠ some .directory)) t
      (openLog e f skipped places t).2 := by
  induction places generalizing skipped t with
  | nil => exact .refl _ t
  | cons place rest ih =>
    have hopen := frame_openAt e place (logBytes f (logOpening e place skipped)) t
    unfold openLog
    rcases hat : openAt e place (logBytes f (logOpening e place skipped)) t with ⟨opened, t₁⟩
    rw [hat] at hopen
    have hfirst := hopen.mono (Q := fun q => ∃ place' ∈ place :: rest,
      (q ∈ t.route (place'.directory e) ∧ t.at? q = none) ∨
        (q = t.goal (place'.path e) ∧ t.at? q ≠ some .directory))
      fun _ h => ⟨place, List.mem_cons_self, h⟩
    cases opened with
    | true => exact hfirst
    | false =>
      refine hfirst.trans ((ih (skipped ++ [place]) t₁).mono ?_)
      -- what was missing after the first attempt was missing before it
      rintro q ⟨place', hplace', ⟨hq, hnone⟩ | ⟨hq, hne⟩⟩
      · rw [hopen.route] at hq
        exact ⟨place', List.mem_cons_of_mem _ hplace', .inl ⟨hq, hopen.absent hnone⟩⟩
      · rw [hopen.goal] at hq
        exact ⟨place', List.mem_cons_of_mem _ hplace',
          .inr ⟨hq, fun hdirectory => hne (hopen.directory q hdirectory)⟩⟩

/-- A path that finds what is at its goal finds the same once the log is open, unless opening the
log disturbs that place. -/
theorem find?_openLog (e : Environment) (f : LogFilter) {t : FileTree} {path : Path}
    (hfind : t.find? path = t.at? (t.goal path)) (hgoal : ¬Disturbs e t (t.goal path)) :
    (openLog e f [] LogPlace.all t).2.find? path = t.find? path :=
  (frame_openLog e f [] LogPlace.all t).find? hfind hgoal

end Program

end TraceTarget
