import Mathlib.Data.List.Forall2
import TraceTarget.Proofs.Reading
import TraceTarget.Toml.Document

/-!
# Flat documents

A flat document is a sequence of sections. Each has a header line and then a line for each of its
fields, which are texts and numbers. As long as no name comes twice where it may not, a flat
document that was written down is read back as the table of its sections, in their order.

- `Section`, `Row`: sections, and the lines that they are written as.
- `statements_rows`: the statements of a written document are what its rows say.
- `Section.Drafted`: a section under construction.
- `Section.Holds`: an entry of a table that is a section; `parse?_written` says that reading gives
  such entries.
-/

namespace TraceTarget.Toml

/-- A section: the name of its header, and its fields in order. -/
structure Section where
  name : String
  fields : List (String × Plain)
  deriving DecidableEq, Repr

/-- A line of a flat document. -/
inductive Row where
  | header (name : String)
  | field (name : String) (value : Plain)
  deriving DecidableEq, Repr

namespace Row

/-- The name on a line. -/
def name : Row → String
  | header name | field name _ => name

/-- A line as it is written. -/
def written : Row → List Char
  | header name => '[' :: name.toList ++ [']', '\n']
  | field name value => name.toList ++ [' ', '=', ' '] ++ value.written ++ ['\n']

/-- A statement says what stands on a line. -/
inductive Says : Row → Statement → Prop
  | header (span : Span) (k : Key) : Says (.header k.name) (.table span ⟨[], k⟩)
  | field (k : Key) {value : Plain} {v : Located Value} : v.value = value.value →
    Says (.field k.name value) (.pair ⟨[], k⟩ v)

theorem Says.exists_table {name : String} {s : Statement} (h : (Row.header name).Says s) :
    ∃ span k, s = .table span ⟨[], k⟩ ∧ k.name = name := by
  cases h with
  | header span k => exact ⟨span, k, rfl, rfl⟩

end Row

/-- The lines of a section. -/
def Section.rows (s : Section) : List Row :=
  .header s.name :: s.fields.map fun f => .field f.1 f.2

/-- A flat document as it is written. -/
def writtenDocument (ss : List Section) : List Char :=
  (ss.flatMap Section.rows).flatMap Row.written

/-! ### Lines -/

/-- A bare name begins with a character of bare names. -/
theorem IsBareName.exists_cons {name : String} (h : IsBareName name) :
    ∃ c cs, name.toList = c :: cs ∧ isBareKey c = true := by
  obtain ⟨hne, hbare⟩ := h
  obtain ⟨c, cs, hcs⟩ :=
    List.exists_cons_of_ne_nil fun hnil => hne (String.toList_eq_nil_iff.mp hnil)
  exact ⟨c, cs, hcs, List.all_eq_true.mp hbare c (hcs ▸ List.mem_cons_self)⟩

/-- No line begins with what separates lines or what is within them, nor with a byte order mark. -/
theorem Row.exists_written {r : Row} (h : IsBareName r.name) :
    ∃ c cs, r.written = c :: cs ∧ c ∉ [' ', '\t', '#', '\n', '\r', '\ufeff'] := by
  cases r with
  | header name => exact ⟨_, _, rfl, by decide⟩
  | field name value =>
    obtain ⟨c, cs, hcs, hc⟩ : ∃ c cs, name.toList = c :: cs ∧ isBareKey c = true := h.exists_cons
    have hnone : [' ', '\t', '#', '\n', '\r', '\ufeff'].all (fun x => !isBareKey x) = true := by
      decide
    refine ⟨c, _, by rw [written, hcs]; rfl, fun hmem => ?_⟩
    have hnot := List.all_eq_true.mp hnone c hmem
    rw [hc] at hnot
    cases hnot

theorem Row.length_written_pos {r : Row} (h : IsBareName r.name) : 0 < r.written.length := by
  obtain ⟨c, cs, hcs, -⟩ := r.exists_written h
  rw [hcs]
  exact Nat.succ_pos _

/-- A statement that opens with one bracket begins a table. -/
theorem statement_eq_table {cs rest : List Char} {path : KeyPath} (hone : cs.head? ≠ some '[')
    (hpath : keyPath (skipSpaces cs) = some (path, ']' :: rest)) :
    statement ('[' :: cs) = some (.table (.between ('[' :: cs) rest) path, rest) := by
  rw [statement]
  · rw [hpath]
    rfl
  · rintro more rfl
    exact hone rfl

/-- A statement that opens with no bracket is a pair. -/
theorem statement_eq_pair {cs more rest : List Char} {path : KeyPath} {v : Located Value}
    (hnone : cs.head? ≠ some '[') (hpath : keyPath cs = some (path, '=' :: more))
    (hvalue : value (skipSpaces more) = some (v, rest)) :
    statement cs = some (.pair path v, rest) := by
  rw [statement]
  · rw [hpath]
    simp only [Option.bind_eq_bind, Option.bind_some, hvalue]
    rfl
  · rintro more rfl
    exact hnone rfl
  · rintro more rfl
    exact hnone rfl

/-- What begins with a bare name begins neither with a space nor with a bracket. -/
theorem IsBareName.append {name : String} (h : IsBareName name) (rest : List Char) :
    skipSpaces (name.toList ++ rest) = name.toList ++ rest ∧
      (name.toList ++ rest).head? ≠ some '[' := by
  obtain ⟨c, cs, hcs, hc⟩ := h.exists_cons
  have hne {x : Char} (hx : isBareKey x = false) : c ≠ x := by
    rintro rfl
    rw [hc] at hx
    cases hx
  have hspace : isSpace c = false := by
    simp [isSpace, hne (x := ' ') (by decide), hne (x := '\t') (by decide)]
  rw [hcs, List.cons_append]
  exact ⟨List.dropWhile_cons_of_neg (by simp [hspace]), by simpa using hne (x := '[') (by decide)⟩

/-- A header is read back, up to the end of its line. -/
theorem statement_header {name : String} (h : IsBareName name) (rest : List Char) :
    ∃ s, statement ((Row.header name).written ++ rest) = some (s, '\n' :: rest) ∧
      (Row.header name).Says s := by
  obtain ⟨k, hkey, rfl⟩ := keyPath_bareName h (c := ']') (by decide) ('\n' :: rest) nofun
  obtain ⟨hspaces, hone⟩ := h.append (']' :: '\n' :: rest)
  have hwritten : (Row.header k.name).written ++ rest =
      '[' :: (k.name.toList ++ ']' :: '\n' :: rest) := by
    simp [Row.written]
  have hpath : keyPath (skipSpaces (k.name.toList ++ ']' :: '\n' :: rest)) =
      some (⟨[], k⟩, ']' :: '\n' :: rest) :=
    hspaces.symm ▸ hkey
  exact ⟨_, hwritten ▸ statement_eq_table hone hpath, .header _ k⟩

/-- A bare name and the text of a value are read back, up to the end of their line. -/
theorem statement_pair {name : String} (h : IsBareName name) {text rest : List Char}
    {v : Located Value} (hspaces : skipSpaces (text ++ rest) = text ++ rest)
    (hvalue : value (text ++ rest) = some (v, rest)) :
    ∃ k : Key, statement (name.toList ++ ' ' :: '=' :: ' ' :: (text ++ rest)) =
      some (.pair ⟨[], k⟩ v, rest) ∧ k.name = name := by
  obtain ⟨k, hkey, hname⟩ := keyPath_bareName h (c := ' ') (by decide)
    ('=' :: ' ' :: (text ++ rest)) nofun
  have hnone := (h.append (' ' :: '=' :: ' ' :: (text ++ rest))).2
  have hskip : skipSpaces (' ' :: (text ++ rest)) = text ++ rest := hspaces
  exact ⟨k, statement_eq_pair hnone hkey (hskip.symm ▸ hvalue), hname⟩

/-- A field is read back, up to the end of its line. -/
theorem statement_field {name : String} (h : IsBareName name) (p : Plain) (rest : List Char) :
    ∃ s, statement ((Row.field name p).written ++ rest) = some (s, '\n' :: rest) ∧
      (Row.field name p).Says s := by
  obtain ⟨v, hvalue, hv⟩ := value_written p rest
  obtain ⟨k, hs, rfl⟩ := statement_pair h (skipSpaces_written p _) hvalue
  have hwritten : (Row.field k.name p).written ++ rest =
      k.name.toList ++ ' ' :: '=' :: ' ' :: (p.written ++ '\n' :: rest) := by
    simp [Row.written]
  exact ⟨_, hwritten ▸ hs, .field k hv⟩

/-- A line is read as the statement that it says, up to its end. -/
theorem statement_written {r : Row} (h : IsBareName r.name) (rest : List Char) :
    ∃ s, statement (r.written ++ rest) = some (s, '\n' :: rest) ∧ r.Says s := by
  cases r with
  | header name => exact statement_header h rest
  | field name p => exact statement_field h p rest

/-- A line that is neither empty nor a comment gives its statement, and reading goes on with the
next line. -/
theorem statementsUpTo_cons {c : Char} {cs rest : List Char} {s : Statement}
    (hc : c ∉ [' ', '\t', '#', '\n', '\r']) (hs : statement (c :: cs) = some (s, '\n' :: rest))
    (n : Nat) : statementsUpTo (n + 1) (c :: cs) = (statementsUpTo n rest).map (s :: ·) := by
  simp only [List.mem_cons, List.not_mem_nil, or_false, not_or] at hc
  obtain ⟨hspace, htab, hhash, hlf, hcr⟩ := hc
  have hskip : skipSpaces (c :: cs) = c :: cs := skipSpaces_cons (by simp [isSpace, hspace, htab]) cs
  have hbreak : lineBreak? (c :: cs) = none := by
    rw [lineBreak?]
    · rintro more ⟨⟩
      exact hlf rfl
    · rintro more h
      exact hcr (List.cons.inj h).1
  rw [statementsUpTo, hskip]
  simp only [List.head?_cons, hbreak]
  rw [if_neg (by simpa using hhash), hs]
  have hend : endOfLine ('\n' :: rest) = some rest := rfl
  simp only [Option.bind_eq_bind, Option.bind_some, hend]
  exact Option.map_eq_bind.symm

/-- A written line gives its statement, and reading goes on with the next line. -/
theorem statementsUpTo_written {r : Row} (h : IsBareName r.name) (n : Nat) (rest : List Char) :
    ∃ s, statementsUpTo (n + 1) (r.written ++ rest) = (statementsUpTo n rest).map (s :: ·) ∧
      r.Says s := by
  obtain ⟨s, hs, hread⟩ := statement_written h rest
  obtain ⟨c, cs, hcs, hc⟩ := Row.exists_written h
  have hbegins : c ∉ [' ', '\t', '#', '\n', '\r'] :=
    fun hmem => hc (List.mem_append_left ['\ufeff'] hmem)
  rw [hcs, List.cons_append] at hs ⊢
  exact ⟨s, statementsUpTo_cons hbegins hs n, hread⟩

/-- The statements of some lines are what the lines say. -/
theorem statementsUpTo_rows {rs : List Row} (h : ∀ r ∈ rs, IsBareName r.name) {n : Nat}
    (hn : rs.length ≤ n) :
    ∃ ss, statementsUpTo (n + 1) (rs.flatMap Row.written) = some ss ∧
      List.Forall₂ Row.Says rs ss := by
  induction rs generalizing n with
  | nil => exact ⟨[], rfl, .nil⟩
  | cons r rs ih =>
    obtain ⟨hr, hrs⟩ := List.forall_mem_cons.mp h
    obtain ⟨n, rfl⟩ := Nat.exists_eq_succ_of_ne_zero (Nat.ne_zero_of_lt hn)
    obtain ⟨ss, hss, hread⟩ := ih hrs (Nat.le_of_succ_le_succ hn)
    obtain ⟨s, hs, hrow⟩ := statementsUpTo_written hr (n + 1) (rs.flatMap Row.written)
    refine ⟨s :: ss, ?_, .cons hrow hread⟩
    rw [List.flatMap_cons, hs, hss]
    rfl

/-- There are no more lines than characters. -/
theorem length_rows_le {rs : List Row} (h : ∀ r ∈ rs, IsBareName r.name) :
    rs.length ≤ (rs.flatMap Row.written).length := by
  induction rs with
  | nil => exact Nat.le_refl _
  | cons r rs ih =>
    obtain ⟨hr, hrs⟩ := List.forall_mem_cons.mp h
    have hone := Row.length_written_pos hr
    have hrest := ih hrs
    rw [List.flatMap_cons, List.length_append, List.length_cons]
    omega

theorem statements_rows {rs : List Row} (h : ∀ r ∈ rs, IsBareName r.name) :
    ∃ ss, statements (rs.flatMap Row.written) = some ss ∧ List.Forall₂ Row.Says rs ss :=
  statementsUpTo_rows h (length_rows_le h)

/-- A written line does not begin with a byte order mark. -/
theorem dropMark_rows {rs : List Row} (h : ∀ r ∈ rs, IsBareName r.name) :
    dropMark (rs.flatMap Row.written) = rs.flatMap Row.written := by
  cases rs with
  | nil => rfl
  | cons r rs =>
    obtain ⟨c, cs, hcs, hc⟩ := Row.exists_written (h r List.mem_cons_self)
    rw [List.flatMap_cons, hcs, List.cons_append, dropMark]
    rintro more h
    obtain rfl := (List.cons.inj h).1
    exact hc (by decide)

/-! ### Sections under construction -/

/-- A field under construction. -/
def FieldDrafted (f : String × Plain) (e : Key × Draft) : Prop :=
  e.1.name = f.1 ∧ ∃ v, e.2 = .closed v ∧ v.value = f.2.value

/-- A section under construction. -/
def Section.Drafted (s : Section) (e : Key × Draft) : Prop :=
  e.1.name = s.name ∧
    ∃ span es, e.2 = .table .header span es ∧ List.Forall₂ FieldDrafted s.fields es

namespace Draft

variable {es : Entries} {x : Key × Draft} {name : String}
  {f : Option (Key × Draft) → Option (Key × Draft)}

/-- A name that nothing has gets its entry at the end. -/
theorem alter_new (h : name ∉ es.map (·.1.name)) :
    alter name f es = (f none).map fun x => es ++ [x] := by
  induction es with
  | nil => rfl
  | cons e es ih =>
    rw [List.map_cons, List.mem_cons, not_or] at h
    rw [alter, if_neg (Ne.symm h.1), ih h.2, Option.map_map]
    rfl

/-- The last entry is changed, if it is the only one of its name. -/
theorem alter_last (h : x.1.name ∉ es.map (·.1.name)) :
    alter x.1.name f (es ++ [x]) = (f (some x)).map fun x => es ++ [x] := by
  induction es with
  | nil => rw [List.nil_append, alter, if_pos rfl]; rfl
  | cons e es ih =>
    rw [List.map_cons, List.mem_cons, not_or] at h
    rw [List.cons_append, alter, if_neg (Ne.symm h.1), ih h.2, Option.map_map]
    rfl

end Draft

/-- A header of a new name begins a section. -/
theorem apply_header {root : Draft.Entries} {current : List Key} {span : Span} {k : Key}
    (h : k.name ∉ root.map (·.1.name)) :
    Progress.apply ⟨root, current⟩ (.table span ⟨[], k⟩) =
      some ⟨root ++ [(k, .table .header span [])], [k]⟩ := by
  rw [Progress.apply, Draft.open, Draft.update, Draft.alter_new h]
  rfl

/-- A field of a new name goes to the end of the section that was begun last. -/
theorem apply_field {root inner : Draft.Entries} {span : Span} {k k' : Key} {v : Located Value}
    (hk : k.name ∉ root.map (·.1.name)) (hk' : k'.name ∉ inner.map (·.1.name)) :
    Progress.apply ⟨root ++ [(k, .table .header span inner)], [k]⟩ (.pair ⟨[], k'⟩ v) =
      some ⟨root ++ [(k, .table .header span (inner ++ [(k', .closed v)]))], [k]⟩ := by
  have hinsert : Draft.insert ⟨[], k'⟩ v inner = some (inner ++ [(k', .closed v)]) := by
    rw [Draft.insert, Draft.update, Draft.alter_new hk']
    rfl
  rw [Progress.apply, Draft.update, Draft.alter_last (x := (k, _)) hk]
  simp only [Draft.update, hinsert]
  rfl

/-- The first of the names to come is new, and stays so for those after it. -/
theorem nodup_shift {before rest : List String} {name : String}
    (h : (before ++ name :: rest).Nodup) : name ∉ before ∧ (before ++ [name] ++ rest).Nodup := by
  constructor
  · intro hmem
    exact (List.nodup_append.mp h).2.2 name hmem name List.mem_cons_self rfl
  · rwa [List.append_assoc]

/-- The fields of a section go one after the other to the section that was begun last. -/
theorem foldlM_fields {root : Draft.Entries} (inner : Draft.Entries) (span : Span) {k : Key}
    {fields : List (String × Plain)} {more : List Row} {ss : List Statement}
    (hk : k.name ∉ root.map (·.1.name))
    (hnames : (inner.map (·.1.name) ++ fields.map Prod.fst).Nodup)
    (hread : List.Forall₂ Row.Says ((fields.map fun f => Row.field f.1 f.2) ++ more) ss) :
    ∃ inner' ss', List.Forall₂ FieldDrafted fields inner' ∧ List.Forall₂ Row.Says more ss' ∧
      ss.foldlM Progress.apply ⟨root ++ [(k, .table .header span inner)], [k]⟩ =
        ss'.foldlM Progress.apply
          ⟨root ++ [(k, .table .header span (inner ++ inner'))], [k]⟩ := by
  -- `inner` holds the fields so far; those to come go behind them, and no name comes back
  induction fields generalizing inner ss with
  | nil => exact ⟨[], ss, .nil, hread, by rw [List.append_nil]⟩
  | cons f fields ih =>
    obtain ⟨name, value⟩ := f
    rw [List.map_cons, List.cons_append] at hread
    cases hread with
    | cons hrow hread =>
      cases hrow with
      | @field k' _ v hv =>
        obtain ⟨hnew, hnames'⟩ := nodup_shift hnames
        have hinner : (inner ++ [(k', Draft.closed v)]).map (·.1.name) =
            inner.map (·.1.name) ++ [k'.name] :=
          List.map_append
        obtain ⟨inner', ss', hdrafted, hmore, hfold⟩ := ih _ (hinner ▸ hnames') hread
        refine ⟨(k', .closed v) :: inner', ss', .cons ⟨rfl, v, rfl, hv⟩ hdrafted, hmore, ?_⟩
        rw [List.foldlM_cons, apply_field hk hnew, Option.bind_eq_bind, Option.bind_some, hfold,
          List.append_assoc]
        rfl

/-- The sections of a document are made one after the other. -/
theorem foldlM_sections (root : Draft.Entries) (current : List Key) {secs : List Section}
    {ss : List Statement} (hnames : (root.map (·.1.name) ++ secs.map Section.name).Nodup)
    (hfields : ∀ s ∈ secs, (s.fields.map Prod.fst).Nodup)
    (hread : List.Forall₂ Row.Says (secs.flatMap Section.rows) ss) :
    ∃ root' current', List.Forall₂ Section.Drafted secs root' ∧
      ss.foldlM Progress.apply ⟨root, current⟩ = some ⟨root ++ root', current'⟩ := by
  induction secs generalizing root current ss with
  | nil =>
    cases hread
    exact ⟨[], current, .nil, by rw [List.append_nil]; rfl⟩
  | cons sec secs ih =>
    obtain ⟨name, fields⟩ := sec
    obtain ⟨hsec, hsecs⟩ := List.forall_mem_cons.mp hfields
    rw [List.flatMap_cons, Section.rows, List.cons_append] at hread
    cases hread with
    | cons hrow hread =>
      cases hrow with
      | header span k =>
        obtain ⟨hnew, hnames'⟩ := nodup_shift hnames
        obtain ⟨inner, ss', hdrafted, hmore, hfold⟩ := foldlM_fields [] span hnew hsec hread
        have hroot : (root ++ [(k, Draft.table .header span inner)]).map (·.1.name) =
            root.map (·.1.name) ++ [k.name] :=
          List.map_append
        obtain ⟨root', current', hdrafts, hrest⟩ := ih _ [k] (hroot ▸ hnames') hsecs hmore
        refine ⟨(k, .table .header span inner) :: root', current',
          .cons ⟨rfl, span, inner, rfl, hdrafted⟩ hdrafts, ?_⟩
        rw [List.foldlM_cons, apply_header hnew, Option.bind_eq_bind, Option.bind_some, hfold,
          List.nil_append, hrest, List.append_assoc]
        rfl

/-! ### Finished sections -/

/-- An entry of a table that is a field. -/
def IsField (f : String × Plain) (e : Key × Located Value) : Prop :=
  e.1.name = f.1 ∧ e.2.value = f.2.value

/-- An entry of a table that is a section. -/
def Section.Holds (s : Section) (e : Key × Located Value) : Prop :=
  e.1.name = s.name ∧ ∃ es, e.2.value = .table es ∧ List.Forall₂ IsField s.fields es

theorem finish_fields {fields : List (String × Plain)} {es : Draft.Entries}
    (h : List.Forall₂ FieldDrafted fields es) :
    List.Forall₂ IsField fields (Draft.finishEntries es) := by
  induction h with
  | nil => exact .nil
  | @cons f e fields es hfield _ ih =>
    obtain ⟨k, d⟩ := e
    obtain ⟨hname, v, rfl, hv⟩ := hfield
    exact .cons ⟨hname, hv⟩ ih

theorem finish_sections {secs : List Section} {root : Draft.Entries}
    (h : List.Forall₂ Section.Drafted secs root) :
    List.Forall₂ Section.Holds secs (Draft.finishEntries root) := by
  induction h with
  | nil => exact .nil
  | @cons sec e secs root hsec _ ih =>
    obtain ⟨k, d⟩ := e
    obtain ⟨hname, span, es, rfl, hes⟩ := hsec
    exact .cons ⟨hname, _, rfl, finish_fields hes⟩ ih

/-- Sections that can be written down: their names and those of their fields need no quotes, and no
name comes twice where it may not. -/
structure Legible (secs : List Section) : Prop where
  bare : ∀ r ∈ secs.flatMap Section.rows, IsBareName r.name
  names : (secs.map Section.name).Nodup
  fields : ∀ s ∈ secs, (s.fields.map Prod.fst).Nodup

/-- A flat document that was written down is read back, section by section. -/
theorem parse?_written {secs : List Section} (h : Legible secs) :
    ∃ root, parse? (writtenDocument secs) = some root ∧ List.Forall₂ Section.Holds secs root := by
  obtain ⟨ss, hss, hread⟩ := statements_rows h.bare
  obtain ⟨root, current, hroot, hfold⟩ :=
    foldlM_sections [] [] h.names h.fields hread
  refine ⟨Draft.finishEntries root, ?_, finish_sections hroot⟩
  rw [parse?, writtenDocument, dropMark_rows h.bare, hss, Option.bind_some, assemble, hfold]
  rfl

end TraceTarget.Toml
