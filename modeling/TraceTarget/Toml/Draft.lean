import TraceTarget.Toml.Key

/-!
# Tables under construction

A table comes together from several places of a document: its header, dotted keys, and headers of
tables inside it. What may still be added depends on how a table came about, so a draft remembers
that; a finished value has forgotten it.

- `Draft`: a value under construction.
- `Draft.update`: changes the table at a path, making the tables on the way that are missing.
- `Draft.insert`: puts a value under a dotted key.
- `Draft.open`, `Draft.openElement`: begin a table and an element of an array of tables.
- `Draft.finish`: the finished value.
-/

namespace TraceTarget.Toml

/-- How a table came about. -/
inductive Origin where
  /-- By a header of its own. -/
  | header
  /-- By the header of a table inside it. -/
  | longerHeader
  /-- By a dotted key, or taken over by one from longer headers. -/
  | dottedKey
  deriving DecidableEq, Repr

/-- A value under construction. -/
inductive Draft where
  /-- Written out as a value; nothing can be added. -/
  | closed (value : Located Value)
  | table (origin : Origin) (span : Span) (entries : List (Key × Draft))
  /-- An array of tables: the elements before the last one, and the last one, which is the one that
  later headers add to. -/
  | tables (span : Span) (earlier : List (Span × List (Key × Draft)))
      (lastSpan : Span) (last : List (Key × Draft))

namespace Draft

/-- The entries of a table under construction. -/
abbrev Entries := List (Key × Draft)

/-- Changes, adds or refuses the entry of a name. The entry keeps its place. -/
def alter (name : String) (f : Option (Key × Draft) → Option (Key × Draft)) :
    Entries → Option Entries
  | [] => (f none).map ([·])
  | e :: es =>
    if e.1.name = name then (f (some e)).map (· :: es) else (alter name f es).map (e :: ·)

/-- What asks for a table. -/
inductive Access where
  /-- A header may go through every table. -/
  | header
  /-- A dotted key may not go through a table with a header of its own. -/
  | dottedKey
  deriving DecidableEq, Repr

/-- How a table comes about that is missing on the way. -/
def Access.origin : Access → Origin
  | .header => .longerHeader
  | .dottedKey => .dottedKey

/-- What a table on the way becomes, if it may be gone through. A table that only longer headers
made is taken over by the first dotted key that goes through it, and can get no header any more. -/
def Access.enter? : Access → Origin → Option Origin
  | .header, origin => some origin
  | .dottedKey, .header => none
  | .dottedKey, .longerHeader | .dottedKey, .dottedKey => some .dottedKey

/-- Whether an array of tables on the way may be gone through, to its last element. A dotted key may
not end there: the element has a header of its own. -/
def Access.mayEnterTables (access : Access) (isLast : Bool) : Bool :=
  match access with
  | .header => true
  | .dottedKey => !isLast

/-- Changes the table at a path, making the tables on the way that are missing. -/
def update (access : Access) (f : Entries → Option Entries) : List Key → Entries → Option Entries
  | [], es => f es
  | k :: ks, es =>
    alter k.name (fun
      | none => do return (k, .table access.origin k.span (← update access f ks []))
      | some (_, .closed _) => none
      | some (k', .table origin span inner) => do
        return (k', .table (← access.enter? origin) span (← update access f ks inner))
      | some (k', .tables span earlier lastSpan last) =>
        if access.mayEnterTables ks.isEmpty then do
          return (k', .tables span earlier lastSpan (← update access f ks last))
        else none) es

/-- Puts a value under a dotted key that nothing has yet. -/
def insert (path : KeyPath) (value : Located Value) : Entries → Option Entries :=
  update .dottedKey
    (alter path.last.name fun
      | none => some (path.last, .closed value)
      | some _ => none)
    path.parents

/-- Begins a table with a header. A table that only longer headers made so far is taken over. -/
def «open» (header : Span) (path : KeyPath) : Entries → Option Entries :=
  update .header
    (alter path.last.name fun
      | none => some (path.last, .table .header header [])
      | some (_, .table .longerHeader _ es) => some (path.last, .table .header header es)
      | some _ => none)
    path.parents

/-- Begins an element of an array of tables. -/
def openElement (header : Span) (path : KeyPath) : Entries → Option Entries :=
  update .header
    (alter path.last.name fun
      | none => some (path.last, .tables header [] header [])
      | some (k, .tables span earlier lastSpan last) =>
        some (k, .tables span (earlier ++ [(lastSpan, last)]) header [])
      | some _ => none)
    path.parents

mutual

/-- The finished value. -/
def finish : Draft → Located Value
  | .closed value => value
  | .table _ span es => ⟨span, .table (finishEntries es)⟩
  | .tables span earlier lastSpan last =>
    ⟨span, .array (finishElements earlier ++ [⟨lastSpan, .table (finishEntries last)⟩])⟩

/-- The finished entries of a table. -/
def finishEntries : List (Key × Draft) → Toml.Entries
  | [] => []
  | (k, d) :: es => (k, d.finish) :: finishEntries es

/-- The finished elements of an array of tables. -/
def finishElements : List (Span × List (Key × Draft)) → List (Located Value)
  | [] => []
  | (span, es) :: rest => ⟨span, .table (finishEntries es)⟩ :: finishElements rest

end

end Draft

end TraceTarget.Toml
