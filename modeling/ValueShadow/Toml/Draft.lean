import ValueShadow.Toml.Value

/-!
# Tables under construction

While a document is read, its tables remember how they came about, since that decides what may still
be added to them. A table that only lies on the way to another one can be opened by a header once; a
table made by dotted keys can be extended by dotted keys; an inline table and an array between
brackets are closed. A key is never defined twice.
-/

namespace ValueShadow.Toml

/-- How a table came about. -/
inductive TableKind where
  /-- By a header of its own. -/
  | opened
  /-- On the way to a table with a header. -/
  | passed
  /-- On the way of a dotted key. -/
  | dotted
  deriving DecidableEq, Repr

/-- A value under construction. -/
inductive Draft where
  /-- A value to which nothing can be added. -/
  | closed (value : Value)
  /-- A table. -/
  | table (kind : TableKind) (entries : List (String × Draft))
  /-- An array whose tables each have a header; the last one can be added to. -/
  | tables (elements : List (List (String × Draft)))

/-- The entries of a table under construction. -/
abbrev Entries := List (String × Draft)

namespace Entries

/-- The entries with the value of a key replaced. -/
def replace (key : String) (draft : Draft) : Entries → Entries
  | [] => []
  | entry :: entries =>
    if entry.1 = key then (key, draft) :: entries else entry :: replace key draft entries

/-- The entries without a key. -/
def erase (key : String) (entries : Entries) : Entries :=
  entries.filter (·.1 != key)

/-- The list with its last item changed. -/
def changeLast {α : Type} (change : α → Option α) : List α → Option (List α)
  | [] => none
  | [last] => do return [← change last]
  | first :: rest => do return first :: (← changeLast change rest)

/-- The entries after a change in the table at the end of the path. Tables that are missing on the
way are made, of kind `made`. Dotted keys do not lead through a table with a header. -/
def changeAt (made : TableKind) (change : TableKind → Entries → Option Entries) :
    List String → TableKind → Entries → Option Entries
  | [], kind, entries => change kind entries
  | key :: path, _, entries =>
    match entries.lookup key with
    | none => do
      let inner ← changeAt made change path made []
      return entries ++ [(key, .table made inner)]
    | some (.closed _) => none
    | some (.table kind inner) =>
      if made = .dotted ∧ kind = .opened then
        none
      else do
        let inner ← changeAt made change path kind inner
        return replace key (.table kind inner) entries
    | some (.tables elements) => do
      let elements ← changeLast (changeAt made change path .opened) elements
      return replace key (.tables elements) entries

/-- The entries of a table with a header, or of an inline table, after the value of a key, which may
be dotted, was defined. -/
def define (path : List String) (key : String) (value : Value) (entries : Entries) :
    Option Entries :=
  changeAt .dotted
    (fun kind inner =>
      if (path.isEmpty || kind == .dotted) && (inner.lookup key).isNone then
        some (inner ++ [(key, .closed value)])
      else
        none)
    path .opened entries

/-- A key with the tables that lead to it, and its value. -/
structure Definition where
  path : List String
  key : String
  value : Value

/-- The entries after several definitions. -/
def defineAll (definitions : List Definition) (entries : Entries) : Option Entries :=
  definitions.foldlM (fun entries d => define d.path d.key d.value entries) entries

/-- The entries of a document after the table of a header, whose definitions follow it. A table that
was only passed keeps its entries and moves to the end. -/
def openTable (path : List String) (key : String) (definitions : List Definition) :
    Entries → Option Entries :=
  changeAt .passed
    (fun _ entries =>
      match entries.lookup key with
      | none => do
        let inner ← defineAll definitions []
        return entries ++ [(key, .table .opened inner)]
      | some (.table .passed inner) => do
        let inner ← defineAll definitions inner
        return erase key entries ++ [(key, .table .opened inner)]
      | some _ => none)
    path .opened

/-- The entries of a document after one more element of an array of tables, whose definitions follow
its header. -/
def appendTable (path : List String) (key : String) (definitions : List Definition) :
    Entries → Option Entries :=
  changeAt .passed
    (fun _ entries => do
      let element ← defineAll definitions []
      match entries.lookup key with
      | none => return entries ++ [(key, .tables [element])]
      | some (.tables elements) => return replace key (.tables (elements ++ [element])) entries
      | some _ => none)
    path .opened

end Entries

mutual

/-- The finished value. -/
def Draft.finish : Draft → Value
  | .closed value => value
  | .table _ entries => .table (finishEntries entries)
  | .tables elements => .array (finishElements elements)

/-- The finished entries of a table. -/
def finishEntries : List (String × Draft) → List (String × Value)
  | [] => []
  | (key, draft) :: entries => (key, draft.finish) :: finishEntries entries

/-- The finished tables of an array. -/
def finishElements : List (List (String × Draft)) → List Value
  | [] => []
  | entries :: elements => .table (finishEntries entries) :: finishElements elements

end

end ValueShadow.Toml
