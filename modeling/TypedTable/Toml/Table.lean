import TypedTable.Toml.Node
/-!
# Building tables

`Entries.insert` puts a value under a key of several parts and makes the tables on the way. Names
are given once: no value and no table is replaced or added to after it is complete. A key of several
parts adds only to tables that such keys made, and a header only to tables that have none yet.
-/

namespace TypedTable.Toml

namespace Entries

/-- The node with this name. -/
def find? (entries : Entries) (name : String) : Option Node := entries.lookup name

/-- The entries with a node under a name, in place of the one that was there. -/
def put (name : String) (node : Node) : Entries → Entries
  | [] => [(name, node)]
  | (k, old) :: rest =>
    if k = name then (name, node) :: rest else (k, old) :: put name node rest

/-- A change of a table, which knows how the table came to be. -/
abbrev Change := TableKind → Entries → Option Entries

/-- Makes a change to the table at the end of a path. Tables that are missing are made, of the kind
`made`; `mayEnter` says which tables may be passed through. -/
def modify (made : TableKind) (mayEnter : TableKind → Bool) (change : Change) :
    List String → Change
  | [], kind, entries => change kind entries
  | name :: path, _, entries =>
    match entries.find? name with
    | none => do return entries.put name (.table made (← modify made mayEnter change path made []))
    | some (.table kind inner) =>
      if mayEnter kind then do
        return entries.put name (.table kind (← modify made mayEnter change path kind inner))
      else none
    | some (.tables members) => do
      let last ← members.getLast?
      let last ← modify made mayEnter change path .headed last
      return entries.put name (.tables (members.dropLast ++ [last]))
    | some _ => none

/-- Adds a name that is not there yet. -/
def add (name : String) (node : Node) (entries : Entries) : Option Entries :=
  match entries.find? name with
  | none => some (entries.put name node)
  | some _ => none

/-- Adds a value under a key of several parts to a table. -/
def insert (path : List String) (name : String) (node : Node) : Change :=
  modify .dotted (fun kind => kind = .dotted || kind = .implied)
    (fun kind entries =>
      if path.isEmpty || kind = .dotted then entries.add name node else none)
    path

/-- Which tables a header may pass through. -/
def isOpen (kind : TableKind) : Bool := kind ≠ .inline

/-- Makes the table of a header. -/
def openTable (path : List String) (name : String) : Change :=
  modify .implied isOpen
    (fun _ entries =>
      match entries.find? name with
      | none => some (entries.put name (.table .headed []))
      | some (.table .implied inner) => some (entries.put name (.table .headed inner))
      | some _ => none)
    path

/-- Makes one more table of a header in double brackets. -/
def openMember (path : List String) (name : String) : Change :=
  modify .implied isOpen
    (fun _ entries =>
      match entries.find? name with
      | none => some (entries.put name (.tables [[]]))
      | some (.tables members) => some (entries.put name (.tables (members ++ [[]])))
      | some _ => none)
    path

/-- Makes a change to the table that a header has made. -/
def within (header : List String) (change : Change) : Change :=
  modify .implied isOpen change header

end Entries

end TypedTable.Toml
