import RepoVitals.Config.Setting
/-!
TOML tables while they are being written.

Owns:
- tables that remember how they came about, since that decides what may still be added to them;
- going down a path of keys, where missing tables are made on the way;
- the three things that a document does to its tables: set a key, open a table, open the next table
  of a list;
- the settings that a finished table stands for.

A table is opened by name at most once.  A dotted key adds only to tables that dotted keys of the
same section have made.  A value is finished once it is written, an inline table included.
-/

namespace RepoVitals.Toml

open Config (Setting)

/-- How a table came about. -/
inductive Origin where
  /-- It was opened by its own name. -/
  | opened
  /-- It lies on the way to a table that was opened. -/
  | passed
  /-- It lies on the way to a dotted key. -/
  | dotted
  deriving DecidableEq

/-- What stands under a key: a finished value, a table, or a list of tables, last first. -/
inductive Node where
  | value (setting : Setting)
  | table (origin : Origin) (entries : List (String × Node))
  | tables (reversed : List (List (String × Node)))

/-- A table: its origin and its entries in ascending key order. -/
structure Table where
  origin : Origin
  entries : List (String × Node)

namespace Table

/-- A table that holds nothing. -/
def empty (origin : Origin) : Table := ⟨origin, []⟩

/-- Put something under a key in place of what stood there. -/
def put (table : Table) (key : String) (node : Node) : Table :=
  { table with entries := insertEntry key node table.entries }

/-- Change the table at the end of a path.  Missing tables on the way get the origin `made`; a list
of tables is entered at its last one. -/
def change (made : Origin) (path : List String) (edit : Table → Option Table) (table : Table) :
    Option Table :=
  match path with
  | [] => edit table
  | key :: rest =>
    match valueUnder? key table.entries with
    | none => do
      let inner ← (Table.empty made).change made rest edit
      some (table.put key (.table inner.origin inner.entries))
    | some (.table origin entries) =>
      if made = .dotted ∧ origin = .opened then none
      else do
        let inner ← (Table.mk origin entries).change made rest edit
        some (table.put key (.table inner.origin inner.entries))
    | some (.tables (last :: before)) => do
      let inner ← (Table.mk .opened last).change made rest edit
      some (table.put key (.tables (inner.entries :: before)))
    | some _ => none

/-- Set a key below a path of dotted keys.  No key is set twice, and the table at the end of the
path is one that dotted keys have made exactly if there is a path. -/
def set (table : Table) (path : List String) (key : String) (setting : Setting) : Option Table :=
  table.change .dotted path (fun inner =>
    if (inner.origin = .dotted) = (path = []) then none
    else
      match valueUnder? key inner.entries with
      | some _ => none
      | none => some (inner.put key (.value setting)))

/-- Open a table by its name. -/
def openTable (table : Table) (path : List String) (key : String) : Option Table :=
  table.change .passed path (fun parent =>
    match valueUnder? key parent.entries with
    | none => some (parent.put key (.table .opened []))
    | some (.table .passed entries) => some (parent.put key (.table .opened entries))
    | some _ => none)

/-- Open the next table of a list by the list's name. -/
def openNext (table : Table) (path : List String) (key : String) : Option Table :=
  table.change .passed path (fun parent =>
    match valueUnder? key parent.entries with
    | none => some (parent.put key (.tables [[]]))
    | some (.tables reversed) => some (parent.put key (.tables ([] :: reversed)))
    | some _ => none)

end Table

/-! ### Finished tables -/

mutual

/-- The setting that a node stands for. -/
def Node.setting : Node → Setting
  | .value setting => setting
  | .table _ entries => .table (Node.fields entries)
  | .tables reversed => .list (Node.rows reversed).reverse

/-- The fields that entries stand for. -/
def Node.fields : List (String × Node) → List (String × Setting)
  | [] => []
  | (key, node) :: rest => (key, node.setting) :: Node.fields rest

/-- The tables of a list, in the order in which they are held. -/
def Node.rows : List (List (String × Node)) → List Setting
  | [] => []
  | entries :: rest => .table (Node.fields entries) :: Node.rows rest

end

/-- The setting that a table stands for. -/
def Table.setting (table : Table) : Setting :=
  .table (Node.fields table.entries)

end RepoVitals.Toml
