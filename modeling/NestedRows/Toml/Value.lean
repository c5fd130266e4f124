import NestedRows.Decimal.Notation
/-!
# TOML values

What a TOML text describes: a table of values by key. A table is open while its text is read, since
headers and dotted keys add to tables that are already there. How it came to be decides who may add
to it (`Toml.Origin`).
-/

namespace NestedRows.Toml

/-- A value. -/
inductive Value where
  | string (s : String)
  | integer (n : Int)
  | float (x : Binary64)
  /-- A number too large to have a value. -/
  | outOfRange
  | bool (b : Bool)
  /-- A date, a time or both. -/
  | time (text : String)
  | array (items : List Value)
  | table (entries : List (String × Value))

instance : Inhabited Value := ⟨.bool false⟩

namespace Value

mutual

/-- Whether every number in a value is in its range. -/
def isSound : Value → Bool
  | outOfRange => false
  | array items => areSound items
  | table entries => entriesAreSound entries
  | _ => true

/-- Whether every number in the items is in its range. -/
def areSound : List Value → Bool
  | [] => true
  | v :: rest => v.isSound && areSound rest

/-- Whether every number in the entries is in its range. -/
def entriesAreSound : List (String × Value) → Bool
  | [] => true
  | (_, v) :: rest => v.isSound && entriesAreSound rest

end

end Value

/-- How a table came to be. -/
inductive Origin where
  /-- By a header of its own. -/
  | header
  /-- As a part of a longer header; a header of its own may still follow. -/
  | implied
  /-- As a part of a dotted key; more dotted keys may follow. -/
  | dotted
  deriving DecidableEq

/-- What stands at a key while a text is read. -/
inductive Node where
  /-- A value that nothing can be added to. -/
  | closed (v : Value)
  | table (origin : Origin) (entries : List (String × Node))
  /-- The tables of an array of tables, the last one first. -/
  | tables (last : List (String × Node)) (before : List (List (String × Node)))

abbrev Entries := List (String × Node)

instance : Inhabited Node := ⟨.closed default⟩

mutual

def Node.toValue : Node → Value
  | .closed v => v
  | .table _ entries => .table (entriesToValues entries)
  | .tables last before => .array (tablesToValues before [.table (entriesToValues last)])

def entriesToValues : List (String × Node) → List (String × Value)
  | [] => []
  | (k, n) :: rest => (k, n.toValue) :: entriesToValues rest

/-- The tables in front of `done`, which are listed last first. -/
def tablesToValues : List (List (String × Node)) → List Value → List Value
  | [], done => done
  | entries :: before, done => tablesToValues before (.table (entriesToValues entries) :: done)

end

namespace Entries

/-- Puts a node at a key, in place of an earlier one. -/
def put (k : String) (n : Node) : Entries → Entries
  | [] => [(k, n)]
  | (k', n') :: rest => if k = k' then (k, n) :: rest else (k', n') :: put k n rest

/-- Changes the table at the end of a path of keys. Tables that are missing come to be with the
given origin. A path leads into the last table of an array of tables, and never into a closed value;
a dotted path does not lead into a table that has a header of its own. -/
def atPath (origin : Origin) (f : Origin → Entries → Option Entries) :
    List String → Origin → Entries → Option Entries
  | [], current, entries => f current entries
  | k :: path, _, entries =>
    match entries.lookup k with
    | none => do
      let below ← atPath origin f path origin []
      return put k (.table origin below) entries
    | some (.closed _) => none
    | some (.table existing below) =>
      if origin = .dotted ∧ existing = .header then none
      else do
        let below ← atPath origin f path existing below
        return put k (.table existing below) entries
    | some (.tables last before) => do
      let last ← atPath origin f path .header last
      return put k (.tables last before) entries

/-- Adds a value at a key that is not there yet. -/
def addNew (k : String) (v : Value) (entries : Entries) : Option Entries :=
  match entries.lookup k with
  | none => some (put k (.closed v) entries)
  | some _ => none

/-- Adds a value at a dotted key. The table that gets it was made by dotted keys too, unless the key
has one part only. -/
def addDotted (path : List String) (k : String) (v : Value) (entries : Entries) : Option Entries :=
  match path with
  | [] => addNew k v entries
  | path =>
    atPath .dotted (fun origin entries => if origin = .dotted then addNew k v entries else none)
      path .header entries

def openTable (path : List String) (k : String) (entries : Entries) : Option Entries :=
  atPath .implied (fun _ entries =>
    match entries.lookup k with
    | none => some (put k (.table .header []) entries)
    | some (.table .implied below) => some (put k (.table .header below) entries)
    | some _ => none) path .header entries

/-- Opens one more table of an array of tables. -/
def openTables (path : List String) (k : String) (entries : Entries) : Option Entries :=
  atPath .implied (fun _ entries =>
    match entries.lookup k with
    | none => some (put k (.tables [] []) entries)
    | some (.tables last before) => some (put k (.tables [] (last :: before)) entries)
    | some _ => none) path .header entries

end Entries

end NestedRows.Toml
