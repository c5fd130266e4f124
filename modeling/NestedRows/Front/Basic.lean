import NestedRows.Front.Snapshot
/-!
# The front

The front serves the snapshot that was published last. Publishing takes the next version number and
then replaces the current snapshot; these are two steps, and others may publish between them.
Nothing is published, and no version number is used, unless the snapshot could be built.
-/

namespace NestedRows

/-- What is served. -/
structure Front where
  /-- The namespace of the tables. -/
  namespaceName : String
  /-- The number of versions so far. -/
  versions : Nat := 0
  /-- The snapshot published last. -/
  current : Option Snapshot := none

namespace Front

def takeVersion (f : Front) : Nat × Front := (f.versions + 1, { f with versions := f.versions + 1 })

def replace (f : Front) (s : Snapshot) : Front := { f with current := some s }

/-- Publishes a snapshot under the next version number. -/
def publish (f : Front) (s : Snapshot) : Snapshot × Front :=
  let (version, f) := f.takeVersion
  let s := { s with version }
  (s, f.replace s)

def publishSchema (f : Front) (s : Schema) : Except FrontError Snapshot × Front :=
  match Snapshot.ofSchema s f.namespaceName with
  | .ok s =>
    let (s, f) := f.publish s
    (.ok s, f)
  | .error e => (.error e, f)

/-- Whether a schema is the one that is served already. -/
def serves (f : Front) (s : Schema) : Bool :=
  match f.current with
  | some current => current.fingerprint = s.fingerprint
  | none => false

/-- Introspects the namespace, and publishes its schema unless it is served already. -/
def rebuild (f : Front) (p : Catalog.Provider) : Except FrontError (Option Snapshot) × Front :=
  match p.introspect f.namespaceName with
  | .error e => (.error (.introspection e), f)
  | .ok tables =>
    match Schema.ofTables tables with
    | .error e => (.error (.schema e), f)
    | .ok s =>
      if f.serves s then (.ok none, f)
      else
        let (r, f) := f.publishSchema s
        (r.map some, f)

end Front

end NestedRows
