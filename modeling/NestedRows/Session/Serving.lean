import NestedRows.Session.Schedule
/-!
# Publishing and answering

Publications, snapshots and requests of a session. A request that finds no snapshot waits for the
first publication.
-/

namespace NestedRows.Session

/-- A session of a front with nothing published yet. -/
def start (namespaceName : String) (dialect : Dialect) (config : LiveConfig) : Session where
  dialect
  front := { namespaceName }
  live := .ofConfig config

/-! ### The script -/

def respond (s : Session) (r : Rule) : Session := { s with script := s.script.addRule r }.settle

def openGate (s : Session) (gate : String) (n : Nat) : Session :=
  { s with script := s.script.addPermits gate n }.settle

def advance (s : Session) (ms : Nat) : Session := s.runUntil (s.now + ms)

/-- The fetches after the first `n`, by time and then by text. -/
def fetchesSince (s : Session) (n : Nat) : List (Nat × String) :=
  (s.log.drop n).mergeSort fun a b => ((compare a.1 b.1).then (compare a.2 b.2)).isLE

/-! ### Publications -/

def publish (s : Session) (schema : Schema) : Except FrontError Snapshot × Session :=
  let (r, front) := s.front.publishSchema schema
  (r, { s with front }.settle)

/-- Publishes what a provider describes, if it is not served already. -/
def rebuild (s : Session) (p : Catalog.Provider) : Except FrontError (Option Snapshot) × Session :=
  let (r, front) := s.front.rebuild p
  (r, { s with front }.settle)

/-- Keeps the current snapshot under a name, if there is one. -/
def hold (s : Session) (name : String) : Option (Snapshot × Session) :=
  s.front.current.map fun snapshot =>
    (snapshot, { s with held := s.held.insert name snapshot })

/-- Compiles a selection against a snapshot that was kept. -/
def prepare? (s : Session) (name : String) (selection : Selection) :
    Option (Except QueryError CompiledQuery) :=
  (s.held.get? name).map fun snapshot => snapshot.prepare selection

/-! ### Requests -/

def request (s : Session) (name : String) (r : Request) : Session :=
  let id := s.requests.size
  ({ s with
    requests := s.requests.insert id r
    requestIds := s.requestIds.insert name id }.spawn (.request id)).settle

def request? (s : Session) (name : String) : Option Request := do
  let id ← s.requestIds.get? name
  s.requests.get? id

end NestedRows.Session
