import NestedRows.Query.Flight
import NestedRows.SortedMap
/-!
# Scripted row sources

A scripted source answers by rules. The first rule whose pattern occurs in a statement is used up by
one and gives the answer; without a rule there are no rows. A rule may have a gate: its answer comes
when the gate lets it through. A gate has permits, each for one fetch, and the fetch that has waited
longest goes first. A gate keeps the permits that no fetch waits for, so fetches wait at a gate only
while it has none.
-/

namespace NestedRows

/-- A rule of a scripted source. -/
structure Rule where
  /-- What occurs in the statements that the rule is for. -/
  pattern : String
  /-- How many more statements the rule answers. -/
  uses : Nat := 1
  gate : Option String := none
  answer : Except QueryError (List Row)

def occursIn (pattern : List Char) : List Char → Bool
  | [] => pattern.isEmpty
  | c :: rest => pattern.isPrefixOf (c :: rest) || occursIn pattern rest

namespace Rule

def answers (r : Rule) (sql : String) : Bool :=
  0 < r.uses && occursIn r.pattern.toList sql.toList

/-- Uses the first rule that answers a statement. -/
def useFirst (sql : String) : List Rule → Option Rule × List Rule
  | [] => (none, [])
  | r :: rest =>
    if r.answers sql then (some r, { r with uses := r.uses - 1 } :: rest)
    else
      let (found, rest) := useFirst sql rest
      (found, r :: rest)

end Rule

/-- A fetch whose answer has not been taken yet. -/
structure OpenFetch where
  ticket : Ticket
  gate : Option String
  answer : Except QueryError (List Row)

/-- A scripted source. -/
structure Script where
  rules : List Rule := []
  /-- The permits that each gate keeps. -/
  permits : SortedMap String Nat := ∅
  /-- The fetches that wait at a gate, the oldest first. -/
  waiting : List OpenFetch := []
  /-- The fetches whose answers have come, in the order in which they came. -/
  arrived : List OpenFetch := []
  /-- The number of fetches so far. -/
  issued : Ticket := 0
  /-- The statements fetched since the log was last cleared. -/
  log : List String := []

namespace Script

def permitsOf (s : Script) (gate : String) : Nat := (s.permits.get? gate).getD 0

def addRule (s : Script) (r : Rule) : Script := { s with rules := s.rules ++ [r] }

/-- Adds permits to a gate. The fetches that have waited there longest are let through, and the
permits that are left are kept. -/
def addPermits (s : Script) (gate : String) (n : Nat) : Script :=
  let through := (s.waiting.filter (·.gate = some gate)).take n
  { s with
    waiting := s.waiting.filter fun f => !(through.map (·.ticket)).contains f.ticket
    arrived := s.arrived ++ through
    permits := s.permits.insert gate (s.permitsOf gate + (n - through.length)) }

/-- Places a new fetch: its answer comes at once, if it has no gate or the gate keeps a permit. -/
def place (s : Script) (f : OpenFetch) : Script :=
  match f.gate with
  | none => { s with arrived := s.arrived ++ [f] }
  | some gate =>
    match s.permitsOf gate with
    | 0 => { s with waiting := s.waiting ++ [f] }
    | n + 1 => { s with arrived := s.arrived ++ [f], permits := s.permits.insert gate n }

/-- Begins a fetch; the rule is used now, whenever the answer comes. -/
def start (sql : String) (s : Script) : Ticket × Script :=
  let (found, rules) := Rule.useFirst sql s.rules
  let opened : OpenFetch :=
    match found with
    | some r => ⟨s.issued, r.gate, r.answer⟩
    | none => ⟨s.issued, none, .ok []⟩
  (s.issued, { s with rules, issued := s.issued + 1, log := s.log ++ [sql] }.place opened)

/-- Takes the answer of a fetch, if it has come. -/
def take? (t : Ticket) (s : Script) : Option (Except QueryError (List Row) × Script) :=
  (s.arrived.find? (·.ticket = t)).map fun f =>
    (f.answer, { s with arrived := s.arrived.filter (·.ticket ≠ t) })

/-- Gives a fetch up. A permit that was meant for it goes back to the gate. -/
def abandon (t : Ticket) (s : Script) : Script :=
  match s.arrived.find? (·.ticket = t) with
  | none => { s with waiting := s.waiting.filter (·.ticket ≠ t) }
  | some f =>
    let s := { s with arrived := s.arrived.filter (·.ticket ≠ t) }
    match f.gate with
    | none => s
    | some gate => s.addPermits gate 1

def source : DeferredSource Script where
  start sql _ := start sql
  arrived s := s.arrived.map (·.ticket)
  take? := take?
  abandon := abandon

end Script

end NestedRows
