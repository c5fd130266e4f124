import NestedRows.Session.Serving
/-!
# Subscribing

The live queries of a session, each known by a name. A name that is used again stands for the new
live query, and the subscriber of the old one leaves.
-/

namespace NestedRows.Session

def leave (s : Session) (id : LiveQueryId) : Session := { s with live := s.live.leave id }

/-- Starts a live query against the current snapshot; none if nothing is published. -/
def subscribe (s : Session) (name : String) (selection : Selection) :
    Option (Except QueryError CompiledQuery × Session) :=
  s.front.current.map fun snapshot =>
    match snapshot.prepare selection with
    | .error e => (.error e, s)
    | .ok query =>
      let (id, live) := s.live.subscribe query snapshot.namespaceName
      let s :=
        match s.liveIds.get? name with
        | some old => { s with live }.leave old
        | none => { s with live }
      (.ok query, ({ s with liveIds := s.liveIds.insert name id }.spawn (.live id)).settle)

/-- The live query of a name, while its subscriber is there. -/
def attended? (s : Session) (name : String) : Option (LiveQueryId × LiveQuery) := do
  let id ← s.liveIds.get? name
  let q ← s.live.tasks.get? id
  guard q.hasSubscriber
  return (id, q)

/-- What a subscriber finds. -/
inductive Pickup where
  | update (u : Update)
  /-- Nothing yet. -/
  | empty
  /-- Nothing any more. -/
  | closed

/-- The subscriber takes the oldest update; none if there is no subscriber. -/
def next (s : Session) (name : String) : Option (Pickup × Session) :=
  (s.attended? name).map fun (id, q) =>
    match s.live.take? id with
    | some (u, live) => (.update u, { s with live }.settle)
    | none => (if q.hasStopped then .closed else .empty, s.settle)

/-- The subscriber takes all updates; none if there is no subscriber. -/
def drain (s : Session) (name : String) : Option (List Update × Session) :=
  (s.attended? name).map fun (id, _) =>
    let (updates, live) := s.live.takeAll id
    (updates, { s with live }.settle)

def drop (s : Session) (name : String) : Bool × Session :=
  match s.attended? name with
  | some (id, _) => (true, (s.leave id).settle)
  | none => (false, s)

/-- Cancels a live query; whether it was registered. All tasks wait, so that of the live query ends
without another step. -/
def cancel (s : Session) (name : String) : Bool × Session :=
  match s.liveIds.get? name with
  | none => (false, s)
  | some id =>
    let (found, live) := s.live.cancel id
    let (live, script) := live.abort Script.source id s.script
    (found, { s with live, script }.settle)

def isActive (s : Session) (name : String) : Bool :=
  match s.liveIds.get? name with
  | none => false
  | some id => s.live.isActive id

/-- Whether the tables that a live query watches are known. -/
def isWatching (s : Session) (name : String) : Bool :=
  match s.liveIds.get? name with
  | none => false
  | some id => (s.live.tables? id).isSome

end NestedRows.Session
