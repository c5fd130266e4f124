import NestedRows.Session.Serving
/-!
# Feeding

What reaches the feed of a session, and who else reads it: events published at once, embedded and
broker sources with their readers, and plain receivers. All are known by names, and one name may
stand for a source of either kind and a receiver. A name that is used again for the same kind stands
for the new one, and the old one is closed.
-/

namespace NestedRows.Session

/-! ### Events and receivers -/

/-- Publishes events one after the other before any task goes on. Each is counted with the number
of its receivers. -/
def publishEvents (s : Session) (events : List ChangeEvent) : List Nat × Session :=
  let (counts, live) := events.foldl (fun (counts, live) e =>
    let (n, live) := live.publish e
    (counts ++ [n], live)) ([], s.live)
  (counts, { s with live }.settle)

def unlisten (s : Session) (name : String) : Bool × Session :=
  match s.receiverIds.get? name with
  | none => (false, s)
  | some r => (true, { s with
      live := { s.live with feed := s.live.feed.unsubscribe r }
      receiverIds := s.receiverIds.erase name })

def listen (s : Session) (name : String) : Session :=
  let (_, s) := s.unlisten name
  let (r, feed) := s.live.feed.subscribe
  { s with live := { s.live with feed }, receiverIds := s.receiverIds.insert name r }

/-- Reads at most `n` notices of a receiver. -/
def readNotices (r : ReceiverId) : Nat → Feed → List Notice × Feed
  | 0, feed => ([], feed)
  | n + 1, feed =>
    match feed.receive r with
    | .notice notice feed =>
      let (rest, feed) := readNotices r n feed
      (notice :: rest, feed)
    | .empty | .closed => ([], feed)

/-- A receiver reads all that there is for it; none if there is no receiver. -/
def received (s : Session) (name : String) : Option (List Notice × Session) :=
  (s.receiverIds.get? name).map fun r =>
    let (notices, feed) := readNotices r (s.live.feed.backlog r + 1) s.live.feed
    (notices, { s with live := { s.live with feed } })

/-! ### Attached sources -/

def embedded? (s : Session) (name : String) : Option (Nat × EmbeddedSource) := do
  let id ← s.embeddedIds.get? name
  match ← s.sources.get? id with
  | .embedded e => some (id, e)
  | .broker _ => none

def broker? (s : Session) (name : String) : Option (Nat × BrokerSource) := do
  let id ← s.brokerIds.get? name
  match ← s.sources.get? id with
  | .embedded _ => none
  | .broker b => some (id, b)

def putSource (s : Session) (id : Nat) (source : AttachedSource) : Session :=
  { s with sources := s.sources.insert id source }

/-- Nothing further is written to an embedded source. -/
def dropWriter (s : Session) (name : String) : Session :=
  match s.embedded? name with
  | some (id, e) => s.putSource id (.embedded { e with hasWriter := false })
  | none => s

def shutBroker (s : Session) (name : String) : Session :=
  match s.broker? name with
  | some (id, b) => s.putSource id (.broker { b with isOpen := false })
  | none => s

/-- Nothing further is written to an embedded source, and its reader sees it. -/
def closeEmbedded (s : Session) (name : String) : Session := (s.dropWriter name).settle

/-- Nothing further comes from a broker source, and its reader sees it. -/
def closeBroker (s : Session) (name : String) : Session := (s.shutBroker name).settle

/-- Attaches a source that the session writes to. -/
def attachEmbedded (s : Session) (name : String) (buffer : Nat) : Session :=
  let s := s.dropWriter name
  let id := s.sources.size
  ({ s.putSource id (.embedded (.ofCapacity s.live.config.sourceName buffer)) with
    embeddedIds := s.embeddedIds.insert name id }.spawn (.reader id)).settle

/-- Attaches a source that reads the topics of some tables. -/
def attachBroker (s : Session) (name : String) (tables : List TableId) : Session :=
  let s := s.shutBroker name
  let id := s.sources.size
  ({ s.putSource id (.broker (.ofTables s.live.config.sourceName tables)) with
    brokerIds := s.brokerIds.insert name id }.spawn (.reader id)).settle

/-- Whether the reader of an embedded source has ended. -/
def embeddedIsDone (s : Session) (name : String) : Bool :=
  match s.embedded? name with
  | some (_, e) => !e.isRead
  | none => true

/-- Whether the reader of a broker source has ended. -/
def brokerIsDone (s : Session) (name : String) : Bool :=
  match s.broker? name with
  | some (_, b) => !b.isRead
  | none => true

/-- Aborts the reader of the embedded source of a name, or of the broker source if there is no
embedded one; whether it has ended. -/
def stopReader (s : Session) (name : String) : Bool × Session :=
  match s.embedded? name, s.broker? name with
  | some (id, e), _ =>
    let s := (s.putSource id (.embedded e.abort)).settle
    (s.embeddedIsDone name, s)
  | none, some (id, b) =>
    let s := (s.putSource id (.broker b.abort)).settle
    (s.brokerIsDone name, s)
  | none, none => (true, s)

/-- Lets the reader of an embedded source go on if there is no room for another event. -/
def makeEmbeddedRoom (s : Session) (name : String) : Session :=
  match s.embedded? name with
  | some (_, e) => if e.hasRoom then s else s.settle
  | none => s

/-- Writes an event to an embedded source, as soon as there is room. -/
def emit (s : Session) (name : String) (t : TableId) (kind : ChangeKind) :
    Except FeedError Unit × Session :=
  let s := s.makeEmbeddedRoom name
  match s.embedded? name with
  | none => (.error .channelClosed, s)
  | some (id, e) =>
    match e.emit t kind with
    | .ok e => (.ok (), s.putSource id (.embedded e))
    | .error err => (.error err, s)

/-- Writes events to an embedded source, one after the other. -/
def emitAll (s : Session) (name : String) (events : List (TableId × ChangeKind)) :
    List (Except FeedError Unit) × Session :=
  let (outcomes, s) := events.foldl (fun (outcomes, s) (t, kind) =>
    let (outcome, s) := emit s name t kind
    (outcomes ++ [outcome], s)) ([], s)
  (outcomes, s.settle)

/-- Lets the reader of a broker source go on if there is no room for another delivery. -/
def makeBrokerRoom (s : Session) (name : String) : Session :=
  match s.broker? name with
  | some (_, b) => if b.hasRoom then s else s.settle
  | none => s

def deliver (s : Session) (name : String) (d : Delivery) : Session :=
  let s := s.makeBrokerRoom name
  match s.broker? name with
  | some (id, b) => s.putSource id (.broker (b.queue d))
  | none => s

/-- Queues deliveries for a broker source; for each, whether the reader was there to see it. -/
def deliverAll (s : Session) (name : String) (deliveries : List Delivery) : List Bool × Session :=
  let heard := (s.broker? name).any fun (_, b) => b.isHeard
  (deliveries.map fun _ => heard, (deliveries.foldl (fun s d => deliver s name d) s).settle)

/-- The subscriptions that a broker source has made. -/
def subscriptions (s : Session) (name : String) : List (List String) :=
  match s.broker? name with
  | some (_, b) => b.subscriptions
  | none => []

end NestedRows.Session
