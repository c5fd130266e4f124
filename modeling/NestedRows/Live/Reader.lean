import NestedRows.Live.Envelope
/-!
# Attached sources

A reader passes the events of one source on to the feed. An embedded source is written to by the
same program and holds a bounded number of events. A broker source reads the topics of some tables;
a message that holds no event, or that cannot be read, is skipped without harm to its neighbours.
A reader ends with its source, or when the channel to its source is closed. A reader that has much to
read lets others go on from time to time.
-/

namespace NestedRows

/-- What a reader does with what its source answers. -/
inductive ReaderAction where
  | publish (e : ChangeEvent)
  | skip
  | stop
  deriving DecidableEq

def ReaderAction.ofAnswer : Except FeedError (Option ChangeEvent) → ReaderAction
  | .ok (some e) => .publish e
  | .ok none => .skip
  | .error .channelClosed => .stop
  | .error _ => .skip

/-- The number of events or messages after which a reader lets others go on. -/
def readerTurn : Nat := 128

/-! ### Embedded sources -/

/-- A source that the program itself writes to. -/
structure EmbeddedSource where
  /-- The source named in the events. -/
  name : String
  /-- The number of events that wait for the reader. -/
  capacity : Nat
  queue : List ChangeEvent := []
  /-- Whether there may be further events. -/
  hasWriter : Bool := true
  /-- Whether the reader is still there. -/
  isRead : Bool := true

namespace EmbeddedSource

/-- A source with room for the given number of events, and for at least one. -/
def ofCapacity (name : String) (n : Nat) : EmbeddedSource where
  name
  capacity := max n 1

/-- Whether an event can be written before the reader has its turn. -/
def hasRoom (s : EmbeddedSource) : Bool := s.queue.length < min s.capacity readerTurn

def emit (s : EmbeddedSource) (t : TableId) (kind : ChangeKind) :
    Except FeedError EmbeddedSource :=
  if s.isRead then .ok { s with queue := s.queue ++ [⟨s.name, t, kind⟩] }
  else .error .channelClosed

/-- The next step of the reader; none while it has to wait. -/
def step? (s : EmbeddedSource) : Option (ReaderAction × EmbeddedSource) :=
  if s.isRead then
    match s.queue with
    | e :: rest => some (.publish e, { s with queue := rest })
    | [] => if s.hasWriter then none else some (.stop, { s with isRead := false })
  else none

/-- The reader is aborted, and what it has not read is lost. -/
def abort (s : EmbeddedSource) : EmbeddedSource := { s with queue := [], isRead := false }

end EmbeddedSource

/-! ### Broker sources -/

/-- What the consumer of a broker hands over when it is polled. -/
inductive Delivery where
  | message (m : BrokerMessage)
  /-- Polling failed. -/
  | failure (e : FeedError)

def Delivery.action : Delivery → ReaderAction
  | message m => .ofAnswer m.decode
  | failure e => .ofAnswer (.error e)

/-- A source that reads topics of a broker. -/
structure BrokerSource where
  topics : List String
  /-- The topics of each subscription made so far. -/
  subscriptions : List (List String) := []
  /-- What the consumer is still to hand over. -/
  inbox : List Delivery := []
  /-- Whether there may be further deliveries. -/
  isOpen : Bool := true
  /-- Whether the reader is still there. -/
  isRead : Bool := true

namespace BrokerSource

/-- The source for the topics of some tables. -/
def ofTables (name : String) (tables : List TableId) : BrokerSource where
  topics := tables.map (topicName name)

/-- The next step of the reader: it subscribes to all topics before it polls. None while it has to
wait. -/
def step? (s : BrokerSource) : Option (ReaderAction × BrokerSource) :=
  if s.isRead then
    if s.subscriptions.isEmpty then some (.skip, { s with subscriptions := [s.topics] })
    else
      match s.inbox with
      | d :: rest =>
        match d.action with
        | .stop => some (.stop, { s with inbox := [], isRead := false })
        | action => some (action, { s with inbox := rest })
      | [] => if s.isOpen then none else some (.stop, { s with isRead := false })
  else none

/-- Whether the reader is there to see a delivery. -/
def isHeard (s : BrokerSource) : Bool := s.isRead && s.isOpen

def queue (s : BrokerSource) (d : Delivery) : BrokerSource :=
  if s.isHeard then { s with inbox := s.inbox ++ [d] } else s

/-- Whether a delivery can be queued before the reader has its turn. -/
def hasRoom (s : BrokerSource) : Bool := s.inbox.length < readerTurn

/-- The reader is aborted, and what it has not read is lost. -/
def abort (s : BrokerSource) : BrokerSource := { s with inbox := [], isRead := false }

end BrokerSource

/-- An attached source with its reader. -/
inductive AttachedSource where
  | embedded (s : EmbeddedSource)
  | broker (s : BrokerSource)

namespace AttachedSource

/-- The next step of the reader; none while it has to wait. -/
def step? : AttachedSource → Option (ReaderAction × AttachedSource)
  | embedded s => s.step?.map fun (action, s) => (action, embedded s)
  | broker s => s.step?.map fun (action, s) => (action, broker s)

end AttachedSource

end NestedRows
