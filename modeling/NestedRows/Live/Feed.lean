import NestedRows.Live.Event
import NestedRows.SortedMap
/-!
# The change feed

A feed passes every event on to all its receivers. Each receiver reads at its own pace: what it has
seen is a number, the number of events published before the next one it will read. The feed keeps
the last events only. A receiver that falls further behind is told once how many it has lost, and
goes on with the oldest event that is kept.
-/

namespace NestedRows

abbrev ReceiverId := Nat

/-- A feed with its receivers. -/
structure Feed where
  /-- The number of events that are kept. -/
  capacity : Nat
  /-- The number of events published so far. -/
  published : Nat := 0
  /-- The last events, the oldest first. -/
  kept : List ChangeEvent := []
  /-- For each receiver, the number of events that it has seen or lost. -/
  receivers : SortedMap ReceiverId Nat := ∅
  /-- The number of receivers so far. -/
  issued : ReceiverId := 0
  /-- Whether there may be further events. -/
  isOpen : Bool := true

/-- What a receiver reads. -/
inductive Notice where
  | event (e : ChangeEvent)
  /-- So many events were lost. -/
  | lagged (lost : Nat)
  deriving DecidableEq

/-- What a receiver finds when it looks at the feed. -/
inductive Reception where
  | notice (n : Notice) (feed : Feed)
  /-- Nothing yet. -/
  | empty
  /-- Nothing any more. -/
  | closed

namespace Feed

/-- A feed that keeps at least the given number of events, and at least one. The number is a power
of two. -/
def ofCapacity (n : Nat) : Feed where
  capacity := (max n 1).nextPowerOfTwo

/-- The number of events that are not kept any more. -/
def forgotten (f : Feed) : Nat := f.published - f.kept.length

/-- Adds a receiver of the events from now on. -/
def subscribe (f : Feed) : ReceiverId × Feed :=
  (f.issued, { f with
    receivers := f.receivers.insert f.issued f.published
    issued := f.issued + 1 })

def unsubscribe (f : Feed) (r : ReceiverId) : Feed := { f with receivers := f.receivers.erase r }

def receiverCount (f : Feed) : Nat := f.receivers.size

def publish (f : Feed) (e : ChangeEvent) : Feed :=
  let kept := f.kept ++ [e]
  { f with published := f.published + 1, kept := kept.drop (kept.length - f.capacity) }

/-- Ends the feed. Receivers read what they have not seen yet. -/
def close (f : Feed) : Feed := { f with isOpen := false }

/-- The number of events that a receiver has neither seen nor been told to have lost. -/
def backlog (f : Feed) (r : ReceiverId) : Nat :=
  match f.receivers.get? r with
  | none => 0
  | some seen => f.published - seen

def receive (f : Feed) (r : ReceiverId) : Reception :=
  match f.receivers.get? r with
  | none => .closed
  | some seen =>
    if seen < f.forgotten then
      .notice (.lagged (f.forgotten - seen))
        { f with receivers := f.receivers.insert r f.forgotten }
    else
      match f.kept[seen - f.forgotten]? with
      | some e => .notice (.event e) { f with receivers := f.receivers.insert r (seen + 1) }
      | none => if f.isOpen then .empty else .closed

end Feed

end NestedRows
