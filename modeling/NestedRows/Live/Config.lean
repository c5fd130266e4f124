/-!
# How live queries work

The sizes of the buffers, whether events are answered one by one, and what happens when a refetch
fails for want of a connection.
-/

namespace NestedRows

/-- How often a failing refetch is tried again; the first delay is doubled each time. -/
structure RetryPolicy where
  maxRetries : Nat := 3
  /-- In whole milliseconds, the finest unit that settings have. -/
  backoff : Nat := 250
  deriving DecidableEq

/-- How live queries work. -/
structure LiveConfig where
  /-- The number of events that the feed keeps for its receivers. -/
  channelCapacity : Nat := 1024
  /-- The number of deliveries that wait for a subscriber. -/
  subscriberBuffer : Nat := 16
  /-- Whether events that are already there are answered with one refetch. -/
  coalesceEvents : Bool := true
  retry : RetryPolicy := {}
  /-- The source named in the topics of attached sources. -/
  sourceName : String := "rowgraph"
  deriving DecidableEq

end NestedRows
