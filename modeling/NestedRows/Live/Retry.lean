import NestedRows.Live.Config
import NestedRows.Query.Error
/-!
# Trying again

A refetch that fails because the source is short of connections is tried again after a delay. The
delay is doubled each time, up to the longest duration there is, but no rest lasts longer than thirty
years. Any other outcome is final, and so is the outcome of the last try that is allowed.

Delays and times are whole milliseconds. A first delay that is no whole number of them is left out, and
so are the dates of the clock: thirty years are the limit of every rest here, whether or not the clock has
a date for the end of a longer one.
-/

namespace NestedRows

/-- The longest duration, in milliseconds: just under `2 ^ 64` seconds. -/
def longestDelay : Nat := 0xFFFFFFFFFFFFFFFF * 1000 + 999

/-- The longest rest, in milliseconds: thirty years of 365 days. -/
def longestRest : Nat := 946080000000

/-- The time at which a rest ends that is begun now with the given delay. -/
def restEnd (now delay : Nat) : Nat := now + min delay longestRest

namespace RetryPolicy

/-- The delay after the given number of earlier tries that failed: the first delay, doubled for each
of them. -/
def delay (p : RetryPolicy) : Nat → Nat
  | 0 => p.backoff
  | failures + 1 => min (2 * p.delay failures) longestDelay

/-- Whether a try is followed by another one, when the given number of tries failed before it. -/
def retries {α : Type} (p : RetryPolicy) (failures : Nat) : Except QueryError α → Bool
  | .error e => e.isExhaustion && failures < p.maxRetries
  | .ok _ => false

end RetryPolicy

end NestedRows
