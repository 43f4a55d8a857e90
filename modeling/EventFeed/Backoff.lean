import EventFeed.Settings

/-!
# Backoff

How long to wait before the next attempt: a table of delays, indexed by the attempt. The attempt is
held at a largest number and then at the end of the table, so the feed keeps trying at the longest
delay for as long as it runs.
-/

namespace EventFeed

/-- The delays before attempts. -/
structure Backoff where
  schedule : List Duration
  maxRetries : UInt32
  deriving DecidableEq, Repr

namespace Backoff

/-- The delays of some settings. -/
def ofSettings (settings : Settings) : Backoff where
  schedule := settings.backoffSchedule
  maxRetries := settings.maxRetries

/-- The place in the table that an attempt is held at. -/
def index (backoff : Backoff) (attempt : UInt32) : Nat :=
  min (min attempt.toNat backoff.maxRetries.toNat) (backoff.schedule.length - 1)

/-- The delay after `attempt` failures in a row; nothing for an empty table. -/
def delayFor (backoff : Backoff) (attempt : UInt32) : Duration :=
  backoff.schedule.getD (backoff.index attempt) .zero

/-- The largest number of an attempt. -/
def lastAttempt : UInt32 := 4294967295

/-- The number of the attempt after one more failure. -/
def nextAttempt (backoff : Backoff) (attempt : UInt32) : UInt32 :=
  min (if attempt = lastAttempt then attempt else attempt + 1) backoff.maxRetries

end Backoff

/-- The number of failures in a row. -/
structure RetryState where
  attempt : UInt32 := 0
  deriving DecidableEq, Repr

/-- Start counting again. -/
def RetryState.reset (_ : RetryState) : RetryState := {}

end EventFeed
