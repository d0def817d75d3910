/-
One lookup at an L2 adapter (`kareserve/lmcache_server.py`,
`_lookup_l2_adapter`) beside the adapter that serves it.

# The adapter

It completes the submitted task at any time or never, with any bitmap, and
from then on holds a lock on each key that is hit. What completes after
the coroutine has ended is locked as well.

# The coroutine

It suspends in `asyncio.sleep` only, where it can be cancelled. The
adapter runs on its own threads, so the task may complete between any two
steps of the coroutine.
-/
import Kareserve.Lib.Run
import Kareserve.Gateway.Bridge

namespace Kareserve

/-- Where the coroutine is. -/
inductive L2Phase where
  /-- At the condition of the loop. -/
  | checking
  /-- Before `query_lookup_and_lock_result`. -/
  | querying
  | sleeping
  | returned (bits : List Bool)
  | timedOut
  | cancelled
  deriving DecidableEq

/-- A lookup and its task. -/
structure L2Lookup (Key : Type) where
  keys : List Key
  deadline : ℚ
  /-- The last reading of `monotonic`. -/
  now : ℚ
  phase : L2Phase
  /-- The bitmap the task was completed with. -/
  bitmap : Option (ℕ → Bool)
  /-- The keys passed to `submit_unlock`. -/
  unlocked : List Key

inductive L2Event where
  /-- The adapter completes the task. -/
  | complete (test : ℕ → Bool)
  /-- The condition of the loop, with what `monotonic` reads. -/
  | check (now : ℚ)
  | query
  | wake
  | cancel

/-- `[bool(bitmap.test(index)) for index in range(len(keys))]`. -/
def hitBits {Key : Type} (keys : List Key) (test : ℕ → Bool) : List Bool :=
  (List.range keys.length).map test

/-- `hit_keys`. -/
def hitKeys {Key : Type} (keys : List Key) (bits : List Bool) : List Key :=
  ((keys.zip bits).filter fun p => p.2).map fun p => p.1

namespace L2Lookup

variable {Key : Type}

/-- After `submit_lookup_and_lock_task`. -/
def start (keys : List Key) (now timeoutSeconds : ℚ) : L2Lookup Key where
  keys
  deadline := now + timeoutSeconds
  now
  phase := .checking
  bitmap := none
  unlocked := []

/-- What follows the loop, once there is a bitmap. -/
def finish (s : L2Lookup Key) (test : ℕ → Bool) : L2Lookup Key :=
  let bits := hitBits s.keys test
  { s with
    phase := .returned bits
    unlocked := s.unlocked ++ hitKeys s.keys bits }

/-- One event, where it can happen. -/
def step (s : L2Lookup Key) (event : L2Event) : Option (L2Lookup Key) :=
  match event, s.phase with
  | .complete test, _ =>
      if s.bitmap.isNone then some { s with bitmap := some test } else none
  | .check now, .checking =>
      if s.now ≤ now then
        some { s with
          now
          phase := if now < s.deadline then .querying else .timedOut }
      else none
  | .query, .querying =>
      match s.bitmap with
      | none => some { s with phase := .sleeping }
      | some test => some (s.finish test)
  | .wake, .sleeping => some { s with phase := .checking }
  | .cancel, .sleeping => some { s with phase := .cancelled }
  | _, _ => none

/-- The keys the task has locked. -/
def locked (s : L2Lookup Key) : List Key :=
  match s.bitmap with
  | none => []
  | some test => hitKeys s.keys (hitBits s.keys test)

end L2Lookup

end Kareserve
