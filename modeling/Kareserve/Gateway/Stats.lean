/-
What the router tells about itself: the counters of `RequestPool`
(`kareserve/request_pool.py`) and `RoutePlanner` (`kareserve/routing.py`),
their `stats` with that of the queue estimator
(`kareserve/performance.py`), and `GET /health` (`kareserve/server.py`).

# Beside the router process

Nothing but `stats` reads the counters, so they are kept beside the process
of Gateway/App.lean: `Monitored.step` takes its steps, and counts what
`plan` and the loop of `_run` count on the way.
-/
import Mathlib.Data.String.Basic
import Kareserve.Gateway.App

namespace Kareserve

-- ======================================================= the estimator

namespace Policy

/-- `name`. -/
def name : Policy → String
  | .tieredCompletionTime _ => "tiered_completion_time"
  | .gpuPrefixLoad _ => "gpu_prefix_load"
  | .roundRobin _ => "round_robin"
  | .prefixHash _ => "prefix_hash"
  | .leastLoad _ => "least_load"

end Policy

-- ======================================================== the counters

/-- The counters of `RequestPool`. -/
structure PoolCounters where
  totalGroups : ℕ := 0
  totalRequests : ℕ := 0
  largestGroup : ℕ := 0

/-- A group whose plan went through. -/
def PoolCounters.served (c : PoolCounters) (group : List SchedulerRequest) :
    PoolCounters where
  totalGroups := c.totalGroups + 1
  totalRequests := c.totalRequests + group.length
  largestGroup := max c.largestGroup group.length

/-- The counters of `RoutePlanner`. -/
structure PlannerCounters where
  totalRequests : ℕ := 0
  totalPlans : ℕ := 0
  failedRequests : ℕ := 0

/-- A plan that came to its assignments, and lacks some. -/
def PlannerCounters.planned (c : PlannerCounters)
    (group missing : List SchedulerRequest) : PlannerCounters where
  totalRequests := c.totalRequests + group.length
  totalPlans := c.totalPlans + 1
  failedRequests := c.failedRequests + missing.length

/-- The router process with its counters. -/
structure Monitored where
  app : App
  pool : PoolCounters := {}
  planner : PlannerCounters := {}

namespace Monitored

-- =============================================================== stats

/-- What is counted on the way to the next await. -/
def count (blake2b : List UInt8 → List UInt8) (m : Monitored) :
    AppEvent → Monitored
  | .lookupReturned found =>
      match m.app.requestPool.worker with
      | .planning group =>
          match (m.app.routePlanner.selectOrRaise blake2b group found).2 with
          | .error _ => m
          | .ok assignments =>
              let missing := group.filter fun request =>
                (assignments.get request.requestId).isNone
              { m with
                planner := m.planner.planned group missing
                pool := if missing ≠ [] then m.pool else m.pool.served group }
      | _ => m
  | _ => m

/-- A step of the process, counted. -/
def step (blake2b : List UInt8 → List UInt8)
    (decode : Bytes → Option RawMapEventBatch)
    (loads : Bytes → Except LoadsError PyJson.Json)
    (replayEndpoint : NodeId → Bool) (m : Monitored) (event : AppEvent) :
    Option Monitored :=
  (m.app.step blake2b decode loads replayEndpoint event).map fun app =>
    { m.count blake2b event with app }

end Monitored

end Kareserve
