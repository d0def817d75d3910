/-
The request pool (`kareserve/request_pool.py`) and the end of a planning
call (`kareserve/routing.py`) as a state machine.

# Where it can be interrupted

The worker suspends in `queue.get()`, in `sleep(0)` and, inside `plan`,
in the cache lookup; from there to the last `set_result` it does not.
`queue.put()` never suspends, as the queue has no bound. `assign`
therefore runs in one piece up to `await future`, and the worker in
three: `get`, `collect` and `planned` or `planFailed`. A caller's task
can be cancelled between any two of these.

# What the pool does to the tracker

It only ever calls `reserve_route` and `release_route`. The calls are
kept in order, each with the id of the request it is for; what they do
to the load counters is the ledger's matter (Tracker/Proofs/Load.lean).

# Not here

The counters behind `stats`, the timing figures of a result, and how a
policy chooses: a planning call is given its assignments.
-/
import Kareserve.Lib.Run
import Kareserve.Lib.Future
import Kareserve.Tracker.Proofs.Load

namespace Kareserve

-- ============================================================= planning

/-- `AssignmentResult`. -/
structure AssignmentResult where
  assignment : RouteAssignment
  planningGroupSize : ℕ
  deriving DecidableEq

def AssignmentResult.node (r : AssignmentResult) : NodeRoutingState :=
  r.assignment.candidate.node

def AssignmentResult.inflightWork (r : AssignmentResult) : ℚ :=
  r.assignment.inflightWork

/-- The reservation `plan` makes for an assignment. -/
def RouteAssignment.reserveCall (a : RouteAssignment) : RouteCall :=
  .reserve a.candidate.node.nodeId a.inflightWork

/-- The release the pool makes for a cancelled request. -/
def RouteAssignment.releaseCall (a : RouteAssignment) : RouteCall :=
  .release a.candidate.node.nodeId a.inflightWork

/-- `plan`, from where `select_batch` has returned: the reservations and
the results. -/
def commitPlan (requests : List SchedulerRequest)
    (assignments : PyDict RequestId RouteAssignment) :
    Except PyException
      (List (RequestId × RouteCall) × PyDict RequestId AssignmentResult) :=
  let missing := requests.filter fun request =>
    (assignments.get request.requestId).isNone
  if missing ≠ [] then
    .error ⟨"RuntimeError", "No available vLLM server"⟩
  else
    .ok (assignments.items.map fun p => (p.1, p.2.reserveCall),
      .ofList (requests.filterMap fun request =>
        (assignments.get request.requestId).map fun assignment =>
          (request.requestId, ⟨assignment, requests.length⟩)))

/-- An assignment to node `a`, for concrete runs. -/
def assignmentOnA (requestId : RequestId) (inflightWork : ℚ) :
    RouteAssignment where
  candidate :=
    { requestId
      node := (NodeEntry.fresh
        { nodeId := "a", cacheDomainId := "d" }).routingState .healthy
      prefixMatch := { promptTokens := 0 }
      requiredNewGpuBlocks := none }
  inflightWork
  estimatedCost := inflightWork

-- ================================================================ state

/-- A caller of `assign`: its future and its task. -/
abbrev Caller := Asyncio.Waiter AssignmentResult PyException

/-- The await the worker is suspended in, with the locals alive across
it. -/
inductive Worker where
  /-- `_task is None`. -/
  | stopped
  /-- Cancelled by `stop`, and not yet gone. -/
  | stopping
  | waiting
  | yielded (first : SchedulerRequest)
  | planning (group : List SchedulerRequest)
  deriving DecidableEq

/-- `RequestPool`. A pending request's future is found under the
request's id. -/
structure RequestPool where
  maxPlanningGroupSize : ℕ
  queue : List SchedulerRequest
  worker : Worker
  callers : PyDict RequestId Caller
  calls : List (RequestId × RouteCall)

inductive PoolEvent where
  /-- `assign` is called, and runs up to its await. -/
  | assign (request : SchedulerRequest)
  /-- A caller's task is cancelled while it awaits the future. -/
  | cancel (requestId : RequestId)
  /-- A caller's task runs on. -/
  | resume (requestId : RequestId)
  /-- `queue.get()` returns. -/
  | get
  /-- `sleep(0)` returns: the group is filled up and `plan` called. -/
  | collect
  /-- The lookup returned and the policy chose. -/
  | planned (assignments : PyDict RequestId RouteAssignment)
  /-- The lookup or the policy raised. -/
  | planFailed (error : PyException)
  | stop
  | stopped

namespace RequestPool

/-- `__init__`. -/
def init (maxPlanningGroupSize : ℤ) : RequestPool where
  maxPlanningGroupSize := (max 1 maxPlanningGroupSize).toNat
  queue := []
  worker := .stopped
  callers := .empty
  calls := []

-- ================================================================ steps

/-- `assign`, up to its await. -/
def assign (pool : RequestPool) (request : SchedulerRequest) : RequestPool :=
  { pool with
    worker := if pool.worker = .stopped then .waiting else pool.worker
    queue := pool.queue ++ [request]
    callers := pool.callers.set request.requestId .start }

/-- An operation on one caller, where it is enabled. -/
def onCaller (pool : RequestPool) (requestId : RequestId)
    (f : Caller → Option Caller) : Option RequestPool :=
  (pool.callers.get requestId).bind fun caller =>
    (f caller).map fun caller' =>
      { pool with callers := pool.callers.set requestId caller' }

/-- The body of the loop of `_run` over the planned group; `none` stands
for an `InvalidStateError` that leaves `_run`. -/
def handOutOne (results : PyDict RequestId AssignmentResult)
    (pool : RequestPool) (request : SchedulerRequest) : Option RequestPool :=
  (pool.callers.get request.requestId).bind fun caller =>
    (results.get request.requestId).bind fun result =>
      if caller.future = .cancelled then
        some { pool with
          calls := pool.calls
            ++ [(request.requestId, result.assignment.releaseCall)] }
      else
        (caller.setResult result).map fun caller' =>
          { pool with callers := pool.callers.set request.requestId caller' }

/-- The loop of `_run` over the planned group. -/
def handOut (results : PyDict RequestId AssignmentResult) :
    RequestPool → List SchedulerRequest → Option RequestPool
  | pool, [] => some pool
  | pool, request :: group =>
      (pool.handOutOne results request).bind fun pool' =>
        handOut results pool' group

/-- The body of the loop of `_run` over a group whose plan failed. -/
def failOne (error : PyException) (pool : RequestPool)
    (request : SchedulerRequest) : RequestPool :=
  match pool.callers.get request.requestId with
  | none => pool
  | some caller =>
      { pool with
        callers := pool.callers.set request.requestId
          (caller.failIfPending error) }

/-- The `except` branch of `_run`. -/
def fail (error : PyException) (group : List SchedulerRequest)
    (pool : RequestPool) : RequestPool :=
  group.foldl (failOne error) pool

/-- One event, where it can happen. Request ids are fresh, and a policy
chooses for requests it was given. -/
def step (pool : RequestPool) : PoolEvent → Option RequestPool
  | .assign request =>
      if (pool.callers.get request.requestId).isNone then
        some (pool.assign request)
      else none
  | .cancel requestId => pool.onCaller requestId (·.cancel)
  | .resume requestId => pool.onCaller requestId (·.resume)
  | .get =>
      match pool.worker, pool.queue with
      | .waiting, first :: queue =>
          some { pool with worker := .yielded first, queue := queue }
      | _, _ => none
  | .collect =>
      match pool.worker with
      | .yielded first =>
          let size := pool.maxPlanningGroupSize - 1
          some { pool with
            worker := .planning (first :: pool.queue.take size)
            queue := pool.queue.drop size }
      | _ => none
  | .planned assignments =>
      match pool.worker with
      | .planning group =>
          if ∀ requestId ∈ assignments.keys,
              requestId ∈ group.map (·.requestId) then
            match commitPlan group assignments with
            | .error error =>
                some { pool.fail error group with worker := .waiting }
            | .ok (calls, results) =>
                handOut results { pool with
                  worker := .waiting, calls := pool.calls ++ calls } group
          else none
      | _ => none
  | .planFailed error =>
      match pool.worker with
      | .planning group =>
          some { pool.fail error group with worker := .waiting }
      | _ => none
  | .stop =>
      if pool.worker = .stopped then none
      else some { pool with worker := .stopping }
  | .stopped =>
      if pool.worker = .stopping then some { pool with worker := .stopped }
      else none

end RequestPool

end Kareserve
