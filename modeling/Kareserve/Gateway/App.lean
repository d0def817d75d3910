/-
The router process: what `lifespan` keeps in `app.state`
(`kareserve/server.py`), with the handlers that use it, as one machine.

# One event loop

The listeners, the polls, the request pool and the handlers are tasks on
one loop, so between two awaits only one of them runs. An event is what
one await returns or raises, and `App.step` is what its task does up to
its next await. The parts are those of the other modules: the listeners of
Tracker/Listen.lean, the pool of Gateway/Pool.lean, the planner of
Gateway/Planner.lean, the exchanges of Gateway/Completion.lean and the
detector of Gateway/Stream.lean. What they share is the tracker and the
policy.

# What crosses from part to part

`plan` chooses with the policy from the candidates of the tracker as it is
then, or raises where a number is too large (`planGroup`). What it reserves,
and what the hand-out releases again, is done to the tracker (`poolStep`). A
caller that returns from `assign` goes on to its exchange (`afterAssign`),
which at its end trains the policy and releases (`finish`).

# Events from outside

A poll may find any figures (`PollFigures`), a lookup may return anything,
and nothing is assumed of the order of events.
-/
import Kareserve.Gateway.Completion
import Kareserve.Gateway.Planner
import Kareserve.Gateway.Stream
import Kareserve.Tracker.System

namespace Kareserve

open PyJson (Json)

-- =============================================================== polls

/-- What a poll writes to a node beside the process start time; `none` is
a field it leaves. -/
structure PollFigures where
  runningRequests : Option ℤ := none
  waitingRequests : Option ℤ := none
  kvCacheUsage : Option ℚ := none
  gpuTotalBlocks : Option ℤ := none
  gpuBlockSize : Option ℤ := none
  metricsStatus : Option MetricsStatus := none
  deriving DecidableEq

/-- The figures of a poll, on a node. -/
def NodeState.store (node : NodeState) (f : PollFigures) : NodeState :=
  { node with
    runningRequests := f.runningRequests.or node.runningRequests
    waitingRequests := f.waitingRequests.or node.waitingRequests
    kvCacheUsage := f.kvCacheUsage.or node.kvCacheUsage
    gpuTotalBlocks := f.gpuTotalBlocks.or node.gpuTotalBlocks
    gpuBlockSize := f.gpuBlockSize.or node.gpuBlockSize
    metricsStatus := f.metricsStatus.getD node.metricsStatus }

/-- `update_metrics_text` or `mark_metrics_unavailable`, by what is found
on the page. -/
def NodeEntry.poll (e : NodeEntry) (processStartSamples : List ℚ)
    (f : PollFigures) : NodeEntry :=
  let e := e.updateProcessStart processStartSamples
  { e with node := e.node.store f }

-- ============================================================ exchanges

/-- What `handle_completion` keeps across the await of `assign`: the id it
answers with, and the truth of `body.get("stream", False)`. -/
structure Handler where
  requestId : String
  stream : Bool
  deriving DecidableEq

/-- An exchange with the locals of `stream_upstream`. -/
structure LiveExchange extends Exchange where
  detector : SSEOutputDetector := {}
  upstreamOpenedAt : ℚ := 0
  firstOutputAt : Option ℚ := none
  deriving DecidableEq

/-- What an await of an exchange returns or raises. -/
inductive UpstreamEvent where
  | opened (contentType : Option String)
  | chunk (bytes : Bytes)
  | ended
  | returned
  | raised (raised : Raised)
  deriving DecidableEq

section Loads

variable (loads : Bytes → Except LoadsError Json)

/-- What an exchange notes of an event at the time `now`, and what the event
is to its phase: an exception of the detector is one of the loop over the
chunks. -/
def LiveExchange.note (x : LiveExchange) (now : ℚ) :
    UpstreamEvent → LiveExchange × ExchangeEvent
  | .opened contentType =>
      ({ x with upstreamOpenedAt := now }, .opened contentType)
  | .chunk bytes =>
      if x.phase ≠ .awaitingChunk ∨ x.firstOutputAt.isSome then (x, .chunk)
      else
        match x.detector.feed loads bytes with
        | .error _ => (x, .raised .exception)
        | .ok (detector, true) =>
            ({ x with detector, firstOutputAt := some now }, .chunk)
        | .ok (detector, false) => ({ x with detector }, .chunk)
  | .ended => (x, .ended)
  | .returned => (x, .returned)
  | .raised raised => (x, .raised raised)

/-- The argument of `observe_first_output`, if there was an output. -/
def LiveExchange.firstOutputMs (x : LiveExchange) : Option ℚ :=
  x.firstOutputAt.map fun at_ => (at_ - x.upstreamOpenedAt) * 1000

end Loads

-- ============================================================== the app

/-- `app.state`, the tasks on it, and the calls made on the tracker. -/
structure App where
  routePlanner : RoutePlanner
  requestPool : RequestPool
  control : NodeId → Control
  /-- `config.policy`. -/
  policyName : String
  handlers : PyDict RequestId Handler
  exchanges : PyDict RequestId LiveExchange
  calls : List (RequestId × RouteCall)

inductive AppEvent where
  /-- A handler calls `assign`. -/
  | request (request : SchedulerRequest) (handler : Handler)
  /-- A handler is cancelled while it awaits `assign`. -/
  | disconnect (requestId : RequestId)
  /-- A handler runs on after `assign`. -/
  | resume (requestId : RequestId) (times : PlanningTimes)
  | get
  | collect
  /-- The cache lookup returned; `none` where there is no client. -/
  | lookupReturned (found : Option LookupResult)
  | lookupRaised (error : PyException)
  | upstream (requestId : RequestId) (event : UpstreamEvent) (now : ℚ)
  | listener (nodeId : NodeId) (event : NodeEvent)
  | poll (nodeId : NodeId) (processStartSamples : List ℚ) (f : PollFigures)
  | stop
  | stopped

namespace App

/-- `lifespan`, up to its `yield`. -/
def start (policy : Policy) (policyName : String)
    (prefixBlockSize maxPlanningGroupSize : ℤ)
    (replayEndpoint : NodeId → Bool) (initialNodes : List NodeState) :
    App where
  routePlanner := .init (.init initialNodes) policy prefixBlockSize
  requestPool := .init maxPlanningGroupSize
  control := (System.init replayEndpoint initialNodes).control
  policyName
  handlers := .empty
  exchanges := .empty
  calls := []

def tracker (a : App) : KareserveTracker := a.routePlanner.tracker

/-- Another tracker, in its place. -/
def onTracker (a : App) (f : KareserveTracker → KareserveTracker) : App :=
  { a with routePlanner :=
    { a.routePlanner with tracker := f a.routePlanner.tracker } }

/-- A node's entry with its listener. -/
def listener (a : App) (nodeId : NodeId) : Option Listener :=
  (a.tracker.entries.get nodeId).map fun e => ⟨e, a.control nodeId⟩

-- ============================================================ its parts

/-- The calls a step of the pool has made. -/
def callsMade (a : App) (pool : RequestPool) : List (RequestId × RouteCall) :=
  pool.calls.drop a.requestPool.calls.length

/-- An event of the pool, beside what it finds of the planner. -/
def poolStep (a : App) (planner : RoutePlanner) (event : PoolEvent) :
    Option App :=
  (a.requestPool.step event).map fun pool =>
    { a with
      requestPool := pool
      routePlanner := { planner with
        tracker := planner.tracker.runCalls
          ((a.callsMade pool).map Prod.snd) }
      calls := a.calls ++ a.callsMade pool }

/-- The completion of a handler whose `assign` has returned. -/
def completionOf (a : App) (handler : Handler)
    (assignment : AssignmentResult) (times : PlanningTimes) : Completion where
  requestId := handler.requestId
  stream := handler.stream
  policy := a.policyName
  estimatedCostUnit :=
    match a.routePlanner.policy.costModel.unit with
    | .ms => "ms"
    | .normalized => "normalized"
  assignment
  times

/-- What a handler does once `assign` has returned. -/
def afterAssign (a : App) (requestId : RequestId) (times : PlanningTimes) :
    App :=
  match a.requestPool.callers.get requestId, a.handlers.get requestId with
  | some caller, some handler =>
      match caller.task with
      | .returned assignment =>
          let x : LiveExchange :=
            { completion := a.completionOf handler assignment times
              phase := .opening }
          { a with exchanges := a.exchanges.set requestId x }
      | _ => a
  | _, _ => a

/-- The end of an exchange that releases: the first output is observed, if
there was one, and the reservation given back. -/
def finish (a : App) (requestId : RequestId) (x : LiveExchange) : App :=
  { a with
    routePlanner :=
      { a.routePlanner with
        tracker := a.tracker.call x.completion.releaseCall
        policy := x.firstOutputMs.elim a.routePlanner.policy
          (a.routePlanner.policy.observeFirstOutput
            x.completion.assignment.assignment) }
    calls := a.calls ++ [(requestId, x.completion.releaseCall)] }

/-- An exchange in its next phase, and whether it releases. -/
def exchanged (a : App) (requestId : RequestId) (x : LiveExchange)
    (next : Phase × Bool) : App :=
  let a := { a with
    exchanges := a.exchanges.set requestId { x with phase := next.1 } }
  if next.2 then a.finish requestId x else a

section Step

variable (blake2b : List UInt8 → List UInt8)
  (decode : Bytes → Option RawMapEventBatch)
  (loads : Bytes → Except LoadsError Json)
  (replayEndpoint : NodeId → Bool)

/-- What the rest of a plan is to the pool. -/
def planEvent :
    Except PyException (PyDict RequestId RouteAssignment) → PoolEvent
  | .ok assignments => .planned assignments
  | .error error => .planFailed error

/-- `plan`, from where the lookup has returned, and the hand-out, or else
the `except` branch of `_run`. A policy keeps what it has changed before it
raised. -/
def planGroup (a : App) (group : List SchedulerRequest)
    (found : Option LookupResult) : Option App :=
  let selected := a.routePlanner.selectOrRaise blake2b group found
  a.poolStep
    { a.routePlanner with
      tracker := a.routePlanner.trackerAfter found
      policy := selected.1 }
    (planEvent selected.2)

/-- An event of one exchange. -/
def exchangeStep (a : App) (requestId : RequestId) (x : LiveExchange)
    (event : ExchangeEvent) : Option App :=
  (x.completion.step x.phase event).map (a.exchanged requestId x)

/-- One event, where it can happen. -/
def step (a : App) : AppEvent → Option App
  | .request request handler =>
      (a.poolStep a.routePlanner (.assign request)).map fun a =>
        { a with handlers := a.handlers.set request.requestId handler }
  | .disconnect requestId => a.poolStep a.routePlanner (.cancel requestId)
  | .resume requestId times =>
      (a.poolStep a.routePlanner (.resume requestId)).map fun a =>
        a.afterAssign requestId times
  | .get => a.poolStep a.routePlanner .get
  | .collect => a.poolStep a.routePlanner .collect
  | .lookupReturned found =>
      match a.requestPool.worker with
      | .planning group => a.planGroup blake2b group found
      | _ => none
  | .lookupRaised error => a.poolStep a.routePlanner (.planFailed error)
  | .upstream requestId event now =>
      (a.exchanges.get requestId).bind fun x =>
        let noted := x.note loads now event
        a.exchangeStep requestId noted.1 noted.2
  | .listener nodeId event =>
      ((a.listener nodeId).bind
          fun l => l.move (replayEndpoint nodeId) event).map fun mc =>
        { a.onTracker (·.onNode nodeId (·.act decode mc.1)) with
          control := Function.update a.control nodeId mc.2 }
  | .poll nodeId processStartSamples f =>
      some (a.onTracker (·.onNode nodeId (·.poll processStartSamples f)))
  | .stop => a.poolStep a.routePlanner .stop
  | .stopped => a.poolStep a.routePlanner .stopped

end Step

end App

end Kareserve
