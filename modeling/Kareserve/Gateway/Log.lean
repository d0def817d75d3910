/-
The log line of an answer that was relayed: `RequestObservation` and its
`result` (`kareserve/observability.py`), `_log_route_result` and the locals
of `stream_upstream` and `read_upstream` it is made of (`kareserve/server.py`).

# Beside the router process

The process never reads its log, so the lines are kept beside the process of
Gateway/App.lean: `Logged.step` takes its steps, and notes what the two
generators note on the way.

# The clock

`time.perf_counter()` never goes back. An event that claims to come before
the last one does not happen.

# What ends a generator in its `yield`

Where the client is gone, the event loop closes the suspended generator: what
is raised in its `yield` is a `GeneratorExit`, which neither `except` clause
catches. `outcome` stays what it was.
-/
import Kareserve.Gateway.App

namespace Kareserve

-- ============================================================ the line

/-- `round(x, 3)`. -/
def roundThousandths (x : ℚ) : ℚ :=
  (Rounding.nearestEven (x * 1000) : ℚ) / 1000

/-- `elapsed_ms`. -/
def elapsedMs (startedAt : ℚ) (endedAt : Option ℚ) : Option ℚ :=
  endedAt.map fun endedAt => roundThousandths (max 0 (endedAt - startedAt) * 1000)

/-- The values of `outcome`. -/
inductive Outcome where
  | completed
  | cancelled
  | error
  deriving DecidableEq

def Outcome.value : Outcome → String
  | .completed => "completed"
  | .cancelled => "cancelled"
  | .error => "error"

structure RequestObservation where
  requestId : String
  traceId : Option String
  prefixId : Option String
  nodeId : NodeId
  requestStartedAt : ℚ
  assignmentCompletedAt : ℚ
  upstreamOpenedAt : ℚ
  upstreamStatus : ℤ
  firstOutputAt : Option ℚ := none
  responseBytes : ℕ := 0

/-- What `result` returns. -/
structure RouteResult where
  requestId : String
  prefixId : Option String
  traceId : Option String
  nodeId : NodeId
  outcome : Outcome
  upstreamStatus : ℤ
  assignmentMs : Option ℚ
  upstreamOpenMs : Option ℚ
  firstOutputMs : Option ℚ
  totalMs : Option ℚ
  responseBytes : ℕ
  error : Option String

/-- `result`, at the time `completedAt`. -/
def RequestObservation.result (o : RequestObservation) (completedAt : ℚ)
    (outcome : Outcome) (error : Option String) : RouteResult where
  requestId := o.requestId
  prefixId := o.prefixId
  traceId := o.traceId
  nodeId := o.nodeId
  outcome
  upstreamStatus := o.upstreamStatus
  assignmentMs := elapsedMs o.requestStartedAt (some o.assignmentCompletedAt)
  upstreamOpenMs := elapsedMs o.assignmentCompletedAt (some o.upstreamOpenedAt)
  firstOutputMs := elapsedMs o.requestStartedAt o.firstOutputAt
  totalMs := elapsedMs o.requestStartedAt (some completedAt)
  responseBytes := o.responseBytes
  error

-- ======================================================== what is noted

/-- What a handler keeps for its observation. -/
structure Received where
  traceId : Option String
  prefixId : Option String
  requestStartedAt : ℚ
  assignmentCompletedAt : ℚ

/-- The locals of `stream_upstream` or `read_upstream`. -/
structure Relay where
  observation : RequestObservation
  outcome : Outcome := .completed
  error : Option String := none

/-- An event of the process, at the time of the clock, and what it shows
besides: the headers and the start of a request, the status of a response,
the `content` that was read, the text of an exception. -/
structure LoggedEvent where
  event : AppEvent
  now : ℚ
  requestStartedAt : ℚ := now
  traceId : Option String := none
  prefixId : Option String := none
  upstreamStatus : ℤ := 200
  content : Bytes := []
  error : String := ""

namespace LoggedEvent

/-- The event the process sees. -/
def seen (e : LoggedEvent) : AppEvent :=
  match e.event with
  | .upstream requestId event _ => .upstream requestId event e.now
  | event => event

/-- What a handler keeps of an event. -/
def received (e : LoggedEvent) (received : PyDict RequestId Received) :
    PyDict RequestId Received :=
  match e.event with
  | .request request _ =>
      received.set request.requestId
        { traceId := e.traceId
          prefixId := e.prefixId
          requestStartedAt := e.requestStartedAt
          assignmentCompletedAt := e.now }
  | .resume requestId _ =>
      received.modify requestId fun r =>
        { r with assignmentCompletedAt := e.now }
  | _ => received

/-- An exception of the loop over the chunks, or of `response.read`. -/
def failed (e : LoggedEvent) (relay : Relay) : Raised → Relay
  | .cancelled => { relay with outcome := .cancelled }
  | _ => { relay with outcome := .error, error := some e.error }

/-- `RequestObservation(...)`, once the upstream is opened. -/
def observe (e : LoggedEvent) (x : LiveExchange) (received : Received) :
    Relay where
  observation :=
    { requestId := x.completion.requestId
      prefixId := received.prefixId
      traceId := received.traceId
      nodeId := x.completion.assignment.node.nodeId
      requestStartedAt := received.requestStartedAt
      assignmentCompletedAt := received.assignmentCompletedAt
      upstreamOpenedAt := e.now
      upstreamStatus := e.upstreamStatus }

/-- A chunk, and what the detector made of it. -/
def chunk (e : LoggedEvent) (relay : Relay) (bytes : Bytes)
    (noted : LiveExchange × ExchangeEvent) : Relay :=
  let relay := { relay with observation :=
    { relay.observation with
      responseBytes := relay.observation.responseBytes + bytes.length
      firstOutputAt := noted.1.firstOutputAt } }
  match noted.2 with
  | .raised raised => e.failed relay raised
  | _ => relay

/-- What is noted of an event of an exchange. -/
def relay (e : LoggedEvent) (x : LiveExchange) (received : Option Received)
    (noted : LiveExchange × ExchangeEvent) (relay : Option Relay) :
    UpstreamEvent → Option Relay
  | .opened _ =>
      match x.phase with
      | .opening => received.map (e.observe x)
      | _ => relay
  | .chunk bytes => relay.map fun relay => e.chunk relay bytes noted
  | .returned =>
      match x.phase with
      | .reading => relay.map fun relay =>
          { relay with observation :=
            { relay.observation with responseBytes := e.content.length } }
      | _ => relay
  | .raised raised =>
      match x.phase with
      | .awaitingChunk | .reading =>
          relay.map fun relay => e.failed relay raised
      | _ => relay
  | .ended => relay

/-- The line that is logged with the release of an exchange that was
relayed. -/
def line (e : LoggedEvent) (x : LiveExchange) (releases : Bool)
    (relay : Option Relay) : Option RouteResult :=
  match x.phase, releases with
  | .streamClosing, true | .readClosing, true =>
      relay.map fun relay =>
        relay.observation.result e.now relay.outcome relay.error
  | _, _ => none

end LoggedEvent

-- ============================================================= the process

/-- The router process with its log. -/
structure Logged where
  app : App
  received : PyDict RequestId Received := .empty
  relays : PyDict RequestId Relay := .empty
  log : List (RequestId × RouteResult) := []
  clock : ℚ := 0

namespace Logged

variable (loads : Bytes → Except LoadsError PyJson.Json)

/-- An event of an exchange, as it is logged. -/
def relayed (m : Logged) (e : LoggedEvent) (requestId : RequestId)
    (event : UpstreamEvent) (x : LiveExchange) : Logged :=
  let noted := x.note loads e.now event
  let relay := e.relay x (m.received.get requestId) noted
    (m.relays.get requestId) event
  let releases :=
    ((x.completion.step x.phase noted.2).map Prod.snd).getD false
  { m with
    relays := relay.elim m.relays (m.relays.set requestId)
    log := m.log ++ ((e.line x releases relay).map fun result =>
      (requestId, result)).toList }

/-- What is noted of an event. -/
def note (m : Logged) (e : LoggedEvent) : Logged :=
  match e.event with
  | .upstream requestId event _ =>
      (m.app.exchanges.get requestId).elim m (m.relayed loads e requestId event)
  | _ => { m with received := e.received m.received }

/-- A step of the process, logged. -/
def step (blake2b : List UInt8 → List UInt8)
    (decode : Bytes → Option RawMapEventBatch)
    (replayEndpoint : NodeId → Bool) (m : Logged) (e : LoggedEvent) :
    Option Logged :=
  if e.now < m.clock ∨ e.now < e.requestStartedAt then none
  else
    (m.app.step blake2b decode loads replayEndpoint e.seen).map fun app =>
      { m.note loads e with app, clock := e.now }

end Logged

end Kareserve
