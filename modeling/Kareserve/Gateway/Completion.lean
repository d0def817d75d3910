/-
The HTTP exchange of one completion request (`kareserve/server.py`,
`handle_completion`, `open_upstream`, `stream_upstream`,
`read_upstream`), from where `assign` has returned, and any number of
them side by side.

# Phases

A phase is the await the exchange is suspended in. Every await may return
or raise: the handler or the response can be cancelled at any of them,
upstream and client can fail. The finally block of `stream_upstream` runs
only if the generator was started, which sending the response start comes
before; once it is started the block runs whether the body ends, fails or
is abandoned at a `yield`.

# Not here

The observation and its log line, which no release depends on: they are in
Gateway/Log.lean. The arguments of the upstream call are left out.
-/
import Kareserve.Gateway.Pool
import Kareserve.Lib.Rounding

namespace Kareserve

-- ============================================================== headers

/-- `f"{x:.6f}"`, with any number of digits. -/
def formatFixed (digits : ℕ) (x : ℚ) : String :=
  let scaled := (Rounding.nearestEven (|x| * 10 ^ digits)).toNat
  let fraction := Nat.toDigits 10 (scaled % 10 ^ digits)
  String.ofList
    ((if x < 0 then ['-'] else [])
      ++ Nat.toDigits 10 (scaled / 10 ^ digits)
      ++ ['.'] ++ List.replicate (digits - fraction.length) '0' ++ fraction)

/-- The timing figures `route_headers` reads off an `AssignmentResult`. -/
structure PlanningTimes where
  coordinationWaitMs : ℚ
  planningTotalMs : ℚ
  deriving DecidableEq

/-- `route_headers`. -/
def routeHeaders (requestId : String) (assignment : AssignmentResult)
    (times : PlanningTimes) (policyName estimatedCostUnit : String) :
    List (String × String) :=
  let node := assignment.node
  let prefixMatch := assignment.assignment.candidate.prefixMatch
  let usage := match node.kvCacheUsage with
    | none => "unknown"
    | some usage => formatFixed 6 usage
  [("X-Request-Id", requestId),
    ("X-Kareserve-Worker-Id", node.nodeId),
    ("X-Kareserve-Policy", policyName),
    ("X-Kareserve-Planning-Group-Size", strInt assignment.planningGroupSize),
    ("X-Kareserve-Coordination-Wait-Ms",
      formatFixed 3 times.coordinationWaitMs),
    ("X-Kareserve-Planning-Ms", formatFixed 3 times.planningTotalMs),
    ("X-Kareserve-GPU-Prefix-Tokens", strInt prefixMatch.gpuPrefixTokens),
    ("X-Kareserve-CPU-Prefix-Tokens", strInt prefixMatch.cpuPrefixTokens),
    ("X-Kareserve-FS-Prefix-Tokens", strInt prefixMatch.fsPrefixTokens),
    ("X-Kareserve-OBJ-Prefix-Tokens", strInt prefixMatch.objPrefixTokens),
    ("X-Kareserve-Estimated-Cost",
      formatFixed 6 assignment.assignment.estimatedCost),
    ("X-Kareserve-Estimated-Cost-Unit", estimatedCostUnit),
    ("X-Kareserve-KV-Cache-Usage", usage)]

/-- `value.encode("latin-1")` does not raise. -/
def latin1 (value : String) : Bool := value.toList.all fun c => c.toNat < 256

/-- What `handle_completion` holds when `assign` has returned. `stream` is
the truth of `body.get("stream", False)`. -/
structure Completion where
  requestId : String
  stream : Bool
  policy : String
  estimatedCostUnit : String
  assignment : AssignmentResult
  times : PlanningTimes
  deriving DecidableEq

/-- The headers of the response; an empty or missing content type is left
out. -/
def Completion.responseHeaders (c : Completion) (contentType : Option String) :
    List (String × String) :=
  routeHeaders c.requestId c.assignment c.times c.policy c.estimatedCostUnit
    ++ match contentType with
      | none | some "" => []
      | some contentType => [("Content-Type", contentType)]

/-- The response can be built: Starlette encodes every header, and the
names are ASCII. -/
def Completion.encodes (c : Completion) (contentType : Option String) : Bool :=
  (c.responseHeaders contentType).all fun h => latin1 h.2

-- ============================================================== phases

/-- The await an exchange is suspended in. -/
inductive Phase where
  /-- `session.post`. -/
  | opening
  /-- `session.close` in `open_upstream`, after `session.post` raised. -/
  | closingFailed
  /-- Sending the start of a streaming response; its body generator is not
  started. -/
  | responding
  /-- The next chunk of the upstream body. -/
  | awaitingChunk
  /-- Sending a chunk; the generator is suspended in its `yield`. -/
  | yielded
  /-- `session.close` in the finally block of `stream_upstream`. -/
  | streamClosing
  /-- `response.read`. -/
  | reading
  /-- `session.close` in the finally block of `read_upstream`. -/
  | readClosing
  | finished
  deriving DecidableEq

/-- What an await raises. -/
inductive Raised where
  /-- `aiohttp.ClientError` or `asyncio.TimeoutError`. -/
  | clientError
  /-- Any other exception. -/
  | exception
  | cancelled
  deriving DecidableEq

inductive ExchangeEvent where
  /-- `session.post` returns a response with this content type. -/
  | opened (contentType : Option String)
  /-- The upstream body has a chunk. -/
  | chunk
  /-- The upstream body is at its end. -/
  | ended
  /-- Any other await returns. -/
  | returned
  | raised (raised : Raised)
  deriving DecidableEq

/-- What an exchange does up to its next await, and whether it calls
`release_route` on the way. -/
def Completion.step (c : Completion) :
    Phase → ExchangeEvent → Option (Phase × Bool)
  | .opening, .opened contentType =>
      if c.stream then
        if c.encodes contentType then some (.responding, false)
        else some (.finished, false)
      else some (.reading, false)
  | .opening, .raised .clientError => some (.closingFailed, false)
  | .opening, .raised _ => some (.finished, false)
  -- only an `HTTPException` is caught around `open_upstream`
  | .closingFailed, .returned => some (.finished, true)
  | .closingFailed, .raised _ => some (.finished, false)
  | .responding, .returned => some (.awaitingChunk, false)
  | .responding, .raised _ => some (.finished, false)
  | .awaitingChunk, .chunk => some (.yielded, false)
  | .awaitingChunk, .ended => some (.streamClosing, false)
  | .awaitingChunk, .raised _ => some (.streamClosing, false)
  | .yielded, .returned => some (.awaitingChunk, false)
  | .yielded, .raised _ => some (.streamClosing, false)
  | .streamClosing, .returned => some (.finished, true)
  | .streamClosing, .raised _ => some (.finished, false)
  | .reading, .returned => some (.readClosing, false)
  | .reading, .raised _ => some (.readClosing, false)
  | .readClosing, .returned => some (.finished, true)
  | .readClosing, .raised _ => some (.finished, false)
  | _, _ => none

/-- The reservation that is an exchange's to release. -/
def Completion.reserveCall (c : Completion) : RouteCall :=
  .reserve c.assignment.node.nodeId c.assignment.inflightWork

/-- `tracker.release_route(assignment.node.node_id,
assignment.inflight_work)`. -/
def Completion.releaseCall (c : Completion) : RouteCall :=
  .release c.assignment.node.nodeId c.assignment.inflightWork

-- ============================================================ exchanges

structure Exchange where
  completion : Completion
  phase : Phase
  deriving DecidableEq

/-- The exchanges, by the id the request was scheduled under, and the
calls made on the tracker. -/
structure Exchanges where
  exchanges : PyDict RequestId Exchange
  calls : List (RequestId × RouteCall)

inductive ExchangesEvent where
  /-- `assign` returns an assignment, which was reserved. -/
  | assigned (routeId : RequestId) (completion : Completion)
  | exchange (routeId : RequestId) (event : ExchangeEvent)
  deriving DecidableEq

def Exchanges.init : Exchanges := ⟨.empty, []⟩

/-- One event, where it can happen. -/
def Exchanges.step (s : Exchanges) : ExchangesEvent → Option Exchanges
  | .assigned routeId completion =>
      if (s.exchanges.get routeId).isNone then
        some {
          exchanges := s.exchanges.set routeId ⟨completion, .opening⟩
          calls := s.calls ++ [(routeId, completion.reserveCall)] }
      else none
  | .exchange routeId event =>
      (s.exchanges.get routeId).bind fun x =>
        (x.completion.step x.phase event).map fun next =>
          { exchanges := s.exchanges.set routeId { x with phase := next.1 }
            calls := s.calls
              ++ if next.2 then [(routeId, x.completion.releaseCall)] else [] }

/-- The tracker after the calls. -/
def Exchanges.tracker (s : Exchanges) (initialNodes : List NodeState) :
    KareserveTracker :=
  (KareserveTracker.init initialNodes).runCalls (s.calls.map Prod.snd)

-- ============================================ headers that always encode

/-- A number has ASCII digits only. -/
theorem latin1_toDigits (n : ℕ) :
    ∀ c ∈ Nat.toDigits 10 n, c.toNat < 256 := by
  intro c hc
  have hdigit := Nat.isDigit_of_mem_toDigits (by decide) (by decide) hc
  rw [Char.isDigit_iff_toNat] at hdigit
  have hnine : '9'.toNat = 57 := rfl
  omega

theorem latin1_strInt (n : ℤ) : latin1 (strInt n) = true := by
  unfold latin1 strInt
  rw [String.toList_ofList, List.all_eq_true]
  intro c hc
  rw [decide_eq_true_eq]
  rcases List.mem_append.mp hc with hsign | hdigits
  · split at hsign
    · rw [List.mem_singleton] at hsign
      subst hsign
      decide
    · cases hsign
  · exact latin1_toDigits _ c hdigits

theorem latin1_formatFixed (digits : ℕ) (x : ℚ) :
    latin1 (formatFixed digits x) = true := by
  unfold latin1 formatFixed
  rw [String.toList_ofList, List.all_eq_true]
  intro c hc
  rw [decide_eq_true_eq]
  simp only [List.mem_append] at hc
  rcases hc with (((hsign | hwhole) | hpoint) | hzeros) | hfraction
  · split at hsign
    · rw [List.mem_singleton] at hsign
      subst hsign
      decide
    · cases hsign
  · exact latin1_toDigits _ c hwhole
  · rw [List.mem_singleton] at hpoint
    subst hpoint
    decide
  · rw [List.eq_of_mem_replicate hzeros]
    decide
  · exact latin1_toDigits _ c hfraction

/-- Whether a response can be built depends on five texts: the request id,
the node id, the policy's name, the cost unit and the content type. -/
theorem Completion.encodes_iff (c : Completion) (contentType : Option String) :
    c.encodes contentType = true
      ↔ latin1 c.requestId = true ∧ latin1 c.assignment.node.nodeId = true
        ∧ latin1 c.policy = true ∧ latin1 c.estimatedCostUnit = true
        ∧ ∀ text ∈ contentType, latin1 text = true := by
  have husage : latin1 (match c.assignment.node.kvCacheUsage with
      | none => "unknown"
      | some usage => formatFixed 6 usage) = true := by
    cases c.assignment.node.kvCacheUsage with
    | none => decide
    | some usage => exact latin1_formatFixed 6 usage
  have hcontent : ((match contentType with
      | none | some "" => []
      | some contentType => [("Content-Type", contentType)]).all
        fun h => latin1 h.2) = true
      ↔ ∀ text ∈ contentType, latin1 text = true := by
    split
    · simp
    · simp [latin1]
    · simp
  unfold encodes responseHeaders
  rw [List.all_append, Bool.and_eq_true, hcontent]
  simp only [routeHeaders, List.all_cons, List.all_nil, latin1_strInt,
    latin1_formatFixed, husage, Bool.and_eq_true, Bool.true_and, Bool.and_true]
  tauto

end Kareserve
