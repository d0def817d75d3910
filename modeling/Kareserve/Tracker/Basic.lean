/-
`KareserveTracker` (`kareserve/tracker.py`): the per-node entries, the
load counters route planning reserves on, and the candidates it builds
from them.

# State

Every per-node dictionary of the class is keyed by the ids `__init__`
saw, and none of these keys is ever added or dropped, so the tracker is
one dictionary of entries plus the status of each cache domain. The
sockets and tasks are the listener's (Tracker/Listen.lean).

# Candidates

A division of two integers is rounded, and raises where the quotient is
beyond a float. `routeCandidate` has the rounding; that
`build_route_candidates` may raise is said over it
(`buildRouteCandidatesOrRaise`), and where it does not it returns
`buildRouteCandidates`.

# Not here

`update_metrics_text` first compares the page's process start time with
the last one seen and then overwrites load figures. The first part is
`NodeEntry.updateProcessStart`; nothing below reads the load figures. The
whole function is in Tracker/Metrics.lean.
-/
import Kareserve.Tracker.Catalog
import Kareserve.Lib.PyFloat
import Kareserve.Lib.Rounding
import Mathlib.Data.Rat.Floor

namespace Kareserve

/-- `KareserveTracker`: what it keeps per node and per cache domain. -/
structure KareserveTracker where
  entries : PyDict NodeId NodeEntry
  lmcacheCatalogStatus : PyDict String CatalogStatus

-- ============================================================= one node

/-- `reserve_route` on a known node. -/
def NodeState.reserve (node : NodeState) (work : ℚ) : NodeState :=
  { node with
    routerActiveRequests := node.routerActiveRequests + 1
    routerInflightWork := node.routerInflightWork + max 0 work }

/-- `release_route` on a known node. -/
def NodeState.release (node : NodeState) (work : ℚ) : NodeState :=
  let active := max 0 (node.routerActiveRequests - 1)
  { node with
    routerActiveRequests := active
    routerInflightWork :=
      if active = 0 then 0
      else max 0 (node.routerInflightWork - max 0 work) }

/-- The `NodeRoutingState` of one entry. -/
def NodeEntry.routingState (e : NodeEntry) (lmcacheCatalogStatus : CatalogStatus) :
    NodeRoutingState where
  nodeId := e.node.nodeId
  cacheDomainId := e.node.cacheDomainId
  routerActiveRequests := e.node.routerActiveRequests
  routerInflightWork := e.node.routerInflightWork
  runningRequests := e.node.runningRequests
  waitingRequests := e.node.waitingRequests
  kvCacheUsage := e.node.kvCacheUsage
  gpuTotalBlocks := e.node.gpuTotalBlocks
  gpuBlockSize := e.node.gpuBlockSize
  metricsStatus := e.node.metricsStatus
  processStartTimeSeconds := e.node.processStartTimeSeconds
  gpuCatalogStatus := e.gpuCatalogStatus
  lmcacheCatalogStatus := lmcacheCatalogStatus

/-- `_clear_gpu_catalog` followed by `last_sequence.pop`. -/
def NodeEntry.restart (e : NodeEntry) : NodeEntry :=
  { e.clearGpuCatalog with lastSequence := none }

/-- Whether a metrics page shows a process start time other than the one
known. The argument is what `update_metrics_text` finds on the page, of
which the last sample counts. -/
def NodeEntry.startChanged (e : NodeEntry)
    (processStartSamples : List ℚ) : Bool :=
  match processStartSamples.getLast?, e.node.processStartTimeSeconds with
  | some processStart, some known => decide (processStart ≠ known)
  | _, _ => false

/-- The process start time in `update_metrics_text`. -/
def NodeEntry.updateProcessStart (e : NodeEntry)
    (processStartSamples : List ℚ) : NodeEntry :=
  match processStartSamples.getLast? with
  | none => e
  | some processStart =>
      let e := if e.startChanged processStartSamples then e.restart else e
      { e with
        node := { e.node with processStartTimeSeconds := some processStart } }

/-- `_match_prefix`. -/
def NodeEntry.matchPrefix (e : NodeEntry) (promptTokens : List Token) :
    PrefixMatch :=
  { promptTokens := promptTokens.length
    gpuPrefixTokens := e.catalog.longestPrefix promptTokens }

/-- `block_size`. -/
def NodeRoutingState.blockSize (node : NodeRoutingState)
    (defaultBlockSize : ℤ) : ℤ :=
  match node.gpuBlockSize with
  | none | some 0 => defaultBlockSize
  | some size => size

/-- `required_tokens`. -/
def SchedulerRequest.requiredTokens (request : SchedulerRequest)
    (gpuPrefixTokens : ℤ) : ℤ :=
  max 0 ((request.promptTokens.length : ℤ) - gpuPrefixTokens)
    + request.maxTokens

/-- `event_match`. -/
def NodeEntry.eventMatch (e : NodeEntry) (node : NodeRoutingState)
    (request : SchedulerRequest) : PrefixMatch :=
  if node.gpuCatalogStatus = .healthy then e.matchPrefix request.promptTokens
  else { promptTokens := request.promptTokens.length }

/-- The body of the loops of `build_route_candidates`, for one request and
one node. -/
def NodeEntry.routeCandidate (e : NodeEntry) (node : NodeRoutingState)
    (request : SchedulerRequest) (defaultBlockSize : ℤ)
    (externalMatch : Option PrefixMatch) : RouteCandidate :=
  let pm : PrefixMatch :=
    { promptTokens := request.promptTokens.length
      gpuPrefixTokens := (e.eventMatch node request).gpuPrefixTokens
      cpuPrefixTokens := (externalMatch.map (·.cpuPrefixTokens)).getD 0
      fsPrefixTokens := (externalMatch.map (·.fsPrefixTokens)).getD 0
      objPrefixTokens := (externalMatch.map (·.objPrefixTokens)).getD 0 }
  let blockSize := node.blockSize defaultBlockSize
  let requiredTokens := request.requiredTokens pm.gpuPrefixTokens
  { requestId := request.requestId
    node
    prefixMatch := pm
    requiredNewGpuBlocks :=
      if 0 < blockSize then
        -- the quotient is a float before `ceil` sees it
        some ⌈Rounding.binary64.round ((requiredTokens : ℚ) / blockSize)⌉
      else none }

/-- The quotient in `routeCandidate` is no number for a float. -/
def NodeEntry.QuotientTooLarge (e : NodeEntry) (node : NodeRoutingState)
    (request : SchedulerRequest) (defaultBlockSize : ℤ) : Prop :=
  let blockSize := node.blockSize defaultBlockSize
  let requiredTokens :=
    request.requiredTokens (e.eventMatch node request).gpuPrefixTokens
  0 < blockSize ∧ PyJson.Float.limit ≤ |(requiredTokens : ℚ) / blockSize|

instance (e : NodeEntry) (node : NodeRoutingState)
    (request : SchedulerRequest) (defaultBlockSize : ℤ) :
    Decidable (e.QuotientTooLarge node request defaultBlockSize) :=
  inferInstanceAs (Decidable (_ ∧ _))

-- ========================================================== the tracker

namespace KareserveTracker

/-- `__init__`. -/
def init (initialNodes : List NodeState) : KareserveTracker where
  entries := .ofList (initialNodes.map fun node => (node.nodeId, .fresh node))
  lmcacheCatalogStatus :=
    .ofList (initialNodes.map fun node => (node.cacheDomainId, .healthy))

/-- `lmcache_catalog_status[domain_id]`; every node's domain is a key from
`__init__` on. -/
def domainStatus (t : KareserveTracker) (domainId : String) : CatalogStatus :=
  (t.lmcacheCatalogStatus.get domainId).getD .healthy

/-- `get_routing_states`. -/
def getRoutingStates (t : KareserveTracker) : PyDict NodeId NodeRoutingState :=
  t.entries.map fun _ e => e.routingState (t.domainStatus e.node.cacheDomainId)

/-- `build_route_candidates`. -/
def buildRouteCandidates (t : KareserveTracker)
    (requests : List SchedulerRequest) (defaultBlockSize : ℤ)
    (externalMatches : Option (PyDict RequestId (PyDict String PrefixMatch))) :
    PyDict RequestId (PyDict NodeId RouteCandidate) :=
  .ofList (requests.map fun request =>
    (request.requestId, t.entries.map fun _ e =>
      e.routeCandidate (e.routingState (t.domainStatus e.node.cacheDomainId))
        request defaultBlockSize
        (((externalMatches.getD .empty).get request.requestId).bind
          fun byDomain => byDomain.get e.node.cacheDomainId)))

/-- `build_route_candidates`, as it returns or raises. -/
def buildRouteCandidatesOrRaise (t : KareserveTracker)
    (requests : List SchedulerRequest) (defaultBlockSize : ℤ)
    (externalMatches : Option (PyDict RequestId (PyDict String PrefixMatch))) :
    Except PyException (PyDict RequestId (PyDict NodeId RouteCandidate)) :=
  if ∃ request ∈ requests, ∃ e ∈ t.entries.values,
      e.QuotientTooLarge
        (e.routingState (t.domainStatus e.node.cacheDomainId)) request
        defaultBlockSize then
    .error ⟨"OverflowError", "integer division result too large for a float"⟩
  else .ok (t.buildRouteCandidates requests defaultBlockSize externalMatches)

/-- What an operation on one node's entry does to the tracker; an unknown
node id makes it a no-op. -/
def onNode (t : KareserveTracker) (nodeId : NodeId)
    (f : NodeEntry → NodeEntry) : KareserveTracker :=
  { t with entries := t.entries.modify nodeId f }

/-- `reserve_route`. -/
def reserveRoute (t : KareserveTracker) (nodeId : NodeId) (work : ℚ) :
    KareserveTracker :=
  t.onNode nodeId fun e => { e with node := e.node.reserve work }

/-- `release_route`. -/
def releaseRoute (t : KareserveTracker) (nodeId : NodeId) (work : ℚ) :
    KareserveTracker :=
  t.onNode nodeId fun e => { e with node := e.node.release work }

/-- `set_lmcache_lookup_status`. -/
def setLmcacheLookupStatus (t : KareserveTracker)
    (failedDomains : List String) : KareserveTracker :=
  { t with
    lmcacheCatalogStatus := t.lmcacheCatalogStatus.map fun domainId _ =>
      if domainId ∈ failedDomains then .degraded else .healthy }

theorem onNode_get (t : KareserveTracker) (nodeId nodeId' : NodeId)
    (f : NodeEntry → NodeEntry) :
    (t.onNode nodeId f).entries.get nodeId'
      = if nodeId' = nodeId then (t.entries.get nodeId').map f
        else t.entries.get nodeId' :=
  PyDict.get_modify _ _ _ _

theorem getRoutingStates_get (t : KareserveTracker) (nodeId : NodeId) :
    t.getRoutingStates.get nodeId
      = (t.entries.get nodeId).map
          fun e => e.routingState (t.domainStatus e.node.cacheDomainId) :=
  PyDict.get_map _ _ _

/-- The known nodes are the initial ones. -/
theorem init_get {initialNodes : List NodeState} {nodeId : NodeId}
    {e : NodeEntry} (h : (init initialNodes).entries.get nodeId = some e) :
    ∃ node ∈ initialNodes, node.nodeId = nodeId ∧ e = .fresh node := by
  have hmem := PyDict.mem_of_get_ofList h
  rw [List.mem_map] at hmem
  obtain ⟨node, hnode, heq⟩ := hmem
  injection heq with hid he
  exact ⟨node, hnode, hid, he.symm⟩

theorem init_known {initialNodes : List NodeState} {node : NodeState}
    (h : node ∈ initialNodes) :
    ∃ e, (init initialNodes).entries.get node.nodeId = some e := by
  refine PyDict.exists_get_ofList ?_
  rw [List.map_map]
  exact List.mem_map.mpr ⟨node, h, rfl⟩

end KareserveTracker

end Kareserve
