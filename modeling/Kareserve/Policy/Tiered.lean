/-
`TieredCompletionTimePolicy` and its baseline `GpuPrefixLoadPolicy`
(`kareserve/policy.py`).

# The loop

`select_batch` is a loop over the pending requests. Its state is a
`Selection`: what is pending, the virtual load of every node, and the
assignments so far. One pass evaluates every pending request against the
virtual load (`Selection.options`), takes the one of least priority with
its cheapest candidate (`choose`), and counts it on its node (`commit`).

The three dictionaries `reserved_work`, `active_requests` and
`free_blocks` are written together under one key and are one dictionary
here. `none` stands for a `KeyError` when it is read, and for a loop that
is cut short; neither happens (`selectBatch_eq_some`). The loop that raises
for a number too large is in Policy/Raising.lean.

# Elsewhere

`runtime_stats` is in Gateway/Stats.lean, with the other figures of
`GET /health`. `prefix_block_size` is left out: no method reads it.
-/
import Mathlib.Data.Prod.Lex
import Mathlib.Data.String.Basic
import Mathlib.Order.WithBot
import Kareserve.Lib.Run
import Kareserve.Lib.SortKey
import Kareserve.Policy.Base

namespace Kareserve

open SortKey

/-- `TieredCompletionTimePolicy`. -/
structure TieredCompletionTimePolicy where
  costModel : CostModel
  capacityHighWatermark : ℚ
  capacityHardLimit : ℚ
  capacityPenalty : ℚ
  includeExternalCache : Bool
  queueEstimator : OnlineQueueTimeEstimator
  watermark_nonneg : 0 ≤ capacityHighWatermark
  watermark_le_hardLimit : capacityHighWatermark ≤ capacityHardLimit
  hardLimit_le_one : capacityHardLimit ≤ 1
  penalty_nonneg : 0 ≤ capacityPenalty

namespace TieredCompletionTimePolicy

/-- `__init__`. -/
def init (costModel : CostModel)
    (capacityHighWatermark capacityHardLimit capacityPenalty : ℚ)
    (queueHistorySize queueLocalMinSamples : ℤ)
    (includeExternalCache : Bool) : TieredCompletionTimePolicy :=
  let watermark := min (max capacityHighWatermark 0) 1
  { costModel
    capacityHighWatermark := watermark
    capacityHardLimit := min (max capacityHardLimit watermark) 1
    capacityPenalty := max 0 capacityPenalty
    includeExternalCache
    queueEstimator := .init queueHistorySize queueLocalMinSamples
    watermark_nonneg := le_min (le_max_right _ _) zero_le_one
    watermark_le_hardLimit := le_min (le_max_right _ _) (min_le_right _ _)
    hardLimit_le_one := min_le_right _ _
    penalty_nonneg := le_max_left _ _ }

variable (p : TieredCompletionTimePolicy)

-- ================================================================= costs

/-- `_capacity_cost`. -/
def capacityCost (candidate : RouteCandidate) (freeBlocks : Option ℤ) : ℚ :=
  let node := candidate.node
  let usage := match freeBlocks, node.gpuTotalBlocks with
    | some free, some total =>
        if 0 < total then some (1 - (free : ℚ) / total) else node.kvCacheUsage
    | _, _ => node.kvCacheUsage
  match usage with
  | none => 0
  | some usage =>
      if usage ≤ p.capacityHighWatermark then 0
      else
        let span := max (1 - p.capacityHighWatermark) (1 / 10 ^ 6)
        let normalized := (min usage 1 - p.capacityHighWatermark) / span
        let cost := p.capacityPenalty * normalized * normalized
        if p.capacityHardLimit ≤ usage then cost + p.capacityPenalty else cost

/-- `_prompt_path_cost`. -/
def promptPathCost (candidate : RouteCandidate) : ℚ :=
  p.costModel.promptPathCost candidate.prefixMatch p.includeExternalCache

/-- `_queue_cost`. -/
def queueCost (candidate : RouteCandidate)
    (reservedWork promptPathCost : ℚ) : ℚ :=
  let node := candidate.node
  let localPrediction := p.queueEstimator.predictMs node.nodeId reservedWork
  let waiting := max 0 (node.waitingRequests.getD 0)
  -- a count of 0 is falsy
  let running := max 1 (node.runningRequests.getD 1)
  let enginePrediction := waiting * promptPathCost / running
  max localPrediction enginePrediction

/-- `_breakdown`. -/
def breakdown (candidate : RouteCandidate) (reservedWork : ℚ)
    (freeBlocks : Option ℤ) : RouteCostBreakdown :=
  let promptPath := p.promptPathCost candidate
  { promptPathCost := promptPath
    queueCost := p.queueCost candidate reservedWork promptPath
    capacityCost := p.capacityCost candidate freeBlocks }

end TieredCompletionTimePolicy

/-- `_fits_capacity`. -/
def fitsCapacity (candidate : RouteCandidate) (freeBlocks : Option ℤ) : Bool :=
  match candidate.requiredNewGpuBlocks, freeBlocks with
  | some required, some free => decide (required ≤ free)
  | _, _ => true

-- ========================================================= virtual load

/-- What a planning group has put on a node so far, on top of its
snapshot. -/
structure VirtualLoad where
  reservedWork : ℚ
  activeRequests : ℤ
  freeBlocks : Option ℤ
  deriving DecidableEq

/-- A snapshot's own load. -/
def NodeRoutingState.virtualLoad (node : NodeRoutingState) : VirtualLoad where
  reservedWork := node.routerInflightWork
  activeRequests := node.routerActiveRequests
  freeBlocks := node.estimatedGpuFreeBlocks

/-- One more request on the node. -/
def VirtualLoad.add (l : VirtualLoad) (inflightWork : ℚ)
    (required : Option ℤ) : VirtualLoad where
  reservedWork := l.reservedWork + inflightWork
  activeRequests := l.activeRequests + 1
  freeBlocks := match l.freeBlocks, required with
    | some free, some required => some (max 0 (free - required))
    | free, _ => free

abbrev VirtualLoads := PyDict NodeId VirtualLoad

/-- The virtual loads `select_batch` starts with: the first snapshot of
each node in the matrix. -/
def VirtualLoads.init (candidates : CandidateMatrix) : VirtualLoads :=
  (candidates.values.flatMap PyDict.values).foldl
    (fun loads candidate =>
      loads.setDefault candidate.node.nodeId candidate.node.virtualLoad)
    .empty

/-- `free_blocks.get(node_id)`. -/
def VirtualLoads.freeBlocks (loads : VirtualLoads) (nodeId : NodeId) :
    Option ℤ :=
  (loads.get nodeId).bind VirtualLoad.freeBlocks

-- ============================================================ evaluation

/-- An evaluated candidate, with the request count its sort key reads. -/
structure Evaluation where
  candidate : RouteCandidate
  breakdown : RouteCostBreakdown
  activeRequests : ℤ
  deriving DecidableEq

/-- The key `evaluated` is sorted by. -/
def Evaluation.key (e : Evaluation) : ℚ ×ₗ ℤ ×ₗ ℚ ×ₗ NodeId :=
  toLex (e.breakdown.total, toLex (e.activeRequests,
    toLex (e.candidate.node.queueDepth, e.candidate.node.nodeId)))

/-- `-regret`: minus infinity where there is no second candidate. -/
def negRegret : List Evaluation → WithBot ℚ
  | best :: second :: _ =>
      ((-(second.breakdown.total - best.breakdown.total) : ℚ) : WithBot ℚ)
  | _ => ⊥

/-- A pending request and its evaluated candidates, cheapest first. -/
abbrev RankedRequest := SchedulerRequest × List Evaluation

/-- The tuple in `priorities`. -/
def RankedRequest.priority (r : RankedRequest) :
    ℕ ×ₗ WithBot ℚ ×ₗ RequestId :=
  toLex (r.2.length, toLex (negRegret r.2, r.1.requestId))

/-- The eligible candidates, or only those that fit if any does. -/
def admissible (loads : VirtualLoads) (row : List RouteCandidate) :
    List RouteCandidate :=
  let eligible := eligible row
  let fitting := eligible.filter fun item =>
    fitsCapacity item (loads.freeBlocks item.node.nodeId)
  if fitting.isEmpty then eligible else fitting

namespace TieredCompletionTimePolicy

variable (p : TieredCompletionTimePolicy)

/-- One entry of `evaluated`, given the load of the candidate's node. -/
def evaluation (candidate : RouteCandidate) (load : VirtualLoad) :
    Evaluation where
  candidate
  breakdown := p.breakdown candidate load.reservedWork load.freeBlocks
  activeRequests := load.activeRequests

/-- `evaluated`, sorted. -/
def ranked (loads : VirtualLoads) (row : List RouteCandidate) :
    Option (List Evaluation) :=
  ((admissible loads row).mapM fun item =>
    (loads.get item.node.nodeId).map (p.evaluation item)).map
      (sortBy Evaluation.key)

end TieredCompletionTimePolicy

-- ============================================================== the loop

/-- The locals of `select_batch` alive across its loop. -/
structure Selection where
  pending : PyDict RequestId SchedulerRequest
  loads : VirtualLoads
  assignments : PyDict RequestId RouteAssignment

/-- What a pass of the loop decides. -/
structure Choice where
  request : SchedulerRequest
  candidate : RouteCandidate
  breakdown : RouteCostBreakdown
  deriving DecidableEq

/-- The assignment of a choice. -/
def Choice.assignment (c : Choice) (m : CostModel) : RouteAssignment :=
  m.assignment c.request c.candidate c.breakdown.total (some c.breakdown)

namespace Selection

/-- The state before the loop. -/
def init (requests : List SchedulerRequest) (candidates : CandidateMatrix) :
    Selection where
  pending := .ofList (requests.map fun request => (request.requestId, request))
  loads := .init candidates
  assignments := .empty

variable (p : TieredCompletionTimePolicy) (candidates : CandidateMatrix)

/-- `request_options`: the pending requests that have a candidate. -/
def options (s : Selection) : Option (List RankedRequest) :=
  (s.pending.values.mapM fun request =>
    (p.ranked s.loads (candidates.row request.requestId)).map
      fun ranked => (request, ranked)).map
        (List.filter fun option => !option.2.isEmpty)

/-- The first pending request by priority, with its cheapest candidate;
`some none` breaks the loop. -/
def choose (s : Selection) : Option (Option Choice) :=
  (s.options p candidates).map fun options =>
    (minBy RankedRequest.priority options).bind fun option =>
      option.2.head?.map fun best =>
        { request := option.1
          candidate := best.candidate
          breakdown := best.breakdown }

/-- The request is assigned and counted on its node. -/
def commit (s : Selection) (c : Choice) : Option Selection :=
  let nodeId := c.candidate.node.nodeId
  let assignment := c.assignment p.costModel
  (s.loads.get nodeId).map fun load =>
    { pending := s.pending.erase c.request.requestId
      loads := s.loads.set nodeId (load.add assignment.inflightWork
        c.candidate.requiredNewGpuBlocks)
      assignments := s.assignments.set c.request.requestId assignment }

/-- One pass that assigns a request. -/
def step (s : Selection) (c : Choice) : Option Selection :=
  if s.choose p candidates = some (some c) then s.commit p c else none

/-- The loop, for at most so many passes. -/
def loop : ℕ → Selection → Option Selection
  | 0, s => if s.pending.items.isEmpty then some s else none
  | fuel + 1, s =>
      if s.pending.items.isEmpty then some s
      else
        (s.choose p candidates).bind fun choice =>
          match choice with
          | none => some s
          | some c => (s.commit p c).bind (loop fuel)

end Selection

namespace TieredCompletionTimePolicy

/-- The state `select_batch` ends in. -/
def selection (p : TieredCompletionTimePolicy)
    (requests : List SchedulerRequest) (candidates : CandidateMatrix) :
    Option Selection :=
  Selection.loop p candidates requests.length (.init requests candidates)

/-- `select_batch`. -/
def selectBatch (p : TieredCompletionTimePolicy)
    (requests : List SchedulerRequest) (candidates : CandidateMatrix) :
    Option (PyDict RequestId RouteAssignment) :=
  (p.selection requests candidates).map Selection.assignments

/-- `observe_first_output`. -/
def observeFirstOutput (p : TieredCompletionTimePolicy)
    (assignment : RouteAssignment) (upstreamFirstOutputMs : ℚ) :
    TieredCompletionTimePolicy :=
  match assignment.costBreakdown with
  | none => p
  | some breakdown =>
      let observedQueueMs :=
        max 0 (upstreamFirstOutputMs - breakdown.promptPathCost)
      { p with
        queueEstimator := p.queueEstimator.observe
          assignment.candidate.node.nodeId
          assignment.candidate.node.routerInflightWork observedQueueMs }

end TieredCompletionTimePolicy

/-- `GpuPrefixLoadPolicy`: its constructor switches the external cache
off. -/
structure GpuPrefixLoadPolicy extends TieredCompletionTimePolicy where
  ignoresExternal : includeExternalCache = false

/-- Nothing is learned but queue times. -/
theorem TieredCompletionTimePolicy.observeFirstOutput_includeExternalCache
    (p : TieredCompletionTimePolicy) (assignment : RouteAssignment)
    (upstreamFirstOutputMs : ℚ) :
    (p.observeFirstOutput assignment upstreamFirstOutputMs).includeExternalCache
      = p.includeExternalCache := by
  unfold observeFirstOutput
  cases assignment.costBreakdown <;> rfl

/-- `observe_first_output`, inherited. -/
def GpuPrefixLoadPolicy.observeFirstOutput (p : GpuPrefixLoadPolicy)
    (assignment : RouteAssignment) (upstreamFirstOutputMs : ℚ) :
    GpuPrefixLoadPolicy where
  toTieredCompletionTimePolicy :=
    p.toTieredCompletionTimePolicy.observeFirstOutput assignment
      upstreamFirstOutputMs
  ignoresExternal :=
    (p.observeFirstOutput_includeExternalCache _ _).trans p.ignoresExternal

end Kareserve
