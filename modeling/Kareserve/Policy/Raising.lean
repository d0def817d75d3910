/-
What the policies raise (`kareserve/policy.py`).

# Where an integer becomes a float

A count is multiplied with a float or divided by one, and Python converts
it first: an integer too large for a float raises an `OverflowError`. A
client decides how large `max_tokens` is, and no policy is spared, as all
of them price the request they assign (`candidate_work`).

The functions of the other modules have the values. Here stand the integers
each converts (`computeConversions` and so on), and each function as it
returns or raises (`candidateWorkOrRaise` and so on). Where it returns, it
returns the value (Policy/Proofs/Raising.lean).

# What a raised exception leaves

The policies keep no state but the queue estimator, which `select_batch`
does not change, and the index of round robin. That one has been advanced
by every request up to the one that cannot be priced, this one included.
-/
import Kareserve.Lib.PyFloat
import Kareserve.Policy.Baselines

namespace Kareserve

open SortKey

-- =========================================================== exceptions

/-- What converting too large an integer raises. -/
def intTooLarge : PyException :=
  ⟨"OverflowError", "int too large to convert to float"⟩

/-- What dividing two integers raises where the quotient is too large. -/
def quotientTooLarge : PyException :=
  ⟨"OverflowError", "integer division result too large for a float"⟩

/-- What `str(n)` raises for more than 4300 digits. -/
def tooManyDigits : PyException :=
  ⟨"ValueError", "Exceeds the limit (4300 digits) for integer string "
    ++ "conversion; use sys.set_int_max_str_digits() to increase the limit"⟩

/-- What looking up a missing key raises. -/
def keyError (key : String) : PyException := ⟨"KeyError", "'" ++ key ++ "'"⟩

/-- An integer that can become a float. -/
def FitsFloat (n : ℤ) : Prop := |(n : ℚ)| < PyJson.Float.limit

instance (n : ℤ) : Decidable (FitsFloat n) :=
  inferInstanceAs (Decidable (_ < _))

/-- Integers that become floats, one after another. -/
def convert (ns : List ℤ) : Except PyException Unit :=
  if ∀ n ∈ ns, FitsFloat n then .ok () else .error intTooLarge

-- =========================================================== cost model

namespace CostModel

variable (m : CostModel)

/-- What `compute_cost` converts. -/
def computeConversions (tokens : ℤ) : List ℤ := [max 0 tokens]

/-- What `prefill_cost` converts, in `predict_ms` or in `compute_cost`. -/
def prefillConversions (promptTokens cachedPrefixTokens : ℤ) : List ℤ :=
  match m.prefillModel with
  | some _ =>
      [max 0 promptTokens, min (max 0 cachedPrefixTokens) (max 0 promptTokens)]
  | none => computeConversions (promptTokens - cachedPrefixTokens)

/-- What `transfer_cost` converts, with the profile of a medium or without. -/
def transferConversions (tokens : ℤ) : List ℤ := [max 0 tokens]

/-- What `prompt_path_cost` converts. -/
def promptPathConversions (pm : PrefixMatch) (includeExternal : Bool) :
    List ℤ :=
  let totalTokens := pm.promptTokens
  let gpuPrefix := min pm.gpuPrefixTokens totalTokens
  if !includeExternal then m.prefillConversions totalTokens gpuPrefix
  else
    let cpuPrefix := min pm.cpuPrefixTokens totalTokens
    let fsPrefix := min pm.fsPrefixTokens totalTokens
    let objPrefix := min pm.objPrefixTokens totalTokens
    let externalPrefix := max (max cpuPrefix fsPrefix) objPrefix
    if externalPrefix ≤ gpuPrefix then
      m.prefillConversions totalTokens gpuPrefix
    else
      let memoryPrefix := max gpuPrefix cpuPrefix
      transferConversions (externalPrefix - gpuPrefix)
        -- the same tokens from whichever L2 media have the prefix
        ++ (if memoryPrefix < externalPrefix then
            transferConversions (externalPrefix - memoryPrefix) else [])
        ++ m.prefillConversions totalTokens externalPrefix

/-- What `candidate_work` converts of the output limit. -/
def outputConversions (maxTokens : ℤ) : List ℤ :=
  match m.decodeMsPerToken with
  | some _ => [maxTokens]
  | none =>
      if m.unit = .normalized then computeConversions maxTokens else []

/-- `candidate_work`, as it returns or raises. -/
def candidateWorkOrRaise (request : SchedulerRequest)
    (candidate : RouteCandidate) : Except PyException ℚ := do
  convert (m.promptPathConversions candidate.prefixMatch true)
  convert (m.outputConversions request.maxTokens)
  return m.candidateWork request candidate

/-- `_assignment`, as it returns or raises. -/
def assignmentOrRaise (request : SchedulerRequest)
    (candidate : RouteCandidate) (estimatedCost : ℚ)
    (costBreakdown : Option RouteCostBreakdown) :
    Except PyException RouteAssignment := do
  let inflightWork ← m.candidateWorkOrRaise request candidate
  return { candidate, inflightWork, estimatedCost, costBreakdown }

end CostModel

/-- What `queue_depth` converts. -/
def NodeRoutingState.depthConversion (node : NodeRoutingState) : ℤ :=
  node.runningRequests.getD 0 + node.waitingRequests.getD 0

/-- What `estimated_gpu_free_blocks` converts. -/
def NodeRoutingState.freeBlockConversions (node : NodeRoutingState) :
    List ℤ :=
  match node.gpuTotalBlocks, node.kvCacheUsage with
  | some total, some _ => [total]
  | _, _ => []

-- ================================================ tiered completion time

namespace TieredCompletionTimePolicy

variable (p : TieredCompletionTimePolicy)

/-- What `_queue_cost` converts. -/
def queueConversions (candidate : RouteCandidate) : List ℤ :=
  [max 0 (candidate.node.waitingRequests.getD 0),
    max 1 (candidate.node.runningRequests.getD 1)]

/-- `free_blocks / node.gpu_total_blocks` in `_capacity_cost`. -/
def divideBlocks (candidate : RouteCandidate) (freeBlocks : Option ℤ) :
    Except PyException Unit :=
  match freeBlocks, candidate.node.gpuTotalBlocks with
  | some free, some total =>
      if 0 < total ∧ PyJson.Float.limit ≤ |(free : ℚ) / total| then
        .error quotientTooLarge
      else .ok ()
  | _, _ => .ok ()

/-- One entry of `evaluated`, as `_breakdown` returns or raises. -/
def evaluationOrRaise (candidate : RouteCandidate) (load : VirtualLoad) :
    Except PyException Evaluation := do
  convert (p.costModel.promptPathConversions candidate.prefixMatch
    p.includeExternalCache)
  convert (queueConversions candidate)
  divideBlocks candidate load.freeBlocks
  return p.evaluation candidate load

/-- `evaluated`, sorted, as it returns or raises. -/
def rankedOrRaise (loads : VirtualLoads) (row : List RouteCandidate) :
    Except PyException (List Evaluation) := do
  let evaluated ← (admissible loads row).mapM fun item =>
    match loads.get item.node.nodeId with
    | none => .error (keyError item.node.nodeId)
    | some load => p.evaluationOrRaise item load
  convert (evaluated.map fun e => e.candidate.node.depthConversion)
  return sortBy Evaluation.key evaluated

end TieredCompletionTimePolicy

namespace Selection

variable (p : TieredCompletionTimePolicy) (candidates : CandidateMatrix)

/-- `request_options`, as the loop that fills it returns or raises. -/
def optionsOrRaise (s : Selection) : Except PyException (List RankedRequest) :=
  do
  let ranked ← s.pending.values.mapM fun request => do
    let evaluated ←
      p.rankedOrRaise s.loads (candidates.row request.requestId)
    return (request, evaluated)
  return ranked.filter fun option => !option.2.isEmpty

/-- A pass of the loop up to its choice, as it returns or raises. -/
def chooseOrRaise (s : Selection) : Except PyException (Option Choice) := do
  let options ← s.optionsOrRaise p candidates
  return (minBy RankedRequest.priority options).bind fun option =>
    option.2.head?.map fun best =>
      { request := option.1
        candidate := best.candidate
        breakdown := best.breakdown }

/-- The rest of the pass: the request is priced, assigned and counted. -/
def commitOrRaise (s : Selection) (c : Choice) :
    Except PyException Selection := do
  let _ ← p.costModel.assignmentOrRaise c.request c.candidate
    c.breakdown.total (some c.breakdown)
  match s.commit p c with
  | none => .error (keyError c.candidate.node.nodeId)
  | some s' => return s'

/-- The loop, for at most so many passes, as it returns or raises. -/
def loopOrRaise : ℕ → Selection → Except PyException Selection
  | 0, s => .ok s
  | fuel + 1, s =>
      if s.pending.items.isEmpty then .ok s
      else do
        match ← s.chooseOrRaise p candidates with
        | none => return s
        | some c =>
            let s' ← s.commitOrRaise p c
            loopOrRaise fuel s'

end Selection

/-- What the first loop of `select_batch` converts, for every candidate of
the matrix. -/
def CandidateMatrix.freeBlockConversions (candidates : CandidateMatrix) :
    List ℤ :=
  (candidates.values.flatMap PyDict.values).flatMap
    fun candidate => candidate.node.freeBlockConversions

/-- `select_batch`, as it returns or raises. -/
def TieredCompletionTimePolicy.selectBatchOrRaise
    (p : TieredCompletionTimePolicy) (requests : List SchedulerRequest)
    (candidates : CandidateMatrix) :
    Except PyException (PyDict RequestId RouteAssignment) := do
  convert candidates.freeBlockConversions
  let s ← Selection.loopOrRaise p candidates requests.length
    (.init requests candidates)
  return s.assignments

-- =========================================================== least load

namespace LeastLoadPolicy

/-- What `min` converts, in `queue_depth` and in the sum, for each
candidate. -/
def keyConversions (counted : List (RouteCandidate × ℤ)) : List ℤ :=
  counted.flatMap fun c => [c.1.node.depthConversion, c.2]

/-- The body of the loop, as it returns or raises. -/
def assignOrRaise (p : LeastLoadPolicy) (candidates : CandidateMatrix)
    (s : State) (request : SchedulerRequest) : Except PyException State := do
  let eligible := eligible (candidates.row request.requestId)
  let active := eligible.foldl
    (fun active item =>
      active.setDefault item.node.nodeId item.node.routerActiveRequests)
    s.active
  let counted ← eligible.mapM fun item =>
    match active.get item.node.nodeId with
    | none => .error (keyError item.node.nodeId)
    | some count => .ok (item, count)
  convert (keyConversions counted)
  match minBy key counted with
  | none => return { s with active }
  | some (candidate, _) =>
      let assignment ← p.costModel.assignmentOrRaise request candidate 0 none
      return { active := active.modify candidate.node.nodeId (· + 1)
               assignments := s.assignments.set request.requestId assignment }

/-- `select_batch`, as it returns or raises. -/
def selectBatchOrRaise (p : LeastLoadPolicy)
    (requests : List SchedulerRequest) (candidates : CandidateMatrix) :
    Except PyException (PyDict RequestId RouteAssignment) :=
  State.assignments <$>
    requests.foldlM (p.assignOrRaise candidates) ⟨.empty, .empty⟩

end LeastLoadPolicy

-- ========================================================== round robin

namespace RoundRobinPolicy

/-- The body of the loop, as it returns or raises: the index moves on
before the request is priced. -/
def assignOrRaise (candidates : CandidateMatrix)
    (s : RoundRobinPolicy × PyDict RequestId RouteAssignment)
    (request : SchedulerRequest) :
    RoundRobinPolicy × Except PyException (PyDict RequestId RouteAssignment) :=
  let eligible := sortedEligible candidates request.requestId
  match eligible[s.1.nextIndex % eligible.length]? with
  | none => (s.1, .ok s.2)
  | some candidate =>
      ({ s.1 with nextIndex := s.1.nextIndex + 1 },
        (s.1.costModel.assignmentOrRaise request candidate 0 none).map
          fun assignment => s.2.set request.requestId assignment)

/-- The loop from a state of it. -/
def loopOrRaise (candidates : CandidateMatrix) :
    RoundRobinPolicy × PyDict RequestId RouteAssignment →
    List SchedulerRequest →
      RoundRobinPolicy × Except PyException (PyDict RequestId RouteAssignment)
  | s, [] => (s.1, .ok s.2)
  | s, request :: requests =>
      match assignOrRaise candidates s request with
      | (p, .error error) => (p, .error error)
      | (p, .ok assignments) => loopOrRaise candidates (p, assignments) requests

/-- `select_batch`, as it returns or raises, with the policy it leaves. -/
def selectBatchOrRaise (p : RoundRobinPolicy)
    (requests : List SchedulerRequest) (candidates : CandidateMatrix) :
    RoundRobinPolicy × Except PyException (PyDict RequestId RouteAssignment) :=
  loopOrRaise candidates (p, .empty) requests

end RoundRobinPolicy

-- ========================================================== prefix hash

namespace PrefixHashPolicy

variable (blake2b : List UInt8 → List UInt8)

/-- The tokens of the key, as `str` returns or raises. -/
def printTokens (p : PrefixHashPolicy) (request : SchedulerRequest) :
    Except PyException Unit :=
  if ∀ token ∈ request.promptTokens.take p.prefixHashTokens,
      token.natAbs < 10 ^ 4300 then
    .ok ()
  else .error tooManyDigits

/-- The body of the loop, as it returns or raises. -/
def assignOrRaise (p : PrefixHashPolicy) (candidates : CandidateMatrix)
    (assignments : PyDict RequestId RouteAssignment)
    (request : SchedulerRequest) :
    Except PyException (PyDict RequestId RouteAssignment) := do
  let eligible := sortedEligible candidates request.requestId
  match eligible[p.prefixHash blake2b request % eligible.length]? with
  | none => return assignments
  | some candidate =>
      p.printTokens request
      let assignment ← p.costModel.assignmentOrRaise request candidate 0 none
      return assignments.set request.requestId assignment

/-- `select_batch`, as it returns or raises. -/
def selectBatchOrRaise (p : PrefixHashPolicy)
    (requests : List SchedulerRequest) (candidates : CandidateMatrix) :
    Except PyException (PyDict RequestId RouteAssignment) :=
  requests.foldlM (p.assignOrRaise blake2b candidates) .empty

end PrefixHashPolicy

-- ============================================================ any policy

/-- `select_batch`, as it returns or raises, with the policy it leaves. -/
def Policy.selectBatchOrRaise (blake2b : List UInt8 → List UInt8)
    (policy : Policy) (requests : List SchedulerRequest)
    (candidates : CandidateMatrix) :
    Policy × Except PyException (PyDict RequestId RouteAssignment) :=
  match policy with
  | .tieredCompletionTime p =>
      (policy, p.selectBatchOrRaise requests candidates)
  | .gpuPrefixLoad p => (policy, p.selectBatchOrRaise requests candidates)
  | .roundRobin p =>
      let answer := p.selectBatchOrRaise requests candidates
      (.roundRobin answer.1, answer.2)
  | .prefixHash p => (policy, p.selectBatchOrRaise blake2b requests candidates)
  | .leastLoad p => (policy, p.selectBatchOrRaise requests candidates)

end Kareserve
