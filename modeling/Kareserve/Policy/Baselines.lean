/-
The simple policies and the choice of a policy (`kareserve/policy.py`).

`hashlib.blake2b` with eight bytes of digest is a parameter: no property
of its values is used.

A request is assigned here with its price, whatever its numbers are. The
same loops with the exceptions that a number too large raises are in
Policy/Raising.lean; what they return is what these return
(`Policy.selectBatchOrRaise_ok`).
-/
import Kareserve.Lib.BigEndian
import Kareserve.Policy.Tiered

namespace Kareserve

open SortKey

-- =========================================================== least load

/-- `LeastLoadPolicy`. -/
structure LeastLoadPolicy where
  costModel : CostModel

namespace LeastLoadPolicy

/-- The locals of `select_batch`. -/
structure State where
  active : PyDict NodeId ℤ
  assignments : PyDict RequestId RouteAssignment

/-- The key of `min`. -/
def key (c : RouteCandidate × ℤ) : ℚ ×ₗ NodeId :=
  toLex (c.2 + c.1.node.queueDepth, c.1.node.nodeId)

/-- The body of the loop; `none` is a `KeyError`. -/
def assign (p : LeastLoadPolicy) (candidates : CandidateMatrix) (s : State)
    (request : SchedulerRequest) : Option State :=
  let eligible := eligible (candidates.row request.requestId)
  let active := eligible.foldl
    (fun active item =>
      active.setDefault item.node.nodeId item.node.routerActiveRequests)
    s.active
  (eligible.mapM fun item =>
    (active.get item.node.nodeId).map fun count => (item, count)).map
      fun counted =>
        match minBy key counted with
        | none => { s with active }
        | some (candidate, _) =>
            { active := active.modify candidate.node.nodeId (· + 1)
              assignments := s.assignments.set request.requestId
                (p.costModel.assignment request candidate 0 none) }

/-- `select_batch`. -/
def selectBatch (p : LeastLoadPolicy) (requests : List SchedulerRequest)
    (candidates : CandidateMatrix) :
    Option (PyDict RequestId RouteAssignment) :=
  (requests.foldlM (p.assign candidates) ⟨.empty, .empty⟩).map
    State.assignments

end LeastLoadPolicy

-- ========================================================== round robin

/-- `RoundRobinPolicy`. -/
structure RoundRobinPolicy where
  costModel : CostModel
  nextIndex : ℕ := 0

/-- The eligible candidates by node id. -/
def sortedEligible (candidates : CandidateMatrix) (requestId : RequestId) :
    List RouteCandidate :=
  sortBy (fun item => item.node.nodeId) (eligible (candidates.row requestId))

namespace RoundRobinPolicy

/-- The body of the loop of `select_batch`: there is a candidate unless
none is eligible. Where the candidate cannot be priced, the code has moved
the index on without an assignment (`assignOrRaise`). -/
def assign (candidates : CandidateMatrix)
    (s : RoundRobinPolicy × PyDict RequestId RouteAssignment)
    (request : SchedulerRequest) :
    RoundRobinPolicy × PyDict RequestId RouteAssignment :=
  let eligible := sortedEligible candidates request.requestId
  match eligible[s.1.nextIndex % eligible.length]? with
  | none => s
  | some candidate =>
      ({ s.1 with nextIndex := s.1.nextIndex + 1 },
        s.2.set request.requestId
          (s.1.costModel.assignment request candidate 0 none))

/-- `select_batch`, with the policy it leaves. -/
def selectBatch (p : RoundRobinPolicy) (requests : List SchedulerRequest)
    (candidates : CandidateMatrix) :
    RoundRobinPolicy × PyDict RequestId RouteAssignment :=
  requests.foldl (assign candidates) (p, .empty)

end RoundRobinPolicy

-- ========================================================== prefix hash

/-- `PrefixHashPolicy`. -/
structure PrefixHashPolicy where
  costModel : CostModel
  prefixHashTokens : ℕ
  prefixHashTokens_pos : 1 ≤ prefixHashTokens

namespace PrefixHashPolicy

variable (blake2b : List UInt8 → List UInt8)

/-- `int.from_bytes(digest, "big")` of a request's first tokens. -/
def prefixHash (p : PrefixHashPolicy) (request : SchedulerRequest) : ℕ :=
  let tokens := request.promptTokens.take p.prefixHashTokens
  let key := (String.intercalate "," (tokens.map strInt)).toUTF8.toList
  BigEndian.fromBytes (blake2b key)

/-- The body of the loop of `select_batch`. -/
def assign (p : PrefixHashPolicy) (candidates : CandidateMatrix)
    (assignments : PyDict RequestId RouteAssignment)
    (request : SchedulerRequest) : PyDict RequestId RouteAssignment :=
  let eligible := sortedEligible candidates request.requestId
  match eligible[p.prefixHash blake2b request % eligible.length]? with
  | none => assignments
  | some candidate =>
      assignments.set request.requestId
        (p.costModel.assignment request candidate 0 none)

/-- `select_batch`. -/
def selectBatch (p : PrefixHashPolicy) (requests : List SchedulerRequest)
    (candidates : CandidateMatrix) : PyDict RequestId RouteAssignment :=
  requests.foldl (p.assign blake2b candidates) .empty

end PrefixHashPolicy

-- ============================================================ any policy

/-- The policies `build_policy` builds, with their state. -/
inductive Policy where
  | tieredCompletionTime (policy : TieredCompletionTimePolicy)
  | gpuPrefixLoad (policy : GpuPrefixLoadPolicy)
  | roundRobin (policy : RoundRobinPolicy)
  | prefixHash (policy : PrefixHashPolicy)
  | leastLoad (policy : LeastLoadPolicy)

namespace Policy

/-- `cost_model`. -/
def costModel : Policy → CostModel
  | .tieredCompletionTime policy => policy.costModel
  | .gpuPrefixLoad policy => policy.costModel
  | .roundRobin policy => policy.costModel
  | .prefixHash policy => policy.costModel
  | .leastLoad policy => policy.costModel

/-- `select_batch`, with the policy it leaves, where no number is too large
(`selectBatchOrRaise`); `none` stands for a `KeyError`. -/
def selectBatch (blake2b : List UInt8 → List UInt8) (policy : Policy)
    (requests : List SchedulerRequest) (candidates : CandidateMatrix) :
    Option (PyDict RequestId RouteAssignment × Policy) :=
  match policy with
  | .tieredCompletionTime p =>
      (p.selectBatch requests candidates).map fun a => (a, policy)
  | .gpuPrefixLoad p =>
      (p.selectBatch requests candidates).map fun a => (a, policy)
  | .roundRobin p =>
      let answer := p.selectBatch requests candidates
      some (answer.2, .roundRobin answer.1)
  | .prefixHash p => some (p.selectBatch blake2b requests candidates, policy)
  | .leastLoad p =>
      (p.selectBatch requests candidates).map fun a => (a, policy)

/-- `observe_first_output`. -/
def observeFirstOutput (policy : Policy) (assignment : RouteAssignment)
    (upstreamFirstOutputMs : ℚ) : Policy :=
  match policy with
  | .tieredCompletionTime p =>
      .tieredCompletionTime
        (p.observeFirstOutput assignment upstreamFirstOutputMs)
  | .gpuPrefixLoad p =>
      .gpuPrefixLoad (p.observeFirstOutput assignment upstreamFirstOutputMs)
  | policy => policy

end Policy

end Kareserve
