/-
What every policy shares (`kareserve/policy.py`, `KareserveBasePolicy`).

A candidate matrix has a row for each request and in it a candidate for
each node. `Assigns` is what route planning relies on, whichever policy
answers.
-/
import Kareserve.Policy.CostModel

namespace Kareserve

/-- `CandidateMatrix`. -/
abbrev CandidateMatrix := PyDict RequestId (PyDict NodeId RouteCandidate)

/-- `candidates.get(request_id, {}).values()`. -/
def CandidateMatrix.row (candidates : CandidateMatrix)
    (requestId : RequestId) : List RouteCandidate :=
  ((candidates.get requestId).getD .empty).values

/-- `_eligible`. -/
def eligible (values : List RouteCandidate) : List RouteCandidate :=
  let available :=
    values.filter fun item => item.node.metricsStatus = .available
  if available.isEmpty then values else available

/-- `_assignment`. -/
def CostModel.assignment (m : CostModel) (request : SchedulerRequest)
    (candidate : RouteCandidate) (estimatedCost : ℚ)
    (costBreakdown : Option RouteCostBreakdown) : RouteAssignment where
  candidate
  inflightWork := m.candidateWork request candidate
  estimatedCost
  costBreakdown

/-- The rows of a matrix share one snapshot of each node. -/
def SharedSnapshots (candidates : CandidateMatrix) : Prop :=
  ∀ requestId, ∀ c ∈ candidates.row requestId,
    ∀ requestId', ∀ c' ∈ candidates.row requestId',
      c.node.nodeId = c'.node.nodeId → c.node = c'.node

/-- A row has its candidates under their nodes' ids. -/
def KeyedByNode (candidates : CandidateMatrix) : Prop :=
  ∀ requestId byNode, candidates.get requestId = some byNode →
    ∀ nodeId c, byNode.get nodeId = some c → c.node.nodeId = nodeId

/-- What an assignment of a request owes to its row: one of its
candidates, with available metrics if any has, and the work of that very
request and candidate. -/
structure Assigns (m : CostModel) (row : List RouteCandidate)
    (request : SchedulerRequest) (a : RouteAssignment) : Prop where
  mem : a.candidate ∈ row
  available : (∃ c ∈ row, c.node.metricsStatus = .available) →
    a.candidate.node.metricsStatus = .available
  work : a.inflightWork = m.candidateWork request a.candidate

/-- A complete and legal answer to a batch: the requests whose row is not
empty are assigned, and no others. -/
structure AssignsBatch (m : CostModel) (requests : List SchedulerRequest)
    (candidates : CandidateMatrix)
    (assignments : PyDict RequestId RouteAssignment) : Prop where
  complete : ∀ request ∈ requests, candidates.row request.requestId ≠ [] →
    ∃ a, assignments.get request.requestId = some a
  legal : ∀ requestId a, assignments.get requestId = some a →
    ∃ request ∈ requests, request.requestId = requestId
      ∧ Assigns m (candidates.row requestId) request a

-- ============================================================ eligible

theorem mem_of_mem_eligible {values : List RouteCandidate}
    {c : RouteCandidate} (h : c ∈ eligible values) : c ∈ values := by
  unfold eligible at h
  dsimp only at h
  split at h
  · exact h
  · exact (List.mem_filter.mp h).1

theorem eligible_eq_nil {values : List RouteCandidate} :
    eligible values = [] ↔ values = [] := by
  unfold eligible
  dsimp only
  split
  case isTrue => exact Iff.rfl
  case isFalse hsome =>
    refine iff_of_false (fun hnil => hsome (by rw [hnil]; rfl)) fun hnil => ?_
    rw [hnil] at hsome
    exact hsome rfl

/-- Any eligible candidate will do. -/
theorem assigns_of_eligible {m : CostModel} {row : List RouteCandidate}
    {c : RouteCandidate} (h : c ∈ eligible row) (request : SchedulerRequest)
    (estimatedCost : ℚ) (costBreakdown : Option RouteCostBreakdown) :
    Assigns m row request
      (m.assignment request c estimatedCost costBreakdown) where
  mem := mem_of_mem_eligible h
  available := by
    intro hsome
    obtain ⟨c', hc', hstatus⟩ := hsome
    unfold eligible at h
    dsimp only at h
    split at h
    case isTrue hnone =>
      rw [List.isEmpty_iff, List.filter_eq_nil_iff] at hnone
      exact absurd (decide_eq_true hstatus) (hnone c' hc')
    case isFalse => exact of_decide_eq_true (List.mem_filter.mp h).2
  work := rfl

end Kareserve
