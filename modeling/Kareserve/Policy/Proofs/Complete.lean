/-
Every policy answers a batch completely and legally.

The simple policies are folds over the requests. `AssignsBatch` of the
requests seen so far is the invariant of each fold: a request with an
empty row is skipped (`AssignsBatch.skip`) and any other is given an
eligible candidate (`AssignsBatch.assign`).

What the three have in common is the list they choose from, `eligible`, and
that they choose one of it: the least by a key, or the one at a position.
So each fold needs one lemma on what its choice is, and the rest is shared.
The tiered policies have an invariant of their own
(Policy/Proofs/Selection.lean), from which the same is read off.
-/
import Kareserve.Policy.Baselines
import Kareserve.Policy.Proofs.Selection

namespace Kareserve

open SortKey

section Folds

variable {m : CostModel} {requests : List SchedulerRequest}
  {candidates : CandidateMatrix}
  {assignments : PyDict RequestId RouteAssignment}
  {request : SchedulerRequest}

/-- Of no requests none is assigned. -/
theorem AssignsBatch.nil (m : CostModel) (candidates : CandidateMatrix) :
    AssignsBatch m [] candidates .empty where
  complete := fun request hmem => by cases hmem
  legal := fun requestId a h => by cases h

/-- A request without candidates. -/
theorem AssignsBatch.skip
    (h : AssignsBatch m requests candidates assignments)
    (hrow : candidates.row request.requestId = []) :
    AssignsBatch m (requests ++ [request]) candidates assignments where
  complete := by
    intro request' hmem hrow'
    rcases List.mem_append.mp hmem with hmem | hmem
    · exact h.complete request' hmem hrow'
    · rw [List.mem_singleton] at hmem
      rw [hmem] at hrow'
      exact absurd hrow hrow'
  legal := by
    intro requestId a ha
    obtain ⟨request', hmem, hlegal⟩ := h.legal requestId a ha
    exact ⟨request', List.mem_append_left _ hmem, hlegal⟩

/-- A request with a legal assignment. -/
theorem AssignsBatch.assign {a : RouteAssignment}
    (h : AssignsBatch m requests candidates assignments)
    (ha : Assigns m (candidates.row request.requestId) request a) :
    AssignsBatch m (requests ++ [request]) candidates
      (assignments.set request.requestId a) where
  complete := by
    intro request' hmem hrow
    rw [PyDict.get_set]
    split
    · exact ⟨a, rfl⟩
    · rename_i hne
      rcases List.mem_append.mp hmem with hmem | hmem
      · exact h.complete request' hmem hrow
      · rw [List.mem_singleton] at hmem
        exact absurd (congrArg SchedulerRequest.requestId hmem) hne
  legal := by
    intro requestId a' ha'
    rw [PyDict.get_set] at ha'
    split at ha'
    · rename_i hid
      injection ha' with ha'
      subst ha'
      subst hid
      exact ⟨request, List.mem_append_right _ (List.mem_singleton.mpr rfl),
        rfl, ha⟩
    · obtain ⟨request', hmem, hlegal⟩ := h.legal requestId a' ha'
      exact ⟨request', List.mem_append_left _ hmem, hlegal⟩

end Folds

-- =========================================================== least load

namespace LeastLoadPolicy

/-- The counts once the nodes of a row have their defaults. -/
def withDefaults (row : List RouteCandidate) (active : PyDict NodeId ℤ) :
    PyDict NodeId ℤ :=
  row.foldl (fun active item =>
    active.setDefault item.node.nodeId item.node.routerActiveRequests) active

/-- No look-up of a node of the row raises. -/
theorem exists_get_withDefaults {row : List RouteCandidate}
    {item : RouteCandidate} (h : item ∈ row) (active : PyDict NodeId ℤ) :
    ∃ count, (withDefaults row active).get item.node.nodeId = some count :=
  PyDict.exists_get_foldl_setDefault
    (fun item : RouteCandidate => item.node.nodeId)
    (fun item => item.node.routerActiveRequests) (Or.inr ⟨item, h, rfl⟩)

/-- The candidates of a row, with their nodes' counts. -/
def counted (row : List RouteCandidate) (active : PyDict NodeId ℤ) :
    List (RouteCandidate × ℤ) :=
  row.map fun item =>
    (item, ((withDefaults row active).get item.node.nodeId).getD 0)

/-- The body of the loop, where every count is there. -/
theorem assign_eq (p : LeastLoadPolicy) (candidates : CandidateMatrix)
    (s : State) (request : SchedulerRequest) :
    let row := eligible (candidates.row request.requestId)
    p.assign candidates s request
      = some (match minBy key (counted row s.active) with
        | none => { s with active := withDefaults row s.active }
        | some (candidate, _) =>
            { active := (withDefaults row s.active).modify
                candidate.node.nodeId (· + 1)
              assignments := s.assignments.set request.requestId
                (p.costModel.assignment request candidate 0 none) }) := by
  intro row
  have hcounted : row.mapM (fun item =>
      ((withDefaults row s.active).get item.node.nodeId).map fun count =>
        (item, count)) = some (counted row s.active) :=
    Fault.mapM_of_forall_some fun item hitem => by
      obtain ⟨count, hget⟩ := exists_get_withDefaults hitem s.active
      rw [hget]
      rfl
  unfold assign
  dsimp only
  unfold withDefaults at hcounted ⊢
  exact (congrArg (Option.map _) hcounted).trans rfl

/-- The first component decides a key. -/
theorem le_of_key_le {c c' : RouteCandidate} {count count' : ℤ}
    (h : key (c, count) ≤ key (c', count')) :
    (count : ℚ) + c.node.queueDepth ≤ count' + c'.node.queueDepth := by
  rcases Prod.Lex.toLex_le_toLex.mp h with hlt | ⟨heq, -⟩
  · exact le_of_lt hlt
  · exact le_of_eq heq

/-- What the body of the loop can do: pass over a request without
candidates, or give it an eligible one whose node has least. -/
theorem assign_cases (p : LeastLoadPolicy) {candidates : CandidateMatrix}
    (s : State) {request : SchedulerRequest} {row : List RouteCandidate}
    (hrow : eligible (candidates.row request.requestId) = row) :
    (row = [] ∧ p.assign candidates s request = some s)
      ∨ ∃ item ∈ row,
        p.assign candidates s request = some
          { active := (withDefaults row s.active).modify item.node.nodeId
              (· + 1)
            assignments := s.assignments.set request.requestId
              (p.costModel.assignment request item 0 none) }
        ∧ ∀ c ∈ row, ∀ count count',
          (withDefaults row s.active).get item.node.nodeId = some count →
          (withDefaults row s.active).get c.node.nodeId = some count' →
          (count : ℚ) + item.node.queueDepth ≤ count' + c.node.queueDepth := by
  rw [p.assign_eq, hrow]
  cases hmin : minBy key (counted row s.active) with
  | none =>
      unfold counted at hmin
      rw [minBy_eq_none, List.map_eq_nil_iff] at hmin
      subst hmin
      exact Or.inl ⟨rfl, rfl⟩
  | some least =>
      obtain ⟨item, hitem, heq⟩ := List.mem_map.mp (mem_of_minBy hmin)
      subst heq
      refine Or.inr ⟨item, hitem, rfl, fun c hc n n' hn hn' => ?_⟩
      have hle := le_of_key_le (minBy_le hmin _ (List.mem_map_of_mem hc))
      rw [hn, hn', Option.getD_some, Option.getD_some] at hle
      exact hle

end LeastLoadPolicy

/-- One request of the least-load policy. -/
theorem LeastLoadPolicy.assign_eq_some (p : LeastLoadPolicy)
    {requests : List SchedulerRequest} {candidates : CandidateMatrix}
    {s : State}
    (h : AssignsBatch p.costModel requests candidates s.assignments)
    (request : SchedulerRequest) :
    ∃ s', p.assign candidates s request = some s'
      ∧ AssignsBatch p.costModel (requests ++ [request]) candidates
        s'.assignments := by
  rcases p.assign_cases s rfl with
    ⟨hnone, hassign⟩ | ⟨item, hitem, hassign, -⟩
  · exact ⟨s, hassign, h.skip (eligible_eq_nil.mp hnone)⟩
  · exact ⟨_, hassign, h.assign (assigns_of_eligible hitem _ _ _)⟩

theorem LeastLoadPolicy.selectBatch_eq_some (p : LeastLoadPolicy)
    (requests : List SchedulerRequest) (candidates : CandidateMatrix) :
    ∃ assignments, p.selectBatch requests candidates = some assignments
      ∧ AssignsBatch p.costModel requests candidates assignments := by
  have hfold : ∃ s, requests.foldlM (p.assign candidates) ⟨.empty, .empty⟩
        = some s
      ∧ AssignsBatch p.costModel requests candidates s.assignments := by
    induction requests using List.reverseRecOn with
    | nil => exact ⟨_, rfl, .nil _ _⟩
    | append_singleton requests request ih =>
        obtain ⟨s, hs, hinv⟩ := ih
        obtain ⟨s', hs', hinv'⟩ := p.assign_eq_some hinv request
        refine ⟨s', ?_, hinv'⟩
        rw [List.foldlM_append, hs]
        show (p.assign candidates s request).bind some = some s'
        rw [hs']
        rfl
  obtain ⟨s, hs, hinv⟩ := hfold
  refine ⟨s.assignments, ?_, hinv⟩
  unfold selectBatch
  rw [hs]
  rfl

-- ==================================================== by position in order

theorem mem_sortedEligible {candidates : CandidateMatrix}
    {requestId : RequestId} {c : RouteCandidate} :
    c ∈ sortedEligible candidates requestId
      ↔ c ∈ eligible (candidates.row requestId) := mem_sortBy

/-- A position modulo the length is vacant in an empty row only. -/
theorem sortedEligible_eq_none {candidates : CandidateMatrix}
    {requestId : RequestId} {index : ℕ}
    (h : (sortedEligible candidates requestId)[index
      % (sortedEligible candidates requestId).length]? = none) :
    candidates.row requestId = [] := by
  rw [List.getElem?_eq_none_iff] at h
  have hzero : (sortedEligible candidates requestId).length = 0 := by
    by_contra hpos
    have hlt := Nat.mod_lt index (Nat.pos_of_ne_zero hpos)
    omega
  unfold sortedEligible at hzero
  rw [length_sortBy, List.length_eq_zero_iff, eligible_eq_nil] at hzero
  exact hzero

/-- Round robin answers its batch. -/
theorem RoundRobinPolicy.selectBatch_assigns (p : RoundRobinPolicy)
    (requests : List SchedulerRequest) (candidates : CandidateMatrix) :
    (p.selectBatch requests candidates).1.costModel = p.costModel
      ∧ AssignsBatch p.costModel requests candidates
        (p.selectBatch requests candidates).2 := by
  unfold selectBatch
  induction requests using List.reverseRecOn with
  | nil => exact ⟨rfl, .nil _ _⟩
  | append_singleton requests request ih =>
      rw [List.foldl_append, List.foldl_cons, List.foldl_nil]
      generalize requests.foldl (assign candidates) (p, .empty) = s at ih ⊢
      obtain ⟨hmodel, hinv⟩ := ih
      unfold assign
      dsimp only
      split
      · rename_i hnone
        exact ⟨hmodel, hinv.skip (sortedEligible_eq_none hnone)⟩
      · rename_i candidate hsome
        have hmem := mem_sortedEligible.mp (List.mem_of_getElem? hsome)
        refine ⟨hmodel, hinv.assign ?_⟩
        rw [hmodel]
        exact assigns_of_eligible hmem _ _ _

/-- Prefix hash answers its batch. -/
theorem PrefixHashPolicy.selectBatch_assigns (blake2b : List UInt8 → List UInt8)
    (p : PrefixHashPolicy) (requests : List SchedulerRequest)
    (candidates : CandidateMatrix) :
    AssignsBatch p.costModel requests candidates
      (p.selectBatch blake2b requests candidates) := by
  unfold selectBatch
  induction requests using List.reverseRecOn with
  | nil => exact .nil _ _
  | append_singleton requests request ih =>
      rw [List.foldl_append, List.foldl_cons, List.foldl_nil]
      unfold assign
      dsimp only
      split
      · rename_i hnone
        exact ih.skip (sortedEligible_eq_none hnone)
      · rename_i candidate hsome
        exact ih.assign (assigns_of_eligible
          (mem_sortedEligible.mp (List.mem_of_getElem? hsome)) _ _ _)

-- ============================================================ any policy

/-- Whatever the policy, a batch is answered completely and legally. -/
theorem Policy.selectBatch_eq_some (blake2b : List UInt8 → List UInt8)
    (policy : Policy) (requests : List SchedulerRequest)
    (candidates : CandidateMatrix) :
    ∃ assignments policy',
      policy.selectBatch blake2b requests candidates
          = some (assignments, policy')
        ∧ AssignsBatch policy.costModel requests candidates assignments := by
  cases policy with
  | tieredCompletionTime p =>
      obtain ⟨a, ha, hbatch⟩ := p.selectBatch_eq_some requests candidates
      exact ⟨a, _, by rw [selectBatch, ha]; rfl, hbatch⟩
  | gpuPrefixLoad p =>
      obtain ⟨a, ha, hbatch⟩ := p.selectBatch_eq_some requests candidates
      exact ⟨a, _, by rw [selectBatch, ha]; rfl, hbatch⟩
  | roundRobin p =>
      exact ⟨_, _, rfl, (p.selectBatch_assigns requests candidates).2⟩
  | prefixHash p =>
      exact ⟨_, _, rfl, p.selectBatch_assigns blake2b requests candidates⟩
  | leastLoad p =>
      obtain ⟨a, ha, hbatch⟩ := p.selectBatch_eq_some requests candidates
      exact ⟨a, _, by rw [selectBatch, ha]; rfl, hbatch⟩

/-- What `select_batch` returns answers the batch. -/
theorem Policy.assignsBatch {blake2b : List UInt8 → List UInt8}
    {policy policy' : Policy} {requests : List SchedulerRequest}
    {candidates : CandidateMatrix}
    {assignments : PyDict RequestId RouteAssignment}
    (h : policy.selectBatch blake2b requests candidates
      = some (assignments, policy')) :
    AssignsBatch policy.costModel requests candidates assignments := by
  obtain ⟨answer, left, hselect, hbatch⟩ :=
    policy.selectBatch_eq_some blake2b requests candidates
  rw [h] at hselect
  injection hselect with hselect
  injection hselect with hanswer
  rw [hanswer]
  exact hbatch

end Kareserve
