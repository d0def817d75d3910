/-
Where a policy does not raise, it does what Policy/Tiered.lean and
Policy/Baselines.lean say.

# Two halves

A call that returns has returned what the policy without exceptions
returns, and has priced every request it assigned
(`Policy.selectBatchOrRaise_ok`). What else is proved of `select_batch`
is therefore true of every call that returns.

A call that raises has met a number that is too large
(`Policy.selectBatchOrRaise_failsOnly`): no lookup of a key fails. When
that happens is in Policy/Proofs/Returning.lean.
-/
import Kareserve.Policy.Raising
import Kareserve.Policy.Proofs.Complete
import Kareserve.Policy.Proofs.Matrix

namespace Kareserve

open SortKey Fault

-- ================================================================ values

section Values

variable (m : CostModel) (p : TieredCompletionTimePolicy)

/-- Work that is returned is the work. -/
theorem CostModel.candidateWorkOrRaise_returns (request : SchedulerRequest)
    (candidate : RouteCandidate) :
    Returns (m.candidateWorkOrRaise request candidate)
      (m.candidateWork request candidate) :=
  (Returns.check _).bind ((Returns.check _).bind (.ok _))

/-- An assignment that does not raise is the one of the exact figures. -/
theorem CostModel.assignmentOrRaise_returns (request : SchedulerRequest)
    (candidate : RouteCandidate) (estimatedCost : ℚ)
    (costBreakdown : Option RouteCostBreakdown) :
    Returns (m.assignmentOrRaise request candidate estimatedCost costBreakdown)
      (m.assignment request candidate estimatedCost costBreakdown) :=
  (m.candidateWorkOrRaise_returns request candidate).bind (.ok _)

/-- An assignment that is made has been priced. -/
theorem CostModel.assignmentOrRaise_ok {request : SchedulerRequest}
    {candidate : RouteCandidate} {estimatedCost : ℚ}
    {costBreakdown : Option RouteCostBreakdown} {a : RouteAssignment}
    (h : m.assignmentOrRaise request candidate estimatedCost costBreakdown
      = .ok a) :
    a = m.assignment request candidate estimatedCost costBreakdown
      ∧ m.candidateWorkOrRaise request candidate = .ok a.inflightWork := by
  refine ⟨m.assignmentOrRaise_returns _ _ _ _ a h, ?_⟩
  obtain ⟨work, hwork, h⟩ := exists_of_bind h
  injection h with h
  rw [← h]
  exact hwork

/-- One candidate, as it is evaluated. -/
theorem TieredCompletionTimePolicy.evaluationOrRaise_returns
    (candidate : RouteCandidate) (load : VirtualLoad) :
    Returns (p.evaluationOrRaise candidate load)
      (p.evaluation candidate load) :=
  (Returns.check _).bind ((Returns.check _).bind ((Returns.check _).bind
    (.ok _)))

/-- A row, as it is ranked: every candidate has its load. -/
theorem TieredCompletionTimePolicy.rankedOrRaise_returns
    {loads : VirtualLoads} {row : List RouteCandidate}
    (h : ∀ c ∈ row, ∃ load, loads.get c.node.nodeId = some load) :
    Returns (p.rankedOrRaise loads row) (p.ranking loads row) := by
  unfold rankedOrRaise ranking
  refine Returns.bind (Returns.mapM fun item hitem => ?_)
    ((Returns.check _).bind (.ok _))
  obtain ⟨load, hload⟩ :=
    h item (mem_of_mem_eligible (mem_of_mem_admissible hitem))
  unfold VirtualLoads.load
  rw [hload]
  exact p.evaluationOrRaise_returns item load

/-- One pass of the loop, up to its choice. -/
theorem Selection.chooseOrRaise_returns {candidates : CandidateMatrix}
    {s : Selection} (h : Covers candidates s.loads) :
    Returns (s.chooseOrRaise p candidates) (s.best p candidates) := by
  unfold chooseOrRaise optionsOrRaise best rankings
  refine Returns.bind (Returns.bind (Returns.mapM fun request _ => ?_)
    (.ok _)) (.ok _)
  exact (p.rankedOrRaise_returns (h request.requestId)).bind (.ok _)

end Values

-- ================================================================ prices

/-- Every request that is assigned has been priced. -/
def Priced (m : CostModel) (requests : List SchedulerRequest)
    (assignments : PyDict RequestId RouteAssignment) : Prop :=
  ∀ requestId a, assignments.get requestId = some a →
    ∃ request ∈ requests, request.requestId = requestId
      ∧ m.candidateWorkOrRaise request a.candidate = .ok a.inflightWork

section Priced

variable {m : CostModel} {requests : List SchedulerRequest}
  {assignments : PyDict RequestId RouteAssignment}
  {request : SchedulerRequest} {a : RouteAssignment}

/-- Where nothing is assigned, nothing is to be priced. -/
theorem Priced.empty (m : CostModel) (requests : List SchedulerRequest) :
    Priced m requests .empty := fun _ _ h => by cases h

/-- One more assignment, of a request that could be priced. -/
theorem Priced.set (h : Priced m requests assignments)
    (hrequest : request ∈ requests)
    (hwork : m.candidateWorkOrRaise request a.candidate
      = .ok a.inflightWork) :
    Priced m requests (assignments.set request.requestId a) := by
  intro requestId a' ha'
  rw [PyDict.get_set] at ha'
  split at ha'
  · rename_i hid
    injection ha' with ha'
    rw [← ha']
    exact ⟨request, hrequest, hid.symm, hwork⟩
  · exact h requestId a' ha'

end Priced

-- =========================================================== what returns

section Loop

variable {p : TieredCompletionTimePolicy} {candidates : CandidateMatrix}
  {requests : List SchedulerRequest}

/-- A pass that goes through. -/
theorem Selection.commitOrRaise_ok {s s' : Selection} {c : Choice}
    (h : s.commitOrRaise p c = .ok s') :
    s.commit p c = some s'
      ∧ p.costModel.candidateWorkOrRaise c.request c.candidate
        = .ok (c.assignment p.costModel).inflightWork := by
  obtain ⟨a, ha, h⟩ := exists_of_bind h
  obtain ⟨heq, hwork⟩ := p.costModel.assignmentOrRaise_ok ha
  rw [heq] at hwork
  refine ⟨?_, hwork⟩
  cases hcommit : s.commit p c with
  | none =>
      rw [hcommit] at h
      cases h
  | some s₁ =>
      rw [hcommit] at h
      injection h with h
      rw [h]

/-- The loop, where it returns, is the loop without exceptions. -/
theorem SelectionInv.loopOrRaise_ok {s s' : Selection}
    (h : SelectionInv p.costModel requests candidates s)
    (hpriced : Priced p.costModel requests s.assignments) {fuel : ℕ}
    (hfuel : s.pending.items.length ≤ fuel)
    (hok : Selection.loopOrRaise p candidates fuel s = .ok s') :
    Selection.loop p candidates fuel s = some s'
      ∧ Priced p.costModel requests s'.assignments := by
  induction fuel generalizing s with
  | zero =>
      injection hok with hok
      subst hok
      refine ⟨if_pos ?_, hpriced⟩
      rw [List.isEmpty_iff, ← List.length_eq_zero_iff]
      omega
  | succ fuel ih =>
      unfold Selection.loopOrRaise at hok
      unfold Selection.loop
      -- nothing is left to choose for
      by_cases hnil : s.pending.items.isEmpty = true
      · rw [if_pos hnil] at hok ⊢
        injection hok with hok
        subst hok
        exact ⟨rfl, hpriced⟩
      rw [if_neg hnil] at hok ⊢
      obtain ⟨choice, hchoice, hok⟩ := exists_of_bind hok
      -- the pass has chosen without raising, so it has chosen the best
      rw [Selection.choose_eq_some h.covers, Option.bind_some,
        ← Selection.chooseOrRaise_returns p h.covers choice hchoice]
      cases hbest : choice with
      | none =>
          rw [hbest] at hok
          injection hok with hok
          subst hok
          exact ⟨rfl, hpriced⟩
      | some c =>
          rw [hbest] at hok
          obtain ⟨s₁, hcommitted, hok⟩ := exists_of_bind hok
          obtain ⟨hcommit, hwork⟩ := Selection.commitOrRaise_ok hcommitted
          rw [Selection.chooseOrRaise_returns p h.covers choice hchoice]
            at hbest
          -- booking it did not raise either, and books what the loop without
          -- exceptions does; one request fewer is pending
          obtain ⟨s₂, hcommit', hstep⟩ := h.step_of_best hbest
          rw [hcommit] at hcommit'
          injection hcommit' with hcommit'
          subst hcommit'
          obtain ⟨-, hget, load, -, hs₁⟩ := h.step_eq_some hstep
          have hless : s₁.pending.items.length < s.pending.items.length := by
            rw [hs₁]
            exact PyDict.length_items_erase_lt hget
          have hpriced₁ : Priced p.costModel requests s₁.assignments := by
            rw [hs₁]
            exact hpriced.set (h.pending _ _ hget).1 hwork
          dsimp only
          rw [hcommit]
          exact ih (h.step hstep) hpriced₁ (by omega) hok

/-- A call of the tiered policies that returns. -/
theorem TieredCompletionTimePolicy.selectBatchOrRaise_ok
    {assignments : PyDict RequestId RouteAssignment}
    (h : p.selectBatchOrRaise requests candidates = .ok assignments) :
    p.selectBatch requests candidates = some assignments
      ∧ Priced p.costModel requests assignments := by
  obtain ⟨-, -, h⟩ := exists_of_bind h
  obtain ⟨s, hs, h⟩ := exists_of_bind h
  injection h with h
  subst h
  have hfuel : (Selection.init requests candidates).pending.items.length
      ≤ requests.length := by
    have hle := PyDict.length_items_ofList_le
      (requests.map fun request => (request.requestId, request))
    rwa [List.length_map] at hle
  obtain ⟨hloop, hpriced⟩ := (SelectionInv.init p.costModel requests
    candidates).loopOrRaise_ok (Priced.empty _ _) hfuel hs
  refine ⟨?_, hpriced⟩
  unfold selectBatch selection
  rw [hloop]
  rfl

/-- A call returns what the loop selects, if it returns. -/
theorem TieredCompletionTimePolicy.selectBatchOrRaise_returns {s : Selection}
    (h : p.selection requests candidates = some s) :
    Returns (p.selectBatchOrRaise requests candidates) s.assignments := by
  intro assignments hok
  obtain ⟨hselect, -⟩ := p.selectBatchOrRaise_ok hok
  unfold selectBatch at hselect
  rw [h] at hselect
  injection hselect with hselect
  exact hselect.symm

end Loop

section Simple

variable {candidates : CandidateMatrix} {requests : List SchedulerRequest}
  {assignments : PyDict RequestId RouteAssignment}

namespace LeastLoadPolicy

variable (p : LeastLoadPolicy)

/-- The end of the body: the least of the row takes the request, if the row
has one. -/
def takeLeast (s : State) (request : SchedulerRequest)
    (active : PyDict NodeId ℤ) :
    Option (RouteCandidate × ℤ) → Except PyException State
  | none => .ok { s with active }
  | some least => do
      let assignment ← p.costModel.assignmentOrRaise request least.1 0 none
      return { active := active.modify least.1.node.nodeId (· + 1)
               assignments :=
                 s.assignments.set request.requestId assignment }

/-- The body of the loop, where every count is there. -/
theorem assignOrRaise_eq (candidates : CandidateMatrix) (s : State)
    (request : SchedulerRequest) :
    let row := eligible (candidates.row request.requestId)
    p.assignOrRaise candidates s request
      = convert (keyConversions (counted row s.active)) >>= fun _ =>
          p.takeLeast s request (withDefaults row s.active)
            (minBy key (counted row s.active)) := by
  intro row
  unfold assignOrRaise
  refine (bind_ok (mapM_ok (g := fun item => (item,
    ((withDefaults row s.active).get item.node.nodeId).getD 0))
      fun item hitem => ?_) _).trans ?_
  · obtain ⟨count, hget⟩ := exists_get_withDefaults hitem s.active
    unfold withDefaults at hget ⊢
    rw [hget]
    rfl
  · refine bind_congr fun _ _ => ?_
    -- the row of the source and `counted` are one list
    rw [show counted row s.active = row.map _ from rfl]
    cases minBy key (row.map _) <;> rfl

/-- One request of the least-load policy. -/
theorem assignOrRaise_ok {s s' : State} {request : SchedulerRequest}
    (hrequest : request ∈ requests)
    (hpriced : Priced p.costModel requests s.assignments)
    (h : p.assignOrRaise candidates s request = .ok s') :
    p.assign candidates s request = some s'
      ∧ Priced p.costModel requests s'.assignments := by
  rw [p.assignOrRaise_eq] at h
  rw [p.assign_eq]
  obtain ⟨-, -, h⟩ := exists_of_bind h
  cases hmin : minBy key
      (counted (eligible (candidates.row request.requestId)) s.active) with
  | none =>
      rw [hmin] at h
      injection h with h
      rw [← h]
      exact ⟨rfl, hpriced⟩
  | some least =>
      rw [hmin] at h
      obtain ⟨a, ha, h⟩ := exists_of_bind h
      obtain ⟨heq, hwork⟩ := p.costModel.assignmentOrRaise_ok ha
      injection h with h
      rw [← h]
      dsimp only
      rw [← heq]
      exact ⟨rfl, hpriced.set hrequest (heq ▸ hwork)⟩

/-- A call of it that returns. -/
theorem selectBatchOrRaise_ok
    (h : p.selectBatchOrRaise requests candidates = .ok assignments) :
    p.selectBatch requests candidates = some assignments
      ∧ Priced p.costModel requests assignments := by
  obtain ⟨s, hs⟩ := map_ok_iff.mp ⟨assignments, h⟩
  have hloop := foldlM_invariant
    (I := fun done s =>
      done.foldlM (p.assign candidates) ⟨.empty, .empty⟩ = some s
        ∧ Priced p.costModel requests s.assignments)
    ⟨rfl, Priced.empty _ _⟩
    (fun done request s s' hleads hinv hassign => by
      obtain ⟨hassign, hpriced⟩ := p.assignOrRaise_ok
        (hleads.subset (List.mem_append_right _ (List.mem_singleton.mpr rfl)))
        hinv.2 hassign
      refine ⟨?_, hpriced⟩
      rw [List.foldlM_append, hinv.1]
      show (p.assign candidates s request).bind some = some s'
      rw [hassign]
      rfl) hs
  unfold selectBatchOrRaise at h
  rw [hs] at h
  injection h with h
  subst h
  refine ⟨?_, hloop.2⟩
  unfold selectBatch
  rw [hloop.1]
  rfl

end LeastLoadPolicy

namespace RoundRobinPolicy

variable {s : RoundRobinPolicy × PyDict RequestId RouteAssignment}
  {p : RoundRobinPolicy}

/-- One request that is not refused a price. -/
theorem assignOrRaise_ok {request : SchedulerRequest}
    (hrequest : request ∈ requests)
    (hpriced : Priced s.1.costModel requests s.2)
    (h : assignOrRaise candidates s request = (p, .ok assignments)) :
    assign candidates s request = (p, assignments)
      ∧ p.costModel = s.1.costModel
      ∧ Priced s.1.costModel requests assignments := by
  unfold assignOrRaise at h
  unfold assign
  dsimp only at h ⊢
  cases hturn : (sortedEligible candidates request.requestId)[
      s.1.nextIndex % (sortedEligible candidates request.requestId).length]?
    with
  | none =>
      rw [hturn] at h
      injection h with hp h
      injection h with h
      subst hp
      subst h
      exact ⟨rfl, rfl, hpriced⟩
  | some candidate =>
      rw [hturn] at h
      injection h with hp h
      cases ha : s.1.costModel.assignmentOrRaise request candidate 0 none with
      | error error =>
          rw [ha] at h
          cases h
      | ok a =>
          obtain ⟨heq, hwork⟩ := s.1.costModel.assignmentOrRaise_ok ha
          rw [ha] at h
          injection h with h
          subst hp
          subst h
          dsimp only
          rw [← heq]
          exact ⟨rfl, rfl, hpriced.set hrequest (heq ▸ hwork)⟩

/-- A loop that returns, over the rest of the requests. -/
theorem loopOrRaise_ok {rest : List SchedulerRequest}
    (hrest : rest ⊆ requests) (hpriced : Priced s.1.costModel requests s.2)
    (h : loopOrRaise candidates s rest = (p, .ok assignments)) :
    rest.foldl (assign candidates) s = (p, assignments)
      ∧ Priced s.1.costModel requests assignments := by
  induction rest generalizing s with
  | nil =>
      injection h with hp h
      injection h with h
      subst hp
      subst h
      exact ⟨rfl, hpriced⟩
  | cons request rest ih =>
      rw [loopOrRaise] at h
      split at h
      next => cases h
      next q assignments₁ hassign =>
        obtain ⟨heq, hmodel, hpriced₁⟩ := assignOrRaise_ok
          (hrest (List.mem_cons_self ..)) hpriced hassign
        rw [← hmodel] at hpriced₁ ⊢
        rw [List.foldl_cons, heq]
        exact ih (fun _ hmem => hrest (List.mem_cons_of_mem _ hmem)) hpriced₁ h

/-- A call of round robin that returns. -/
theorem selectBatchOrRaise_ok {q : RoundRobinPolicy}
    (h : p.selectBatchOrRaise requests candidates = (q, .ok assignments)) :
    p.selectBatch requests candidates = (q, assignments)
      ∧ Priced p.costModel requests assignments :=
  loopOrRaise_ok (List.Subset.refl _) (Priced.empty _ _) h

end RoundRobinPolicy

namespace PrefixHashPolicy

variable {blake2b : List UInt8 → List UInt8} (p : PrefixHashPolicy)

/-- One request of the prefix-hash policy. -/
theorem assignOrRaise_ok {before : PyDict RequestId RouteAssignment}
    {request : SchedulerRequest} (hrequest : request ∈ requests)
    (hpriced : Priced p.costModel requests before)
    (h : p.assignOrRaise blake2b candidates before request
      = .ok assignments) :
    p.assign blake2b candidates before request = assignments
      ∧ Priced p.costModel requests assignments := by
  unfold assignOrRaise at h
  unfold assign
  dsimp only at h ⊢
  cases hplace : (sortedEligible candidates request.requestId)[
      p.prefixHash blake2b request
        % (sortedEligible candidates request.requestId).length]? with
  | none =>
      rw [hplace] at h
      injection h with h
      subst h
      exact ⟨rfl, hpriced⟩
  | some candidate =>
      rw [hplace] at h
      obtain ⟨-, -, h⟩ := exists_of_bind h
      obtain ⟨a, ha, h⟩ := exists_of_bind h
      obtain ⟨heq, hwork⟩ := p.costModel.assignmentOrRaise_ok ha
      injection h with h
      subst h
      dsimp only
      rw [← heq]
      exact ⟨rfl, hpriced.set hrequest (heq ▸ hwork)⟩

/-- A call of it that returns. -/
theorem selectBatchOrRaise_ok
    (h : p.selectBatchOrRaise blake2b requests candidates = .ok assignments) :
    p.selectBatch blake2b requests candidates = assignments
      ∧ Priced p.costModel requests assignments :=
  foldlM_invariant
    (I := fun done assignments =>
      done.foldl (p.assign blake2b candidates) .empty = assignments
        ∧ Priced p.costModel requests assignments)
    ⟨rfl, Priced.empty _ _⟩
    (fun done request before after hleads hinv hassign => by
      rw [List.foldl_append, hinv.1]
      exact p.assignOrRaise_ok
        (hleads.subset (List.mem_append_right _ (List.mem_singleton.mpr rfl)))
        hinv.2 hassign) h

end PrefixHashPolicy

/-- A call of `select_batch` that returns is one of the policy without
exceptions, and it has priced every request it has assigned. -/
theorem Policy.selectBatchOrRaise_ok {blake2b : List UInt8 → List UInt8}
    {policy policy' : Policy}
    (h : policy.selectBatchOrRaise blake2b requests candidates
      = (policy', .ok assignments)) :
    policy.selectBatch blake2b requests candidates
        = some (assignments, policy')
      ∧ Priced policy.costModel requests assignments := by
  cases policy with
  | tieredCompletionTime p =>
      injection h with hp h
      obtain ⟨hselect, hpriced⟩ := p.selectBatchOrRaise_ok h
      rw [selectBatch, hselect, ← hp]
      exact ⟨rfl, hpriced⟩
  | gpuPrefixLoad p =>
      injection h with hp h
      obtain ⟨hselect, hpriced⟩ := p.selectBatchOrRaise_ok h
      rw [selectBatch, hselect, ← hp]
      exact ⟨rfl, hpriced⟩
  | roundRobin p =>
      injection h with hp h
      obtain ⟨hselect, hpriced⟩ :=
        RoundRobinPolicy.selectBatchOrRaise_ok (Prod.ext rfl h)
      rw [selectBatch, hselect, ← hp]
      exact ⟨rfl, hpriced⟩
  | prefixHash p =>
      injection h with hp h
      obtain ⟨hselect, hpriced⟩ := p.selectBatchOrRaise_ok h
      rw [selectBatch, hselect, ← hp]
      exact ⟨rfl, hpriced⟩
  | leastLoad p =>
      injection h with hp h
      obtain ⟨hselect, hpriced⟩ := p.selectBatchOrRaise_ok h
      rw [selectBatch, hselect, ← hp]
      exact ⟨rfl, hpriced⟩

end Simple

-- ============================================================ exceptions

/-- What a number raises that is too large to be converted or printed. -/
def TooLarge (error : PyException) : Prop :=
  error = intTooLarge ∨ error = quotientTooLarge ∨ error = tooManyDigits

section Exceptions

variable (m : CostModel) (p : TieredCompletionTimePolicy)

/-- Converting raises for an integer that is too large only. -/
theorem convert_failsOnly (ns : List ℤ) :
    FailsOnly TooLarge (convert ns) := by
  intro error herror
  unfold convert at herror
  split at herror
  · cases herror
  · injection herror with herror
    exact .inl herror.symm

/-- Pricing a candidate raises nothing but that a figure is too large. -/
theorem CostModel.candidateWorkOrRaise_failsOnly (request : SchedulerRequest)
    (candidate : RouteCandidate) :
    FailsOnly TooLarge (m.candidateWorkOrRaise request candidate) :=
  (convert_failsOnly _).bind fun _ _ =>
    (convert_failsOnly _).bind fun _ _ => .ok _

theorem CostModel.assignmentOrRaise_failsOnly (request : SchedulerRequest)
    (candidate : RouteCandidate) (estimatedCost : ℚ)
    (costBreakdown : Option RouteCostBreakdown) :
    FailsOnly TooLarge
      (m.assignmentOrRaise request candidate estimatedCost costBreakdown) :=
  (m.candidateWorkOrRaise_failsOnly request candidate).bind fun _ _ => .ok _

/-- Nor does an evaluation raise anything else, its quotient of blocks
included. -/
theorem TieredCompletionTimePolicy.evaluationOrRaise_failsOnly
    (candidate : RouteCandidate) (load : VirtualLoad) :
    FailsOnly TooLarge (p.evaluationOrRaise candidate load) := by
  have hdivide : FailsOnly TooLarge
      (divideBlocks candidate load.freeBlocks) := by
    intro error herror
    unfold divideBlocks at herror
    split at herror
    · split at herror
      · injection herror with herror
        exact .inr (.inl herror.symm)
      · cases herror
    · cases herror
  exact (convert_failsOnly _).bind fun _ _ => (convert_failsOnly _).bind
    fun _ _ => hdivide.bind fun _ _ => .ok _

/-- A ranking looks up only loads that are there. -/
theorem TieredCompletionTimePolicy.rankedOrRaise_failsOnly
    {loads : VirtualLoads} {row : List RouteCandidate}
    (h : ∀ c ∈ row, ∃ load, loads.get c.node.nodeId = some load) :
    FailsOnly TooLarge (p.rankedOrRaise loads row) := by
  refine FailsOnly.bind (.mapM fun item hitem => ?_) fun _ _ =>
    (convert_failsOnly _).bind fun _ _ => .ok _
  obtain ⟨load, hload⟩ :=
    h item (mem_of_mem_eligible (mem_of_mem_admissible hitem))
  rw [hload]
  exact p.evaluationOrRaise_failsOnly item load

theorem Selection.chooseOrRaise_failsOnly {candidates : CandidateMatrix}
    {s : Selection} (h : Covers candidates s.loads) :
    FailsOnly TooLarge (s.chooseOrRaise p candidates) :=
  FailsOnly.bind (FailsOnly.bind (.mapM fun request _ =>
    (p.rankedOrRaise_failsOnly (h request.requestId)).bind fun _ _ => .ok _)
    fun _ _ => .ok _) fun _ _ => .ok _

end Exceptions

section Loops

variable {p : TieredCompletionTimePolicy} {candidates : CandidateMatrix}
  {requests : List SchedulerRequest}

/-- No pass looks for a load that is not there. -/
theorem SelectionInv.loopOrRaise_failsOnly {s : Selection}
    (h : SelectionInv p.costModel requests candidates s) (fuel : ℕ) :
    FailsOnly TooLarge (Selection.loopOrRaise p candidates fuel s) := by
  induction fuel generalizing s with
  | zero => exact .ok s
  | succ fuel ih =>
      unfold Selection.loopOrRaise
      split
      · exact .ok s
      refine (Selection.chooseOrRaise_failsOnly p h.covers).bind
        fun choice hchoice => ?_
      have hbest := Selection.chooseOrRaise_returns p h.covers choice hchoice
      cases choice with
      | none => exact .ok s
      | some c =>
          obtain ⟨s₁, hcommit, hstep⟩ := h.step_of_best hbest.symm
          have hcommits : FailsOnly TooLarge (s.commitOrRaise p c) := by
            refine (p.costModel.assignmentOrRaise_failsOnly _ _ _ _).bind
              fun _ _ => ?_
            rw [hcommit]
            exact .ok s₁
          refine hcommits.bind fun s₂ hs₂ => ?_
          have hcommit₂ := (Selection.commitOrRaise_ok hs₂).1
          rw [hcommit] at hcommit₂
          injection hcommit₂ with hcommit₂
          rw [← hcommit₂]
          exact ih (h.step hstep)

/-- The tiered policies as a whole. -/
theorem TieredCompletionTimePolicy.selectBatchOrRaise_failsOnly :
    FailsOnly TooLarge (p.selectBatchOrRaise requests candidates) :=
  (convert_failsOnly _).bind fun _ _ =>
    ((SelectionInv.init p.costModel requests candidates).loopOrRaise_failsOnly
      requests.length).bind fun _ _ => .ok _

/-- Least load: the counts are all there, and `min` converts them. -/
theorem LeastLoadPolicy.selectBatchOrRaise_failsOnly (p : LeastLoadPolicy) :
    FailsOnly TooLarge (p.selectBatchOrRaise requests candidates) := by
  unfold selectBatchOrRaise
  rw [map_eq_pure_bind]
  refine (FailsOnly.foldlM (fun s request _ => ?_) _).bind fun _ _ => .ok _
  rw [p.assignOrRaise_eq]
  refine (convert_failsOnly _).bind fun _ _ => ?_
  cases minBy key
      (counted (eligible (candidates.row request.requestId)) s.active) with
  | none => exact .ok _
  | some least =>
      exact (p.costModel.assignmentOrRaise_failsOnly request least.1 0
        none).bind fun _ _ => .ok _

/-- Round robin: only a price can fail. -/
theorem RoundRobinPolicy.loopOrRaise_failsOnly
    (s : RoundRobinPolicy × PyDict RequestId RouteAssignment) :
    FailsOnly TooLarge (loopOrRaise candidates s requests).2 := by
  induction requests generalizing s with
  | nil => exact .ok _
  | cons request requests ih =>
      rw [loopOrRaise]
      split
      next q error hassign =>
        intro error' herror
        injection herror with herror
        rw [← herror]
        unfold assignOrRaise at hassign
        dsimp only at hassign
        split at hassign
        next => cases hassign
        next candidate _ =>
          injection hassign with _ hassign
          cases ha : s.1.costModel.assignmentOrRaise request candidate 0
            none with
          | ok a =>
              rw [ha] at hassign
              cases hassign
          | error fault =>
              rw [ha] at hassign
              injection hassign with hassign
              rw [← hassign]
              exact s.1.costModel.assignmentOrRaise_failsOnly _ _ _ _ fault ha
      next => exact ih _

/-- Prefix hash: a price, or the text of a token. -/
theorem PrefixHashPolicy.selectBatchOrRaise_failsOnly
    (blake2b : List UInt8 → List UInt8) (p : PrefixHashPolicy) :
    FailsOnly TooLarge (p.selectBatchOrRaise blake2b requests candidates) := by
  refine FailsOnly.foldlM (fun before request _ => ?_) _
  unfold assignOrRaise
  dsimp only
  split
  next => exact .ok _
  next candidate _ =>
    have hprinted : FailsOnly TooLarge (p.printTokens request) := by
      intro error herror
      unfold printTokens at herror
      split at herror
      · cases herror
      · injection herror with herror
        exact .inr (.inr herror.symm)
    exact hprinted.bind fun _ _ =>
      (p.costModel.assignmentOrRaise_failsOnly _ _ _ _).bind fun _ _ => .ok _

/-- A policy raises where a number is too large, and in no other place. -/
theorem Policy.selectBatchOrRaise_failsOnly
    (blake2b : List UInt8 → List UInt8) (policy : Policy) :
    FailsOnly TooLarge
      (policy.selectBatchOrRaise blake2b requests candidates).2 := by
  cases policy with
  | tieredCompletionTime p => exact p.selectBatchOrRaise_failsOnly
  | gpuPrefixLoad p =>
      exact p.toTieredCompletionTimePolicy.selectBatchOrRaise_failsOnly
  | roundRobin p => exact RoundRobinPolicy.loopOrRaise_failsOnly (p, .empty)
  | prefixHash p => exact p.selectBatchOrRaise_failsOnly blake2b
  | leastLoad p => exact p.selectBatchOrRaise_failsOnly

end Loops

end Kareserve
