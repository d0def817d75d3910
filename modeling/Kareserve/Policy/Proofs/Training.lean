/-
What the queue estimator is trained on, against what it predicts from.

A queue cost is predicted from the virtual reserved work of a node: its
snapshot's work and what the group has put on it since (`run_reserved`).
What `observe_first_output` later reads is the snapshot's work alone. The
two are the same for an assignment exactly where the group's earlier
requests have put no work on its node.

Both sides are sums of works, so they differ by the works of the group's
earlier choices on the node, and agree if these add up to zero: if there are
none, or if none of them is work.
-/
import Kareserve.Policy.Proofs.Capacity

namespace Kareserve

/-- The work `observe_first_output` passes to `observe`. -/
def RouteAssignment.observedWork (a : RouteAssignment) : ℚ :=
  a.candidate.node.routerInflightWork

section Reserved

variable {p : TieredCompletionTimePolicy} {candidates : CandidateMatrix}
  {requests : List SchedulerRequest}

/-- The work a choice puts on a node. -/
def Choice.workOn (m : CostModel) (nodeId : NodeId) (c : Choice) : ℚ :=
  if c.candidate.node.nodeId = nodeId then
    m.candidateWork c.request c.candidate
  else 0

/-- The work choices have put on a node. -/
def groupWork (m : CostModel) (nodeId : NodeId) (made : List Choice) : ℚ :=
  (made.map (Choice.workOn m nodeId)).sum

/-- What a choice does to the reserved work of every node. -/
theorem SelectionInv.step_reserved {s s' : Selection} {c : Choice}
    (h : SelectionInv p.costModel requests candidates s)
    (hstep : s.step p candidates c = some s') (nodeId : NodeId) :
    (s'.loads.load nodeId).reservedWork
      = (s.loads.load nodeId).reservedWork + c.workOn p.costModel nodeId := by
  obtain ⟨-, -, load, hload, rfl⟩ := h.step_eq_some hstep
  unfold VirtualLoads.load Choice.workOn
  dsimp only
  rw [PyDict.get_set]
  by_cases hid : c.candidate.node.nodeId = nodeId
  · subst hid
    rw [if_pos rfl, if_pos rfl, hload]
    rfl
  · rw [if_neg (Ne.symm hid), if_neg hid, add_zero]

/-- The reserved work after a run. -/
theorem SelectionInv.run_reserved {s s' : Selection} {made : List Choice}
    (h : SelectionInv p.costModel requests candidates s)
    (hrun : Lts.run (Selection.step p candidates) s made = some s')
    (nodeId : NodeId) :
    (s'.loads.load nodeId).reservedWork
      = (s.loads.load nodeId).reservedWork
        + groupWork p.costModel nodeId made := by
  induction made generalizing s with
  | nil =>
      injection hrun with hrun
      rw [hrun]
      exact (add_zero _).symm
  | cons c made ih =>
      obtain ⟨s₁, hstep, hrest⟩ := Lts.run_cons_eq_some.mp hrun
      rw [ih (h.step hstep) hrest, h.step_reserved hstep nodeId, add_assoc]
      rfl

/-- A node's first reserved work is its snapshot's. -/
theorem VirtualLoads.init_reserved (hshared : SharedSnapshots candidates)
    {requestId : RequestId} {c : RouteCandidate}
    (hc : c ∈ candidates.row requestId) :
    ((VirtualLoads.init candidates).load c.node.nodeId).reservedWork
      = c.node.routerInflightWork := by
  unfold VirtualLoads.load
  rw [VirtualLoads.init_get hshared hc]
  rfl

/-- No group takes work off a node. -/
theorem groupWork_nonneg {m : CostModel} (hcosts : m.NonNeg)
    {made : List Choice} (hmax : ∀ c ∈ made, 0 ≤ c.request.maxTokens)
    (nodeId : NodeId) : 0 ≤ groupWork m nodeId made := by
  refine List.sum_nonneg fun work hwork => ?_
  obtain ⟨c, hc, rfl⟩ := List.mem_map.mp hwork
  unfold Choice.workOn
  split
  · exact CostModel.candidateWork_nonneg hcosts (hmax c hc) _
  · exact le_refl 0

/-- Where no cost is negative, a group has put no work on a node only if
each of its requests there is no work. -/
theorem groupWork_eq_zero {m : CostModel} (hcosts : m.NonNeg)
    {made : List Choice} (hmax : ∀ c ∈ made, 0 ≤ c.request.maxTokens)
    {nodeId : NodeId} :
    groupWork m nodeId made = 0
      ↔ ∀ c ∈ made, c.candidate.node.nodeId = nodeId →
        m.candidateWork c.request c.candidate = 0 := by
  induction made with
  | nil => exact iff_of_true rfl fun c hc => by cases hc
  | cons c made ih =>
      have hmade : ∀ c' ∈ made, 0 ≤ c'.request.maxTokens :=
        fun c' hc' => hmax c' (List.mem_cons_of_mem _ hc')
      have hhead : 0 ≤ c.workOn m nodeId := by
        have hone : ∀ c' ∈ [c], 0 ≤ c'.request.maxTokens := by
          intro c' hc'
          rw [List.mem_singleton.mp hc']
          exact hmax c (List.mem_cons_self ..)
        have hgroup := groupWork_nonneg hcosts hone nodeId
        rwa [groupWork, List.map_singleton, List.sum_singleton] at hgroup
      have hrest : 0 ≤ groupWork m nodeId made :=
        groupWork_nonneg hcosts hmade nodeId
      have hsum : groupWork m nodeId (c :: made)
          = c.workOn m nodeId + groupWork m nodeId made := rfl
      have hwork : c.workOn m nodeId = 0
          ↔ (c.candidate.node.nodeId = nodeId →
            m.candidateWork c.request c.candidate = 0) := by
        unfold Choice.workOn
        split
        · rename_i hid
          exact ⟨fun h _ => h, fun h => h hid⟩
        · rename_i hid
          exact iff_of_true rfl fun h => absurd h hid
      rw [hsum, add_eq_zero_iff_of_nonneg hhead hrest, ih hmade, hwork,
        List.forall_mem_cons]

end Reserved

/-- The queue model is trained on what it predicts from only for the first
work of a group on a node. The assignments of `select_batch`, if it returns,
are its choices, in order; the queue cost of each is predicted from the reserved
work its node has when it is made, and `observe_first_output` gives the
estimator the work of the node's snapshot; the two agree exactly if the
requests assigned before it have put no work on its node. -/
theorem trained_on_predicted_iff (p : TieredCompletionTimePolicy)
    (requests : List SchedulerRequest) (candidates : CandidateMatrix)
    (hshared : SharedSnapshots candidates) :
    ∃ choices s, p.selection requests candidates = some s
      ∧ Fault.Returns (p.selectBatchOrRaise requests candidates) s.assignments
      ∧ s.assignments.items = choices.map (fun c =>
        (c.request.requestId, c.assignment p.costModel))
      ∧ ∀ made c later, choices = made ++ c :: later →
        ∃ s', Lts.run (Selection.step p candidates)
            (.init requests candidates) made = some s'
          ∧ c.breakdown.queueCost = p.queueCost c.candidate
            (s'.loads.load c.candidate.node.nodeId).reservedWork
            c.breakdown.promptPathCost
          ∧ (∀ (p' : TieredCompletionTimePolicy) ms,
            p'.observeFirstOutput (c.assignment p.costModel) ms
              = { p' with
                queueEstimator := p'.queueEstimator.observe
                  c.candidate.node.nodeId
                  (c.assignment p.costModel).observedWork
                  (max 0 (ms - c.breakdown.promptPathCost)) })
          ∧ ((c.assignment p.costModel).observedWork
              = (s'.loads.load c.candidate.node.nodeId).reservedWork
            ↔ groupWork p.costModel c.candidate.node.nodeId made = 0) := by
  obtain ⟨choices, s, hselection, hrun, -, -⟩ :=
    p.selection_eq_some requests candidates
  have hinit := SelectionInv.init p.costModel requests candidates
  refine ⟨choices, s, hselection, p.selectBatchOrRaise_returns hselection,
    hinit.run_assignments hrun, ?_⟩
  intro made c later hsplit
  -- the loop up to `c`, and `c` itself, which was the best then
  rw [hsplit, Lts.run_append] at hrun
  obtain ⟨s', hmade, hlater⟩ := Option.bind_eq_some_iff.mp hrun
  obtain ⟨s₁, hstep, -⟩ := Lts.run_cons_eq_some.mp hlater
  obtain ⟨hbest, -⟩ := (hinit.run hmade).step_eq_some hstep
  obtain ⟨hmem, hbreakdown⟩ := Selection.best_mem hbest
  have hrow := mem_of_mem_eligible (mem_of_mem_admissible hmem)
  refine ⟨s', hmade, ?_, fun p' ms => rfl, ?_⟩
  · rw [hbreakdown]
    rfl
  -- the reserved work is the snapshot's and, since then, that of the group on
  -- the node
  · rw [hinit.run_reserved hmade]
    show c.candidate.node.routerInflightWork
      = ((VirtualLoads.init candidates).load _).reservedWork + _ ↔ _
    rw [VirtualLoads.init_reserved hshared hrow]
    exact eq_comm.trans add_eq_left

/-- Of two requests for one node, the first is trained on what it was
predicted from. -/
theorem trained_on_predicted_two_requests :
    ∃ (choices : List Choice) (s : Selection),
      tieredDefault.selection (["q", "r"].map sixBlockRequest)
          (blockMatrix ["a"] ["q", "r"]) = some s
        ∧ s.assignments.items = choices.map (fun c =>
          (c.request.requestId, c.assignment {}))
        ∧ ∀ c later, choices = c :: later →
          (c.assignment {}).observedWork
            = ((VirtualLoads.init (blockMatrix ["a"] ["q", "r"])).load
              c.candidate.node.nodeId).reservedWork := by
  obtain ⟨choices, s, hselection, -, hitems, hchoices⟩ :=
    trained_on_predicted_iff tieredDefault (["q", "r"].map sixBlockRequest)
      (blockMatrix ["a"] ["q", "r"])
      (KareserveTracker.Keyed.init _).sharedSnapshots
  refine ⟨choices, s, hselection, hitems, fun c later hsplit => ?_⟩
  obtain ⟨s', hrun, -, -, htrained⟩ := hchoices [] c later hsplit
  injection hrun with hrun
  subst hrun
  exact htrained.mpr rfl

/-- The second of two equal requests for one node is predicted from the
work of the first, 3/8, and trained on none. -/
theorem second_request_trained_on_idle :
    let requests := ["q", "r"].map sixBlockRequest
    let candidates := blockMatrix ["a"] ["q", "r"]
    (do
      let first ← (← (Selection.init requests candidates).choose tieredDefault
        candidates)
      let s ← (Selection.init requests candidates).step tieredDefault
        candidates first
      let second ← (← s.choose tieredDefault candidates)
      let a := second.assignment tieredDefault.costModel
      return (a.observedWork,
        (s.loads.load second.candidate.node.nodeId).reservedWork))
      = some (0, 3 / 8) := by
  decide +kernel

end Kareserve
