/-
GPU capacity in the loop of `select_batch`: a node is oversubscribed only
where nothing else is left.

A node's free blocks are a budget (`Lib/Budget.lean`) and the choices on
it are draws. What fits is granted, so the blocks granted over a run stay
within the node's own estimate; what does not fit is admitted only by
`admissible`, for a row in which nothing fits.

The bound is the estimate of the snapshot, which may itself be wrong about
the node; what is bounded is what one group is given of it. A candidate whose
demand is not known, or a node whose capacity is not, draws nothing.
-/
import Kareserve.Lib.Budget
import Kareserve.Policy.Proofs.Raising

namespace Kareserve

section Blocks

variable {p : TieredCompletionTimePolicy} {candidates : CandidateMatrix}
  {requests : List SchedulerRequest}

/-- The estimate is clamped. -/
theorem NodeRoutingState.estimatedGpuFreeBlocks_nonneg
    {node : NodeRoutingState} {free : ℤ}
    (h : node.estimatedGpuFreeBlocks = some free) : 0 ≤ free := by
  unfold estimatedGpuFreeBlocks at h
  split at h
  · injection h with h
    rw [← h]
    exact le_max_left _ _
  · cases h

/-- With shared snapshots, a node's first load is its snapshot's, whichever
candidate shows it. -/
theorem VirtualLoads.init_get (hshared : SharedSnapshots candidates)
    {requestId : RequestId} {c : RouteCandidate}
    (hc : c ∈ candidates.row requestId) :
    (VirtualLoads.init candidates).get c.node.nodeId
      = some c.node.virtualLoad := by
  refine PyDict.get_foldl_setDefault (fun c' hc' hid => ?_)
    (Or.inr ⟨rfl, c, CandidateMatrix.mem_of_mem_row hc, rfl⟩)
  obtain ⟨requestId', hrow⟩ := CandidateMatrix.mem_row_of_mem hc'
  rw [hshared requestId' c' hrow requestId c hc hid]

/-- The blocks a choice asks of a node. -/
def Choice.blocksOn (nodeId : NodeId) (c : Choice) : Option ℤ :=
  if c.candidate.node.nodeId = nodeId then c.candidate.requiredNewGpuBlocks
  else none

/-- What a choice does to the free blocks of every node. -/
theorem SelectionInv.step_freeBlocks {s s' : Selection} {c : Choice}
    (h : SelectionInv p.costModel requests candidates s)
    (hstep : s.step p candidates c = some s') (nodeId : NodeId) :
    s'.loads.freeBlocks nodeId
      = match s.loads.freeBlocks nodeId, c.blocksOn nodeId with
        | some free, some required => some (Budget.draw free required)
        | free, _ => free := by
  obtain ⟨-, -, load, hload, rfl⟩ := h.step_eq_some hstep
  unfold VirtualLoads.freeBlocks Choice.blocksOn
  dsimp only
  rw [PyDict.get_set]
  by_cases hid : c.candidate.node.nodeId = nodeId
  · subst hid
    rw [if_pos rfl, if_pos rfl, hload]
    rfl
  · rw [if_neg (Ne.symm hid), if_neg hid]
    cases (s.loads.get nodeId).bind VirtualLoad.freeBlocks <;> rfl

variable (p candidates) in
/-- The blocks asked of a node over a run by the choices that fit what the
node had left when they were made. -/
def Selection.fittedBlocks (nodeId : NodeId) : Selection → List Choice → ℤ
  | _, [] => 0
  | s, c :: choices =>
      (if c.candidate.node.nodeId = nodeId
          ∧ fitsCapacity c.candidate (s.loads.freeBlocks nodeId) = true then
        c.candidate.requiredNewGpuBlocks.getD 0
      else 0)
        + match s.step p candidates c with
          | none => 0
          | some s' => fittedBlocks nodeId s' choices

/-- The choices on a node draw on its free blocks. -/
theorem SelectionInv.fittedBlocks_eq_granted {s s' : Selection}
    {choices : List Choice}
    (h : SelectionInv p.costModel requests candidates s)
    (hrun : Lts.run (Selection.step p candidates) s choices = some s')
    {nodeId : NodeId} {free : ℤ}
    (hfree : s.loads.freeBlocks nodeId = some free) :
    s.fittedBlocks p candidates nodeId choices
      = Budget.granted free (choices.filterMap (·.blocksOn nodeId)) := by
  induction choices generalizing s free with
  | nil => rfl
  | cons c choices ih =>
      obtain ⟨s₁, hstep, hrest⟩ := Lts.run_cons_eq_some.mp hrun
      have hnext := h.step_freeBlocks hstep nodeId
      have hih : ∀ free', s₁.loads.freeBlocks nodeId = some free' →
          s₁.fittedBlocks p candidates nodeId choices
            = Budget.granted free' (choices.filterMap (·.blocksOn nodeId)) :=
        fun free' => ih (h.step hstep) hrest
      unfold Selection.fittedBlocks
      rw [hstep, hfree, List.filterMap_cons]
      dsimp only
      rw [hfree] at hnext
      cases hblocks : c.blocksOn nodeId with
      -- a choice for another node, or one whose blocks are not known, draws
      -- nothing
      | none =>
          rw [hblocks] at hnext
          rw [hih free hnext]
          unfold Choice.blocksOn at hblocks
          split at hblocks
          · rw [hblocks, Option.getD_none, ite_self, zero_add]
          · rename_i hne
            rw [if_neg fun hboth => hne hboth.1, zero_add]
      -- a choice that fits is granted, and what is left is the estimate of the
      -- next pass
      | some required =>
          rw [hblocks] at hnext
          rw [hih _ hnext]
          unfold Choice.blocksOn at hblocks
          split at hblocks
          · rename_i hid
            rw [Budget.granted_cons, hblocks, Option.getD_some]
            congr 1
            unfold fitsCapacity
            rw [hblocks]
            simp [hid]
          · cases hblocks

/-- A candidate that does not fit is admitted only where none fits. -/
theorem admissible_forced {loads : VirtualLoads} {row : List RouteCandidate}
    {c : RouteCandidate} (h : c ∈ admissible loads row)
    (hforced : fitsCapacity c (loads.freeBlocks c.node.nodeId) = false) :
    ∀ c' ∈ eligible row,
      fitsCapacity c' (loads.freeBlocks c'.node.nodeId) = false := by
  unfold admissible at h
  dsimp only at h
  split at h
  case isTrue hnone =>
    rw [List.isEmpty_iff, List.filter_eq_nil_iff] at hnone
    exact fun c' hc' => Bool.eq_false_iff.mpr (hnone c' hc')
  case isFalse =>
    rw [(List.mem_filter.mp h).2] at hforced
    cases hforced

end Blocks

/-- Capacity is oversubscribed only when forced. In the order in which
`select_batch` makes its assignments, those that fit their node take
together no more than the node's estimate, and one that does not fit is
made only where none of the eligible candidates of its request fits. These
are the assignments of the call, if it returns. -/
theorem oversubscribed_only_when_forced (p : TieredCompletionTimePolicy)
    (requests : List SchedulerRequest) (candidates : CandidateMatrix)
    (hshared : SharedSnapshots candidates) :
    ∃ choices s, p.selection requests candidates = some s
      ∧ Fault.Returns (p.selectBatchOrRaise requests candidates) s.assignments
      ∧ s.assignments.items = choices.map (fun c =>
        (c.request.requestId, c.assignment p.costModel))
      ∧ Lts.run (Selection.step p candidates) (.init requests candidates)
        choices = some s
      ∧ (∀ requestId, ∀ c ∈ candidates.row requestId, ∀ free,
        c.node.estimatedGpuFreeBlocks = some free →
          Selection.fittedBlocks p candidates c.node.nodeId
            (.init requests candidates) choices ≤ free)
      ∧ ∀ made c later s', choices = made ++ c :: later →
        Lts.run (Selection.step p candidates) (.init requests candidates)
          made = some s' →
        fitsCapacity c.candidate
          (s'.loads.freeBlocks c.candidate.node.nodeId) = false →
        ∀ c' ∈ eligible (candidates.row c.request.requestId),
          fitsCapacity c' (s'.loads.freeBlocks c'.node.nodeId) = false := by
  obtain ⟨choices, s, hselection, hrun, -, -⟩ :=
    p.selection_eq_some requests candidates
  have hinit := SelectionInv.init p.costModel requests candidates
  refine ⟨choices, s, hselection, p.selectBatchOrRaise_returns hselection,
    hinit.run_assignments hrun, hrun, ?_, ?_⟩
  · intro requestId c hc free hfree
    -- the node's budget is the estimate of its snapshot, and what fits is what
    -- the budget grants
    have hload : (Selection.init requests candidates).loads.freeBlocks
        c.node.nodeId = some free := by
      show ((VirtualLoads.init candidates).get c.node.nodeId).bind
        VirtualLoad.freeBlocks = some free
      rw [VirtualLoads.init_get hshared hc]
      exact hfree
    rw [hinit.fittedBlocks_eq_granted hrun hload]
    exact Budget.granted_le
      (NodeRoutingState.estimatedGpuFreeBlocks_nonneg hfree) _
  · intro made c later s' hsplit hmade hforced
    rw [hsplit, Lts.run_append, hmade, Option.bind_some] at hrun
    obtain ⟨s₁, hstep, -⟩ := Lts.run_cons_eq_some.mp hrun
    -- the choice was the best of the admissible: if it does not fit, nothing
    -- in its row does
    obtain ⟨hbest, -, -⟩ := (hinit.run hmade).step_eq_some hstep
    exact admissible_forced (Selection.best_mem hbest).1 hforced

/-- Three requests of six blocks each, for a node that has ten. -/
theorem oversubscribed_one_node :
    ∃ choices s,
      tieredDefault.selection (["r", "q", "s"].map sixBlockRequest)
          (blockMatrix ["a"] ["r", "q", "s"]) = some s
        ∧ s.assignments.items = choices.map (fun c =>
          (c.request.requestId, c.assignment {}))
        ∧ Selection.fittedBlocks tieredDefault
          (blockMatrix ["a"] ["r", "q", "s"]) "a"
          (.init (["r", "q", "s"].map sixBlockRequest)
            (blockMatrix ["a"] ["r", "q", "s"])) choices ≤ 10 := by
  obtain ⟨choices, s, hselection, -, hitems, -, hfitted, -⟩ :=
    oversubscribed_only_when_forced tieredDefault
      (["r", "q", "s"].map sixBlockRequest)
      (blockMatrix ["a"] ["r", "q", "s"])
      (KareserveTracker.Keyed.init _).sharedSnapshots
  have he : (KareserveTracker.init [tenBlockNode "a"]).entries.get "a"
      = some (.fresh (tenBlockNode "a")) := rfl
  have hrow : ∃ c ∈ (blockMatrix ["a"] ["r", "q", "s"]).row "r",
      c.node = (NodeEntry.fresh (tenBlockNode "a")).routingState .healthy :=
    KareserveTracker.exists_mem_row_buildRouteCandidates
      (List.mem_cons_self ..) he
  obtain ⟨c, hc, hnode⟩ := hrow
  have hfree := hfitted "r" c hc 10 (by rw [hnode]; decide +kernel)
  rw [hnode] at hfree
  exact ⟨choices, s, hselection, hitems, hfree⟩

end Kareserve
