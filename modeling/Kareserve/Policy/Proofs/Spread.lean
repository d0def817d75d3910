/-
How `select_batch` spreads a group over nodes it cannot tell apart.

# The claim

`AlikeGroup` is a burst of equal requests for equal nodes: the snapshots
differ in the node's id only, the prefixes of a request are alike on all of
them, all requests are the same work and ask for the same blocks, and the
estimator predicts the same for each. Then the loop deals the requests out
evenly, whatever the watermark, the penalty and the estimates are
(`burst_spreads`).

# The argument

A node's virtual load is a function of the number of requests it has been
given (`NodeRoutingState.loadAfter`), which only grows. A node that has been
given fewer than another fits whatever the other fits, costs no more, and
shows fewer active requests, which the sort key compares next. So every
choice goes to a node that has been given least, and the choices are
`Greedy` (Lib/Greedy.lean).
-/
import Kareserve.Policy.Proofs.Balance
import Kareserve.Policy.Proofs.Feedback

namespace Kareserve

open SortKey

-- ================================================================= loads

theorem VirtualLoad.Grows.refl (l : VirtualLoad) : l.Grows l :=
  ⟨le_refl _, Or.inl rfl⟩

theorem VirtualLoad.Grows.trans {l l' l'' : VirtualLoad} (h : l.Grows l')
    (h' : l'.Grows l'') : l.Grows l'' where
  work := h.work.trans h'.work
  blocks := by
    rcases h.blocks with hsame | ⟨free, free', hfree, hfree', hle⟩
    · rw [← hsame]
      exact h'.blocks
    · rcases h'.blocks with hsame' | ⟨free₁, free₂, hfree₁, hfree₂, hle'⟩
      · exact Or.inr ⟨free, free', hfree, hsame'.trans hfree', hle⟩
      · rw [hfree'] at hfree₁
        injection hfree₁ with hfree₁
        exact Or.inr ⟨free, free₂, hfree, hfree₂, by omega⟩

/-- The load of a node that has been given `k` requests, each of so much
work and so many blocks. -/
def NodeRoutingState.loadAfter (node : NodeRoutingState) (work : ℚ)
    (required : Option ℤ) (k : ℕ) : VirtualLoad :=
  (fun l : VirtualLoad => l.add work required)^[k] node.virtualLoad

section LoadAfter

variable {node : NodeRoutingState} {work : ℚ} {required : Option ℤ}

theorem NodeRoutingState.loadAfter_succ (k : ℕ) :
    node.loadAfter work required (k + 1)
      = (node.loadAfter work required k).add work required :=
  Function.iterate_succ_apply' ..

theorem NodeRoutingState.loadAfter_active (k : ℕ) :
    (node.loadAfter work required k).activeRequests
      = node.routerActiveRequests + k := by
  induction k with
  | zero => exact (add_zero _).symm
  | succ k ih =>
      rw [loadAfter_succ]
      show (node.loadAfter work required k).activeRequests + 1 = _
      rw [ih]
      push_cast
      ring

theorem NodeRoutingState.loadAfter_free_nonneg {k : ℕ} {free : ℤ}
    (h : (node.loadAfter work required k).freeBlocks = some free) :
    0 ≤ free := by
  induction k generalizing free with
  | zero => exact node.estimatedGpuFreeBlocks_nonneg h
  | succ k ih =>
      rw [loadAfter_succ] at h
      unfold VirtualLoad.add at h
      dsimp only at h
      split at h
      · injection h with h
        rw [← h]
        exact le_max_left _ _
      · exact ih h

/-- The more requests, the more load. -/
theorem NodeRoutingState.loadAfter_grows (hwork : 0 ≤ work)
    (hrequired : ∀ blocks, required = some blocks → 0 ≤ blocks) {k k' : ℕ}
    (h : k ≤ k') :
    (node.loadAfter work required k).Grows
      (node.loadAfter work required k') := by
  induction k', h using Nat.le_induction with
  | base => exact .refl _
  | succ k' _ ih =>
      rw [loadAfter_succ]
      exact ih.trans (VirtualLoad.add_grows hwork hrequired
        fun _ hfree => loadAfter_free_nonneg hfree)

end LoadAfter

-- ============================================================ alike nodes

/-- Equal requests for nodes that differ in their ids only. -/
structure AlikeGroup (p : TieredCompletionTimePolicy)
    (requests : List SchedulerRequest) (candidates : CandidateMatrix)
    (snapshot : NodeRoutingState) (work : ℚ) (required : Option ℤ) : Prop where
  same : SameNodes candidates
  nodes : ∀ requestId, ∀ c ∈ candidates.row requestId,
    c.node = { snapshot with nodeId := c.node.nodeId }
  prefixes : ∀ requestId, ∀ c ∈ candidates.row requestId,
    ∀ c' ∈ candidates.row requestId, c.prefixMatch = c'.prefixMatch
  demand : ∀ request ∈ requests, ∀ c ∈ candidates.row request.requestId,
    p.costModel.candidateWork request c = work
      ∧ c.requiredNewGpuBlocks = required
  learned : ∀ requestId, ∀ c ∈ candidates.row requestId,
    ∀ c' ∈ candidates.row requestId, ∀ reservedWork,
      p.queueEstimator.predictMs c.node.nodeId reservedWork
        = p.queueEstimator.predictMs c'.node.nodeId reservedWork
  work_nonneg : 0 ≤ work
  required_nonneg : ∀ blocks, required = some blocks → 0 ≤ blocks

/-- The node a choice loads. -/
def Choice.nodeId (c : Choice) : NodeId := c.candidate.node.nodeId

/-- What fits where an admissible candidate does not is admissible too. -/
theorem admissible_of_fits {loads : VirtualLoads} {row : List RouteCandidate}
    {c c' : RouteCandidate} (h : c ∈ admissible loads row)
    (hc' : c' ∈ eligible row)
    (hfits : fitsCapacity c (loads.freeBlocks c.node.nodeId) = true →
      fitsCapacity c' (loads.freeBlocks c'.node.nodeId) = true) :
    c' ∈ admissible loads row := by
  unfold admissible at h ⊢
  dsimp only at h ⊢
  split at h
  case isTrue hnone =>
    rw [if_pos hnone]
    exact hc'
  case isFalse hsome =>
    rw [if_neg hsome]
    exact List.mem_filter.mpr ⟨hc', hfits (List.mem_filter.mp h).2⟩

section Alike

variable {p : TieredCompletionTimePolicy} {requests : List SchedulerRequest}
  {candidates : CandidateMatrix} {snapshot : NodeRoutingState} {work : ℚ}
  {required : Option ℤ}

/-- Alike candidates of a request cost the same under the same load. -/
theorem AlikeGroup.breakdown_eq
    (h : AlikeGroup p requests candidates snapshot work required)
    {requestId : RequestId} {c c' : RouteCandidate}
    (hc : c ∈ candidates.row requestId) (hc' : c' ∈ candidates.row requestId)
    (reservedWork : ℚ) (freeBlocks : Option ℤ) :
    p.breakdown c reservedWork freeBlocks
      = p.breakdown c' reservedWork freeBlocks := by
  have hpath : p.promptPathCost c = p.promptPathCost c' := by
    unfold TieredCompletionTimePolicy.promptPathCost
    rw [h.prefixes _ c hc c' hc']
  have hqueue : p.queueCost c reservedWork (p.promptPathCost c)
      = p.queueCost c' reservedWork (p.promptPathCost c') := by
    unfold TieredCompletionTimePolicy.queueCost
    dsimp only
    rw [h.learned _ c hc c' hc', hpath, h.nodes _ c hc, h.nodes _ c' hc']
  have hcapacity : p.capacityCost c freeBlocks = p.capacityCost c' freeBlocks := by
    unfold TieredCompletionTimePolicy.capacityCost
    rw [h.nodes _ c hc, h.nodes _ c' hc']
  unfold TieredCompletionTimePolicy.breakdown
  dsimp only
  rw [hqueue, hcapacity, hpath]

/-- All or none of a row is eligible for its metrics, which is all. -/
theorem AlikeGroup.eligible_of_mem
    (h : AlikeGroup p requests candidates snapshot work required)
    {requestId : RequestId} {c : RouteCandidate}
    (hc : c ∈ candidates.row requestId) :
    c ∈ eligible (candidates.row requestId) := by
  refine mem_eligible_iff.mpr ⟨hc, fun hsome => ?_⟩
  obtain ⟨c', hc', hstatus⟩ := hsome
  rw [h.nodes _ c' hc'] at hstatus
  rw [h.nodes _ c hc]
  exact hstatus

/-- The loop after some choices: every node carries what the choices on it
make, and each of them went to a node that had been given least. -/
structure Dealt (p : TieredCompletionTimePolicy)
    (requests : List SchedulerRequest) (candidates : CandidateMatrix)
    (snapshot : NodeRoutingState) (work : ℚ) (required : Option ℤ)
    (made : List Choice) (s : Selection) : Prop where
  inv : SelectionInv p.costModel requests candidates s
  loads : ∀ requestId, ∀ c ∈ candidates.row requestId,
    s.loads.get c.node.nodeId = some (snapshot.loadAfter work required
      ((made.map Choice.nodeId).count c.node.nodeId))
  greedy : Greedy {nodeId | ∃ requestId, ∃ c ∈ candidates.row requestId,
    c.node.nodeId = nodeId} (fun _ => (0 : ℤ)) (made.map Choice.nodeId)

theorem AlikeGroup.dealt_init
    (h : AlikeGroup p requests candidates snapshot work required) :
    Dealt p requests candidates snapshot work required []
      (.init requests candidates) where
  inv := .init _ _ _
  loads := by
    intro requestId c hc
    show (VirtualLoads.init candidates).get c.node.nodeId = _
    rw [VirtualLoads.init_get h.same.shared hc, h.nodes _ c hc]
    rfl
  greedy := .nil

theorem eq_evaluation_of_mem {loads : VirtualLoads}
    {row : List RouteCandidate} {e : Evaluation}
    (h : e ∈ p.ranking loads row) :
    e = p.evaluation e.candidate (loads.load e.candidate.node.nodeId) := by
  unfold TieredCompletionTimePolicy.ranking at h
  rw [mem_sortBy] at h
  obtain ⟨item, -, rfl⟩ := List.mem_map.mp h
  rfl

/-- The first of a ranking has the least key. -/
theorem ranking_head_le {loads : VirtualLoads} {row : List RouteCandidate}
    {e : Evaluation} {rest : List Evaluation}
    (h : p.ranking loads row = e :: rest) {c : RouteCandidate}
    (hc : c ∈ admissible loads row) :
    e.key ≤ (p.evaluation c (loads.load c.node.nodeId)).key := by
  have hsorted := pairwise_sortBy Evaluation.key ((admissible loads row).map
    fun item => p.evaluation item (loads.load item.node.nodeId))
  have hmem : p.evaluation c (loads.load c.node.nodeId)
      ∈ p.ranking loads row := by
    unfold TieredCompletionTimePolicy.ranking
    rw [mem_sortBy]
    exact List.mem_map.mpr ⟨c, hc, rfl⟩
  unfold TieredCompletionTimePolicy.ranking at h hmem
  rw [h] at hsorted hmem
  rcases List.mem_cons.mp hmem with heq | hrest
  · rw [heq]
  · exact (List.pairwise_cons.mp hsorted).1 _ hrest

/-- Of two evaluations the one that costs no less and shows more active
requests comes later. -/
theorem Evaluation.not_key_le {e e' : Evaluation}
    (hcost : e'.breakdown.total ≤ e.breakdown.total)
    (hactive : e'.activeRequests < e.activeRequests) : ¬ e.key ≤ e'.key := by
  unfold Evaluation.key
  rw [Prod.Lex.toLex_le_toLex, Prod.Lex.toLex_le_toLex]
  rintro (hless | ⟨-, hless | ⟨hsame, -⟩⟩)
  · exact absurd hless (not_lt.mpr hcost)
  · exact absurd hless (not_lt.mpr hactive.le)
  · exact absurd hsame hactive.ne'

/-- A choice goes to a node that has been given least. -/
theorem AlikeGroup.least
    (h : AlikeGroup p requests candidates snapshot work required)
    {made : List Choice} {s s' : Selection}
    (hdealt : Dealt p requests candidates snapshot work required made s)
    {c : Choice} (hstep : s.step p candidates c = some s') {nodeId : NodeId}
    (hnode : ∃ requestId, ∃ c' ∈ candidates.row requestId,
      c'.node.nodeId = nodeId) :
    (made.map Choice.nodeId).count c.nodeId
      ≤ (made.map Choice.nodeId).count nodeId := by
  by_contra hmore
  rw [not_le] at hmore
  obtain ⟨hbest, hpending, -⟩ := hdealt.inv.step_eq_some hstep
  have hrequest := (hdealt.inv.pending _ _ hpending).1
  have hadmissible := (Selection.best_mem hbest).1
  have hc := mem_of_mem_eligible (mem_of_mem_admissible hadmissible)
  -- the other node has a candidate in the row of the request
  obtain ⟨requestId, c₀, hc₀, rfl⟩ := hnode
  obtain ⟨c', hc', hid⟩ := h.same.same requestId c₀ hc₀ c.request.requestId
    (List.ne_nil_of_mem hc)
  rw [← hid] at hmore
  have hload := hdealt.loads _ _ hc
  have hload' := hdealt.loads _ c' hc'
  have hgrows := snapshot.loadAfter_grows h.work_nonneg h.required_nonneg
    (Nat.le_of_lt hmore)
  -- and is admissible too
  have hadmissible' : c' ∈ admissible s.loads
      (candidates.row c.request.requestId) := by
    refine admissible_of_fits hadmissible (h.eligible_of_mem hc') fun hfits => ?_
    unfold VirtualLoads.freeBlocks at hfits ⊢
    rw [hload, Option.bind_some] at hfits
    rw [hload', Option.bind_some]
    refine hgrows.fits ?_
    unfold fitsCapacity at hfits ⊢
    rw [(h.demand _ hrequest _ hc).2] at hfits
    rw [(h.demand _ hrequest _ hc').2]
    exact hfits
  -- so it would have been chosen before this one
  obtain ⟨e, rest, -, hranking, hcandidate, -⟩ := Selection.best_eq_some hbest
  have hmem : e ∈ p.ranking s.loads (candidates.row c.request.requestId) := by
    rw [hranking]
    exact List.mem_cons_self ..
  have heq := eq_evaluation_of_mem hmem
  rw [← hcandidate] at heq
  have hhead := ranking_head_le hranking hadmissible'
  unfold VirtualLoads.load at heq hhead
  rw [hload, Option.getD_some] at heq
  rw [hload', Option.getD_some, heq] at hhead
  refine Evaluation.not_key_le ?_ ?_ hhead
  · unfold TieredCompletionTimePolicy.evaluation
    dsimp only
    rw [h.breakdown_eq hc hc']
    exact hgrows.total_le c'
  · unfold TieredCompletionTimePolicy.evaluation
    dsimp only
    rw [NodeRoutingState.loadAfter_active, NodeRoutingState.loadAfter_active,
      add_lt_add_iff_left]
    exact Int.ofNat_lt.mpr hmore

theorem AlikeGroup.dealt_step
    (h : AlikeGroup p requests candidates snapshot work required)
    {made : List Choice} {s s' : Selection}
    (hdealt : Dealt p requests candidates snapshot work required made s)
    {c : Choice} (hstep : s.step p candidates c = some s') :
    Dealt p requests candidates snapshot work required (made ++ [c]) s' where
  inv := hdealt.inv.step hstep
  loads := by
    intro requestId c' hc'
    obtain ⟨hbest, hpending, load, hload, rfl⟩ :=
      hdealt.inv.step_eq_some hstep
    have hc := mem_of_mem_eligible
      (mem_of_mem_admissible (Selection.best_mem hbest).1)
    have hrequest := (hdealt.inv.pending _ _ hpending).1
    obtain ⟨hwork, hrequired⟩ := h.demand _ hrequest _ hc
    dsimp only
    rw [List.map_append, List.count_append, List.map_singleton,
      List.count_singleton, PyDict.get_set]
    -- the chosen node has the load of one request more, and the others theirs
    by_cases hid : c'.node.nodeId = c.candidate.node.nodeId
    · rw [hdealt.loads _ _ hc] at hload
      injection hload with hload
      rw [if_pos hid, if_pos (by simp [Choice.nodeId, hid]), hid,
        NodeRoutingState.loadAfter_succ, hload, hrequired]
      show some (load.add (p.costModel.candidateWork c.request c.candidate)
        required) = _
      rw [hwork]
    · rw [if_neg hid, if_neg (by simpa [Choice.nodeId] using Ne.symm hid),
        hdealt.loads _ c' hc', Nat.add_zero]
  greedy := by
    rw [List.map_append]
    refine hdealt.greedy.snoc fun nodeId hnode => ?_
    -- nodes that are alike cost the same at the same load, so the cheapest has
    -- the fewest
    have hleast := h.least hdealt hstep hnode
    unfold Greedy.load
    rw [zero_add, zero_add]
    exact_mod_cast hleast

theorem AlikeGroup.dealt_run
    (h : AlikeGroup p requests candidates snapshot work required)
    {made : List Choice} {s : Selection}
    (hrun : Lts.run (Selection.step p candidates) (.init requests candidates)
      made = some s) :
    Dealt p requests candidates snapshot work required made s := by
  induction made using List.reverseRecOn generalizing s with
  | nil =>
      injection hrun with hrun
      exact hrun ▸ h.dealt_init
  | append_singleton made c ih =>
      obtain ⟨s₁, hrest, hstep⟩ := Lts.run_concat_eq_some.mp hrun
      exact h.dealt_step (ih hrest) hstep

end Alike

-- ======================================================== alike entries

/-- The entries of a tracker differ in their nodes' ids only. -/
def KareserveTracker.AllLike (t : KareserveTracker) (like : NodeEntry) : Prop :=
  ∀ nodeId e, t.entries.get nodeId = some e →
    e = { like with node := { like.node with nodeId } }

section Tracker

variable {p : TieredCompletionTimePolicy} {t : KareserveTracker}
  {like : NodeEntry} {requests : List SchedulerRequest}
  {defaultBlockSize : ℤ}
  {externalMatches : Option (PyDict RequestId (PyDict String PrefixMatch))}

theorem KareserveTracker.AllLike.keyed (h : t.AllLike like) : t.Keyed := by
  intro nodeId e he
  rw [h nodeId e he]

/-- Equal requests for such a tracker are an alike group, where the policy
has learned the same of each node. -/
theorem KareserveTracker.AllLike.alikeGroup (h : t.AllLike like)
    (hdistinct : (requests.map (·.requestId)).Nodup)
    {promptTokens : List Token} {maxTokens : ℤ}
    {externalMatch : Option PrefixMatch}
    (hequal : ∀ request ∈ requests, request.promptTokens = promptTokens
      ∧ request.maxTokens = maxTokens
      ∧ (((externalMatches.getD .empty).get request.requestId).bind
        fun byDomain => byDomain.get like.node.cacheDomainId) = externalMatch)
    (hcosts : p.costModel.NonNeg) (hmax : 0 ≤ maxTokens)
    (hlearned : ∀ nodeId nodeId' reservedWork,
      p.queueEstimator.predictMs nodeId reservedWork
        = p.queueEstimator.predictMs nodeId' reservedWork) :
    ∃ snapshot work required, AlikeGroup p requests
      (t.buildRouteCandidates requests defaultBlockSize externalMatches)
      snapshot work required := by
  -- what all candidates are but for the request and the node
  let snapshot := like.routingState (t.domainStatus like.node.cacheDomainId)
  let request₀ : SchedulerRequest := ⟨"", promptTokens, maxTokens⟩
  let c₀ := like.routeCandidate snapshot request₀ defaultBlockSize externalMatch
  have hrow : ∀ requestId, ∀ c ∈ CandidateMatrix.row (t.buildRouteCandidates
      requests defaultBlockSize externalMatches) requestId, ∃ nodeId,
        c = { c₀ with requestId, node := { snapshot with nodeId } } := by
    intro requestId c hc
    obtain ⟨request, hrequest, rfl, -⟩ :=
      KareserveTracker.mem_row_buildRouteCandidates hc
    unfold CandidateMatrix.row at hc
    rw [KareserveTracker.get_buildRouteCandidates_row hdistinct hrequest,
      Option.getD_some, PyDict.mem_values_iff] at hc
    obtain ⟨nodeId, hc⟩ := hc
    rw [PyDict.get_map] at hc
    obtain ⟨e, he, rfl⟩ := Option.map_eq_some_iff.mp hc
    obtain ⟨requestId, requestTokens, requestMax⟩ := request
    obtain ⟨hprompt, hmaxTokens, hexternal⟩ := hequal _ hrequest
    dsimp only at hprompt hmaxTokens hexternal ⊢
    subst hprompt hmaxTokens
    -- an entry like the others has the others' snapshot, and an equal request
    -- the others' prefixes
    rw [h nodeId e he]
    dsimp only
    rw [hexternal]
    exact ⟨nodeId, rfl⟩
  refine ⟨snapshot, p.costModel.candidateWork request₀ c₀,
    c₀.requiredNewGpuBlocks, h.keyed.sameNodes _ _ _, ?_, ?_, ?_, ?_, ?_, ?_⟩
  · intro requestId c hc
    obtain ⟨nodeId, rfl⟩ := hrow requestId c hc
    rfl
  · intro requestId c hc c' hc'
    obtain ⟨nodeId, rfl⟩ := hrow requestId c hc
    obtain ⟨nodeId', rfl⟩ := hrow requestId c' hc'
    rfl
  · intro request hrequest c hc
    obtain ⟨nodeId, rfl⟩ := hrow request.requestId c hc
    refine ⟨?_, rfl⟩
    unfold CostModel.candidateWork
    rw [(hequal request hrequest).2.1]
  · intro requestId c hc c' hc' reservedWork
    exact hlearned _ _ reservedWork
  · exact CostModel.candidateWork_nonneg hcosts hmax c₀
  · intro blocks hblocks
    exact NodeEntry.routeCandidate_required_nonneg hmax hblocks

end Tracker

/-- How many requests of an answer a node is given. -/
def assignedTo (assignments : PyDict RequestId RouteAssignment)
    (nodeId : NodeId) : ℕ :=
  (assignments.values.map fun a => a.candidate.node.nodeId).count nodeId

/-- A burst is spread evenly. Equal requests for nodes that differ in their
ids only are dealt out so that no node is given more than one request more
than another, however the estimates, the watermark and the penalty are. This
is what the call returns, if it returns. -/
theorem burst_spreads (p : TieredCompletionTimePolicy)
    (requests : List SchedulerRequest) (candidates : CandidateMatrix)
    (snapshot : NodeRoutingState) (work : ℚ) (required : Option ℤ)
    (h : AlikeGroup p requests candidates snapshot work required) :
    ∃ assignments, p.selectBatch requests candidates = some assignments
      ∧ Fault.Returns (p.selectBatchOrRaise requests candidates) assignments
      ∧ AssignsBatch p.costModel requests candidates assignments
      ∧ ∀ requestId, ∀ i ∈ candidates.row requestId,
        ∀ requestId', ∀ j ∈ candidates.row requestId',
          assignedTo assignments i.node.nodeId
            ≤ assignedTo assignments j.node.nodeId + 1 := by
  obtain ⟨choices, s, hselection, hrun, -⟩ :=
    p.selection_eq_some requests candidates
  obtain ⟨assignments, hselect, hbatch⟩ :=
    p.selectBatch_eq_some requests candidates
  have hassignments : assignments = s.assignments := by
    unfold TieredCompletionTimePolicy.selectBatch at hselect
    rw [hselection] at hselect
    exact (Option.some.inj hselect).symm
  -- who was assigned to a node is who was chosen for it
  have hcount : ∀ nodeId, assignedTo assignments nodeId
      = (choices.map Choice.nodeId).count nodeId := by
    intro nodeId
    unfold assignedTo PyDict.values
    rw [hassignments, (SelectionInv.init _ _ _).run_assignments hrun]
    show ((([] ++ choices.map _).map Prod.snd).map _).count nodeId = _
    rw [List.nil_append, List.map_map, List.map_map]
    rfl
  have hreturns : Fault.Returns (p.selectBatchOrRaise requests candidates)
      assignments := hassignments ▸ p.selectBatchOrRaise_returns hselection
  refine ⟨assignments, hselect, hreturns, hbatch,
    fun requestId i _ requestId' j hj => ?_⟩
  rw [hcount, hcount]
  -- a node that was chosen at all was, when it was chosen last, among the
  -- least loaded
  by_cases hi : i.node.nodeId ∈ choices.map Choice.nodeId
  · have hle := (h.dealt_run hrun).greedy.load_le hi ⟨requestId', j, hj, rfl⟩
    unfold Greedy.load at hle
    rw [zero_add, zero_add] at hle
    exact_mod_cast hle
  · rw [List.count_eq_zero.mpr hi]
    exact Nat.zero_le _

/-- Three requests for two nodes. -/
theorem burst_spreads_two_nodes :
    ∃ assignments, tieredDefault.selectBatch
        (["r", "q", "s"].map sixBlockRequest)
        (blockMatrix ["a", "b"] ["r", "q", "s"]) = some assignments
      ∧ assignedTo assignments "a" ≤ assignedTo assignments "b" + 1
      ∧ assignedTo assignments "b" ≤ assignedTo assignments "a" + 1 := by
  have hlike : (KareserveTracker.init (["a", "b"].map tenBlockNode)).AllLike
      (.fresh (tenBlockNode "")) := by
    intro nodeId e he
    obtain ⟨node, hnode, rfl, rfl⟩ := KareserveTracker.init_get he
    obtain ⟨nodeId, -, rfl⟩ := List.mem_map.mp hnode
    rfl
  have hequal : ∀ request ∈ ["r", "q", "s"].map sixBlockRequest,
      request.promptTokens = [1, 2] ∧ request.maxTokens = 94
        ∧ ((((none : Option (PyDict RequestId (PyDict String PrefixMatch))).getD
          .empty).get request.requestId).bind fun byDomain =>
            byDomain.get "d") = none := by
    intro request hrequest
    obtain ⟨requestId, -, rfl⟩ := List.mem_map.mp hrequest
    exact ⟨rfl, rfl, rfl⟩
  have hlearned : ∀ nodeId nodeId' reservedWork,
      tieredDefault.queueEstimator.predictMs nodeId reservedWork
        = tieredDefault.queueEstimator.predictMs nodeId' reservedWork :=
    fun _ _ _ => rfl
  have hgroup : ∃ snapshot work required, AlikeGroup tieredDefault
      (["r", "q", "s"].map sixBlockRequest)
      (blockMatrix ["a", "b"] ["r", "q", "s"]) snapshot work required :=
    hlike.alikeGroup (by decide) hequal CostModel.nonNeg_default (by decide)
      hlearned
  have hnode : ∀ nodeId ∈ ["a", "b"],
      ∃ c ∈ (blockMatrix ["a", "b"] ["r", "q", "s"]).row "r",
        c.node.nodeId = nodeId := by
    intro nodeId hnodeId
    obtain ⟨e, he⟩ := KareserveTracker.init_known
      (List.mem_map_of_mem (f := tenBlockNode) hnodeId)
    obtain ⟨c, hc, hnode⟩ :=
      KareserveTracker.exists_mem_row_buildRouteCandidates
        (List.mem_map_of_mem (f := sixBlockRequest)
          (List.mem_cons_self (a := "r") (l := ["q", "s"]))) he
    exact ⟨c, hc, (congrArg NodeRoutingState.nodeId hnode).trans
      (KareserveTracker.Keyed.init _ _ _ he)⟩
  obtain ⟨snapshot, work, required, hgroup⟩ := hgroup
  obtain ⟨assignments, hselect, -, -, hspread⟩ := burst_spreads _ _ _ _ _ _ hgroup
  obtain ⟨i, hi, hia⟩ := hnode "a" (by decide)
  obtain ⟨j, hj, hjb⟩ := hnode "b" (by decide)
  have hab := hspread _ i hi _ j hj
  have hba := hspread _ j hj _ i hi
  rw [hia, hjb] at hab hba
  exact ⟨assignments, hselect, hab, hba⟩

end Kareserve
