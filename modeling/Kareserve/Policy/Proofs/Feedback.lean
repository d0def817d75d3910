/-
The feedback of an assignment on the costs: it only ever makes the chosen
node look worse.

A step adds work to one node and takes blocks from it, so that node's load
grows (`VirtualLoad.Grows`) and no other load moves. A candidate's queue
cost is monotone in the reserved work and its capacity cost antitone in
the free blocks; its prompt path reads neither.

That no free blocks are negative is needed for the usage to be a share, and
is kept by the loop itself (`SelectionInv.step_freeNonNeg`). That the prices
are not negative is asked of the cost model: with a negative number of bytes
per token a reservation is negative work, and a pending request gets cheaper
on the node that was just loaded (`negative_bytes_attract`).
-/
import Kareserve.Policy.Proofs.Capacity

namespace Kareserve

namespace TieredCompletionTimePolicy

variable (p : TieredCompletionTimePolicy)

-- ============================================================== capacity

/-- `normalized` of `_capacity_cost`. -/
def normalizedUsage (usage : ℚ) : ℚ :=
  (min usage 1 - p.capacityHighWatermark)
    / max (1 - p.capacityHighWatermark) (1 / 10 ^ 6)

/-- `_capacity_cost`, as a function of the usage. -/
def usageCost (usage : ℚ) : ℚ :=
  if usage ≤ p.capacityHighWatermark then 0
  else
    let cost := p.capacityPenalty * p.normalizedUsage usage
      * p.normalizedUsage usage
    if p.capacityHardLimit ≤ usage then cost + p.capacityPenalty else cost

/-- `usage` of `_capacity_cost`. -/
def capacityUsage (candidate : RouteCandidate) (freeBlocks : Option ℤ) :
    Option ℚ :=
  match freeBlocks, candidate.node.gpuTotalBlocks with
  | some free, some total =>
      if 0 < total then some (1 - (free : ℚ) / total)
      else candidate.node.kvCacheUsage
  | _, _ => candidate.node.kvCacheUsage

/-- The capacity cost, as a function of the usage. -/
theorem capacityCost_eq (candidate : RouteCandidate)
    (freeBlocks : Option ℤ) :
    p.capacityCost candidate freeBlocks
      = ((capacityUsage candidate freeBlocks).map p.usageCost).getD 0 := by
  unfold capacityCost
  dsimp only
  split
  case h_1 hnone =>
    have husage : capacityUsage candidate freeBlocks = none := hnone
    rw [husage]
    rfl
  case h_2 usage hsome =>
    have husage : capacityUsage candidate freeBlocks = some usage := hsome
    rw [husage]
    rfl

variable {p}

theorem watermark_le_one : p.capacityHighWatermark ≤ 1 :=
  p.watermark_le_hardLimit.trans p.hardLimit_le_one

/-- The usage is never divided by zero, a watermark of one included. -/
theorem span_pos : 0 < max (1 - p.capacityHighWatermark) (1 / 10 ^ 6) :=
  lt_max_of_lt_right (by norm_num)

/-- Past the watermark the normalised usage is between zero -/
theorem normalizedUsage_nonneg {usage : ℚ}
    (h : p.capacityHighWatermark < usage) : 0 ≤ p.normalizedUsage usage := by
  refine div_nonneg (sub_nonneg.mpr ?_) (le_of_lt span_pos)
  exact le_min (le_of_lt h) watermark_le_one

theorem normalizedUsage_le_one (usage : ℚ) : p.normalizedUsage usage ≤ 1 := by
  unfold normalizedUsage
  rw [div_le_one span_pos]
  apply le_max_of_le_left
  exact sub_le_sub_right (min_le_right usage 1) _

/-- The normalized usage grows with the usage. -/
theorem normalizedUsage_mono {usage usage' : ℚ} (h : usage ≤ usage') :
    p.normalizedUsage usage ≤ p.normalizedUsage usage' := by
  apply div_le_div_of_nonneg_right _ (le_of_lt span_pos)
  exact sub_le_sub_right (min_le_min_right 1 h) _

/-- The quadratic part, above the watermark. -/
theorem quadratic_mono {usage usage' : ℚ}
    (habove : p.capacityHighWatermark < usage) (h : usage ≤ usage') :
    p.capacityPenalty * p.normalizedUsage usage * p.normalizedUsage usage
      ≤ p.capacityPenalty * p.normalizedUsage usage'
        * p.normalizedUsage usage' := by
  have hmono := normalizedUsage_mono (p := p) h
  have hnonneg := normalizedUsage_nonneg habove
  have hnonneg' := normalizedUsage_nonneg (lt_of_lt_of_le habove h)
  apply mul_le_mul _ hmono hnonneg
  · exact mul_nonneg p.penalty_nonneg hnonneg'
  · exact mul_le_mul_of_nonneg_left hmono p.penalty_nonneg

theorem usageCost_nonneg (usage : ℚ) : 0 ≤ p.usageCost usage := by
  unfold usageCost
  split
  case isTrue => exact le_refl 0
  case isFalse habove =>
    have hnonneg := normalizedUsage_nonneg (not_le.mp habove)
    have hcost : 0 ≤ p.capacityPenalty * p.normalizedUsage usage
        * p.normalizedUsage usage :=
      mul_nonneg (mul_nonneg p.penalty_nonneg hnonneg) hnonneg
    dsimp only
    split
    · exact add_nonneg hcost p.penalty_nonneg
    · exact hcost

/-- At most the penalty twice: once for the square, once past the limit. -/
theorem usageCost_le (usage : ℚ) :
    p.usageCost usage ≤ 2 * p.capacityPenalty := by
  unfold usageCost
  split
  case isTrue => exact mul_nonneg zero_le_two p.penalty_nonneg
  case isFalse habove =>
    have hnonneg := normalizedUsage_nonneg (not_le.mp habove)
    have hone := normalizedUsage_le_one (p := p) usage
    have hcost : p.capacityPenalty * p.normalizedUsage usage
        * p.normalizedUsage usage ≤ p.capacityPenalty := by
      rw [mul_assoc]
      apply mul_le_of_le_one_right p.penalty_nonneg
      exact mul_le_one₀ hone hnonneg hone
    have hpenalty := p.penalty_nonneg
    dsimp only
    split <;> linarith

/-- More usage never costs less. -/
theorem usageCost_mono {usage usage' : ℚ} (h : usage ≤ usage') :
    p.usageCost usage ≤ p.usageCost usage' := by
  by_cases hlow : usage ≤ p.capacityHighWatermark
  · have hzero : p.usageCost usage = 0 := if_pos hlow
    rw [hzero]
    exact usageCost_nonneg usage'
  · have habove := not_le.mp hlow
    have hcost := quadratic_mono habove h
    have hpenalty := p.penalty_nonneg
    unfold usageCost
    rw [if_neg hlow, if_neg (not_le.mpr (lt_of_lt_of_le habove h))]
    dsimp only
    by_cases hlimit : p.capacityHardLimit ≤ usage
    · rw [if_pos hlimit, if_pos (hlimit.trans h)]
      linarith
    · rw [if_neg hlimit]
      split <;> linarith

/-- Every capacity cost is between zero and twice the penalty. -/
theorem capacityCost_bounds (candidate : RouteCandidate)
    (freeBlocks : Option ℤ) :
    0 ≤ p.capacityCost candidate freeBlocks
      ∧ p.capacityCost candidate freeBlocks ≤ 2 * p.capacityPenalty := by
  rw [capacityCost_eq]
  cases capacityUsage candidate freeBlocks with
  | none => exact ⟨le_refl 0, mul_nonneg zero_le_two p.penalty_nonneg⟩
  | some usage => exact ⟨usageCost_nonneg usage, usageCost_le usage⟩

/-- Fewer free blocks never cost less. -/
theorem capacityCost_antitone (candidate : RouteCandidate) {free free' : ℤ}
    (h : free' ≤ free) :
    p.capacityCost candidate (some free)
      ≤ p.capacityCost candidate (some free') := by
  rw [capacityCost_eq, capacityCost_eq]
  unfold capacityUsage
  cases htotal : candidate.node.gpuTotalBlocks with
  | none => exact le_refl _
  | some total =>
      dsimp only
      split
      case isFalse => exact le_refl _
      case isTrue hpos =>
        apply usageCost_mono
        apply sub_le_sub_left
        apply div_le_div_of_nonneg_right (Int.cast_le.mpr h)
        exact Int.cast_nonneg (le_of_lt hpos)

end TieredCompletionTimePolicy

-- ================================================================= loads

/-- More work, and no more free blocks. -/
structure VirtualLoad.Grows (l l' : VirtualLoad) : Prop where
  work : l.reservedWork ≤ l'.reservedWork
  blocks : l'.freeBlocks = l.freeBlocks
    ∨ ∃ free free', l.freeBlocks = some free ∧ l'.freeBlocks = some free'
      ∧ free' ≤ free

section Grows

variable {p : TieredCompletionTimePolicy} {l l' : VirtualLoad}

/-- A request that is no negative work and asks for no negative number of
blocks makes a load grow. -/
theorem VirtualLoad.add_grows {inflightWork : ℚ} {required : Option ℤ}
    (hwork : 0 ≤ inflightWork)
    (hrequired : ∀ blocks, required = some blocks → 0 ≤ blocks)
    (hfree : ∀ free, l.freeBlocks = some free → 0 ≤ free) :
    l.Grows (l.add inflightWork required) where
  work := le_add_of_nonneg_right hwork
  blocks := by
    unfold VirtualLoad.add
    dsimp only
    cases hblocks : l.freeBlocks with
    | none => exact Or.inl rfl
    | some free =>
        cases hasked : required with
        | none => exact Or.inl rfl
        | some blocks =>
            exact Or.inr ⟨free, _, rfl, rfl,
              Budget.draw_le (hfree free hblocks) (hrequired blocks hasked)⟩

/-- A grown load costs every candidate at least as much. -/
theorem VirtualLoad.Grows.total_le (h : l.Grows l') (c : RouteCandidate) :
    (p.breakdown c l.reservedWork l.freeBlocks).total
      ≤ (p.breakdown c l'.reservedWork l'.freeBlocks).total := by
  have hqueue : p.queueCost c l.reservedWork (p.promptPathCost c)
      ≤ p.queueCost c l'.reservedWork (p.promptPathCost c) := by
    apply max_le_max_right
    exact p.queueEstimator.predictMs_mono _ h.work
  have hcapacity : p.capacityCost c l.freeBlocks
      ≤ p.capacityCost c l'.freeBlocks := by
    rcases h.blocks with hsame | ⟨free, free', hfree, hfree', hle⟩
    · rw [hsame]
    · rw [hfree, hfree']
      exact TieredCompletionTimePolicy.capacityCost_antitone c hle
  show p.promptPathCost c + _ + _ ≤ p.promptPathCost c + _ + _
  apply add_le_add _ hcapacity
  exact add_le_add_right hqueue _

/-- What fits a grown load has fitted before. -/
theorem VirtualLoad.Grows.fits (h : l.Grows l') {c : RouteCandidate}
    (hfits : fitsCapacity c l'.freeBlocks = true) :
    fitsCapacity c l.freeBlocks = true := by
  rcases h.blocks with hsame | ⟨free, free', hfree, hfree', hle⟩
  · rw [← hsame]
    exact hfits
  · rw [hfree'] at hfits
    rw [hfree]
    unfold fitsCapacity at hfits ⊢
    cases hrequired : c.requiredNewGpuBlocks with
    | none => rfl
    | some required =>
        rw [hrequired] at hfits
        exact decide_eq_true ((of_decide_eq_true hfits).trans hle)

end Grows

-- ================================================================= steps

section Steps

variable {p : TieredCompletionTimePolicy} {candidates : CandidateMatrix}
  {requests : List SchedulerRequest}

/-- No free block count is negative. -/
def VirtualLoads.FreeNonNeg (loads : VirtualLoads) : Prop :=
  ∀ nodeId load, loads.get nodeId = some load →
    ∀ free, load.freeBlocks = some free → 0 ≤ free

/-- No estimate of a snapshot is negative. -/
theorem VirtualLoads.init_freeNonNeg (candidates : CandidateMatrix) :
    (VirtualLoads.init candidates).FreeNonNeg := by
  intro nodeId load hload free hfree
  rcases PyDict.of_get_foldl_setDefault hload with hnone | ⟨c, -, -, rfl⟩
  · cases hnone
  · exact NodeRoutingState.estimatedGpuFreeBlocks_nonneg hfree

/-- No assignment draws a node below zero: the chosen node has room for it. -/
theorem SelectionInv.step_freeNonNeg {s s' : Selection} {c : Choice}
    (h : SelectionInv p.costModel requests candidates s)
    (hfree : s.loads.FreeNonNeg) (hstep : s.step p candidates c = some s') :
    s'.loads.FreeNonNeg := by
  obtain ⟨-, -, load, hload, rfl⟩ := h.step_eq_some hstep
  intro nodeId load' hload' free hfree'
  dsimp only at hload'
  rw [PyDict.get_set] at hload'
  split at hload'
  · injection hload' with hload'
    rw [← hload'] at hfree'
    unfold VirtualLoad.add at hfree'
    dsimp only at hfree'
    split at hfree'
    · injection hfree' with hfree'
      rw [← hfree']
      exact Budget.draw_nonneg _ _
    · exact hfree _ load hload free hfree'
  · exact hfree nodeId load' hload' free hfree'

/-- The chosen node's load grows and no other load moves. -/
theorem SelectionInv.step_loads {s s' : Selection} {c : Choice}
    (h : SelectionInv p.costModel requests candidates s)
    (hcosts : p.costModel.NonNeg)
    (hmax : ∀ request ∈ requests, 0 ≤ request.maxTokens)
    (hrequired : RequiredNonNeg candidates) (hfree : s.loads.FreeNonNeg)
    (hstep : s.step p candidates c = some s') :
    (s.loads.load c.candidate.node.nodeId).Grows
        (s'.loads.load c.candidate.node.nodeId)
      ∧ ∀ nodeId, nodeId ≠ c.candidate.node.nodeId →
        s'.loads.load nodeId = s.loads.load nodeId := by
  obtain ⟨hbest, hget, load, hload, rfl⟩ := h.step_eq_some hstep
  have hcandidate := mem_of_mem_eligible
    (mem_of_mem_admissible (Selection.best_mem hbest).1)
  have hrequest := (h.pending _ _ hget).1
  unfold VirtualLoads.load
  dsimp only
  constructor
  · rw [PyDict.get_set_self, hload]
    apply VirtualLoad.add_grows
    · exact CostModel.candidateWork_nonneg hcosts (hmax _ hrequest) _
    · exact hrequired _ _ hcandidate
    · exact hfree _ load hload
  · intro nodeId hne
    rw [PyDict.get_set_of_ne _ hne]

end Steps

/-- What a candidate would cost in a state of the loop. -/
def Selection.cost (p : TieredCompletionTimePolicy) (s : Selection)
    (c : RouteCandidate) : ℚ :=
  let load := s.loads.load c.node.nodeId
  (p.breakdown c load.reservedWork load.freeBlocks).total

/-- Load feedback is monotone where no parameter of the cost model is
negative. Whenever the loop of `select_batch` assigns a request to a node,
in a call that returns or before it raises, no pending request gets cheaper
there or changes its cost elsewhere, and nothing fits that did not fit
before. No capacity cost is negative or exceeds twice the penalty. -/
theorem load_feedback_monotone (p : TieredCompletionTimePolicy)
    (hcosts : p.costModel.NonNeg) (requests : List SchedulerRequest)
    (hmax : ∀ request ∈ requests, 0 ≤ request.maxTokens)
    (candidates : CandidateMatrix) (hrequired : RequiredNonNeg candidates) :
    (∀ choices s, Lts.run (Selection.step p candidates)
        (.init requests candidates) choices = some s →
      ∀ c s', s.step p candidates c = some s' →
        ∀ request ∈ s'.pending.values,
          ∀ c' ∈ candidates.row request.requestId,
            (c'.node.nodeId = c.candidate.node.nodeId →
              s.cost p c' ≤ s'.cost p c')
            ∧ (c'.node.nodeId ≠ c.candidate.node.nodeId →
              s'.cost p c' = s.cost p c')
            ∧ (fitsCapacity c' (s'.loads.load c'.node.nodeId).freeBlocks = true
              → fitsCapacity c' (s.loads.load c'.node.nodeId).freeBlocks
                = true))
      ∧ ∀ c freeBlocks, 0 ≤ p.capacityCost c freeBlocks
        ∧ p.capacityCost c freeBlocks ≤ 2 * p.capacityPenalty := by
  refine ⟨fun choices s hrun c s' hstep request _ c' _ => ?_,
    fun c freeBlocks => TieredCompletionTimePolicy.capacityCost_bounds _ _⟩
  -- no node of the loop has a negative number of free blocks
  have hinv : SelectionInv p.costModel requests candidates s
      ∧ s.loads.FreeNonNeg := by
    refine Lts.run_preserves (I := fun s =>
      SelectionInv p.costModel requests candidates s ∧ s.loads.FreeNonNeg)
      (fun s c s' hs hstep => ?_)
      ⟨.init _ _ _, VirtualLoads.init_freeNonNeg candidates⟩ hrun
    exact ⟨hs.1.step hstep, hs.1.step_freeNonNeg hs.2 hstep⟩
  -- one node's load has grown, all others are as they were
  obtain ⟨hgrows, hothers⟩ :=
    hinv.1.step_loads hcosts hmax hrequired hinv.2 hstep
  refine ⟨fun hid => ?_, fun hne => ?_, fun hfits => ?_⟩
  · unfold Selection.cost
    dsimp only
    rw [hid]
    exact hgrows.total_le c'
  · unfold Selection.cost
    rw [hothers _ hne]
  · by_cases hid : c'.node.nodeId = c.candidate.node.nodeId
    · rw [hid] at hfits ⊢
      exact hgrows.fits hfits
    · rwa [hothers _ hid] at hfits

/-- The first of two requests for two nodes of the defaults' cost model. -/
theorem load_feedback_two_nodes :
    ∃ c s',
      (Selection.init (["r", "q"].map sixBlockRequest)
          (blockMatrix ["a", "b"] ["r", "q"])).step tieredDefault
          (blockMatrix ["a", "b"] ["r", "q"]) c = some s'
        ∧ ∀ request ∈ s'.pending.values,
          ∀ c' ∈ (blockMatrix ["a", "b"] ["r", "q"]).row request.requestId,
            c'.node.nodeId = c.candidate.node.nodeId →
              (Selection.init (["r", "q"].map sixBlockRequest)
                (blockMatrix ["a", "b"] ["r", "q"])).cost tieredDefault c'
                ≤ s'.cost tieredDefault c' := by
  obtain ⟨hsteps, -⟩ := load_feedback_monotone tieredDefault
    CostModel.nonNeg_default (["r", "q"].map sixBlockRequest)
    (by decide) (blockMatrix ["a", "b"] ["r", "q"])
    (KareserveTracker.buildRouteCandidates_required (by decide))
  have hinv := SelectionInv.init tieredDefault.costModel
    (["r", "q"].map sixBlockRequest) (blockMatrix ["a", "b"] ["r", "q"])
  have hbest : ((Selection.init (["r", "q"].map sixBlockRequest)
      (blockMatrix ["a", "b"] ["r", "q"])).best tieredDefault
      (blockMatrix ["a", "b"] ["r", "q"])).isSome = true := by
    decide +kernel
  obtain ⟨c, hc⟩ := Option.isSome_iff_exists.mp hbest
  obtain ⟨s', -, hstep⟩ := hinv.step_of_best hc
  exact ⟨c, s', hstep, fun request hrequest c' hc' =>
    (hsteps [] _ rfl c s' hstep request hrequest c' hc').1⟩

/-- A profile with a size below 0 and no other sign to it: a token comes out
of memory in one millisecond less than none. -/
def negativeSizeProfile : HardwareProfile where
  numLayers := 1
  hiddenSize := 1
  kvDtypeBytes := -500000
  prefillMsPerToken := some 1
  hostMemoryToGpuBandwidthGbps := 1

/-- The policy of that profile, with one sample of a queue. -/
def negativeSizePolicy : TieredCompletionTimePolicy :=
  { TieredCompletionTimePolicy.init (.fromHardwareProfile negativeSizeProfile
      256) (4 / 5) (19 / 20) 2 128 8 true with
    queueEstimator := (OnlineQueueTimeEstimator.init 128 8).observe "a" 1 1 }

/-- Two requests without output, whose prompts are in memory. -/
def memoryRequests : List SchedulerRequest :=
  ["r", "q"].map fun requestId =>
    { requestId, promptTokens := [1, 2], maxTokens := 0 }

/-- Their candidates on a node with five units of work. -/
def memoryMatrix : CandidateMatrix :=
  (KareserveTracker.init
    [{ tenBlockNode "a" with routerInflightWork := 5 }]).buildRouteCandidates
    memoryRequests 16
    (some (.ofList (["r", "q"].map fun requestId =>
      (requestId, .ofList [("d", { promptTokens := 2
                                   cpuPrefixTokens := 2 })]))))

/-- Nothing but the bytes per token is negative here. The first request is
less than no work, and it makes its node cheaper for the second. -/
theorem negative_bytes_attract :
    let m := negativeSizePolicy.costModel
    (0 ≤ m.cpuLoadWeight ∧ 0 ≤ m.fsLoadWeight ∧ 0 ≤ m.objLoadWeight
        ∧ (∀ ms, m.computeMsPerToken = some ms → 0 ≤ ms)
        ∧ (∀ ms, m.decodeMsPerToken = some ms → 0 ≤ ms)
        ∧ ∀ medium profile, m.mediumProfile medium = some profile →
          0 ≤ (profile.get "bandwidth_gbps").getD 0
            ∧ 0 ≤ (profile.get "base_latency_ms").getD 0)
      ∧ (∀ request ∈ memoryRequests, 0 ≤ request.maxTokens)
      ∧ RequiredNonNeg memoryMatrix
      ∧ ∃ c s', (Selection.init memoryRequests memoryMatrix).step
            negativeSizePolicy memoryMatrix c = some s'
          ∧ ∃ request ∈ s'.pending.values,
            ∃ c' ∈ memoryMatrix.row request.requestId,
              c'.node.nodeId = c.candidate.node.nodeId
                ∧ s'.cost negativeSizePolicy c'
                  < (Selection.init memoryRequests memoryMatrix).cost
                    negativeSizePolicy c' := by
  intro m
  refine ⟨⟨by decide +kernel, by decide +kernel, by decide +kernel, ?_, ?_,
    ?_⟩, by decide,
    KareserveTracker.buildRouteCandidates_required (by decide), ?_⟩
  · intro ms hms
    have hone : m.computeMsPerToken = some 1 := by decide +kernel
    rw [hone] at hms
    injection hms with hms
    rw [← hms]
    exact zero_le_one
  · intro ms hms
    cases hms
  · intro medium profile hprofile
    have hprofiles : ∀ medium, (m.mediumProfile medium).all (fun profile =>
        decide (0 ≤ (profile.get "bandwidth_gbps").getD 0
          ∧ 0 ≤ (profile.get "base_latency_ms").getD 0)) = true := by
      intro medium
      cases medium <;> decide +kernel
    have hall := hprofiles medium
    rw [hprofile] at hall
    exact of_decide_eq_true hall
  · have hinv := SelectionInv.init negativeSizePolicy.costModel memoryRequests
      memoryMatrix
    have hrun : ((Selection.init memoryRequests memoryMatrix).best
          negativeSizePolicy memoryMatrix).bind (fun c =>
        ((Selection.init memoryRequests memoryMatrix).commit
          negativeSizePolicy c).map fun s' =>
            decide (∃ request ∈ s'.pending.values,
              ∃ c' ∈ memoryMatrix.row request.requestId,
                c'.node.nodeId = c.candidate.node.nodeId
                  ∧ s'.cost negativeSizePolicy c'
                    < (Selection.init memoryRequests memoryMatrix).cost
                      negativeSizePolicy c')) = some true := by
      decide +kernel
    obtain ⟨c, hbest, hrun⟩ := Option.bind_eq_some_iff.mp hrun
    obtain ⟨s', hcommit, hcheaper⟩ := Option.map_eq_some_iff.mp hrun
    obtain ⟨s₁, hcommit₁, hstep⟩ := hinv.step_of_best hbest
    rw [hcommit] at hcommit₁
    injection hcommit₁ with hcommit₁
    rw [← hcommit₁] at hstep
    exact ⟨c, s', hstep, of_decide_eq_true hcheaper⟩

end Kareserve
