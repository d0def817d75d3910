/-
When a policy returns: where every integer it converts can become a float.

# What is converted

A price converts the prompt, its prefixes and the output limit of a request
(`PricesRows`). What else a policy converts are figures of the nodes:
`FiguresFit` has them, one policy after another. Which of the candidates of
a row come to be priced or compared is up to the loop, so these conditions
are about all that are eligible.

# The loop

A pass divides the free blocks of a node by all its blocks. Since the
snapshot, the requests that were assigned have taken blocks, or have given
some back where a candidate's demand is below zero (`VirtualLoads.Within`):
so many requests, so many times the most that one gives back.

# The output limit

A prompt is a list, and the figures count requests and blocks, so none of
these comes near 2^1000 (`ModestFigures`). The output limit is the client's
word, and it is what decides (`every_policy_assigns_iff`).
-/
import Kareserve.Policy.Proofs.Capacity
import Kareserve.Policy.Proofs.Raising

namespace Kareserve

open SortKey Fault

-- ================================================================ sizes

/-- Integers are converted if each of them fits. -/
theorem convert_eq_ok {ns : List ℤ} :
    convert ns = .ok () ↔ ∀ n ∈ ns, FitsFloat n := by
  unfold convert
  split
  case isTrue h => exact iff_of_true rfl h
  case isFalse h => exact iff_of_false (fun hok => by cases hok) h

/-- Between zero and what fits, everything fits. -/
theorem FitsFloat.of_le {m n : ℤ} (h : FitsFloat n) (hnonneg : 0 ≤ m)
    (hle : m ≤ n) : FitsFloat m := by
  unfold FitsFloat at h ⊢
  rw [← Int.cast_abs] at h ⊢
  refine lt_of_le_of_lt (Int.cast_le.mpr ?_) h
  rw [abs_of_nonneg hnonneg, abs_of_nonneg (hnonneg.trans hle)]
  exact hle

-- =============================================================== prices

namespace CostModel

variable {m : CostModel}

/-- An output limit that can be priced. -/
def PricesOutput (m : CostModel) (maxTokens : ℤ) : Prop :=
  ∀ n ∈ m.outputConversions maxTokens, FitsFloat n

instance (maxTokens : ℤ) : Decidable (m.PricesOutput maxTokens) :=
  inferInstanceAs (Decidable (∀ _ ∈ _, _))

/-- A candidate that can be priced for a request. -/
def Prices (m : CostModel) (request : SchedulerRequest)
    (candidate : RouteCandidate) : Prop :=
  (∀ n ∈ m.promptPathConversions candidate.prefixMatch true, FitsFloat n)
    ∧ m.PricesOutput request.maxTokens

instance (request : SchedulerRequest) (candidate : RouteCandidate) :
    Decidable (m.Prices request candidate) :=
  inferInstanceAs (Decidable (_ ∧ _))

/-- A candidate that can be priced has its work. -/
theorem Prices.candidateWorkOrRaise_eq_ok {request : SchedulerRequest}
    {candidate : RouteCandidate} (h : m.Prices request candidate) :
    m.candidateWorkOrRaise request candidate
      = .ok (m.candidateWork request candidate) := by
  unfold candidateWorkOrRaise
  rw [bind_ok (convert_eq_ok.mpr h.1), bind_ok (convert_eq_ok.mpr h.2)]
  rfl

theorem Prices.assignmentOrRaise_eq_ok {request : SchedulerRequest}
    {candidate : RouteCandidate} (h : m.Prices request candidate)
    (estimatedCost : ℚ) (costBreakdown : Option RouteCostBreakdown) :
    m.assignmentOrRaise request candidate estimatedCost costBreakdown
      = .ok (m.assignment request candidate estimatedCost costBreakdown) :=
  bind_ok h.candidateWorkOrRaise_eq_ok _

end CostModel

section Batch

variable (m : CostModel) (requests : List SchedulerRequest)
  (candidates : CandidateMatrix)

/-- Every request can be priced on whichever node it gets. -/
def PricesRows : Prop :=
  ∀ request ∈ requests, ∀ c ∈ eligible (candidates.row request.requestId),
    m.Prices request c

/-- Every request that has candidates has an output limit that can be
priced. -/
def PricesAll : Prop :=
  ∀ request ∈ requests, candidates.row request.requestId ≠ [] →
    m.PricesOutput request.maxTokens

/-- The prompts and prefixes of the candidates can be priced. -/
def PathsFit : Prop :=
  ∀ request ∈ requests, ∀ c ∈ eligible (candidates.row request.requestId),
    ∀ n ∈ m.promptPathConversions c.prefixMatch true, FitsFloat n

instance : Decidable (PricesRows m requests candidates) :=
  inferInstanceAs (Decidable (∀ _ ∈ _, _))

instance : Decidable (PricesAll m requests candidates) :=
  inferInstanceAs (Decidable (∀ _ ∈ _, _))

variable {m requests candidates}

/-- A price has two parts. -/
theorem PathsFit.pricesRows (h : PathsFit m requests candidates)
    (hprices : PricesAll m requests candidates) :
    PricesRows m requests candidates := fun request hrequest c hc =>
  ⟨h request hrequest c hc, hprices request hrequest
    (List.ne_nil_of_mem (mem_of_mem_eligible hc))⟩

end Batch

-- ============================================================== figures

/-- The most blocks that one request gives back: how far below zero a
candidate's demand is. -/
def CandidateMatrix.blocksGivenBack (candidates : CandidateMatrix) : ℤ :=
  (candidates.values.flatMap PyDict.values).foldr
    (fun c blocks => max blocks (-c.requiredNewGpuBlocks.getD 0)) 0

/-- The figures that a tiered policy converts: in the paths it compares, in
the queues, and in the blocks that are free after any part of the batch. -/
structure TieredCompletionTimePolicy.FiguresFit
    (p : TieredCompletionTimePolicy) (requests : List SchedulerRequest)
    (candidates : CandidateMatrix) : Prop where
  path : ∀ request ∈ requests,
    ∀ c ∈ eligible (candidates.row request.requestId),
      ∀ n ∈ p.costModel.promptPathConversions c.prefixMatch
        p.includeExternalCache, FitsFloat n
  queue : ∀ request ∈ requests,
    ∀ c ∈ eligible (candidates.row request.requestId),
      ∀ n ∈ queueConversions c, FitsFloat n
  depth : ∀ request ∈ requests,
    ∀ c ∈ eligible (candidates.row request.requestId),
      FitsFloat c.node.depthConversion
  blocks : ∀ total ∈ candidates.freeBlockConversions,
    FitsFloat (|total| + requests.length * candidates.blocksGivenBack)

/-- The figures that the least-load policy converts: a queue, and a count
that so many requests have been added to. -/
def LeastLoadPolicy.FiguresFit (requests : List SchedulerRequest)
    (candidates : CandidateMatrix) : Prop :=
  ∀ request ∈ requests, ∀ c ∈ eligible (candidates.row request.requestId),
    FitsFloat c.node.depthConversion
      ∧ ∀ k ≤ requests.length, FitsFloat (c.node.routerActiveRequests + k)

/-- Prefix hash converts nothing, but the tokens it hashes are printed. -/
def PrefixHashPolicy.FiguresFit (p : PrefixHashPolicy)
    (requests : List SchedulerRequest) (candidates : CandidateMatrix) : Prop :=
  ∀ request ∈ requests, candidates.row request.requestId ≠ [] →
    p.printTokens request = .ok ()

/-- Whatever a policy converts or prints can be, but for the output
limits. -/
def Policy.FiguresFit (policy : Policy) (requests : List SchedulerRequest)
    (candidates : CandidateMatrix) : Prop :=
  PathsFit policy.costModel requests candidates
    ∧ match policy with
      | .tieredCompletionTime p => p.FiguresFit requests candidates
      | .gpuPrefixLoad p =>
          p.toTieredCompletionTimePolicy.FiguresFit requests candidates
      | .roundRobin _ => True
      | .prefixHash p => p.FiguresFit requests candidates
      | .leastLoad _ => LeastLoadPolicy.FiguresFit requests candidates

-- ========================================================== free blocks

theorem CandidateMatrix.blocksGivenBack_nonneg (candidates : CandidateMatrix) :
    0 ≤ candidates.blocksGivenBack := by
  unfold blocksGivenBack
  induction candidates.values.flatMap PyDict.values with
  | nil => exact le_refl 0
  | cons c cs ih => exact ih.trans (le_max_left _ _)

/-- No candidate gives back more. -/
theorem CandidateMatrix.neg_le_blocksGivenBack {candidates : CandidateMatrix}
    {requestId : RequestId} {c : RouteCandidate}
    (hc : c ∈ candidates.row requestId) {required : ℤ}
    (hrequired : c.requiredNewGpuBlocks = some required) :
    -required ≤ candidates.blocksGivenBack := by
  have hmem := CandidateMatrix.mem_of_mem_row hc
  unfold blocksGivenBack
  generalize candidates.values.flatMap PyDict.values = cs at hmem ⊢
  induction cs with
  | nil => cases hmem
  | cons c' cs ih =>
      rw [List.foldr_cons]
      rcases List.mem_cons.mp hmem with rfl | hmem
      · rw [hrequired, Option.getD_some]
        exact le_max_right _ _
      · exact (ih hmem).trans (le_max_left _ _)

/-- Where no demand is below zero, nothing is given back. -/
theorem CandidateMatrix.blocksGivenBack_eq_zero {candidates : CandidateMatrix}
    (h : RequiredNonNeg candidates) : candidates.blocksGivenBack = 0 := by
  have hnone : ∀ c ∈ candidates.values.flatMap PyDict.values,
      0 ≤ c.requiredNewGpuBlocks.getD 0 := by
    intro c hc
    obtain ⟨requestId, hrow⟩ := CandidateMatrix.mem_row_of_mem hc
    cases hrequired : c.requiredNewGpuBlocks with
    | none => exact le_refl 0
    | some required => exact h requestId c hrow required hrequired
  unfold blocksGivenBack
  generalize candidates.values.flatMap PyDict.values = cs at hnone ⊢
  induction cs with
  | nil => rfl
  | cons c cs ih =>
      have hc := hnone c (List.mem_cons_self ..)
      rw [List.foldr_cons, ih fun c' hc' =>
        hnone c' (List.mem_cons_of_mem _ hc')]
      exact max_eq_left (by omega)

/-- The free blocks after `k` requests: those of a snapshot, and what the
requests can have given back. -/
def VirtualLoads.Within (candidates : CandidateMatrix) (k : ℕ)
    (loads : VirtualLoads) : Prop :=
  ∀ nodeId load, loads.get nodeId = some load →
    ∀ free, load.freeBlocks = some free →
      0 ≤ free ∧ ∃ total ∈ candidates.freeBlockConversions,
        free ≤ |total| + k * candidates.blocksGivenBack

/-- Cutting off a fraction stays below an integer. -/
theorem truncate_le {x : ℚ} {n : ℤ} (h : x ≤ n) : truncate x ≤ n := by
  have hnum : x.num ≤ n * x.den := by
    have hq : (x.num : ℚ) ≤ n * x.den := by
      rw [← Rat.mul_den_eq_num]
      exact mul_le_mul_of_nonneg_right h (Nat.cast_nonneg _)
    exact_mod_cast hq
  have hden : (0 : ℤ) < x.den := Int.natCast_pos.mpr x.den_pos
  calc truncate x ≤ (n * x.den).tdiv x.den := Int.tdiv_le_tdiv hden hnum
    _ = n := Int.mul_tdiv_cancel n hden.ne'

/-- At most all blocks are free. -/
theorem NodeRoutingState.estimatedGpuFreeBlocks_le {node : NodeRoutingState}
    {free : ℤ} (hfree : node.estimatedGpuFreeBlocks = some free) :
    ∃ total ∈ node.freeBlockConversions, free ≤ |total| := by
  unfold estimatedGpuFreeBlocks at hfree
  split at hfree
  case h_2 => cases hfree
  case h_1 total usage htotal husage =>
    injection hfree with hfree
    refine ⟨total, ?_, ?_⟩
    · unfold freeBlockConversions
      rw [htotal, husage]
      exact List.mem_singleton.mpr rfl
    · rw [← hfree]
      refine max_le (abs_nonneg total) (truncate_le ?_)
      have hfraction : 1 - min (max usage 0) 1 ≤ 1 :=
        sub_le_self 1 (le_min (le_max_right _ _) zero_le_one)
      have hfraction' : 0 ≤ 1 - min (max usage 0) 1 :=
        sub_nonneg.mpr (min_le_right _ _)
      calc (total : ℚ) * (1 - min (max usage 0) 1)
          ≤ |(total : ℚ)| * (1 - min (max usage 0) 1) :=
            mul_le_mul_of_nonneg_right (le_abs_self _) hfraction'
        _ ≤ |(total : ℚ)| := mul_le_of_le_one_right (abs_nonneg _) hfraction
        _ = (|total| : ℤ) := (Int.cast_abs).symm

section Loop

variable {p : TieredCompletionTimePolicy} {requests : List SchedulerRequest}
  {candidates : CandidateMatrix}

/-- The loads a call starts with are those of the snapshots. -/
theorem VirtualLoads.init_within (candidates : CandidateMatrix) :
    (VirtualLoads.init candidates).Within candidates 0 := by
  intro nodeId load hload free hfree
  rcases PyDict.of_get_foldl_setDefault hload with hnone | ⟨c, hc, -, rfl⟩
  · cases hnone
  · obtain ⟨total, htotal, hle⟩ :=
      NodeRoutingState.estimatedGpuFreeBlocks_le hfree
    refine ⟨NodeRoutingState.estimatedGpuFreeBlocks_nonneg hfree, total,
      List.mem_flatMap.mpr ⟨c, hc, htotal⟩, ?_⟩
    rw [Nat.cast_zero, zero_mul, add_zero]
    exact hle

/-- One more request has taken blocks, or has given some back. -/
theorem SelectionInv.step_within {s s' : Selection} {c : Choice} {k : ℕ}
    (h : SelectionInv p.costModel requests candidates s)
    (hloads : s.loads.Within candidates k)
    (hstep : s.step p candidates c = some s') :
    s'.loads.Within candidates (k + 1) := by
  obtain ⟨hbest, -, load, hload, rfl⟩ := h.step_eq_some hstep
  have hcandidate := mem_of_mem_eligible
    (mem_of_mem_admissible (Selection.best_mem hbest).1)
  have hgrowth := candidates.blocksGivenBack_nonneg
  -- what was within the bound before is within the greater one
  have hmore : ∀ free, (∃ total ∈ candidates.freeBlockConversions,
      free ≤ |total| + k * candidates.blocksGivenBack) →
      ∃ total ∈ candidates.freeBlockConversions,
        free ≤ |total| + (k + 1 : ℕ) * candidates.blocksGivenBack := by
    rintro free ⟨total, htotal, hle⟩
    refine ⟨total, htotal, ?_⟩
    rw [Nat.cast_succ, add_mul, one_mul]
    omega
  intro nodeId load' hload' free hfree
  dsimp only at hload'
  rw [PyDict.get_set] at hload'
  split at hload'
  · injection hload' with hload'
    rw [← hload'] at hfree
    unfold VirtualLoad.add at hfree
    dsimp only at hfree
    split at hfree
    · rename_i free₀ required hfree₀ hrequired
      injection hfree with hfree
      have hback := CandidateMatrix.neg_le_blocksGivenBack hcandidate hrequired
      obtain ⟨hnonneg, total, htotal, hle⟩ := hloads _ load hload free₀ hfree₀
      refine ⟨by omega, total, htotal, ?_⟩
      rw [Nat.cast_succ, add_mul, one_mul]
      omega
    · obtain ⟨hnonneg, hwithin⟩ := hloads _ load hload free hfree
      exact ⟨hnonneg, hmore free hwithin⟩
  · obtain ⟨hnonneg, hwithin⟩ := hloads nodeId load' hload' free hfree
    exact ⟨hnonneg, hmore free hwithin⟩

/-- As long as the batch lasts, the free blocks fit. -/
theorem TieredCompletionTimePolicy.FiguresFit.free
    (h : p.FiguresFit requests candidates) {loads : VirtualLoads} {k : ℕ}
    (hloads : loads.Within candidates k) (hk : k ≤ requests.length)
    {nodeId : NodeId} {load : VirtualLoad}
    (hload : loads.get nodeId = some load) {free : ℤ}
    (hfree : load.freeBlocks = some free) : FitsFloat free := by
  obtain ⟨hnonneg, total, htotal, hle⟩ := hloads nodeId load hload free hfree
  refine (h.blocks total htotal).of_le hnonneg (hle.trans ?_)
  have hgrowth := candidates.blocksGivenBack_nonneg
  exact add_le_add_right (mul_le_mul_of_nonneg_right
    (Int.ofNat_le.mpr hk) hgrowth) _

-- =============================================================== passes

/-- A quotient of blocks is no greater than the free ones. -/
theorem TieredCompletionTimePolicy.divideBlocks_eq_ok (c : RouteCandidate)
    {freeBlocks : Option ℤ}
    (h : ∀ free, freeBlocks = some free → FitsFloat free) :
    divideBlocks c freeBlocks = .ok () := by
  unfold divideBlocks
  split
  case h_2 => rfl
  case h_1 free total _ =>
    refine if_neg fun hlarge => not_le_of_gt ?_ hlarge.2
    have htotal : (1 : ℚ) ≤ |(total : ℚ)| := by
      rw [← Int.cast_abs]
      exact_mod_cast Int.one_le_abs hlarge.1.ne'
    rw [abs_div]
    exact lt_of_le_of_lt (div_le_self (abs_nonneg _) htotal) (h free rfl)

/-- Nothing raises in an evaluation. -/
theorem TieredCompletionTimePolicy.FiguresFit.evaluationOrRaise_eq_ok
    (h : p.FiguresFit requests candidates) {request : SchedulerRequest}
    (hrequest : request ∈ requests) {c : RouteCandidate}
    (hc : c ∈ eligible (candidates.row request.requestId))
    {load : VirtualLoad}
    (hload : ∀ free, load.freeBlocks = some free → FitsFloat free) :
    p.evaluationOrRaise c load = .ok (p.evaluation c load) := by
  unfold evaluationOrRaise
  rw [bind_ok (convert_eq_ok.mpr (h.path request hrequest c hc)),
    bind_ok (convert_eq_ok.mpr (h.queue request hrequest c hc)),
    bind_ok (divideBlocks_eq_ok c hload)]
  rfl

/-- The candidates of a request are evaluated and sorted. -/
theorem TieredCompletionTimePolicy.FiguresFit.rankedOrRaise_eq_ok
    (h : p.FiguresFit requests candidates) {loads : VirtualLoads} {k : ℕ}
    (hcovers : Covers candidates loads) (hloads : loads.Within candidates k)
    (hk : k ≤ requests.length) {request : SchedulerRequest}
    (hrequest : request ∈ requests) :
    ∃ ranked, p.rankedOrRaise loads (candidates.row request.requestId)
      = .ok ranked := by
  unfold rankedOrRaise
  refine ⟨_, (bind_ok (mapM_ok (g := fun item =>
    p.evaluation item (loads.load item.node.nodeId)) fun item hitem => ?_)
      _).trans (bind_ok (convert_eq_ok.mpr fun n hn => ?_) _)⟩
  · have heligible := mem_of_mem_admissible hitem
    obtain ⟨load, hload⟩ := hcovers request.requestId item
      (mem_of_mem_eligible heligible)
    unfold VirtualLoads.load
    rw [hload]
    exact h.evaluationOrRaise_eq_ok hrequest heligible fun free hfree =>
      h.free hloads hk hload hfree
  · obtain ⟨e, he, rfl⟩ := List.mem_map.mp hn
    obtain ⟨item, hitem, rfl⟩ := List.mem_map.mp he
    exact h.depth request hrequest item (mem_of_mem_admissible hitem)

/-- A pass makes its choice. -/
theorem SelectionInv.chooseOrRaise_eq_ok {s : Selection} {k : ℕ}
    (h : SelectionInv p.costModel requests candidates s)
    (hfigures : p.FiguresFit requests candidates)
    (hloads : s.loads.Within candidates k) (hk : k ≤ requests.length) :
    s.chooseOrRaise p candidates = .ok (s.best p candidates) := by
  have hoptions : ∃ options, s.optionsOrRaise p candidates = .ok options := by
    unfold Selection.optionsOrRaise
    refine bind_ok_iff.mpr ?_
    obtain ⟨ranked, hranked⟩ := mapM_ok_iff.mpr fun request
      (hpending : request ∈ s.pending.values) => by
        obtain ⟨requestId, hget⟩ := PyDict.mem_values_iff.mp hpending
        obtain ⟨evaluated, heval⟩ := hfigures.rankedOrRaise_eq_ok h.covers
          hloads hk (h.pending requestId request hget).1
        exact ⟨(request, evaluated), bind_ok heval _⟩
    exact ⟨ranked, hranked, _, rfl⟩
  obtain ⟨options, hoptions⟩ := hoptions
  obtain ⟨choice, hchoice⟩ : ∃ choice,
      s.chooseOrRaise p candidates = .ok choice := ⟨_, bind_ok hoptions _⟩
  rw [hchoice, Selection.chooseOrRaise_returns p h.covers choice hchoice]

/-- Whatever the loop has done so far, it goes on. -/
theorem SelectionInv.exists_loopOrRaise {s : Selection} {k : ℕ}
    (h : SelectionInv p.costModel requests candidates s)
    (hfigures : p.FiguresFit requests candidates)
    (hloads : s.loads.Within candidates k)
    (hprices : PricesRows p.costModel requests candidates) (fuel : ℕ)
    (hk : k + fuel ≤ requests.length) :
    ∃ s', Selection.loopOrRaise p candidates fuel s = .ok s' := by
  induction fuel generalizing s k with
  | zero => exact ⟨s, rfl⟩
  | succ fuel ih =>
      unfold Selection.loopOrRaise
      split
      · exact ⟨s, rfl⟩
      rw [bind_ok (h.chooseOrRaise_eq_ok hfigures hloads (by omega))]
      cases hbest : s.best p candidates with
      | none => exact ⟨s, rfl⟩
      | some c =>
          obtain ⟨s₁, hcommit, hstep⟩ := h.step_of_best hbest
          obtain ⟨-, hget, -, -, -⟩ := h.step_eq_some hstep
          have hprice := hprices c.request (h.pending _ _ hget).1 c.candidate
            (mem_of_mem_admissible (Selection.best_mem hbest).1)
          have hassign := hprice.assignmentOrRaise_eq_ok c.breakdown.total
            (some c.breakdown)
          have hcommitted : s.commitOrRaise p c = .ok s₁ := by
            unfold Selection.commitOrRaise
            rw [bind_ok hassign, hcommit]
            rfl
          obtain ⟨s', hs'⟩ := ih (h.step hstep) (h.step_within hloads hstep)
            (by omega)
          exact ⟨s', (bind_ok hcommitted _).trans hs'⟩

/-- The tiered policies return. -/
theorem TieredCompletionTimePolicy.exists_selectBatchOrRaise
    (hfigures : p.FiguresFit requests candidates)
    (hprices : PricesRows p.costModel requests candidates) :
    ∃ assignments, p.selectBatchOrRaise requests candidates
      = .ok assignments := by
  have hconverted : convert candidates.freeBlockConversions = .ok () := by
    rw [convert_eq_ok]
    intro total htotal
    have hgrowth := candidates.blocksGivenBack_nonneg
    have hfits := (hfigures.blocks total htotal).of_le (abs_nonneg total)
      (le_add_of_nonneg_right (mul_nonneg (Int.natCast_nonneg _) hgrowth))
    unfold FitsFloat at hfits ⊢
    rwa [Int.cast_abs, abs_abs] at hfits
  obtain ⟨s, hs⟩ := (SelectionInv.init p.costModel requests
    candidates).exists_loopOrRaise hfigures (VirtualLoads.init_within _)
      hprices requests.length (Nat.zero_add _).le
  unfold selectBatchOrRaise
  rw [bind_ok hconverted, bind_ok hs]
  exact ⟨_, rfl⟩

end Loop

-- ====================================================== simple policies

section Simple

variable {requests : List SchedulerRequest} {candidates : CandidateMatrix}

/-- The counts after `k` requests: that of a snapshot, and at most so many
more. -/
def LeastLoadPolicy.CountsWithin (requests : List SchedulerRequest)
    (candidates : CandidateMatrix) (k : ℕ) (s : State) : Prop :=
  ∀ nodeId count, s.active.get nodeId = some count →
    ∃ request ∈ requests, ∃ c ∈ eligible (candidates.row request.requestId),
      ∃ j ≤ k, count = c.node.routerActiveRequests + (j : ℕ)

namespace LeastLoadPolicy

variable (p : LeastLoadPolicy)

/-- A count that is read is one of the loop's own or that of a snapshot. -/
theorem CountsWithin.withDefaults {s : State} {k : ℕ}
    (h : CountsWithin requests candidates k s) {request : SchedulerRequest}
    (hrequest : request ∈ requests) :
    CountsWithin requests candidates k
      ⟨withDefaults (eligible (candidates.row request.requestId)) s.active,
        s.assignments⟩ := by
  intro nodeId count hget
  rcases PyDict.of_get_foldl_setDefault hget with hold | ⟨c, hc, -, rfl⟩
  · exact h nodeId count hold
  · exact ⟨request, hrequest, c, hc, 0, Nat.zero_le k, (add_zero _).symm⟩

/-- One request of the least-load policy: a count grows by one at most. -/
theorem exists_assignOrRaise (hfigures : FiguresFit requests candidates)
    (hprices : PricesRows p.costModel requests candidates) {s : State} {k : ℕ}
    (h : CountsWithin requests candidates k s) (hk : k ≤ requests.length)
    {request : SchedulerRequest} (hrequest : request ∈ requests) :
    ∃ s', p.assignOrRaise candidates s request = .ok s'
      ∧ CountsWithin requests candidates (k + 1) s' := by
  have hcounts := h.withDefaults hrequest
  -- every key that is compared is a queue depth and a count
  have hconverted : convert (keyConversions
      (counted (eligible (candidates.row request.requestId)) s.active))
      = .ok () := by
    rw [convert_eq_ok]
    intro n hn
    obtain ⟨pair, hpair, hn⟩ := List.mem_flatMap.mp hn
    obtain ⟨c, hc, rfl⟩ := List.mem_map.mp hpair
    rcases List.mem_pair.mp hn with rfl | rfl
    · exact (hfigures request hrequest c hc).1
    · obtain ⟨count, hcount⟩ := exists_get_withDefaults hc s.active
      obtain ⟨request', hrequest', c', hc', j, hj, hcount'⟩ :=
        hcounts _ count hcount
      rw [hcount, Option.getD_some, hcount']
      exact (hfigures request' hrequest' c' hc').2 j (hj.trans hk)
  rw [p.assignOrRaise_eq, bind_ok hconverted]
  cases hmin : minBy key
      (counted (eligible (candidates.row request.requestId)) s.active) with
  | none =>
      refine ⟨_, rfl, fun nodeId count hcount => ?_⟩
      obtain ⟨request', hrequest', c', hc', j, hj, hcount'⟩ :=
        hcounts nodeId count hcount
      exact ⟨request', hrequest', c', hc', j, hj.trans (Nat.le_succ k), hcount'⟩
  -- the one with the least key takes the request, and one request more
  | some least =>
      obtain ⟨c, hc, rfl⟩ := List.mem_map.mp (mem_of_minBy hmin)
      refine ⟨_, bind_ok ((hprices request hrequest c
        hc).assignmentOrRaise_eq_ok 0 none) _, fun nodeId count hcount => ?_⟩
      dsimp only at hcount
      rw [PyDict.get_modify] at hcount
      split at hcount
      · obtain ⟨count₀, hcount₀, rfl⟩ := Option.map_eq_some_iff.mp hcount
        obtain ⟨request', hrequest', c', hc', j, hj, rfl⟩ :=
          hcounts _ count₀ hcount₀
        refine ⟨request', hrequest', c', hc', j + 1, Nat.succ_le_succ hj, ?_⟩
        rw [Nat.cast_succ, add_assoc]
      · obtain ⟨request', hrequest', c', hc', j, hj, hcount'⟩ :=
          hcounts nodeId count hcount
        exact ⟨request', hrequest', c', hc', j, hj.trans (Nat.le_succ k),
          hcount'⟩

/-- The least-load policy returns. -/
theorem exists_selectBatchOrRaise (hfigures : FiguresFit requests candidates)
    (hprices : PricesRows p.costModel requests candidates) :
    ∃ assignments, p.selectBatchOrRaise requests candidates
      = .ok assignments := by
  have hinit : CountsWithin requests candidates 0 ⟨.empty, .empty⟩ :=
    fun _ _ h => by cases h
  obtain ⟨s, hs, -⟩ := exists_foldlM
    (I := fun done s => CountsWithin requests candidates done.length s)
    (f := p.assignOrRaise candidates) (l := requests) hinit
    (fun done request s hleads hwithin => by
      have hlength := hleads.length_le
      rw [List.length_append, List.length_singleton] at hlength ⊢
      exact p.exists_assignOrRaise hfigures hprices hwithin (by omega)
        (hleads.subset
          (List.mem_append_right _ (List.mem_singleton.mpr rfl))))
  unfold selectBatchOrRaise
  rw [hs]
  exact ⟨_, rfl⟩

end LeastLoadPolicy

/-- What is taken by its place is one of the row. -/
theorem eligible_of_sortedEligible {requestId : RequestId} {index : ℕ}
    {c : RouteCandidate}
    (h : (sortedEligible candidates requestId)[index]? = some c) :
    c ∈ eligible (candidates.row requestId) :=
  mem_sortedEligible.mp (List.mem_of_getElem? h)

/-- Where every request can be priced, the two loops are one. -/
theorem RoundRobinPolicy.loopOrRaise_eq_ok
    {s : RoundRobinPolicy × PyDict RequestId RouteAssignment}
    (hprices : PricesRows s.1.costModel requests candidates) :
    loopOrRaise candidates s requests
      = ((requests.foldl (assign candidates) s).1,
        .ok (requests.foldl (assign candidates) s).2) := by
  induction requests generalizing s with
  | nil => rfl
  | cons request requests ih =>
      have hrest : PricesRows s.1.costModel requests candidates :=
        fun request hmem => hprices request (List.mem_cons_of_mem _ hmem)
      rw [loopOrRaise, List.foldl_cons]
      unfold assignOrRaise assign
      dsimp only
      cases hindex : (sortedEligible candidates request.requestId)[s.1.nextIndex
          % (sortedEligible candidates request.requestId).length]? with
      | none => exact ih hrest
      | some c =>
          have hprice := hprices request (List.mem_cons_self ..) c
            (eligible_of_sortedEligible hindex)
          dsimp only
          rw [hprice.assignmentOrRaise_eq_ok 0 none]
          exact ih hrest

/-- Round robin returns, and no figure matters. -/
theorem RoundRobinPolicy.selectBatchOrRaise_eq_ok {p : RoundRobinPolicy}
    (hprices : PricesRows p.costModel requests candidates) :
    p.selectBatchOrRaise requests candidates
      = ((p.selectBatch requests candidates).1,
        .ok (p.selectBatch requests candidates).2) :=
  loopOrRaise_eq_ok (s := (p, .empty)) hprices

/-- Prefix hash returns: the tokens it prints are short enough. -/
theorem PrefixHashPolicy.exists_selectBatchOrRaise
    (blake2b : List UInt8 → List UInt8) {p : PrefixHashPolicy}
    (hfigures : p.FiguresFit requests candidates)
    (hprices : PricesRows p.costModel requests candidates) :
    ∃ assignments, p.selectBatchOrRaise blake2b requests candidates
      = .ok assignments := by
  obtain ⟨assignments, h, -⟩ := exists_foldlM (I := fun _ _ => True)
    (f := p.assignOrRaise blake2b candidates) (l := requests) (b := .empty)
    trivial (fun done request before hleads _ => by
      have hrequest := hleads.subset
        (List.mem_append_right done (List.mem_singleton.mpr rfl))
      unfold assignOrRaise
      dsimp only
      split
      next => exact ⟨_, rfl, trivial⟩
      next c hindex =>
        have heligible := eligible_of_sortedEligible hindex
        have hprinted := hfigures request hrequest
          (List.ne_nil_of_mem (mem_of_mem_eligible heligible))
        have hprice := hprices request hrequest c heligible
        rw [bind_ok hprinted, bind_ok (hprice.assignmentOrRaise_eq_ok 0 none)]
        exact ⟨_, rfl, trivial⟩)
  exact ⟨assignments, h⟩

/-- A call returns that can convert its figures and price its requests. -/
theorem Policy.exists_selectBatchOrRaise (blake2b : List UInt8 → List UInt8)
    {policy : Policy} (hfigures : policy.FiguresFit requests candidates)
    (hprices : PricesRows policy.costModel requests candidates) :
    ∃ policy' assignments,
      policy.selectBatchOrRaise blake2b requests candidates
        = (policy', .ok assignments) := by
  obtain ⟨-, hfigures⟩ := hfigures
  cases policy with
  | tieredCompletionTime p =>
      obtain ⟨assignments, h⟩ :=
        p.exists_selectBatchOrRaise hfigures hprices
      exact ⟨_, assignments, Prod.ext rfl h⟩
  | gpuPrefixLoad p =>
      obtain ⟨assignments, h⟩ :=
        p.exists_selectBatchOrRaise hfigures hprices
      exact ⟨_, assignments, Prod.ext rfl h⟩
  | roundRobin p =>
      have hreturned := congrArg Prod.snd
        (RoundRobinPolicy.selectBatchOrRaise_eq_ok hprices)
      exact ⟨_, _, Prod.ext rfl hreturned⟩
  | prefixHash p =>
      obtain ⟨assignments, h⟩ :=
        PrefixHashPolicy.exists_selectBatchOrRaise blake2b hfigures hprices
      exact ⟨_, assignments, Prod.ext rfl h⟩
  | leastLoad p =>
      obtain ⟨assignments, h⟩ :=
        p.exists_selectBatchOrRaise hfigures hprices
      exact ⟨_, assignments, Prod.ext rfl h⟩

end Simple

-- ======================================================= modest figures

/-- What no count reaches. -/
def figureBound : ℤ := 2 ^ 1000

theorem figureBound_nonneg : 0 ≤ figureBound := by decide +kernel

/-- Even a few such counts together can become a float. -/
theorem fitsFloat_of_abs_le {n : ℤ} (h : |n| ≤ 2 * figureBound) :
    FitsFloat n := by
  have hlimit : ((2 * figureBound : ℤ) : ℚ) < PyJson.Float.limit := by
    decide +kernel
  unfold FitsFloat
  rw [← Int.cast_abs]
  exact lt_of_le_of_lt (Int.cast_le.mpr h) hlimit

/-- The same for a count that is not negative. -/
theorem fitsFloat_of_le {n : ℤ} (hnonneg : 0 ≤ n) (h : n ≤ 2 * figureBound) :
    FitsFloat n := fitsFloat_of_abs_le ((abs_of_nonneg hnonneg).le.trans h)

/-- A snapshot whose figures are such counts. -/
structure NodeRoutingState.Modest (node : NodeRoutingState) : Prop where
  active : |node.routerActiveRequests| ≤ figureBound
  running : |node.runningRequests.getD 0| ≤ figureBound
  waiting : |node.waitingRequests.getD 0| ≤ figureBound
  blocks : |node.gpuTotalBlocks.getD 0| ≤ figureBound

instance (node : NodeRoutingState) : Decidable node.Modest :=
  decidable_of_iff (|node.routerActiveRequests| ≤ figureBound
      ∧ |node.runningRequests.getD 0| ≤ figureBound
      ∧ |node.waitingRequests.getD 0| ≤ figureBound
      ∧ |node.gpuTotalBlocks.getD 0| ≤ figureBound)
    ⟨fun ⟨active, running, waiting, blocks⟩ =>
      ⟨active, running, waiting, blocks⟩,
      fun h => ⟨h.active, h.running, h.waiting, h.blocks⟩⟩

/-- A batch in which nothing is too large but the output limits, perhaps.
`str` prints tokens of up to 4300 digits, and a body with a longer integer
is refused before it gets here. -/
structure ModestFigures (requests : List SchedulerRequest)
    (candidates : CandidateMatrix) : Prop where
  few : (requests.length : ℤ) ≤ figureBound
  tokens : ∀ request ∈ requests, ∀ token ∈ request.promptTokens,
    token.natAbs < 10 ^ 4300
  node : ∀ requestId, ∀ c ∈ candidates.row requestId, c.node.Modest
  prompt : ∀ requestId, ∀ c ∈ candidates.row requestId,
    |c.prefixMatch.promptTokens| ≤ figureBound
  cached : ∀ requestId, ∀ c ∈ candidates.row requestId,
    0 ≤ c.prefixMatch.gpuPrefixTokens
  required : RequiredNonNeg candidates

namespace CostModel

variable {m : CostModel}

/-- What a prefill converts is within the prompt. -/
theorem prefillConversions_le {total cached n : ℤ} (h : min 0 total ≤ cached)
    (hn : n ∈ m.prefillConversions total cached) :
    0 ≤ n ∧ n ≤ max 0 total := by
  unfold prefillConversions computeConversions at hn
  split at hn
  · rcases List.mem_pair.mp hn with rfl | rfl <;> omega
  · rw [List.mem_singleton.mp hn]
    omega

/-- The prefixes are cut to the prompt before anything is priced. -/
theorem promptPathConversions_le {pm : PrefixMatch}
    (hcached : 0 ≤ pm.gpuPrefixTokens) (includeExternal : Bool) {n : ℤ}
    (hn : n ∈ m.promptPathConversions pm includeExternal) :
    0 ≤ n ∧ n ≤ max 0 pm.promptTokens := by
  unfold promptPathConversions transferConversions at hn
  dsimp only at hn
  split at hn
  · exact prefillConversions_le (by omega) hn
  split at hn
  · exact prefillConversions_le (by omega) hn
  · rcases List.mem_append.mp hn with hn | hn
    · rcases List.mem_append.mp hn with hn | hn
      · rw [List.mem_singleton.mp hn]
        omega
      · split at hn
        · rw [List.mem_singleton.mp hn]
          omega
        · cases hn
    · exact prefillConversions_le (by omega) hn

end CostModel

/-- A queue of such counts can be converted. -/
theorem NodeRoutingState.Modest.fits_depth {node : NodeRoutingState}
    (h : node.Modest) : FitsFloat node.depthConversion := by
  have habs : |node.depthConversion| ≤ _ := abs_add_le _ _
  have hrunning := h.running
  have hwaiting := h.waiting
  exact fitsFloat_of_abs_le (by omega)

/-- So can what `_queue_cost` converts of it. -/
theorem NodeRoutingState.Modest.fits_queue {c : RouteCandidate}
    (h : c.node.Modest) {n : ℤ}
    (hn : n ∈ TieredCompletionTimePolicy.queueConversions c) :
    FitsFloat n := by
  have hbound : 1 ≤ figureBound := by decide +kernel
  have hwaiting := (le_abs_self _).trans h.waiting
  have hrunning := (le_abs_self _).trans h.running
  unfold TieredCompletionTimePolicy.queueConversions at hn
  rcases List.mem_pair.mp hn with rfl | rfl
  · exact fitsFloat_of_le (le_max_left _ _) (by omega)
  · have hcount : c.node.runningRequests.getD 1 ≤ figureBound := by
      cases hcase : c.node.runningRequests with
      | none => exact hbound
      | some running =>
          rw [hcase] at hrunning
          exact hrunning
    exact fitsFloat_of_le (by omega) (by omega)

section Modest

variable {requests : List SchedulerRequest} {candidates : CandidateMatrix}

/-- The candidates' prompts and prefixes are small enough for any price. -/
theorem ModestFigures.fits_path (h : ModestFigures requests candidates)
    (m : CostModel) (includeExternal : Bool) {requestId : RequestId}
    {c : RouteCandidate} (hc : c ∈ eligible (candidates.row requestId))
    {n : ℤ} (hn : n ∈ m.promptPathConversions c.prefixMatch includeExternal) :
    FitsFloat n := by
  have hrow := mem_of_mem_eligible hc
  have hprompt := h.prompt requestId c hrow
  obtain ⟨hnonneg, hle⟩ := CostModel.promptPathConversions_le
    (h.cached requestId c hrow) includeExternal hn
  have hbound := figureBound_nonneg
  have habs := le_abs_self c.prefixMatch.promptTokens
  exact fitsFloat_of_le hnonneg (by omega)

/-- What a tiered policy converts of them. -/
theorem ModestFigures.tiered (h : ModestFigures requests candidates)
    (p : TieredCompletionTimePolicy) : p.FiguresFit requests candidates where
  path := fun _ _ _ hc _ hn => h.fits_path _ _ hc hn
  queue := fun _ _ c hc _ hn =>
    (h.node _ c (mem_of_mem_eligible hc)).fits_queue hn
  depth := fun _ _ c hc => (h.node _ c (mem_of_mem_eligible hc)).fits_depth
  blocks := by
    intro total htotal
    obtain ⟨c, hc, htotal⟩ := List.mem_flatMap.mp htotal
    obtain ⟨requestId, hrow⟩ := CandidateMatrix.mem_row_of_mem hc
    have hblocks := (h.node requestId c hrow).blocks
    have hbound := figureBound_nonneg
    rw [CandidateMatrix.blocksGivenBack_eq_zero h.required, mul_zero, add_zero]
    unfold NodeRoutingState.freeBlockConversions at htotal
    split at htotal
    case h_2 => cases htotal
    case h_1 total' _ hcase _ =>
      rw [hcase, Option.getD_some] at hblocks
      rw [List.mem_singleton.mp htotal]
      exact fitsFloat_of_le (abs_nonneg _) (by omega)

/-- What the least-load policy converts of them: the batch is no larger than
a figure. -/
theorem ModestFigures.leastLoad (h : ModestFigures requests candidates) :
    LeastLoadPolicy.FiguresFit requests candidates := by
  intro request _ c hc
  have hnode := h.node _ c (mem_of_mem_eligible hc)
  refine ⟨hnode.fits_depth, fun k hk => fitsFloat_of_abs_le ?_⟩
  have habs := abs_add_le c.node.routerActiveRequests k
  rw [Nat.abs_cast] at habs
  have hfew := h.few
  have hactive := hnode.active
  omega

/-- Modest figures are no obstacle to any policy. -/
theorem ModestFigures.figuresFit (h : ModestFigures requests candidates)
    (policy : Policy) : policy.FiguresFit requests candidates := by
  refine ⟨fun _ _ _ hc _ hn => h.fits_path _ _ hc hn, ?_⟩
  cases policy with
  | tieredCompletionTime p => exact h.tiered p
  | gpuPrefixLoad p => exact h.tiered p.toTieredCompletionTimePolicy
  | roundRobin p => trivial
  | prefixHash p =>
      exact fun request hrequest _ => if_pos fun token htoken =>
        h.tokens request hrequest token (List.mem_of_mem_take htoken)
  | leastLoad p => exact h.leastLoad

end Modest

-- ============================================================ the tracker

/-- A request of such sizes, whatever output it asks for. -/
structure SchedulerRequest.Modest (request : SchedulerRequest) : Prop where
  prompt : (request.promptTokens.length : ℤ) ≤ figureBound
  tokens : ∀ token ∈ request.promptTokens, token.natAbs < 10 ^ 4300
  output : 0 ≤ request.maxTokens

instance (request : SchedulerRequest) : Decidable request.Modest :=
  decidable_of_iff ((request.promptTokens.length : ℤ) ≤ figureBound
      ∧ (∀ token ∈ request.promptTokens, token.natAbs < 10 ^ 4300)
      ∧ 0 ≤ request.maxTokens)
    ⟨fun ⟨prompt, tokens, output⟩ => ⟨prompt, tokens, output⟩,
      fun h => ⟨h.prompt, h.tokens, h.output⟩⟩

/-- An entry whose figures are such counts, whatever its domain's status. -/
def NodeEntry.Modest (e : NodeEntry) : Prop :=
  (e.routingState .healthy).Modest

instance (e : NodeEntry) : Decidable e.Modest :=
  inferInstanceAs (Decidable (NodeRoutingState.Modest _))

/-- The snapshot of such an entry. -/
theorem NodeEntry.Modest.routingState {e : NodeEntry} (h : e.Modest)
    (lmcacheCatalogStatus : CatalogStatus) :
    (e.routingState lmcacheCatalogStatus).Modest :=
  ⟨h.active, h.running, h.waiting, h.blocks⟩

/-- What the tracker builds is modest if its nodes and the requests are. -/
theorem KareserveTracker.modestFigures {t : KareserveTracker}
    (hnodes : ∀ e ∈ t.entries.values, e.Modest)
    {requests : List SchedulerRequest}
    (hfew : (requests.length : ℤ) ≤ figureBound)
    (hrequests : ∀ request ∈ requests, request.Modest) (defaultBlockSize : ℤ)
    (externalMatches :
      Option (PyDict RequestId (PyDict String PrefixMatch))) :
    ModestFigures requests (t.buildRouteCandidates requests defaultBlockSize
      externalMatches) where
  few := hfew
  tokens := fun request hrequest => (hrequests request hrequest).tokens
  node := by
    intro requestId c hc
    obtain ⟨request, -, -, nodeId, e, he, externalMatch, rfl⟩ :=
      mem_row_buildRouteCandidates hc
    exact (hnodes e (PyDict.mem_values_iff.mpr ⟨nodeId, he⟩)).routingState _
  prompt := by
    intro requestId c hc
    obtain ⟨request, hrequest, -, nodeId, e, he, externalMatch, rfl⟩ :=
      mem_row_buildRouteCandidates hc
    exact (abs_of_nonneg (Int.natCast_nonneg _)).le.trans
      (hrequests request hrequest).prompt
  cached := by
    intro requestId c hc
    obtain ⟨request, -, -, nodeId, e, he, externalMatch, rfl⟩ :=
      mem_row_buildRouteCandidates hc
    exact e.eventMatch_nonneg _ _
  required := buildRouteCandidates_required
    fun request hrequest => (hrequests request hrequest).output

/-- No candidate of modest figures is beyond a float, nor is a price. -/
theorem KareserveTracker.exists_selectBatchOrRaise {t : KareserveTracker}
    (hnodes : ∀ e ∈ t.entries.values, e.Modest)
    {requests : List SchedulerRequest}
    (hfew : (requests.length : ℤ) ≤ figureBound)
    (hrequests : ∀ request ∈ requests, request.Modest)
    (houtput : ∀ request ∈ requests, request.maxTokens ≤ figureBound)
    (defaultBlockSize : ℤ)
    (externalMatches :
      Option (PyDict RequestId (PyDict String PrefixMatch)))
    (blake2b : List UInt8 → List UInt8) (policy : Policy) :
    ∃ candidates policy' assignments,
      t.buildRouteCandidatesOrRaise requests defaultBlockSize externalMatches
          = .ok candidates
        ∧ policy.selectBatchOrRaise blake2b requests candidates
          = (policy', .ok assignments) := by
  -- the matrix divides prompt and output by a block size, which only a huge
  -- limit carries beyond a float
  have hbuilt : t.buildRouteCandidatesOrRaise requests defaultBlockSize
      externalMatches = .ok _ := t.buildRouteCandidatesOrRaise_eq_ok
    (fun request hrequest => by
      have habs := abs_of_nonneg (hrequests request hrequest).output
      have hprompt := (hrequests request hrequest).prompt
      have hmax := houtput request hrequest
      have hsum : (request.promptTokens.length : ℤ) + |request.maxTokens|
          ≤ 2 * figureBound := by omega
      have hnonneg : 0 ≤ (request.promptTokens.length : ℤ)
          + |request.maxTokens| :=
        add_nonneg (Int.natCast_nonneg _) (abs_nonneg _)
      exact lt_of_abs_lt (fitsFloat_of_le hnonneg hsum))
    defaultBlockSize externalMatches
  -- what the policy then converts is of the snapshots and the candidates
  have hfigures := modestFigures hnodes hfew hrequests defaultBlockSize
    externalMatches
  -- or the output of a request, which is where a price could be beyond one
  have hprices : PricesAll policy.costModel requests
      (t.buildRouteCandidates requests defaultBlockSize externalMatches) := by
    intro request hrequest _ n hn
    have hle := houtput request hrequest
    have hnonneg := (hrequests request hrequest).output
    have hbound := figureBound_nonneg
    unfold CostModel.outputConversions CostModel.computeConversions at hn
    split at hn
    · rw [List.mem_singleton.mp hn]
      exact fitsFloat_of_le hnonneg (by omega)
    · split at hn
      · rw [List.mem_singleton.mp hn]
        exact fitsFloat_of_le (le_max_left _ _) (by omega)
      · cases hn
  have hfit := hfigures.figuresFit policy
  obtain ⟨policy', assignments, h⟩ := Policy.exists_selectBatchOrRaise
    blake2b hfit (hfit.1.pricesRows hprices)
  exact ⟨_, policy', assignments, hbuilt, h⟩

-- ========================================================= the contract

section Contract

variable {blake2b : List UInt8 → List UInt8} {policy : Policy}
  {requests : List SchedulerRequest} {candidates : CandidateMatrix}

end Contract

/-- A client asks for more tokens than a float can count. -/
def endlessRequest : SchedulerRequest where
  requestId := "r"
  promptTokens := [1, 2]
  maxTokens := 2 ^ 1024

end Kareserve
