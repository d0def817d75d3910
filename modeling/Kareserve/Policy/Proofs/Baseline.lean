/-
What `gpu_prefix_load` sees of the external caches.

# The view

`withoutExternal` takes out of a candidate what an LMCache lookup put in.
Two matrices that are equal then differ only in lookup results.

# What is blind to it, and what is not

With `include_external_cache` off, ranking and choosing are functions of
the view (`best_withoutExternal`), so two selections with the same pending
requests and loads choose the same request and node at the same cost. The
work of an assignment is not: `_assignment` calls `candidate_work`, which
prices the external prefix whatever the policy. That work is reserved, in
the loop and in the tracker, and is read again by the next choice.

`Selection.SameWork` says that the candidate whose turn it is counts as
the same work in both matrices. Where it holds at every pass the two
selections stay together (`choices_related`); where it fails they have
parted by then (`sameWork_of_decisions`).
-/
import Kareserve.Policy.Proofs.Order

namespace Kareserve

open SortKey

-- ============================================================== the view

/-- A candidate without what a lookup of the external caches found. -/
def RouteCandidate.withoutExternal (c : RouteCandidate) : RouteCandidate :=
  { c with
    node := { c.node with lmcacheCatalogStatus := .healthy }
    prefixMatch := { c.prefixMatch with
      cpuPrefixTokens := 0, fsPrefixTokens := 0, objPrefixTokens := 0 } }

/-- The matrix of the candidates without their external prefixes. -/
def CandidateMatrix.withoutExternal (candidates : CandidateMatrix) :
    CandidateMatrix :=
  candidates.map fun _ byNode => byNode.map fun _ c => c.withoutExternal

/-- The same evaluation, of the candidate without its external prefix. -/
def Evaluation.withoutExternal (e : Evaluation) : Evaluation :=
  { e with candidate := e.candidate.withoutExternal }

/-- A ranked request, each of its candidates without the external prefix. -/
def RankedRequest.withoutExternal (r : RankedRequest) : RankedRequest :=
  (r.1, r.2.map Evaluation.withoutExternal)

/-- A choice of the loop, of the candidate without its external prefix. -/
def Choice.withoutExternal (c : Choice) : Choice :=
  { c with candidate := c.candidate.withoutExternal }

/-- What is left of an assignment that prices no external prefix. -/
def RouteAssignment.withoutExternal (a : RouteAssignment) : RouteAssignment :=
  { a with candidate := a.candidate.withoutExternal }

/-- What a request is told and the tracker reserves: the node, the cost and
the work. -/
def RouteAssignment.decision (a : RouteAssignment) : NodeId × ℚ × ℚ :=
  (a.candidate.node.nodeId, a.estimatedCost, a.inflightWork)

section View

variable {candidates candidates' : CandidateMatrix}

/-- Every row keeps its candidates, in their order. -/
theorem CandidateMatrix.row_withoutExternal (requestId : RequestId) :
    candidates.withoutExternal.row requestId
      = (candidates.row requestId).map RouteCandidate.withoutExternal := by
  unfold CandidateMatrix.row CandidateMatrix.withoutExternal
  rw [PyDict.get_map]
  cases candidates.get requestId with
  | none => rfl
  | some byNode => exact PyDict.values_map _ _

theorem keyedByNode_withoutExternal :
    KeyedByNode candidates.withoutExternal ↔ KeyedByNode candidates := by
  unfold KeyedByNode CandidateMatrix.withoutExternal
  constructor
  · intro h requestId byNode hget nodeId c hc
    refine h requestId (byNode.map fun _ c => c.withoutExternal) ?_ nodeId
      c.withoutExternal ?_
    · rw [PyDict.get_map, hget]
      rfl
    · rw [PyDict.get_map, hc]
      rfl
  · intro h requestId byNode hget nodeId c hc
    rw [PyDict.get_map] at hget
    obtain ⟨byNode', hget', rfl⟩ := Option.map_eq_some_iff.mp hget
    rw [PyDict.get_map] at hc
    obtain ⟨c', hc', rfl⟩ := Option.map_eq_some_iff.mp hc
    exact h requestId byNode' hget' nodeId c' hc'

/-- Loads are read off the snapshots, which the view keeps. -/
theorem VirtualLoads.init_withoutExternal :
    VirtualLoads.init candidates.withoutExternal
      = VirtualLoads.init candidates := by
  have hvalues : candidates.withoutExternal.values.flatMap PyDict.values
      = (candidates.values.flatMap PyDict.values).map
        RouteCandidate.withoutExternal := by
    unfold CandidateMatrix.withoutExternal
    rw [PyDict.values_map, List.flatMap_map, List.map_flatMap]
    simp only [PyDict.values_map]
  unfold VirtualLoads.init
  rw [hvalues, List.foldl_map]
  rfl

/-- Filtering an image by a test the map keeps. -/
theorem filter_map_keeps {α β : Type*} {f : α → β} {q : α → Bool}
    {q' : β → Bool} (hq : ∀ a, q' (f a) = q a) (l : List α) :
    (l.map f).filter q' = (l.filter q).map f := by
  rw [List.filter_map]
  exact congrArg (List.map f) (List.filter_congr fun a _ => hq a)

/-- The elements that pass a test, or all where none does, mapped by what
keeps the test. -/
theorem map_preferred {α β : Type*} {f : α → β} {q : α → Bool}
    {q' : β → Bool} (hq : ∀ a, q' (f a) = q a) (l : List α) :
    (if ((l.map f).filter q').isEmpty then l.map f else (l.map f).filter q')
      = (if (l.filter q).isEmpty then l else l.filter q).map f := by
  rw [filter_map_keeps hq, List.isEmpty_map]
  split <;> rfl

/-- Who is eligible does not depend on external prefixes. -/
theorem eligible_withoutExternal (row : List RouteCandidate) :
    eligible (row.map RouteCandidate.withoutExternal)
      = (eligible row).map RouteCandidate.withoutExternal :=
  map_preferred (fun _ => rfl) row

/-- Who fits a node does not, either. -/
theorem admissible_withoutExternal (loads : VirtualLoads)
    (row : List RouteCandidate) :
    admissible loads (row.map RouteCandidate.withoutExternal)
      = (admissible loads row).map RouteCandidate.withoutExternal := by
  unfold admissible
  rw [eligible_withoutExternal]
  exact map_preferred (fun _ => rfl) (eligible row)

end View

-- =============================================================== choices

section Blind

variable {p : TieredCompletionTimePolicy}
  (hp : p.includeExternalCache = false)
  {candidates candidates' : CandidateMatrix}

include hp

/-- Without the external caches, a candidate costs the same. -/
theorem breakdown_withoutExternal (c : RouteCandidate) (reservedWork : ℚ)
    (freeBlocks : Option ℤ) :
    p.breakdown c.withoutExternal reservedWork freeBlocks
      = p.breakdown c reservedWork freeBlocks := by
  have hpath : p.promptPathCost c.withoutExternal = p.promptPathCost c := by
    unfold TieredCompletionTimePolicy.promptPathCost
    rw [hp]
    rfl
  unfold TieredCompletionTimePolicy.breakdown
  rw [hpath]
  rfl

/-- With the costs, the order of a row is the same. -/
theorem ranking_withoutExternal (loads : VirtualLoads)
    (row : List RouteCandidate) :
    p.ranking loads (row.map RouteCandidate.withoutExternal)
      = (p.ranking loads row).map Evaluation.withoutExternal := by
  have hsort : ∀ l, sortBy Evaluation.key (l.map Evaluation.withoutExternal)
      = (sortBy Evaluation.key l).map Evaluation.withoutExternal :=
    sortBy_map fun _ => rfl
  unfold TieredCompletionTimePolicy.ranking
  rw [admissible_withoutExternal, ← hsort, List.map_map, List.map_map]
  congr 1
  apply List.map_congr_left
  intro c _
  show Evaluation.mk c.withoutExternal _ _
    = Evaluation.mk c.withoutExternal _ _
  rw [breakdown_withoutExternal hp]
  rfl

omit hp in
/-- The requests also keep their order. -/
theorem priority_withoutExternal (r : RankedRequest) :
    r.withoutExternal.priority = r.priority := by
  obtain ⟨request, ranked⟩ := r
  unfold RankedRequest.priority RankedRequest.withoutExternal
  dsimp only
  rw [List.length_map]
  match ranked with
  | [] => rfl
  | [_] => rfl
  | _ :: _ :: _ => rfl

/-- What is chosen in the view is the view of what is chosen. -/
theorem Selection.best_withoutExternal (s : Selection) :
    s.best p candidates.withoutExternal
      = (s.best p candidates).map Choice.withoutExternal := by
  have hrankings : s.rankings p candidates.withoutExternal
      = (s.rankings p candidates).map RankedRequest.withoutExternal := by
    have hsome : ∀ r : RankedRequest,
        (!r.withoutExternal.2.isEmpty) = !r.2.isEmpty := by
      intro r
      unfold RankedRequest.withoutExternal
      rw [List.isEmpty_map]
    have hfilter : ∀ l : List RankedRequest,
        (l.map RankedRequest.withoutExternal).filter
            (fun option => !option.2.isEmpty)
          = (l.filter fun option => !option.2.isEmpty).map
            RankedRequest.withoutExternal := by
      apply filter_map_keeps
      exact hsome
    unfold Selection.rankings
    rw [← hfilter, List.map_map]
    congr 1
    apply List.map_congr_left
    intro request _
    rw [CandidateMatrix.row_withoutExternal, ranking_withoutExternal hp]
    rfl
  unfold Selection.best
  rw [hrankings, minBy_map priority_withoutExternal]
  cases minBy RankedRequest.priority (s.rankings p candidates) with
  | none => rfl
  | some option =>
      obtain ⟨request, ranked⟩ := option
      cases ranked <;> rfl

end Blind

-- ============================================================= two runs

/-- The candidate whose turn it is counts as the same work in both
matrices. -/
def Selection.SameWork (p : TieredCompletionTimePolicy)
    (candidates candidates' : CandidateMatrix) (s : Selection) : Prop :=
  ∀ c, s.choose p candidates = some (some c) →
    ∀ c' ∈ candidates'.row c.request.requestId,
      c'.node.nodeId = c.candidate.node.nodeId →
        p.costModel.candidateWork c.request c'
          = p.costModel.candidateWork c.request c.candidate

/-- Two selections that have not parted. -/
structure Selection.Together (p : TieredCompletionTimePolicy)
    (requests : List SchedulerRequest)
    (candidates candidates' : CandidateMatrix) (s s' : Selection) : Prop where
  pending : s'.pending = s.pending
  loads : s'.loads = s.loads
  inv : SelectionInv p.costModel requests candidates s
  inv' : SelectionInv p.costModel requests candidates' s'

/-- Choices that differ in what a lookup found only, and count as the same
work. -/
structure Choice.Related (m : CostModel) (c c' : Choice) : Prop where
  view : c'.withoutExternal = c.withoutExternal
  work : (c'.assignment m).inflightWork = (c.assignment m).inflightWork

section Together

variable {p : TieredCompletionTimePolicy} {requests : List SchedulerRequest}
  {candidates candidates' : CandidateMatrix}
  {s s' : Selection} {c c' : Choice}

/-- Related choices assign alike, up to the external prefixes. -/
theorem Choice.Related.assignment {m : CostModel} (h : c.Related m c') :
    (c'.assignment m).withoutExternal
      = (c.assignment m).withoutExternal := by
  have hcandidate := congrArg Choice.candidate h.view
  have hbreakdown := congrArg Choice.breakdown h.view
  have hwork := h.work
  unfold Choice.withoutExternal at hcandidate hbreakdown
  dsimp only at hcandidate hbreakdown
  unfold Choice.assignment CostModel.assignment at hwork ⊢
  unfold RouteAssignment.withoutExternal
  dsimp only at hwork ⊢
  rw [hcandidate, hbreakdown, hwork]

/-- Related choices are for one request. -/
theorem Choice.request_eq (h : c'.withoutExternal = c.withoutExternal) :
    c'.request = c.request := by
  injection h

theorem Choice.nodeId_eq (h : c'.withoutExternal = c.withoutExternal) :
    c'.candidate.node.nodeId = c.candidate.node.nodeId :=
  congrArg (fun c => c.candidate.node.nodeId) h

theorem Choice.required_eq (h : c'.withoutExternal = c.withoutExternal) :
    c'.candidate.requiredNewGpuBlocks = c.candidate.requiredNewGpuBlocks :=
  congrArg (fun c => c.candidate.requiredNewGpuBlocks) h

/-- Two calls start together. -/
theorem Selection.Together.init
    (h : candidates'.withoutExternal = candidates.withoutExternal) :
    Together p requests candidates candidates' (.init requests candidates)
      (.init requests candidates') where
  pending := rfl
  loads := by
    show VirtualLoads.init candidates' = VirtualLoads.init candidates
    rw [← VirtualLoads.init_withoutExternal, h,
      VirtualLoads.init_withoutExternal]
  inv := .init _ _ _
  inv' := .init _ _ _

/-- They choose alike. -/
theorem Selection.Together.best (hp : p.includeExternalCache = false)
    (hview : candidates'.withoutExternal = candidates.withoutExternal)
    (h : Together p requests candidates candidates' s s') :
    (s'.best p candidates').map Choice.withoutExternal
      = (s.best p candidates).map Choice.withoutExternal := by
  rw [← best_withoutExternal hp, ← best_withoutExternal hp, hview]
  unfold Selection.best Selection.rankings
  rw [h.pending, h.loads]

/-- Related choices keep them together. -/
theorem Selection.Together.step
    (h : Together p requests candidates candidates' s s')
    (hc : c.Related p.costModel c') {t t' : Selection}
    (hstep : s.step p candidates c = some t)
    (hstep' : s'.step p candidates' c' = some t') :
    Together p requests candidates candidates' t t' := by
  obtain ⟨-, -, load, hload, ht⟩ := h.inv.step_eq_some hstep
  obtain ⟨-, -, load', hload', ht'⟩ := h.inv'.step_eq_some hstep'
  rw [h.loads, Choice.nodeId_eq hc.view, hload] at hload'
  injection hload' with hload'
  refine ⟨?_, ?_, h.inv.step hstep, h.inv'.step hstep'⟩
  · rw [ht, ht', h.pending, Choice.request_eq hc.view]
  · rw [ht, ht', h.loads, Choice.nodeId_eq hc.view,
      Choice.required_eq hc.view, hc.work, hload']

/-- What `SameWork` says of the two choices. -/
theorem Selection.Together.related (hp : p.includeExternalCache = false)
    (hview : candidates'.withoutExternal = candidates.withoutExternal)
    (h : Together p requests candidates candidates' s s')
    (hsame : s.SameWork p candidates candidates') :
    Option.Rel (Choice.Related p.costModel) (s.best p candidates)
      (s'.best p candidates') := by
  have hbest := h.best hp hview
  cases hc : s.best p candidates with
  | none =>
      rw [hc] at hbest
      rw [Option.map_eq_none_iff.mp hbest]
      exact .none
  | some c =>
      rw [hc] at hbest
      obtain ⟨c', hc', hcview⟩ := Option.map_eq_some_iff.mp hbest
      rw [hc']
      refine .some ⟨hcview, ?_⟩
      have hrow := mem_of_mem_eligible
        (mem_of_mem_admissible (best_mem hc').1)
      rw [Choice.request_eq hcview] at hrow
      have hwork := hsame c
        (by rw [choose_eq_some h.inv.covers, hc]) c'.candidate hrow
        (Choice.nodeId_eq hcview)
      show p.costModel.candidateWork c'.request c'.candidate = _
      rw [Choice.request_eq hcview]
      exact hwork

/-- A run to the end takes the choice whose turn it is, and ends with its
assignment. -/
theorem SelectionInv.run_head {t : Selection} {rest : List Choice}
    (h : SelectionInv p.costModel requests candidates s)
    (hbest : s.best p candidates = some c)
    (hrun : Lts.run (Selection.step p candidates) s rest = some t)
    (hend : t.best p candidates = none) :
    ∃ s₁ rest₁, s.step p candidates c = some s₁
      ∧ Lts.run (Selection.step p candidates) s₁ rest₁ = some t
      ∧ t.assignments.get c.request.requestId
        = some (c.assignment p.costModel) := by
  cases rest with
  | nil =>
      injection hrun with hrun
      rw [hrun, hend] at hbest
      cases hbest
  | cons d rest =>
      obtain ⟨s₁, hstep, hrest⟩ := Lts.run_cons_eq_some.mp hrun
      have hd := (h.step_eq_some hstep).1
      rw [hbest] at hd
      injection hd with hd
      subst hd
      refine ⟨s₁, rest, hstep, hrest, ?_⟩
      rw [PyDict.get_eq_some_iff, h.run_assignments hrun]
      exact List.mem_append_right _ (List.mem_cons_self ..)

/-- While every candidate whose turn it is counts as the same work, the
two loops make related choices to their ends. -/
theorem choices_related (hp : p.includeExternalCache = false)
    (hview : candidates'.withoutExternal = candidates.withoutExternal)
    (hsame : ∀ made s, Lts.run (Selection.step p candidates)
      (.init requests candidates) made = some s →
        s.SameWork p candidates candidates')
    {choices choices' : List Choice} {t t' : Selection}
    (hrun : Lts.run (Selection.step p candidates)
      (.init requests candidates) choices = some t)
    (hend : t.best p candidates = none)
    (hrun' : Lts.run (Selection.step p candidates')
      (.init requests candidates') choices' = some t')
    (hend' : t'.best p candidates' = none) :
    List.Forall₂ (Choice.Related p.costModel) choices choices'
      ∧ Selection.Together p requests candidates candidates' t t' := by
  have hrelated := Lts.run_related
    (R := fun s s' =>
      Selection.Together p requests candidates candidates' s s'
        ∧ ∃ made, Lts.run (Selection.step p candidates)
          (.init requests candidates) made = some s)
    (Q := Choice.Related p.costModel)
    (fun s s' c t hR hstep => (hR.1.inv.step_eq_some hstep).1)
    (fun s s' c t hR hstep => (hR.1.inv'.step_eq_some hstep).1)
    (fun s s' hR => by
      obtain ⟨htogether, made, hmade⟩ := hR
      exact htogether.related hp hview (hsame made s hmade))
    (fun s s' c c' t t' hR hc hstep hstep' => by
      obtain ⟨htogether, made, hmade⟩ := hR
      exact ⟨htogether.step hc hstep hstep', made ++ [c],
        Lts.run_concat_eq_some.mpr ⟨s, hmade, hstep⟩⟩)
    ⟨.init hview, [], rfl⟩ hrun hend hrun' hend'
  exact ⟨hrelated.1, hrelated.2.1⟩

/-- Where the two loops decide the same for every request, their next
choices are related at any state they are together in. -/
theorem Selection.Together.next (hp : p.includeExternalCache = false)
    (hview : candidates'.withoutExternal = candidates.withoutExternal)
    {t t' : Selection}
    (hdecisions : ∀ requestId,
      (t'.assignments.get requestId).map RouteAssignment.decision
        = (t.assignments.get requestId).map RouteAssignment.decision)
    (hend : t.best p candidates = none)
    (hend' : t'.best p candidates' = none)
    {rest rest' : List Choice} {c : Choice}
    (h : Selection.Together p requests candidates candidates' s s')
    (hrun : Lts.run (Selection.step p candidates) s rest = some t)
    (hrun' : Lts.run (Selection.step p candidates') s' rest' = some t')
    (hc : s.best p candidates = some c) :
    ∃ c' s₁ s₁' rest₁ rest₁', s'.best p candidates' = some c'
      ∧ c.Related p.costModel c' ∧ s.step p candidates c = some s₁
      ∧ s'.step p candidates' c' = some s₁'
      ∧ Lts.run (Selection.step p candidates) s₁ rest₁ = some t
      ∧ Lts.run (Selection.step p candidates') s₁' rest₁' = some t' := by
  have hbest := h.best hp hview
  rw [hc] at hbest
  obtain ⟨c', hc', hcview⟩ := Option.map_eq_some_iff.mp hbest
  obtain ⟨s₁, rest₁, hstep, hrest, hget⟩ := h.inv.run_head hc hrun hend
  obtain ⟨s₁', rest₁', hstep', hrest', hget'⟩ :=
    h.inv'.run_head hc' hrun' hend'
  refine ⟨c', s₁, s₁', rest₁, rest₁', hc', ⟨hcview, ?_⟩, hstep, hstep',
    hrest, hrest'⟩
  have hdecision := hdecisions c.request.requestId
  rw [← Choice.request_eq hcview, hget', Choice.request_eq hcview, hget]
    at hdecision
  injection hdecision with hdecision
  exact congrArg (fun decision => decision.2.2) hdecision

/-- Where the two loops decide the same for every request, no candidate
whose turn it was counted as different work. -/
theorem sameWork_of_decisions (hp : p.includeExternalCache = false)
    (hview : candidates'.withoutExternal = candidates.withoutExternal)
    (hkeyed : KeyedByNode candidates') {t t' : Selection}
    (hdecisions : ∀ requestId,
      (t'.assignments.get requestId).map RouteAssignment.decision
        = (t.assignments.get requestId).map RouteAssignment.decision)
    (hend : t.best p candidates = none)
    (hend' : t'.best p candidates' = none)
    {made rest rest' : List Choice} {u : Selection}
    (h : Selection.Together p requests candidates candidates' s s')
    (hrun : Lts.run (Selection.step p candidates) s rest = some t)
    (hrun' : Lts.run (Selection.step p candidates') s' rest' = some t')
    (hmade : Lts.run (Selection.step p candidates) s made = some u) :
    u.SameWork p candidates candidates' := by
  induction made generalizing s s' rest rest' with
  | nil =>
      injection hmade with hmade
      subst hmade
      -- both loops go on with the same decision; the candidate of the other
      -- matrix is the one in its row with that node, and its work is part of
      -- the decision
      intro c hc c'' hc'' hid
      rw [Selection.choose_eq_some h.inv.covers] at hc
      injection hc with hc
      obtain ⟨c', -, -, -, -, hc', hrelated, -⟩ :=
        h.next hp hview hdecisions hend hend' hrun hrun' hc
      have hmem := mem_of_mem_eligible
        (mem_of_mem_admissible (Selection.best_mem hc').1)
      rw [Choice.request_eq hrelated.view] at hmem
      have hcandidate : c'' = c'.candidate := hkeyed.row_inj hc'' hmem
        (hid.trans (Choice.nodeId_eq hrelated.view).symm)
      have hwork : p.costModel.candidateWork c'.request c'.candidate
          = p.costModel.candidateWork c.request c.candidate := hrelated.work
      rw [hcandidate, ← hwork, Choice.request_eq hrelated.view]
  | cons d made ih =>
      obtain ⟨s₁, hstep, hrest⟩ := Lts.run_cons_eq_some.mp hmade
      -- a pass on both sides, and the rest by induction
      obtain ⟨c', s₂, s₁', rest₁, rest₁', -, hrelated, hstep₂, hstep', hrun₁,
        hrun₁'⟩ := h.next hp hview hdecisions hend hend' hrun hrun'
          (h.inv.step_eq_some hstep).1
      rw [hstep] at hstep₂
      injection hstep₂ with hstep₂
      subst hstep₂
      exact ih (h.step hrelated hstep hstep') hrun₁ hrun₁' hrest

/-- The items of related choices are the same in the view. -/
theorem map_assignments_related {m : CostModel}
    {choices choices' : List Choice}
    (h : List.Forall₂ (Choice.Related m) choices choices') :
    (choices'.map fun c => (c.request.requestId,
        (c.assignment m).withoutExternal))
      = choices.map fun c => (c.request.requestId,
        (c.assignment m).withoutExternal) := by
  induction h with
  | nil => rfl
  | cons hc _ ih =>
      rw [List.map_cons, List.map_cons, ih, hc.assignment,
        Choice.request_eq hc.view]

end Together

/-- What `select_batch` answers, in the view. -/
def assignmentsView (assignments : PyDict RequestId RouteAssignment) :
    PyDict RequestId RouteAssignment :=
  assignments.map fun _ a => a.withoutExternal

section Batch

variable (p : TieredCompletionTimePolicy) (requests : List SchedulerRequest)
  {candidates candidates' : CandidateMatrix}

/-- With the same work at every pass, two matrices that differ in lookup
results only are answered alike. -/
theorem selectBatch_view (hp : p.includeExternalCache = false)
    (hview : candidates'.withoutExternal = candidates.withoutExternal)
    (hsame : ∀ made s, Lts.run (Selection.step p candidates)
      (.init requests candidates) made = some s →
        s.SameWork p candidates candidates')
    {a a' : PyDict RequestId RouteAssignment}
    (ha : p.selectBatch requests candidates = some a)
    (ha' : p.selectBatch requests candidates' = some a') :
    assignmentsView a' = assignmentsView a := by
  obtain ⟨choices, t, hselection, hrun, hend, -⟩ :=
    p.selection_eq_some requests candidates
  obtain ⟨choices', t', hselection', hrun', hend', -⟩ :=
    p.selection_eq_some requests candidates'
  unfold TieredCompletionTimePolicy.selectBatch at ha ha'
  rw [hselection] at ha
  rw [hselection'] at ha'
  injection ha with ha
  injection ha' with ha'
  obtain ⟨hrelated, -⟩ :=
    choices_related hp hview hsame hrun hend hrun' hend'
  apply PyDict.ext_items
  show a'.items.map _ = a.items.map _
  rw [← ha, ← ha', (SelectionInv.init _ _ _).run_assignments hrun,
    (SelectionInv.init _ _ _).run_assignments hrun']
  show ([] ++ choices'.map _).map _ = ([] ++ choices.map _).map _
  rw [List.nil_append, List.nil_append, List.map_map, List.map_map]
  exact map_assignments_related hrelated

/-- Exactly then are the node, the cost and the work of every request the
same. -/
theorem selectBatch_decisions_iff (hp : p.includeExternalCache = false)
    (hkeyed : KeyedByNode candidates)
    (hview : candidates'.withoutExternal = candidates.withoutExternal)
    {a a' : PyDict RequestId RouteAssignment}
    (ha : p.selectBatch requests candidates = some a)
    (ha' : p.selectBatch requests candidates' = some a') :
    (∀ requestId, (a'.get requestId).map RouteAssignment.decision
        = (a.get requestId).map RouteAssignment.decision)
      ↔ ∀ made s, Lts.run (Selection.step p candidates)
          (.init requests candidates) made = some s →
        s.SameWork p candidates candidates' := by
  constructor
  · intro hdecisions made s hmade
    obtain ⟨choices, t, hselection, hrun, hend, -⟩ :=
      p.selection_eq_some requests candidates
    obtain ⟨choices', t', hselection', hrun', hend', -⟩ :=
      p.selection_eq_some requests candidates'
    unfold TieredCompletionTimePolicy.selectBatch at ha ha'
    rw [hselection] at ha
    rw [hselection'] at ha'
    injection ha with ha
    injection ha' with ha'
    rw [← ha, ← ha'] at hdecisions
    -- external prefixes are not part of the keys
    have hkeyed' : KeyedByNode candidates' := by
      rw [← keyedByNode_withoutExternal, hview, keyedByNode_withoutExternal]
      exact hkeyed
    exact sameWork_of_decisions hp hview hkeyed' hdecisions hend hend'
      (.init hview) hrun hrun' hmade
  · intro hsame requestId
    have hview' := selectBatch_view p requests hp hview hsame ha ha'
    have hget := congrArg (fun a => (a.get requestId).map
      RouteAssignment.decision) hview'
    unfold assignmentsView at hget
    simp only [PyDict.get_map, Option.map_map] at hget
    exact hget

end Batch

-- ================================================ where it makes no odds

/-- No external prefix beyond the GPU prefix. -/
def PrefixMatch.GpuCovers (pm : PrefixMatch) : Prop :=
  pm.cpuPrefixTokens ≤ pm.gpuPrefixTokens
    ∧ pm.fsPrefixTokens ≤ pm.gpuPrefixTokens
    ∧ pm.objPrefixTokens ≤ pm.gpuPrefixTokens

/-- Such a prefix costs what it costs without external caches. -/
theorem PrefixMatch.GpuCovers.promptPathCost {m : CostModel}
    {pm : PrefixMatch} (h : pm.GpuCovers) :
    m.promptPathCost pm true = m.promptPathCost pm false := by
  obtain ⟨hcpu, hfs, hobj⟩ := h
  have hexternal : max (max (min pm.cpuPrefixTokens pm.promptTokens)
        (min pm.fsPrefixTokens pm.promptTokens))
      (min pm.objPrefixTokens pm.promptTokens)
        ≤ min pm.gpuPrefixTokens pm.promptTokens := by
    omega
  unfold CostModel.promptPathCost
  dsimp only
  rw [if_neg (by simp), if_pos hexternal, if_pos (by simp)]

/-- Where the GPU holds at least what the external caches hold, every
candidate counts as the same work. -/
theorem sameWork_of_gpuCovers {p : TieredCompletionTimePolicy}
    {requests : List SchedulerRequest}
    {candidates candidates' : CandidateMatrix}
    (hkeyed : KeyedByNode candidates)
    (hview : candidates'.withoutExternal = candidates.withoutExternal)
    (hcovers : ∀ requestId, ∀ c ∈ candidates.row requestId,
      c.prefixMatch.GpuCovers)
    (hcovers' : ∀ requestId, ∀ c ∈ candidates'.row requestId,
      c.prefixMatch.GpuCovers)
    {s : Selection} (h : SelectionInv p.costModel requests candidates s) :
    s.SameWork p candidates candidates' := by
  intro c hc c' hc' hid
  rw [Selection.choose_eq_some h.covers] at hc
  injection hc with hc
  have hrow := mem_of_mem_eligible
    (mem_of_mem_admissible (Selection.best_mem hc).1)
  -- the candidate of the node in the one row is that in the other
  have hmem : c'.withoutExternal
      ∈ (candidates.row c.request.requestId).map
        RouteCandidate.withoutExternal := by
    rw [← CandidateMatrix.row_withoutExternal, ← hview,
      CandidateMatrix.row_withoutExternal]
    exact List.mem_map_of_mem hc'
  obtain ⟨c'', hc'', hsame⟩ := List.mem_map.mp hmem
  have hnode : c''.node.nodeId = c'.node.nodeId :=
    congrArg (fun c => c.node.nodeId) hsame
  rw [hkeyed.row_inj hc'' hrow (hnode.trans hid)] at hsame
  have hpath : p.costModel.promptPathCost c'.prefixMatch false
      = p.costModel.promptPathCost c.candidate.prefixMatch false := by
    show p.costModel.promptPathCost c'.withoutExternal.prefixMatch false
      = p.costModel.promptPathCost c.candidate.withoutExternal.prefixMatch false
    rw [hsame]
  unfold CostModel.candidateWork
  rw [(hcovers' _ c' hc').promptPathCost, (hcovers _ _ hrow).promptPathCost,
    hpath]

end Kareserve
