/-
Joint assignment does not depend on the order of arrival.

# Why it could

`select_batch` goes through dictionaries in their insertion order, sorts
stably and takes first minima, and every pick changes the load the next
one sees. A single tie broken by order would be carried into all later
picks.

# Why it does not

The key of a candidate ends in its node's id and the priority of a request
in its own id, so neither has ties (`SortKey.sortBy_perm`,
`SortKey.minBy_perm`). Two states that read alike (`Selection.SameReads`)
therefore choose alike (`best_eq`), and lead to states that read alike.
-/
import Kareserve.Policy.Proofs.Capacity

namespace Kareserve

open SortKey

/-- The same matrix, its rows and the candidates of a row in any order. -/
def CandidateMatrix.Reordered (candidates candidates' : CandidateMatrix) :
    Prop :=
  ∀ requestId, Option.Rel (fun byNode byNode' =>
      byNode.items.Perm byNode'.items)
    (candidates.get requestId) (candidates'.get requestId)

-- ================================================================= rows

section Rows

variable {candidates candidates' : CandidateMatrix}

theorem CandidateMatrix.Reordered.row
    (h : candidates.Reordered candidates') (requestId : RequestId) :
    (candidates.row requestId).Perm (candidates'.row requestId) := by
  have hrel := h requestId
  unfold CandidateMatrix.row
  cases hget : candidates.get requestId with
  | none =>
      rw [hget] at hrel
      cases hget' : candidates'.get requestId with
      | none => exact .refl _
      | some byNode' =>
          rw [hget'] at hrel
          cases hrel
  | some byNode =>
      rw [hget] at hrel
      cases hget' : candidates'.get requestId with
      | none =>
          rw [hget'] at hrel
          cases hrel
      | some byNode' =>
          rw [hget'] at hrel
          cases hrel with
          | some hperm => exact hperm.map Prod.snd

theorem CandidateMatrix.Reordered.shared
    (h : candidates.Reordered candidates')
    (hshared : SharedSnapshots candidates) : SharedSnapshots candidates' :=
  fun requestId c hc requestId' c' hc' =>
    hshared requestId c ((h.row requestId).mem_iff.mpr hc)
      requestId' c' ((h.row requestId').mem_iff.mpr hc')

/-- A row has one candidate for a node. -/
theorem KeyedByNode.row_inj (h : KeyedByNode candidates)
    {requestId : RequestId} {c c' : RouteCandidate}
    (hc : c ∈ candidates.row requestId) (hc' : c' ∈ candidates.row requestId)
    (hid : c.node.nodeId = c'.node.nodeId) : c = c' := by
  unfold CandidateMatrix.row at hc hc'
  cases hget : candidates.get requestId with
  | none =>
      rw [hget] at hc
      cases hc
  | some byNode =>
      rw [hget, Option.getD_some, PyDict.mem_values_iff] at hc hc'
      obtain ⟨nodeId, hc⟩ := hc
      obtain ⟨nodeId', hc'⟩ := hc'
      rw [← h requestId byNode hget nodeId c hc, hid,
        h requestId byNode hget nodeId' c' hc', hc'] at hc
      injection hc with hc
      exact hc.symm

/-- The first load of a node is its snapshot's, and only nodes of the
matrix have one. -/
theorem VirtualLoads.init_get_iff (hshared : SharedSnapshots candidates)
    {nodeId : NodeId} {load : VirtualLoad} :
    (VirtualLoads.init candidates).get nodeId = some load
      ↔ ∃ requestId, ∃ c ∈ candidates.row requestId,
        c.node.nodeId = nodeId ∧ c.node.virtualLoad = load := by
  constructor
  · intro hload
    rcases PyDict.of_get_foldl_setDefault hload with hnone | ⟨c, hc, hid, hl⟩
    · cases hnone
    · obtain ⟨requestId, hrow⟩ := CandidateMatrix.mem_row_of_mem hc
      exact ⟨requestId, c, hrow, hid, hl⟩
  · intro hrow
    obtain ⟨requestId, c, hc, rfl, rfl⟩ := hrow
    exact VirtualLoads.init_get hshared hc

theorem CandidateMatrix.Reordered.init_get
    (h : candidates.Reordered candidates')
    (hshared : SharedSnapshots candidates) (nodeId : NodeId) :
    (VirtualLoads.init candidates).get nodeId
      = (VirtualLoads.init candidates').get nodeId := by
  apply Option.ext
  intro load
  rw [VirtualLoads.init_get_iff hshared,
    VirtualLoads.init_get_iff (h.shared hshared)]
  constructor
  · intro hrow
    obtain ⟨requestId, c, hc, hload⟩ := hrow
    exact ⟨requestId, c, (h.row requestId).mem_iff.mp hc, hload⟩
  · intro hrow
    obtain ⟨requestId, c, hc, hload⟩ := hrow
    exact ⟨requestId, c, (h.row requestId).mem_iff.mpr hc, hload⟩

/-- The elements that pass a test, or all where none does, in any order. -/
theorem perm_preferred {α : Type*} {q q' : α → Bool} {l l' : List α}
    (hq : ∀ a, q a = q' a) (h : l.Perm l') :
    (if (l.filter q).isEmpty then l else l.filter q).Perm
      (if (l'.filter q').isEmpty then l' else l'.filter q') := by
  have hsame : q = q' := funext hq
  subst hsame
  have hfilter := h.filter q
  rw [hfilter.isEmpty_eq]
  split
  · exact h
  · exact hfilter

end Rows

-- =============================================================== choices

/-- States that read alike. -/
structure Selection.SameReads (s s' : Selection) : Prop where
  pending : ∀ requestId, s.pending.get requestId = s'.pending.get requestId
  loads : ∀ nodeId, s.loads.get nodeId = s'.loads.get nodeId

section Choices

variable {p : TieredCompletionTimePolicy}
  {candidates candidates' : CandidateMatrix}

theorem admissible_perm {loads loads' : VirtualLoads}
    {row row' : List RouteCandidate}
    (hloads : ∀ nodeId, loads.get nodeId = loads'.get nodeId)
    (hrow : row.Perm row') :
    (admissible loads row).Perm (admissible loads' row') := by
  have heligible : (eligible row).Perm (eligible row') :=
    perm_preferred (fun _ => rfl) hrow
  apply perm_preferred _ heligible
  intro c
  unfold VirtualLoads.freeBlocks
  rw [hloads]

/-- Rows that read alike are ranked alike. -/
theorem ranking_eq {loads loads' : VirtualLoads}
    (hcandidates : candidates.Reordered candidates')
    (hkeyed : KeyedByNode candidates)
    (hloads : ∀ nodeId, loads.get nodeId = loads'.get nodeId)
    (requestId : RequestId) :
    p.ranking loads (candidates.row requestId)
      = p.ranking loads' (candidates'.row requestId) := by
  have hadmissible := admissible_perm hloads (hcandidates.row requestId)
  have hload : ∀ nodeId, loads.load nodeId = loads'.load nodeId := by
    intro nodeId
    unfold VirtualLoads.load
    rw [hloads]
  unfold TieredCompletionTimePolicy.ranking
  simp only [← hload]
  apply sortBy_perm _ (hadmissible.map _)
  -- the last component of the key names the candidate
  intro a ha b hb hkey
  obtain ⟨c, hc, rfl⟩ := List.mem_map.mp ha
  obtain ⟨c', hc', rfl⟩ := List.mem_map.mp hb
  have hid : c.node.nodeId = c'.node.nodeId :=
    congrArg (fun key => (ofLex (ofLex (ofLex key).2).2).2) hkey
  have hsame : c = c' := hkeyed.row_inj
    (mem_of_mem_eligible (mem_of_mem_admissible hc))
    (mem_of_mem_eligible (mem_of_mem_admissible hc')) hid
  rw [hsame]

/-- States that read alike choose alike. -/
theorem Selection.SameReads.best_eq {s s' : Selection}
    {requests : List SchedulerRequest} (h : s.SameReads s')
    (hinv : SelectionInv p.costModel requests candidates s)
    (hcandidates : candidates.Reordered candidates')
    (hkeyed : KeyedByNode candidates) :
    s.best p candidates = s'.best p candidates' := by
  have hrankings : (s.rankings p candidates).Perm
      (s'.rankings p candidates') := by
    unfold Selection.rankings
    simp only [ranking_eq (p := p) hcandidates hkeyed h.loads]
    exact ((PyDict.perm_values h.pending).map _).filter _
  unfold Selection.best
  rw [minBy_perm _ hrankings]
  -- the last component of the priority names the request
  intro a ha b hb hpriority
  obtain ⟨request, hrequest, rfl⟩ :=
    List.mem_map.mp (List.mem_filter.mp ha).1
  obtain ⟨request', hrequest', rfl⟩ :=
    List.mem_map.mp (List.mem_filter.mp hb).1
  have hid : request.requestId = request'.requestId :=
    congrArg (fun priority => (ofLex (ofLex priority).2).2) hpriority
  obtain ⟨requestId, hget⟩ := PyDict.mem_values_iff.mp hrequest
  obtain ⟨requestId', hget'⟩ := PyDict.mem_values_iff.mp hrequest'
  rw [← (hinv.pending _ _ hget).2.1, hid,
    (hinv.pending _ _ hget').2.1, hget'] at hget
  injection hget with hsame
  rw [hsame]

/-- One choice leads states that read alike to states that read alike. -/
theorem Selection.SameReads.step {s s' t t' : Selection} {c : Choice}
    {requests requests' : List SchedulerRequest} (h : s.SameReads s')
    (hinv : SelectionInv p.costModel requests candidates s)
    (hinv' : SelectionInv p.costModel requests' candidates' s')
    (hstep : s.step p candidates c = some t)
    (hstep' : s'.step p candidates' c = some t') : t.SameReads t' := by
  obtain ⟨-, -, load, hload, rfl⟩ := hinv.step_eq_some hstep
  obtain ⟨-, -, load', hload', rfl⟩ := hinv'.step_eq_some hstep'
  rw [h.loads, hload'] at hload
  injection hload with hload
  subst hload
  constructor
  · intro requestId
    rw [PyDict.get_erase, PyDict.get_erase, h.pending]
  · intro nodeId
    rw [PyDict.get_set, PyDict.get_set, h.loads]

end Choices

/-- Joint assignment does not depend on the order of arrival: not on that
of the requests, of the rows, or of the candidates in a row. In either order
a call has these assignments, if it returns. -/
theorem joint_assignment_ignores_order (p : TieredCompletionTimePolicy)
    {requests requests' : List SchedulerRequest}
    (hdistinct : (requests.map (·.requestId)).Nodup)
    (hrequests : requests.Perm requests')
    {candidates candidates' : CandidateMatrix}
    (hshared : SharedSnapshots candidates) (hkeyed : KeyedByNode candidates)
    (hcandidates : candidates.Reordered candidates') :
    ∃ assignments, p.selectBatch requests candidates = some assignments
      ∧ p.selectBatch requests' candidates' = some assignments
      ∧ Fault.Returns (p.selectBatchOrRaise requests candidates) assignments
      ∧ Fault.Returns (p.selectBatchOrRaise requests' candidates')
        assignments := by
  obtain ⟨choices, t, hselection, hrun, hend, -⟩ :=
    p.selection_eq_some requests candidates
  obtain ⟨choices', t', hselection', hrun', hend', -⟩ :=
    p.selection_eq_some requests' candidates'
  -- both loops begin with the same requests and loads, whatever their order
  have hinit : (Selection.init requests candidates).SameReads
      (.init requests' candidates') := by
    refine ⟨fun requestId => ?_, hcandidates.init_get hshared⟩
    apply PyDict.get_ofList_perm (hrequests.map _)
    rw [List.map_map]
    exact hdistinct
  -- in lockstep: from states that read alike the best choice is one and the
  -- same, as it is the least of a total order, and both states take it
  have hrelated := Lts.run_related
    (R := fun s s' => s.SameReads s'
      ∧ SelectionInv p.costModel requests candidates s
      ∧ SelectionInv p.costModel requests' candidates' s')
    (Q := Eq)
    (fun s s' c t hR hstep => (hR.2.1.step_eq_some hstep).1)
    (fun s s' c t hR hstep => (hR.2.2.step_eq_some hstep).1)
    (fun s s' hR => by
      rw [← hR.1.best_eq hR.2.1 hcandidates hkeyed]
      cases s.best p candidates with
      | none => exact .none
      | some c => exact .some rfl)
    (fun s s' c c' t t' hR hc hstep hstep' => by
      subst hc
      exact ⟨hR.1.step hR.2.1 hR.2.2 hstep hstep', hR.2.1.step hstep,
        hR.2.2.step hstep'⟩)
    ⟨hinit, .init _ _ _, .init _ _ _⟩ hrun hend hrun' hend'
  obtain ⟨hchoices, -⟩ := hrelated
  rw [List.forall₂_eq_eq_eq] at hchoices
  subst hchoices
  -- the assignments are written in the order of the choices
  have hitems := (SelectionInv.init _ _ _).run_assignments hrun
  have hitems' := (SelectionInv.init _ _ _).run_assignments hrun'
  have hsame : t'.assignments = t.assignments := by
    apply PyDict.ext_items
    rw [hitems, hitems']
    rfl
  refine ⟨t.assignments, ?_, ?_, p.selectBatchOrRaise_returns hselection,
    hsame ▸ p.selectBatchOrRaise_returns hselection'⟩
  · unfold TieredCompletionTimePolicy.selectBatch
    rw [hselection]
    rfl
  · unfold TieredCompletionTimePolicy.selectBatch
    rw [hselection', ← hsame]
    rfl

/-- Two requests and two nodes, the other way round. -/
theorem joint_assignment_two_orders :
    ∃ assignments,
      tieredDefault.selectBatch (["r", "q"].map sixBlockRequest)
          (blockMatrix ["a", "b"] ["r", "q"]) = some assignments
        ∧ tieredDefault.selectBatch (["q", "r"].map sixBlockRequest)
          (blockMatrix ["b", "a"] ["q", "r"]) = some assignments := by
  suffices hreordered : (blockMatrix ["a", "b"] ["r", "q"]).Reordered
      (blockMatrix ["b", "a"] ["q", "r"]) by
    have hdistinct : ((["r", "q"].map sixBlockRequest).map
        (·.requestId)).Nodup := by decide
    obtain ⟨assignments, h, h', -, -⟩ :=
      joint_assignment_ignores_order tieredDefault hdistinct (.swap _ _ _)
        (KareserveTracker.Keyed.init _).sharedSnapshots
        (KareserveTracker.Keyed.init _).keyedByNode hreordered
    exact ⟨assignments, h, h'⟩
  intro requestId
  by_cases hr : requestId = "r"
  · subst hr
    exact .some (by decide +kernel)
  by_cases hq : requestId = "q"
  · subst hq
    exact .some (by decide +kernel)
  have hnone : ∀ nodeIds requestIds, requestId ∉ requestIds →
      (blockMatrix nodeIds requestIds).get requestId = none := by
    intro nodeIds requestIds hnot
    apply PyDict.get_ofList_eq_none
    rw [List.map_map, List.map_map]
    show requestId ∉ requestIds.map fun requestId => requestId
    rwa [List.map_id']
  rw [hnone _ _ (by simp [hr, hq]), hnone _ _ (by simp [hr, hq])]
  exact .none

end Kareserve
