/-
The loop of `select_batch`: it never raises, it ends, and it answers the
batch.

# No KeyError

Every node of the matrix has a virtual load from the start and none is
ever dropped (`Covers`). Where that holds the partial operations of
Policy/Tiered.lean have total counterparts here, `ranking`, `rankings`
and `best`, and the proofs are about these.

# Runs

A pass that assigns a request is a step of a machine whose label is the
choice, so the loop is a run (`selection_eq_some`), and its assignments
are the labels of that run, in order (`run_assignments`). What holds of
every run holds of `select_batch`.
-/
import Kareserve.Lib.Fault
import Kareserve.Policy.Tiered

namespace Kareserve

open SortKey

/-- The load of a node, or of an idle one. -/
def VirtualLoads.load (loads : VirtualLoads) (nodeId : NodeId) : VirtualLoad :=
  (loads.get nodeId).getD ⟨0, 0, none⟩

/-- Every candidate's node has a virtual load. -/
def Covers (candidates : CandidateMatrix) (loads : VirtualLoads) : Prop :=
  ∀ requestId, ∀ c ∈ candidates.row requestId,
    ∃ load, loads.get c.node.nodeId = some load

/-- `ranked`, where every load is there. -/
def TieredCompletionTimePolicy.ranking (p : TieredCompletionTimePolicy)
    (loads : VirtualLoads) (row : List RouteCandidate) : List Evaluation :=
  sortBy Evaluation.key ((admissible loads row).map fun item =>
    p.evaluation item (loads.load item.node.nodeId))

section Total

variable (p : TieredCompletionTimePolicy) (candidates : CandidateMatrix)

/-- `options`, where every load is there. -/
def Selection.rankings (s : Selection) : List RankedRequest :=
  (s.pending.values.map fun request =>
    (request, p.ranking s.loads (candidates.row request.requestId))).filter
      fun option => !option.2.isEmpty

/-- `choose`, where every load is there. -/
def Selection.best (s : Selection) : Option Choice :=
  (minBy RankedRequest.priority (s.rankings p candidates)).bind fun option =>
    option.2.head?.map fun best =>
      { request := option.1
        candidate := best.candidate
        breakdown := best.breakdown }

end Total

section Loop

variable {p : TieredCompletionTimePolicy} {candidates : CandidateMatrix}
  {requests : List SchedulerRequest}

/-- Admissible candidates are eligible. -/
theorem mem_of_mem_admissible {loads : VirtualLoads}
    {row : List RouteCandidate} {c : RouteCandidate}
    (h : c ∈ admissible loads row) : c ∈ eligible row := by
  unfold admissible at h
  dsimp only at h
  split at h
  · exact h
  · exact (List.mem_filter.mp h).1

/-- A row that is not empty has an admissible candidate: where none fits, all
are. -/
theorem admissible_eq_nil {loads : VirtualLoads} {row : List RouteCandidate} :
    admissible loads row = [] ↔ row = [] := by
  refine Iff.trans ?_ eligible_eq_nil
  unfold admissible
  dsimp only
  split
  case isTrue => exact Iff.rfl
  case isFalse hsome =>
    refine iff_of_false (fun hnil => hsome (by rw [hnil]; rfl)) fun hnil => ?_
    rw [hnil] at hsome
    exact hsome rfl

/-- A ranking reads no missing load. -/
theorem ranked_eq_some (p : TieredCompletionTimePolicy) {loads : VirtualLoads}
    {row : List RouteCandidate}
    (h : ∀ c ∈ row, ∃ load, loads.get c.node.nodeId = some load) :
    p.ranked loads row = some (p.ranking loads row) := by
  unfold TieredCompletionTimePolicy.ranked
  rw [Fault.mapM_of_forall_some (g := fun item =>
    p.evaluation item (loads.load item.node.nodeId)) fun c hc => ?_]
  · rfl
  · obtain ⟨load, hload⟩ :=
      h c (mem_of_mem_eligible (mem_of_mem_admissible hc))
    unfold VirtualLoads.load
    rw [hload]
    rfl

/-- Only an empty row has no ranking. -/
theorem ranking_eq_nil {loads : VirtualLoads} {row : List RouteCandidate} :
    p.ranking loads row = [] ↔ row = [] := by
  have hadmissible : admissible loads row = [] ↔ row = [] := admissible_eq_nil
  refine Iff.trans ?_ hadmissible
  rw [← List.length_eq_zero_iff, ← List.length_eq_zero_iff]
  unfold TieredCompletionTimePolicy.ranking
  rw [length_sortBy, List.length_map]

/-- A pass reads no missing load either. -/
theorem Selection.choose_eq_some {s : Selection}
    (h : Covers candidates s.loads) :
    s.choose p candidates = some (s.best p candidates) := by
  have hoptions : s.options p candidates = some (s.rankings p candidates) := by
    unfold options
    rw [Fault.mapM_of_forall_some fun request _ => by
      rw [ranked_eq_some p (h request.requestId)]
      rfl]
    rfl
  unfold choose
  rw [hoptions]
  rfl

-- ========================================================= one choice

/-- What a choice is: the first of the ranking of a pending request. -/
theorem Selection.best_eq_some {s : Selection} {c : Choice}
    (h : s.best p candidates = some c) :
    ∃ e rest, c.request ∈ s.pending.values
      ∧ p.ranking s.loads (candidates.row c.request.requestId) = e :: rest
      ∧ c.candidate = e.candidate ∧ c.breakdown = e.breakdown := by
  obtain ⟨option, hmin, hhead⟩ := Option.bind_eq_some_iff.mp h
  obtain ⟨e, he, hc⟩ := Option.map_eq_some_iff.mp hhead
  have hmem := (List.mem_filter.mp (mem_of_minBy hmin)).1
  obtain ⟨request, hrequest, hoption⟩ := List.mem_map.mp hmem
  subst hoption
  subst hc
  dsimp only at he ⊢
  cases hranking : p.ranking s.loads (candidates.row request.requestId) with
  | nil =>
      rw [hranking] at he
      cases he
  | cons e' rest =>
      rw [hranking] at he
      injection he with he
      subst he
      exact ⟨e', rest, hrequest, rfl, rfl, rfl⟩

/-- The chosen candidate is one of the admissible ones, evaluated. -/
theorem Selection.best_mem {s : Selection} {c : Choice}
    (h : s.best p candidates = some c) :
    c.candidate ∈ admissible s.loads (candidates.row c.request.requestId)
      ∧ c.breakdown = p.breakdown c.candidate
        (s.loads.load c.candidate.node.nodeId).reservedWork
        (s.loads.load c.candidate.node.nodeId).freeBlocks := by
  obtain ⟨e, rest, -, hranking, hcandidate, hbreakdown⟩ := best_eq_some h
  have hmem : e ∈ p.ranking s.loads (candidates.row c.request.requestId) := by
    rw [hranking]
    exact List.mem_cons_self ..
  unfold TieredCompletionTimePolicy.ranking at hmem
  rw [mem_sortBy] at hmem
  obtain ⟨item, hitem, he⟩ := List.mem_map.mp hmem
  rw [hcandidate, hbreakdown, ← he]
  exact ⟨hitem, rfl⟩

/-- The loop ends where no pending request has a candidate. -/
theorem Selection.best_eq_none {s : Selection} :
    s.best p candidates = none
      ↔ ∀ request ∈ s.pending.values,
        candidates.row request.requestId = [] := by
  constructor
  · intro h request hrequest
    by_contra hrow
    -- a row with a candidate has a ranking, which is one of the options
    have hmem : (request,
        p.ranking s.loads (candidates.row request.requestId))
        ∈ s.rankings p candidates := by
      refine List.mem_filter.mpr ⟨List.mem_map.mpr ⟨request, hrequest, rfl⟩, ?_⟩
      have hranking : p.ranking s.loads (candidates.row request.requestId)
          ≠ [] := mt ranking_eq_nil.mp hrow
      simpa using hranking
    cases hmin : minBy RankedRequest.priority (s.rankings p candidates) with
    | none =>
        rw [minBy_eq_none] at hmin
        rw [hmin] at hmem
        cases hmem
    | some option =>
        unfold best at h
        rw [hmin] at h
        -- and no option is an empty ranking
        have hsome := (List.mem_filter.mp (mem_of_minBy hmin)).2
        cases hlist : option.2 with
        | nil => simp [hlist] at hsome
        | cons e rest => simp [hlist] at h
  · intro h
    have hnil : s.rankings p candidates = [] := by
      unfold rankings
      rw [List.filter_eq_nil_iff]
      intro option hoption
      obtain ⟨request, hrequest, rfl⟩ := List.mem_map.mp hoption
      simp [ranking_eq_nil.mpr (h request hrequest)]
    unfold best
    rw [hnil]
    rfl

/-- Nothing pending, nothing chosen. -/
theorem Selection.best_of_isEmpty {s : Selection}
    (h : s.pending.items.isEmpty = true) : s.best p candidates = none := by
  rw [List.isEmpty_iff] at h
  rw [best_eq_none]
  unfold PyDict.values
  rw [h]
  intro request hmem
  cases hmem

-- ============================================================= invariant

/-- What holds of every state of the loop. -/
structure SelectionInv (m : CostModel) (requests : List SchedulerRequest)
    (candidates : CandidateMatrix) (s : Selection) : Prop where
  covers : Covers candidates s.loads
  pending : ∀ requestId request, s.pending.get requestId = some request →
    request ∈ requests ∧ request.requestId = requestId
      ∧ s.assignments.get requestId = none
  known : ∀ request ∈ requests,
    (∃ request', s.pending.get request.requestId = some request')
      ∨ ∃ a, s.assignments.get request.requestId = some a
  legal : ∀ requestId a, s.assignments.get requestId = some a →
    ∃ request ∈ requests, request.requestId = requestId
      ∧ Assigns m (candidates.row requestId) request a

/-- A candidate of a row is a candidate of the matrix. -/
theorem CandidateMatrix.mem_of_mem_row {requestId : RequestId}
    {c : RouteCandidate} (h : c ∈ candidates.row requestId) :
    c ∈ candidates.values.flatMap PyDict.values := by
  unfold CandidateMatrix.row at h
  cases hget : candidates.get requestId with
  | none =>
      rw [hget] at h
      cases h
  | some byNode =>
      rw [hget] at h
      exact List.mem_flatMap.mpr
        ⟨byNode, PyDict.mem_values_iff.mpr ⟨requestId, hget⟩, h⟩

/-- Whatever is in the matrix is in one of its rows. -/
theorem CandidateMatrix.mem_row_of_mem {c : RouteCandidate}
    (h : c ∈ candidates.values.flatMap PyDict.values) :
    ∃ requestId, c ∈ candidates.row requestId := by
  obtain ⟨byNode, hbyNode, hc⟩ := List.mem_flatMap.mp h
  obtain ⟨requestId, hget⟩ := PyDict.mem_values_iff.mp hbyNode
  refine ⟨requestId, ?_⟩
  unfold CandidateMatrix.row
  rw [hget]
  exact hc

/-- The first loop gives every node of the matrix a load. -/
theorem VirtualLoads.init_covers (candidates : CandidateMatrix) :
    Covers candidates (.init candidates) := fun _ c hc =>
  PyDict.exists_get_foldl_setDefault _ _
    (Or.inr ⟨c, CandidateMatrix.mem_of_mem_row hc, rfl⟩)

/-- The loop starts with nothing chosen and the snapshot's loads. -/
theorem SelectionInv.init (m : CostModel) (requests : List SchedulerRequest)
    (candidates : CandidateMatrix) :
    SelectionInv m requests candidates (.init requests candidates) where
  covers := VirtualLoads.init_covers candidates
  pending := by
    intro requestId request h
    obtain ⟨request', hmem, heq⟩ :=
      List.mem_map.mp (PyDict.mem_of_get_ofList h)
    injection heq with hid hrequest
    subst hrequest
    exact ⟨hmem, hid, rfl⟩
  known := by
    intro request hmem
    refine Or.inl (PyDict.exists_get_ofList ?_)
    rw [List.map_map]
    exact List.mem_map.mpr ⟨request, hmem, rfl⟩
  legal := fun requestId a h => by cases h

/-- What a step is. -/
theorem SelectionInv.step_eq_some {s s' : Selection} {c : Choice}
    (h : SelectionInv p.costModel requests candidates s)
    (hstep : s.step p candidates c = some s') :
    s.best p candidates = some c
      ∧ s.pending.get c.request.requestId = some c.request
      ∧ ∃ load, s.loads.get c.candidate.node.nodeId = some load
        ∧ s' = {
          pending := s.pending.erase c.request.requestId
          loads := s.loads.set c.candidate.node.nodeId
            (load.add (c.assignment p.costModel).inflightWork
              c.candidate.requiredNewGpuBlocks)
          assignments := s.assignments.set c.request.requestId
            (c.assignment p.costModel) } := by
  unfold Selection.step at hstep
  split at hstep
  case isFalse => cases hstep
  case isTrue hchoose =>
    rw [Selection.choose_eq_some h.covers] at hchoose
    injection hchoose with hbest
    obtain ⟨load, hload, hs⟩ := Option.map_eq_some_iff.mp hstep
    obtain ⟨-, -, hrequest, -⟩ := Selection.best_eq_some hbest
    obtain ⟨requestId, hget⟩ := PyDict.mem_values_iff.mp hrequest
    obtain ⟨-, hid, -⟩ := h.pending requestId c.request hget
    rw [← hid] at hget
    exact ⟨hbest, hget, load, hload, hs.symm⟩

/-- A choice can always be committed. -/
theorem SelectionInv.step_of_best {s : Selection} {c : Choice}
    (h : SelectionInv p.costModel requests candidates s)
    (hbest : s.best p candidates = some c) :
    ∃ s', s.commit p c = some s' ∧ s.step p candidates c = some s' := by
  obtain ⟨load, hload⟩ := h.covers c.request.requestId c.candidate
    (mem_of_mem_eligible (mem_of_mem_admissible (Selection.best_mem hbest).1))
  have hcommit : ∃ s', s.commit p c = some s' := by
    unfold Selection.commit
    dsimp only
    rw [hload]
    exact ⟨_, rfl⟩
  obtain ⟨s', hs'⟩ := hcommit
  refine ⟨s', hs', ?_⟩
  unfold Selection.step
  rw [if_pos (by rw [Selection.choose_eq_some h.covers, hbest])]
  exact hs'

/-- One pass of the loop keeps the invariant. -/
theorem SelectionInv.step {s s' : Selection} {c : Choice}
    (h : SelectionInv p.costModel requests candidates s)
    (hstep : s.step p candidates c = some s') :
    SelectionInv p.costModel requests candidates s' := by
  obtain ⟨hbest, hget, load, hload, rfl⟩ := h.step_eq_some hstep
  have hcandidate := mem_of_mem_admissible (Selection.best_mem hbest).1
  refine ⟨fun requestId c' hc' => ?_, fun requestId request hpending => ?_,
    fun request hmem => ?_, fun requestId a ha => ?_⟩
  · rw [PyDict.get_set]
    split
    · exact ⟨_, rfl⟩
    · exact h.covers requestId c' hc'
  · rw [PyDict.get_erase] at hpending
    split at hpending
    · cases hpending
    · rename_i hne
      rw [PyDict.get_set_of_ne _ hne]
      exact h.pending requestId request hpending
  · by_cases hid : request.requestId = c.request.requestId
    · rw [hid, PyDict.get_set_self]
      exact Or.inr ⟨_, rfl⟩
    · rw [PyDict.get_erase, if_neg hid, PyDict.get_set_of_ne _ hid]
      exact h.known request hmem
  · rw [PyDict.get_set] at ha
    split at ha
    · rename_i hid
      injection ha with ha
      subst ha
      rw [hid]
      exact ⟨c.request, (h.pending _ _ hget).1, rfl,
        assigns_of_eligible hcandidate _ _ _⟩
    · exact h.legal requestId a ha

/-- The invariant holds after any number of passes. -/
theorem SelectionInv.run {s s' : Selection} {choices : List Choice}
    (h : SelectionInv p.costModel requests candidates s)
    (hrun : Lts.run (Selection.step p candidates) s choices = some s') :
    SelectionInv p.costModel requests candidates s' :=
  Lts.run_preserves (fun _ _ _ hs hstep => hs.step hstep) h hrun

/-- The assignments are the choices, in order. -/
theorem SelectionInv.run_assignments {s s' : Selection}
    {choices : List Choice}
    (h : SelectionInv p.costModel requests candidates s)
    (hrun : Lts.run (Selection.step p candidates) s choices = some s') :
    s'.assignments.items = s.assignments.items
      ++ choices.map fun c => (c.request.requestId, c.assignment p.costModel) := by
  induction choices generalizing s with
  | nil =>
      injection hrun with hrun
      rw [hrun]
      exact (List.append_nil _).symm
  | cons c choices ih =>
      obtain ⟨s₁, hstep, hrest⟩ := Lts.run_cons_eq_some.mp hrun
      obtain ⟨-, hget, load, -, hs₁⟩ := h.step_eq_some hstep
      have hnew := (h.pending _ _ hget).2.2
      rw [ih (h.step hstep) hrest, hs₁]
      dsimp only
      rw [PyDict.items_set_of_get_eq_none hnew, List.append_assoc]
      rfl

-- ============================================================== the loop

/-- With a pass for every pending request the loop runs to its end. -/
theorem SelectionInv.loop {s : Selection}
    (h : SelectionInv p.costModel requests candidates s) {fuel : ℕ}
    (hfuel : s.pending.items.length ≤ fuel) :
    ∃ choices s', Selection.loop p candidates fuel s = some s'
      ∧ Lts.run (Selection.step p candidates) s choices = some s'
      ∧ s'.best p candidates = none := by
  induction fuel generalizing s with
  | zero =>
      have hnil : s.pending.items.isEmpty = true := by
        rw [List.isEmpty_iff, ← List.length_eq_zero_iff]
        omega
      exact ⟨[], s, if_pos hnil, rfl, Selection.best_of_isEmpty hnil⟩
  | succ fuel ih =>
      by_cases hnil : s.pending.items.isEmpty = true
      · exact ⟨[], s, if_pos hnil, rfl, Selection.best_of_isEmpty hnil⟩
      · unfold Selection.loop
        rw [if_neg hnil, Selection.choose_eq_some h.covers, Option.bind_some]
        cases hbest : s.best p candidates with
        | none => exact ⟨[], s, rfl, rfl, hbest⟩
        | some c =>
            obtain ⟨s₁, hcommit, hstep⟩ := h.step_of_best hbest
            obtain ⟨-, hget, load, -, hs₁⟩ := h.step_eq_some hstep
            have hless : s₁.pending.items.length < s.pending.items.length := by
              rw [hs₁]
              exact PyDict.length_items_erase_lt hget
            obtain ⟨choices, s', hloop, hrun, hend⟩ :=
              ih (h.step hstep) (by omega)
            refine ⟨c :: choices, s', ?_, ?_, hend⟩
            · dsimp only
              rw [hcommit]
              exact hloop
            · rw [Lts.run_cons, hstep]
              exact hrun

end Loop

variable (p : TieredCompletionTimePolicy) (requests : List SchedulerRequest)
  (candidates : CandidateMatrix)

/-- `select_batch` never raises and always ends: it is a run of choices
that goes on while a pending request has a candidate. -/
theorem TieredCompletionTimePolicy.selection_eq_some :
    ∃ choices s, p.selection requests candidates = some s
      ∧ Lts.run (Selection.step p candidates) (.init requests candidates)
        choices = some s
      ∧ s.best p candidates = none
      ∧ SelectionInv p.costModel requests candidates s := by
  have hinit := SelectionInv.init p.costModel requests candidates
  have hfuel : (Selection.init requests candidates).pending.items.length
      ≤ requests.length := by
    have hle := PyDict.length_items_ofList_le
      (requests.map fun request => (request.requestId, request))
    rwa [List.length_map] at hle
  obtain ⟨choices, s, hloop, hrun, hend⟩ := hinit.loop hfuel
  exact ⟨choices, s, hloop, hrun, hend, hinit.run hrun⟩

/-- `select_batch` answers the batch. -/
theorem TieredCompletionTimePolicy.selectBatch_eq_some :
    ∃ assignments, p.selectBatch requests candidates = some assignments
      ∧ AssignsBatch p.costModel requests candidates assignments := by
  obtain ⟨choices, s, hselection, -, hend, hinv⟩ :=
    p.selection_eq_some requests candidates
  refine ⟨s.assignments, ?_, ?_, hinv.legal⟩
  · unfold selectBatch
    rw [hselection]
    rfl
  · intro request hmem hrow
    rcases hinv.known request hmem with ⟨request', hpending⟩ | hassigned
    · have hid := (hinv.pending _ _ hpending).2.1
      have hnil := Selection.best_eq_none.mp hend request'
        (PyDict.mem_values_iff.mpr ⟨_, hpending⟩)
      rw [hid] at hnil
      exact absurd hnil hrow
    · exact hassigned

end Kareserve
