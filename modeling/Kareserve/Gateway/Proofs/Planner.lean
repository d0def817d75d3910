/-
Planning commits what the policy has booked.

`select_batch` counts its choices on virtual loads; `plan` then reserves
the assignments on the tracker. The two are the same sum taken twice: the
virtual loads start as the tracker's counters, and a step of the loop and
the reservation of its choice change them alike (`step_counters`). The
clamp in `reserve_route` never bites, as no work is negative.

`commitPlan` looks for missing requests before it reserves anything, so a
plan that raises has reserved nothing; and it reserves in the order of the
assignments while its results are in the order of the requests, which is why
the reservations are the results' up to their order only
(`commitPlan_calls`).
-/
import Kareserve.Gateway.Planner
import Kareserve.Gateway.Proofs.Pool
import Kareserve.Policy.Proofs.Capacity

namespace Kareserve

/-- `router_active_requests` and `router_inflight_work` of a node. -/
def KareserveTracker.counters (t : KareserveTracker) (nodeId : NodeId) :
    Option (ℤ × ℚ) :=
  (t.entries.get nodeId).map fun e =>
    (e.node.routerActiveRequests, e.node.routerInflightWork)

/-- `active_requests` and `reserved_work` of a node. -/
def VirtualLoads.counters (loads : VirtualLoads) (nodeId : NodeId) :
    Option (ℤ × ℚ) :=
  (loads.get nodeId).map fun load => (load.activeRequests, load.reservedWork)

-- ============================================================== counters

/-- A reservation, on the counters. -/
theorem KareserveTracker.counters_reserve (t : KareserveTracker)
    {nodeId : NodeId} {work : ℚ} (hwork : 0 ≤ work) (nodeId' : NodeId) :
    (t.call (.reserve nodeId work)).counters nodeId'
      = if nodeId' = nodeId
        then (t.counters nodeId').map fun n => (n.1 + 1, n.2 + work)
        else t.counters nodeId' := by
  unfold KareserveTracker.counters
  show (((t.onNode nodeId _).entries.get nodeId').map _) = _
  rw [onNode_get]
  split
  · rw [Option.map_map, Option.map_map]
    show ((t.entries.get nodeId').map fun e =>
        (e.node.routerActiveRequests + 1,
          e.node.routerInflightWork + max 0 work)) = _
    rw [max_eq_right hwork]
    rfl
  · rfl

theorem RoutePlanner.counters_trackerAfter (planner : RoutePlanner)
    (lookup : Option LookupResult) (nodeId : NodeId) :
    (planner.trackerAfter lookup).counters nodeId
      = planner.tracker.counters nodeId := by
  cases lookup <;> rfl

section Loop

variable {p : TieredCompletionTimePolicy} {candidates : CandidateMatrix}
  {requests : List SchedulerRequest}

/-- The virtual loads of a matrix start as the counters of its tracker. -/
theorem init_counters {t : KareserveTracker} (hkeyed : t.Keyed)
    (hsome : requests ≠ []) {defaultBlockSize : ℤ}
    {externalMatches : Option (PyDict RequestId (PyDict String PrefixMatch))}
    (nodeId : NodeId) :
    (VirtualLoads.init (t.buildRouteCandidates requests defaultBlockSize
      externalMatches)).counters nodeId = t.counters nodeId := by
  unfold VirtualLoads.counters KareserveTracker.counters
  cases he : t.entries.get nodeId with
  | some e =>
      obtain ⟨request, hrequest⟩ := List.exists_mem_of_ne_nil _ hsome
      obtain ⟨c, hc, hnode⟩ :=
        t.exists_mem_row_buildRouteCandidates hrequest he
      have hload := VirtualLoads.init_get hkeyed.sharedSnapshots hc
      have hid : c.node.nodeId = nodeId := by
        rw [hnode]
        exact hkeyed nodeId e he
      rw [hid, hnode] at hload
      rw [hload]
      rfl
  | none =>
      cases hload : (VirtualLoads.init (t.buildRouteCandidates requests
          defaultBlockSize externalMatches)).get nodeId with
      | none => rfl
      | some load =>
          rcases PyDict.of_get_foldl_setDefault hload with
            hempty | ⟨c, hc, hid, -⟩
          · cases hempty
          · obtain ⟨requestId, hrow⟩ := CandidateMatrix.mem_row_of_mem hc
            obtain ⟨request, -, -, nodeId', e, he', pm, rfl⟩ :=
              KareserveTracker.mem_row_buildRouteCandidates hrow
            have hid' : e.node.nodeId = nodeId := hid
            rw [hkeyed nodeId' e he'] at hid'
            rw [hid', he] at he'
            cases he'

/-- A choice changes the virtual loads as its reservation changes the
tracker. -/
theorem SelectionInv.step_counters {s s' : Selection} {c : Choice}
    (h : SelectionInv p.costModel requests candidates s)
    (hcosts : p.costModel.NonNeg)
    (hmax : ∀ request ∈ requests, 0 ≤ request.maxTokens)
    (hstep : s.step p candidates c = some s') {t : KareserveTracker}
    (ht : ∀ nodeId, s.loads.counters nodeId = t.counters nodeId)
    (nodeId : NodeId) :
    s'.loads.counters nodeId
      = (t.call (c.assignment p.costModel).reserveCall).counters nodeId := by
  obtain ⟨-, hget, load, hload, rfl⟩ := h.step_eq_some hstep
  have hwork : 0 ≤ (c.assignment p.costModel).inflightWork :=
    CostModel.candidateWork_nonneg hcosts (hmax _ (h.pending _ _ hget).1) _
  show _ = (t.call (.reserve c.candidate.node.nodeId _)).counters nodeId
  rw [KareserveTracker.counters_reserve t hwork, ← ht]
  unfold VirtualLoads.counters
  dsimp only
  rw [PyDict.get_set]
  split
  · rename_i hid
    rw [hid, hload]
    rfl
  · rfl

theorem SelectionInv.run_counters {s s' : Selection} {choices : List Choice}
    (h : SelectionInv p.costModel requests candidates s)
    (hcosts : p.costModel.NonNeg)
    (hmax : ∀ request ∈ requests, 0 ≤ request.maxTokens)
    (hrun : Lts.run (Selection.step p candidates) s choices = some s')
    {t : KareserveTracker}
    (ht : ∀ nodeId, s.loads.counters nodeId = t.counters nodeId)
    (nodeId : NodeId) :
    s'.loads.counters nodeId
      = (t.runCalls (choices.map fun c =>
        (c.assignment p.costModel).reserveCall)).counters nodeId := by
  induction choices generalizing s t with
  | nil =>
      injection hrun with hrun
      rw [← hrun]
      exact ht nodeId
  | cons c choices ih =>
      obtain ⟨s₁, hstep, hrest⟩ := Lts.run_cons_eq_some.mp hrun
      exact ih (h.step hstep) hrest (h.step_counters hcosts hmax hstep ht)

end Loop

-- =============================================================== results

section Results

variable {requests : List SchedulerRequest}
  {assignments : PyDict RequestId RouteAssignment}

/-- The results of distinct requests are one for each, in their order. -/
theorem commitPlan_keys
    (hdistinct : (requests.map (·.requestId)).Nodup)
    {calls : List (RequestId × RouteCall)}
    {results : PyDict RequestId AssignmentResult}
    (h : commitPlan requests assignments = .ok (calls, results)) :
    results.keys = requests.map (·.requestId) := by
  obtain ⟨-, hresults⟩ := RequestPool.commitPlan_ok h
  unfold commitPlan at h
  dsimp only at h
  split at h
  case isTrue => cases h
  case isFalse =>
    injection h with h
    injection h with _ hofList
    have hkeys : (requests.filterMap fun request =>
        (assignments.get request.requestId).map fun assignment =>
          (request.requestId,
            (⟨assignment, requests.length⟩ : AssignmentResult))).map Prod.fst
          = requests.map (·.requestId) := by
      rw [List.map_filterMap, ← List.filterMap_eq_map]
      apply List.filterMap_congr
      intro request hrequest
      obtain ⟨assignment, hget, -⟩ := hresults request hrequest
      rw [hget]
      rfl
    rw [← hofList]
    unfold PyDict.keys
    rw [PyDict.items_ofList (by rw [hkeys]; exact hdistinct)]
    exact hkeys

/-- The reservations are those of the results, each made once. -/
theorem commitPlan_calls
    (hdistinct : (requests.map (·.requestId)).Nodup)
    (hlegal : ∀ requestId a, assignments.get requestId = some a →
      ∃ request ∈ requests, request.requestId = requestId)
    {calls : List (RequestId × RouteCall)}
    {results : PyDict RequestId AssignmentResult}
    (h : commitPlan requests assignments = .ok (calls, results)) :
    (requests.filterMap fun request =>
        (results.get request.requestId).map fun result =>
          (request.requestId, result.assignment.reserveCall)).Perm calls := by
  obtain ⟨hcalls, hresults⟩ := RequestPool.commitPlan_ok h
  have hperm := PyDict.perm_filterMap_get hdistinct fun requestId a ha => by
    obtain ⟨request, hrequest, hid⟩ := hlegal requestId a ha
    exact List.mem_map.mpr ⟨request, hrequest, hid⟩
  have hmap := hperm.map fun p => (p.1, p.2.reserveCall)
  rw [hcalls]
  refine (List.Perm.of_eq ?_).trans hmap
  rw [List.filterMap_map, List.map_filterMap]
  apply List.filterMap_congr
  intro request hrequest
  obtain ⟨assignment, hget, hresult⟩ := hresults request hrequest
  show (results.get request.requestId).map _
    = ((assignments.get request.requestId).map _).map _
  rw [hget, hresult]
  rfl

end Results

-- ================================================================ a plan

/-- Planning from where the lookup has returned, for a group that is not
empty. -/
theorem RoutePlanner.planAfter_commits (blake2b : List UInt8 → List UInt8)
    (planner : RoutePlanner) (hkeyed : planner.tracker.Keyed)
    {p : TieredCompletionTimePolicy}
    (hpolicy : planner.policy = .tieredCompletionTime p)
    (hcosts : p.costModel.NonNeg) {requests : List SchedulerRequest}
    (hdistinct : (requests.map (·.requestId)).Nodup)
    (hmax : ∀ request ∈ requests, 0 ≤ request.maxTokens)
    (hsome : requests ≠ []) (found : Option LookupResult) :
    ∃ planner' answer, planner.planAfter blake2b requests found
        = some (planner', answer)
      ∧ (∀ error, answer = .error error → ∀ nodeId,
        planner'.tracker.counters nodeId = planner.tracker.counters nodeId)
      ∧ ∀ results, answer = .ok results →
        results.keys = requests.map (·.requestId)
          ∧ ∃ s, p.selection requests (planner.candidates requests found)
              = some s
            ∧ (∀ nodeId, planner'.tracker.counters nodeId
              = s.loads.counters nodeId)
            ∧ ∃ calls, planner'.tracker
                = (planner.trackerAfter found).runCalls calls
              ∧ (requests.filterMap fun request =>
                (results.get request.requestId).map fun result =>
                  result.assignment.reserveCall).Perm calls := by
  -- that the lookup's status is marked changes no key and no counter
  have hkeyed' : (planner.trackerAfter found).Keyed := by
    cases found with
    | none => exact hkeyed
    | some found => exact hkeyed.setLmcacheLookupStatus _
  obtain ⟨choices, s, hselection, hrun, -, hinv⟩ :=
    p.selection_eq_some requests (planner.candidates requests found)
  have hinit := SelectionInv.init p.costModel requests
    (planner.candidates requests found)
  have hitems := hinit.run_assignments hrun
  have hselect : planner.policy.selectBatch blake2b requests
      (planner.candidates requests found)
        = some (s.assignments, planner.policy) := by
    rw [hpolicy]
    show (p.selectBatch requests _).map _ = _
    unfold TieredCompletionTimePolicy.selectBatch
    rw [hselection]
    rfl
  unfold RoutePlanner.planAfter
  dsimp only
  rw [hselect, Option.map_some]
  cases hcommit : commitPlan requests s.assignments with
  -- `commitPlan` raises before it reserves anything
  | error error =>
      refine ⟨_, _, rfl, fun _ _ nodeId => ?_, fun results hresults => ?_⟩
      · exact planner.counters_trackerAfter found nodeId
      · cases hresults
  | ok committed =>
      obtain ⟨calls, results⟩ := committed
      refine ⟨_, _, rfl, fun error herror => ?_, fun results' hresults => ?_⟩
      · cases herror
      · injection hresults with hresults
        subst hresults
        refine ⟨commitPlan_keys hdistinct hcommit, s, hselection,
          fun nodeId => ?_, calls.map Prod.snd, rfl, ?_⟩
        -- the reservations are made for the choices in their order, so they
        -- add to the tracker what the loop added to its loads
        · have hcalls : calls.map Prod.snd = choices.map fun c =>
              (c.assignment p.costModel).reserveCall := by
            rw [(RequestPool.commitPlan_ok hcommit).1, hitems]
            show (([] ++ choices.map _).map _).map _ = _
            rw [List.nil_append, List.map_map, List.map_map]
            rfl
          show ((planner.trackerAfter found).runCalls _).counters nodeId = _
          rw [hcalls]
          exact (hinit.run_counters hcosts hmax hrun
            (init_counters hkeyed' hsome) nodeId).symm
        -- each request's result carries the very assignment that was reserved
        · have hperm := (commitPlan_calls hdistinct (fun requestId a ha => by
            obtain ⟨request, hrequest, hid, -⟩ := hinv.legal requestId a ha
            exact ⟨request, hrequest, hid⟩) hcommit).map Prod.snd
          rw [List.map_filterMap] at hperm
          simp only [Option.map_map] at hperm
          exact hperm

/-- Planning commits atomically and as the policy has booked. It raises and
no node's counters have changed; or it returns one result for each request,
every node's counters are the virtual loads `select_batch` ended with, and
the reservations made are those of the results, each once. -/
theorem plan_commits_selection (blake2b : List UInt8 → List UInt8)
    (planner : RoutePlanner) (hkeyed : planner.tracker.Keyed)
    (p : TieredCompletionTimePolicy)
    (hpolicy : planner.policy = .tieredCompletionTime p)
    (hcosts : p.costModel.NonNeg) (requests : List SchedulerRequest)
    (hdistinct : (requests.map (·.requestId)).Nodup)
    (hmax : ∀ request ∈ requests, 0 ≤ request.maxTokens)
    (lookup : Option (Except PyException LookupResult)) :
    ∃ planner' answer, planner.plan blake2b requests lookup
        = some (planner', answer)
      ∧ (∀ error, answer = .error error → ∀ nodeId,
        planner'.tracker.counters nodeId = planner.tracker.counters nodeId)
      ∧ ∀ results, answer = .ok results →
        results.keys = requests.map (·.requestId)
          ∧ (requests = [] → planner' = planner)
          ∧ (requests ≠ [] → ∃ found s, lookup = found.map .ok
            ∧ p.selection requests (planner.candidates requests found) = some s
            ∧ (∀ nodeId, planner'.tracker.counters nodeId
              = s.loads.counters nodeId)
            ∧ ∃ calls, planner'.tracker
                = (planner.trackerAfter found).runCalls calls
              ∧ (requests.filterMap fun request =>
                (results.get request.requestId).map fun result =>
                  result.assignment.reserveCall).Perm calls) := by
  by_cases hsome : requests = []
  · subst hsome
    refine ⟨planner, .ok .empty, rfl, fun error herror => ?_,
      fun results hresults => ?_⟩
    · cases herror
    · injection hresults with hresults
      rw [← hresults]
      exact ⟨rfl, fun _ => rfl, fun hne => absurd rfl hne⟩
  · unfold RoutePlanner.plan
    rw [if_neg hsome]
    have hafter := planner.planAfter_commits blake2b hkeyed hpolicy hcosts
      hdistinct hmax hsome
    match lookup with
    -- the lookup raises before anything is written
    | some (.error error) =>
        refine ⟨planner, .error error, rfl, fun _ _ _ => rfl,
          fun results hresults => ?_⟩
        cases hresults
    | none =>
        obtain ⟨planner', answer, hplan, herror, hok⟩ := hafter none
        refine ⟨planner', answer, hplan, herror, fun results hresults => ?_⟩
        obtain ⟨hkeys, s, hs⟩ := hok results hresults
        exact ⟨hkeys, fun hnil => absurd hnil hsome, fun _ =>
          ⟨none, s, rfl, hs⟩⟩
    | some (.ok found) =>
        obtain ⟨planner', answer, hplan, herror, hok⟩ := hafter (some found)
        refine ⟨planner', answer, hplan, herror, fun results hresults => ?_⟩
        obtain ⟨hkeys, s, hs⟩ := hok results hresults
        exact ⟨hkeys, fun hnil => absurd hnil hsome, fun _ =>
          ⟨some found, s, rfl, hs⟩⟩

/-- Two requests for two nodes, without a lookup. -/
theorem plan_commits_two_requests :
    ∃ planner' results s,
      (RoutePlanner.init (.init (["a", "b"].map tenBlockNode))
          (.tieredCompletionTime tieredDefault) 16).plan id
          (["r", "q"].map sixBlockRequest) none = some (planner', .ok results)
        ∧ results.keys = ["r", "q"]
        ∧ tieredDefault.selection (["r", "q"].map sixBlockRequest)
          (blockMatrix ["a", "b"] ["r", "q"]) = some s
        ∧ ∀ nodeId, planner'.tracker.counters nodeId
          = s.loads.counters nodeId := by
  obtain ⟨planner', answer, hplan, -, hok⟩ := plan_commits_selection id
    (.init (.init (["a", "b"].map tenBlockNode))
      (.tieredCompletionTime tieredDefault) 16)
    (KareserveTracker.Keyed.init _) tieredDefault rfl
    CostModel.nonNeg_default (["r", "q"].map sixBlockRequest) (by decide)
    (by decide) none
  have hanswer : ((RoutePlanner.init (.init (["a", "b"].map tenBlockNode))
      (.tieredCompletionTime tieredDefault) 16).plan id
      (["r", "q"].map sixBlockRequest) none).map (·.2.isOk)
        = some true := by decide +kernel
  rw [hplan] at hanswer
  cases answer with
  | error error => cases hanswer
  | ok results =>
      obtain ⟨hkeys, -, hcommitted⟩ := hok results rfl
      obtain ⟨found, s, hfound, hselection, hcounters, -⟩ :=
        hcommitted (List.cons_ne_nil _ _)
      cases found with
      | none => exact ⟨planner', results, s, hplan, hkeys, hselection,
          hcounters⟩
      | some found => cases hfound

end Kareserve
