/-
`gpu_prefix_load` and the lookups: two routers that are asked the same and
are told different things by their caches.

# Together

`SameDecisions` relates two routers that have decided the same so far: the
tracker entries, and with them all reservations, are equal, the policies
have learned the same, and the assignments differ in lookup results only.
Releases and first outputs keep this, as they read the view of an
assignment. A plan keeps it if every candidate whose turn it is counts as
the same work (`PlansSameWork`).

# Where they part

`candidate_work` prices the external prefix for a policy that is to ignore
it. The documentation has `gpu_prefix_load` use the GPU prefix path only,
so that its results measure that path alone.
-/
import Kareserve.Gateway.Planner
import Kareserve.Policy.Proofs.Baseline
import Kareserve.Policy.Proofs.Complete

namespace Kareserve

-- ============================================================ candidates

/-- A lookup is nowhere in the view of the matrix. -/
theorem buildRouteCandidates_withoutExternal {t t' : KareserveTracker}
    (h : t'.entries = t.entries) (requests : List SchedulerRequest)
    (defaultBlockSize : ℤ)
    (externalMatches externalMatches' :
      Option (PyDict RequestId (PyDict String PrefixMatch))) :
    CandidateMatrix.withoutExternal (t'.buildRouteCandidates requests
        defaultBlockSize externalMatches')
      = CandidateMatrix.withoutExternal (t.buildRouteCandidates requests
        defaultBlockSize externalMatches) := by
  unfold CandidateMatrix.withoutExternal
    KareserveTracker.buildRouteCandidates
  rw [PyDict.map_ofList, PyDict.map_ofList, List.map_map, List.map_map]
  refine congrArg PyDict.ofList (List.map_congr_left fun request _ => ?_)
  refine congrArg (Prod.mk request.requestId) (PyDict.ext_items ?_)
  unfold PyDict.map
  dsimp only
  rw [h, List.map_map, List.map_map]
  rfl

theorem RoutePlanner.trackerAfter_entries (planner : RoutePlanner)
    (lookup : Option LookupResult) :
    (planner.trackerAfter lookup).entries = planner.tracker.entries := by
  cases lookup <;> rfl

/-- A plan whose lookup returns. -/
theorem RoutePlanner.plan_map_ok {blake2b : List UInt8 → List UInt8}
    {planner : RoutePlanner} {requests : List SchedulerRequest}
    (hsome : requests ≠ []) {lookup : Option LookupResult} :
    planner.plan blake2b requests (lookup.map .ok)
      = planner.planAfter blake2b requests lookup := by
  unfold plan
  rw [if_neg hsome]
  cases lookup <;> rfl

theorem runCalls_entries {t t' : KareserveTracker}
    (h : t'.entries = t.entries) (calls : List RouteCall) :
    (t'.runCalls calls).entries = (t.runCalls calls).entries := by
  induction calls generalizing t t' with
  | nil => exact h
  | cons call calls ih =>
      apply ih
      cases call with
      | reserve nodeId work =>
          unfold KareserveTracker.call KareserveTracker.reserveRoute
            KareserveTracker.onNode
          dsimp only
          rw [h]
      | release nodeId work =>
          unfold KareserveTracker.call KareserveTracker.releaseRoute
            KareserveTracker.onNode
          dsimp only
          rw [h]

-- =============================================================== results

/-- The assignments of a list of results. -/
def resultAssignments (results : PyDict RequestId AssignmentResult) :
    List (RequestId × RouteAssignment) :=
  results.items.map fun p => (p.1, p.2.assignment)

section Commit

variable {requests : List SchedulerRequest}
  {a a' : PyDict RequestId RouteAssignment}

theorem get_of_assignmentsView (h : assignmentsView a' = assignmentsView a)
    (requestId : RequestId) :
    (a'.get requestId).map RouteAssignment.withoutExternal
      = (a.get requestId).map RouteAssignment.withoutExternal := by
  have hget := congrArg (fun a => a.get requestId) h
  unfold assignmentsView at hget
  simp only [PyDict.get_map] at hget
  exact hget

variable (requests) in
/-- Answers with the same view are committed with the same reservations,
and their results have the same view; or both are missing the same. -/
theorem commitPlan_view (h : assignmentsView a' = assignmentsView a) :
    (∃ error, commitPlan requests a = .error error
        ∧ commitPlan requests a' = .error error)
      ∨ ∃ calls results results',
        commitPlan requests a = .ok (calls, results)
          ∧ commitPlan requests a' = .ok (calls, results')
          ∧ (resultAssignments results').map
              (fun p => (p.1, p.2.withoutExternal))
            = (resultAssignments results).map
              fun p => (p.1, p.2.withoutExternal) := by
  have hget := get_of_assignmentsView h
  -- who is missing is seen in the keys
  have hmissing : (requests.filter fun request =>
        (a'.get request.requestId).isNone)
      = requests.filter fun request => (a.get request.requestId).isNone := by
    apply List.filter_congr
    intro request _
    have hnone := congrArg Option.isNone (hget request.requestId)
    rw [Option.isNone_map, Option.isNone_map] at hnone
    exact hnone
  -- a reservation is a node and a work, both of them in the view
  have hcalls : (a'.items.map fun p => (p.1, p.2.reserveCall))
      = a.items.map fun p => (p.1, p.2.reserveCall) := by
    have hitems := congrArg (fun a => a.items.map fun p =>
      (p.1, p.2.reserveCall)) h
    unfold assignmentsView PyDict.map at hitems
    simp only [List.map_map] at hitems
    exact hitems
  -- a result is an assignment with the size of the group
  have hresults : ∀ n, (PyDict.ofList (requests.filterMap fun request =>
        (a'.get request.requestId).map fun assignment =>
          (request.requestId, (⟨assignment, n⟩ : AssignmentResult)))).map
            (fun _ r => r.assignment.withoutExternal)
      = (PyDict.ofList (requests.filterMap fun request =>
        (a.get request.requestId).map fun assignment =>
          (request.requestId, (⟨assignment, n⟩ : AssignmentResult)))).map
            fun _ r => r.assignment.withoutExternal := by
    intro n
    rw [PyDict.map_ofList, PyDict.map_ofList, List.map_filterMap,
      List.map_filterMap]
    refine congrArg PyDict.ofList (List.filterMap_congr fun request _ => ?_)
    have hview := congrArg (Option.map fun a => (request.requestId, a))
      (hget request.requestId)
    rw [Option.map_map, Option.map_map] at hview ⊢
    exact hview
  unfold commitPlan
  dsimp only
  rw [hmissing, hcalls]
  split
  · exact Or.inl ⟨_, rfl, rfl⟩
  · refine Or.inr ⟨_, _, _, rfl, rfl, ?_⟩
    have hitems := congrArg PyDict.items (hresults requests.length)
    unfold PyDict.map at hitems
    unfold resultAssignments
    rw [List.map_map, List.map_map]
    exact hitems

end Commit

-- =============================================================== routers

namespace Router

/-- Two routers that have decided the same. -/
structure SameDecisions (r r' : Router) : Prop where
  entries : r'.planner.tracker.entries = r.planner.tracker.entries
  policy : r'.planner.policy = r.planner.policy
  prefixBlockSize : r'.planner.prefixBlockSize = r.planner.prefixBlockSize
  assignments : assignmentsView r'.assignments = assignmentsView r.assignments

/-- Two routers, with a lookup for each in a plan. -/
def pairStep (blake2b : List UInt8 → List UInt8) (rs : Router × Router)
    (event : RouterEvent (Option LookupResult × Option LookupResult)) :
    Option (Router × Router) :=
  (rs.1.step blake2b (event.map Prod.fst)).bind fun r =>
    (rs.2.step blake2b (event.map Prod.snd)).map fun r' => (r, r')

/-- In a plan, every candidate whose turn it is counts as the same work
for both routers. -/
def PlansSameWork (rs : Router × Router) :
    RouterEvent (Option LookupResult × Option LookupResult) → Prop
  | .plan requests lookups =>
      ∀ p : GpuPrefixLoadPolicy, rs.1.planner.policy = .gpuPrefixLoad p →
        ∀ made s, Lts.run (Selection.step p.toTieredCompletionTimePolicy
            (rs.1.planner.candidates requests lookups.1))
          (.init requests (rs.1.planner.candidates requests lookups.1)) made
            = some s →
          s.SameWork p.toTieredCompletionTimePolicy
            (rs.1.planner.candidates requests lookups.1)
            (rs.2.planner.candidates requests lookups.2)
  | _ => True

section Pair

variable {blake2b : List UInt8 → List UInt8} {r r' : Router}

theorem SameDecisions.refl (r : Router) : SameDecisions r r :=
  ⟨rfl, rfl, rfl, rfl⟩

theorem assignmentsView_handedOut
    {assignments assignments' : PyDict RequestId RouteAssignment}
    (h : assignmentsView assignments' = assignmentsView assignments)
    {results results' : PyDict RequestId AssignmentResult}
    (hresults : (resultAssignments results').map
        (fun p => (p.1, p.2.withoutExternal))
      = (resultAssignments results).map
        fun p => (p.1, p.2.withoutExternal)) :
    assignmentsView (handedOut assignments' (.ok results'))
      = assignmentsView (handedOut assignments (.ok results)) := by
  have hitems : assignments'.items.map (fun p => (p.1, p.2.withoutExternal))
      = assignments.items.map fun p => (p.1, p.2.withoutExternal) :=
    congrArg PyDict.items h
  unfold resultAssignments at hresults
  unfold assignmentsView handedOut
  rw [PyDict.map_ofList, PyDict.map_ofList, List.map_append, List.map_append,
    hitems, hresults]

/-- A plan for a group that is not empty. -/
theorem SameDecisions.planAfter (h : SameDecisions r r')
    {p : GpuPrefixLoadPolicy} (hp : r.planner.policy = .gpuPrefixLoad p)
    {requests : List SchedulerRequest} {lookup lookup' : Option LookupResult}
    (hwork : PlansSameWork (r, r') (.plan requests (lookup, lookup'))) :
    ∃ planned planned',
      r.planner.planAfter blake2b requests lookup = some planned
        ∧ r'.planner.planAfter blake2b requests lookup' = some planned'
        ∧ planned.1.policy = .gpuPrefixLoad p
        ∧ SameDecisions ⟨planned.1, handedOut r.assignments planned.2⟩
          ⟨planned'.1, handedOut r'.assignments planned'.2⟩ := by
  -- both see the same candidates but for the external prefixes, as both
  -- trackers have the same entries
  have hview : (r'.planner.candidates requests lookup').withoutExternal
      = (r.planner.candidates requests lookup).withoutExternal := by
    unfold RoutePlanner.candidates
    rw [h.prefixBlockSize]
    apply buildRouteCandidates_withoutExternal
    rw [RoutePlanner.trackerAfter_entries, RoutePlanner.trackerAfter_entries,
      h.entries]
  have hentries : (r'.planner.trackerAfter lookup').entries
      = (r.planner.trackerAfter lookup).entries := by
    rw [RoutePlanner.trackerAfter_entries, RoutePlanner.trackerAfter_entries,
      h.entries]
  obtain ⟨a, ha, -⟩ := p.selectBatch_eq_some requests
    (r.planner.candidates requests lookup)
  obtain ⟨a', ha', -⟩ := p.selectBatch_eq_some requests
    (r'.planner.candidates requests lookup')
  -- so both choose alike, as long as the work of the candidates is the same
  have hsame := selectBatch_view p.toTieredCompletionTimePolicy requests
    p.ignoresExternal hview (hwork p hp) ha ha'
  have hselect : r.planner.policy.selectBatch blake2b requests
      (r.planner.candidates requests lookup)
        = some (a, .gpuPrefixLoad p) := by
    rw [hp]
    show (p.selectBatch requests _).map _ = _
    rw [ha]
    rfl
  have hselect' : r'.planner.policy.selectBatch blake2b requests
      (r'.planner.candidates requests lookup')
        = some (a', .gpuPrefixLoad p) := by
    rw [h.policy, hp]
    show (p.selectBatch requests _).map _ = _
    rw [ha']
    rfl
  unfold RoutePlanner.planAfter
  dsimp only
  rw [hselect, hselect', Option.map_some, Option.map_some]
  refine ⟨_, _, rfl, rfl, ?_⟩
  dsimp only
  -- what was chosen is committed alike, or misses the same requests
  rcases commitPlan_view requests hsame with
    ⟨error, hcommit, hcommit'⟩
      | ⟨calls, results, results', hcommit, hcommit', hresults⟩
  · rw [hcommit, hcommit']
    exact ⟨rfl, hentries, rfl, h.prefixBlockSize, h.assignments⟩
  · rw [hcommit, hcommit']
    exact ⟨rfl, runCalls_entries hentries _, rfl, h.prefixBlockSize,
      assignmentsView_handedOut h.assignments hresults⟩

/-- What learning from a first output reads of an assignment. -/
theorem observeFirstOutput_withoutExternal (policy : Policy)
    (a : RouteAssignment) (ms : ℚ) :
    policy.observeFirstOutput a.withoutExternal ms
      = policy.observeFirstOutput a ms := by
  cases policy <;> rfl

/-- One event keeps two routers together. -/
theorem SameDecisions.step (h : SameDecisions r r')
    {p : GpuPrefixLoadPolicy} (hp : r.planner.policy = .gpuPrefixLoad p)
    {event : RouterEvent (Option LookupResult × Option LookupResult)}
    (hwork : PlansSameWork (r, r') event) {rs : Router × Router}
    (hstep : pairStep blake2b (r, r') event = some rs) :
    SameDecisions rs.1 rs.2
      ∧ ∃ p', rs.1.planner.policy = .gpuPrefixLoad p' := by
  obtain ⟨r₁, hr₁, hstep⟩ := Option.bind_eq_some_iff.mp hstep
  obtain ⟨r₁', hr₁', rfl⟩ := Option.map_eq_some_iff.mp hstep
  cases event with
  | plan requests lookups =>
      obtain ⟨lookup, lookup'⟩ := lookups
      obtain ⟨planned, hplan, rfl⟩ := Option.map_eq_some_iff.mp hr₁
      obtain ⟨planned', hplan', rfl⟩ := Option.map_eq_some_iff.mp hr₁'
      -- an empty group is answered with nothing and plans nothing
      by_cases hsome : requests = []
      · subst hsome
        injection hplan with hplan
        injection hplan' with hplan'
        subst hplan
        subst hplan'
        exact ⟨⟨h.entries, h.policy, h.prefixBlockSize,
          assignmentsView_handedOut h.assignments rfl⟩, p, hp⟩
      · obtain ⟨answer, answer', hanswer, hanswer', hpolicy, hsame⟩ :=
          h.planAfter hp hwork
        rw [RoutePlanner.plan_map_ok hsome] at hplan hplan'
        rw [hanswer] at hplan
        rw [hanswer'] at hplan'
        injection hplan with hplan
        injection hplan' with hplan'
        subst hplan
        subst hplan'
        exact ⟨hsame, p, hpolicy⟩
  | release requestId =>
      obtain ⟨a, ha, rfl⟩ := Option.map_eq_some_iff.mp hr₁
      obtain ⟨a', ha', rfl⟩ := Option.map_eq_some_iff.mp hr₁'
      have hview := get_of_assignmentsView h.assignments requestId
      rw [ha, ha'] at hview
      injection hview with hview
      -- what is released is the node and the work, and neither is external
      have hcall : a'.releaseCall = a.releaseCall := by
        show a'.withoutExternal.releaseCall = a.withoutExternal.releaseCall
        rw [hview]
      refine ⟨⟨?_, h.policy, h.prefixBlockSize, h.assignments⟩, p, hp⟩
      dsimp only
      rw [hcall]
      exact runCalls_entries h.entries [a.releaseCall]
  | firstOutput requestId ms =>
      obtain ⟨a, ha, rfl⟩ := Option.map_eq_some_iff.mp hr₁
      obtain ⟨a', ha', rfl⟩ := Option.map_eq_some_iff.mp hr₁'
      have hview := get_of_assignmentsView h.assignments requestId
      rw [ha, ha'] at hview
      injection hview with hview
      refine ⟨⟨h.entries, ?_, h.prefixBlockSize, h.assignments⟩, ?_⟩
      · dsimp only
        -- all that the estimator is shown is in the view
        rw [h.policy, ← observeFirstOutput_withoutExternal _ a',
          ← observeFirstOutput_withoutExternal _ a, hview]
      · dsimp only
        rw [hp]
        exact ⟨_, rfl⟩

/-- Two routers run side by side. -/
theorem run_pairStep {s s' : Router}
    {events : List (RouterEvent (Option LookupResult × Option LookupResult))} :
    Lts.run (pairStep blake2b) (r, r') events = some (s, s')
      ↔ Lts.run (Router.step blake2b) r (events.map (·.map Prod.fst)) = some s
        ∧ Lts.run (Router.step blake2b) r' (events.map (·.map Prod.snd))
          = some s' := by
  induction events generalizing r r' with
  | nil => simp
  | cons event events ih =>
      rw [List.map_cons, List.map_cons, Lts.run_cons_eq_some,
        Lts.run_cons_eq_some, Lts.run_cons_eq_some]
      constructor
      · intro hrun
        obtain ⟨⟨t, t'⟩, hstep, hrest⟩ := hrun
        obtain ⟨t₁, ht, hstep⟩ := Option.bind_eq_some_iff.mp hstep
        obtain ⟨t₁', ht', heq⟩ := Option.map_eq_some_iff.mp hstep
        injection heq with h₁ h₁'
        subst h₁
        subst h₁'
        obtain ⟨hfst, hsnd⟩ := ih.mp hrest
        exact ⟨⟨t₁, ht, hfst⟩, ⟨t₁', ht', hsnd⟩⟩
      · intro hruns
        obtain ⟨⟨t, ht, hfst⟩, ⟨t', ht', hsnd⟩⟩ := hruns
        refine ⟨(t, t'), ?_, ih.mpr ⟨hfst, hsnd⟩⟩
        unfold pairStep
        rw [ht, Option.bind_some, ht']
        rfl

/-- While every plan counts the same work, two routers decide the same. -/
theorem SameDecisions.run (h : SameDecisions r r')
    {p : GpuPrefixLoadPolicy} (hp : r.planner.policy = .gpuPrefixLoad p)
    {events : List (RouterEvent (Option LookupResult × Option LookupResult))}
    (hwork : Lts.Along (pairStep blake2b) PlansSameWork (r, r') events)
    {rs : Router × Router}
    (hrun : Lts.run (pairStep blake2b) (r, r') events = some rs) :
    SameDecisions rs.1 rs.2 := by
  have hinv := Lts.run_invariant (I := fun rs : Router × Router =>
      SameDecisions rs.1 rs.2
        ∧ ∃ p, rs.1.planner.policy = .gpuPrefixLoad p)
    (fun rs event rs' hrs hok hstep => by
      obtain ⟨hsame, p', hp'⟩ := hrs
      exact hsame.step hp' hok hstep)
    ⟨h, p, hp⟩ hwork hrun
  exact hinv.1

end Pair

end Router

/-- When `gpu_prefix_load` ignores the external caches. For two matrices
that differ in lookup results only, every request is given the same node,
cost and work exactly if, at every pass of the loop, the candidate whose
turn it is counts as the same work in both. In two runs of a router with
lookups of their own, all of whose plans meet this, the decisions, the
reservations and what is learned are the same. -/
theorem gpu_prefix_load_external_iff (blake2b : List UInt8 → List UInt8)
    (p : GpuPrefixLoadPolicy) :
    (∀ requests candidates candidates', KeyedByNode candidates →
      CandidateMatrix.withoutExternal candidates'
        = candidates.withoutExternal →
      ∃ a a', p.selectBatch requests candidates = some a
        ∧ p.selectBatch requests candidates' = some a'
        ∧ ((∀ requestId, (a'.get requestId).map RouteAssignment.decision
            = (a.get requestId).map RouteAssignment.decision)
          ↔ ∀ made s, Lts.run
              (Selection.step p.toTieredCompletionTimePolicy candidates)
              (.init requests candidates) made = some s →
            s.SameWork p.toTieredCompletionTimePolicy candidates candidates'))
      ∧ ∀ tracker prefixBlockSize events r r',
        Lts.run (Router.step blake2b)
          (.start (.init tracker (.gpuPrefixLoad p) prefixBlockSize))
          (events.map fun event => RouterEvent.map Prod.fst event) = some r →
        Lts.run (Router.step blake2b)
          (.start (.init tracker (.gpuPrefixLoad p) prefixBlockSize))
          (events.map fun event => RouterEvent.map Prod.snd event) = some r' →
        Lts.Along (Router.pairStep blake2b) Router.PlansSameWork
          (.start (.init tracker (.gpuPrefixLoad p) prefixBlockSize),
            .start (.init tracker (.gpuPrefixLoad p) prefixBlockSize)) events →
        (∀ requestId, (r'.assignments.get requestId).map
              RouteAssignment.decision
            = (r.assignments.get requestId).map RouteAssignment.decision)
          ∧ r'.planner.tracker.entries = r.planner.tracker.entries
          ∧ r'.planner.policy = r.planner.policy := by
  constructor
  · intro requests candidates candidates' hkeyed hview
    obtain ⟨a, ha, -⟩ := p.selectBatch_eq_some requests candidates
    obtain ⟨a', ha', -⟩ := p.selectBatch_eq_some requests candidates'
    exact ⟨a, a', ha, ha', selectBatch_decisions_iff
      p.toTieredCompletionTimePolicy requests p.ignoresExternal hkeyed hview
      ha ha'⟩
  · intro tracker prefixBlockSize events r r' hrun hrun' hwork
    have hpair := Router.run_pairStep.mpr ⟨hrun, hrun'⟩
    have hsame : Router.SameDecisions r r' :=
      (Router.SameDecisions.refl _).run rfl hwork hpair
    refine ⟨fun requestId => ?_, hsame.entries, hsame.policy⟩
    have hget := congrArg (Option.map RouteAssignment.decision)
      (get_of_assignmentsView hsame.assignments requestId)
    rw [Option.map_map, Option.map_map] at hget
    exact hget

/-- `gpu_prefix_load` with its defaults, once it has seen a queue. -/
def gpuPrefixLoadTrained : GpuPrefixLoadPolicy where
  toTieredCompletionTimePolicy :=
    { TieredCompletionTimePolicy.init {} (4 / 5) (19 / 20) 2 128 8 false with
      queueEstimator := (OnlineQueueTimeEstimator.init 128 8).observe "a" 1 1000 }
  ignoresExternal := rfl

/-- An idle node, and one with a request in flight. -/
def idleAndBusy : KareserveTracker :=
  .init [tenBlockNode "a",
    { tenBlockNode "b" with
      routerActiveRequests := 1, routerInflightWork := 3 / 25 }]

/-- The baseline reads the external caches. Both requests find their prompt
in host memory, or nothing is found: it is the same node for `q` and not
the same work, and with that another node for `r`. -/
theorem gpu_prefix_load_reads_external :
    let requests : List SchedulerRequest :=
      [⟨"q", [1, 2], 30⟩, ⟨"r", [1, 2], 30⟩]
    let hit : PrefixMatch := { promptTokens := 2, cpuPrefixTokens := 2 }
    let found : PyDict RequestId (PyDict String PrefixMatch) :=
      .ofList (["q", "r"].map fun requestId =>
        (requestId, .ofList [("d", hit)]))
    let candidates := idleAndBusy.buildRouteCandidates requests 16 none
    let candidates' := idleAndBusy.buildRouteCandidates requests 16 (some found)
    CandidateMatrix.withoutExternal candidates'
        = CandidateMatrix.withoutExternal candidates
      ∧ (gpuPrefixLoadTrained.selectBatch requests candidates).map
          (fun a => ["q", "r"].map fun requestId =>
            (a.get requestId).map RouteAssignment.decision)
        = some [some ("a", 1 / 128, 1 / 8), some ("b", 15361 / 128, 1 / 8)]
      ∧ (gpuPrefixLoadTrained.selectBatch requests candidates').map
          (fun a => ["q", "r"].map fun requestId =>
            (a.get requestId).map RouteAssignment.decision)
        = some [some ("a", 1 / 128, 61 / 512),
          some ("a", 15251 / 128, 61 / 512)] := by
  refine ⟨buildRouteCandidates_withoutExternal rfl _ _ _ _, ?_, ?_⟩
  · decide +kernel
  · decide +kernel

end Kareserve
