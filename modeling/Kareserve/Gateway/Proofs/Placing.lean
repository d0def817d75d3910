/-
Placement by position, in the router process (Gateway/App.lean).

`prefix_hash` and `round_robin` look at no load and at no cache. Besides the
request they look at one thing, which nodes have metrics (`takers`). So what
a request gets is known before its plan: with `prefix_hash` it is a function
of its first tokens (`prefix_affinity`), with `round_robin` of how many
requests were planned before it (`round_robin_turn`). Neither the run of the
router up to the plan nor the order of its group has a part in it.

The turn of `round_robin` is advanced before the assignment is priced, and
pricing can raise. A plan that raises has therefore moved the turn for a
group it gave nothing to, and what `round_robin_turn` says is about runs in
which no plan raises (`planFault`). `prefix_hash` keeps no turn, so a plan
that raises has no effect on the ones after it.
-/
import Kareserve.Gateway.Proofs.Observing
import Kareserve.Gateway.Proofs.Startup
import Kareserve.Policy.Proofs.Affinity
import Kareserve.Policy.Proofs.Baseline

namespace Kareserve

open SortKey

namespace KareserveTracker

variable {t : KareserveTracker} {requests : List SchedulerRequest}

/-- The nodes a policy chooses from, in the order of their ids: those with
metrics, or all where none has them. -/
def takers (t : KareserveTracker) : List NodeId :=
  let available := t.entries.values.filter fun e =>
    e.node.metricsStatus = .available
  sortBy id ((if available.isEmpty then t.entries.values else available).map
    fun e => e.node.nodeId)

/-- They are the nodes of every row. -/
theorem map_sortedEligible (hdistinct : (requests.map (·.requestId)).Nodup)
    {request : SchedulerRequest} (hrequest : request ∈ requests)
    (defaultBlockSize : ℤ)
    (externalMatches : Option (PyDict RequestId (PyDict String PrefixMatch))) :
    (sortedEligible (t.buildRouteCandidates requests defaultBlockSize
      externalMatches) request.requestId).map (fun c => c.node.nodeId)
        = t.takers := by
  -- a row is one candidate for each entry, and who is eligible is decided by
  -- the entry
  let candidate := fun e : NodeEntry =>
    e.routeCandidate (e.routingState (t.domainStatus e.node.cacheDomainId))
      request defaultBlockSize
      (((externalMatches.getD .empty).get request.requestId).bind
        fun byDomain => byDomain.get e.node.cacheDomainId)
  have hrow : CandidateMatrix.row (t.buildRouteCandidates requests
      defaultBlockSize externalMatches) request.requestId
        = t.entries.values.map candidate := by
    unfold CandidateMatrix.row
    rw [get_buildRouteCandidates_row hdistinct hrequest, Option.getD_some,
      PyDict.values_map]
  have heligible : eligible (t.entries.values.map candidate)
      = (if (t.entries.values.filter fun e =>
            e.node.metricsStatus = .available).isEmpty
          then t.entries.values
          else t.entries.values.filter fun e =>
            e.node.metricsStatus = .available).map candidate :=
    map_preferred (fun _ => rfl) _
  have hsort (l : List NodeEntry) :
      sortBy (fun c : RouteCandidate => c.node.nodeId) (l.map candidate)
        = (sortBy (fun e => e.node.nodeId) l).map candidate :=
    sortBy_map (fun _ => rfl) l
  have hids (l : List NodeEntry) : sortBy id (l.map fun e => e.node.nodeId)
      = (sortBy (fun e => e.node.nodeId) l).map fun e => e.node.nodeId :=
    sortBy_map (fun _ => rfl) l
  unfold sortedEligible takers
  dsimp only
  rw [hrow, heligible, hsort, hids, List.map_map]
  rfl

end KareserveTracker

namespace App

/-- The group a step plans. -/
def planned (a : App) : AppEvent → Option (List SchedulerRequest)
  | .lookupReturned _ =>
      match a.requestPool.worker with
      | .planning group => some group
      | _ => none
  | _ => none

section Steps

variable {blake2b : List UInt8 → List UInt8}
  {decode : Bytes → Option RawMapEventBatch}
  {loads : Bytes → Except LoadsError PyJson.Json}
  {replayEndpoint : NodeId → Bool} {event : AppEvent} {events : List AppEvent}
  {a a' : App}

/-- What a step does to the policy: it plans, or it may teach. -/
inductive PolicyStep (blake2b : List UInt8 → List UInt8) (a : App)
    (event : AppEvent) : Option (List SchedulerRequest) → Policy → Prop
  | same : PolicyStep blake2b a event none a.routePlanner.policy
  | observe (assignment : RouteAssignment) (ms : ℚ) :
      PolicyStep blake2b a event none
        (a.routePlanner.policy.observeFirstOutput assignment ms)
  | plan (group : List SchedulerRequest) (found : Option LookupResult)
      (returned : event = .lookupReturned found)
      (worker : a.requestPool.worker = .planning group) :
      PolicyStep blake2b a event (some group)
        (a.routePlanner.selectOrRaise blake2b group found).1

theorem policyStep
    (hstep : a.step blake2b decode loads replayEndpoint event = some a') :
    PolicyStep blake2b a event (a.planned event) a'.routePlanner.policy := by
  cases hpe : a.poolEvent blake2b event with
  | some pe =>
      generalize hpolicy : a'.routePlanner.policy = policy
      have h := step_policy hstep hpe
      rw [hpolicy] at h
      cases h with
      | same event hother =>
          have hplanned : a.planned event = none := by
            cases event with
            | lookupReturned found => exact absurd rfl (hother found)
            | _ => rfl
          rw [hplanned]
          exact .same
      | plan found group worker =>
          have hplanned : a.planned (.lookupReturned found) = some group := by
            unfold planned
            rw [worker]
          rw [hplanned]
          exact .plan group found rfl worker
  | none =>
      cases step_own hstep hpe with
      | exchange requestId event now x next get step =>
          rcases exchanged_policy a requestId (x.note loads now event).1 next with
            hsame | ⟨assignment, ms, hobserve⟩
          · rw [hsame]
            exact .same
          · rw [hobserve]
            exact .observe assignment ms
      | listener => exact .same
      | poll => exact .same

/-- What a plan raises whose lookup has returned. -/
def planFault (blake2b : List UInt8 → List UInt8) (a : App) :
    AppEvent → Option PyException
  | .lookupReturned found =>
      match a.requestPool.worker with
      | .planning group =>
          match (a.routePlanner.selectOrRaise blake2b group found).2 with
          | .error error => some error
          | .ok _ => none
      | _ => none
  | _ => none

/-- A plan that raises nothing has chosen. -/
theorem selectOrRaise_of_planFault {group : List SchedulerRequest}
    {found : Option LookupResult}
    (hworker : a.requestPool.worker = .planning group)
    (h : a.planFault blake2b (.lookupReturned found) = none) :
    ∃ assignments, (a.routePlanner.selectOrRaise blake2b group found).2
      = .ok assignments := by
  simp only [planFault, hworker] at h
  split at h
  next => cases h
  next assignments hselected => exact ⟨assignments, hselected⟩

/-- `prefix_hash` has no state. -/
theorem run_prefixHash {p : PrefixHashPolicy}
    (h : a.routePlanner.policy = .prefixHash p)
    (hrun : Lts.run (step blake2b decode loads replayEndpoint) a events
      = some a') : a'.routePlanner.policy = .prefixHash p := by
  refine Lts.run_preserves
    (I := fun a : App => a.routePlanner.policy = .prefixHash p)
    (fun a event a' h hstep => ?_) h hrun
  have hkept := policyStep hstep
  generalize a'.routePlanner.policy = policy at hkept ⊢
  generalize a.planned event = plan at hkept
  cases hkept with
  | same => exact h
  | observe => rw [h]; rfl
  | plan group found returned worker =>
      -- whether it returns or raises
      unfold RoutePlanner.selectOrRaise
      split
      next => exact h
      next =>
        rw [h]
        rfl

/-- Every request of a group has a row. -/
theorem row_ne_nil (hkeys : a.tracker.entries.keys ≠ [])
    (group : List SchedulerRequest) (found : Option LookupResult) :
    ∀ request ∈ group, CandidateMatrix.row
      (a.routePlanner.candidates group found) request.requestId ≠ [] :=
  fun _ hrequest => (row_ne_nil_iff hrequest).mpr hkeys

/-- The index of `round_robin` counts the requests of the planned groups, as
long as no plan raises. -/
theorem run_roundRobin {p : RoundRobinPolicy} (hbooks : Bookkept a)
    (hhandled : Handled a) (h : a.routePlanner.policy = .roundRobin p)
    (hkeys : a.tracker.entries.keys ≠ [])
    (hreturns : Lts.trace (planFault blake2b)
      (step blake2b decode loads replayEndpoint) a events = [])
    (hrun : Lts.run (step blake2b decode loads replayEndpoint) a events
      = some a') :
    ∃ q, a'.routePlanner.policy = .roundRobin q ∧
      q.nextIndex = p.nextIndex + (Lts.trace planned
        (step blake2b decode loads replayEndpoint) a events).flatten.length := by
  -- that no plan has raised is part of what is carried: each event is one at
  -- which none did
  have hinv := Lts.run_trace_invariant planned
    (P := fun done shown a' =>
      Lts.run (step blake2b decode loads replayEndpoint) a done = some a' ∧
      Bookkept a' ∧ Handled a' ∧ a'.tracker.entries.keys ≠ [] ∧
      (Lts.trace (planFault blake2b)
          (step blake2b decode loads replayEndpoint) a done = [] →
        ∃ q, a'.routePlanner.policy = .roundRobin q ∧
          q.nextIndex = p.nextIndex + shown.flatten.length))
    ⟨rfl, hbooks, hhandled, hkeys, fun _ => ⟨p, h, rfl⟩⟩ ?_ hrun
  · exact hinv.2.2.2.2 hreturns
  · rintro done shown a₁ event a' - ⟨hdone, hbooks, hhandled, hkeys, hindex⟩
      hstep
    obtain ⟨hbooks', hhandled', -⟩ := step_books hbooks hhandled hstep
    refine ⟨Lts.run_concat_eq_some.mpr ⟨a₁, hdone, hstep⟩, hbooks', hhandled',
      by rw [step_keys hstep]; exact hkeys, fun hreturns => ?_⟩
    rw [Lts.trace_concat _ hdone, List.append_eq_nil_iff] at hreturns
    obtain ⟨hbefore, hreturn⟩ := hreturns
    obtain ⟨q, hq, hindex⟩ := hindex hbefore
    have hkept := policyStep hstep
    generalize a'.routePlanner.policy = policy at hkept ⊢
    generalize a₁.planned event = plan at hkept
    cases hkept with
    | same => exact ⟨q, hq, by simpa using hindex⟩
    | observe => exact ⟨q, by rw [hq]; rfl, by simpa using hindex⟩
    -- the plan has returned, so its assignments are those of the policy that
    -- cannot raise, which takes one turn for each request
    | plan group found returned worker =>
        rw [Option.toList_eq_nil_iff, returned] at hreturn
        obtain ⟨assignments, hselected⟩ :=
          selectOrRaise_of_planFault worker hreturn
        have hselect := RoutePlanner.selectBatch_of_selectOrRaise hselected
        rw [hq] at hselect
        injection hselect with hselect
        obtain ⟨hnext, -⟩ := q.selectBatch_placesAt (hbooks.nodup_group worker)
          (row_ne_nil hkeys group found)
        refine ⟨_, (congrArg Prod.snd hselect).symm, ?_⟩
        rw [hnext, hindex, Option.toList_some, List.flatten_append,
          List.length_append, List.flatten_singleton, Nat.add_assoc]

end Steps

section Placing

variable (blake2b : List UInt8 → List UInt8)
  (decode : Bytes → Option RawMapEventBatch)
  (loads : Bytes → Except LoadsError PyJson.Json)

/-- A plan in a run of a router, and a request that has a result by it. -/
structure Placing where
  replayEndpoint : NodeId → Bool
  policy : Policy
  policyName : String
  prefixBlockSize : ℤ
  maxPlanningGroupSize : ℤ
  initialNodes : List NodeState
  events : List AppEvent
  before : App
  found : Option LookupResult
  after : App
  group : List SchedulerRequest
  position : ℕ
  request : SchedulerRequest
  caller : Caller
  result : AssignmentResult
  run : Lts.run (step blake2b decode loads replayEndpoint)
    (start policy policyName prefixBlockSize maxPlanningGroupSize
      replayEndpoint initialNodes) events = some before
  worker : before.requestPool.worker = .planning group
  requested : group[position]? = some request
  plan : before.step blake2b decode loads replayEndpoint (.lookupReturned found)
    = some after
  asked : after.requestPool.callers.get request.requestId = some caller
  given : caller.future = .result result

namespace Placing

variable {blake2b decode loads} (x : Placing blake2b decode loads)

/-- The requests of the groups that were planned before. -/
def planned : List SchedulerRequest :=
  (Lts.trace App.planned (step blake2b decode loads x.replayEndpoint)
    (start x.policy x.policyName x.prefixBlockSize x.maxPlanningGroupSize
      x.replayEndpoint x.initialNodes) x.events).flatten

/-- What the plans before have raised. -/
def raised : List PyException :=
  Lts.trace (planFault blake2b) (step blake2b decode loads x.replayEndpoint)
    (start x.policy x.policyName x.prefixBlockSize x.maxPlanningGroupSize
      x.replayEndpoint x.initialNodes) x.events

/-- A result is a node, so there is one. -/
theorem exists_assignment :
    ∃ assignments policy assignment,
      x.before.routePlanner.policy.selectBatch blake2b x.group
        (x.before.routePlanner.candidates x.group x.found)
          = some (assignments, policy) ∧
      x.before.tracker.entries.keys ≠ [] ∧
      assignments.get x.request.requestId = some assignment ∧
      x.result = ⟨assignment, x.group.length⟩ := by
  obtain ⟨hbooks, -⟩ := run_books x.run
  have hstep := x.plan
  simp only [App.step, x.worker] at hstep
  have hrequest := List.mem_of_getElem? x.requested
  cases hselected : (x.before.routePlanner.selectOrRaise blake2b x.group
      x.found).2 with
  | error error =>
      -- a plan that raises has no result
      obtain ⟨after, hplan, hfails⟩ := hbooks.planGroup_fails x.worker hselected
      rw [hstep] at hplan
      injection hplan with hplan
      obtain ⟨caller, hcaller, hfuture⟩ := hfails.answered x.request hrequest
      rw [← hplan, x.asked] at hcaller
      injection hcaller with hcaller
      rw [← hcaller, x.given] at hfuture
      rcases hfuture with hcancelled | hraised
      · cases hcancelled
      · cases hraised
  | ok assignments =>
      obtain ⟨after, hplan, hanswers⟩ :=
        hbooks.planGroup_answers x.worker hselected
      rw [hstep] at hplan
      injection hplan with hplan
      obtain ⟨caller, hcaller, hfuture⟩ := hanswers.answered x.request hrequest
      rw [← hplan, x.asked] at hcaller
      injection hcaller with hcaller
      rw [← hcaller, x.given] at hfuture
      rcases hfuture with hcancelled | hfuture
      · cases hcancelled
      split at hfuture
      next => cases hfuture
      next hkeys =>
        obtain ⟨assignment, hassignment, hresult⟩ := hfuture
        injection hresult with hresult
        exact ⟨assignments, _, assignment,
          RoutePlanner.selectBatch_of_selectOrRaise hselected, hkeys,
          hassignment, hresult⟩

/-- A policy that goes by position goes by it among the takers. -/
theorem placed_at (index : ℕ → SchedulerRequest → ℕ)
    (hplaces : ∀ assignments policy,
      x.before.routePlanner.policy.selectBatch blake2b x.group
        (x.before.routePlanner.candidates x.group x.found)
          = some (assignments, policy) →
      PlacesAt index x.group
        (x.before.routePlanner.candidates x.group x.found) assignments) :
    x.before.tracker.takers[index x.position x.request
      % x.before.tracker.takers.length]? = some x.result.node.nodeId := by
  obtain ⟨hbooks, -⟩ := run_books x.run
  obtain ⟨assignments, policy, assignment, hselect, -, hassignment, hresult⟩ :=
    x.exists_assignment
  have hplaced := (hplaces assignments policy hselect).placed x.position
    x.request x.requested
  have htakers : (x.before.routePlanner.trackerAfter x.found).takers
      = x.before.tracker.takers := by
    unfold KareserveTracker.takers
    rw [trackerAfter_entries]
  have hnodes := KareserveTracker.map_sortedEligible
    (t := x.before.routePlanner.trackerAfter x.found)
    (hbooks.nodup_group x.worker) (List.mem_of_getElem? x.requested)
    x.before.routePlanner.prefixBlockSize
    (x.found.map LookupResult.externalMatches)
  rw [htakers] at hnodes
  rw [← hnodes, List.length_map, List.getElem?_map]
  rw [hassignment] at hplaced
  show Option.map _ (sortedEligible (x.before.routePlanner.candidates x.group
    x.found) x.request.requestId)[_ % (sortedEligible
      (x.before.routePlanner.candidates x.group x.found)
        x.request.requestId).length]? = _
  rw [← hplaced, hresult]
  rfl

/-- The place of a request by its first tokens. -/
theorem prefixHash_at {p : PrefixHashPolicy} (h : x.policy = .prefixHash p) :
    x.before.tracker.takers[BigEndian.fromBytes (blake2b
        (PrefixHashPolicy.keyBytes
          (x.request.promptTokens.take p.prefixHashTokens)))
      % x.before.tracker.takers.length]? = some x.result.node.nodeId := by
  obtain ⟨hbooks, -⟩ := run_books x.run
  refine x.placed_at (fun _ request => p.prefixHash blake2b request)
    fun assignments policy hselect => ?_
  rw [run_prefixHash h x.run] at hselect
  injection hselect with hselect
  injection hselect with hassignments
  rw [← hassignments]
  exact p.selectBatch_placesAt blake2b (hbooks.nodup_group x.worker) _

end Placing

end Placing

/-- `prefix_hash` sends a prefix to its node. In any two runs of routers with
this policy, of whatever loads, lookups, caches and other requests: where the
same nodes have metrics, two requests with the same first tokens are given
the same node. It is the node at the digest of a key that tells apart all
other first tokens. -/
theorem prefix_affinity (blake2b : List UInt8 → List UInt8)
    (decode : Bytes → Option RawMapEventBatch)
    (loads : Bytes → Except LoadsError PyJson.Json)
    (x y : Placing blake2b decode loads) (p q : PrefixHashPolicy)
    (hx : x.policy = .prefixHash p) (hy : y.policy = .prefixHash q)
    (htakers : x.before.tracker.takers = y.before.tracker.takers) :
    x.before.tracker.takers[BigEndian.fromBytes (blake2b
        (PrefixHashPolicy.keyBytes
          (x.request.promptTokens.take p.prefixHashTokens)))
      % x.before.tracker.takers.length]? = some x.result.node.nodeId ∧
    (PrefixHashPolicy.keyBytes (x.request.promptTokens.take p.prefixHashTokens)
        = PrefixHashPolicy.keyBytes
          (y.request.promptTokens.take q.prefixHashTokens)
      ↔ x.request.promptTokens.take p.prefixHashTokens
        = y.request.promptTokens.take q.prefixHashTokens) ∧
    (x.request.promptTokens.take p.prefixHashTokens
        = y.request.promptTokens.take q.prefixHashTokens →
      x.result.node.nodeId = y.result.node.nodeId) := by
  have hat := x.prefixHash_at hx
  refine ⟨hat, PrefixHashPolicy.keyBytes_injective.eq_iff, fun hprefix => ?_⟩
  have hat' := y.prefixHash_at hy
  rw [← htakers, ← hprefix, hat] at hat'
  exact Option.some.inj hat'

/-- A router on two nodes. -/
def twoNodeRouter (policy : Policy) : App :=
  start policy "" 16 8 (fun _ => false)
    [{ nodeId := "a", cacheDomainId := "d" },
      { nodeId := "b", cacheDomainId := "d" }]

/-- The plan of the group of one request, after some events. -/
def planAlone (policy : Policy) (events : List AppEvent)
    (request : SchedulerRequest) : Option (App × App × Caller) := do
  let before ← Lts.run (step id (fun _ => none)
    (fun _ => .error .jsonDecodeError) fun _ => false) (twoNodeRouter policy)
    (events ++ [.request request ⟨request.requestId, true⟩, .get, .collect])
  let after ← before.step id (fun _ => none)
    (fun _ => .error .jsonDecodeError) (fun _ => false) (.lookupReturned none)
  let caller ← after.requestPool.callers.get request.requestId
  return (before, after, caller)

/-- What there is to see of it. -/
def PlansAlone (policy : Policy) (events : List AppEvent)
    (request : SchedulerRequest) : Prop :=
  (planAlone policy events request).any fun p =>
    decide (p.1.requestPool.worker = .planning [request]) &&
      decide (p.1.tracker.takers = ["a", "b"]) &&
      match p.2.2.future with
      | .result _ => true
      | _ => false

instance (policy : Policy) (events : List AppEvent)
    (request : SchedulerRequest) :
    Decidable (PlansAlone policy events request) :=
  inferInstanceAs (Decidable (_ = true))

theorem exists_placing {policy : Policy} {events : List AppEvent}
    {request : SchedulerRequest} (h : PlansAlone policy events request) :
    ∃ x : Placing id (fun _ => none) fun _ => .error .jsonDecodeError,
      x.policy = policy ∧ x.request = request ∧ x.position = 0 ∧
      x.planned = (Lts.trace App.planned (step id (fun _ => none)
        (fun _ => .error .jsonDecodeError) fun _ => false) (twoNodeRouter policy)
        (events ++ [.request request ⟨request.requestId, true⟩, .get,
          .collect])).flatten ∧
      x.raised = Lts.trace (planFault id) (step id (fun _ => none)
        (fun _ => .error .jsonDecodeError) fun _ => false) (twoNodeRouter policy)
        (events ++ [.request request ⟨request.requestId, true⟩, .get,
          .collect]) ∧
      x.before.tracker.takers = ["a", "b"] := by
  obtain ⟨⟨before, after, caller⟩, hplan, hseen⟩ := (Option.any_eq_true _ _).mp h
  obtain ⟨before', hrun, hplan⟩ := Option.bind_eq_some_iff.mp hplan
  obtain ⟨after', hstep, hplan⟩ := Option.bind_eq_some_iff.mp hplan
  obtain ⟨caller', hcaller, hplan⟩ := Option.bind_eq_some_iff.mp hplan
  injection hplan with hplan
  injection hplan with hbefore hplan
  injection hplan with hafter hfuture
  subst hbefore hafter hfuture
  rw [Bool.and_eq_true, Bool.and_eq_true, decide_eq_true_eq,
    decide_eq_true_eq] at hseen
  obtain ⟨⟨hworker, htakers⟩, hresult⟩ := hseen
  dsimp only at hworker htakers hresult
  split at hresult
  next result hgiven =>
    let x : Placing id (fun _ => none) fun _ => .error .jsonDecodeError :=
      { run := hrun
        worker := hworker
        position := 0
        requested := rfl
        plan := hstep
        asked := hcaller
        given := hgiven
        .. }
    exact ⟨x, rfl, rfl, rfl, rfl, rfl, htakers⟩
  next => cases hresult

/-- Two prompts that begin alike, one after another request. -/
theorem prefix_affinity_two_prompts :
    ∃ (x y : Placing id (fun _ => none) fun _ => .error .jsonDecodeError),
      x.request.promptTokens = [1, 2, 3] ∧ y.request.promptTokens = [1, 2, 9] ∧
      x.result.node.nodeId = y.result.node.nodeId := by
  let p : PrefixHashPolicy :=
    { costModel := {}, prefixHashTokens := 2, prefixHashTokens_pos := by decide }
  have hx : PlansAlone (.prefixHash p) [] ⟨"r", [1, 2, 3], 8⟩ := by
    decide +kernel
  have hy : PlansAlone (.prefixHash p)
      [.request ⟨"s", [7], 8⟩ ⟨"s", true⟩, .get, .collect, .lookupReturned none]
      ⟨"r", [1, 2, 9], 8⟩ := by decide +kernel
  obtain ⟨x, hpolicy, hrequest, -, -, -, htakers⟩ := exists_placing hx
  obtain ⟨y, hpolicy', hrequest', -, -, -, htakers'⟩ := exists_placing hy
  have hprompt : x.request.promptTokens = [1, 2, 3] := by rw [hrequest]
  have hprompt' : y.request.promptTokens = [1, 2, 9] := by rw [hrequest']
  refine ⟨x, y, hprompt, hprompt', ?_⟩
  apply (prefix_affinity id (fun _ => none) (fun _ => .error .jsonDecodeError)
    x y p p hpolicy hpolicy' (htakers.trans htakers'.symm)).2.2
  rw [hprompt, hprompt']
  rfl

/-- `round_robin` goes on from group to group. In any run of a router with
this policy, whatever else happens as long as no plan raises, the `n`-th
request that is planned is given the `n`-th node in turn, of those with
metrics, counted from where the policy began. -/
theorem round_robin_turn (blake2b : List UInt8 → List UInt8)
    (decode : Bytes → Option RawMapEventBatch)
    (loads : Bytes → Except LoadsError PyJson.Json)
    (x : Placing blake2b decode loads) (p : RoundRobinPolicy)
    (hx : x.policy = .roundRobin p) (hreturns : x.raised = []) :
    x.before.tracker.takers[(p.nextIndex + (x.planned.length + x.position))
      % x.before.tracker.takers.length]? = some x.result.node.nodeId := by
  obtain ⟨-, -, -, -, hkeys, -⟩ := x.exists_assignment
  have hstart : (start x.policy x.policyName x.prefixBlockSize
      x.maxPlanningGroupSize x.replayEndpoint x.initialNodes).tracker.entries.keys
        ≠ [] := by
    rw [← keys_run x.run]
    exact hkeys
  obtain ⟨q, hq, hindex⟩ := run_roundRobin (start_books ..)
    (start_handled _ _ _ _ _ _) hx hstart hreturns x.run
  obtain ⟨hbooks, -⟩ := run_books x.run
  rw [← Nat.add_assoc, show p.nextIndex + x.planned.length = q.nextIndex
    from hindex.symm]
  refine x.placed_at (fun i _ => q.nextIndex + i)
    fun assignments policy hselect => ?_
  rw [hq] at hselect
  injection hselect with hselect
  injection hselect with hassignments
  rw [← hassignments]
  exact (q.selectBatch_placesAt (hbooks.nodup_group x.worker)
    (row_ne_nil hkeys x.group x.found)).2

theorem round_robin_turn_second :
    ∃ x : Placing id (fun _ => none) fun _ => .error .jsonDecodeError,
      x.planned.length = 1 ∧ x.result.node.nodeId = "b" := by
  let p : RoundRobinPolicy := { costModel := {}, nextIndex := 0 }
  have hx : PlansAlone (.roundRobin p)
      [.request ⟨"s", [7], 8⟩ ⟨"s", true⟩, .get, .collect, .lookupReturned none]
      ⟨"r", [1, 2], 8⟩ := by decide +kernel
  obtain ⟨x, hpolicy, -, hposition, hplanned, hraised, htakers⟩ :=
    exists_placing hx
  have hlength : x.planned.length = 1 := by
    rw [hplanned]
    decide +kernel
  have hreturns : x.raised = [] := by
    rw [hraised]
    decide +kernel
  have hturn := round_robin_turn id (fun _ => none)
    (fun _ => .error .jsonDecodeError) x p hpolicy hreturns
  rw [htakers, hlength, hposition] at hturn
  exact ⟨x, hlength, (Option.some.inj hturn).symm⟩

end App

end Kareserve
