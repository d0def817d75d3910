/-
A plan of the router process serves its group (Gateway/App.lean).

Three facts meet here: every policy that returns has assigned every request
with a row (Policy/Proofs/Complete.lean), the tracker builds a row for every
request from its nodes (Policy/Proofs/Matrix.lean), and the hand-out answers
a group whose callers are pending or cancelled (Gateway/Proofs/Delivery.lean).
So from any state the router reaches, whatever the lookup finds and in
whatever state the policy is, the plan ends its round, and what its requests
get depends only on whether there is a node at all, and on whether a number
was too large for a float (Policy/Proofs/Returning.lean).

# Both ends of a plan

A plan that chooses hands out what it has chosen, or the exception that
there is no server (`Bookkept.planGroup_serves`); a plan that raises hands
out what it raised (`Bookkept.planGroup_fails`). Nothing else can happen to
it (`Bookkept.exists_planGroup`), so the worker never gets stuck in a group.
`SmallNumbers` names what keeps the numbers in range: small figures, as any
real node has, and a bound on the output limits, which the front does not
set (Gateway/Proofs/Front.lean).
-/
import Kareserve.Gateway.Proofs.Occupancy
import Kareserve.Policy.Proofs.Returning

namespace Kareserve

/-- `RuntimeError("No available vLLM server")`. -/
def noServer : PyException := ⟨"RuntimeError", "No available vLLM server"⟩

namespace App

/-- What a planned request is given: a node the tracker knows, as it was when
the lookup had returned, with metrics if any node has them, and the work of
this very request there. -/
structure Placed (a : App) (found : Option LookupResult)
    (group : List SchedulerRequest) (request : SchedulerRequest)
    (result : AssignmentResult) : Prop where
  known : ∃ nodeId e, a.tracker.entries.get nodeId = some e ∧
    result.node = e.routingState
      ((a.routePlanner.trackerAfter found).domainStatus e.node.cacheDomainId)
  available : (∃ nodeId e, a.tracker.entries.get nodeId = some e ∧
      e.node.metricsStatus = .available) →
    result.node.metricsStatus = .available
  work : result.inflightWork = a.routePlanner.policy.costModel.candidateWork
    request result.assignment.candidate
  size : result.planningGroupSize = group.length

/-- What a plan does for its group. -/
structure Serves (a : App) (found : Option LookupResult)
    (group : List SchedulerRequest) (a' : App) : Prop where
  worker : a'.requestPool.worker = .waiting
  queue : a'.requestPool.queue = a.requestPool.queue
  others : ∀ requestId, requestId ∉ group.map (·.requestId) →
    a'.requestPool.callers.get requestId = a.requestPool.callers.get requestId
  answered : ∀ request ∈ group, ∃ caller,
    a'.requestPool.callers.get request.requestId = some caller ∧
      (caller.future = .cancelled ∨
        if a.tracker.entries.keys = [] then caller.future = .exception noServer
        else ∃ result, caller.future = .result result ∧
          a.Placed found group request result)

/-- What a plan that raises does to its group: nothing is reserved, and the
exception is everyone's. -/
structure Fails (a : App) (group : List SchedulerRequest)
    (error : PyException) (a' : App) : Prop where
  worker : a'.requestPool.worker = .waiting
  queue : a'.requestPool.queue = a.requestPool.queue
  calls : a'.calls = a.calls
  others : ∀ requestId, requestId ∉ group.map (·.requestId) →
    a'.requestPool.callers.get requestId = a.requestPool.callers.get requestId
  answered : ∀ request ∈ group, ∃ caller,
    a'.requestPool.callers.get request.requestId = some caller ∧
      (caller.future = .cancelled ∨ caller.future = .exception error)

/-- No number that a plan meets is near the range of floats: neither the
figures of a node nor the tokens of a request, its output included. -/
structure SmallNumbers (a : App) (group : List SchedulerRequest) : Prop where
  nodes : ∀ e ∈ a.tracker.entries.values, e.Modest
  few : (group.length : ℤ) ≤ figureBound
  requests : ∀ request ∈ group, request.Modest
  output : ∀ request ∈ group, request.maxTokens ≤ figureBound

instance (a : App) (group : List SchedulerRequest) :
    Decidable (a.SmallNumbers group) :=
  decidable_of_iff ((∀ e ∈ a.tracker.entries.values, e.Modest)
      ∧ (group.length : ℤ) ≤ figureBound
      ∧ (∀ request ∈ group, request.Modest)
      ∧ ∀ request ∈ group, request.maxTokens ≤ figureBound)
    ⟨fun ⟨nodes, few, requests, output⟩ => ⟨nodes, few, requests, output⟩,
      fun h => ⟨h.nodes, h.few, h.requests, h.output⟩⟩

variable {a : App} {group : List SchedulerRequest}
  {found : Option LookupResult}
  {assignments : PyDict RequestId RouteAssignment}

theorem trackerAfter_entries (a : App) (found : Option LookupResult) :
    (a.routePlanner.trackerAfter found).entries = a.tracker.entries := by
  cases found <;> rfl

/-- A request has a row where there is a node. -/
theorem row_ne_nil_iff {request : SchedulerRequest} (hrequest : request ∈ group) :
    CandidateMatrix.row (a.routePlanner.candidates group found) request.requestId
        ≠ []
      ↔ a.tracker.entries.keys ≠ [] := by
  constructor
  · intro hrow
    obtain ⟨c, hc⟩ := List.exists_mem_of_ne_nil _ hrow
    obtain ⟨-, -, -, nodeId, e, he, -⟩ :=
      KareserveTracker.mem_row_buildRouteCandidates hc
    rw [trackerAfter_entries] at he
    exact List.ne_nil_of_mem (PyDict.mem_keys_iff.mpr ⟨e, he⟩)
  · intro hkeys
    obtain ⟨nodeId, hnode⟩ := List.exists_mem_of_ne_nil _ hkeys
    obtain ⟨e, he⟩ := PyDict.mem_keys_iff.mp hnode
    rw [← trackerAfter_entries a found] at he
    obtain ⟨c, hc, -⟩ :=
      KareserveTracker.exists_mem_row_buildRouteCandidates hrequest he
    exact List.ne_nil_of_mem hc

/-- An assignment of the policy, as its request gets it. -/
theorem placed_of_assigns {request : SchedulerRequest}
    (hrequest : request ∈ group) {assignment : RouteAssignment}
    (h : Assigns a.routePlanner.policy.costModel
      (CandidateMatrix.row (a.routePlanner.candidates group found)
        request.requestId) request assignment) :
    a.Placed found group request ⟨assignment, group.length⟩ where
  known := by
    obtain ⟨request', -, -, nodeId, e, he, pm, hcandidate⟩ :=
      KareserveTracker.mem_row_buildRouteCandidates h.mem
    rw [trackerAfter_entries] at he
    refine ⟨nodeId, e, he, ?_⟩
    show assignment.candidate.node = _
    rw [hcandidate]
    rfl
  available := by
    rintro ⟨nodeId, e, he, havailable⟩
    apply h.available
    rw [← trackerAfter_entries a found] at he
    obtain ⟨c, hc, hnode⟩ :=
      KareserveTracker.exists_mem_row_buildRouteCandidates hrequest he
    refine ⟨c, hc, ?_⟩
    rw [hnode]
    exact havailable
  work := h.work
  size := rfl

/-- What lacks an assignment: nothing where there is a node, or else
everything. -/
theorem missing_eq
    (hbatch : AssignsBatch a.routePlanner.policy.costModel group
      (a.routePlanner.candidates group found) assignments) :
    (group.filter fun request =>
        (assignments.get request.requestId).isNone)
      = if a.tracker.entries.keys = [] then group else [] := by
  split
  next hnone =>
    rw [List.filter_eq_self]
    intro request hrequest
    rw [Option.isNone_iff_eq_none]
    by_contra hsome
    obtain ⟨assignment, hget⟩ := Option.ne_none_iff_exists'.mp hsome
    obtain ⟨request', hrequest', hid, hassigns⟩ := hbatch.legal _ _ hget
    rw [← hid] at hassigns
    exact (row_ne_nil_iff hrequest').mp (List.ne_nil_of_mem hassigns.mem) hnone
  next hsome =>
    rw [List.filter_eq_nil_iff]
    intro request hrequest hmissing
    obtain ⟨assignment, hget⟩ :=
      hbatch.complete request hrequest ((row_ne_nil_iff hrequest).mpr hsome)
    rw [hget] at hmissing
    cases hmissing

/-- A plan's outcome, by whether there is a node. -/
theorem commitPlan_outcome
    (hbatch : AssignsBatch a.routePlanner.policy.costModel group
      (a.routePlanner.candidates group found) assignments) :
    (a.tracker.entries.keys = [] → group ≠ [] →
      commitPlan group assignments = .error noServer) ∧
    (a.tracker.entries.keys ≠ [] →
      ∃ planned, commitPlan group assignments = .ok planned) := by
  unfold commitPlan
  dsimp only
  rw [missing_eq hbatch]
  constructor
  · intro hnone hgroup
    rw [if_pos hnone, if_pos hgroup]
    rfl
  · intro hsome
    rw [if_neg hsome, if_neg (not_not_intro rfl)]
    exact ⟨_, rfl⟩

section Step

variable {blake2b : List UInt8 → List UInt8}
  {decode : Bytes → Option RawMapEventBatch}
  {loads : Bytes → Except LoadsError PyJson.Json}
  {replayEndpoint : NodeId → Bool}

/-- What a group is answered, by what the policy has assigned, and that no one
else is. -/
structure Answers (a : App) (group : List SchedulerRequest)
    (assignments : PyDict RequestId RouteAssignment) (a' : App) : Prop where
  worker : a'.requestPool.worker = .waiting
  queue : a'.requestPool.queue = a.requestPool.queue
  others : ∀ requestId, requestId ∉ group.map (·.requestId) →
    a'.requestPool.callers.get requestId = a.requestPool.callers.get requestId
  answered : ∀ request ∈ group, ∃ caller,
    a'.requestPool.callers.get request.requestId = some caller ∧
      (caller.future = .cancelled ∨
        if a.tracker.entries.keys = [] then caller.future = .exception noServer
        else ∃ assignment, assignments.get request.requestId = some assignment ∧
          caller.future = .result ⟨assignment, group.length⟩)

theorem Bookkept.goesOn (h : Bookkept a)
    (hworker : a.requestPool.worker = .planning group) :
    a.requestPool.GoesOn := by
  apply h.pool.goesOn
  · rw [hworker]
    exact Worker.noConfusion
  · rw [hworker]
    exact Worker.noConfusion

/-- The requests of a group are distinct. -/
theorem Bookkept.nodup_group (h : Bookkept a)
    (hworker : a.requestPool.worker = .planning group) :
    (group.map (·.requestId)).Nodup := by
  have hheld := h.pool.nodup
  unfold RequestPool.held at hheld
  rw [hworker, List.map_append, List.nodup_append] at hheld
  exact hheld.1

/-- The worker's own step, once the policy has chosen. -/
theorem Bookkept.planGroup_answers (h : Bookkept a)
    (hworker : a.requestPool.worker = .planning group)
    (hselect : (a.routePlanner.selectOrRaise blake2b group found).2
      = .ok assignments) :
    ∃ a', a.planGroup blake2b group found = some a' ∧
      a.Answers group assignments a' := by
  have hbatch := RoutePlanner.assignsBatch hselect
  -- no policy assigns a request that is not in the group
  have hkeys : ∀ requestId ∈ assignments.keys,
      requestId ∈ group.map (·.requestId) := by
    intro requestId hkey
    obtain ⟨assignment, hget⟩ := PyDict.mem_keys_iff.mp hkey
    obtain ⟨request, hrequest, hid, -⟩ := hbatch.legal requestId _ hget
    exact List.mem_map.mpr ⟨request, hrequest, hid⟩
  obtain ⟨pool, hpool⟩ := Option.isSome_iff_exists.mp
    ((h.goesOn hworker).planned group hworker assignments hkeys)
  -- what happens to the group is the end of its round
  have hround : a.requestPool.roundOf (.planned assignments)
      = some ⟨group, (commitPlan group assignments).map fun _ => assignments⟩ := by
    unfold RequestPool.roundOf
    rw [hworker]
  obtain ⟨-, hserves, -⟩ := RequestPool.step_round hround hpool
  unfold planGroup
  dsimp only
  rw [hselect]
  unfold poolStep planEvent
  dsimp only
  rw [hpool, Option.map_some]
  refine ⟨_, rfl, hserves.worker, hserves.queue, hserves.other,
    fun request hrequest => ?_⟩
  obtain ⟨caller, hget, hfuture⟩ := h.pool.answers hworker hserves hrequest
  refine ⟨caller, hget, hfuture.imp_right fun hanswers => ?_⟩
  obtain ⟨hempty, hsome⟩ := commitPlan_outcome hbatch
  unfold RequestPool.Round.Answers at hanswers
  -- a tracker without a node has no row, so the plan misses everyone; with one
  -- it misses nobody
  by_cases hnodes : a.tracker.entries.keys = []
  · rw [if_pos hnodes]
    rw [hempty hnodes (List.ne_nil_of_mem hrequest)] at hanswers
    exact hanswers
  · rw [if_neg hnodes]
    obtain ⟨planned, hcommit⟩ := hsome hnodes
    rw [hcommit] at hanswers
    exact hanswers

/-- What the group is answered are placements. -/
theorem Bookkept.planGroup_serves (h : Bookkept a)
    (hworker : a.requestPool.worker = .planning group)
    (hselect : (a.routePlanner.selectOrRaise blake2b group found).2
      = .ok assignments) :
    ∃ a', a.planGroup blake2b group found = some a' ∧ a.Serves found group a' := by
  obtain ⟨a', hplan, hanswers⟩ := h.planGroup_answers hworker hselect
  have hbatch := RoutePlanner.assignsBatch hselect
  refine ⟨a', hplan, hanswers.worker, hanswers.queue, hanswers.others,
    fun request hrequest => ?_⟩
  obtain ⟨caller, hget, hfuture⟩ := hanswers.answered request hrequest
  refine ⟨caller, hget, hfuture.imp_right fun hfuture => ?_⟩
  by_cases hnodes : a.tracker.entries.keys = []
  · rwa [if_pos hnodes] at hfuture ⊢
  · rw [if_neg hnodes] at hfuture ⊢
    obtain ⟨assignment, hassignment, hresult⟩ := hfuture
    refine ⟨_, hresult, ?_⟩
    obtain ⟨request', hrequest', hid, hassigns⟩ := hbatch.legal _ _ hassignment
    have hsame : request' = request :=
      List.inj_on_of_nodup_map (h.nodup_group hworker) hrequest' hrequest hid
    subst hsame
    exact placed_of_assigns hrequest hassigns

/-- The worker's own step, where the candidates or the policy have
raised. -/
theorem Bookkept.planGroup_fails (h : Bookkept a)
    (hworker : a.requestPool.worker = .planning group) {error : PyException}
    (hselect : (a.routePlanner.selectOrRaise blake2b group found).2
      = .error error) :
    ∃ a', a.planGroup blake2b group found = some a' ∧
      a.Fails group error a' := by
  obtain ⟨pool, hpool⟩ := Option.isSome_iff_exists.mp
    ((h.goesOn hworker).planFailed group hworker error)
  have hround : a.requestPool.roundOf (.planFailed error)
      = some ⟨group, .error error⟩ := by
    unfold RequestPool.roundOf
    rw [hworker]
  obtain ⟨-, hserves, hcalls⟩ := RequestPool.step_round hround hpool
  have hnone : a.callsMade pool = [] := by
    unfold App.callsMade
    rw [hcalls error rfl]
    exact List.drop_length
  unfold planGroup
  dsimp only
  rw [hselect]
  unfold poolStep planEvent
  dsimp only
  rw [hpool, Option.map_some, hnone]
  exact ⟨_, rfl, hserves.worker, hserves.queue, List.append_nil _,
    hserves.other, fun request hrequest =>
      h.pool.answers hworker hserves hrequest⟩

/-- Either way there is such a step. -/
theorem Bookkept.exists_planGroup (h : Bookkept a)
    (hworker : a.requestPool.worker = .planning group)
    (blake2b : List UInt8 → List UInt8) (found : Option LookupResult) :
    ∃ a', a.planGroup blake2b group found = some a' := by
  cases hselect : (a.routePlanner.selectOrRaise blake2b group found).2 with
  | ok assignments =>
      obtain ⟨a', hplan, -⟩ := h.planGroup_serves hworker hselect
      exact ⟨a', hplan⟩
  | error error =>
      obtain ⟨a', hplan, -⟩ := h.planGroup_fails hworker hselect
      exact ⟨a', hplan⟩

/-- With small numbers nothing raises. -/
theorem SmallNumbers.selects (h : a.SmallNumbers group)
    (blake2b : List UInt8 → List UInt8) (found : Option LookupResult) :
    ∃ assignments, (a.routePlanner.selectOrRaise blake2b group found).2
      = .ok assignments := by
  have hnodes : ∀ e ∈ (a.routePlanner.trackerAfter found).entries.values,
      e.Modest := by
    rw [trackerAfter_entries]
    exact h.nodes
  obtain ⟨candidates, policy, assignments, hbuilt, hselect⟩ :=
    KareserveTracker.exists_selectBatchOrRaise hnodes h.few h.requests h.output
      a.routePlanner.prefixBlockSize (found.map LookupResult.externalMatches)
      blake2b a.routePlanner.policy
  refine ⟨assignments, ?_⟩
  unfold RoutePlanner.selectOrRaise RoutePlanner.candidatesOrRaise
  rw [hbuilt]
  exact congrArg Prod.snd hselect

/-- A plan always ends its round. From every state the router reaches,
whatever the policy has seen, with a lookup client or without, and whatever
the lookup found: the planner's step is enabled, the worker is
back for the next request, no other caller is touched, and everyone in the
group who has not been cancelled has an answer. It is a node the tracker
knows, one with metrics if any has them, reserved with the work of this
request; only a router without nodes has none to give. Or else a number was too
large: then nothing is reserved, and the answer is the exception it raised.
Where all numbers are small this does not happen. -/
theorem plan_serves (blake2b : List UInt8 → List UInt8)
    (decode : Bytes → Option RawMapEventBatch)
    (loads : Bytes → Except LoadsError PyJson.Json)
    (replayEndpoint : NodeId → Bool) (policy : Policy) (policyName : String)
    (prefixBlockSize maxPlanningGroupSize : ℤ) (initialNodes : List NodeState)
    (events : List AppEvent) (a : App)
    (hrun : Lts.run (step blake2b decode loads replayEndpoint)
      (start policy policyName prefixBlockSize maxPlanningGroupSize
        replayEndpoint initialNodes) events = some a)
    (group : List SchedulerRequest)
    (hworker : a.requestPool.worker = .planning group)
    (found : Option LookupResult) :
    ∃ a', a.step blake2b decode loads replayEndpoint (.lookupReturned found)
        = some a'
      ∧ (a.Serves found group a'
        ∨ ∃ error, TooLarge error ∧ a.Fails group error a')
      ∧ (a.SmallNumbers group → a.Serves found group a') := by
  obtain ⟨hbooks, -⟩ := run_books hrun
  simp only [App.step, hworker]
  cases hselect : (a.routePlanner.selectOrRaise blake2b group found).2 with
  | ok assignments =>
      obtain ⟨a', hplan, hserves⟩ := hbooks.planGroup_serves hworker hselect
      exact ⟨a', hplan, .inl hserves, fun _ => hserves⟩
  | error error =>
      obtain ⟨a', hplan, hfails⟩ := hbooks.planGroup_fails hworker hselect
      have hlarge := a.routePlanner.selectOrRaise_failsOnly blake2b group found
        error hselect
      refine ⟨a', hplan, .inr ⟨error, hlarge, hfails⟩, fun hsmall => ?_⟩
      obtain ⟨assignments, hselected⟩ := hsmall.selects blake2b found
      rw [hselect] at hselected
      cases hselected

/-- The streamed request of `streamAndCancel`, as its group is planned. -/
theorem plan_serves_one_stream :
    ∃ a a' caller, Lts.run (step id (fun _ => none)
        (fun _ => .error .jsonDecodeError) fun _ => false) oneNodeRouter
        (streamAndCancel.take 6) = some a ∧
      a.step id (fun _ => none) (fun _ => .error .jsonDecodeError)
        (fun _ => false) (.lookupReturned none) = some a' ∧
      a'.requestPool.callers.get "r" = some caller ∧
      (caller.future = .cancelled ∨
        ∃ result, caller.future = .result result ∧
          a.Placed none [⟨"r", [1, 2], 8⟩, ⟨"q", [1], 8⟩] ⟨"r", [1, 2], 8⟩
            result) := by
  have hrun : (Lts.run (step id (fun _ => none)
        (fun _ => .error .jsonDecodeError) fun _ => false) oneNodeRouter
        (streamAndCancel.take 6)).map (fun a =>
          (a.requestPool.worker, a.tracker.entries.keys,
            decide (a.SmallNumbers
              [⟨"r", [1, 2], 8⟩, ⟨"q", [1], 8⟩])))
      = some (.planning [⟨"r", [1, 2], 8⟩, ⟨"q", [1], 8⟩], ["a"], true) := by
    decide +kernel
  obtain ⟨a, ha, hfacts⟩ := Option.map_eq_some_iff.mp hrun
  injection hfacts with hworker hfacts
  injection hfacts with hkeys hsmall
  obtain ⟨a', hstep, -, hserves⟩ := plan_serves id (fun _ => none)
    (fun _ => .error .jsonDecodeError) (fun _ => false) _ _ _ _ _ _ a ha _
    hworker none
  obtain ⟨caller, hget, hfuture⟩ := (hserves (of_decide_eq_true hsmall)).answered
    ⟨"r", [1, 2], 8⟩ (List.mem_cons_self ..)
  rw [if_neg (by rw [hkeys]; exact List.cons_ne_nil _ _)] at hfuture
  exact ⟨a, a', caller, ha, hstep, hget, hfuture⟩

end Step

end App

end Kareserve
