/-
What becomes of a reservation the planner makes for a pooled request.

# The ledger of one request

`CallsMatch` reads the calls made for a request off its future: none
while it is pending or has an exception, a reservation with a result, a
reservation and its release where it was cancelled in time. Inside a
planned group, between the reservations and the hand-out, every request
has its reservation and nothing else; `PoolInv` carries both readings,
and the hand-out turns one into the other request by request
(`PoolInv.close`).

# The gap

A caller that is cancelled after its result is set and before it runs
raises without reading it. Its future is not cancelled, so the pool sees
nothing; no one else holds the result. The reservation is lost exactly
then (`reservations_accounted_iff`).
-/
import Kareserve.Gateway.Proofs.Steps

namespace Kareserve

namespace RequestPool

-- ========================================================== definitions

/-- The calls made for one request, in order. -/
def callsOf (pool : RequestPool) (requestId : RequestId) : List RouteCall :=
  callsFor pool.calls requestId

/-- Every reservation made is released, once and with the same node and
work, for a caller that was cancelled; or else its result is returned by
`assign`, now or when the caller's task next runs, and nothing is
released. -/
def Accounted (pool : RequestPool) : Prop :=
  ∀ requestId nodeId work,
    (requestId, RouteCall.reserve nodeId work) ∈ pool.calls →
      ∃ caller, pool.callers.get requestId = some caller
        ∧ ((caller.future = .cancelled
            ∧ pool.callsOf requestId
              = [.reserve nodeId work, .release nodeId work])
          ∨ ∃ result, caller.Delivered result
            ∧ result.node.nodeId = nodeId ∧ result.inflightWork = work
            ∧ pool.callsOf requestId = [.reserve nodeId work])

/-- The step does not cancel a caller whose result is set. -/
def NotAfterResult (pool : RequestPool) : PoolEvent → Prop
  | .cancel requestId =>
      ∀ caller ∈ pool.callers.get requestId, caller.future.hasResult = false
  | _ => True

instance (pool : RequestPool) :
    ∀ event : PoolEvent, Decidable (pool.NotAfterResult event)
  | .cancel requestId =>
      inferInstanceAs (Decidable (∀ caller ∈ pool.callers.get requestId, _))
  | .assign _ | .resume _ | .get | .collect | .planned _ | .planFailed _
  | .stop | .stopped => isTrue trivial

/-- Some caller raised, or will, without reading its result. -/
def Loses (callers : PyDict RequestId Caller) : Prop :=
  ∃ requestId caller result,
    callers.get requestId = some caller ∧ caller.Lost result

-- =========================================================== invariant

/-- The calls made for a request that is not in the pool's hands, by its
future. -/
def CallsMatch (future : Asyncio.Future AssignmentResult PyException)
    (calls : List RouteCall) : Prop :=
  match future with
  | .pending => calls = []
  | .exception _ => calls = []
  | .cancelled =>
      calls = [] ∨ ∃ a : RouteAssignment, calls = [a.reserveCall, a.releaseCall]
  | .result result => calls = [result.assignment.reserveCall]

/-- The requests the pool has not answered, its worker's first. -/
def held (pool : RequestPool) : List SchedulerRequest :=
  (match pool.worker with
    | .yielded first => [first]
    | .planning group => group
    | _ => []) ++ pool.queue

/-- `held` are the requests still to be answered, those in `assignments`
with their reservations made. -/
structure PoolInv (pool : RequestPool) (held : List SchedulerRequest)
    (assignments : PyDict RequestId RouteAssignment) : Prop where
  nodup : (held.map (·.requestId)).Nodup
  unanswered : ∀ request ∈ held, ∃ caller,
    pool.callers.get request.requestId = some caller
      ∧ (caller.future = .pending ∨ caller.future = .cancelled)
      ∧ pool.callsOf request.requestId
        = ((assignments.get request.requestId).map
            RouteAssignment.reserveCall).toList
  unknown : ∀ requestId, pool.callers.get requestId = none →
    pool.callsOf requestId = []
  answered : ∀ requestId caller, requestId ∉ held.map (·.requestId) →
    pool.callers.get requestId = some caller →
      CallsMatch caller.future (pool.callsOf requestId)

variable {pool pool' : RequestPool} {pending : List SchedulerRequest}
  {assignments : PyDict RequestId RouteAssignment}

theorem init_inv (maxPlanningGroupSize : ℤ) :
    PoolInv (init maxPlanningGroupSize) [] .empty where
  nodup := List.nodup_nil
  unanswered := fun request hmem => by cases hmem
  unknown := fun requestId _ => rfl
  answered := fun requestId caller _ hget => by cases hget

/-- Requests may be dropped unanswered. -/
theorem PoolInv.drop {dropped : List SchedulerRequest}
    (h : PoolInv pool (dropped ++ pending) .empty) :
    PoolInv pool pending .empty where
  nodup := by
    have hnodup := h.nodup
    rw [List.map_append] at hnodup
    exact hnodup.of_append_right
  unanswered := fun request hmem =>
    h.unanswered request (List.mem_append_right _ hmem)
  unknown := h.unknown
  answered := by
    intro requestId caller hmem hget
    by_cases hdropped : requestId ∈ dropped.map (·.requestId)
    · obtain ⟨request, hrequest, rfl⟩ := List.mem_map.mp hdropped
      obtain ⟨caller', hget', hfuture, hcalls⟩ :=
        h.unanswered request (List.mem_append_left _ hrequest)
      rw [hget] at hget'
      injection hget' with hget'
      subst hget'
      obtain hpending | hcancelled := hfuture
      · rw [hpending]
        exact hcalls
      · rw [hcancelled]
        exact Or.inl hcalls
    · refine h.answered requestId caller ?_ hget
      rw [List.map_append, List.mem_append]
      exact fun hor => hor.elim hdropped hmem

/-- Answering the first request. -/
theorem PoolInv.close {request : SchedulerRequest} {caller : Caller}
    (h : PoolInv pool (request :: pending) assignments)
    (hget : pool'.callers.get request.requestId = some caller)
    (hmatch : CallsMatch caller.future (pool'.callsOf request.requestId))
    (hother : ∀ requestId, requestId ≠ request.requestId →
      pool'.callers.get requestId = pool.callers.get requestId
        ∧ pool'.callsOf requestId = pool.callsOf requestId) :
    PoolInv pool' pending assignments where
  nodup := by
    have hnodup := h.nodup
    rw [List.map_cons, List.nodup_cons] at hnodup
    exact hnodup.2
  unanswered := by
    intro request' hmem
    -- ids are distinct, so the rest of the pending are others
    have hne : request'.requestId ≠ request.requestId := by
      intro heq
      have hnodup := h.nodup
      rw [List.map_cons, List.nodup_cons] at hnodup
      exact hnodup.1 (List.mem_map.mpr ⟨request', hmem, heq⟩)
    rw [(hother _ hne).1, (hother _ hne).2]
    exact h.unanswered request' (List.mem_cons_of_mem _ hmem)
  unknown := by
    intro requestId hnone
    by_cases heq : requestId = request.requestId
    · rw [heq, hget] at hnone
      cases hnone
    · rw [(hother _ heq).1] at hnone
      rw [(hother _ heq).2]
      exact h.unknown requestId hnone
  answered := by
    intro requestId caller' hmem hget'
    by_cases heq : requestId = request.requestId
    -- the one that is closed is answered now, and its calls match
    · rw [heq, hget] at hget'
      injection hget' with hget'
      rw [heq, ← hget']
      exact hmatch
    · rw [(hother _ heq).1] at hget'
      rw [(hother _ heq).2]
      refine h.answered requestId caller' ?_ hget'
      rw [List.map_cons, List.mem_cons]
      exact fun hor => hor.elim heq hmem

/-- A caller whose future stays, or is cancelled while pending. -/
theorem PoolInv.setCaller {requestId : RequestId} {caller caller' : Caller}
    (h : PoolInv pool pending .empty)
    (hget : pool.callers.get requestId = some caller)
    (hfuture : caller'.future = caller.future
      ∨ (caller.future = .pending ∧ caller'.future = .cancelled)) :
    PoolInv { pool with callers := pool.callers.set requestId caller' } pending
      .empty where
  nodup := h.nodup
  unanswered := by
    intro request hmem
    obtain ⟨old, hold, hopen, hcalls⟩ := h.unanswered request hmem
    dsimp only
    rw [PyDict.get_set]
    by_cases heq : request.requestId = requestId
    · rw [if_pos heq]
      rw [heq, hget] at hold
      injection hold with hold
      subst hold
      refine ⟨caller', rfl, ?_, hcalls⟩
      obtain hsame | ⟨-, hcancelled⟩ := hfuture
      · rw [hsame]
        exact hopen
      · exact Or.inr hcancelled
    · rw [if_neg heq]
      exact ⟨old, hold, hopen, hcalls⟩
  unknown := by
    intro requestId' hnone
    dsimp only at hnone
    rw [PyDict.get_set] at hnone
    split at hnone
    · cases hnone
    · exact h.unknown requestId' hnone
  answered := by
    intro requestId' old hmem hget'
    dsimp only at hget'
    rw [PyDict.get_set] at hget'
    by_cases heq : requestId' = requestId
    · rw [if_pos heq] at hget'
      injection hget' with hget'
      subst hget'
      have hmatch := h.answered requestId' caller hmem (heq ▸ hget)
      obtain hsame | ⟨hpending, hcancelled⟩ := hfuture
      · rw [hsame]
        exact hmatch
      · rw [hpending] at hmatch
        rw [hcancelled]
        exact Or.inl hmatch
    · rw [if_neg heq] at hget'
      exact h.answered requestId' old hmem hget'

-- ============================================================ hand-out

/-- What a successful plan reserves and returns. -/
theorem commitPlan_ok {group : List SchedulerRequest}
    {calls : List (RequestId × RouteCall)}
    {results : PyDict RequestId AssignmentResult}
    (h : commitPlan group assignments = .ok (calls, results)) :
    calls = assignments.items.map (fun p => (p.1, p.2.reserveCall))
      ∧ ∀ request ∈ group, ∃ assignment,
        assignments.get request.requestId = some assignment
          ∧ results.get request.requestId
            = some ⟨assignment, group.length⟩ := by
  unfold commitPlan at h
  dsimp only at h
  split at h
  case isTrue => cases h
  case isFalse hmissing =>
    rw [not_not, List.filter_eq_nil_iff] at hmissing
    injection h with h
    injection h with hcalls hresults
    refine ⟨hcalls.symm, fun request hmem => ?_⟩
    -- nobody is missing, so each request has its assignment
    have hsome := hmissing request hmem
    rw [Option.isNone_iff_eq_none] at hsome
    obtain ⟨assignment, hassignment⟩ := Option.ne_none_iff_exists'.mp hsome
    refine ⟨assignment, hassignment, ?_⟩
    rw [← hresults]
    have hkey : request.requestId ∈ (group.filterMap fun request =>
        (assignments.get request.requestId).map fun assignment =>
          (request.requestId,
            (⟨assignment, group.length⟩ : AssignmentResult))).map Prod.fst := by
      refine List.mem_map.mpr ⟨(request.requestId, ⟨assignment, group.length⟩),
        List.mem_filterMap.mpr ⟨request, hmem, ?_⟩, rfl⟩
      rw [hassignment]
      rfl
    obtain ⟨result, hresult⟩ := PyDict.exists_get_ofList hkey
    -- the result under its id is of a request with that id, so of the same
    -- assignment
    obtain ⟨request', -, heq⟩ :=
      List.mem_filterMap.mp (PyDict.mem_of_get_ofList hresult)
    obtain ⟨assignment', hassignment', heq⟩ := Option.map_eq_some_iff.mp heq
    injection heq with hid hvalue
    rw [hid, hassignment] at hassignment'
    injection hassignment' with hassignment'
    rw [hresult, ← hvalue, ← hassignment']

/-- The reservations of a plan, request by request. -/
theorem PoolInv.reserve {group queue : List SchedulerRequest}
    {calls : List (RequestId × RouteCall)} {worker : Worker}
    (h : PoolInv pool (group ++ queue) .empty)
    (hkeys : ∀ requestId ∈ assignments.keys,
      requestId ∈ group.map (·.requestId))
    (hcalls : calls = assignments.items.map fun p => (p.1, p.2.reserveCall)) :
    PoolInv { pool with worker := worker, calls := pool.calls ++ calls }
      (group ++ queue) assignments := by
  -- each request of the group gets its own call, and no other one
  have hcallsOf : ∀ requestId,
      callsOf { pool with worker := worker, calls := pool.calls ++ calls }
          requestId
        = pool.callsOf requestId ++ ((assignments.get requestId).map
            RouteAssignment.reserveCall).toList := by
    intro requestId
    rw [← assignments.filterMap_items]
    refine (callsFor_append pool.calls calls requestId).trans ?_
    unfold callsFor
    rw [hcalls, List.filterMap_map]
    rfl
  have hnone : ∀ requestId, requestId ∉ group.map (·.requestId) →
      assignments.get requestId = none := fun requestId hmem =>
    PyDict.get_eq_none_iff.mpr fun hkey => hmem (hkeys requestId hkey)
  refine ⟨h.nodup, fun request hmem => ?_, fun requestId hget => ?_,
    fun requestId caller hmem hget => ?_⟩
  · obtain ⟨caller, hget, hopen, hbefore⟩ := h.unanswered request hmem
    refine ⟨caller, hget, hopen, ?_⟩
    rw [hcallsOf, hbefore]
    rfl
  · rw [hcallsOf, h.unknown requestId hget, hnone requestId fun hmem => ?_]
    · rfl
    · obtain ⟨request, hrequest, rfl⟩ := List.mem_map.mp hmem
      obtain ⟨caller, hcaller, -, -⟩ :=
        h.unanswered request (List.mem_append_left _ hrequest)
      rw [hcaller] at hget
      cases hget
  -- who was answered before is not in the group
  · have hgroup : requestId ∉ group.map (·.requestId) := fun hin =>
      hmem (by rw [List.map_append]; exact List.mem_append_left _ hin)
    rw [hcallsOf, hnone requestId hgroup]
    show CallsMatch _ (_ ++ [])
    rw [List.append_nil]
    exact h.answered requestId caller hmem hget

/-- Whether a result is lost depends on the callers that hold one. -/
theorem loses_set {callers : PyDict RequestId Caller} {requestId : RequestId}
    {caller caller' : Caller} (hget : callers.get requestId = some caller)
    (hlost : ∀ result, caller'.Lost result ↔ caller.Lost result) :
    Loses (callers.set requestId caller') ↔ Loses callers := by
  constructor
  · intro h
    obtain ⟨id, lost, result, hid, hresult⟩ := h
    rw [PyDict.get_set] at hid
    split at hid
    · injection hid with hid
      subst hid
      exact ⟨requestId, caller, result, hget, (hlost result).mp hresult⟩
    · exact ⟨id, lost, result, hid, hresult⟩
  · intro h
    obtain ⟨id, lost, result, hid, hresult⟩ := h
    by_cases heq : id = requestId
    · rw [heq, hget] at hid
      injection hid with hid
      subst hid
      exact ⟨requestId, caller', result, PyDict.get_set_self _ _ _,
        (hlost result).mpr hresult⟩
    · refine ⟨id, lost, result, ?_, hresult⟩
      rw [PyDict.get_set_of_ne _ heq]
      exact hid

/-- Handing out one result: a cancelled caller's reservation is released,
any other caller gets its own. -/
theorem PoolInv.handOutOne {request : SchedulerRequest}
    {results : PyDict RequestId AssignmentResult}
    {assignment : RouteAssignment} {size : ℕ}
    (h : PoolInv pool (request :: pending) assignments)
    (hassignment : assignments.get request.requestId = some assignment)
    (hresult : results.get request.requestId = some ⟨assignment, size⟩) :
    ∃ pool', pool.handOutOne results request = some pool'
      ∧ PoolInv pool' pending assignments ∧ pool'.worker = pool.worker
      ∧ pool'.queue = pool.queue
      ∧ (Loses pool'.callers ↔ Loses pool.callers) := by
  obtain ⟨caller, hget, hopen, hcalls⟩ :=
    h.unanswered request (List.mem_cons_self ..)
  rw [hassignment] at hcalls
  unfold RequestPool.handOutOne
  rw [hget, hresult, Option.bind_some, Option.bind_some]
  -- cancelled while the plan was made: its reservation is released at once
  by_cases hcancelled : caller.future = .cancelled
  · rw [if_pos hcancelled]
    refine ⟨_, rfl, h.close hget ?_ fun requestId hne => ⟨rfl, ?_⟩, rfl, rfl,
      Iff.rfl⟩
    · rw [hcancelled]
      refine Or.inr ⟨assignment, ?_⟩
      refine (callsFor_concat_self _ _ _).trans ?_
      rw [show callsFor pool.calls request.requestId = _ from hcalls]
      rfl
    · exact callsFor_concat_of_ne _ hne _
  · rw [if_neg hcancelled]
    -- any other caller is still waiting, so it takes the result
    have hpending : caller.future = .pending :=
      hopen.resolve_right hcancelled
    obtain ⟨caller', hset, hfuture, htask⟩ :=
      Asyncio.Waiter.setResult_of_pending hpending
        (⟨assignment, size⟩ : AssignmentResult)
    rw [hset]
    refine ⟨_, rfl, h.close (PyDict.get_set_self _ _ _) ?_
      fun requestId hne => ⟨PyDict.get_set_of_ne _ hne _, rfl⟩, rfl, rfl,
      loses_set hget fun result => iff_of_false ?_ ?_⟩
    · rw [hfuture]
      exact hcalls
    · rw [Asyncio.Waiter.awaiting_of_pending hpending] at htask
      exact Asyncio.Waiter.Delivered.not_lost ⟨hfuture, Or.inl htask⟩
    · refine Asyncio.Waiter.not_lost (fun value hvalue => ?_) result
      rw [hpending] at hvalue
      cases hvalue

/-- Handing out the results of a planned group never meets a future that
is already done. -/
theorem PoolInv.handOut {group : List SchedulerRequest}
    {results : PyDict RequestId AssignmentResult} {size : ℕ}
    (h : PoolInv pool (group ++ pending) assignments)
    (hresults : ∀ request ∈ group, ∃ assignment,
      assignments.get request.requestId = some assignment
        ∧ results.get request.requestId = some ⟨assignment, size⟩) :
    ∃ pool', RequestPool.handOut results pool group = some pool'
      ∧ PoolInv pool' pending assignments ∧ pool'.worker = pool.worker
      ∧ pool'.queue = pool.queue
      ∧ (Loses pool'.callers ↔ Loses pool.callers) := by
  induction group generalizing pool with
  | nil => exact ⟨pool, rfl, h, rfl, rfl, Iff.rfl⟩
  | cons request group ih =>
      obtain ⟨assignment, hassignment, hresult⟩ :=
        hresults request (List.mem_cons_self ..)
      obtain ⟨pool₁, hone, h₁, hworker, hqueue, hloses⟩ :=
        PoolInv.handOutOne h hassignment hresult
      obtain ⟨pool₂, hrest, h₂, hworker', hqueue', hloses'⟩ :=
        ih h₁ fun request' hmem =>
          hresults request' (List.mem_cons_of_mem _ hmem)
      refine ⟨pool₂, ?_, h₂, hworker'.trans hworker, hqueue'.trans hqueue,
        hloses'.trans hloses⟩
      unfold RequestPool.handOut
      rw [hone, Option.bind_some]
      exact hrest

/-- Once only unreserved requests are left, the group is behind. -/
theorem PoolInv.forget (h : PoolInv pool pending assignments)
    (hnone : ∀ request ∈ pending, assignments.get request.requestId = none) :
    PoolInv pool pending .empty where
  nodup := h.nodup
  unanswered := by
    intro request hmem
    obtain ⟨caller, hget, hopen, hcalls⟩ := h.unanswered request hmem
    rw [hnone request hmem] at hcalls
    exact ⟨caller, hget, hopen, hcalls⟩
  unknown := h.unknown
  answered := h.answered

/-- A failed plan leaves its group unreserved and its callers with the
exception. -/
theorem PoolInv.fail {group : List SchedulerRequest} (error : PyException)
    (h : PoolInv pool (group ++ pending) .empty) :
    PoolInv (pool.fail error group) pending .empty
      ∧ (pool.fail error group).queue = pool.queue
      ∧ (Loses (pool.fail error group).callers ↔ Loses pool.callers) := by
  induction group generalizing pool with
  | nil => exact ⟨h, rfl, Iff.rfl⟩
  | cons request group ih =>
      obtain ⟨caller, hget, hopen, hcalls⟩ :=
        h.unanswered request (List.mem_cons_self ..)
      -- who is still waiting gets the exception
      have hone : pool.failOne error request
          = { pool with
              callers := pool.callers.set request.requestId
                (caller.failIfPending error) } := by
        unfold failOne
        rw [hget]
      have hfuture := Asyncio.Waiter.failIfPending_future caller error
      have hmatch : CallsMatch (caller.failIfPending error).future [] := by
        rw [hfuture]
        obtain hpending | hcancelled := hopen
        · rw [hpending]
          exact rfl
        · rw [hcancelled]
          exact Or.inl rfl
      -- nobody in the group has a result yet, so none is lost
      have hnot : ∀ value, caller.future ≠ .result value := by
        intro value hvalue
        rw [hvalue] at hopen
        obtain hpending | hcancelled := hopen
        · cases hpending
        · cases hcancelled
      have hnot' : ∀ value,
          (caller.failIfPending error).future ≠ .result value := by
        intro value hvalue
        rw [hfuture] at hvalue
        split at hvalue
        · exact hnot value hvalue
        · cases hvalue
      -- the first is closed, and the rest by induction
      have h₁ : PoolInv (pool.failOne error request) (group ++ pending)
          .empty := by
        rw [hone]
        refine h.close (PyDict.get_set_self _ _ _) ?_ fun requestId hne =>
          ⟨PyDict.get_set_of_ne _ hne _, rfl⟩
        show CallsMatch _ (pool.callsOf request.requestId)
        rw [hcalls]
        exact hmatch
      obtain ⟨h₂, hqueue, hloses⟩ := ih h₁
      refine ⟨h₂, hqueue.trans (by rw [hone]), hloses.trans ?_⟩
      rw [hone]
      exact loses_set hget fun result =>
        iff_of_false (Asyncio.Waiter.not_lost hnot' result)
          (Asyncio.Waiter.not_lost hnot result)

-- =============================================================== steps

/-- The worker's place does not matter. -/
theorem PoolInv.congr {held : List SchedulerRequest}
    (h : PoolInv pool pending assignments)
    (hcallers : pool'.callers = pool.callers)
    (hcalls : pool'.calls = pool.calls) (hheld : held = pending) :
    PoolInv pool' held assignments := by
  subst hheld
  have hcallsOf : ∀ requestId, pool'.callsOf requestId = pool.callsOf requestId := by
    intro requestId
    unfold callsOf
    rw [hcalls]
  refine ⟨h.nodup, fun request hmem => ?_, fun requestId hget => ?_,
    fun requestId caller hmem hget => ?_⟩
  · rw [hcallers, hcallsOf]
    exact h.unanswered request hmem
  · rw [hcallers] at hget
    rw [hcallsOf]
    exact h.unknown requestId hget
  · rw [hcallers] at hget
    rw [hcallsOf]
    exact h.answered requestId caller hmem hget

/-- A new caller joins the queue. -/
theorem PoolInv.assign {request : SchedulerRequest}
    (h : PoolInv pool pool.held .empty)
    (hfresh : pool.callers.get request.requestId = none) :
    PoolInv (pool.assign request) (pool.assign request).held .empty
      ∧ (Loses (pool.assign request).callers ↔ Loses pool.callers) := by
  have hheld : (pool.assign request).held = pool.held ++ [request] := by
    unfold RequestPool.assign held
    cases hworker : pool.worker <;> simp
  -- who is held has a caller, and the new one has none yet
  have hnot : request.requestId ∉ pool.held.map (·.requestId) := by
    intro hmem
    obtain ⟨request', hmem', heq⟩ := List.mem_map.mp hmem
    obtain ⟨caller, hget, -, -⟩ := h.unanswered request' hmem'
    rw [heq, hfresh] at hget
    cases hget
  have hget : ∀ requestId, (pool.assign request).callers.get requestId
      = if requestId = request.requestId then some .start
        else pool.callers.get requestId := fun requestId =>
    PyDict.get_set _ _ _ _
  rw [hheld]
  refine ⟨⟨?_, ?_, ?_, ?_⟩, ?_⟩
  · rw [List.map_append, List.nodup_append]
    refine ⟨h.nodup, List.nodup_singleton _, fun a ha b hb hab => ?_⟩
    rw [List.map_singleton, List.mem_singleton] at hb
    exact hnot (hb ▸ hab ▸ ha)
  · intro request' hmem
    rw [hget]
    rcases List.mem_append.mp hmem with hmem | hmem
    · obtain ⟨caller, hcaller, hopen, hcalls⟩ := h.unanswered request' hmem
      rw [if_neg fun heq => hnot (List.mem_map.mpr ⟨request', hmem, heq⟩)]
      exact ⟨caller, hcaller, hopen, hcalls⟩
    · rw [List.mem_singleton] at hmem
      rw [hmem, if_pos rfl]
      exact ⟨.start, rfl, Or.inl rfl, h.unknown _ hfresh⟩
  -- no one is forgotten
  · intro requestId hnone
    rw [hget] at hnone
    split at hnone
    · cases hnone
    · exact h.unknown requestId hnone
  · intro requestId caller hmem hcaller
    rw [List.map_append, List.mem_append, not_or] at hmem
    rw [hget] at hcaller
    split at hcaller
    case isTrue heq =>
      exact absurd (by rw [heq]; exact List.mem_singleton.mpr rfl) hmem.2
    case isFalse => exact h.answered requestId caller hmem.1 hcaller
  · constructor
    · intro hloses
      -- the new caller waits, and a waiting caller has lost nothing
      obtain ⟨requestId, caller, result, hcaller, hlost⟩ := hloses
      rw [hget] at hcaller
      split at hcaller
      · injection hcaller with hcaller
        rw [← hcaller] at hlost
        cases hlost.1
      · exact ⟨requestId, caller, result, hcaller, hlost⟩
    · intro hloses
      obtain ⟨requestId, caller, result, hcaller, hlost⟩ := hloses
      refine ⟨requestId, caller, result, ?_, hlost⟩
      rw [hget, if_neg fun heq => ?_]
      · exact hcaller
      · rw [heq, hfresh] at hcaller
        cases hcaller

/-- A cancellation is seen by the pool, or loses the result. -/
theorem PoolInv.cancel {requestId : RequestId} {caller caller' : Caller}
    (h : PoolInv pool pool.held .empty)
    (hget : pool.callers.get requestId = some caller)
    (hcancel : caller.cancel = some caller') :
    PoolInv { pool with callers := pool.callers.set requestId caller' }
        pool.held .empty
      ∧ (Loses (pool.callers.set requestId caller')
        ↔ Loses pool.callers ∨ ¬ pool.NotAfterResult (.cancel requestId)) := by
  have hfuture := Asyncio.Waiter.cancel_eq_some hcancel
  refine ⟨h.setCaller hget ?_, ?_⟩
  · obtain hseen | ⟨hsame, -⟩ := hfuture
    · exact Or.inr hseen
    · exact Or.inl hsame
  -- a future that has its result keeps it, and the cancelled task will not
  -- take it
  · by_cases hresult : ∃ result, caller.future = .result result
    · obtain ⟨result, hresult⟩ := hresult
      refine iff_of_true ?_ (Or.inr fun hnot =>
        Asyncio.Future.hasResult_eq_false.mp (hnot caller hget) result hresult)
      exact ⟨requestId, caller', result, PyDict.get_set_self _ _ _,
        Asyncio.Waiter.cancel_lost hresult hcancel⟩
    · have hnone : ∀ value, caller.future ≠ .result value :=
        fun value hvalue => hresult ⟨value, hvalue⟩
      have hnone' : ∀ value, caller'.future ≠ .result value := by
        intro value hvalue
        obtain ⟨-, hcancelled⟩ | ⟨hsame, -⟩ := hfuture
        · rw [hcancelled] at hvalue
          cases hvalue
        · exact hnone value (hsame ▸ hvalue)
      -- any other one has nothing to lose
      have hok : pool.NotAfterResult (.cancel requestId) := by
        intro other hother
        rw [hget] at hother
        injection hother with hother
        exact hother ▸ Asyncio.Future.hasResult_eq_false.mpr hnone
      refine (loses_set hget fun result => iff_of_false
        (Asyncio.Waiter.not_lost hnone' result)
        (Asyncio.Waiter.not_lost hnone result)).trans ?_
      exact ⟨Or.inl, fun hor => hor.elim id fun hbad => absurd hok hbad⟩

/-- A task that runs returns a result that was not lost before. -/
theorem PoolInv.resume {requestId : RequestId} {caller caller' : Caller}
    (h : PoolInv pool pool.held .empty)
    (hget : pool.callers.get requestId = some caller)
    (hresume : caller.resume = some caller') :
    PoolInv { pool with callers := pool.callers.set requestId caller' }
        pool.held .empty
      ∧ (Loses (pool.callers.set requestId caller') ↔ Loses pool.callers) := by
  have hfuture := (Asyncio.Waiter.resume_eq_some hresume).1
  refine ⟨h.setCaller hget (Or.inl hfuture), loses_set hget fun result => ?_⟩
  constructor
  · intro hlost
    rcases Asyncio.Waiter.delivered_or_lost (hfuture ▸ hlost.1) with
      hdelivered | hlost'
    · exact absurd hlost (hdelivered.resume hresume).not_lost
    · exact hlost'
  · intro hlost
    exact hlost.resume hresume

/-- A plan is handed out, or fails, to the whole group. -/
theorem PoolInv.planned {group : List SchedulerRequest}
    (h : PoolInv pool pool.held .empty) (hworker : pool.worker = .planning group)
    (hstep : pool.step (.planned assignments) = some pool') :
    PoolInv pool' pool'.held .empty
      ∧ (Loses pool'.callers ↔ Loses pool.callers) := by
  have hheld : pool.held = group ++ pool.queue := by
    unfold held
    rw [hworker]
  rw [hheld] at h
  unfold step at hstep
  rw [hworker] at hstep
  dsimp only at hstep
  split at hstep
  case isFalse => cases hstep
  case isTrue hkeys =>
    split at hstep
    · rename_i error hcommit
      injection hstep with hstep
      obtain ⟨hinv, hqueue, hloses⟩ := h.fail error
      subst hstep
      exact ⟨hinv.congr rfl rfl hqueue, hloses⟩
    · rename_i calls results hcommit
      obtain ⟨hcalls, hresults⟩ := commitPlan_ok hcommit
      obtain ⟨pool₁, hhand, hinv, hworker₁, hqueue, hloses⟩ :=
        PoolInv.handOut (h.reserve hkeys hcalls) hresults
      rw [hhand] at hstep
      injection hstep with hstep
      subst hstep
      have hheld₁ : pool₁.held = pool.queue := by
        unfold held
        rw [hworker₁, hqueue]
        rfl
      refine ⟨(hinv.forget fun request hmem => ?_).congr rfl rfl hheld₁,
        hloses⟩
      -- the queue holds other requests than the group
      refine PyDict.get_eq_none_iff.mpr fun hkey => ?_
      have hnodup := h.nodup
      rw [List.map_append, List.nodup_append] at hnodup
      exact hnodup.2.2 _ (hkeys _ hkey) _ (List.mem_map_of_mem hmem) rfl

/-- One event: the invariant stays, and a result is lost exactly by a
cancellation that comes after it. -/
theorem step_inv {event : PoolEvent} (h : PoolInv pool pool.held .empty)
    (hstep : pool.step event = some pool') :
    PoolInv pool' pool'.held .empty
      ∧ (Loses pool'.callers
        ↔ Loses pool.callers ∨ ¬ pool.NotAfterResult event) := by
  have hkeep : pool.NotAfterResult event →
      (Loses pool'.callers ↔ Loses pool.callers) →
      (Loses pool'.callers
        ↔ Loses pool.callers ∨ ¬ pool.NotAfterResult event) := fun hok hiff =>
    hiff.trans ⟨Or.inl, fun hor => hor.elim id fun hbad => absurd hok hbad⟩
  cases hround : pool.roundOf event with
  | some round =>
      obtain ⟨hworker, ⟨assignments, rfl, _⟩ | ⟨error, rfl, _⟩⟩ :=
        roundOf_eq_some hround
      · obtain ⟨hinv, hloses⟩ := h.planned hworker hstep
        exact ⟨hinv, hkeep trivial hloses⟩
      · simp only [step, hworker] at hstep
        injection hstep with hstep
        subst hstep
        have hheld : pool.held = round.group ++ pool.queue := by
          unfold held
          rw [hworker]
        rw [hheld] at h
        obtain ⟨hinv, hqueue, hloses⟩ := h.fail error
        exact ⟨hinv.congr rfl rfl hqueue, hkeep trivial hloses⟩
  | none =>
      cases quiet_of_step hround hstep with
      | assign request hfresh =>
          obtain ⟨hinv, hloses⟩ := h.assign hfresh
          exact ⟨hinv, hkeep trivial hloses⟩
      | cancel requestId caller caller' hget hcancel =>
          exact h.cancel hget hcancel
      | resume requestId caller caller' hget hresume =>
          obtain ⟨hinv, hloses⟩ := h.resume hget hresume
          exact ⟨hinv, hkeep trivial hloses⟩
      | get first queue hworker hqueue =>
          refine ⟨h.congr rfl rfl ?_, hkeep trivial Iff.rfl⟩
          unfold held
          rw [hworker, hqueue]
          rfl
      | collect first hworker =>
          refine ⟨h.congr rfl rfl ?_, hkeep trivial Iff.rfl⟩
          unfold held
          rw [hworker]
          show (first :: pool.queue.take _) ++ pool.queue.drop _ = _
          rw [List.cons_append, List.take_append_drop]
          rfl
      | stop =>
          -- what the worker had taken is dropped
          exact ⟨h.drop.congr rfl rfl rfl, hkeep trivial Iff.rfl⟩
      | stopped =>
          exact ⟨h.drop.congr rfl rfl rfl, hkeep trivial Iff.rfl⟩

-- ================================================================ runs

/-- Along a run, a result is lost exactly by a cancellation that comes
after it. -/
theorem run_inv {events : List PoolEvent} (h : PoolInv pool pool.held .empty)
    (hrun : Lts.run step pool events = some pool') :
    PoolInv pool' pool'.held .empty
      ∧ (Loses pool'.callers
        ↔ Loses pool.callers ∨ ¬ Lts.Along step NotAfterResult pool events) :=
  Lts.run_iff_along (I := fun pool : RequestPool => PoolInv pool pool.held .empty)
    (fun _ _ _ hI hstep => step_inv hI hstep) h hrun

/-- Where a reservation was made, its request was cancelled in time or has
its result. -/
theorem CallsMatch.of_reserve
    {future : Asyncio.Future AssignmentResult PyException}
    {calls : List RouteCall} {nodeId : String} {work : ℚ}
    (h : CallsMatch future calls)
    (hmem : RouteCall.reserve nodeId work ∈ calls) :
    (future = .cancelled
        ∧ calls = [.reserve nodeId work, .release nodeId work])
      ∨ ∃ result, future = .result result
        ∧ result.node.nodeId = nodeId ∧ result.inflightWork = work
        ∧ calls = [.reserve nodeId work] := by
  cases future with
  | pending =>
      rw [show calls = [] from h] at hmem
      cases hmem
  | exception error =>
      rw [show calls = [] from h] at hmem
      cases hmem
  | cancelled =>
      obtain hnil | ⟨a, hpair⟩ := h
      · rw [hnil] at hmem
        cases hmem
      · rw [hpair] at hmem
        refine Or.inl ⟨rfl, ?_⟩
        rw [hpair]
        simp only [RouteAssignment.reserveCall, RouteAssignment.releaseCall,
          List.mem_cons, RouteCall.reserve.injEq, reduceCtorEq,
          List.not_mem_nil, or_false] at hmem ⊢
        rw [hmem.1, hmem.2]
  | result result =>
      have hsingle : calls = [result.assignment.reserveCall] := h
      rw [hsingle, List.mem_singleton] at hmem
      injection hmem with hnode hwork
      refine Or.inr ⟨result, rfl, hnode.symm, hwork.symm, ?_⟩
      rw [hsingle, hnode, hwork]
      rfl

/-- Under the invariant, the calls made for any request can be read off its
future. -/
theorem PoolInv.callsMatch (h : PoolInv pool pool.held .empty)
    {requestId : RequestId} {caller : Caller}
    (hget : pool.callers.get requestId = some caller) :
    CallsMatch caller.future (pool.callsOf requestId) := by
  have hdrop : PoolInv pool (pool.held ++ []) .empty := by
    rwa [List.append_nil]
  exact hdrop.drop.answered requestId caller List.not_mem_nil hget

/-- Under the invariant, a reservation is unaccounted for exactly where a
caller lost its result. -/
theorem PoolInv.accounted_iff (h : PoolInv pool pool.held .empty) :
    pool.Accounted ↔ ¬ Loses pool.callers := by
  constructor
  · intro hall hloses
    obtain ⟨requestId, caller, result, hget, hlost⟩ := hloses
    have hcalls := h.callsMatch hget
    rw [hlost.1] at hcalls
    have hmem := mem_callsFor.mp (hcalls ▸ List.mem_singleton.mpr rfl)
    obtain ⟨caller', hget', hfate⟩ := hall requestId _ _ hmem
    rw [hget] at hget'
    injection hget' with hget'
    subst hget'
    obtain ⟨hcancelled, -⟩ | ⟨result', hdelivered, -⟩ := hfate
    · rw [hlost.1] at hcancelled
      cases hcancelled
    · exact hdelivered.not_lost hlost
  · intro hnone requestId nodeId work hmem
    have hmem : RouteCall.reserve nodeId work ∈ pool.callsOf requestId :=
      mem_callsFor.mpr hmem
    cases hget : pool.callers.get requestId with
    | none =>
        rw [h.unknown requestId hget] at hmem
        cases hmem
    | some caller =>
        refine ⟨caller, rfl, ?_⟩
        obtain hcancelled | ⟨result, hfuture, hcalls⟩ :=
          (h.callsMatch hget).of_reserve hmem
        · exact Or.inl hcancelled
        · have hdelivered : caller.Delivered result :=
            (Asyncio.Waiter.delivered_or_lost hfuture).resolve_right
              fun hlost => hnone ⟨requestId, caller, result, hget, hlost⟩
          exact Or.inr ⟨result, hdelivered, hcalls⟩

/-- No reservation is lost between the planner and the waiting caller, in
exactly the runs in which no caller is cancelled between the hand-out of
its result and its next step. -/
theorem reservations_accounted_iff (maxPlanningGroupSize : ℤ)
    (events : List PoolEvent) (pool : RequestPool)
    (hrun : Lts.run step (init maxPlanningGroupSize) events = some pool) :
    pool.Accounted
      ↔ Lts.Along step NotAfterResult (init maxPlanningGroupSize) events := by
  obtain ⟨hinv, hloses⟩ := run_inv (init_inv maxPlanningGroupSize) hrun
  rw [hinv.accounted_iff, hloses, not_or, not_not]
  refine ⟨fun hall => hall.2, fun hall => ⟨fun hnone => ?_, hall⟩⟩
  obtain ⟨requestId, caller, result, hget, -⟩ := hnone
  cases hget

/-- Two callers in one group, one of them cancelled during planning. -/
theorem reservations_accounted_two_callers :
    ∃ pool, Lts.run step (init 64)
        [.assign ⟨"r", [], 0⟩, .assign ⟨"q", [], 0⟩, .get, .collect,
          .cancel "q", .planned (.ofList [("r", assignmentOnA "r" 3),
            ("q", assignmentOnA "q" 5)]),
          .resume "r", .resume "q"] = some pool
      ∧ pool.callsOf "r" = [.reserve "a" 3]
      ∧ pool.callsOf "q" = [.reserve "a" 5, .release "a" 5]
      ∧ pool.Accounted := by
  have hrun : (Lts.run step (init 64)
      [.assign ⟨"r", [], 0⟩, .assign ⟨"q", [], 0⟩, .get, .collect,
        .cancel "q", .planned (.ofList [("r", assignmentOnA "r" 3),
          ("q", assignmentOnA "q" 5)]),
        .resume "r", .resume "q"]).map
          (fun pool => (pool.callsOf "r", pool.callsOf "q"))
      = some ([.reserve "a" 3], [.reserve "a" 5, .release "a" 5]) := by decide
  obtain ⟨pool, hpool, hcalls⟩ := Option.map_eq_some_iff.mp hrun
  injection hcalls with hr hq
  exact ⟨pool, hpool, hr, hq,
    (reservations_accounted_iff 64 _ pool hpool).mpr (by decide)⟩

/-- A caller is cancelled when its result has been set: it raises, and its
reservation is neither returned nor released. -/
theorem reservation_lost :
    ∃ pool, Lts.run step (init 64)
        [.assign ⟨"r", [], 0⟩, .get, .collect,
          .planned (.ofList [("r", assignmentOnA "r" 3)]), .cancel "r", .resume "r"]
        = some pool
      ∧ (pool.callers.get "r").map (·.task) = some (.raised none)
      ∧ pool.calls = [("r", .reserve "a" 3)]
      ∧ ¬ pool.Accounted := by
  have hrun : (Lts.run step (init 64)
      [.assign ⟨"r", [], 0⟩, .get, .collect,
        .planned (.ofList [("r", assignmentOnA "r" 3)]), .cancel "r", .resume "r"]).map
          (fun pool => ((pool.callers.get "r").map (·.task), pool.calls))
      = some (some (.raised none), [("r", .reserve "a" 3)]) := by decide
  obtain ⟨pool, hpool, hfacts⟩ := Option.map_eq_some_iff.mp hrun
  injection hfacts with htask hcalls
  refine ⟨pool, hpool, htask, hcalls, fun hall => ?_⟩
  obtain ⟨caller, hget, hfate⟩ := hall "r" "a" 3
    (by rw [hcalls]; exact List.mem_singleton.mpr rfl)
  rw [hget, Option.map_some] at htask
  injection htask with htask
  obtain ⟨-, hreleased⟩ | ⟨result, hdelivered, -⟩ := hfate
  · unfold callsOf at hreleased
    rw [hcalls] at hreleased
    revert hreleased
    decide
  · obtain ⟨-, hawaiting | hreturned⟩ := hdelivered
    · rw [htask] at hawaiting
      cases hawaiting
    · rw [htask] at hreturned
      cases hreturned

end RequestPool

end Kareserve
