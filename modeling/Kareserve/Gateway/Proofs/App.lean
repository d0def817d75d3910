/-
The calls the router process makes for each request (Gateway/App.lean).

Two parts make calls: the pool, whose calls for a request can be read off
its future (`CallsMatch`, Gateway/Proofs/Pool.lean), and the exchange that
begins when `assign` returns, which at most releases. `Bookkept` is how
the two fit: until there is an exchange the calls are the pool's, and from
then on the pool makes none and the exchange adds its release, if it ends
well. A request therefore never has more than one reservation and, after
it, one release (`Bookkept.oneTicket`), in any interleaving of requests,
plans, listeners and polls.

# By parts

No proof takes a step of the process apart by its event. A step is the
pool's (`step_pool`), which writes no exchange but the one that begins when
`assign` returns (`step_resume`), or it is of an exchange, a listener or a
poll (`step_own`), none of which writes the pool. `Bookkept` is kept by each
kind once (`Bookkept.ofPool`, `Bookkept.ofResume`, `Bookkept.ofExchange`,
`Bookkept.ofTracker`).

# Abandoned

A reservation is left behind in two ways: a caller loses its result to a
cancellation, or an exchange ends without its release (`Abandons`). Which
events do this is decided by the state before them (`KeepsReservation`), so
that a run abandons nothing exactly if none of its events does.
-/
import Kareserve.Gateway.App
import Kareserve.Gateway.Proofs.Completion
import Kareserve.Gateway.Proofs.Delivery
import Kareserve.Policy.Proofs.Raising

namespace Kareserve

/-- A plan that chooses has its candidates, and has chosen from them. -/
theorem RoutePlanner.selectOrRaise_ok {blake2b : List UInt8 → List UInt8}
    {planner : RoutePlanner} {requests : List SchedulerRequest}
    {lookup : Option LookupResult} {policy : Policy}
    {assignments : PyDict RequestId RouteAssignment}
    (h : planner.selectOrRaise blake2b requests lookup
      = (policy, .ok assignments)) :
    planner.candidatesOrRaise requests lookup
        = .ok (planner.candidates requests lookup)
      ∧ planner.policy.selectBatchOrRaise blake2b requests
        (planner.candidates requests lookup) = (policy, .ok assignments) := by
  unfold selectOrRaise at h
  split at h
  next => cases h
  next built hbuilt =>
    have hcandidates : built = planner.candidates requests lookup :=
      KareserveTracker.buildRouteCandidatesOrRaise_ok hbuilt
    rw [← hcandidates]
    exact ⟨hbuilt, h⟩

/-- What is chosen is what the policy chooses from these candidates. -/
theorem RoutePlanner.selectBatch_of_selectOrRaise
    {blake2b : List UInt8 → List UInt8} {planner : RoutePlanner}
    {requests : List SchedulerRequest} {lookup : Option LookupResult}
    {assignments : PyDict RequestId RouteAssignment}
    (h : (planner.selectOrRaise blake2b requests lookup).2
      = .ok assignments) :
    planner.policy.selectBatch blake2b requests
        (planner.candidates requests lookup)
      = some (assignments,
        (planner.selectOrRaise blake2b requests lookup).1) :=
  (Policy.selectBatchOrRaise_ok (selectOrRaise_ok (Prod.ext rfl h)).2).1

/-- It has assigned the batch completely and legally. -/
theorem RoutePlanner.assignsBatch {blake2b : List UInt8 → List UInt8}
    {planner : RoutePlanner} {requests : List SchedulerRequest}
    {lookup : Option LookupResult}
    {assignments : PyDict RequestId RouteAssignment}
    (h : (planner.selectOrRaise blake2b requests lookup).2
      = .ok assignments) :
    AssignsBatch planner.policy.costModel requests
      (planner.candidates requests lookup) assignments :=
  Policy.assignsBatch (selectBatch_of_selectOrRaise h)

/-- A plan that raises has met a number that is too large. -/
theorem RoutePlanner.selectOrRaise_failsOnly
    (blake2b : List UInt8 → List UInt8) (planner : RoutePlanner)
    (requests : List SchedulerRequest) (lookup : Option LookupResult) :
    Fault.FailsOnly TooLarge
      (planner.selectOrRaise blake2b requests lookup).2 := by
  unfold selectOrRaise
  split
  next error hbuilt =>
    intro error' herror
    injection herror with herror
    rw [← herror]
    unfold candidatesOrRaise KareserveTracker.buildRouteCandidatesOrRaise
      at hbuilt
    split at hbuilt
    · injection hbuilt with hbuilt
      exact .inr (.inl hbuilt.symm)
    · cases hbuilt
  next candidates _ =>
    exact planner.policy.selectBatchOrRaise_failsOnly blake2b

/-- A caller that runs on. -/
theorem RequestPool.resume_eq_some {pool pool' : RequestPool}
    {requestId : RequestId} (hstep : pool.step (.resume requestId) = some pool') :
    ∃ caller caller', pool.callers.get requestId = some caller ∧
      caller.resume = some caller' ∧
      pool' = { pool with
        callers := pool.callers.set requestId caller' } := by
  obtain ⟨caller, hget, hstep⟩ := Option.bind_eq_some_iff.mp hstep
  obtain ⟨caller', hresume, hstep⟩ := Option.map_eq_some_iff.mp hstep
  exact ⟨caller, caller', hget, hresume, hstep.symm⟩

/-- A task that has returned stays as it is. -/
theorem RequestPool.step_returned {pool pool' : RequestPool}
    {event : PoolEvent} (hstep : pool.step event = some pool')
    {requestId : RequestId} {caller : Caller} {result : AssignmentResult}
    (hget : pool.callers.get requestId = some caller)
    (htask : caller.task = .returned result) :
    pool'.callers.get requestId = some caller := by
  -- its future has the result, so no step completes it
  have hfuture : caller.future = .result result := by
    have hfits := caller.fits
    rw [htask] at hfits
    exact hfits
  obtain ⟨caller', hget', hsame | ⟨hpending, -⟩⟩ :=
    step_future hstep hget
  · rw [hfuture] at hsame
    cases step_caller hstep hget' with
    | same hbefore =>
        rw [hget] at hbefore
        rw [hget', hbefore]
    | new _ _ _ hstart =>
        rw [hstart] at hsame
        cases hsame
    -- a task that has returned is neither cancelled nor run
    | cancelled caller₀ _ hget₀ hcancel =>
        rw [hget] at hget₀
        injection hget₀ with hget₀
        unfold Asyncio.Waiter.cancel at hcancel
        rw [← hget₀, htask] at hcancel
        cases hcancel
    | resumed caller₀ _ hget₀ hresume =>
        rw [hget] at hget₀
        injection hget₀ with hget₀
        unfold Asyncio.Waiter.resume at hresume
        rw [← hget₀, htask] at hresume
        cases hresume
    | answered caller₀ hget₀ hpending _ =>
        rw [hget] at hget₀
        injection hget₀ with hget₀
        rw [← hget₀, hfuture] at hpending
        cases hpending
  · rw [hfuture] at hpending
    cases hpending

/-- Noting an event changes neither the completion nor the phase. -/
theorem LiveExchange.note_toExchange
    (loads : Bytes → Except LoadsError PyJson.Json) (x : LiveExchange)
    (now : ℚ) (event : UpstreamEvent) :
    (x.note loads now event).1.toExchange = x.toExchange := by
  unfold note
  cases event with
  | chunk bytes =>
      dsimp only
      split
      · rfl
      · split <;> rfl
  | _ => rfl

namespace App

variable {a a' : App} {requestId : RequestId}

-- ========================================================== definitions

/-- The calls made for a request are the pool's, or these and the release
of its exchange; an exchange belongs to a caller that has returned. -/
structure Bookkept (a : App) : Prop where
  pool : RequestPool.PoolInv a.requestPool a.requestPool.held .empty
  pooled : ∀ requestId, a.exchanges.get requestId = none →
    callsFor a.calls requestId = a.requestPool.callsOf requestId
  returned : ∀ requestId, a.exchanges.get requestId = none →
    ∀ caller, a.requestPool.callers.get requestId = some caller →
      ∀ result, caller.task ≠ .returned result
  caller : ∀ requestId x, a.exchanges.get requestId = some x →
    ∃ caller, a.requestPool.callers.get requestId = some caller ∧
      caller.task = .returned x.completion.assignment
  exchanged : ∀ requestId x, a.exchanges.get requestId = some x →
    callsFor a.calls requestId = [x.completion.reserveCall] ∨
      (x.phase = .finished ∧ callsFor a.calls requestId =
        [x.completion.reserveCall, x.completion.releaseCall])

/-- Every caller of `assign` is a handler. -/
def Handled (a : App) : Prop :=
  ∀ requestId caller, a.requestPool.callers.get requestId = some caller →
    ∃ handler, a.handlers.get requestId = some handler

/-- What holds of a request's exchange and the calls made for it. -/
def ExchangeAt (a : App) (requestId : RequestId)
    (holds : LiveExchange → List RouteCall → Prop) : Prop :=
  ∃ x, a.exchanges.get requestId = some x ∧
    holds x (callsFor a.calls requestId)

/-- The exchange is over, and its reservation was not given back. -/
def Leaks (x : LiveExchange) (calls : List RouteCall) : Prop :=
  x.phase = .finished ∧ calls = [x.completion.reserveCall]

/-- A request whose reservation is left to nobody. -/
def LeaksAt (a : App) (requestId : RequestId) : Prop :=
  a.ExchangeAt requestId Leaks

/-- A reservation that nothing will release: its caller raised, or will,
without reading the result, or its exchange is over. -/
def Abandons (a : App) : Prop :=
  RequestPool.Loses a.requestPool.callers ∨ ∃ requestId, a.LeaksAt requestId

/-- No caller is cancelled after its result is set, and no exchange ends
past its release. -/
def KeepsReservation (loads : Bytes → Except LoadsError PyJson.Json)
    (a : App) : AppEvent → Prop
  | .disconnect requestId => a.requestPool.NotAfterResult (.cancel requestId)
  | .upstream requestId event now =>
      ∀ x ∈ a.exchanges.get requestId,
        x.completion.keeps x.phase (x.note loads now event).2 = true
  | _ => True

instance (loads : Bytes → Except LoadsError PyJson.Json) (a : App) :
    ∀ event : AppEvent, Decidable (a.KeepsReservation loads event)
  | .disconnect requestId =>
      inferInstanceAs (Decidable (a.requestPool.NotAfterResult
        (.cancel requestId)))
  | .upstream requestId _ _ =>
      inferInstanceAs (Decidable (∀ x ∈ a.exchanges.get requestId, _))
  | .request _ _ | .resume _ _ | .get | .collect | .lookupReturned _
  | .lookupRaised _ | .listener _ _ | .poll _ _ _ | .stop | .stopped =>
      isTrue trivial

-- ============================================================ one state

/-- The pool has made one call for a request whose exchange has begun. -/
theorem Bookkept.callsOf (h : Bookkept a) {x : LiveExchange}
    (hx : a.exchanges.get requestId = some x) :
    a.requestPool.callsOf requestId = [x.completion.reserveCall] := by
  obtain ⟨caller, hget, htask⟩ := h.caller requestId x hx
  have hmatch := h.pool.callsMatch hget
  have hfuture : caller.future = .result x.completion.assignment := by
    have hfits := caller.fits
    rw [htask] at hfits
    exact hfits
  rw [hfuture] at hmatch
  exact hmatch

/-- One reservation at most, and at most one release after it. -/
theorem Bookkept.oneTicket (h : Bookkept a) (requestId : RequestId) :
    OneTicket (callsFor a.calls requestId) := by
  cases hx : a.exchanges.get requestId with
  | some x =>
      obtain hone | ⟨-, htwo⟩ := h.exchanged requestId x hx
      · exact .inr ⟨_, _, .inl hone⟩
      · exact .inr ⟨_, _, .inr htwo⟩
  | none =>
      rw [h.pooled requestId hx]
      cases hget : a.requestPool.callers.get requestId with
      | none => exact .inl (h.pool.unknown requestId hget)
      | some caller =>
          have hmatch := h.pool.callsMatch hget
          cases hfuture : caller.future with
          | pending =>
              rw [hfuture] at hmatch
              exact .inl hmatch
          | exception error =>
              rw [hfuture] at hmatch
              exact .inl hmatch
          | cancelled =>
              rw [hfuture] at hmatch
              obtain hnil | ⟨assignment, hpair⟩ := hmatch
              · exact .inl hnil
              · exact .inr ⟨_, _, .inr hpair⟩
          | result result =>
              rw [hfuture] at hmatch
              exact .inr ⟨_, _, .inl hmatch⟩

-- ========================================================= the pool's part

/-- The calls made for a request are those before and those just made. -/
theorem callsOf_step {event : PoolEvent} {pool : RequestPool}
    (hstep : a.requestPool.step event = some pool) (requestId : RequestId) :
    pool.callsOf requestId = a.requestPool.callsOf requestId
      ++ callsFor (a.callsMade pool) requestId := by
  have hmade : pool.calls = a.requestPool.calls ++ a.callsMade pool :=
    List.prefix_append_drop (RequestPool.step_calls hstep)
  unfold RequestPool.callsOf
  rw [hmade, callsFor_append]

/-- The pool has called for an exchange once, and does not call again. -/
theorem Bookkept.callsMade (h : Bookkept a) {event : PoolEvent}
    {pool : RequestPool} (hstep : a.requestPool.step event = some pool)
    {x : LiveExchange} (hx : a.exchanges.get requestId = some x) :
    callsFor (a.callsMade pool) requestId = [] := by
  obtain ⟨caller, hget, htask⟩ := h.caller requestId x hx
  have hmatch := (RequestPool.step_inv h.pool hstep).1.callsMatch
    (RequestPool.step_returned hstep hget htask)
  have hfits := caller.fits
  rw [htask] at hfits
  rw [show caller.future = _ from hfits] at hmatch
  have honce : pool.callsOf requestId = [x.completion.reserveCall] := hmatch
  rw [callsOf_step hstep, h.callsOf hx] at honce
  exact List.append_cancel_left honce

/-- A step of the pool that runs no caller on. -/
theorem Bookkept.ofPool (h : Bookkept a) {event : PoolEvent}
    (hstep : a.requestPool.step event = some a'.requestPool)
    (hresume : ∀ requestId, event ≠ .resume requestId)
    (hexchanges : a'.exchanges = a.exchanges)
    (hcalls : a'.calls = a.calls ++ a.callsMade a'.requestPool) :
    Bookkept a' := by
  have hreturned : ∀ requestId caller' result,
      a'.requestPool.callers.get requestId = some caller' →
      caller'.task = .returned result →
      a.requestPool.callers.get requestId = some caller' := by
    intro requestId caller' result hget htask
    cases RequestPool.step_caller hstep hget with
    | same hsame => exact hsame
    | new request _ _ hstart =>
        rw [hstart] at htask
        cases htask
    | cancelled caller _ _ hcancel =>
        -- a cancelled task has not returned
        obtain ⟨hpending, hcancelled⟩ | ⟨-, hmust⟩ :=
          Asyncio.Waiter.cancel_eq_some hcancel
        · have hfits := caller'.fits
          rw [htask, hcancelled] at hfits
          cases hfits
        · rw [hmust] at htask
          cases htask
    | resumed caller hown _ _ => exact absurd hown (hresume requestId)
    | answered caller _ _ hawaiting =>
        rw [hawaiting] at htask
        cases htask
  refine ⟨(RequestPool.step_inv h.pool hstep).1, fun requestId hx => ?_,
    fun requestId hx caller hget result htask => ?_, fun requestId x hx => ?_,
    fun requestId x hx => ?_⟩
  · rw [hexchanges] at hx
    rw [hcalls, callsFor_append, h.pooled requestId hx, callsOf_step hstep]
  · rw [hexchanges] at hx
    exact h.returned requestId hx caller
      (hreturned requestId caller result hget htask) result htask
  · rw [hexchanges] at hx
    obtain ⟨caller, hget, htask⟩ := h.caller requestId x hx
    exact ⟨caller, RequestPool.step_returned hstep hget htask, htask⟩
  · rw [hexchanges] at hx
    rw [hcalls, callsFor_append, h.callsMade hstep hx, List.append_nil]
    exact h.exchanged requestId x hx

/-- A task that runs on had not returned, so it had no exchange. -/
theorem Bookkept.resumed (h : Bookkept a) {caller caller' : Caller}
    (hget : a.requestPool.callers.get requestId = some caller)
    (hresume : caller.resume = some caller') :
    a.exchanges.get requestId = none := by
  cases hx : a.exchanges.get requestId with
  | none => rfl
  | some x =>
      obtain ⟨caller₀, hget₀, htask⟩ := h.caller requestId x hx
      rw [hget] at hget₀
      injection hget₀ with hget₀
      unfold Asyncio.Waiter.resume at hresume
      rw [hget₀, htask] at hresume
      cases hresume

/-- A caller that runs on makes no call. -/
theorem Bookkept.ofResume (h : Bookkept a)
    (hstep : a.requestPool.step (.resume requestId) = some a'.requestPool)
    (hcalls : a'.calls = a.calls)
    (hframe : ∀ id, id ≠ requestId →
      a'.exchanges.get id = a.exchanges.get id)
    (hreturns : ∀ caller result,
      a'.requestPool.callers.get requestId = some caller →
      caller.task = .returned result →
      ∃ x, a'.exchanges.get requestId = some x ∧ x.phase = .opening ∧
        x.completion.assignment = result)
    (hraises : ∀ caller,
      a'.requestPool.callers.get requestId = some caller →
      (∀ result, caller.task ≠ .returned result) →
      a'.exchanges.get requestId = a.exchanges.get requestId) :
    Bookkept a' := by
  have hpool := (RequestPool.step_inv h.pool hstep).1
  obtain ⟨caller, caller', hget, hresume, hset⟩ :=
    RequestPool.resume_eq_some hstep
  have hnew : a'.requestPool.callers.get requestId = some caller' := by
    rw [hset]
    exact PyDict.get_set_self _ _ _
  have hothers : ∀ id, id ≠ requestId → a'.requestPool.callers.get id
      = a.requestPool.callers.get id := fun id hne => by
    rw [hset]
    exact PyDict.get_set_of_ne _ hne _
  have hcallsOf : ∀ id, a'.requestPool.callsOf id = a.requestPool.callsOf id :=
    fun id => by rw [hset]; rfl
  -- who has not run on has no exchange yet
  have hbefore := h.resumed hget hresume
  have hbeforeCalls := h.pooled requestId hbefore
  -- each of the four is shown for the caller that ran on and, unchanged, for
  -- all others
  refine ⟨hpool, fun id hx => ?_, fun id hx other hother result htask => ?_,
    fun id x hx => ?_, fun id x hx => ?_⟩
  · rw [hcalls, hcallsOf]
    by_cases hid : id = requestId
    · rw [hid]
      exact hbeforeCalls
    · rw [hframe id hid] at hx
      exact h.pooled id hx
  · by_cases hid : id = requestId
    · subst hid
      obtain ⟨x, hx', -⟩ := hreturns other result hother htask
      rw [hx] at hx'
      cases hx'
    · rw [hframe id hid] at hx
      rw [hothers id hid] at hother
      exact h.returned id hx other hother result htask
  · by_cases hid : id = requestId
    · subst hid
      by_cases htask : ∃ result, caller'.task = .returned result
      · obtain ⟨result, htask⟩ := htask
        obtain ⟨x', hx', -, hassignment⟩ := hreturns caller' result hnew htask
        rw [hx] at hx'
        injection hx' with hx'
        subst hx'
        exact ⟨caller', hnew, by rw [htask, hassignment]⟩
      · rw [hraises caller' hnew fun result hr => htask ⟨result, hr⟩,
          hbefore] at hx
        cases hx
    · rw [hframe id hid] at hx
      rw [hothers id hid]
      exact h.caller id x hx
  · by_cases hid : id = requestId
    · subst hid
      by_cases htask : ∃ result, caller'.task = .returned result
      · obtain ⟨result, htask⟩ := htask
        obtain ⟨x', hx', -, hassignment⟩ := hreturns caller' result hnew htask
        rw [hx] at hx'
        injection hx' with hx'
        subst hx'
        refine .inl ?_
        -- the only call made for it is the reservation of its plan
        have hmatch := hpool.callsMatch hnew
        have hfits := caller'.fits
        rw [htask] at hfits
        rw [show caller'.future = _ from hfits, ← hassignment] at hmatch
        rw [hcalls, hbeforeCalls, ← hcallsOf]
        exact hmatch
      · rw [hraises caller' hnew fun result hr => htask ⟨result, hr⟩,
          hbefore] at hx
        cases hx
    · rw [hframe id hid] at hx
      rw [hcalls]
      exact h.exchanged id x hx

-- ===================================================== an exchange's part

/-- A step of an exchange: it goes on, or is over, with its release or
without. -/
theorem Bookkept.ofExchange (h : Bookkept a) {x x' : LiveExchange}
    {event : ExchangeEvent} {next : Phase × Bool}
    (hx : a.exchanges.get requestId = some x)
    (hcompletion : x'.completion = x.completion)
    (hnext : x.completion.step x.phase event = some next)
    (hphase : x'.phase = next.1)
    (hpool : a'.requestPool = a.requestPool)
    (hexchanges : a'.exchanges = a.exchanges.set requestId x')
    (hcalls : a'.calls = a.calls
      ++ if next.2 then [(requestId, x.completion.releaseCall)] else []) :
    Bookkept a' := by
  obtain ⟨hunfinished, hspec⟩ := Completion.step_spec hnext
  have hother : ∀ id, id ≠ requestId →
      a'.exchanges.get id = a.exchanges.get id := fun id hne => by
    rw [hexchanges]
    exact PyDict.get_set_of_ne _ hne _
  have hself : a'.exchanges.get requestId = some x' := by
    rw [hexchanges]
    exact PyDict.get_set_self _ _ _
  have hothers : ∀ id, id ≠ requestId →
      callsFor a'.calls id = callsFor a.calls id := fun id hne => by
    rw [hcalls, callsFor_append]
    cases next.2 <;> simp [callsFor, Ne.symm hne]
  -- an exchange that goes on has made no call
  have hbefore : callsFor a.calls requestId = [x.completion.reserveCall] :=
    (h.exchanged requestId x hx).resolve_right
      fun hfinished => hunfinished hfinished.1
  have hafter : callsFor a'.calls requestId = x.completion.reserveCall
      :: if next.2 then [x.completion.releaseCall] else [] := by
    rw [hcalls, callsFor_append, hbefore]
    cases next.2 <;> simp [callsFor]
  refine ⟨hpool ▸ h.pool, fun id hid => ?_, fun id hid caller hget => ?_,
    fun id y hy => ?_, fun id y hy => ?_⟩
  · have hne : id ≠ requestId := by
      intro heq
      rw [heq, hself] at hid
      cases hid
    rw [hother id hne] at hid
    rw [hothers id hne, hpool]
    exact h.pooled id hid
  · have hne : id ≠ requestId := by
      intro heq
      rw [heq, hself] at hid
      cases hid
    rw [hother id hne] at hid
    rw [hpool] at hget
    exact h.returned id hid caller hget
  · rw [hpool]
    by_cases hid : id = requestId
    · rw [hid, hself] at hy
      injection hy with hy
      rw [hid, ← hy, hcompletion]
      exact h.caller requestId x hx
    · rw [hother id hid] at hy
      exact h.caller id y hy
  · by_cases hid : id = requestId
    · rw [hid, hself] at hy
      injection hy with hy
      rw [hid, ← hy, hcompletion, hafter]
      obtain ⟨hreleased, -⟩ | ⟨hlost, -⟩ | ⟨-, hnone, -⟩ := hspec
      · rw [hphase, hreleased]
        exact .inr ⟨rfl, rfl⟩
      · rw [hlost]
        exact .inl rfl
      · rw [hnone]
        exact .inl rfl
    · rw [hother id hid] at hy
      rw [hothers id hid]
      exact h.exchanged id y hy

/-- What is done to the tracker alone. -/
theorem Bookkept.ofTracker (h : Bookkept a)
    (hpool : a'.requestPool = a.requestPool)
    (hexchanges : a'.exchanges = a.exchanges) (hcalls : a'.calls = a.calls) :
    Bookkept a' := by
  obtain ⟨hinv, hpooled, hreturned, hcaller, hexchanged⟩ := h
  rw [← hpool, ← hexchanges] at hreturned hcaller
  rw [← hpool, ← hexchanges, ← hcalls] at hpooled
  rw [← hexchanges, ← hcalls] at hexchanged
  exact ⟨hpool ▸ hinv, hpooled, hreturned, hcaller, hexchanged⟩

-- ================================================================ steps

section Steps

variable {blake2b : List UInt8 → List UInt8}
  {decode : Bytes → Option RawMapEventBatch}
  {loads : Bytes → Except LoadsError PyJson.Json}
  {replayEndpoint : NodeId → Bool} {event : AppEvent}

/-- What a step is to the pool. -/
def poolEvent (blake2b : List UInt8 → List UInt8) (a : App) :
    AppEvent → Option PoolEvent
  | .request request _ => some (.assign request)
  | .disconnect requestId => some (.cancel requestId)
  | .resume requestId _ => some (.resume requestId)
  | .get => some .get
  | .collect => some .collect
  | .lookupReturned found =>
      match a.requestPool.worker with
      | .planning group =>
          some (planEvent (a.routePlanner.selectOrRaise blake2b group found).2)
      | _ => none
  | .lookupRaised error => some (.planFailed error)
  | .upstream _ _ _ | .listener _ _ | .poll _ _ _ => none
  | .stop => some .stop
  | .stopped => some .stopped

section PlanEvent

variable (selected : Except PyException (PyDict RequestId RouteAssignment))

/-- The end of a plan is one of the events that end a round, and none of
these. -/
theorem planEvent_ne_assign (request : SchedulerRequest) :
    planEvent selected ≠ .assign request := by
  cases selected <;> exact PoolEvent.noConfusion

theorem planEvent_ne_resume (requestId : RequestId) :
    planEvent selected ≠ .resume requestId := by
  cases selected <;> exact PoolEvent.noConfusion

theorem planEvent_ne_stop : planEvent selected ≠ .stop := by
  cases selected <;> exact PoolEvent.noConfusion

theorem planEvent_ne_stopped : planEvent selected ≠ .stopped := by
  cases selected <;> exact PoolEvent.noConfusion

end PlanEvent

/-- A plan is committed only for assignments that were chosen. -/
theorem planEvent_planned
    {selected : Except PyException (PyDict RequestId RouteAssignment)}
    {assignments : PyDict RequestId RouteAssignment}
    (h : planEvent selected = .planned assignments) :
    selected = .ok assignments := by
  cases selected with
  | ok chosen =>
      injection h with h
      rw [h]
  | error error => cases h

/-- A step of the pool, in the app. -/
structure PoolPart (a : App) (event : PoolEvent) (a' : App) : Prop where
  step : a.requestPool.step event = some a'.requestPool
  calls : a'.calls = a.calls ++ a.callsMade a'.requestPool
  control : a'.control = a.control
  tracker : ∃ found, a'.tracker
    = (a.routePlanner.trackerAfter found).runCalls
        ((a.callsMade a'.requestPool).map Prod.snd)
  exchanges : (∀ requestId, event ≠ .resume requestId) →
    a'.exchanges = a.exchanges
  handlers : ∀ requestId, (∃ handler, a.handlers.get requestId = some handler)
      ∨ (∃ request, event = .assign request ∧ request.requestId = requestId) →
    ∃ handler, a'.handlers.get requestId = some handler

/-- What an event of the pool leaves of the rest of the process. -/
theorem poolStep_part {planner : RoutePlanner} {pe : PoolEvent}
    (hstep : a.poolStep planner pe = some a')
    (htracker : ∃ found, planner.tracker = a.routePlanner.trackerAfter found)
    (hassign : ∀ request, pe ≠ .assign request) : PoolPart a pe a' := by
  obtain ⟨pool, hpool, rfl⟩ := Option.map_eq_some_iff.mp hstep
  obtain ⟨found, hfound⟩ := htracker
  refine ⟨hpool, rfl, rfl, ⟨found, ?_⟩, fun _ => rfl, fun requestId hor => ?_⟩
  · rw [← hfound]
    rfl
  · obtain hhandler | ⟨request, heq, -⟩ := hor
    · exact hhandler
    · exact absurd heq (hassign request)

/-- What a step that the pool takes part in does. -/
theorem step_pool {pe : PoolEvent}
    (hstep : a.step blake2b decode loads replayEndpoint event = some a')
    (hpe : a.poolEvent blake2b event = some pe) : PoolPart a pe a' := by
  have hsame : ∃ found, a.routePlanner.tracker
      = a.routePlanner.trackerAfter found := ⟨none, rfl⟩
  cases event with
  | request request handler =>
      injection hpe with hpe
      subst hpe
      obtain ⟨a₁, hpool, rfl⟩ := Option.map_eq_some_iff.mp hstep
      obtain ⟨pool, hrun, rfl⟩ := Option.map_eq_some_iff.mp hpool
      refine ⟨hrun, rfl, rfl, ⟨none, rfl⟩, fun _ => rfl, fun id hor => ?_⟩
      dsimp only
      rw [PyDict.get_set]
      split
      next => exact ⟨handler, rfl⟩
      next hne =>
        obtain hhandler | ⟨request', heq, hid⟩ := hor
        · exact hhandler
        · injection heq with heq
          exact absurd (heq ▸ hid.symm) hne
  | resume requestId times =>
      injection hpe with hpe
      subst hpe
      obtain ⟨a₁, hpool, rfl⟩ := Option.map_eq_some_iff.mp hstep
      have hpart := poolStep_part hpool hsame fun _ => PoolEvent.noConfusion
      obtain ⟨hrun, hcalls, hcontrol, htracker, -, hhandlers⟩ := hpart
      -- going on from `assign` begins an exchange at most
      have hafter : ∃ exchanges,
          a₁.afterAssign requestId times = { a₁ with exchanges } := by
        unfold afterAssign
        split
        · split
          · exact ⟨_, rfl⟩
          · exact ⟨_, rfl⟩
        · exact ⟨_, rfl⟩
      obtain ⟨exchanges, hafter⟩ := hafter
      rw [hafter]
      exact ⟨hrun, hcalls, hcontrol, htracker,
        fun hne => absurd rfl (hne requestId), hhandlers⟩
  | lookupReturned found =>
      simp only [poolEvent, step] at hpe hstep
      split at hpe
      next group hworker =>
        rw [hworker] at hstep
        injection hpe with hpe
        subst hpe
        exact poolStep_part hstep ⟨found, rfl⟩ (planEvent_ne_assign _)
      next => cases hpe
  -- the other three are no events of the pool
  | upstream => cases hpe
  | listener => cases hpe
  | poll => cases hpe
  | _ =>
      injection hpe with hpe
      subst hpe
      exact poolStep_part hstep hsame fun _ => PoolEvent.noConfusion

/-- What a step of another task does: one exchange goes on, or one node's
entry and listener change. -/
inductive OwnPart (loads : Bytes → Except LoadsError PyJson.Json)
    (decode : Bytes → Option RawMapEventBatch)
    (replayEndpoint : NodeId → Bool) (a : App) : AppEvent → App → Prop
  | exchange (requestId : RequestId) (event : UpstreamEvent) (now : ℚ)
      (x : LiveExchange) (next : Phase × Bool)
      (get : a.exchanges.get requestId = some x)
      (step : x.completion.step x.phase (x.note loads now event).2 = some next) :
      OwnPart loads decode replayEndpoint a (.upstream requestId event now)
        (a.exchanged requestId (x.note loads now event).1 next)
  | listener (nodeId : NodeId) (event : NodeEvent) (l : Listener)
      (mc : Move × Control) (get : a.listener nodeId = some l)
      (move : l.move (replayEndpoint nodeId) event = some mc) :
      OwnPart loads decode replayEndpoint a (.listener nodeId event)
        { a.onTracker (·.onNode nodeId (·.act decode mc.1)) with
          control := Function.update a.control nodeId mc.2 }
  | poll (nodeId : NodeId) (processStartSamples : List ℚ) (f : PollFigures) :
      OwnPart loads decode replayEndpoint a
        (.poll nodeId processStartSamples f)
        (a.onTracker (·.onNode nodeId (·.poll processStartSamples f)))

/-- A step without the pool. -/
theorem step_own (hstep : a.step blake2b decode loads replayEndpoint event
      = some a') (hpe : a.poolEvent blake2b event = none) :
    OwnPart loads decode replayEndpoint a event a' := by
  cases event with
  | upstream requestId event now =>
      obtain ⟨x, hx, hstep⟩ := Option.bind_eq_some_iff.mp hstep
      obtain ⟨next, hnext, hstep⟩ := Option.map_eq_some_iff.mp hstep
      have hnote := x.note_toExchange loads now event
      have hcompletion : (x.note loads now event).1.completion = x.completion :=
        congrArg Exchange.completion hnote
      have hphase : (x.note loads now event).1.phase = x.phase :=
        congrArg Exchange.phase hnote
      rw [hcompletion, hphase] at hnext
      rw [← hstep]
      exact .exchange requestId event now x next hx hnext
  | listener nodeId event =>
      obtain ⟨mc, hmove, hstep⟩ := Option.map_eq_some_iff.mp hstep
      obtain ⟨l, hl, hmove⟩ := Option.bind_eq_some_iff.mp hmove
      rw [← hstep]
      exact .listener nodeId event l mc hl hmove
  | poll nodeId processStartSamples f =>
      injection hstep with hstep
      rw [← hstep]
      exact .poll nodeId processStartSamples f
  | lookupReturned found =>
      simp only [poolEvent, step] at hpe hstep
      split at hpe
      next group hworker =>
        cases hpe
      next hworker =>
        split at hstep
        next group hplanning => exact absurd hplanning (hworker group)
        next => cases hstep
  | _ => cases hpe


-- ============================================================ invariant

/-- What `afterAssign` does. -/
structure Begins (a : App) (requestId : RequestId)
    (exchanges : PyDict RequestId LiveExchange) : Prop where
  other : ∀ id, id ≠ requestId → exchanges.get id = a.exchanges.get id
  returned : ∀ caller result, a.requestPool.callers.get requestId = some caller →
    caller.task = .returned result →
    ∃ x, exchanges.get requestId = some x ∧ x.phase = .opening ∧
      x.completion.assignment = result
  began : ∀ x, exchanges.get requestId = some x →
    a.exchanges.get requestId = some x ∨
      (x.phase = .opening ∧ x.firstOutputAt = none)
  raised : ∀ caller, a.requestPool.callers.get requestId = some caller →
    (∀ result, caller.task ≠ .returned result) →
    exchanges.get requestId = a.exchanges.get requestId

/-- A handler whose `assign` has returned begins its exchange, or raises and
begins none. -/
theorem afterAssign_begins (h : Handled a) (requestId : RequestId)
    (times : PlanningTimes) :
    ∃ exchanges, a.afterAssign requestId times = { a with exchanges } ∧
      Begins a requestId exchanges := by
  unfold afterAssign
  cases hget : a.requestPool.callers.get requestId with
  | none =>
      refine ⟨a.exchanges, rfl, fun _ _ => rfl, fun caller _ hcaller => ?_,
        fun _ hx => .inl hx, fun _ _ _ => rfl⟩
      rw [hget] at hcaller
      cases hcaller
  | some caller =>
      obtain ⟨handler, hhandler⟩ := h requestId caller hget
      rw [hhandler]
      dsimp only
      split
      -- `assign` has returned: a new exchange, at its beginning
      next assignment htask =>
        refine ⟨_, rfl, fun id hne => PyDict.get_set_of_ne _ hne _,
          fun caller' result hcaller hreturned => ?_, fun x hx => ?_,
          fun caller' hcaller hraised => ?_⟩
        · rw [hget] at hcaller
          injection hcaller with hcaller
          rw [← hcaller, htask] at hreturned
          injection hreturned with hreturned
          exact ⟨_, PyDict.get_set_self _ _ _, rfl, hreturned⟩
        · rw [PyDict.get_set_self] at hx
          injection hx with hx
          rw [← hx]
          exact .inr ⟨rfl, rfl⟩
        · rw [hget] at hcaller
          injection hcaller with hcaller
          exact absurd (hcaller ▸ htask) (hraised assignment)
      -- it has raised, or still waits
      next hno =>
        refine ⟨a.exchanges, rfl, fun _ _ => rfl,
          fun caller' result hcaller hreturned => ?_, fun _ hx => .inl hx,
          fun _ _ _ => rfl⟩
        rw [hget] at hcaller
        injection hcaller with hcaller
        exact absurd (hcaller ▸ hreturned) (hno result)

/-- Handlers stay, and a new caller comes with one. -/
theorem Handled.ofPool {pe : PoolEvent} (h : Handled a)
    (hpart : PoolPart a pe a') : Handled a' := by
  intro requestId caller' hget
  apply hpart.handlers
  cases RequestPool.step_caller hpart.step hget with
  | same hsame => exact .inl (h requestId caller' hsame)
  | new request hassign hown _ => exact .inr ⟨request, hassign, hown⟩
  | cancelled caller _ hcaller _ => exact .inl (h requestId caller hcaller)
  | resumed caller _ hcaller _ => exact .inl (h requestId caller hcaller)
  | answered caller hcaller _ _ => exact .inl (h requestId caller hcaller)

/-- Where an exchange and its calls stay. -/
theorem exchangeAt_congr {holds : LiveExchange → List RouteCall → Prop}
    (hexchange : a'.exchanges.get requestId = a.exchanges.get requestId)
    (hcalls : ∀ x, a.exchanges.get requestId = some x →
      callsFor a'.calls requestId = callsFor a.calls requestId) :
    a'.ExchangeAt requestId holds ↔ a.ExchangeAt requestId holds := by
  unfold ExchangeAt
  rw [hexchange]
  constructor
  · rintro ⟨x, hx, hholds⟩
    exact ⟨x, hx, hcalls x hx ▸ hholds⟩
  · rintro ⟨x, hx, hholds⟩
    exact ⟨x, hx, (hcalls x hx).symm ▸ hholds⟩

/-- For what the pool takes part in, the condition is the pool's. -/
theorem keepsReservation_iff {pe : PoolEvent}
    (hpe : a.poolEvent blake2b event = some pe) :
    a.KeepsReservation loads event ↔ a.requestPool.NotAfterResult pe := by
  cases event with
  | lookupReturned found =>
      simp only [poolEvent] at hpe
      split at hpe
      next group _ =>
        injection hpe with hpe
        subst hpe
        cases (a.routePlanner.selectOrRaise blake2b group found).2 with
        | ok assignments => exact Iff.rfl
        | error error => exact Iff.rfl
      next => cases hpe
  | upstream => cases hpe
  | listener => cases hpe
  | poll => cases hpe
  | _ =>
      injection hpe with hpe
      subst hpe
      exact Iff.rfl

/-- A step of the pool that runs no caller on leaves the exchanges. -/
theorem Bookkept.pool_exchangeAt (h : Bookkept a) {pe : PoolEvent}
    (hpart : PoolPart a pe a') (hresume : ∀ requestId, pe ≠ .resume requestId)
    (requestId : RequestId) (holds : LiveExchange → List RouteCall → Prop) :
    a'.ExchangeAt requestId holds ↔ a.ExchangeAt requestId holds := by
  apply exchangeAt_congr
  · rw [hpart.exchanges hresume]
  · intro x hx
    rw [hpart.calls, callsFor_append, h.callsMade hpart.step hx,
      List.append_nil]

/-- What `resume` does, taken apart: the pool's step, then the handler's. -/
theorem step_resume {times : PlanningTimes} (hh : Handled a)
    (hstep : a.step blake2b decode loads replayEndpoint (.resume requestId times)
      = some a') :
    ∃ a₁ exchanges, PoolPart a (.resume requestId) a₁ ∧ a₁.calls = a.calls ∧
      a₁.exchanges = a.exchanges ∧ Begins a₁ requestId exchanges ∧
      a' = { a₁ with exchanges } := by
  obtain ⟨a₁, hpool, rfl⟩ := Option.map_eq_some_iff.mp hstep
  have hpart := poolStep_part hpool ⟨none, rfl⟩ fun _ => PoolEvent.noConfusion
  obtain ⟨exchanges, hafter, hbegins⟩ :=
    afterAssign_begins (hh.ofPool hpart) requestId times
  refine ⟨a₁, exchanges, hpart, ?_, ?_, hbegins, hafter⟩
  · obtain ⟨caller, caller', -, -, hset⟩ :=
      RequestPool.resume_eq_some hpart.step
    have hnone : a.callsMade a₁.requestPool = [] := by
      unfold callsMade
      rw [hset]
      exact List.drop_length
    rw [hpart.calls, hnone, List.append_nil]
  · obtain ⟨pool, -, rfl⟩ := Option.map_eq_some_iff.mp hpool
    rfl

/-- A caller that runs on may begin an exchange, and that is all. -/
theorem Bookkept.resume (h : Bookkept a) (hh : Handled a)
    {times : PlanningTimes}
    (hstep : a.step blake2b decode loads replayEndpoint (.resume requestId times)
      = some a') :
    Bookkept a' ∧ ∀ id holds,
      (∀ x calls, holds x calls → x.phase ≠ .opening) →
      (a'.ExchangeAt id holds ↔ a.ExchangeAt id holds) := by
  obtain ⟨a₁, exchanges, hpart, hcalls, hexchanges, hbegins, rfl⟩ :=
    step_resume hh hstep
  have hraises : ∀ caller,
      a₁.requestPool.callers.get requestId = some caller →
      (∀ result, caller.task ≠ .returned result) →
      exchanges.get requestId = a.exchanges.get requestId :=
    fun caller hcaller hraised => by
      rw [hbegins.raised caller hcaller hraised, hexchanges]
  refine ⟨h.ofResume hpart.step hcalls (fun id hne => ?_) hbegins.returned
    hraises, fun id holds hopening => ?_⟩
  · rw [← hexchanges]
    exact hbegins.other id hne
  · by_cases hid : id = requestId
    · -- there was no exchange, and a new one is at its beginning
      obtain ⟨caller, caller', hget, hresume, hset⟩ :=
        RequestPool.resume_eq_some hpart.step
      have hbefore := h.resumed hget hresume
      have hnew : a₁.requestPool.callers.get requestId = some caller' := by
        rw [hset]
        exact PyDict.get_set_self _ _ _
      rw [hid]
      refine iff_of_false ?_ ?_
      · rintro ⟨x, hx, hholds⟩
        by_cases htask : ∃ result, caller'.task = .returned result
        · obtain ⟨result, htask⟩ := htask
          obtain ⟨x', hx', hphase, -⟩ :=
            hbegins.returned caller' result hnew htask
          rw [show exchanges.get requestId = some x from hx] at hx'
          injection hx' with hx'
          exact hopening x _ hholds (hx' ▸ hphase)
        · rw [show exchanges.get requestId = some x from hx, hbefore] at hraises
          cases hraises caller' hnew fun result hr => htask ⟨result, hr⟩
      · rintro ⟨x, hx, -⟩
        rw [hbefore] at hx
        cases hx
    · refine exchangeAt_congr ?_ fun x _ => ?_
      · rw [← hexchanges]
        exact hbegins.other id hid
      · exact congrArg (callsFor · id) hcalls

/-- Only a handler that runs on resumes a caller. -/
theorem poolEvent_ne_resume {pe : PoolEvent}
    (hpe : a.poolEvent blake2b event = some pe)
    (hne : ∀ requestId times, event ≠ .resume requestId times)
    (requestId : RequestId) : pe ≠ .resume requestId := by
  rintro rfl
  cases event with
  | resume requestId times => exact hne _ _ rfl
  | lookupReturned found =>
      simp only [poolEvent] at hpe
      split at hpe
      next =>
        injection hpe with hpe
        exact planEvent_ne_resume _ _ hpe
      next => cases hpe
  | _ => cases hpe

/-- A step the pool takes part in leaves the exchanges, but for one that
begins. -/
theorem Bookkept.pool_step (h : Bookkept a) (hh : Handled a) {pe : PoolEvent}
    (hstep : a.step blake2b decode loads replayEndpoint event = some a')
    (hpe : a.poolEvent blake2b event = some pe) :
    Bookkept a' ∧ ∀ id holds,
      (∀ x calls, holds x calls → x.phase ≠ .opening) →
      (a'.ExchangeAt id holds ↔ a.ExchangeAt id holds) := by
  have hpart := step_pool hstep hpe
  by_cases hresume : ∃ requestId times, event = .resume requestId times
  · obtain ⟨requestId, times, rfl⟩ := hresume
    exact h.resume hh hstep
  · have hno := poolEvent_ne_resume hpe fun id times heq =>
      hresume ⟨id, times, heq⟩
    exact ⟨h.ofPool hpart.step hno (hpart.exchanges hno) hpart.calls,
      fun id holds _ => h.pool_exchangeAt hpart hno id holds⟩

/-- What an exchange does to the calls. -/
theorem exchanged_calls (a : App) (requestId : RequestId) (x : LiveExchange)
    (next : Phase × Bool) :
    (a.exchanged requestId x next).calls = a.calls
      ++ if next.2 then [(requestId, x.completion.releaseCall)] else [] := by
  unfold exchanged
  cases next.2 with
  | true => rfl
  | false => exact (List.append_nil _).symm

/-- A step of an exchange changes that exchange only. -/
theorem exchanged_exchanges (a : App) (requestId : RequestId)
    (x : LiveExchange) (next : Phase × Bool) :
    (a.exchanged requestId x next).exchanges
      = a.exchanges.set requestId { x with phase := next.1 } := by
  unfold exchanged
  cases next.2 <;> rfl

theorem exchanged_requestPool (a : App) (requestId : RequestId)
    (x : LiveExchange) (next : Phase × Bool) :
    (a.exchanged requestId x next).requestPool = a.requestPool := by
  unfold exchanged
  cases next.2 <;> rfl

theorem exchanged_handlers (a : App) (requestId : RequestId)
    (x : LiveExchange) (next : Phase × Bool) :
    (a.exchanged requestId x next).handlers = a.handlers := by
  unfold exchanged
  cases next.2 <;> rfl

/-- An exchange leaves the others. -/
theorem exchanged_exchangeAt (a : App) (x : LiveExchange)
    (next : Phase × Bool) {id : RequestId} (hne : id ≠ requestId)
    (holds : LiveExchange → List RouteCall → Prop) :
    (a.exchanged requestId x next).ExchangeAt id holds
      ↔ a.ExchangeAt id holds := by
  apply exchangeAt_congr
  · rw [exchanged_exchanges]
    exact PyDict.get_set_of_ne _ hne _
  · intro y _
    rw [exchanged_calls, callsFor_append]
    cases next.2 <;> simp [callsFor, Ne.symm hne]

/-- An exchange that is not over has its reservation only, and adds its
release where it ends with one. -/
theorem Bookkept.callsFor_exchanged (h : Bookkept a) {event : ExchangeEvent}
    {x x' : LiveExchange} {next : Phase × Bool}
    (hx : a.exchanges.get requestId = some x)
    (hcompletion : x'.completion = x.completion)
    (hnext : x.completion.step x.phase event = some next) :
    callsFor (a.exchanged requestId x' next).calls requestId
      = x.completion.reserveCall
        :: if next.2 then [x.completion.releaseCall] else [] := by
  have hbefore : callsFor a.calls requestId = [x.completion.reserveCall] :=
    (h.exchanged requestId x hx).resolve_right
      fun hfinished => (Completion.step_spec hnext).1 hfinished.1
  rw [exchanged_calls, hcompletion, callsFor_append, hbefore]
  cases next.2 <;> simp [callsFor]

/-- An exchange that goes on, or ends with its release or without. -/
theorem Bookkept.exchange (h : Bookkept a) {event : UpstreamEvent} {now : ℚ}
    {x : LiveExchange} {next : Phase × Bool}
    (hx : a.exchanges.get requestId = some x)
    (hnext : x.completion.step x.phase (x.note loads now event).2 = some next) :
    Bookkept (a.exchanged requestId (x.note loads now event).1 next) ∧
      ((∃ id, (a.exchanged requestId (x.note loads now event).1 next).LeaksAt id)
        ↔ (∃ id, a.LeaksAt id) ∨
          ¬ a.KeepsReservation loads (.upstream requestId event now)) := by
  have hnote : (x.note loads now event).1.completion = x.completion :=
    congrArg Exchange.completion (x.note_toExchange loads now event)
  generalize hnoted : (x.note loads now event).1 = noted at hnote
  have hcalls := a.exchanged_calls requestId noted next
  have hexchanges := a.exchanged_exchanges requestId noted next
  have hpool := a.exchanged_requestPool requestId noted next
  rw [hnote] at hcalls
  obtain ⟨hunfinished, hspec⟩ := Completion.step_spec hnext
  -- it cannot have leaked before: it was not finished
  have hnotBefore : ¬ a.LeaksAt requestId := by
    rintro ⟨y, hy, hfinished, -⟩
    rw [hx] at hy
    injection hy with hy
    exact hunfinished (hy ▸ hfinished)
  have hself : (a.exchanged requestId noted next).exchanges.get requestId
      = some { noted with phase := next.1 } := by
    rw [hexchanges]
    exact PyDict.get_set_self _ _ _
  have hafter := h.callsFor_exchanged hx hnote hnext
  have hothers : ∀ id, id ≠ requestId →
      ((a.exchanged requestId noted next).LeaksAt id ↔ a.LeaksAt id) :=
    fun id hne => a.exchanged_exchangeAt noted next hne Leaks
  -- `KeepsReservation` is about this exchange and what the detector made of
  -- the event
  have hkeeps : a.KeepsReservation loads (.upstream requestId event now)
      ↔ x.completion.keeps x.phase (x.note loads now event).2 = true := by
    show (∀ y ∈ a.exchanges.get requestId, _) ↔ _
    rw [hx]
    exact ⟨fun hall => hall x rfl, fun hkeep y hy => by
      injection hy with hy
      exact hy ▸ hkeep⟩
  -- by what the step does: releasing adds the second call, losing ends with
  -- the first alone, and going on does not end
  have hleaks : (a.exchanged requestId noted next).LeaksAt requestId
      ↔ ¬ a.KeepsReservation loads (.upstream requestId event now) := by
    rw [hkeeps]
    obtain ⟨hreleased, hkeep⟩ | ⟨hlost, hkeep⟩ | ⟨hgoes, hnone, hkeep⟩ := hspec
    · refine iff_of_false ?_ fun hbad => hbad hkeep
      rintro ⟨y, -, -, hone⟩
      rw [hafter, hreleased] at hone
      exact List.cons_ne_nil _ _ (List.cons.inj hone).2
    · refine iff_of_true ⟨_, hself, ?_, ?_⟩ (Bool.eq_false_iff.mp hkeep)
      · rw [hlost]
      · rw [hafter, hlost, hnote]
        rfl
    · refine iff_of_false ?_ fun hbad => hbad hkeep
      rintro ⟨y, hy, hfinished, -⟩
      rw [hself] at hy
      injection hy with hy
      rw [← hy] at hfinished
      exact hgoes hfinished
  have hcompletion : ({ noted with phase := next.1 } : LiveExchange).completion
      = x.completion := hnote
  refine ⟨h.ofExchange hx hcompletion hnext rfl hpool hexchanges hcalls, ?_⟩
  constructor
  · rintro ⟨id, hid⟩
    by_cases heq : id = requestId
    · exact .inr (hleaks.mp (heq ▸ hid))
    · exact .inl ⟨id, (hothers id heq).mp hid⟩
  · rintro (⟨id, hid⟩ | hbad)
    · refine ⟨id, (hothers id ?_).mpr hid⟩
      rintro rfl
      exact hnotBefore hid
    · exact ⟨requestId, hleaks.mpr hbad⟩

/-- One event: the books stay in order, and a reservation is abandoned
exactly by a step that does not keep it. -/
theorem step_books (h : Bookkept a) (hh : Handled a)
    (hstep : a.step blake2b decode loads replayEndpoint event = some a') :
    Bookkept a' ∧ Handled a' ∧
      (a'.Abandons ↔ a.Abandons ∨ ¬ a.KeepsReservation loads event) := by
  unfold Abandons
  cases hpe : a.poolEvent blake2b event with
  | some pe =>
      have hpart := step_pool hstep hpe
      have hloses := (RequestPool.step_inv h.pool hpart.step).2
      obtain ⟨hbooks, hexchanges⟩ := h.pool_step hh hstep hpe
      have hleaks : ∀ id, a'.LeaksAt id ↔ a.LeaksAt id := fun id =>
        hexchanges id Leaks fun x calls hleaks => by
          rw [hleaks.1]
          exact Phase.noConfusion
      refine ⟨hbooks, hh.ofPool hpart, ?_⟩
      rw [hloses, keepsReservation_iff hpe, exists_congr hleaks]
      tauto
  | none =>
      cases step_own hstep hpe with
      | exchange requestId event now x next hx hnext =>
          obtain ⟨hbook, hleaks⟩ := h.exchange hx hnext
          refine ⟨hbook, ?_, ?_⟩
          · unfold Handled
            rw [exchanged_requestPool, exchanged_handlers]
            exact hh
          · rw [hleaks, exchanged_requestPool]
            exact or_assoc.symm
      | listener nodeId event l mc _ _ =>
          refine ⟨h.ofTracker rfl rfl rfl, hh, ?_⟩
          exact ⟨.inl, fun hor => hor.resolve_right fun hno => hno trivial⟩
      | poll nodeId processStartSamples f =>
          refine ⟨h.ofTracker rfl rfl rfl, hh, ?_⟩
          exact ⟨.inl, fun hor => hor.resolve_right fun hno => hno trivial⟩

-- ================================================================ runs

/-- The books are kept from the start, where there is nothing to keep. -/
theorem start_books (policy : Policy) (policyName : String)
    (prefixBlockSize maxPlanningGroupSize : ℤ) (replayEndpoint : NodeId → Bool)
    (initialNodes : List NodeState) :
    Bookkept (start policy policyName prefixBlockSize maxPlanningGroupSize
      replayEndpoint initialNodes) where
  pool := RequestPool.init_inv maxPlanningGroupSize
  pooled _ _ := rfl
  returned _ _ caller hget := by cases hget
  caller _ x hx := by cases hx
  exchanged _ x hx := by cases hx

theorem start_handled (policy : Policy) (policyName : String)
    (prefixBlockSize maxPlanningGroupSize : ℤ) (replayEndpoint : NodeId → Bool)
    (initialNodes : List NodeState) :
    Handled (start policy policyName prefixBlockSize maxPlanningGroupSize
      replayEndpoint initialNodes) := by
  intro requestId caller hget
  cases hget

/-- The counters account for every request through every run. -/
theorem run_books {policy : Policy} {policyName : String}
    {prefixBlockSize maxPlanningGroupSize : ℤ} {initialNodes : List NodeState}
    {events : List AppEvent}
    (hrun : Lts.run (step blake2b decode loads replayEndpoint)
      (start policy policyName prefixBlockSize maxPlanningGroupSize
        replayEndpoint initialNodes) events = some a) :
    Bookkept a ∧ Handled a := by
  apply Lts.run_preserves (I := fun a : App => Bookkept a ∧ Handled a) _
    ⟨start_books .., start_handled _ _ _ _ _ _⟩ hrun
  intro a event a' h hstep
  obtain ⟨hbooks, hhandled, -⟩ := step_books h.1 h.2 hstep
  exact ⟨hbooks, hhandled⟩

end Steps

end App

end Kareserve
