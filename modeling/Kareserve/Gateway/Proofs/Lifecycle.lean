/-
The life of one request, and the router process as a run of many
(Gateway/App.lean).

# The abstract machine

A request waits until it is withdrawn by its client, failed by its plan or
placed on a node; a placed request is forwarded; and a forwarded one is
over, with its reservation given back (`released`) or not (`stranded`).
`Stage.Next` are the eight edges, none of which leads back, and a placement
is for good (`Stage.result_of_path`).

# The refinement

`App.stage` reads a request's stage off its future, its task, its exchange
and the calls made for it. Every event of the router process takes every
request along one edge or leaves it (`Bookkept.stage_step`), so a run is a
path for each (`follows_lifecycle`). The load counters know no more than
the stages: they are, in every state, the tickets of the requests that are
placed, forwarded or stranded.
-/
import Mathlib.Logic.Relation
import Kareserve.Gateway.Proofs.Occupancy

namespace Kareserve

-- ================================================= the abstract machine

/-- Where a request is. -/
inductive Stage where
  | unseen
  /-- In the queue, or in the group that is planned. -/
  | waiting
  /-- Cancelled before it was answered. -/
  | withdrawn
  | failed (error : PyException)
  /-- Reserved on a node, and its handler is about to go on. -/
  | placed (result : AssignmentResult)
  | forwarded (result : AssignmentResult)
  /-- Over, with its reservation given back. -/
  | released (result : AssignmentResult)
  /-- Over, and its reservation stays. -/
  | stranded (result : AssignmentResult)
  deriving DecidableEq

namespace Stage

/-- What becomes of a request next. -/
inductive Next : Stage → Stage → Prop
  | arrive : Next .unseen .waiting
  | withdraw : Next .waiting .withdrawn
  | fail (error : PyException) : Next .waiting (.failed error)
  | place (result : AssignmentResult) : Next .waiting (.placed result)
  | forward (result : AssignmentResult) :
      Next (.placed result) (.forwarded result)
  | lose (result : AssignmentResult) :
      Next (.placed result) (.stranded result)
  | release (result : AssignmentResult) :
      Next (.forwarded result) (.released result)
  | strand (result : AssignmentResult) :
      Next (.forwarded result) (.stranded result)

/-- Any number of edges. -/
abbrev Path : Stage → Stage → Prop := Relation.ReflTransGen Next

/-- Where it was placed. -/
def result : Stage → Option AssignmentResult
  | .placed result | .forwarded result | .released result
  | .stranded result => some result
  | _ => none

/-- The reservation it holds. -/
def ticket : Stage → Option Ticket
  | .placed result | .forwarded result | .stranded result =>
      some result.ticket
  | _ => none

variable {s s' : Stage}

/-- A placement is for good. -/
theorem result_of_path {result : AssignmentResult} (h : Path s s')
    (hresult : s.result = some result) : s'.result = some result := by
  induction h with
  | refl => exact hresult
  | tail _ hnext ih => cases hnext <;> first | exact ih | cases ih

end Stage

-- ======================================================== the abstraction

/-- A new caller has an id of its own. -/
theorem RequestPool.fresh_of_assign {pool pool' : RequestPool}
    {request : SchedulerRequest}
    (hstep : pool.step (.assign request) = some pool') :
    pool.callers.get request.requestId = none := by
  cases quiet_of_step (pool.roundOf_assign request) hstep with
  | assign _ hfresh => exact hfresh

namespace App

/-- The stage of a request: its caller's future says how it was answered,
and from a result on its exchange, or its task before there is one. -/
def stage (a : App) (requestId : RequestId) : Stage :=
  match a.requestPool.callers.get requestId with
  | none => .unseen
  | some caller =>
      match caller.future with
      | .pending => .waiting
      | .cancelled => .withdrawn
      | .exception error => .failed error
      | .result result =>
          match a.exchanges.get requestId with
          | none =>
              if caller.task = .awaiting false then .placed result
              else .stranded result
          | some x =>
              if x.phase ≠ .finished then .forwarded result
              else if callsFor a.calls requestId = [x.completion.reserveCall]
              then .stranded result
              else .released result

/-- The reservations its requests hold. -/
def held (a : App) : Multiset Ticket :=
  (a.requestPool.callers.keys.filterMap fun requestId =>
    (a.stage requestId).ticket : List Ticket)

variable {a a' : App} {requestId : RequestId} {caller : Caller}
  {result : AssignmentResult} {x : LiveExchange}

-- ====================================================== reading the stage

theorem stage_unseen (h : a.requestPool.callers.get requestId = none) :
    a.stage requestId = .unseen := by
  unfold stage
  rw [h]

theorem stage_waiting (h : a.requestPool.callers.get requestId = some caller)
    (hfuture : caller.future = .pending) : a.stage requestId = .waiting := by
  unfold stage
  rw [h]
  dsimp only
  rw [hfuture]

theorem stage_withdrawn
    (h : a.requestPool.callers.get requestId = some caller)
    (hfuture : caller.future = .cancelled) :
    a.stage requestId = .withdrawn := by
  unfold stage
  rw [h]
  dsimp only
  rw [hfuture]

theorem stage_failed {error : PyException}
    (h : a.requestPool.callers.get requestId = some caller)
    (hfuture : caller.future = .exception error) :
    a.stage requestId = .failed error := by
  unfold stage
  rw [h]
  dsimp only
  rw [hfuture]

/-- A result that has no exchange yet. -/
theorem stage_result (h : a.requestPool.callers.get requestId = some caller)
    (hfuture : caller.future = .result result)
    (hx : a.exchanges.get requestId = none) :
    a.stage requestId = if caller.task = .awaiting false then .placed result
      else .stranded result := by
  unfold stage
  rw [h]
  dsimp only
  rw [hfuture]
  dsimp only
  rw [hx]

/-- A result with its exchange. -/
theorem stage_exchange (h : a.requestPool.callers.get requestId = some caller)
    (hfuture : caller.future = .result result)
    (hx : a.exchanges.get requestId = some x) :
    a.stage requestId = if x.phase ≠ .finished then .forwarded result
      else if callsFor a.calls requestId = [x.completion.reserveCall]
      then .stranded result
      else .released result := by
  unfold stage
  rw [h]
  dsimp only
  rw [hfuture]
  dsimp only
  rw [hx]

/-- What the stage is read off. -/
theorem stage_congr
    (hcaller : a'.requestPool.callers.get requestId
      = a.requestPool.callers.get requestId)
    (hexchange : a'.exchanges.get requestId = a.exchanges.get requestId)
    (hcalls : ∀ x, a.exchanges.get requestId = some x →
      callsFor a'.calls requestId = callsFor a.calls requestId) :
    a'.stage requestId = a.stage requestId := by
  unfold stage
  rw [hcaller, hexchange]
  cases hx : a.exchanges.get requestId with
  | none => rfl
  | some x => rw [hcalls x hx]

/-- The exchange of a request that was placed. -/
theorem Bookkept.stage_of_exchange (h : Bookkept a)
    (hx : a.exchanges.get requestId = some x) :
    a.stage requestId = if x.phase ≠ .finished
      then .forwarded x.completion.assignment
      else if callsFor a.calls requestId = [x.completion.reserveCall]
      then .stranded x.completion.assignment
      else .released x.completion.assignment := by
  obtain ⟨caller, hget, htask⟩ := h.caller requestId x hx
  have hfits := caller.fits
  rw [htask] at hfits
  exact stage_exchange hget hfits hx

/-- An exchange is with the node its request was placed on. -/
theorem Bookkept.result_of_exchange (h : Bookkept a)
    (hx : a.exchanges.get requestId = some x) :
    (a.stage requestId).result = some x.completion.assignment := by
  rw [h.stage_of_exchange hx]
  split
  · rfl
  · split <;> rfl

/-- A task that waits has no exchange. -/
theorem Bookkept.exchange_of_awaiting (h : Bookkept a) {mustCancel : Bool}
    (hget : a.requestPool.callers.get requestId = some caller)
    (htask : caller.task = .awaiting mustCancel) :
    a.exchanges.get requestId = none := by
  cases hx : a.exchanges.get requestId with
  | none => rfl
  | some x =>
      obtain ⟨caller', hget', htask'⟩ := h.caller requestId x hx
      rw [hget] at hget'
      injection hget' with hget'
      rw [← hget', htask] at htask'
      cases htask'

-- ============================================================== one event

/-- A stage stays or takes an edge. -/
def Moves (a a' : App) (requestId : RequestId) : Prop :=
  a'.stage requestId = a.stage requestId ∨
    (a.stage requestId).Next (a'.stage requestId)

theorem Moves.path (h : Moves a a' requestId) :
    (a.stage requestId).Path (a'.stage requestId) := by
  obtain hsame | hnext := h
  · rw [hsame]
  · exact .single hnext

/-- A new caller waits. -/
theorem moves_of_start
    (hbefore : a.requestPool.callers.get requestId = none)
    (hafter : a'.requestPool.callers.get requestId = some .start) :
    Moves a a' requestId := by
  right
  rw [stage_unseen hbefore, stage_waiting hafter rfl]
  exact .arrive

/-- A pending caller is answered. -/
theorem Bookkept.moves_of_answered (h : Bookkept a)
    (hbefore : a.requestPool.callers.get requestId = some caller)
    (hpending : caller.future = .pending) {caller' : Caller}
    (hafter : a'.requestPool.callers.get requestId = some caller')
    (htask : caller'.task = .awaiting false)
    (hexchanges : a'.exchanges.get requestId = a.exchanges.get requestId) :
    Moves a a' requestId := by
  have hnone := h.exchange_of_awaiting hbefore
    (Asyncio.Waiter.awaiting_of_pending hpending)
  rw [hnone] at hexchanges
  unfold Moves
  rw [stage_waiting hbefore hpending]
  cases hfuture : caller'.future with
  | pending => exact .inl (stage_waiting hafter hfuture)
  | cancelled =>
      rw [stage_withdrawn hafter hfuture]
      exact .inr .withdraw
  | exception error =>
      rw [stage_failed hafter hfuture]
      exact .inr (.fail error)
  | result result =>
      rw [stage_result hafter hfuture hexchanges, if_pos htask]
      exact .inr (.place result)

/-- A cancelled task withdraws its request, or leaves a result unread. -/
theorem Bookkept.moves_of_cancelled (h : Bookkept a)
    (hbefore : a.requestPool.callers.get requestId = some caller)
    {caller' : Caller} (hcancel : caller.cancel = some caller')
    (hafter : a'.requestPool.callers.get requestId = some caller')
    (hexchanges : a'.exchanges.get requestId = a.exchanges.get requestId) :
    Moves a a' requestId := by
  -- only a task that still awaits can be cancelled
  have hawaiting : ∃ mustCancel, caller.task = .awaiting mustCancel := by
    unfold Asyncio.Waiter.cancel at hcancel
    split at hcancel
    next mustCancel htask => exact ⟨mustCancel, htask⟩
    next => cases hcancel
  obtain ⟨mustCancel, hawaiting⟩ := hawaiting
  have hnone := h.exchange_of_awaiting hbefore hawaiting
  rw [hnone] at hexchanges
  unfold Moves
  obtain ⟨hpending, hcancelled⟩ | ⟨hsame, hmust⟩ :=
    Asyncio.Waiter.cancel_eq_some hcancel
  · rw [stage_waiting hbefore hpending, stage_withdrawn hafter hcancelled]
    exact .inr .withdraw
  -- its future is done already: the task is marked, and what it was to be
  -- given is lost
  · cases hfuture : caller.future with
    | pending =>
        rw [stage_waiting hbefore hfuture,
          stage_waiting hafter (hsame.trans hfuture)]
        exact .inl rfl
    | cancelled =>
        rw [stage_withdrawn hbefore hfuture,
          stage_withdrawn hafter (hsame.trans hfuture)]
        exact .inl rfl
    | exception error =>
        rw [stage_failed hbefore hfuture,
          stage_failed hafter (hsame.trans hfuture)]
        exact .inl rfl
    | result result =>
        rw [stage_result hbefore hfuture hnone,
          stage_result hafter (hsame.trans hfuture) hexchanges, hmust]
        cases mustCancel with
        | false =>
            rw [if_pos hawaiting, if_neg (by decide)]
            exact .inr (.lose result)
        | true =>
            rw [hawaiting]
            exact .inl rfl

section Steps

variable {blake2b : List UInt8 → List UInt8}
  {decode : Bytes → Option RawMapEventBatch}
  {loads : Bytes → Except LoadsError PyJson.Json}
  {replayEndpoint : NodeId → Bool} {event : AppEvent}

/-- A step of the pool that runs no caller on. -/
theorem Bookkept.pool_moves (h : Bookkept a) {pe : PoolEvent}
    (hpart : PoolPart a pe a') (hresume : ∀ requestId, pe ≠ .resume requestId)
    (requestId : RequestId) : Moves a a' requestId := by
  have hexchanges : a'.exchanges.get requestId = a.exchanges.get requestId := by
    rw [hpart.exchanges hresume]
  have hcalls : ∀ x, a.exchanges.get requestId = some x →
      callsFor a'.calls requestId = callsFor a.calls requestId := fun x hx => by
    rw [hpart.calls, callsFor_append, h.callsMade hpart.step hx, List.append_nil]
  cases hafter : a'.requestPool.callers.get requestId with
  | none =>
      -- no caller is dropped
      cases hbefore : a.requestPool.callers.get requestId with
      | none => exact .inl (stage_congr (hafter.trans hbefore.symm) hexchanges hcalls)
      | some caller =>
          obtain ⟨caller', hget, -⟩ :=
            RequestPool.step_future hpart.step hbefore
          rw [hafter] at hget
          cases hget
  | some caller' =>
      cases RequestPool.step_caller hpart.step hafter with
      | same hsame =>
          exact .inl (stage_congr (hafter.trans hsame.symm) hexchanges hcalls)
      | new request hassign hown hstart =>
          subst hassign hown hstart
          refine moves_of_start (RequestPool.fresh_of_assign hpart.step) hafter
      | cancelled caller _ hbefore hcancel =>
          exact h.moves_of_cancelled hbefore hcancel hafter hexchanges
      | resumed caller hown _ _ => exact absurd hown (hresume requestId)
      | answered caller hbefore hpending htask =>
          exact h.moves_of_answered hbefore hpending hafter htask hexchanges

/-- A caller that runs on takes its request to its exchange, or leaves it. -/
theorem Bookkept.resume_moves (h : Bookkept a) (hh : Handled a)
    {times : PlanningTimes} {resumed : RequestId}
    (hstep : a.step blake2b decode loads replayEndpoint (.resume resumed times)
      = some a') (requestId : RequestId) : Moves a a' requestId := by
  obtain ⟨a₁, exchanges, hpart, hcalls, hexchanges, hbegins, ha'⟩ :=
    step_resume hh hstep
  obtain ⟨caller, caller', hget, hresume, hset⟩ :=
    RequestPool.resume_eq_some hpart.step
  have hpool : a'.requestPool = a₁.requestPool := by rw [ha']
  have hlater : a'.exchanges = exchanges := by rw [ha']
  by_cases hid : requestId = resumed
  · subst hid
    -- before it runs on it has no exchange
    have hnone := h.resumed hget hresume
    have hnew : a₁.requestPool.callers.get requestId = some caller' := by
      rw [hset]
      exact PyDict.get_set_self _ _ _
    have hafter : a'.requestPool.callers.get requestId = some caller' := by
      rw [hpool]
      exact hnew
    obtain ⟨hfuture, hdone⟩ := Asyncio.Waiter.resume_eq_some hresume
    -- it runs on once its future is done: with an exception or a cancellation
    -- it stays where it is, and with a result it goes to its exchange, unless
    -- it was cancelled after the answer
    unfold Moves
    cases hanswer : caller.future with
    | pending => exact absurd hanswer hdone
    | cancelled =>
        rw [stage_withdrawn hget hanswer,
          stage_withdrawn hafter (hfuture.trans hanswer)]
        exact .inl rfl
    | exception error =>
        rw [stage_failed hget hanswer,
          stage_failed hafter (hfuture.trans hanswer)]
        exact .inl rfl
    | result result =>
        have hresult := hfuture.trans hanswer
        rw [stage_result hget hanswer hnone]
        obtain ⟨hwaits, hreturned⟩ | ⟨hmarked, hraised⟩ :=
          Asyncio.Waiter.resume_of_result hanswer hresume
        · obtain ⟨x, hx, hopening, -⟩ := hbegins.returned caller' result hnew
            hreturned
          rw [stage_exchange hafter hresult (hlater ▸ hx), hopening,
            if_pos hwaits, if_pos (by decide)]
          exact .inr (.forward result)
        · have hleft : a'.exchanges.get requestId = none := by
            have hsame := hbegins.raised caller' hnew fun result htask => by
              rw [hraised] at htask
              cases htask
            rw [hlater, hsame, hexchanges]
            exact hnone
          rw [stage_result hafter hresult hleft, hmarked, hraised]
          exact .inl rfl
  -- everyone else stays at its stage
  · refine .inl (stage_congr ?_ ?_ fun x _ => ?_)
    · rw [hpool, hset]
      exact PyDict.get_set_of_ne _ hid _
    · rw [hlater, ← hexchanges]
      exact hbegins.other requestId hid
    · rw [ha']
      exact congrArg (callsFor · requestId) hcalls

/-- An exchange that goes on, or is over. -/
theorem Bookkept.exchange_moves (h : Bookkept a) {event : UpstreamEvent}
    {now : ℚ} {owner : RequestId} {next : Phase × Bool}
    (hx : a.exchanges.get owner = some x)
    (hnext : x.completion.step x.phase (x.note loads now event).2 = some next)
    (requestId : RequestId) :
    Moves a (a.exchanged owner (x.note loads now event).1 next) requestId := by
  have hnote : (x.note loads now event).1.completion = x.completion :=
    congrArg Exchange.completion (x.note_toExchange loads now event)
  generalize hnoted : (x.note loads now event).1 = noted at hnote
  by_cases hid : requestId = owner
  · subst hid
    obtain ⟨hunfinished, hspec⟩ := Completion.step_spec hnext
    obtain ⟨caller, hget, htask⟩ := h.caller requestId x hx
    have hfuture := caller.fits
    rw [htask] at hfuture
    have hafter : (a.exchanged requestId noted next).requestPool.callers.get
        requestId = some caller := by
      rw [exchanged_requestPool]
      exact hget
    have hself : (a.exchanged requestId noted next).exchanges.get requestId
        = some { noted with phase := next.1 } := by
      rw [exchanged_exchanges]
      exact PyDict.get_set_self _ _ _
    have hcalls := h.callsFor_exchanged hx hnote hnext
    have hreserve : ({ noted with phase := next.1 } : LiveExchange).completion
        = x.completion := hnote
    unfold Moves
    -- before the step it is served; after it the phase says
    rw [stage_exchange hget hfuture hx, if_pos hunfinished,
      stage_exchange hafter hfuture hself, hreserve, hcalls]
    obtain ⟨hreleased, -⟩ | ⟨hlost, -⟩ | ⟨hgoes, -, -⟩ := hspec
    · rw [hreleased]
      right
      rw [if_neg (not_not_intro rfl), if_neg (by simp)]
      exact .release _
    · rw [hlost]
      right
      rw [if_neg (not_not_intro rfl), if_pos (by simp)]
      exact .strand _
    · rw [if_pos hgoes]
      exact .inl rfl
  -- the others have their callers, their exchanges and their calls as before
  · refine .inl (stage_congr ?_ ?_ fun y _ => ?_)
    · rw [exchanged_requestPool]
    · rw [exchanged_exchanges]
      exact PyDict.get_set_of_ne _ hid _
    · rw [exchanged_calls, callsFor_append]
      cases next.2 <;> simp [callsFor, Ne.symm hid]

/-- One event takes every request along one edge or leaves it. -/
theorem Bookkept.stage_step (h : Bookkept a) (hh : Handled a)
    (hstep : a.step blake2b decode loads replayEndpoint event = some a')
    (requestId : RequestId) : Moves a a' requestId := by
  cases hpe : a.poolEvent blake2b event with
  | some pe =>
      by_cases hresume : ∃ requestId times, event = .resume requestId times
      · obtain ⟨resumed, times, rfl⟩ := hresume
        exact h.resume_moves hh hstep requestId
      · exact h.pool_moves (step_pool hstep hpe)
          (poolEvent_ne_resume hpe fun id times heq => hresume ⟨id, times, heq⟩)
          requestId
  | none =>
      cases step_own hstep hpe with
      | exchange owner event now x next hx hnext =>
          exact h.exchange_moves hx hnext requestId
      | listener nodeId event l mc _ _ => exact .inl rfl
      | poll nodeId processStartSamples f => exact .inl rfl

end Steps

-- ================================================================ tickets

/-- A request holds a ticket where its calls are one reservation. -/
theorem Bookkept.ticket_iff (h : Bookkept a) (requestId : RequestId)
    (ticket : Ticket) :
    (a.stage requestId).ticket = some ticket ↔
      callsFor a.calls requestId = [.reserve ticket.1 ticket.2] := by
  have hreserve : ∀ result : AssignmentResult,
      some result.ticket = some ticket ↔
        [RouteCall.reserve result.ticket.1 result.ticket.2]
          = [.reserve ticket.1 ticket.2] := fun result => by
    simp [Prod.ext_iff]
  have hnil : (none : Option Ticket) = some ticket ↔
      ([] : List RouteCall) = [.reserve ticket.1 ticket.2] := by simp
  cases hx : a.exchanges.get requestId with
  | some x =>
      -- an exchange that has not released holds its ticket
      rw [h.stage_of_exchange hx]
      obtain hone | ⟨hfinished, htwo⟩ := h.exchanged requestId x hx
      · rw [hone, if_pos rfl]
        split <;> exact hreserve x.completion.assignment
      · rw [htwo, if_neg (not_not_intro hfinished), if_neg (by simp)]
        simp [Stage.ticket]
  | none =>
      -- without one, what was called for it is the pool's doing, and the state
      -- of its future says what
      rw [h.pooled requestId hx]
      cases hget : a.requestPool.callers.get requestId with
      | none =>
          rw [stage_unseen hget, h.pool.unknown requestId hget]
          exact hnil
      | some caller =>
          have hmatch := h.pool.callsMatch hget
          cases hfuture : caller.future with
          | pending =>
              rw [hfuture] at hmatch
              rw [stage_waiting hget hfuture,
                show a.requestPool.callsOf requestId = [] from hmatch]
              exact hnil
          | exception error =>
              rw [hfuture] at hmatch
              rw [stage_failed hget hfuture,
                show a.requestPool.callsOf requestId = [] from hmatch]
              exact hnil
          | cancelled =>
              rw [hfuture] at hmatch
              rw [stage_withdrawn hget hfuture]
              obtain hno | ⟨assignment, hpair⟩ := hmatch
              · rw [hno]
                exact hnil
              · rw [hpair]
                simp [Stage.ticket]
          | result result =>
              rw [hfuture] at hmatch
              rw [stage_result hget hfuture hx,
                show a.requestPool.callsOf requestId
                  = [result.assignment.reserveCall] from hmatch]
              split <;> exact hreserve result

/-- The requests that hold a ticket are those whose reservation is
outstanding. -/
theorem Bookkept.held_eq (h : Bookkept a)
    {out : Multiset (RequestId × Ticket)} (hout : Holding a.calls out) :
    a.held = out.map Prod.snd := by
  let pairs : List (RequestId × Ticket) :=
    a.requestPool.callers.keys.filterMap fun requestId =>
      (a.stage requestId).ticket.map fun ticket => (requestId, ticket)
  -- a request has one stage, so one ticket
  have hpairs : pairs.Nodup := by
    refine a.requestPool.callers.nodup.filterMap fun id id' p hp hp' => ?_
    obtain ⟨ticket, -, heq⟩ := Option.map_eq_some_iff.mp hp
    obtain ⟨ticket', -, heq'⟩ := Option.map_eq_some_iff.mp hp'
    rw [← heq'] at heq
    exact congrArg Prod.fst heq
  -- to hold a ticket is to have reserved and not released (`ticket_iff`)
  have hmem : ∀ requestId ticket, (requestId, ticket) ∈ pairs ↔
      (requestId, ticket) ∈ out := by
    intro requestId ticket
    rw [hout.mem, ← h.ticket_iff]
    show _ ∈ List.filterMap _ _ ↔ _
    rw [List.mem_filterMap]
    constructor
    · rintro ⟨id, -, hsome⟩
      obtain ⟨ticket', hticket, heq⟩ := Option.map_eq_some_iff.mp hsome
      injection heq with hid hsame
      rw [← hid, ← hsame]
      exact hticket
    · intro hticket
      refine ⟨requestId, PyDict.mem_keys_iff.mpr ?_, by rw [hticket]; rfl⟩
      cases hget : a.requestPool.callers.get requestId with
      | some caller => exact ⟨caller, rfl⟩
      | none =>
          rw [stage_unseen hget] at hticket
          cases hticket
  have hsame : (pairs : Multiset (RequestId × Ticket)) = out := by
    rw [Multiset.Nodup.ext (Multiset.coe_nodup.mpr hpairs) hout.nodup]
    intro p
    rw [Multiset.mem_coe]
    exact hmem p.1 p.2
  have htickets : pairs.map Prod.snd = a.requestPool.callers.keys.filterMap
      fun requestId => (a.stage requestId).ticket := by
    refine (List.map_filterMap ..).trans (List.filterMap_congr fun id _ => ?_)
    cases (a.stage id).ticket <;> rfl
  rw [← hsame, Multiset.map_coe, htickets]
  rfl

-- ================================================================== runs

section Runs

variable {blake2b : List UInt8 → List UInt8}
  {decode : Bytes → Option RawMapEventBatch}
  {loads : Bytes → Except LoadsError PyJson.Json}
  {replayEndpoint : NodeId → Bool}

/-- A run takes every request along a path. -/
theorem run_paths (h : Sound a) {events : List AppEvent}
    (hrun : Lts.run (step blake2b decode loads replayEndpoint) a events
      = some a') :
    Sound a' ∧ ∀ requestId,
      (a.stage requestId).Path (a'.stage requestId) := by
  apply Lts.run_preserves (I := fun b : App => Sound b ∧ ∀ requestId,
    (a.stage requestId).Path (b.stage requestId)) _
    ⟨h, fun _ => .refl⟩ hrun
  intro b event b' hb hstep
  refine ⟨(hb.1.step hstep).1, fun requestId => (hb.2 requestId).trans ?_⟩
  exact (hb.1.books.stage_step hb.1.handled hstep requestId).path

/-- The router process refines the lives of its requests. Between any two
states of a run from idle nodes, each request has gone along a path of its
stages; an exchange that has begun stays with the node its request was
placed on; and every node's counters are the count and the work of the
requests that are placed, forwarded or stranded there. -/
theorem follows_lifecycle (blake2b : List UInt8 → List UInt8)
    (decode : Bytes → Option RawMapEventBatch)
    (loads : Bytes → Except LoadsError PyJson.Json)
    (replayEndpoint : NodeId → Bool) (policy : Policy) (policyName : String)
    (prefixBlockSize maxPlanningGroupSize : ℤ) (initialNodes : List NodeState)
    (hidle : ∀ node ∈ initialNodes, node.Idle) (events later : List AppEvent)
    (a a' : App)
    (hrun : Lts.run (step blake2b decode loads replayEndpoint)
      (start policy policyName prefixBlockSize maxPlanningGroupSize
        replayEndpoint initialNodes) events = some a)
    (hlater : Lts.run (step blake2b decode loads replayEndpoint) a later
      = some a') :
    (∀ requestId, (a.stage requestId).Path (a'.stage requestId)) ∧
    (∀ requestId x, a.exchanges.get requestId = some x →
      (a'.stage requestId).result = some x.completion.assignment) ∧
    ∀ nodeId e, a'.tracker.entries.get nodeId = some e →
      e.node.routerActiveRequests = Ledger.count a'.held nodeId ∧
        e.node.routerInflightWork = Ledger.load a'.held nodeId := by
  obtain ⟨hsound, -⟩ := run_paths (start_sound policy policyName
    prefixBlockSize maxPlanningGroupSize hidle) hrun
  obtain ⟨hsound', hpaths⟩ := run_paths hsound hlater
  refine ⟨hpaths, fun requestId x hx => ?_, fun nodeId e he => ?_⟩
  · exact Stage.result_of_path (hpaths requestId)
      (hsound.books.result_of_exchange hx)
  · obtain ⟨out, hout⟩ := exists_holding hsound'.books.oneTicket
    rw [hsound'.books.held_eq hout]
    exact hsound'.carried.carries out hout nodeId e he

/-- The end of the stream. -/
def streamEnd : List AppEvent :=
  [.upstream "r" .ended 3, .upstream "r" .returned 4]

/-- One of two requests is withdrawn while it waits; the other is streamed
to its end, and gives its reservation back. -/
theorem follows_lifecycle_two_requests :
    ∃ a a', Lts.run (step id (fun _ => none) (fun _ => .error .jsonDecodeError)
        fun _ => false) oneNodeRouter (streamAndCancel.take 5) = some a ∧
      Lts.run (step id (fun _ => none) (fun _ => .error .jsonDecodeError)
        fun _ => false) a (streamAndCancel.drop 5 ++ streamEnd) = some a' ∧
      a.stage "q" = .waiting ∧ a'.stage "q" = .withdrawn ∧
      (a'.stage "r").result.isSome ∧ (a'.stage "r").ticket = none ∧
      (a.stage "r").Path (a'.stage "r") ∧
      ∀ e, a'.tracker.entries.get "a" = some e →
        e.node.routerActiveRequests = 0 := by
  have hfirst : (Lts.run (step id (fun _ => none)
      (fun _ => .error .jsonDecodeError) fun _ => false) oneNodeRouter
        (streamAndCancel.take 5)).map (·.stage "q") = some .waiting := by
    decide +kernel
  obtain ⟨a, ha, hwaiting⟩ := Option.map_eq_some_iff.mp hfirst
  have hwhole : (Lts.run (step id (fun _ => none)
      (fun _ => .error .jsonDecodeError) fun _ => false) oneNodeRouter
        (streamAndCancel.take 5 ++ (streamAndCancel.drop 5 ++ streamEnd))).map
        (fun a => (a.stage "q", (a.stage "r").result.isSome,
          (a.stage "r").ticket.isNone, (a.requestPool.callers.keys.filterMap
            fun requestId => (a.stage requestId).ticket).length))
      = some (.withdrawn, true, true, 0) := by decide +kernel
  rw [Lts.run_append, ha, Option.bind_some] at hwhole
  obtain ⟨a', ha', hfacts⟩ := Option.map_eq_some_iff.mp hwhole
  injection hfacts with hwithdrawn hfacts
  injection hfacts with hresult hfacts
  injection hfacts with hticket hnone
  have hheld : a'.held = 0 :=
    congrArg Multiset.ofList (List.eq_nil_of_length_eq_zero hnone)
  obtain ⟨hpaths, -, hcounters⟩ := follows_lifecycle id (fun _ => none)
    (fun _ => .error .jsonDecodeError) (fun _ => false) _ _ _ _ _ (by decide)
    _ _ a a' ha ha'
  refine ⟨a, a', ha, ha', hwaiting, hwithdrawn, hresult,
    Option.isNone_iff_eq_none.mp hticket, hpaths "r", fun e he => ?_⟩
  rw [(hcounters "a" e he).1, hheld]
  rfl

end Runs

end App

end Kareserve
