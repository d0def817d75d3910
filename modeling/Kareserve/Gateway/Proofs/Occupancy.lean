/-
The load counters of the router process (Gateway/App.lean) and the
requests in its hands.

A request is in the router's hands from the hand-out of its result until
its exchange is over (`inHand`). The calls made for it are its reservation
and at most one release (`Bookkept.oneTicket`), so all calls together are a
legal history and the counters are its outstanding tickets
(`KareserveTracker.Carries`), in any interleaving with listeners and polls,
which leave the counters alone.

The outstanding tickets are those in hand and those abandoned. So no
counter is ever below the load in hand, and they are equal in exactly the
runs that abandon nothing (`load_in_hand_iff`).

The invariant of a run is `Sound`: the books are kept, and the tracker
carries the tickets of all calls made so far (`Carried`). A step that makes
calls carries them on (`Carried.ofCalls`), and one that writes an entry
writes none of its counters (`Carried.onNode`).
-/
import Kareserve.Gateway.Proofs.App
import Kareserve.Policy.Proofs.Complete
import Kareserve.Policy.Proofs.Matrix

namespace Kareserve

-- ================================================ a tracker and a ledger

namespace KareserveTracker

/-- Every node's counters are the count and the load of its tickets. -/
def Carries (t : KareserveTracker) (out : Multiset Ticket) : Prop :=
  ∀ nodeId e, t.entries.get nodeId = some e →
    e.node.routerActiveRequests = Ledger.count out nodeId ∧
      e.node.routerInflightWork = Ledger.load out nodeId

variable {t : KareserveTracker} {out out' : Multiset Ticket}

/-- A tracker with the load of some tickets carries them. -/
theorem carries_withLoad (t : KareserveTracker) (out : Multiset Ticket) :
    (t.withLoad out).Carries out := by
  intro nodeId e he
  unfold withLoad at he
  rw [PyDict.get_map] at he
  obtain ⟨e₀, -, rfl⟩ := Option.map_eq_some_iff.mp he
  exact ⟨rfl, rfl⟩

/-- A tracker that carries the tickets is its own canonical tracker. -/
theorem Carries.eq_withLoad (h : t.Carries out) : t.withLoad out = t := by
  unfold withLoad
  have hentries : (t.entries.map fun nodeId e =>
      { e with node := e.node.withLoad nodeId out }) = t.entries := by
    refine PyDict.ext_get (PyDict.keys_map _ _) fun nodeId => ?_
    rw [PyDict.get_map]
    cases hget : t.entries.get nodeId with
    | none => rfl
    | some e =>
        obtain ⟨hactive, hwork⟩ := h nodeId e hget
        have hload : e.node.withLoad nodeId out = e.node := by
          unfold NodeState.withLoad
          rw [← hactive, ← hwork]
        show some { e with node := e.node.withLoad nodeId out } = some e
        rw [hload]
  rw [hentries]

/-- A legal history moves the counters as it moves the tickets. -/
theorem Carries.runCalls (h : t.Carries out) {calls : List RouteCall}
    (hrun : Lts.run outstandingStep out calls = some out') :
    (t.runCalls calls).Carries out' := by
  have hcanonical := t.runCalls_eq_withLoad hrun
  rw [h.eq_withLoad] at hcanonical
  rw [hcanonical]
  exact t.carries_withLoad out'

/-- What leaves the counters of a node leaves them carried. -/
theorem Carries.onNode (h : t.Carries out) {nodeId : NodeId}
    {f : NodeEntry → NodeEntry}
    (hf : ∀ e, (f e).node.routerActiveRequests = e.node.routerActiveRequests ∧
      (f e).node.routerInflightWork = e.node.routerInflightWork) :
    (t.onNode nodeId f).Carries out := by
  intro nodeId' e he
  rw [onNode_get] at he
  split at he
  next heq =>
    obtain ⟨e₀, he₀, rfl⟩ := Option.map_eq_some_iff.mp he
    obtain ⟨hactive, hwork⟩ := hf e₀
    rw [hactive, hwork]
    exact h nodeId' e₀ (heq ▸ he₀)
  next => exact h nodeId' e he

/-- No call renames a node. -/
theorem Keyed.runCalls (h : t.Keyed) (calls : List RouteCall) :
    (t.runCalls calls).Keyed := by
  induction calls generalizing t with
  | nil => exact h
  | cons call calls ih =>
      apply ih
      cases call with
      | reserve nodeId work => exact h.onNode fun _ _ => rfl
      | release nodeId work => exact h.onNode fun _ _ => rfl

/-- No call adds or drops a node. -/
theorem keys_runCalls (t : KareserveTracker) (calls : List RouteCall) :
    (t.runCalls calls).entries.keys = t.entries.keys := by
  induction calls generalizing t with
  | nil => rfl
  | cons call calls ih =>
      rw [show t.runCalls (call :: calls) = (t.call call).runCalls calls from rfl,
        ih]
      cases call <;> exact PyDict.keys_modify _ _ _

end KareserveTracker

-- ======================================================= parts of a step

/-- A poll writes figures of the engine, never the router's own counters. -/
theorem NodeEntry.poll_node (e : NodeEntry) (processStartSamples : List ℚ)
    (f : PollFigures) :
    (e.poll processStartSamples f).node.nodeId = e.node.nodeId ∧
      (e.poll processStartSamples f).node.routerActiveRequests
        = e.node.routerActiveRequests ∧
      (e.poll processStartSamples f).node.routerInflightWork
        = e.node.routerInflightWork := by
  unfold poll updateProcessStart NodeState.store
  cases processStartSamples.getLast? with
  | none => exact ⟨rfl, rfl, rfl⟩
  | some processStart =>
      dsimp only
      split <;> exact ⟨rfl, rfl, rfl⟩

namespace RequestPool

variable {pool pool' : RequestPool} {requestId : RequestId} {nodeId : NodeId}
  {work : ℚ}

/-- The hand-out only releases. -/
theorem handOut_reserve {results : PyDict RequestId AssignmentResult}
    {group : List SchedulerRequest}
    (h : handOut results pool group = some pool')
    (hmem : (requestId, .reserve nodeId work) ∈ pool'.calls) :
    (requestId, .reserve nodeId work) ∈ pool.calls := by
  induction group generalizing pool with
  | nil =>
      injection h with h
      rw [h]
      exact hmem
  | cons request group ih =>
      obtain ⟨pool₁, hone, hrest⟩ := Option.bind_eq_some_iff.mp h
      have hmem₁ := ih hrest
      obtain ⟨caller, -, hone⟩ := Option.bind_eq_some_iff.mp hone
      obtain ⟨result, -, hone⟩ := Option.bind_eq_some_iff.mp hone
      split at hone
      next =>
        injection hone with hone
        rw [← hone] at hmem₁
        obtain hmem₁ | hnew := List.mem_append.mp hmem₁
        · exact hmem₁
        · cases List.mem_singleton.mp hnew
      next =>
        obtain ⟨caller', -, rfl⟩ := Option.map_eq_some_iff.mp hone
        exact hmem₁

/-- A reservation comes from the plan of its group. -/
theorem step_reserve {event : PoolEvent} (hstep : pool.step event = some pool')
    (hmem : (requestId, .reserve nodeId work) ∈ pool'.calls) :
    (requestId, .reserve nodeId work) ∈ pool.calls ∨
      ∃ assignments a, event = .planned assignments ∧
        assignments.get requestId = some a ∧
        a.reserveCall = .reserve nodeId work := by
  cases hround : pool.roundOf event with
  | none =>
      rw [(quiet_of_step hround hstep).calls_eq] at hmem
      exact .inl hmem
  | some round =>
      obtain ⟨hworker, ⟨assignments, rfl, -⟩ | ⟨error, rfl, -⟩⟩ :=
        roundOf_eq_some hround
      · simp only [step, hworker] at hstep
        split at hstep
        next =>
          split at hstep
          -- a plan that misses someone makes no call
          next error hcommit =>
            injection hstep with hstep
            rw [← hstep] at hmem
            exact .inl (calls_fail error round.group ▸ hmem)
          next calls results hcommit =>
            -- the hand-out only releases
            have hcommitted := handOut_reserve hstep hmem
            obtain hbefore | hnew := List.mem_append.mp hcommitted
            · exact .inl hbefore
            · rw [(commitPlan_ok hcommit).1] at hnew
              obtain ⟨⟨id, a⟩, hitem, heq⟩ := List.mem_map.mp hnew
              injection heq with hid hcall
              subst hid
              exact .inr ⟨assignments, a, rfl,
                PyDict.get_eq_some_iff.mpr hitem, hcall⟩
        next => cases hstep
      · simp only [step, hworker] at hstep
        injection hstep with hstep
        rw [← hstep] at hmem
        exact .inl (calls_fail error round.group ▸ hmem)

end RequestPool

-- =============================================================== in hand

/-- The reservation behind a result. -/
def AssignmentResult.ticket (r : AssignmentResult) : Ticket :=
  (r.node.nodeId, r.inflightWork)

namespace App

/-- The ticket a request in hand holds: its exchange is not over, or its
result waits for its caller to run on. -/
def ticketOf (a : App) (requestId : RequestId) (caller : Caller) :
    Option Ticket :=
  match a.exchanges.get requestId with
  | some x =>
      if x.phase = .finished then none
      else some x.completion.assignment.ticket
  | none =>
      match caller.future, caller.task with
      | .result result, .awaiting false => some result.ticket
      | _, _ => none

/-- The requests in the router's hands, with their tickets. -/
def inHand (a : App) : List (RequestId × Ticket) :=
  a.requestPool.callers.keys.filterMap fun requestId =>
    ((a.requestPool.callers.get requestId).bind
      (a.ticketOf requestId)).map fun ticket => (requestId, ticket)

/-- Their tickets. -/
def tickets (a : App) : Multiset Ticket := a.inHand.map Prod.snd

variable {a a' : App} {requestId : RequestId} {ticket : Ticket}

/-- What is in hand, caller by caller. -/
theorem mem_inHand : (requestId, ticket) ∈ a.inHand ↔
    ∃ caller, a.requestPool.callers.get requestId = some caller ∧
      a.ticketOf requestId caller = some ticket := by
  unfold inHand
  rw [List.mem_filterMap]
  constructor
  · rintro ⟨id, -, hsome⟩
    obtain ⟨ticket', hticket, heq⟩ := Option.map_eq_some_iff.mp hsome
    injection heq with hid hsame
    rw [← hid, ← hsame]
    exact Option.bind_eq_some_iff.mp hticket
  · rintro ⟨caller, hget, hticket⟩
    refine ⟨requestId, PyDict.mem_keys_iff.mpr ⟨caller, hget⟩, ?_⟩
    rw [hget, Option.bind_some, hticket]
    rfl

/-- Nothing is in hand twice. -/
theorem nodup_inHand (a : App) : a.inHand.Nodup := by
  refine a.requestPool.callers.nodup.filterMap fun id id' p hp hp' => ?_
  obtain ⟨ticket, -, heq⟩ := Option.map_eq_some_iff.mp hp
  obtain ⟨ticket', -, heq'⟩ := Option.map_eq_some_iff.mp hp'
  rw [← heq'] at heq
  exact congrArg Prod.fst heq

/-- What is in hand is reserved and not released. -/
theorem Bookkept.calls_of_inHand (h : Bookkept a)
    (hmem : (requestId, ticket) ∈ a.inHand) :
    callsFor a.calls requestId = [.reserve ticket.1 ticket.2] := by
  obtain ⟨caller, hget, hticket⟩ := mem_inHand.mp hmem
  unfold ticketOf at hticket
  cases hx : a.exchanges.get requestId with
  | some x =>
      rw [hx] at hticket
      dsimp only at hticket
      split at hticket
      next => cases hticket
      next hunfinished =>
        injection hticket with hticket
        rw [← hticket]
        exact (h.exchanged requestId x hx).resolve_right
          fun hfinished => hunfinished hfinished.1
  | none =>
      rw [hx] at hticket
      dsimp only at hticket
      split at hticket
      next result hfuture htask =>
        injection hticket with hticket
        have hmatch := h.pool.callsMatch hget
        rw [hfuture] at hmatch
        rw [h.pooled requestId hx, ← hticket]
        exact hmatch
      next => cases hticket

/-- What is reserved and not released is in hand, or abandoned. -/
theorem Bookkept.inHand_or (h : Bookkept a)
    (hcalls : callsFor a.calls requestId = [.reserve ticket.1 ticket.2]) :
    (requestId, ticket) ∈ a.inHand ∨ a.Abandons := by
  rw [mem_inHand]
  cases hx : a.exchanges.get requestId with
  | some x =>
      obtain ⟨caller, hget, -⟩ := h.caller requestId x hx
      -- an exchange with one call is on its way, or has ended without its
      -- release
      obtain hone | ⟨-, htwo⟩ := h.exchanged requestId x hx
      · by_cases hphase : x.phase = .finished
        · exact .inr (.inr ⟨requestId, x, hx, hphase, hone⟩)
        · refine .inl ⟨caller, hget, ?_⟩
          unfold ticketOf
          rw [hx]
          dsimp only
          rw [if_neg hphase]
          rw [hone] at hcalls
          injection hcalls with hcall
          injection hcall with hnode hwork
          exact congrArg some (Prod.ext hnode hwork)
      · rw [htwo] at hcalls
        exact absurd (List.cons.inj hcalls).2 (List.cons_ne_nil _ _)
  | none =>
      -- without an exchange the call is the pool's: the result is delivered,
      -- or was lost to a cancellation
      rw [h.pooled requestId hx] at hcalls
      cases hget : a.requestPool.callers.get requestId with
      | none =>
          rw [h.pool.unknown requestId hget] at hcalls
          cases hcalls
      | some caller =>
          have hmatch := h.pool.callsMatch hget
          rw [hcalls] at hmatch
          obtain ⟨hcancelled, htwo⟩ | ⟨result, hfuture, hnode, hwork, -⟩ :=
            hmatch.of_reserve (List.mem_singleton.mpr rfl)
          · cases htwo
          · obtain hdelivered | hlost :=
              Asyncio.Waiter.delivered_or_lost hfuture
            · refine .inl ⟨caller, rfl, ?_⟩
              unfold ticketOf
              rw [hx, hfuture]
              obtain ⟨-, htask | htask⟩ := hdelivered
              · rw [htask]
                exact congrArg some (Prod.ext hnode hwork)
              · exact absurd htask (h.returned requestId hx caller hget result)
            · exact .inr (.inl ⟨requestId, caller, result, hget, hlost⟩)

/-- What is abandoned is reserved and not in hand. -/
theorem Bookkept.of_abandons (h : Bookkept a) (habandons : a.Abandons) :
    ∃ requestId ticket,
      callsFor a.calls requestId = [.reserve ticket.1 ticket.2] ∧
        (requestId, ticket) ∉ a.inHand := by
  obtain ⟨requestId, caller, result, hget, hlost⟩ | ⟨requestId, x, hx, hphase,
    hone⟩ := habandons
  -- a caller that lost its result has not returned, so it has no exchange
  · have hnone : a.exchanges.get requestId = none := by
      cases hx : a.exchanges.get requestId with
      | none => rfl
      | some x =>
          obtain ⟨caller', hget', htask⟩ := h.caller requestId x hx
          rw [hget] at hget'
          injection hget' with hget'
          obtain ⟨-, hmust | ⟨error, hraised⟩⟩ := hlost
          · rw [hget', htask] at hmust
            cases hmust
          · rw [hget', htask] at hraised
            cases hraised
    refine ⟨requestId, result.ticket, ?_, fun hmem => ?_⟩
    · have hmatch := h.pool.callsMatch hget
      rw [hlost.1] at hmatch
      rw [h.pooled requestId hnone]
      exact hmatch
    · obtain ⟨caller', hget', hticket⟩ := mem_inHand.mp hmem
      rw [hget] at hget'
      injection hget' with hget'
      unfold ticketOf at hticket
      rw [hnone, ← hget', hlost.1] at hticket
      obtain ⟨-, hmust | ⟨error, hraised⟩⟩ := hlost
      · rw [hmust] at hticket
        cases hticket
      · rw [hraised] at hticket
        cases hticket
  -- an exchange that has ended with one call
  · refine ⟨requestId, x.completion.assignment.ticket, hone, fun hmem => ?_⟩
    obtain ⟨caller, -, hticket⟩ := mem_inHand.mp hmem
    unfold ticketOf at hticket
    rw [hx] at hticket
    dsimp only at hticket
    rw [if_pos hphase] at hticket
    cases hticket

/-- The pool's calls are among all. -/
theorem Bookkept.pool_mem (h : Bookkept a) {call : RouteCall}
    (hmem : (requestId, call) ∈ a.requestPool.calls) :
    (requestId, call) ∈ a.calls := by
  have hpool : call ∈ a.requestPool.callsOf requestId := mem_callsFor.mpr hmem
  rw [← mem_callsFor]
  cases hx : a.exchanges.get requestId with
  | none =>
      rw [h.pooled requestId hx]
      exact hpool
  | some x =>
      rw [h.callsOf hx, List.mem_singleton] at hpool
      obtain hone | ⟨-, htwo⟩ := h.exchanged requestId x hx
      · rw [hone, hpool]
        exact List.mem_singleton.mpr rfl
      · rw [htwo, hpool]
        exact List.mem_cons_self ..

section Outstanding

variable {out : Multiset (RequestId × Ticket)}

/-- What is in hand is outstanding. -/
theorem Bookkept.inHand_le (h : Bookkept a) (hout : Holding a.calls out) :
    (a.inHand : Multiset (RequestId × Ticket)) ≤ out := by
  rw [Multiset.le_iff_subset (Multiset.coe_nodup.mpr a.nodup_inHand)]
  intro p hp
  exact (hout.mem _ _ _).mpr (h.calls_of_inHand (Multiset.mem_coe.mp hp))

/-- All that is outstanding is in hand, where nothing is abandoned. -/
theorem Bookkept.inHand_eq_iff (h : Bookkept a) (hout : Holding a.calls out) :
    (a.inHand : Multiset (RequestId × Ticket)) = out ↔ ¬ a.Abandons := by
  constructor
  · intro heq habandons
    obtain ⟨requestId, ticket, hcalls, hnot⟩ := h.of_abandons habandons
    have hmem : (requestId, ticket) ∈ out := (hout.mem _ _ _).mpr hcalls
    rw [← heq, Multiset.mem_coe] at hmem
    exact hnot hmem
  · intro hnone
    refine le_antisymm (h.inHand_le hout) ?_
    rw [Multiset.le_iff_subset hout.nodup]
    intro p hp
    exact Multiset.mem_coe.mpr
      ((h.inHand_or ((hout.mem _ _ _).mp hp)).resolve_right hnone)

end Outstanding

-- ============================================================ invariant

/-- The tracker carries what is outstanding, and a reservation names one of
its nodes. -/
structure Carried (a : App) : Prop where
  keyed : a.tracker.Keyed
  known : ∀ requestId nodeId work,
    (requestId, .reserve nodeId work) ∈ a.calls →
      nodeId ∈ a.tracker.entries.keys
  carries : ∀ out, Holding a.calls out → a.tracker.Carries (out.map Prod.snd)

section Invariant

variable {blake2b : List UInt8 → List UInt8}
  {decode : Bytes → Option RawMapEventBatch}
  {loads : Bytes → Except LoadsError PyJson.Json}
  {replayEndpoint : NodeId → Bool} {event : AppEvent}

/-- Calls that are made on the tracker. -/
theorem Carried.ofCalls (h : Carried a) (hbooks : Bookkept a)
    {t : KareserveTracker} {made : List (RequestId × RouteCall)}
    (hentries : t.entries = a.tracker.entries)
    (hcalls : a'.calls = a.calls ++ made)
    (htracker : a'.tracker = t.runCalls (made.map Prod.snd))
    (hknown : ∀ requestId nodeId work,
      (requestId, .reserve nodeId work) ∈ made →
        nodeId ∈ a.tracker.entries.keys) : Carried a' where
  keyed := by
    rw [htracker]
    apply KareserveTracker.Keyed.runCalls
    intro nodeId e he
    rw [hentries] at he
    exact h.keyed nodeId e he
  known requestId nodeId work hmem := by
    rw [hcalls] at hmem
    rw [htracker, KareserveTracker.keys_runCalls, hentries]
    obtain hbefore | hnew := List.mem_append.mp hmem
    · exact h.known requestId nodeId work hbefore
    · exact hknown requestId nodeId work hnew
  carries out' hout' := by
    obtain ⟨out, hout⟩ := exists_holding hbooks.oneTicket
    have hrun := hout'.run
    rw [hcalls, List.map_append, Lts.run_append, hout.run,
      Option.bind_some] at hrun
    have hcarries : t.Carries (out.map Prod.snd) := by
      intro nodeId e he
      rw [hentries] at he
      exact h.carries out hout nodeId e he
    rw [htracker]
    exact hcarries.runCalls hrun

/-- What another task does to one node. -/
theorem Carried.onNode (h : Carried a) {nodeId : NodeId}
    {f : NodeEntry → NodeEntry} (hcalls : a'.calls = a.calls)
    (htracker : a'.tracker = a.tracker.onNode nodeId f)
    (hf : ∀ e, (f e).node.nodeId = e.node.nodeId ∧
      (f e).node.routerActiveRequests = e.node.routerActiveRequests ∧
      (f e).node.routerInflightWork = e.node.routerInflightWork) :
    Carried a' where
  keyed := by
    rw [htracker]
    exact h.keyed.onNode fun e _ => (hf e).1
  known := by
    rw [hcalls, htracker]
    show ∀ requestId nodeId work, _ → _ ∈ (a.tracker.entries.modify _ _).keys
    rw [PyDict.keys_modify]
    exact h.known
  carries := by
    rw [hcalls, htracker]
    exact fun out hout => (h.carries out hout).onNode fun e => (hf e).2

/-- Where a plan comes from. -/
theorem poolEvent_planned {assignments : PyDict RequestId RouteAssignment}
    (hpe : a.poolEvent blake2b event = some (.planned assignments)) :
    ∃ group found, a.requestPool.worker = .planning group ∧
      event = .lookupReturned found ∧
      (a.routePlanner.selectOrRaise blake2b group found).2
        = .ok assignments := by
  cases event with
  | lookupReturned found =>
      simp only [poolEvent] at hpe
      split at hpe
      next group hworker =>
        injection hpe with hpe
        exact ⟨group, found, hworker, rfl, planEvent_planned hpe⟩
      next => cases hpe
  | _ => cases hpe

/-- A plan reserves on nodes the tracker knows. -/
theorem planned_known (hkeyed : a.tracker.Keyed)
    {group : List SchedulerRequest} {found : Option LookupResult}
    {assignments : PyDict RequestId RouteAssignment}
    (hselect : (a.routePlanner.selectOrRaise blake2b group found).2
      = .ok assignments)
    {assignment : RouteAssignment}
    (hget : assignments.get requestId = some assignment) :
    assignment.candidate.node.nodeId ∈ a.tracker.entries.keys := by
  have hbatch := RoutePlanner.assignsBatch hselect
  obtain ⟨request, -, -, hassigns⟩ := hbatch.legal requestId assignment hget
  obtain ⟨request', -, -, nodeId, e, he, pm, hcandidate⟩ :=
    KareserveTracker.mem_row_buildRouteCandidates hassigns.mem
  have hentries : (a.routePlanner.trackerAfter found).entries
      = a.tracker.entries := by
    cases found <;> rfl
  rw [hentries] at he
  have hid : assignment.candidate.node.nodeId = nodeId := by
    rw [hcandidate]
    exact hkeyed nodeId e he
  rw [hid, PyDict.mem_keys_iff]
  exact ⟨e, he⟩

/-- A step of an exchange makes its release if it has one. -/
theorem exchanged_tracker (a : App) (requestId : RequestId)
    (x : LiveExchange) (next : Phase × Bool) :
    (a.exchanged requestId x next).tracker = a.tracker.runCalls
      ((if next.2 then [(requestId, x.completion.releaseCall)]
        else []).map Prod.snd) := by
  unfold exchanged
  cases next.2 <;> rfl

/-- One event. -/
theorem Carried.step (h : Carried a) (hbooks : Bookkept a)
    (hstep : a.step blake2b decode loads replayEndpoint event = some a') :
    Carried a' := by
  cases hpe : a.poolEvent blake2b event with
  | some pe =>
      have hpart := step_pool hstep hpe
      obtain ⟨found, htracker⟩ := hpart.tracker
      refine h.ofCalls hbooks ?_ hpart.calls htracker
        fun requestId nodeId work hmem => ?_
      · cases found <;> rfl
      -- a new reservation is one of the plan, for a node with a candidate
      · have hafter : (requestId, RouteCall.reserve nodeId work)
            ∈ a'.requestPool.calls := List.mem_of_mem_drop hmem
        obtain hbefore | ⟨assignments, assignment, rfl, hget, hcall⟩ :=
          RequestPool.step_reserve hpart.step hafter
        · exact h.known requestId nodeId work (hbooks.pool_mem hbefore)
        · obtain ⟨group, found', -, -, hselect⟩ := poolEvent_planned hpe
          injection hcall with hnode _
          rw [← hnode]
          exact planned_known h.keyed hselect hget
  | none =>
      cases step_own hstep hpe with
      | exchange requestId event now x next hx hnext =>
          refine h.ofCalls hbooks rfl (exchanged_calls ..) (exchanged_tracker ..)
            fun requestId' nodeId work hmem => ?_
          split at hmem
          next => cases List.mem_singleton.mp hmem
          next => cases hmem
      | listener nodeId event l mc _ _ =>
          refine h.onNode rfl rfl fun e => ?_
          -- batches and pages change neither the counters nor the id
          have hresized : e.node.Resized (e.act decode mc.1).node :=
            e.act_node mc.1
          obtain ⟨size, hsize⟩ := hresized
          rw [hsize]
          exact ⟨rfl, rfl, rfl⟩
      | poll nodeId processStartSamples f =>
          exact h.onNode rfl rfl fun e => e.poll_node processStartSamples f

end Invariant

-- ================================================================ runs

section Runs

variable {blake2b : List UInt8 → List UInt8}
  {decode : Bytes → Option RawMapEventBatch}
  {loads : Bytes → Except LoadsError PyJson.Json}
  {replayEndpoint : NodeId → Bool}

/-- What holds of the router process in every state it reaches. -/
structure Sound (a : App) : Prop where
  books : Bookkept a
  handled : Handled a
  carried : Carried a

/-- A router with idle nodes starts with nothing in hand and nothing lost. -/
theorem start_sound (policy : Policy) (policyName : String)
    (prefixBlockSize maxPlanningGroupSize : ℤ) {initialNodes : List NodeState}
    (hidle : ∀ node ∈ initialNodes, node.Idle) :
    Sound (start policy policyName prefixBlockSize maxPlanningGroupSize
      replayEndpoint initialNodes) where
  books := start_books ..
  handled := start_handled _ _ _ _ _ _
  carried :=
    { keyed := .init initialNodes
      known := fun _ _ _ hmem => by cases hmem
      carries := fun out hout => by
        have hrun : some 0 = some (out.map Prod.snd) := hout.run
        injection hrun with hzero
        rw [← hzero]
        show (KareserveTracker.init initialNodes).Carries 0
        rw [KareserveTracker.init_eq_withLoad hidle]
        exact KareserveTracker.carries_withLoad _ _ }

/-- Nothing is abandoned at the start. -/
theorem not_start_abandons (policy : Policy) (policyName : String)
    (prefixBlockSize maxPlanningGroupSize : ℤ) (replayEndpoint : NodeId → Bool)
    (initialNodes : List NodeState) :
    ¬ (start policy policyName prefixBlockSize maxPlanningGroupSize
      replayEndpoint initialNodes).Abandons := by
  rintro (⟨requestId, caller, result, hget, -⟩ | ⟨requestId, x, hx, -⟩)
  · cases hget
  · cases hx

/-- One step: what a node carries changes with what is in hand there, but for
what the step abandons. -/
theorem Sound.step (h : Sound a) {event : AppEvent}
    (hstep : a.step blake2b decode loads replayEndpoint event = some a') :
    Sound a' ∧
      (a'.Abandons ↔ a.Abandons ∨ ¬ a.KeepsReservation loads event) := by
  obtain ⟨hbooks, hhandled, habandons⟩ := step_books h.books h.handled hstep
  exact ⟨⟨hbooks, hhandled, h.carried.step h.books hstep⟩, habandons⟩

/-- A ledger that is part of another, for the nodes the tracker knows. -/
theorem Sound.load_le (h : Sound a) {nodeId : NodeId} {e : NodeEntry}
    (he : a.tracker.entries.get nodeId = some e) :
    (Ledger.count a.tickets nodeId : ℤ) ≤ e.node.routerActiveRequests ∧
      Ledger.load a.tickets nodeId ≤ e.node.routerInflightWork := by
  obtain ⟨out, hout⟩ := exists_holding h.books.oneTicket
  have hle : a.tickets ≤ out.map Prod.snd :=
    Multiset.map_le_map (h.books.inHand_le hout)
  obtain ⟨hactive, hwork⟩ := h.carried.carries out hout nodeId e he
  rw [hactive, hwork]
  exact ⟨Int.ofNat_le.mpr (Multiset.countP_le_of_le _ hle),
    Ledger.load_mono hle nodeId⟩

/-- The counters are the load in hand exactly where nothing is abandoned. -/
theorem Sound.load_eq_iff (h : Sound a) :
    (∀ nodeId e, a.tracker.entries.get nodeId = some e →
      e.node.routerActiveRequests = Ledger.count a.tickets nodeId ∧
        e.node.routerInflightWork = Ledger.load a.tickets nodeId)
      ↔ ¬ a.Abandons := by
  obtain ⟨out, hout⟩ := exists_holding h.books.oneTicket
  have hcarries := h.carried.carries out hout
  rw [← h.books.inHand_eq_iff hout]
  constructor
  · intro heq
    -- what is in hand is outstanding; with equal counts at every node there is
    -- nothing else
    have hle : a.tickets ≤ out.map Prod.snd :=
      Multiset.map_le_map (h.books.inHand_le hout)
    have hsame : a.tickets = out.map Prod.snd := by
      refine Ledger.eq_of_le_of_count hle fun ticket hticket => ?_
      obtain ⟨⟨requestId, ticket'⟩, hmem, rfl⟩ := Multiset.mem_map.mp hticket
      have hcalls := (hout.mem _ _ _).mp hmem
      have hreserved : (requestId, RouteCall.reserve ticket'.1 ticket'.2)
          ∈ a.calls := by
        rw [← mem_callsFor, hcalls]
        exact List.mem_singleton.mpr rfl
      obtain ⟨e, he⟩ := PyDict.mem_keys_iff.mp
        (h.carried.known requestId ticket'.1 ticket'.2 hreserved)
      have hhand := (heq ticket'.1 e he).1
      rw [(hcarries ticket'.1 e he).1] at hhand
      exact (Int.ofNat_inj.mp hhand).symm
    refine Multiset.eq_of_le_of_card_le (h.books.inHand_le hout) ?_
    have hcard := congrArg Multiset.card hsame
    unfold tickets at hcard
    rw [Multiset.card_map] at hcard
    rw [← hcard, Multiset.coe_card, Multiset.coe_card, List.length_map]
  · intro heq nodeId e he
    have hsame : a.tickets = out.map Prod.snd := by
      rw [← heq]
      rfl
    rw [hsame]
    exact hcarries nodeId e he

/-- The load counters cover the requests in the router's hands. From idle
nodes, in any interleaving of requests, disconnects, plans, exchanges,
listeners, polls and shutdown: no node's counters are below the count and
the work of the requests it has in hand; and all are equal to them in
exactly the runs in which no caller is cancelled after its result is set
and no exchange ends past its release. -/
theorem load_in_hand_iff (blake2b : List UInt8 → List UInt8)
    (decode : Bytes → Option RawMapEventBatch)
    (loads : Bytes → Except LoadsError PyJson.Json)
    (replayEndpoint : NodeId → Bool) (policy : Policy) (policyName : String)
    (prefixBlockSize maxPlanningGroupSize : ℤ) (initialNodes : List NodeState)
    (hidle : ∀ node ∈ initialNodes, node.Idle) (events : List AppEvent)
    (a : App)
    (hrun : Lts.run (step blake2b decode loads replayEndpoint)
      (start policy policyName prefixBlockSize maxPlanningGroupSize
        replayEndpoint initialNodes) events = some a) :
    (∀ nodeId e, a.tracker.entries.get nodeId = some e →
      (Ledger.count a.tickets nodeId : ℤ) ≤ e.node.routerActiveRequests ∧
        Ledger.load a.tickets nodeId ≤ e.node.routerInflightWork) ∧
    ((∀ nodeId e, a.tracker.entries.get nodeId = some e →
      e.node.routerActiveRequests = Ledger.count a.tickets nodeId ∧
        e.node.routerInflightWork = Ledger.load a.tickets nodeId)
      ↔ Lts.Along (step blake2b decode loads replayEndpoint)
        (KeepsReservation loads)
        (start policy policyName prefixBlockSize maxPlanningGroupSize
          replayEndpoint initialNodes) events) := by
  obtain ⟨hsound, habandons⟩ := Lts.run_iff_along (I := Sound)
    (fun _ _ _ h hstep => h.step hstep)
    (start_sound policy policyName prefixBlockSize maxPlanningGroupSize hidle)
    hrun
  have hstart := not_start_abandons policy policyName prefixBlockSize
    maxPlanningGroupSize replayEndpoint initialNodes
  refine ⟨fun nodeId e he => hsound.load_le he, ?_⟩
  rw [hsound.load_eq_iff, habandons, not_or, not_not]
  exact ⟨fun hall => hall.2, fun hall => ⟨hstart, hall⟩⟩

/-- A router of one node, for concrete runs. -/
def oneNodeRouter : App :=
  start (.roundRobin { costModel := {}, nextIndex := 0 }) "round_robin" 16 8
    (fun _ => false) [{ nodeId := "a", cacheDomainId := "d" }]

/-- Two requests in one group: one is streamed, the other is cancelled before
the group is planned. -/
def streamAndCancel : List AppEvent :=
  [.request ⟨"r", [1, 2], 8⟩ ⟨"r", true⟩, .request ⟨"q", [1], 8⟩ ⟨"q", false⟩,
    .get, .collect, .poll "a" [] {}, .disconnect "q", .lookupReturned none,
    .resume "r" ⟨0, 0⟩, .upstream "r" (.opened none) 1, .upstream "r" .returned 2]

theorem load_in_hand_one_stream :
    ∃ a work, Lts.run (step id (fun _ => none) (fun _ => .error .jsonDecodeError)
        fun _ => false) oneNodeRouter streamAndCancel = some a ∧
      a.inHand = [("r", "a", work)] ∧
      ∀ e, a.tracker.entries.get "a" = some e →
        e.node.routerActiveRequests = 1 := by
  have hrun : (Lts.run (step id (fun _ => none) (fun _ => .error .jsonDecodeError)
        fun _ => false) oneNodeRouter streamAndCancel).map inHand
      = some [("r", "a", 5 / 128)] := by decide +kernel
  obtain ⟨a, ha, hhand⟩ := Option.map_eq_some_iff.mp hrun
  refine ⟨a, 5 / 128, ha, hhand, fun e he => ?_⟩
  have hexact := (load_in_hand_iff id (fun _ => none)
    (fun _ => .error .jsonDecodeError) (fun _ => false) _ _ _ _ _ (by decide)
    streamAndCancel a ha).2.mpr (by decide +kernel)
  rw [(hexact "a" e he).1]
  unfold tickets
  rw [hhand]
  rfl

end Runs

end App

end Kareserve
