/-
The router's load counters are the outstanding reservations.

# The canonical tracker

`withLoad t out` is `t` with every node's two counters recomputed from
the multiset `out` of outstanding (node, work) tickets
(Lib/Ledger.lean). Reserving adds a ticket and releasing an outstanding
one takes it away, exactly (`withLoad_reserveRoute`,
`withLoad_releaseRoute`): no floor bites and the reset at zero count
resets nothing that was there. A history in which every release follows
its own reservation therefore ends in the canonical tracker of what is
outstanding, whatever the order (`runCalls_eq_withLoad`).

# By request

The calls of many requests are one log. `callsFor` reads the calls of one
request off it, and if those are a reservation and at most one release for
each (`OneTicket`), the log as a whole is a legal history: what is
outstanding are the tickets of the requests that have not released
(`exists_holding`). What makes the calls has therefore to be looked at one
request at a time.
-/
import Kareserve.Lib.Run
import Kareserve.Lib.Ledger
import Kareserve.Tracker.Basic

namespace Kareserve

/-- One outstanding reservation: the node and the work reserved on it. -/
abbrev Ticket := NodeId × ℚ

/-- A call of `reserve_route` or `release_route`. -/
inductive RouteCall where
  | reserve (nodeId : NodeId) (work : ℚ)
  | release (nodeId : NodeId) (work : ℚ)
  deriving DecidableEq

namespace KareserveTracker

/-- The call, on the tracker. -/
def call (t : KareserveTracker) : RouteCall → KareserveTracker
  | .reserve nodeId work => t.reserveRoute nodeId work
  | .release nodeId work => t.releaseRoute nodeId work

/-- One call after another. -/
def runCalls (t : KareserveTracker) (calls : List RouteCall) :
    KareserveTracker :=
  calls.foldl call t

end KareserveTracker

/-- The call, on the outstanding reservations; a release is enabled only
after its own reservation. -/
def outstandingStep (out : Multiset Ticket) :
    RouteCall → Option (Multiset Ticket)
  | .reserve nodeId work => some ((nodeId, work) ::ₘ out)
  | .release nodeId work =>
      if (nodeId, work) ∈ out then some (out.erase (nodeId, work)) else none

/-- A node no request has been counted on. -/
def NodeState.Idle (node : NodeState) : Prop :=
  node.routerActiveRequests = 0 ∧ node.routerInflightWork = 0

instance (node : NodeState) : Decidable node.Idle :=
  inferInstanceAs (Decidable (_ ∧ _))

-- ================================================= the canonical tracker

/-- A node with the counters the outstanding reservations give it. -/
def NodeState.withLoad (node : NodeState) (nodeId : NodeId)
    (out : Multiset Ticket) : NodeState :=
  { node with
    routerActiveRequests := Ledger.count out nodeId
    routerInflightWork := Ledger.load out nodeId }

/-- The tracker with the counters the outstanding reservations give
it. -/
def KareserveTracker.withLoad (t : KareserveTracker)
    (out : Multiset Ticket) : KareserveTracker :=
  { t with
    entries := t.entries.map fun nodeId e =>
      { e with node := e.node.withLoad nodeId out } }

namespace KareserveTracker

/-- An operation on one node that turns each node's load under `out` into
its load under `out'` turns the canonical tracker of `out` into that of
`out'`. -/
theorem withLoad_onNode (t : KareserveTracker) {out out' : Multiset Ticket}
    {nodeId : NodeId} (f : NodeState → NodeState)
    (hself : ∀ node : NodeState,
      f (node.withLoad nodeId out) = node.withLoad nodeId out')
    (hother : ∀ nodeId', nodeId' ≠ nodeId → ∀ node : NodeState,
      node.withLoad nodeId' out = node.withLoad nodeId' out') :
    (t.withLoad out).onNode nodeId (fun e => { e with node := f e.node })
      = t.withLoad out' := by
  unfold onNode withLoad
  dsimp only
  congr 1
  refine PyDict.ext_get ?_ fun nodeId' => ?_
  · rw [PyDict.keys_modify, PyDict.keys_map, PyDict.keys_map]
  · rw [PyDict.get_modify, PyDict.get_map, PyDict.get_map]
    by_cases h : nodeId' = nodeId
    · subst h
      rw [if_pos rfl, Option.map_map]
      cases t.entries.get nodeId' with
      | none => rfl
      | some e =>
          show some { e with node := f (e.node.withLoad nodeId' out) } = _
          rw [hself]
          rfl
    · rw [if_neg h]
      cases t.entries.get nodeId' with
      | none => rfl
      | some e =>
          show some { e with node := e.node.withLoad nodeId' out } = _
          rw [hother nodeId' h]
          rfl

/-- Reserving adds the ticket. -/
theorem withLoad_reserveRoute (t : KareserveTracker) (out : Multiset Ticket)
    (nodeId : NodeId) (work : ℚ) :
    (t.withLoad out).reserveRoute nodeId work
      = t.withLoad ((nodeId, work) ::ₘ out) := by
  refine t.withLoad_onNode (fun node => node.reserve work) (fun node => ?_)
    fun nodeId' h node => ?_
  · unfold NodeState.reserve NodeState.withLoad
    dsimp only
    rw [Ledger.count_cons, Ledger.load_cons, if_pos rfl, if_pos rfl]
    push_cast
    rfl
  · unfold NodeState.withLoad
    rw [Ledger.count_cons, Ledger.load_cons, if_neg (Ne.symm h),
      if_neg (Ne.symm h)]
    simp

/-- Releasing an outstanding ticket, on its node: neither floor bites, and
where the count reaches zero there was no other load. -/
theorem release_withLoad (node : NodeState) {out : Multiset Ticket}
    {nodeId : NodeId} {work : ℚ} (h : (nodeId, work) ∈ out) :
    (node.withLoad nodeId out).release work
      = node.withLoad nodeId (out.erase (nodeId, work)) := by
  have hcount := Ledger.count_erase h nodeId
  have hload := Ledger.load_erase h nodeId
  have hpos := Ledger.load_nonneg (out.erase (nodeId, work)) nodeId
  rw [if_pos rfl] at hcount hload
  have hactive : max 0 ((Ledger.count out nodeId : ℤ) - 1)
      = Ledger.count (out.erase (nodeId, work)) nodeId := by
    rw [hcount]
    push_cast
    omega
  unfold NodeState.release NodeState.withLoad
  dsimp only
  rw [hactive]
  by_cases hzero : Ledger.count (out.erase (nodeId, work)) nodeId = 0
  · rw [if_pos (by rw [hzero]; rfl),
      Ledger.load_eq_zero_of_count_eq_zero hzero]
  · rw [if_neg (by exact_mod_cast hzero), hload, add_sub_cancel_right,
      max_eq_right hpos]

/-- Releasing an outstanding ticket takes it away. -/
theorem withLoad_releaseRoute (t : KareserveTracker) {out : Multiset Ticket}
    {nodeId : NodeId} {work : ℚ} (hmem : (nodeId, work) ∈ out) :
    (t.withLoad out).releaseRoute nodeId work
      = t.withLoad (out.erase (nodeId, work)) := by
  refine t.withLoad_onNode (fun node => node.release work)
    (fun node => release_withLoad node hmem) fun nodeId' h node => ?_
  have hcount := Ledger.count_erase hmem nodeId'
  have hload := Ledger.load_erase hmem nodeId'
  rw [if_neg (Ne.symm h), Nat.add_zero] at hcount
  rw [if_neg (Ne.symm h), add_zero] at hload
  unfold NodeState.withLoad
  rw [hcount, hload]

/-- One legal call. -/
theorem withLoad_call (t : KareserveTracker) {out out' : Multiset Ticket}
    {c : RouteCall} (h : outstandingStep out c = some out') :
    (t.withLoad out).call c = t.withLoad out' := by
  cases c with
  | reserve nodeId work =>
      injection h with h
      subst h
      exact t.withLoad_reserveRoute out nodeId work
  | release nodeId work =>
      simp only [outstandingStep] at h
      by_cases hmem : (nodeId, work) ∈ out
      · rw [if_pos hmem] at h
        injection h with h
        subst h
        exact t.withLoad_releaseRoute hmem
      · rw [if_neg hmem] at h
        cases h

/-- A legal history ends in the canonical tracker of what is
outstanding. -/
theorem runCalls_eq_withLoad (t : KareserveTracker) {calls : List RouteCall}
    {out out' : Multiset Ticket}
    (h : Lts.run outstandingStep out calls = some out') :
    (t.withLoad out).runCalls calls = t.withLoad out' := by
  induction calls generalizing out with
  | nil =>
      rw [Lts.run_nil] at h
      injection h with h
      subst h
      rfl
  | cons c calls ih =>
      rcases Lts.run_cons_eq_some.mp h with ⟨out₁, hstep, hrest⟩
      show ((t.withLoad out).call c).runCalls calls = _
      rw [t.withLoad_call hstep]
      exact ih hrest

end KareserveTracker

-- ================================================== calls by request

/-- The calls made for one request, in order. -/
def callsFor (calls : List (RequestId × RouteCall)) (requestId : RequestId) :
    List RouteCall :=
  calls.filterMap fun c => if c.1 = requestId then some c.2 else none

theorem callsFor_append (calls calls' : List (RequestId × RouteCall))
    (requestId : RequestId) :
    callsFor (calls ++ calls') requestId
      = callsFor calls requestId ++ callsFor calls' requestId :=
  List.filterMap_append

theorem callsFor_concat_self (calls : List (RequestId × RouteCall))
    (requestId : RequestId) (call : RouteCall) :
    callsFor (calls ++ [(requestId, call)]) requestId
      = callsFor calls requestId ++ [call] := by
  rw [callsFor_append]
  simp [callsFor]

theorem callsFor_concat_of_ne (calls : List (RequestId × RouteCall))
    {requestId requestId' : RequestId} (h : requestId ≠ requestId')
    (call : RouteCall) :
    callsFor (calls ++ [(requestId', call)]) requestId
      = callsFor calls requestId := by
  rw [callsFor_append]
  simp [callsFor, Ne.symm h]

theorem mem_callsFor {calls : List (RequestId × RouteCall)}
    {requestId : RequestId} {call : RouteCall} :
    call ∈ callsFor calls requestId ↔ (requestId, call) ∈ calls := by
  unfold callsFor
  rw [List.mem_filterMap]
  constructor
  · intro h
    obtain ⟨⟨id, c⟩, hmem, hsome⟩ := h
    dsimp only at hsome
    split at hsome
    case isTrue heq =>
      injection hsome with hsome
      rw [← heq, ← hsome]
      exact hmem
    case isFalse => cases hsome
  · intro h
    exact ⟨_, h, if_pos rfl⟩

/-- The calls for one request are at most a reservation and its
release. -/
def OneTicket (calls : List RouteCall) : Prop :=
  calls = [] ∨ ∃ nodeId work, calls = [.reserve nodeId work]
    ∨ calls = [.reserve nodeId work, .release nodeId work]

/-- The last of a request's calls is its reservation or the release that
follows it. -/
theorem OneTicket.concat {calls : List RouteCall} {call : RouteCall}
    (h : OneTicket (calls ++ [call])) :
    ∃ nodeId work, (calls = [] ∧ call = .reserve nodeId work)
      ∨ (calls = [.reserve nodeId work] ∧ call = .release nodeId work) := by
  rcases h with hnil | ⟨nodeId, work, hone | htwo⟩
  · exact absurd hnil (List.append_ne_nil_of_right_ne_nil _ (by simp))
  · have hparts : calls ++ [call] = [] ++ [.reserve nodeId work] := hone
    obtain ⟨hcalls, hcall⟩ := List.append_inj' hparts rfl
    injection hcall with hcall
    exact ⟨nodeId, work, Or.inl ⟨hcalls, hcall⟩⟩
  · have hparts : calls ++ [call]
        = [.reserve nodeId work] ++ [.release nodeId work] := htwo
    obtain ⟨hcalls, hcall⟩ := List.append_inj' hparts rfl
    injection hcall with hcall
    exact ⟨nodeId, work, Or.inr ⟨hcalls, hcall⟩⟩

/-- `calls` is a legal history, and `out` are the tickets of the requests
that have not released theirs. -/
structure Holding (calls : List (RequestId × RouteCall))
    (out : Multiset (RequestId × Ticket)) : Prop where
  nodup : out.Nodup
  run : Lts.run outstandingStep 0 (calls.map Prod.snd)
    = some (out.map Prod.snd)
  mem : ∀ requestId nodeId work, (requestId, nodeId, work) ∈ out
    ↔ callsFor calls requestId = [.reserve nodeId work]

section Holding

variable {calls : List (RequestId × RouteCall)}
  {out : Multiset (RequestId × Ticket)} {id : RequestId} {nodeId : String}
  {work : ℚ}

/-- A first reservation adds its ticket. -/
theorem Holding.reserve (h : Holding calls out)
    (hcalls : callsFor calls id = []) :
    Holding (calls ++ [(id, .reserve nodeId work)])
      ((id, nodeId, work) ::ₘ out) where
  nodup := by
    refine Multiset.nodup_cons.mpr ⟨fun hin => ?_, h.nodup⟩
    rw [h.mem, hcalls] at hin
    cases hin
  run := by
    rw [List.map_append, List.map_singleton, Lts.run_concat_eq_some]
    exact ⟨_, h.run, by rw [Multiset.map_cons]; rfl⟩
  mem := by
    intro requestId nodeId' work'
    rw [Multiset.mem_cons, h.mem]
    by_cases heq : requestId = id
    · subst heq
      rw [callsFor_concat_self, hcalls]
      simp
      tauto
    · rw [callsFor_concat_of_ne calls heq]
      simp [heq]

/-- The release that follows a reservation takes its ticket out. -/
theorem Holding.release (h : Holding calls out)
    (hcalls : callsFor calls id = [.reserve nodeId work]) :
    Holding (calls ++ [(id, .release nodeId work)])
      (out.erase (id, nodeId, work)) where
  nodup := h.nodup.erase _
  run := by
    have hin : (id, nodeId, work) ∈ out := (h.mem _ _ _).mpr hcalls
    have hticket : (nodeId, work) ∈ out.map Prod.snd :=
      Multiset.mem_map_of_mem _ hin
    rw [List.map_append, List.map_singleton, Lts.run_concat_eq_some]
    refine ⟨_, h.run, ?_⟩
    show (if (nodeId, work) ∈ out.map Prod.snd
      then some ((out.map Prod.snd).erase (nodeId, work)) else none) = _
    rw [if_pos hticket, ← Multiset.map_erase_of_mem _ _ hin]
  mem := by
    intro requestId nodeId' work'
    by_cases heq : requestId = id
    · subst heq
      rw [callsFor_concat_self, hcalls]
      refine iff_of_false (fun hleft => ?_) fun htwo => by cases htwo
      have hold := (h.mem _ _ _).mp (Multiset.mem_of_mem_erase hleft)
      rw [hcalls] at hold
      injection hold with hold
      injection hold with hnode hwork
      subst hnode
      subst hwork
      exact h.nodup.notMem_erase hleft
    · rw [callsFor_concat_of_ne calls heq, ← h.mem]
      exact Multiset.mem_erase_of_ne fun hpair =>
        heq (congrArg Prod.fst hpair)

end Holding

/-- Requests that each keep to their own ticket make a legal history
together, however their calls interleave. -/
theorem exists_holding {calls : List (RequestId × RouteCall)}
    (h : ∀ requestId, OneTicket (callsFor calls requestId)) :
    ∃ out, Holding calls out := by
  induction calls using List.reverseRecOn with
  | nil =>
      exact ⟨0, Multiset.nodup_zero, rfl, by simp [callsFor]⟩
  | append_singleton calls c ih =>
      obtain ⟨id, call⟩ := c
      have hid := h id
      rw [callsFor_concat_self] at hid
      obtain ⟨nodeId, work, hlast⟩ := hid.concat
      have hbefore : ∀ requestId, OneTicket (callsFor calls requestId) := by
        intro requestId
        by_cases heq : requestId = id
        · rw [heq]
          obtain ⟨hcalls, -⟩ | ⟨hcalls, -⟩ := hlast
          · exact Or.inl hcalls
          · exact Or.inr ⟨nodeId, work, Or.inl hcalls⟩
        · rw [← callsFor_concat_of_ne calls heq call]
          exact h requestId
      obtain ⟨out, hout⟩ := ih hbefore
      obtain ⟨hcalls, hcall⟩ | ⟨hcalls, hcall⟩ := hlast
      · subst hcall
        exact ⟨_, hout.reserve hcalls⟩
      · subst hcall
        exact ⟨_, hout.release hcalls⟩

namespace KareserveTracker

-- ======================================================= the fresh start

/-- Idle initial nodes: nothing is outstanding. -/
theorem init_eq_withLoad {initialNodes : List NodeState}
    (hidle : ∀ node ∈ initialNodes, node.Idle) :
    init initialNodes = (init initialNodes).withLoad 0 := by
  unfold withLoad
  have hentries : (init initialNodes).entries
      = (init initialNodes).entries.map fun nodeId e =>
          { e with node := e.node.withLoad nodeId 0 } := by
    refine PyDict.ext_get (PyDict.keys_map _ _).symm fun nodeId => ?_
    rw [PyDict.get_map]
    cases hget : (init initialNodes).entries.get nodeId with
    | none => rfl
    | some e =>
        rcases init_get hget with ⟨node, hnode, -, rfl⟩
        rcases hidle node hnode with ⟨hactive, hwork⟩
        have hload : node.withLoad nodeId 0 = node := by
          unfold NodeState.withLoad
          rw [Ledger.count_zero, Ledger.load_zero, Nat.cast_zero, ← hactive,
            ← hwork]
        show some (NodeEntry.fresh node)
          = some { NodeEntry.fresh node with node := node.withLoad nodeId 0 }
        rw [hload]
        rfl
  rw [← hentries]

/-- With nothing outstanding, every node is idle. -/
theorem withLoad_zero_idle {t : KareserveTracker} {nodeId : NodeId}
    {e : NodeEntry} (h : (t.withLoad 0).entries.get nodeId = some e) :
    e.node.Idle := by
  unfold withLoad at h
  rw [PyDict.get_map] at h
  obtain ⟨e₀, -, he⟩ := Option.map_eq_some_iff.mp h
  rw [← he]
  exact ⟨by simp [NodeState.withLoad], by simp [NodeState.withLoad]⟩

/-- The counters of a canonical tracker, as policies see them. -/
theorem withLoad_getRoutingStates {t : KareserveTracker} {nodeId : NodeId}
    {e : NodeEntry} (h : t.entries.get nodeId = some e)
    (out : Multiset Ticket) :
    ∃ s, (t.withLoad out).getRoutingStates.get nodeId = some s
      ∧ s.routerActiveRequests = Ledger.count out nodeId
      ∧ s.routerInflightWork = Ledger.load out nodeId := by
  rw [getRoutingStates_get]
  unfold withLoad
  rw [PyDict.get_map, h]
  exact ⟨_, rfl, rfl, rfl⟩

/-- Releasing outstanding tickets, in any order, is legal and leaves the
others. -/
theorem run_releases {order : List Ticket} {out : Multiset Ticket}
    (h : (order : Multiset Ticket) ≤ out) :
    Lts.run outstandingStep out (order.map fun t => .release t.1 t.2)
      = some (out - order) := by
  induction order generalizing out with
  | nil => simp
  | cons t order ih =>
      rw [← Multiset.cons_coe] at h
      have hmem : t ∈ out := Multiset.mem_of_le h (Multiset.mem_cons_self _ _)
      have hrest : (order : Multiset Ticket) ≤ out.erase t := by
        have herase := Multiset.erase_le_erase t h
        rwa [Multiset.erase_cons_head] at herase
      have hstep : outstandingStep out (.release t.1 t.2)
          = some (out.erase t) := if_pos hmem
      rw [List.map_cons, Lts.run_cons, hstep, Option.bind_some, ih hrest,
        ← Multiset.cons_coe, Multiset.sub_cons]

/-- The load counters are the outstanding reservations. From idle nodes,
after any calls in which every release follows its own reservation:
every node's count and load are those of its outstanding reservations;
releasing any of them takes off exactly one request and exactly its
work, so neither the floors nor the reset ever hides load; and releasing
some of them in one order or another ends in one state. -/
theorem load_counters_eq_outstanding (initialNodes : List NodeState)
    (hidle : ∀ node ∈ initialNodes, node.Idle) (calls : List RouteCall)
    (out : Multiset Ticket)
    (hlegal : Lts.run outstandingStep 0 calls = some out) :
    let t := (init initialNodes).runCalls calls
    (∀ node ∈ initialNodes, ∃ s,
      t.getRoutingStates.get node.nodeId = some s
        ∧ s.routerActiveRequests = Ledger.count out node.nodeId
        ∧ s.routerInflightWork = Ledger.load out node.nodeId)
    ∧ (∀ nodeId work e, (nodeId, work) ∈ out →
      t.entries.get nodeId = some e →
        (e.node.release work).routerActiveRequests
          = e.node.routerActiveRequests - 1
        ∧ (e.node.release work).routerInflightWork
          = e.node.routerInflightWork - max 0 work)
    ∧ ∀ order order' : List Ticket, order.Perm order' →
      (order : Multiset Ticket) ≤ out →
        t.runCalls (order.map fun t => .release t.1 t.2)
          = t.runCalls (order'.map fun t => .release t.1 t.2) := by
  dsimp only
  -- the tracker is the idle one with the load of what is outstanding
  have hload : (init initialNodes).runCalls calls
      = (init initialNodes).withLoad out := by
    have hrun := (init initialNodes).runCalls_eq_withLoad hlegal
    rwa [← init_eq_withLoad hidle] at hrun
  rw [hload]
  refine ⟨fun node hnode => ?_, fun nodeId work e hmem hget => ?_,
    fun order order' hperm hle => ?_⟩
  · rcases init_known hnode with ⟨e, he⟩
    exact withLoad_getRoutingStates he out
  · have hentry : ∃ node : NodeState, e.node = node.withLoad nodeId out := by
      unfold withLoad at hget
      rw [PyDict.get_map] at hget
      cases hinit : (init initialNodes).entries.get nodeId with
      | none =>
          rw [hinit] at hget
          cases hget
      | some e₀ =>
          rw [hinit] at hget
          injection hget with he
          exact ⟨e₀.node, by rw [← he]⟩
    rcases hentry with ⟨node, hnode⟩
    -- a ticket that is outstanding takes exactly itself off the ledger
    have hcount := Ledger.count_erase hmem nodeId
    have hwork := Ledger.load_erase hmem nodeId
    rw [if_pos rfl] at hcount hwork
    rw [hnode, release_withLoad node hmem]
    unfold NodeState.withLoad
    dsimp only
    rw [hcount, hwork]
    constructor
    · push_cast
      omega
    · rw [add_sub_cancel_right]
  -- after the releases the load is that of what remains, in whatever order it
  -- was reached
  · have hle' : (order' : Multiset Ticket) ≤ out := by
      rwa [← Multiset.coe_eq_coe.mpr hperm]
    rw [runCalls_eq_withLoad _ (run_releases hle),
      runCalls_eq_withLoad _ (run_releases hle'),
      Multiset.coe_eq_coe.mpr hperm]

/-- Two overlapping requests, one of them of negative work. -/
theorem load_counters_two_requests :
    let t := (init [{ nodeId := "a", cacheDomainId := "d" }]).runCalls
      [.reserve "a" 3, .reserve "a" (-1), .release "a" 3]
    ∃ s, t.getRoutingStates.get "a" = some s
      ∧ s.routerActiveRequests = 1 ∧ s.routerInflightWork = 0 := by
  have hlegal : Lts.run outstandingStep 0
      [.reserve "a" 3, .reserve "a" (-1), .release "a" 3]
      = some {("a", -1)} := by decide
  have h := (load_counters_eq_outstanding
    [{ nodeId := "a", cacheDomainId := "d" }] (by decide) _ _ hlegal).1
    { nodeId := "a", cacheDomainId := "d" } (by decide)
  rcases h with ⟨s, hs, hactive, hwork⟩
  refine ⟨s, hs, ?_, ?_⟩
  · rw [hactive]
    rfl
  · rw [hwork]
    show Ledger.load (("a", -1) ::ₘ 0) "a" = (0 : ℚ)
    rw [Ledger.load_cons, Ledger.load_zero]
    norm_num

end KareserveTracker

end Kareserve
