/-
The tracker with all its listeners.

`__init__` makes one entry per node and `start` one listener task per
node; after that every event concerns one node, or the lookups of the
external caches. A listener reads and writes its own node's entry only,
so a run of the system, seen at one node, is a run of that node's
listener (`System.run_node`): what is proved about `Listener.step` holds
of every node of every system run.

A metrics page is here what it does to a catalog and its sequence. The
figures it writes besides, `gpu_block_size` for one, are in the polls of the
router process (Gateway/App.lean).
-/
import Mathlib.Logic.Function.Basic
import Kareserve.Tracker.History

namespace Kareserve

structure System where
  tracker : KareserveTracker
  control : NodeId → Control

inductive SystemEvent where
  | node (nodeId : NodeId) (event : NodeEvent)
  /-- `set_lmcache_lookup_status`. -/
  | lookup (failedDomains : List String)
  deriving DecidableEq

/-- A node's entry with its listener. -/
def System.listener (s : System) (nodeId : NodeId) : Option Listener :=
  (s.tracker.entries.get nodeId).map fun e => ⟨e, s.control nodeId⟩

/-- What an event is to one node. -/
def SystemEvent.seenBy (nodeId : NodeId) : SystemEvent → Option NodeEvent
  | .node nodeId' event => if nodeId' = nodeId then some event else none
  | .lookup _ => none

/-- Fresh nodes and started listeners. -/
def System.init (replayEndpoint : NodeId → Bool)
    (initialNodes : List NodeState) : System where
  tracker := .init initialNodes
  control nodeId :=
    if replayEndpoint nodeId then .replaying 0 none .initial else .receiving

section Decode

variable (decode : Bytes → Option RawMapEventBatch)
  (replayEndpoint : NodeId → Bool)

/-- One event. -/
def System.step (s : System) : SystemEvent → Option System
  | .node nodeId event =>
      (s.listener nodeId).bind fun l =>
        (l.step decode (replayEndpoint nodeId) event).map fun l' =>
          { tracker := s.tracker.onNode nodeId fun _ => l'.entry
            control := Function.update s.control nodeId l'.control }
  | .lookup failedDomains =>
      some { s with tracker := s.tracker.setLmcacheLookupStatus failedDomains }

end Decode

section Decode

variable {decode : Bytes → Option RawMapEventBatch}
  {replayEndpoint : NodeId → Bool}

/-- A system starts with its listeners started on fresh entries. -/
theorem System.init_listener {initialNodes : List NodeState}
    {nodeId : NodeId} {l : Listener}
    (h : (System.init replayEndpoint initialNodes).listener nodeId = some l) :
    ∃ node ∈ initialNodes, node.nodeId = nodeId
      ∧ l = .start (replayEndpoint nodeId) (.fresh node) := by
  obtain ⟨e, he, hl⟩ := Option.map_eq_some_iff.mp h
  obtain ⟨node, hnode, hid, hfresh⟩ := KareserveTracker.init_get he
  refine ⟨node, hnode, hid, ?_⟩
  rw [← hl, hfresh]
  rfl

/-- One event, seen at one node. -/
theorem System.step_node {s s' : System} {event : SystemEvent}
    (h : s.step decode replayEndpoint event = some s') {nodeId : NodeId}
    {l : Listener} (hl : s.listener nodeId = some l) :
    ∃ l', s'.listener nodeId = some l'
      ∧ Lts.run (Listener.step decode (replayEndpoint nodeId)) l
        (event.seenBy nodeId).toList = some l' := by
  cases event with
  -- a lookup marks domains and leaves every entry
  | lookup failedDomains =>
      injection h with h
      subst h
      exact ⟨l, hl, rfl⟩
  | node nodeId' event =>
      obtain ⟨l₁, hl₁, h⟩ := Option.bind_eq_some_iff.mp h
      obtain ⟨l₂, hstep, h⟩ := Option.map_eq_some_iff.mp h
      subst h
      obtain ⟨e, he, -⟩ := Option.map_eq_some_iff.mp hl
      by_cases hid : nodeId' = nodeId
      · subst hid
        rw [hl] at hl₁
        injection hl₁ with hl₁
        subst hl₁
        refine ⟨l₂, ?_, ?_⟩
        · unfold System.listener
          dsimp only
          rw [KareserveTracker.onNode_get, if_pos rfl, he,
            Function.update_self]
          rfl
        · rw [SystemEvent.seenBy, if_pos rfl]
          show Lts.run _ l [event] = some l₂
          rw [Lts.run_cons, hstep]
          rfl
      -- another node's event leaves this node's entry and its listener
      · refine ⟨l, ?_, ?_⟩
        · rw [← hl]
          unfold System.listener
          dsimp only
          rw [KareserveTracker.onNode_get, if_neg (Ne.symm hid),
            Function.update_of_ne (Ne.symm hid)]
        · rw [SystemEvent.seenBy, if_neg hid]
          rfl

/-- A run of the system, seen at one node, is a run of its listener. -/
theorem System.run_node {s s' : System} {events : List SystemEvent}
    (hrun : Lts.run (System.step decode replayEndpoint) s events = some s')
    {nodeId : NodeId} {l : Listener} (hl : s.listener nodeId = some l) :
    ∃ l', s'.listener nodeId = some l'
      ∧ Lts.run (Listener.step decode (replayEndpoint nodeId)) l
        (events.filterMap (·.seenBy nodeId)) = some l' := by
  induction events generalizing s l with
  | nil =>
      injection hrun with hrun
      subst hrun
      exact ⟨l, hl, rfl⟩
  | cons event events ih =>
      obtain ⟨s₁, hstep, hrest⟩ := Lts.run_cons_eq_some.mp hrun
      obtain ⟨l₁, hl₁, hfirst⟩ := System.step_node hstep hl
      obtain ⟨l', hl', hafter⟩ := ih hrest hl₁
      refine ⟨l', hl', ?_⟩
      have hsplit : (event :: events).filterMap (·.seenBy nodeId)
          = (event.seenBy nodeId).toList
            ++ events.filterMap (·.seenBy nodeId) := by
        rw [List.filterMap_cons]
        cases event.seenBy nodeId <;> rfl
      rw [hsplit, Lts.run_append, hfirst, Option.bind_some]
      exact hafter

/-- No node is added. -/
theorem System.run_unknown {s s' : System} {events : List SystemEvent}
    (hrun : Lts.run (System.step decode replayEndpoint) s events = some s')
    {nodeId : NodeId} (h : s.listener nodeId = none) :
    s'.listener nodeId = none := by
  refine Lts.run_preserves (I := fun s => s.listener nodeId = none) ?_ h hrun
  intro s event s' h hstep
  cases event with
  | lookup failedDomains =>
      injection hstep with hstep
      subst hstep
      exact h
  | node nodeId' event =>
      obtain ⟨l, -, hstep⟩ := Option.bind_eq_some_iff.mp hstep
      obtain ⟨l', -, hstep⟩ := Option.map_eq_some_iff.mp hstep
      subst hstep
      unfold System.listener at h ⊢
      rw [Option.map_eq_none_iff] at h ⊢
      rw [KareserveTracker.onNode_get, h]
      split <;> rfl

end Decode

-- ====================================================== what routing sees

theorem NodeEntry.eventMatch_nonneg (e : NodeEntry) (node : NodeRoutingState)
    (request : SchedulerRequest) :
    0 ≤ (e.eventMatch node request).gpuPrefixTokens := by
  unfold eventMatch
  split
  · exact Int.natCast_nonneg _
  · exact le_refl 0

/-- The GPU prefix of a candidate: the longest prefix of a healthy
catalog, and none of a degraded one. -/
theorem NodeEntry.eventMatch_gpuPrefixTokens (e : NodeEntry)
    (lmcacheCatalogStatus : CatalogStatus) (request : SchedulerRequest) :
    (e.eventMatch (e.routingState lmcacheCatalogStatus)
        request).gpuPrefixTokens
      = if e.gpuCatalogStatus = .healthy
          then (e.catalog.longestPrefix request.promptTokens : ℤ) else 0 := by
  unfold eventMatch routingState
  dsimp only
  split <;> rfl

theorem SchedulerRequest.abs_requiredTokens_le (request : SchedulerRequest)
    {gpuPrefixTokens : ℤ} (hnonneg : 0 ≤ gpuPrefixTokens) :
    |request.requiredTokens gpuPrefixTokens|
      ≤ request.promptTokens.length + |request.maxTokens| := by
  have hmissing : |max 0 ((request.promptTokens.length : ℤ) - gpuPrefixTokens)|
      ≤ request.promptTokens.length := by
    rw [abs_of_nonneg (le_max_left _ _)]
    exact max_le (Int.natCast_nonneg _) (by omega)
  unfold requiredTokens
  exact (abs_add_le _ _).trans (add_le_add_left hmissing _)

theorem NodeEntry.routeCandidate_gpuPrefixTokens (e : NodeEntry)
    (lmcacheCatalogStatus : CatalogStatus) (request : SchedulerRequest)
    (defaultBlockSize : ℤ) (externalMatch : Option PrefixMatch) :
    (e.routeCandidate (e.routingState lmcacheCatalogStatus) request
        defaultBlockSize externalMatch).prefixMatch.gpuPrefixTokens
      = if e.gpuCatalogStatus = .healthy
          then (e.catalog.longestPrefix request.promptTokens : ℤ) else 0 :=
  e.eventMatch_gpuPrefixTokens lmcacheCatalogStatus request

namespace KareserveTracker

/-- Candidates can be built for requests whose tokens a float can count,
prompt and output together. -/
theorem buildRouteCandidatesOrRaise_eq_ok (t : KareserveTracker)
    {requests : List SchedulerRequest}
    (hfits : ∀ request ∈ requests,
      ((request.promptTokens.length + |request.maxTokens| : ℤ) : ℚ)
        < PyJson.Float.limit)
    (defaultBlockSize : ℤ)
    (externalMatches : Option (PyDict RequestId (PyDict String PrefixMatch))) :
    t.buildRouteCandidatesOrRaise requests defaultBlockSize externalMatches
      = .ok (t.buildRouteCandidates requests defaultBlockSize
        externalMatches) := by
  apply if_neg
  rintro ⟨request, hrequest, e, -, hpos, htoo⟩
  have hrequired := request.abs_requiredTokens_le
    (e.eventMatch_nonneg
      (e.routingState (t.domainStatus e.node.cacheDomainId)) request)
  rw [← Int.cast_le (R := ℚ), Int.cast_abs] at hrequired
  rw [abs_div, abs_of_pos (Int.cast_pos.mpr hpos : (0 : ℚ) < _)] at htoo
  have hone : (1 : ℚ) ≤ ((e.routingState (t.domainStatus
      e.node.cacheDomainId)).blockSize defaultBlockSize : ℤ) := by
    exact_mod_cast hpos
  have hquotient := (div_le_self (abs_nonneg _) hone).trans hrequired
  exact absurd (htoo.trans hquotient) (not_le_of_gt (hfits request hrequest))

/-- What is built, if nothing raises. -/
theorem buildRouteCandidatesOrRaise_ok {t : KareserveTracker}
    {requests : List SchedulerRequest} {defaultBlockSize : ℤ}
    {externalMatches : Option (PyDict RequestId (PyDict String PrefixMatch))}
    {candidates : PyDict RequestId (PyDict NodeId RouteCandidate)}
    (h : t.buildRouteCandidatesOrRaise requests defaultBlockSize externalMatches
      = .ok candidates) :
    candidates
      = t.buildRouteCandidates requests defaultBlockSize externalMatches := by
  unfold buildRouteCandidatesOrRaise at h
  split at h
  · cases h
  · injection h with h
    exact h.symm

/-- Every candidate of a known node comes from one of the requests. -/
theorem buildRouteCandidates_gpuPrefix {t : KareserveTracker}
    {nodeId : NodeId} {e : NodeEntry} (h : t.entries.get nodeId = some e)
    {requests : List SchedulerRequest} {defaultBlockSize : ℤ}
    {externalMatches : Option (PyDict RequestId (PyDict String PrefixMatch))}
    {requestId : RequestId} {byNode : PyDict NodeId RouteCandidate}
    (hget : (t.buildRouteCandidates requests defaultBlockSize
      externalMatches).get requestId = some byNode) :
    ∃ request ∈ requests, request.requestId = requestId
      ∧ ∃ candidate, byNode.get nodeId = some candidate
        ∧ candidate.prefixMatch.gpuPrefixTokens
          = if e.gpuCatalogStatus = .healthy
              then (e.catalog.longestPrefix request.promptTokens : ℤ)
              else 0 := by
  have hmem := PyDict.mem_of_get_ofList hget
  obtain ⟨request, hrequest, heq⟩ := List.mem_map.mp hmem
  injection heq with hid hbyNode
  refine ⟨request, hrequest, hid, ?_⟩
  rw [← hbyNode, PyDict.get_map, h]
  exact ⟨_, rfl, e.routeCandidate_gpuPrefixTokens _ request _ _⟩

/-- A request that is asked about gets its candidates. -/
theorem buildRouteCandidates_known (t : KareserveTracker)
    {requests : List SchedulerRequest} {request : SchedulerRequest}
    (h : request ∈ requests) (defaultBlockSize : ℤ)
    (externalMatches : Option (PyDict RequestId (PyDict String PrefixMatch))) :
    ∃ byNode, (t.buildRouteCandidates requests defaultBlockSize
      externalMatches).get request.requestId = some byNode := by
  refine PyDict.exists_get_ofList ?_
  rw [List.map_map]
  exact List.mem_map.mpr ⟨request, h, rfl⟩

end KareserveTracker

end Kareserve
