/-
The candidate matrix the tracker builds.

Every entry of a tracker is kept under its own node's id (`Keyed`), from
`__init__` on and whatever happens to it. A matrix built from such a
tracker is keyed by node, its rows share the tracker's snapshots, and no
candidate asks for a negative number of blocks.

These are the hypotheses under which the policies are verified
(`SharedSnapshots`, `KeyedByNode`, `RequiredNonNeg`). Here they are
discharged, for every state a tracker can be in, so that none of them is
left as an assumption on what the process does.
-/
import Kareserve.Policy.Tiered
import Kareserve.Tracker.System

namespace Kareserve

namespace KareserveTracker

/-- Every entry is under its node's id. -/
def Keyed (t : KareserveTracker) : Prop :=
  ∀ nodeId e, t.entries.get nodeId = some e → e.node.nodeId = nodeId

theorem Keyed.init (initialNodes : List NodeState) :
    (KareserveTracker.init initialNodes).Keyed := by
  intro nodeId e he
  obtain ⟨node, -, hid, rfl⟩ := init_get he
  exact hid

/-- What does not rename a node keeps it under its id. -/
theorem Keyed.onNode {t : KareserveTracker} (h : t.Keyed) {nodeId : NodeId}
    {f : NodeEntry → NodeEntry}
    (hf : ∀ e, t.entries.get nodeId = some e →
      (f e).node.nodeId = e.node.nodeId) : (t.onNode nodeId f).Keyed := by
  intro nodeId' e he
  rw [onNode_get] at he
  split at he
  · rename_i hid
    obtain ⟨e', he', rfl⟩ := Option.map_eq_some_iff.mp he
    rw [hf e' (hid ▸ he')]
    exact h nodeId' e' he'
  · exact h nodeId' e he

theorem Keyed.setLmcacheLookupStatus {t : KareserveTracker} (h : t.Keyed)
    (failedDomains : List String) :
    (t.setLmcacheLookupStatus failedDomains).Keyed := h

end KareserveTracker

-- ==================================================== over a system run

theorem NodeEntry.updateProcessStart_nodeId (e : NodeEntry)
    (processStartSamples : List ℚ) :
    (e.updateProcessStart processStartSamples).node.nodeId = e.node.nodeId := by
  unfold updateProcessStart
  cases processStartSamples.getLast? with
  | none => rfl
  | some processStart =>
      dsimp only
      split <;> rfl

/-- No event of a listener renames its node. -/
theorem Listener.step_nodeId {decode : Bytes → Option RawMapEventBatch}
    {replayEndpoint : Bool} {l l' : Listener} {event : NodeEvent}
    (h : l.step decode replayEndpoint event = some l') :
    l'.entry.node.nodeId = l.entry.node.nodeId := by
  have hmove : ∀ mc : Move × Control,
      (l.entry.act decode mc.1).node.nodeId = l.entry.node.nodeId := by
    intro mc
    have hresized : l.entry.node.Resized (l.entry.act decode mc.1).node :=
      l.entry.act_node mc.1
    obtain ⟨size, hsize⟩ := hresized
    rw [hsize]
  cases event with
  | metrics samples =>
      injection h with h
      rw [← h]
      exact l.entry.updateProcessStart_nodeId samples
  | reserve work =>
      injection h with h
      rw [← h]
      rfl
  | release work =>
      injection h with h
      rw [← h]
      rfl
  | _ =>
      obtain ⟨mc, -, hl⟩ := Option.map_eq_some_iff.mp h
      rw [← hl]
      exact hmove mc

/-- In every state of the tracker's life, its entries are keyed. -/
theorem System.run_keyed {decode : Bytes → Option RawMapEventBatch}
    {replayEndpoint : NodeId → Bool} {s s' : System}
    {events : List SystemEvent} (h : s.tracker.Keyed)
    (hrun : Lts.run (System.step decode replayEndpoint) s events = some s') :
    s'.tracker.Keyed := by
  refine Lts.run_preserves (I := fun s => s.tracker.Keyed)
    (fun s event s' hs hstep => ?_) h hrun
  cases event with
  | lookup failedDomains =>
      injection hstep with hstep
      subst hstep
      exact hs.setLmcacheLookupStatus failedDomains
  | node nodeId event =>
      obtain ⟨l, hl, hstep⟩ := Option.bind_eq_some_iff.mp hstep
      obtain ⟨l', hlstep, hstep⟩ := Option.map_eq_some_iff.mp hstep
      subst hstep
      obtain ⟨e, he, rfl⟩ := Option.map_eq_some_iff.mp hl
      refine hs.onNode fun e' he' => ?_
      rw [he] at he'
      injection he' with he'
      rw [← he']
      exact Listener.step_nodeId hlstep

-- ======================================================= what it builds

section Build

variable {t : KareserveTracker} {requests : List SchedulerRequest}
  {defaultBlockSize : ℤ}
  {externalMatches : Option (PyDict RequestId (PyDict String PrefixMatch))}

namespace KareserveTracker

/-- Where a candidate comes from: a request, and an entry with its present
snapshot. -/
theorem mem_row_buildRouteCandidates {requestId : RequestId}
    {c : RouteCandidate}
    (h : c ∈ CandidateMatrix.row (t.buildRouteCandidates requests
      defaultBlockSize externalMatches) requestId) :
    ∃ request ∈ requests, request.requestId = requestId
      ∧ ∃ nodeId e, t.entries.get nodeId = some e
        ∧ ∃ externalMatch, c = e.routeCandidate
          (e.routingState (t.domainStatus e.node.cacheDomainId)) request
          defaultBlockSize externalMatch := by
  unfold CandidateMatrix.row at h
  cases hget : (t.buildRouteCandidates requests defaultBlockSize
      externalMatches).get requestId with
  | none =>
      rw [hget] at h
      cases h
  | some byNode =>
      rw [hget, Option.getD_some, PyDict.mem_values_iff] at h
      obtain ⟨nodeId, hc⟩ := h
      obtain ⟨request, hrequest, heq⟩ :=
        List.mem_map.mp (PyDict.mem_of_get_ofList hget)
      injection heq with hid hbyNode
      rw [← hbyNode, PyDict.get_map] at hc
      obtain ⟨e, he, hc⟩ := Option.map_eq_some_iff.mp hc
      exact ⟨request, hrequest, hid, nodeId, e, he, _, hc.symm⟩

/-- Every request has a candidate for every node. -/
theorem exists_mem_row_buildRouteCandidates {request : SchedulerRequest}
    (hrequest : request ∈ requests) {nodeId : NodeId} {e : NodeEntry}
    (he : t.entries.get nodeId = some e) :
    ∃ c ∈ CandidateMatrix.row (t.buildRouteCandidates requests
        defaultBlockSize externalMatches) request.requestId,
      c.node = e.routingState (t.domainStatus e.node.cacheDomainId) := by
  obtain ⟨byNode, hget⟩ := t.buildRouteCandidates_known hrequest
    defaultBlockSize externalMatches
  obtain ⟨request', -, heq⟩ :=
    List.mem_map.mp (PyDict.mem_of_get_ofList hget)
  injection heq with hid hbyNode
  have hmap := congrArg (fun byNode => byNode.get nodeId) hbyNode
  simp only [PyDict.get_map, he, Option.map_some] at hmap
  unfold CandidateMatrix.row
  rw [hget, Option.getD_some]
  exact ⟨_, PyDict.mem_values_iff.mpr ⟨nodeId, hmap.symm⟩, rfl⟩

/-- The row of a request, where the requests are distinct. -/
theorem get_buildRouteCandidates_row
    (hdistinct : (requests.map (·.requestId)).Nodup)
    {request : SchedulerRequest} (hrequest : request ∈ requests) :
    (t.buildRouteCandidates requests defaultBlockSize externalMatches).get
        request.requestId
      = some (t.entries.map fun _ e =>
          e.routeCandidate
            (e.routingState (t.domainStatus e.node.cacheDomainId)) request
            defaultBlockSize
            (((externalMatches.getD .empty).get request.requestId).bind
              fun byDomain => byDomain.get e.node.cacheDomainId)) := by
  unfold buildRouteCandidates
  refine (PyDict.get_ofList_eq_some ?_).mpr
    (List.mem_map.mpr ⟨request, hrequest, rfl⟩)
  rw [List.map_map]
  exact hdistinct

/-- All rows show the tracker's own snapshots. -/
theorem Keyed.sharedSnapshots (h : t.Keyed) :
    SharedSnapshots (t.buildRouteCandidates requests defaultBlockSize
      externalMatches) := by
  intro requestId c hc requestId' c' hc' hid
  obtain ⟨request, -, -, nodeId, e, he, pm, rfl⟩ :=
    mem_row_buildRouteCandidates hc
  obtain ⟨request', -, -, nodeId', e', he', pm', rfl⟩ :=
    mem_row_buildRouteCandidates hc'
  have hnode : e.node.nodeId = e'.node.nodeId := hid
  rw [h nodeId e he, h nodeId' e' he'] at hnode
  rw [hnode, he'] at he
  injection he with he
  rw [he]
  rfl

theorem Keyed.keyedByNode (h : t.Keyed) :
    KeyedByNode (t.buildRouteCandidates requests defaultBlockSize
      externalMatches) := by
  intro requestId byNode hget nodeId c hc
  obtain ⟨request, -, heq⟩ :=
    List.mem_map.mp (PyDict.mem_of_get_ofList hget)
  injection heq with hid hbyNode
  rw [← hbyNode, PyDict.get_map] at hc
  obtain ⟨e, he, rfl⟩ := Option.map_eq_some_iff.mp hc
  exact h nodeId e he

end KareserveTracker

theorem SchedulerRequest.requiredTokens_nonneg {request : SchedulerRequest}
    (hmax : 0 ≤ request.maxTokens) (gpuPrefixTokens : ℤ) :
    0 ≤ request.requiredTokens gpuPrefixTokens :=
  add_nonneg (le_max_left _ _) hmax

/-- A request that asks for no negative output needs no negative number
of blocks. -/
theorem NodeEntry.routeCandidate_required_nonneg {e : NodeEntry}
    {node : NodeRoutingState} {request : SchedulerRequest}
    {externalMatch : Option PrefixMatch} (hmax : 0 ≤ request.maxTokens)
    {required : ℤ}
    (h : (e.routeCandidate node request defaultBlockSize
      externalMatch).requiredNewGpuBlocks = some required) : 0 ≤ required := by
  unfold routeCandidate at h
  dsimp only at h
  split at h
  case isFalse => cases h
  case isTrue hpos =>
    injection h with h
    rw [← h]
    apply Int.ceil_nonneg
    apply Rounding.Format.round_nonneg
    apply div_nonneg _ (Int.cast_nonneg hpos.le)
    exact Int.cast_nonneg (SchedulerRequest.requiredTokens_nonneg hmax _)

/-- No candidate asks for a negative number of blocks. -/
def RequiredNonNeg (candidates : CandidateMatrix) : Prop :=
  ∀ requestId, ∀ c ∈ candidates.row requestId,
    ∀ required, c.requiredNewGpuBlocks = some required → 0 ≤ required

theorem KareserveTracker.buildRouteCandidates_required
    (hmax : ∀ request ∈ requests, 0 ≤ request.maxTokens) :
    RequiredNonNeg (t.buildRouteCandidates requests defaultBlockSize
      externalMatches) := by
  intro requestId c hc required hrequired
  obtain ⟨request, hrequest, -, nodeId, e, -, pm, rfl⟩ :=
    mem_row_buildRouteCandidates hc
  exact NodeEntry.routeCandidate_required_nonneg (hmax request hrequest)
    hrequired

end Build

-- ====================================================== a small instance

/-- A node of ten blocks, all of them free. -/
def tenBlockNode (nodeId : NodeId) : NodeState where
  nodeId
  cacheDomainId := "d"
  kvCacheUsage := some 0
  gpuTotalBlocks := some 10
  metricsStatus := .available

/-- A request that needs six blocks of sixteen tokens. -/
def sixBlockRequest (requestId : RequestId) : SchedulerRequest where
  requestId
  promptTokens := [1, 2]
  maxTokens := 94

/-- The matrix of such requests on such nodes. -/
def blockMatrix (nodeIds : List NodeId) (requestIds : List RequestId) :
    CandidateMatrix :=
  (KareserveTracker.init (nodeIds.map tenBlockNode)).buildRouteCandidates
    (requestIds.map sixBlockRequest) 16 none

/-- `TieredCompletionTimePolicy` with its defaults. -/
def tieredDefault : TieredCompletionTimePolicy :=
  .init {} (4 / 5) (19 / 20) 2 128 8 true

end Kareserve
