/-
What a plan sees of a node's GPU cache (Gateway/App.lean).

# From the publisher to the plan

vLLM publishes numbered batches of block events. The network may lose any
of them, a replay may find some of them again (Tracker/Publisher.lean), the
listener applies what reaches it, and a plan walks the catalog this leaves.
Each part has its theorem: a healthy listener holds a prefix of one
generation (Tracker/Proofs/Sequence.lean), a catalog is the operation log of
its batches, and the walk finds the chains of that log
(Tracker/Proofs/Prefix.lean). Here they meet in the router process, whose
requests, plans and exchanges write to the same entries as the listener:
what the node's listener did in the run is what it does alone
(`RunsAs.run`), hence what it does on the network (`Net.run_listener`).

# What is asked of the publisher

`Publisher` has batches that are not empty and hashes that name their
blocks: within one generation a hash is always stored with the same parent
and tokens. `Brings` says which network brought the node's listener what the
run shows it, without a change of generations that cannot be seen.
-/
import Kareserve.Gateway.Proofs.Caches
import Kareserve.Gateway.Proofs.Parts
import Kareserve.Tracker.Proofs.Prefix
import Kareserve.Tracker.Proofs.Sequence

namespace Kareserve

-- =============================================================== publishers

/-- A vLLM publisher: batch `n` of generation `g` is `batch g n`. -/
structure Publisher (decode : Bytes → Option RawMapEventBatch) where
  batch : ℕ → ℕ → Bytes
  ne_nil : ∀ generation number, batch generation number ≠ []
  /-- Hashes name their blocks. -/
  consistent : ∀ generation k, IndexedTable.Consistent
    (opLog decode ((List.range k).map (batch generation)))

/-- What the first `k` batches of a generation store, remove and clear. -/
def Publisher.log {decode : Bytes → Option RawMapEventBatch}
    (p : Publisher decode) (generation k : ℕ) : List CatalogOp :=
  opLog decode ((List.range k).map (p.batch generation))

/-- A run of the network that brings a node's listener `heard`. -/
structure Publisher.Brings {decode : Bytes → Option RawMapEventBatch}
    (p : Publisher decode) (replayEndpoint : Bool) (node : NodeState)
    (window : Window) (netEvents : List NetEvent) (s : Net)
    (heard : List NodeEvent) : Prop where
  inRange : window.hi ≤ 2 ^ 63
  run : Lts.run (Net.step p.batch decode replayEndpoint)
    (.init replayEndpoint node window) netEvents = some s
  unmixed : Lts.Along (Net.step p.batch decode replayEndpoint)
    (Net.Unmixed replayEndpoint) (.init replayEndpoint node window) netEvents
  heard : Lts.trace (Net.event p.batch) (Net.step p.batch decode replayEndpoint)
    (.init replayEndpoint node window) netEvents = heard

section Network

variable {batch : ℕ → ℕ → Bytes} {decode : Bytes → Option RawMapEventBatch}
  {replayEndpoint : Bool}

/-- What a run of the network brings is a run of the listener. -/
theorem Net.run_listener {s s' : Net} {netEvents : List NetEvent}
    (hrun : Lts.run (Net.step batch decode replayEndpoint) s netEvents
      = some s') :
    Lts.run (Listener.step decode replayEndpoint) s.listener
      (Lts.trace (Net.event batch) (Net.step batch decode replayEndpoint) s
        netEvents) = some s'.listener := by
  have hstep : ∀ (s : Net) event s' l, s.listener = l →
      s.step batch decode replayEndpoint event = some s' →
      ∃ l', Lts.run (Listener.step decode replayEndpoint) l
        (s.event batch event).toList = some l' ∧ s'.listener = l' := by
    rintro s event s' l rfl hstep
    obtain ⟨ev, l', hev, hl', rfl⟩ := Net.step_eq_some hstep
    refine ⟨l', ?_, rfl⟩
    rw [hev]
    show Lts.run _ s.listener [ev] = _
    rw [Lts.run_cons, hl']
    rfl
  obtain ⟨l, hl, hsame⟩ := Lts.run_simulates (Net.event batch) hstep rfl hrun
  rw [hsame]
  exact hl

/-- What a listener that waits for a live batch holds, while its node is
healthy: nothing, or all there is up to the last batch it received. -/
def Net.UpToDate (s : Net) : Prop :=
  s.listener.entry.gpuCatalogStatus = .healthy →
    s.listener.control = .receiving → s.history = [] ∨ s.Caught

/-- A page clears all there is or nothing. -/
theorem Net.UpToDate.metrics {s s' : Net} (h : s.UpToDate)
    {samples : List ℚ}
    (hstep : s.step batch decode replayEndpoint (.metrics samples) = some s') :
    s'.UpToDate := by
  obtain ⟨ev, l, hev, hl, rfl⟩ := Net.step_eq_some hstep
  injection hev with hev
  subst hev
  injection hl with hl
  subst hl
  intro hhealthy hreceiving
  dsimp only at hhealthy hreceiving
  rw [NodeEntry.updateProcessStart_status] at hhealthy
  have hrecord : s.listener.record decode replayEndpoint (.metrics samples)
      (fun _ => s.tag (.metrics samples)) s.history
      = if s.listener.entry.startChanged samples then [] else s.history := by
    unfold Listener.record Listener.applied
    rw [Listener.move_metrics]
    exact List.append_nil _
  by_cases hchanged : s.listener.entry.startChanged samples = true
  · rw [if_pos hchanged] at hrecord
    exact .inl hrecord
  · rw [if_neg hchanged] at hrecord
    obtain hnil | hcaught := h hhealthy hreceiving
    · exact .inl (hrecord.trans hnil)
    · refine .inr fun generation number hreceived => ?_
      obtain ⟨k, hk, hhistory⟩ := hcaught generation number hreceived
      exact ⟨k, hk, hrecord.trans hhistory⟩

theorem Net.run_upToDate (hne : ∀ g n, batch g n ≠ []) {node : NodeState}
    {window : Window} (hwindow : window.hi ≤ 2 ^ 63)
    {netEvents : List NetEvent} {s : Net}
    (hok : Lts.Along (Net.step batch decode replayEndpoint)
      (Net.Unmixed replayEndpoint) (Net.init replayEndpoint node window)
      netEvents)
    (hrun : Lts.run (Net.step batch decode replayEndpoint)
      (Net.init replayEndpoint node window) netEvents = some s) :
    (s.Wf batch decode ∧ s.Healthy) ∧ s.UpToDate := by
  refine Lts.run_invariant
    (I := fun s : Net => (s.Wf batch decode ∧ s.Healthy) ∧ s.UpToDate) ?_
    ⟨⟨Net.init_wf node hwindow, Net.init_healthy node window⟩,
      fun _ _ => .inl rfl⟩ hok hrun
  rintro s₁ event s₂ ⟨⟨hwf, hinv⟩, hupToDate⟩ hstepOk hstep
  refine ⟨⟨hwf.step hne hstep, fun hhealthy =>
    (Net.healthy_step hne hwf hinv hstepOk hstep hhealthy).1⟩, ?_⟩
  cases event with
  | metrics samples => exact hupToDate.metrics hstep
  | _ =>
      intro hhealthy hreceiving
      exact .inr ((Net.healthy_step hne hwf hinv hstepOk hstep hhealthy).2
        hreceiving fun samples h => by cases h)

end Network

-- ============================================================ what is found

/-- A hit of `n` tokens in the blocks of a log: a chain of live blocks
spells them, and no chain of current ones spells more of the prompt. -/
structure LongestHit (log : List CatalogOp) (prompt : List Token) (n : ℕ) :
    Prop where
  le_length : n ≤ prompt.length
  live : ∃ blockSize chain, LiveChain log blockSize none chain ∧
    chainTokens chain = prompt.take n
  longest : ∀ blockSize chain, CurrentChain log blockSize none chain →
    chainTokens chain <+: prompt → (chainTokens chain).length ≤ n

theorem longestPrefix_longestHit {decode : Bytes → Option RawMapEventBatch}
    {payloads : List Bytes}
    (hc : IndexedTable.Consistent (opLog decode payloads))
    (prompt : List Token) :
    LongestHit (opLog decode payloads) prompt
      ((catalogAfter decode payloads).longestPrefix prompt) := by
  obtain ⟨hle, blockSize, chain, hchain, htokens⟩ :=
    (catalogAfter decode payloads).longestPrefix_sound prompt
  exact {
    le_length := hle
    live := ⟨blockSize, chain, indexChain_live hc hchain, htokens⟩
    longest := fun _ _ hcurrent hspells => GpuCatalog.longestPrefix_complete
      (GpuCatalog.sizesCover_applyPayloads decode payloads)
      ((indexChain_iff_current hc).mpr hcurrent) hspells }

/-- What a candidate shows of its node's GPU cache, where the node has
received `s.received` and holds `s.history`. -/
def RouteCandidate.ShowsGpu {decode : Bytes → Option RawMapEventBatch}
    (c : RouteCandidate) (p : Publisher decode) (s : Net)
    (prompt : List Token) : Prop :=
  match c.node.gpuCatalogStatus with
  | .degraded => c.prefixMatch.gpuPrefixTokens = 0
  | .healthy => ∃ generation k n : ℕ,
      s.history = segment generation 0 k ∧
      (∀ b, s.received = some b → k = 0 ∨ b.1 = generation ∧ b.2 < k) ∧
      c.prefixMatch.gpuPrefixTokens = n ∧
      LongestHit (p.log generation k) prompt n

/-- A candidate of an entry that is on the network. -/
theorem NodeEntry.SameCache.showsGpu {decode : Bytes → Option RawMapEventBatch}
    {p : Publisher decode} {s : Net} {e : NodeEntry}
    (hsame : e.SameCache s.listener.entry)
    (hreceiving : s.listener.control = .receiving) (hwf : s.Wf p.batch decode)
    (hinv : s.Healthy) (hupToDate : s.UpToDate)
    (lmcacheCatalogStatus : CatalogStatus) (request : SchedulerRequest)
    (defaultBlockSize : ℤ) (externalMatch : Option PrefixMatch) :
    (e.routeCandidate (e.routingState lmcacheCatalogStatus) request
      defaultBlockSize externalMatch).ShowsGpu p s request.promptTokens := by
  have hstatus : (e.routeCandidate (e.routingState lmcacheCatalogStatus) request
      defaultBlockSize externalMatch).node.gpuCatalogStatus
        = e.gpuCatalogStatus := rfl
  unfold RouteCandidate.ShowsGpu
  rw [e.routeCandidate_gpuPrefixTokens, hstatus]
  cases hhealthy : e.gpuCatalogStatus with
  | degraded => rfl
  | healthy =>
      rw [hsame.status] at hhealthy
      have hprefix := hinv hhealthy
      unfold Net.HistoryInv at hprefix
      rw [hreceiving] at hprefix
      obtain ⟨generation, k, hhistory⟩ := hprefix
      -- the catalog is what the batches of that prefix build
      have hcatalog : e.catalog = catalogAfter decode
          ((List.range k).map (p.batch generation)) := by
        rw [hsame.catalog, hwf.refines.catalog, hhistory, map_segment]
        rfl
      refine ⟨generation, k, _, hhistory, fun b hb => ?_, rfl, ?_⟩
      · rw [Net.UpToDate, hhistory] at hupToDate
        obtain hnil | hcaught := hupToDate hhealthy hreceiving
        · exact .inl (segment_inj (hnil.trans (segment_self generation 0).symm)).1
        -- the last batch received is in the prefix, unless that is empty
        · obtain ⟨k', hk', hhistory'⟩ := hcaught b.1 b.2 hb
          obtain ⟨rfl, hzero | hgeneration⟩ :=
            segment_inj (hhistory.symm.trans hhistory')
          · exact .inl hzero
          · exact .inr ⟨hgeneration.symm, hk'⟩
      · rw [hcatalog]
        exact longestPrefix_longestHit (p.consistent generation k) _

namespace App

/-- A plan sees of a node's GPU cache what the node published. From every
state the router reaches, whatever its requests, exchanges and other nodes
do: where the network has brought a node's listener what the run shows it,
and the listener is not in the middle of a replay, each request of the group
has a candidate for the node, if the candidates can be built. If the node is
degraded the candidate shows no GPU prefix. If it is healthy the node holds
an unbroken prefix of one generation of what it published, up to the last
batch received (or, after a start time that changed, nothing), and the
candidate shows the longest hit among the blocks these batches leave. -/
theorem plan_sees_gpu (blake2b : List UInt8 → List UInt8)
    (decode : Bytes → Option RawMapEventBatch)
    (loads : Bytes → Except LoadsError PyJson.Json)
    (replayEndpoint : NodeId → Bool) (policy : Policy) (policyName : String)
    (prefixBlockSize maxPlanningGroupSize : ℤ) (initialNodes : List NodeState)
    (events : List AppEvent) (a : App)
    (hrun : Lts.run (step blake2b decode loads replayEndpoint)
      (start policy policyName prefixBlockSize maxPlanningGroupSize
        replayEndpoint initialNodes) events = some a)
    (nodeId : NodeId) (node : NodeState)
    (hnode : (KareserveTracker.init initialNodes).entries.get nodeId
      = some (.fresh node))
    (p : Publisher decode) (window : Window) (netEvents : List NetEvent)
    (s : Net)
    (hbrings : p.Brings (replayEndpoint nodeId) node window netEvents s
      (Lts.trace (nodeEvent nodeId) (step blake2b decode loads replayEndpoint)
        (start policy policyName prefixBlockSize maxPlanningGroupSize
          replayEndpoint initialNodes) events))
    (hreceiving : a.control nodeId = .receiving)
    (group : List SchedulerRequest)
    (hworker : a.requestPool.worker = .planning group)
    (found : Option LookupResult) (candidates : CandidateMatrix)
    (hbuilt : a.routePlanner.candidatesOrRaise group found = .ok candidates) :
    ∀ request ∈ group, ∃ candidate,
      (candidates.get request.requestId).bind (·.get nodeId)
        = some candidate ∧
      candidate.requestId = request.requestId ∧
      candidate.ShowsGpu p s request.promptTokens := by
  obtain rfl := KareserveTracker.buildRouteCandidatesOrRaise_ok hbuilt
  intro request hrequest
  obtain ⟨hbooks, -⟩ := run_books hrun
  -- the listener of the run is the one on the network
  obtain ⟨l, hl, ⟨e, he, hsame⟩, hcontrol⟩ := (runsAs_start hnode).run hrun
  have hnet := Net.run_listener hbrings.run
  rw [hbrings.heard] at hnet
  have hlistener : l = s.listener := by
    rw [show (Net.init (replayEndpoint nodeId) node window).listener
      = .start (replayEndpoint nodeId) (.fresh node) from rfl, hl] at hnet
    exact Option.some.inj hnet
  subst hlistener
  -- and holds what the network's histories say
  obtain ⟨⟨hwf, hinv⟩, hupToDate⟩ := Net.run_upToDate p.ne_nil hbrings.inRange
    hbrings.unmixed hbrings.run
  have he' : (a.routePlanner.trackerAfter found).entries.get nodeId = some e := by
    rw [trackerAfter_entries]
    exact he
  exact ⟨_, KareserveTracker.get_buildRouteCandidates
    (hbooks.nodup_group hworker) hrequest he' _ _, rfl,
    hsame.showsGpu (hcontrol.symm.trans hreceiving) hwf hinv hupToDate _ _ _ _⟩

/-- A root block, and its child in every later batch. -/
def twoBlockPublisher : Publisher oneBlockDecode where
  batch _ number :=
    if number = 0 then oneBlockPayload 1 0xc0 1 2 else oneBlockPayload 3 1 3 4
  ne_nil _ number := by
    split <;> exact oneBlockPayload_ne_nil _ _ _ _
  consistent _ k := by
    have hboth : IndexedTable.Consistent (opLog oneBlockDecode
        [oneBlockPayload 1 0xc0 1 2, oneBlockPayload 3 1 3 4]) := by decide
    refine hboth.of_subset fun op hop => ?_
    obtain ⟨payload, hpayload, hop⟩ := List.mem_flatMap.mp hop
    obtain ⟨number, -, rfl⟩ := List.mem_map.mp hpayload
    refine List.mem_flatMap.mpr ⟨_, ?_, hop⟩
    split <;> simp

/-- The first block comes by a replay, the second live, while a request
waits. -/
def replayThenLive : List AppEvent :=
  [.listener "a" (.frames [[], BigEndian.toBytes 8 0,
      oneBlockPayload 1 0xc0 1 2]),
    .request ⟨"r", [1, 2, 3, 4, 5], 8⟩ ⟨"r", true⟩, .get,
    .listener "a" (.frames [[], List.replicate 8 0xff, []]),
    .listener "a" (.parts [[], BigEndian.toBytes 8 1,
      oneBlockPayload 3 1 3 4]), .collect]

/-- Both blocks are planned with. -/
theorem plan_sees_gpu_two_blocks :
    ∃ a candidates candidate, Lts.run (step id oneBlockDecode
        (fun _ => .error .jsonDecodeError) fun _ => true)
        (start (.roundRobin { costModel := {}, nextIndex := 0 }) "round_robin"
          16 8 (fun _ => true) [{ nodeId := "a", cacheDomainId := "d" }])
        replayThenLive = some a ∧
      a.routePlanner.candidatesOrRaise [⟨"r", [1, 2, 3, 4, 5], 8⟩] none
        = .ok candidates ∧
      (candidates.get "r").bind (·.get "a") = some candidate ∧
      candidate.prefixMatch.gpuPrefixTokens = 4 ∧
      LongestHit (twoBlockPublisher.log 0 2) [1, 2, 3, 4, 5] 4 := by
  have hrun : (Lts.run (step id oneBlockDecode
        (fun _ => .error .jsonDecodeError) fun _ => true)
        (start (.roundRobin { costModel := {}, nextIndex := 0 }) "round_robin"
          16 8 (fun _ => true) [{ nodeId := "a", cacheDomainId := "d" }])
        replayThenLive).map (fun a => (a.control "a", a.requestPool.worker,
          ((a.routePlanner.candidates [⟨"r", [1, 2, 3, 4, 5], 8⟩] none).get
            "r").bind fun byNode => (byNode.get "a").map fun c =>
              (c.node.gpuCatalogStatus, c.prefixMatch.gpuPrefixTokens)))
      = some (.receiving, .planning [⟨"r", [1, 2, 3, 4, 5], 8⟩],
          some (.healthy, 4)) := by decide +kernel
  obtain ⟨a, ha, hfacts⟩ := Option.map_eq_some_iff.mp hrun
  injection hfacts with hreceiving hfacts
  injection hfacts with hworker hcandidate
  have hnet : (Lts.run (Net.step twoBlockPublisher.batch oneBlockDecode true)
        (Net.init true { nodeId := "a", cacheDomainId := "d" } ⟨0, 0, 1⟩)
        [.answer, .answer, .live 0 1 ⟨0, 0, 9⟩]).map (·.history)
      = some [(0, 0), (0, 1)] := by decide +kernel
  obtain ⟨s, hs, hhistory⟩ := Option.map_eq_some_iff.mp hnet
  have hbuilt : a.routePlanner.candidatesOrRaise
      [⟨"r", [1, 2, 3, 4, 5], 8⟩] none
      = .ok (a.routePlanner.candidates [⟨"r", [1, 2, 3, 4, 5], 8⟩] none) := by
    refine KareserveTracker.buildRouteCandidatesOrRaise_eq_ok _ ?_ _ _
    intro request hrequest
    obtain rfl := List.mem_singleton.mp hrequest
    decide +kernel
  obtain ⟨candidate, hget, -, hshows⟩ := plan_sees_gpu id oneBlockDecode
    (fun _ => .error .jsonDecodeError) (fun _ => true) _ _ _ _ _ _ a ha "a"
    { nodeId := "a", cacheDomainId := "d" } rfl twoBlockPublisher ⟨0, 0, 1⟩
    [.answer, .answer, .live 0 1 ⟨0, 0, 9⟩] s
    { inRange := by decide
      run := hs
      unmixed := by decide +kernel
      heard := by decide +kernel } hreceiving _ hworker none _
    hbuilt _ (List.mem_cons_self ..)
  obtain ⟨byNode, hbyNode, hfound⟩ := Option.bind_eq_some_iff.mp hget
  rw [hbyNode, Option.bind_some, hfound] at hcandidate
  injection hcandidate with hcandidate
  injection hcandidate with hstatus hgpu
  unfold RouteCandidate.ShowsGpu at hshows
  rw [hstatus] at hshows
  obtain ⟨generation, k, n, hprefix, -, hn, hhit⟩ := hshows
  obtain ⟨rfl, hzero | rfl⟩ := segment_inj
    (show segment 0 0 2 = segment generation 0 k from hhistory.symm.trans hprefix)
  · cases hzero
  · have hfour : n = 4 := by
      rw [hgpu] at hn
      omega
    exact ⟨a, _, candidate, ha, hbuilt, hget, hgpu, hfour ▸ hhit⟩

end App

end Kareserve
