/-
The parts of the router process (Gateway/App.lean), each as it runs alone.

# The pool

What the router's steps show the pool (`App.poolEvent`) is a run of the
pool, so what is proved of every run of the pool holds in the router.

# The listeners

What they show one node (`App.nodeEvent`) is a run of that node's listener
up to what other tasks write beside it: `SameCache` leaves out the load
counters and the figures of a page. The listener reads none of these, so a
node's catalog is that of its own sockets and pages, whatever the router
does meanwhile.
-/
import Kareserve.Gateway.Proofs.Serving
import Kareserve.Tracker.History

namespace Kareserve

-- ========================================================== the same cache

/-- Two entries that agree on what the listener reads and writes. -/
structure NodeEntry.SameCache (e e' : NodeEntry) : Prop where
  catalog : e.catalog = e'.catalog
  lastSequence : e.lastSequence = e'.lastSequence
  status : e.gpuCatalogStatus = e'.gpuCatalogStatus
  processStart : e.node.processStartTimeSeconds
    = e'.node.processStartTimeSeconds

namespace NodeEntry

variable {e e' : NodeEntry}

/-- An entry has its own cache. -/
theorem SameCache.refl (e : NodeEntry) : e.SameCache e := ⟨rfl, rfl, rfl, rfl⟩

/-- What writes beside the cache. -/
theorem SameCache.trans_of_eq (h : e.SameCache e') {e₁ : NodeEntry}
    (hcatalog : e₁.catalog = e.catalog)
    (hlast : e₁.lastSequence = e.lastSequence)
    (hstatus : e₁.gpuCatalogStatus = e.gpuCatalogStatus)
    (hstart : e₁.node.processStartTimeSeconds = e.node.processStartTimeSeconds) :
    e₁.SameCache e' :=
  ⟨hcatalog.trans h.catalog, hlast.trans h.lastSequence,
    hstatus.trans h.status, hstart.trans h.processStart⟩

/-- Entries with the same cache still have it after a restart. -/
theorem SameCache.restartIf (h : e.SameCache e') (restarted : Bool) :
    (e.restartIf restarted).SameCache (e'.restartIf restarted) := by
  cases restarted with
  | false => exact h
  | true => exact ⟨rfl, rfl, h.status, h.processStart⟩

/-- Nodes with one cache take the same batches for new. -/
theorem SameCache.isNewer (h : e.SameCache e') (sequence : ℤ) :
    e.isNewer sequence = e'.isNewer sequence := by
  unfold NodeEntry.isNewer
  rw [h.lastSequence]

theorem SameCache.accepted (h : e.SameCache e')
    (decode : Bytes → Option RawMapEventBatch) (batch : Option (ℤ × Bytes)) :
    e.accepted decode batch = e'.accepted decode batch := by
  unfold NodeEntry.accepted
  simp only [h.isNewer]

theorem SameCache.spoiledBy (h : e.SameCache e')
    (decode : Bytes → Option RawMapEventBatch) (batch : Option (ℤ × Bytes)) :
    e.spoiledBy decode batch = e'.spoiledBy decode batch := by
  unfold NodeEntry.spoiledBy
  simp only [h.isNewer]

/-- A move does alike to both. -/
theorem SameCache.act (h : e.SameCache e')
    (decode : Bytes → Option RawMapEventBatch) (m : Move) :
    (e.act decode m).SameCache (e'.act decode m) := by
  have hreset := h.restartIf m.reset
  refine ⟨?_, ?_, ?_, ?_⟩
  · rw [act_catalog, act_catalog, hreset.accepted, hreset.catalog]
  · rw [act_lastSequence, act_lastSequence, hreset.accepted,
      hreset.lastSequence]
  · rw [act_status, act_status, hreset.spoiledBy, h.status]
  · rw [act_processStart, act_processStart, h.processStart]

/-- The listener decides alike on both. -/
theorem SameCache.move (h : e.SameCache e') (replayEndpoint : Bool)
    (control : Control) (event : NodeEvent) :
    Listener.move replayEndpoint ⟨e, control⟩ event
      = Listener.move replayEndpoint ⟨e', control⟩ event := by
  have hbatch : ∀ sequence payload,
      e.receiveBatch replayEndpoint sequence payload
        = e'.receiveBatch replayEndpoint sequence payload := by
    intro sequence payload
    have hrestarted : e.sequenceRestarted sequence
        = e'.sequenceRestarted sequence := by
      unfold sequenceRestarted
      rw [h.lastSequence]
    unfold receiveBatch
    dsimp only
    rw [hrestarted, (h.restartIf _).lastSequence]
  have hparts : ∀ parts, e.receiveParts replayEndpoint parts
      = e'.receiveParts replayEndpoint parts := by
    intro parts
    unfold receiveParts
    split
    · exact hbatch _ _
    · rfl
  unfold Listener.move
  simp only [hparts]

/-- The start times of a page do alike to both. -/
theorem SameCache.updateProcessStart (h : e.SameCache e')
    (processStartSamples : List ℚ) :
    (e.updateProcessStart processStartSamples).SameCache
      (e'.updateProcessStart processStartSamples) := by
  have hchanged : e.startChanged processStartSamples
      = e'.startChanged processStartSamples := by
    unfold startChanged
    rw [h.processStart]
  unfold NodeEntry.updateProcessStart
  rw [hchanged]
  split
  · exact h
  · split
    · exact ⟨rfl, rfl, h.status, rfl⟩
    · exact ⟨h.catalog, h.lastSequence, h.status, rfl⟩

end NodeEntry

namespace App

variable {a a' : App} {nodeId : NodeId}

-- =========================================================== the parts

/-- What a step is to one node. -/
def nodeEvent (nodeId : NodeId) (_ : App) : AppEvent → Option NodeEvent
  | .listener nodeId' event => if nodeId' = nodeId then some event else none
  | .poll nodeId' processStartSamples _ =>
      if nodeId' = nodeId then some (.metrics processStartSamples) else none
  | _ => none

/-- A node of the router beside its listener alone. -/
structure RunsAs (nodeId : NodeId) (a : App) (l : Listener) : Prop where
  entry : ∃ e, a.tracker.entries.get nodeId = some e ∧ e.SameCache l.entry
  control : a.control nodeId = l.control

/-- What writes to no cache and to no other task's state. -/
theorem RunsAs.beside {l : Listener} (h : a.RunsAs nodeId l)
    (hcontrol : a'.control = a.control)
    (hentry : ∀ e, a.tracker.entries.get nodeId = some e →
      ∃ e', a'.tracker.entries.get nodeId = some e' ∧
        e'.catalog = e.catalog ∧ e'.lastSequence = e.lastSequence ∧
        e'.gpuCatalogStatus = e.gpuCatalogStatus ∧
        e'.node.processStartTimeSeconds = e.node.processStartTimeSeconds) :
    a'.RunsAs nodeId l := by
  obtain ⟨e, he, hsame⟩ := h.entry
  obtain ⟨e', he', hcatalog, hlast, hstatus, hstart⟩ := hentry e he
  exact ⟨⟨e', he', hsame.trans_of_eq hcatalog hlast hstatus hstart⟩, by
    rw [hcontrol]
    exact h.control⟩

/-- Calls touch the counters only. -/
theorem runCalls_entry (t : KareserveTracker) (calls : List RouteCall)
    {e : NodeEntry} (he : t.entries.get nodeId = some e) :
    ∃ e', (t.runCalls calls).entries.get nodeId = some e' ∧
      e'.catalog = e.catalog ∧ e'.lastSequence = e.lastSequence ∧
      e'.gpuCatalogStatus = e.gpuCatalogStatus ∧
      e'.node.processStartTimeSeconds = e.node.processStartTimeSeconds := by
  induction calls generalizing t e with
  | nil => exact ⟨e, he, rfl, rfl, rfl, rfl⟩
  | cons call calls ih =>
      have hone : ∃ e₁, (t.call call).entries.get nodeId = some e₁ ∧
          e₁.catalog = e.catalog ∧ e₁.lastSequence = e.lastSequence ∧
          e₁.gpuCatalogStatus = e.gpuCatalogStatus ∧
          e₁.node.processStartTimeSeconds
            = e.node.processStartTimeSeconds := by
        -- one call changes the counters of one entry
        cases call with
        | reserve id work =>
            rw [show t.call (.reserve id work) = t.onNode id _ from rfl,
              KareserveTracker.onNode_get]
            split
            next =>
              rw [he]
              exact ⟨_, rfl, rfl, rfl, rfl, rfl⟩
            next => exact ⟨e, he, rfl, rfl, rfl, rfl⟩
        | release id work =>
            rw [show t.call (.release id work) = t.onNode id _ from rfl,
              KareserveTracker.onNode_get]
            split
            next =>
              rw [he]
              exact ⟨_, rfl, rfl, rfl, rfl, rfl⟩
            next => exact ⟨e, he, rfl, rfl, rfl, rfl⟩
      obtain ⟨e₁, he₁, hcatalog₁, hlast₁, hstatus₁, hstart₁⟩ := hone
      obtain ⟨e', he', hcatalog, hlast, hstatus, hstart⟩ := ih _ he₁
      exact ⟨e', he', hcatalog.trans hcatalog₁, hlast.trans hlast₁,
        hstatus.trans hstatus₁, hstart.trans hstart₁⟩

section Steps

variable {blake2b : List UInt8 → List UInt8}
  {decode : Bytes → Option RawMapEventBatch}
  {loads : Bytes → Except LoadsError PyJson.Json}
  {replayEndpoint : NodeId → Bool} {event : AppEvent}

/-- The pool takes the step the router shows it, and no other. -/
theorem step_pool_run
    (hstep : a.step blake2b decode loads replayEndpoint event = some a') :
    Lts.run RequestPool.step a.requestPool (a.poolEvent blake2b event).toList
      = some a'.requestPool := by
  cases hpe : a.poolEvent blake2b event with
  | some pe =>
      show Lts.run RequestPool.step a.requestPool [pe] = _
      rw [Lts.run_cons, (step_pool hstep hpe).step]
      rfl
  | none =>
      show some a.requestPool = _
      cases step_own hstep hpe with
      | exchange => rw [exchanged_requestPool]
      | listener => rfl
      | poll => rfl

/-- A step of one node's listener, or of the poll of its page. -/
theorem RunsAs.onNode {l l' : Listener} (h : a.RunsAs nodeId l)
    {f : NodeEntry → NodeEntry}
    (htracker : a'.tracker = a.tracker.onNode nodeId f)
    (hcontrol : a'.control nodeId = l'.control)
    (hf : ∀ e, a.tracker.entries.get nodeId = some e →
      e.SameCache l.entry → (f e).SameCache l'.entry) :
    a'.RunsAs nodeId l' := by
  obtain ⟨e, he, hsame⟩ := h.entry
  refine ⟨⟨f e, ?_, hf e he hsame⟩, hcontrol⟩
  rw [htracker, KareserveTracker.onNode_get, if_pos rfl, he]
  rfl

/-- What a step shows a node is what its listener does alone. -/
theorem RunsAs.step {l : Listener} (h : a.RunsAs nodeId l)
    (hstep : a.step blake2b decode loads replayEndpoint event = some a') :
    ∃ l', Lts.run (Listener.step decode (replayEndpoint nodeId)) l
        (a.nodeEvent nodeId event).toList = some l' ∧ a'.RunsAs nodeId l' := by
  cases hpe : a.poolEvent blake2b event with
  -- an event of the pool shows no node anything; what it does to the tracker
  -- is to count
  | some pe =>
      have hpart := step_pool hstep hpe
      obtain ⟨found, htracker⟩ := hpart.tracker
      have hnone : a.nodeEvent nodeId event = none := by
        cases event with
        | listener => cases hpe
        | poll => cases hpe
        | _ => rfl
      refine ⟨l, by rw [hnone]; rfl, h.beside hpart.control fun e he => ?_⟩
      rw [htracker]
      apply runCalls_entry
      rw [trackerAfter_entries]
      exact he
  | none =>
      cases step_own hstep hpe with
      | exchange requestId event now x next hx hnext =>
          refine ⟨l, rfl, h.beside ?_ fun e he => ?_⟩
          -- nor does an exchange, which at its end releases
          · unfold exchanged
            split <;> rfl
          · rw [exchanged_tracker]
            exact runCalls_entry _ _ he
      | listener nodeId' event l₀ mc hl₀ hmove =>
          unfold nodeEvent
          dsimp only
          by_cases hid : nodeId' = nodeId
          · subst hid
            rw [if_pos rfl]
            obtain ⟨e, he, rfl⟩ := Option.map_eq_some_iff.mp hl₀
            obtain ⟨e₁, he₁, hsame⟩ := h.entry
            rw [he] at he₁
            injection he₁ with he₁
            subst he₁
            -- the same entry but for its counters, so the same move
            rw [h.control, hsame.move] at hmove
            have hown : l.step decode (replayEndpoint nodeId') event
                = some ⟨l.entry.act decode mc.1, mc.2⟩ := by
              cases event with
              | metrics => simp at hmove
              | reserve => simp at hmove
              | release => simp at hmove
              | _ => exact Option.map_eq_some_iff.mpr ⟨mc, hmove, rfl⟩
            refine ⟨⟨l.entry.act decode mc.1, mc.2⟩, ?_, ?_⟩
            · show Lts.run _ l [event] = _
              rw [Lts.run_cons, hown]
              rfl
            · refine h.onNode rfl (Function.update_self ..) fun e _ hsame => ?_
              exact hsame.act decode mc.1
          -- an event of another node's listener
          · rw [if_neg hid]
            refine ⟨l, rfl, ?_⟩
            obtain ⟨e, he, hsame⟩ := h.entry
            refine ⟨⟨e, ?_, hsame⟩, ?_⟩
            · show (a.tracker.onNode nodeId' _).entries.get nodeId = some e
              rw [KareserveTracker.onNode_get, if_neg (Ne.symm hid)]
              exact he
            · dsimp only
              rw [Function.update_of_ne (Ne.symm hid)]
              exact h.control
      | poll nodeId' processStartSamples f =>
          unfold nodeEvent
          dsimp only
          by_cases hid : nodeId' = nodeId
          · subst hid
            rw [if_pos rfl]
            refine ⟨{ l with
              entry := l.entry.updateProcessStart processStartSamples },
              rfl, h.onNode rfl h.control fun e _ hsame => ?_⟩
            exact (hsame.updateProcessStart processStartSamples).trans_of_eq
              rfl rfl rfl rfl
          · rw [if_neg hid]
            refine ⟨l, rfl, ?_⟩
            obtain ⟨e, he, hsame⟩ := h.entry
            refine ⟨⟨e, ?_, hsame⟩, h.control⟩
            show (a.tracker.onNode nodeId' _).entries.get nodeId = some e
            rw [KareserveTracker.onNode_get, if_neg (Ne.symm hid)]
            exact he

/-- No step adds or drops a node. -/
theorem step_keys
    (hstep : a.step blake2b decode loads replayEndpoint event = some a') :
    a'.tracker.entries.keys = a.tracker.entries.keys := by
  cases hpe : a.poolEvent blake2b event with
  | some pe =>
      obtain ⟨found, htracker⟩ := (step_pool hstep hpe).tracker
      rw [htracker, KareserveTracker.keys_runCalls, trackerAfter_entries]
  | none =>
      cases step_own hstep hpe with
      | exchange => rw [exchanged_tracker, KareserveTracker.keys_runCalls]
      | listener => exact PyDict.keys_modify _ _ _
      | poll => exact PyDict.keys_modify _ _ _

/-- No run adds or removes a node. -/
theorem keys_run {events : List AppEvent}
    (hrun : Lts.run (step blake2b decode loads replayEndpoint) a events
      = some a') :
    a'.tracker.entries.keys = a.tracker.entries.keys :=
  Lts.run_preserves (I := fun b : App => b.tracker.entries.keys
      = a.tracker.entries.keys)
    (fun _ _ _ h hstep => (step_keys hstep).trans h) rfl hrun

-- ================================================================ runs

/-- What a run shows the pool is a run of the pool. -/
theorem pool_run {events : List AppEvent}
    (hrun : Lts.run (step blake2b decode loads replayEndpoint) a events
      = some a') :
    Lts.run RequestPool.step a.requestPool (Lts.trace (poolEvent blake2b)
      (step blake2b decode loads replayEndpoint) a events)
      = some a'.requestPool := by
  obtain ⟨pool, hpool, hsame⟩ := Lts.run_simulates (poolEvent blake2b)
    (R := fun a pool => a.requestPool = pool)
    (fun a event a' pool h hstep => ⟨a'.requestPool, by
      rw [← h]
      exact step_pool_run hstep, rfl⟩) rfl hrun
  rw [hsame]
  exact hpool

/-- At the start a node's listener is where it is alone. -/
theorem runsAs_start {policy : Policy} {policyName : String}
    {prefixBlockSize maxPlanningGroupSize : ℤ} {initialNodes : List NodeState}
    {node : NodeState}
    (hnode : (KareserveTracker.init initialNodes).entries.get nodeId
      = some (.fresh node)) :
    (start policy policyName prefixBlockSize maxPlanningGroupSize
      replayEndpoint initialNodes).RunsAs nodeId
      (.start (replayEndpoint nodeId) (.fresh node)) :=
  ⟨⟨_, hnode, .refl _⟩, rfl⟩

/-- What a run shows a node is a run of its listener. -/
theorem RunsAs.run {l : Listener} (h : a.RunsAs nodeId l)
    {events : List AppEvent}
    (hrun : Lts.run (App.step blake2b decode loads replayEndpoint) a events
      = some a') :
    ∃ l', Lts.run (Listener.step decode (replayEndpoint nodeId)) l
        (Lts.trace (nodeEvent nodeId)
          (App.step blake2b decode loads replayEndpoint) a events) = some l' ∧
      a'.RunsAs nodeId l' :=
  Lts.run_simulates (nodeEvent nodeId) (R := fun a l => a.RunsAs nodeId l)
    (fun _ _ _ _ h hstep => h.step hstep) h hrun

/-- The router process is its parts, run side by side. Whatever the order
of events: what they show the pool is a run of the pool alone, from empty to
the router's pool; and what they show a node is a run of its listener alone,
from a fresh entry to the router's catalog, sequence, status and process
start time. No request, plan, exchange or other node has a part in these. -/
theorem parts_run_alone (blake2b : List UInt8 → List UInt8)
    (decode : Bytes → Option RawMapEventBatch)
    (loads : Bytes → Except LoadsError PyJson.Json)
    (replayEndpoint : NodeId → Bool) (policy : Policy) (policyName : String)
    (prefixBlockSize maxPlanningGroupSize : ℤ) (initialNodes : List NodeState)
    (events : List AppEvent) (a : App)
    (hrun : Lts.run (step blake2b decode loads replayEndpoint)
      (start policy policyName prefixBlockSize maxPlanningGroupSize
        replayEndpoint initialNodes) events = some a) :
    Lts.run RequestPool.step (.init maxPlanningGroupSize)
        (Lts.trace (poolEvent blake2b)
          (step blake2b decode loads replayEndpoint)
          (start policy policyName prefixBlockSize maxPlanningGroupSize
            replayEndpoint initialNodes) events) = some a.requestPool ∧
    ∀ nodeId e, a.tracker.entries.get nodeId = some e →
      ∃ node ∈ initialNodes, node.nodeId = nodeId ∧
        ∃ l, Lts.run (Listener.step decode (replayEndpoint nodeId))
          (.start (replayEndpoint nodeId) (.fresh node))
          (Lts.trace (nodeEvent nodeId)
            (step blake2b decode loads replayEndpoint)
            (start policy policyName prefixBlockSize maxPlanningGroupSize
              replayEndpoint initialNodes) events) = some l ∧
          a.control nodeId = l.control ∧ e.SameCache l.entry := by
  constructor
  · exact pool_run hrun
  · intro nodeId e he
    -- no event adds or drops a node, so the entry is one of the initial nodes'
    have hkeys : a.tracker.entries.keys
        = (KareserveTracker.init initialNodes).entries.keys := keys_run hrun
    have hknown : ∃ e₀, (KareserveTracker.init initialNodes).entries.get nodeId
        = some e₀ := by
      rw [← PyDict.mem_keys_iff, ← hkeys, PyDict.mem_keys_iff]
      exact ⟨e, he⟩
    obtain ⟨e₀, he₀⟩ := hknown
    obtain ⟨node, hnode, hid, rfl⟩ := KareserveTracker.init_get he₀
    obtain ⟨l, hl, hentry, hcontrol⟩ := (runsAs_start he₀).run hrun
    obtain ⟨e₁, he₁, hsame⟩ := hentry
    rw [he] at he₁
    injection he₁ with he₁
    subst he₁
    exact ⟨node, hnode, hid, l, hl, hcontrol, hsame⟩

/-- The router of `streamAndCancel`, and its only listener failing. -/
theorem parts_run_alone_one_node :
    ∃ a e l, Lts.run (step id (fun _ => none)
        (fun _ => .error .jsonDecodeError) fun _ => false) oneNodeRouter
        (streamAndCancel ++ [.listener "a" .failure]) = some a ∧
      a.tracker.entries.get "a" = some e ∧
      Lts.run (Listener.step (fun _ => none) false)
        (.start false (.fresh { nodeId := "a", cacheDomainId := "d" }))
        [.metrics [], .failure] = some l ∧
      e.SameCache l.entry := by
  have hrun : (Lts.run (step id (fun _ => none)
        (fun _ => .error .jsonDecodeError) fun _ => false) oneNodeRouter
        (streamAndCancel ++ [.listener "a" .failure])).map (fun a =>
          (a.tracker.entries.get "a").isSome) = some true := by decide +kernel
  obtain ⟨a, ha, hsome⟩ := Option.map_eq_some_iff.mp hrun
  obtain ⟨e, he⟩ := Option.isSome_iff_exists.mp hsome
  obtain ⟨node, hnode, hid, l, hl, -, hsame⟩ := (parts_run_alone id
    (fun _ => none) (fun _ => .error .jsonDecodeError) (fun _ => false) _ _ _ _ _ _
    a ha).2 "a" e he
  have hshown : Lts.trace (nodeEvent "a") (step id (fun _ => none)
        (fun _ => .error .jsonDecodeError) fun _ => false) oneNodeRouter
        (streamAndCancel ++ [.listener "a" .failure])
      = [.metrics [], .failure] := by decide +kernel
  obtain rfl := List.mem_singleton.mp hnode
  refine ⟨a, e, l, ha, he, ?_, hsame⟩
  rw [← hshown]
  exact hl

-- ============================================================== in turn

/-- The requests the handlers have called `assign` for, in order. -/
def requests (events : List AppEvent) : List SchedulerRequest :=
  events.filterMap fun event =>
    match event with
    | .request request _ => some request
    | _ => none

/-- How the router has served the requests after `rounds`. -/
structure InTurn (blake2b : List UInt8 → List UInt8)
    (decode : Bytes → Option RawMapEventBatch)
    (loads : Bytes → Except LoadsError PyJson.Json)
    (replayEndpoint : NodeId → Bool) (size : ℤ)
    (requests : List SchedulerRequest) (rounds : List RequestPool.Round)
    (a : App) : Prop where
  /-- The groups are consecutive segments of the requests, -/
  order : requests = (a.requestPool.groups rounds).flatten
    ++ a.requestPool.ungrouped
  sizes : ∀ group ∈ a.requestPool.groups rounds,
    1 ≤ group.length ∧ (group.length : ℤ) ≤ max 1 size
  /-- and the k-th request is done after k rounds. -/
  turn : ∀ request ∈ requests.take rounds.length, ∃ caller,
    a.requestPool.callers.get request.requestId = some caller ∧
      caller.future.done = true
  waiting : ∀ request ∈ requests,
    request ∈ a.requestPool.held ∨ ∃ caller,
      a.requestPool.callers.get request.requestId = some caller ∧
        caller.future.done = true
  /-- While a request waits the worker can go on, whatever its lookup
  finds. -/
  goesOn : a.requestPool.held ≠ [] →
    (a.step blake2b decode loads replayEndpoint .get).isSome ∨
    (a.step blake2b decode loads replayEndpoint .collect).isSome ∨
    ∀ found, (a.step blake2b decode loads replayEndpoint
      (.lookupReturned found)).isSome

/-- What the pool sees arrive are the handlers' requests. -/
theorem arrivals_trace {events : List AppEvent}
    (hrun : Lts.run (step blake2b decode loads replayEndpoint) a events
      = some a') :
    RequestPool.arrivals (Lts.trace (poolEvent blake2b)
      (step blake2b decode loads replayEndpoint) a events)
      = requests events := by
  induction events generalizing a with
  | nil => rfl
  | cons event events ih =>
      obtain ⟨a₁, hstep, hrest⟩ := Lts.run_cons_eq_some.mp hrun
      have hone : RequestPool.arrivals (a.poolEvent blake2b event).toList
          = requests [event] := by
        cases event with
        | lookupReturned found =>
            simp only [poolEvent]
            split
            · cases (a.routePlanner.selectOrRaise blake2b _ found).2 <;> rfl
            · rfl
        | _ => rfl
      rw [Lts.trace_cons _ hstep]
      unfold RequestPool.arrivals at hone ih ⊢
      rw [List.filterMap_append, hone, ih hrest]
      exact (List.filterMap_append : ([event] ++ events).filterMap _ = _).symm

/-- Where no shutdown is asked for, the pool is asked for none. -/
theorem quiet_trace {events : List AppEvent}
    (hstops : ∀ event ∈ events, event ≠ .stop ∧ event ≠ .stopped)
    (hrun : Lts.run (step blake2b decode loads replayEndpoint) a events
      = some a') :
    ∀ pe ∈ Lts.trace (poolEvent blake2b)
        (step blake2b decode loads replayEndpoint) a events,
      pe ≠ .stop ∧ pe ≠ .stopped := by
  induction events generalizing a with
  | nil =>
      intro pe hpe
      cases hpe
  | cons event events ih =>
      obtain ⟨a₁, hstep, hrest⟩ := Lts.run_cons_eq_some.mp hrun
      rw [Lts.trace_cons _ hstep]
      intro pe hpe
      obtain hpe | hpe := List.mem_append.mp hpe
      · obtain ⟨hstop, hstopped⟩ := hstops event (List.mem_cons_self ..)
        cases event with
        | stop => exact absurd rfl hstop
        | stopped => exact absurd rfl hstopped
        -- a plan ends a round, and that is all it asks of the pool
        | lookupReturned found =>
            rw [Option.mem_toList] at hpe
            simp only [poolEvent] at hpe
            split at hpe
            next =>
              injection hpe with hpe
              rw [← hpe]
              exact ⟨planEvent_ne_stop _, planEvent_ne_stopped _⟩
            next => cases hpe
        | upstream => cases hpe
        | listener => cases hpe
        | poll => cases hpe
        | _ =>
            rw [List.mem_singleton.mp hpe]
            simp
      · exact ih (fun event hmem => hstops event (List.mem_cons_of_mem _ hmem))
          hrest pe hpe

/-- No request starves. In the router process, until it is shut down and
whatever else happens: requests are planned in the order in which their
handlers called `assign`, each in one group of at most the configured size;
the k-th is done when k rounds have ended; and as long as one is not, the
worker's next step is there to be taken, with a plan that cannot fail to end
its round. -/
theorem no_request_starves (blake2b : List UInt8 → List UInt8)
    (decode : Bytes → Option RawMapEventBatch)
    (loads : Bytes → Except LoadsError PyJson.Json)
    (replayEndpoint : NodeId → Bool) (policy : Policy) (policyName : String)
    (prefixBlockSize maxPlanningGroupSize : ℤ) (initialNodes : List NodeState)
    (events : List AppEvent)
    (hstops : ∀ event ∈ events, event ≠ .stop ∧ event ≠ .stopped) (a : App)
    (hrun : Lts.run (step blake2b decode loads replayEndpoint)
      (start policy policyName prefixBlockSize maxPlanningGroupSize
        replayEndpoint initialNodes) events = some a) :
    InTurn blake2b decode loads replayEndpoint maxPlanningGroupSize
      (requests events)
      (Lts.trace RequestPool.roundOf RequestPool.step
        (.init maxPlanningGroupSize)
        (Lts.trace (poolEvent blake2b)
          (step blake2b decode loads replayEndpoint)
          (start policy policyName prefixBlockSize maxPlanningGroupSize
            replayEndpoint initialNodes) events)) a := by
  obtain ⟨hbooks, -⟩ := run_books hrun
  -- what the process shows its pool is a run of the pool alone, and nothing in
  -- it is a stop: the pool's own theorems apply
  have hpool := pool_run hrun
  have hquiet := quiet_trace hstops hrun
  have hdelivers := (RequestPool.run_history hquiet hpool).delivers
  have harrivals := arrivals_trace hrun
  generalize Lts.trace (poolEvent blake2b)
    (step blake2b decode loads replayEndpoint)
    (start policy policyName prefixBlockSize maxPlanningGroupSize replayEndpoint
      initialNodes) events = shown at *
  generalize Lts.trace RequestPool.roundOf RequestPool.step
    (.init maxPlanningGroupSize) shown = rounds at *
  have horder := hdelivers.segments
  rw [harrivals] at horder
  -- a round that has ended has answered its group
  have hdone : ∀ round ∈ rounds, ∀ request ∈ round.group, ∃ caller,
      a.requestPool.callers.get request.requestId = some caller ∧
        caller.future.done = true := by
    intro round hround request hrequest
    obtain ⟨caller, hget, hcancelled | hanswers⟩ :=
      hdelivers.answered round hround request hrequest
    · exact ⟨caller, hget, by rw [hcancelled]; rfl⟩
    · exact ⟨caller, hget, hanswers.done⟩
  refine ⟨horder, hdelivers.sizes, fun request hmem => ?_,
    fun request hmem => ?_, fun hheld => ?_⟩
  -- every round has at least one request, so after k rounds the first k have
  -- been in one
  · have hsizes : ∀ group ∈ rounds.map (·.group), 1 ≤ group.length :=
      fun group hgroup =>
        (hdelivers.sizes group (List.mem_append_left _ hgroup)).1
    have hlength := RequestPool.length_le_length_flatten hsizes
    rw [List.length_map] at hlength
    rw [horder] at hmem
    unfold RequestPool.groups at hmem
    rw [List.flatten_append, List.append_assoc,
      List.take_append_of_le_length hlength] at hmem
    obtain ⟨group, hgroup, hrequest⟩ :=
      List.mem_flatten.mp (List.mem_of_mem_take hmem)
    obtain ⟨round, hround, rfl⟩ := List.mem_map.mp hgroup
    exact hdone round hround request hrequest
  · rw [horder] at hmem
    unfold RequestPool.held
    unfold RequestPool.groups RequestPool.ungrouped at hmem
    rw [List.flatten_append, List.mem_append, List.mem_append] at hmem
    -- whoever was not in a round that has ended is in the group being planned,
    -- in the worker's hand, or still queued
    obtain (hgrouped | hplanning) | hungrouped := hmem
    · obtain ⟨group, hgroup, hrequest⟩ := List.mem_flatten.mp hgrouped
      obtain ⟨round, hround, rfl⟩ := List.mem_map.mp hgroup
      exact .inr (hdone round hround request hrequest)
    · refine .inl (List.mem_append_left _ ?_)
      cases hworker : a.requestPool.worker with
      | planning group =>
          rw [hworker] at hplanning
          simpa using hplanning
      | _ =>
          rw [hworker] at hplanning
          cases hplanning
    · refine .inl ?_
      cases hworker : a.requestPool.worker with
      | planning group =>
          rw [hworker] at hungrouped
          exact List.mem_append_right _ hungrouped
      | _ =>
          rw [hworker] at hungrouped
          exact hungrouped
  · cases hworker : a.requestPool.worker with
    | planning group =>
        -- whatever its lookup finds, the plan ends: with answers, or with what
        -- it raised
        refine .inr (.inr fun found => ?_)
        obtain ⟨a', hplan⟩ :=
          hbooks.exists_planGroup hworker blake2b found
        simp only [App.step, hworker, hplan]
        rfl
    | yielded first =>
        obtain ⟨pool, hcollect⟩ := Option.isSome_iff_exists.mp
          (hdelivers.goesOn.collect first hworker)
        refine .inr (.inl ?_)
        simp only [App.step, poolStep, hcollect]
        rfl
    | waiting =>
        have hqueue : a.requestPool.queue ≠ [] := by
          unfold RequestPool.held at hheld
          rw [hworker] at hheld
          exact hheld
        obtain ⟨pool, hget⟩ := Option.isSome_iff_exists.mp
          (hdelivers.goesOn.get hworker hqueue)
        refine .inl ?_
        simp only [App.step, poolStep, hget]
        rfl
    | stopped =>
        -- the worker stands still only when it was told to stop
        have hungrouped : a.requestPool.ungrouped ≠ [] := by
          unfold RequestPool.held at hheld
          unfold RequestPool.ungrouped
          rw [hworker] at hheld ⊢
          exact hheld
        exact absurd hworker (hdelivers.goesOn.running hungrouped).1
    | stopping =>
        have hungrouped : a.requestPool.ungrouped ≠ [] := by
          unfold RequestPool.held at hheld
          unfold RequestPool.ungrouped
          rw [hworker] at hheld ⊢
          exact hheld
        exact absurd hworker (hdelivers.goesOn.running hungrouped).2

/-- Two requests in one group, both done. -/
theorem no_request_starves_one_group :
    ∃ a, Lts.run (step id (fun _ => none)
        (fun _ => .error .jsonDecodeError) fun _ => false) oneNodeRouter
        streamAndCancel = some a ∧
      ∀ request ∈ requests streamAndCancel,
        request ∈ a.requestPool.held ∨ ∃ caller,
          a.requestPool.callers.get request.requestId = some caller ∧
            caller.future.done = true := by
  have hsome : (Lts.run (step id (fun _ => none)
        (fun _ => .error .jsonDecodeError) fun _ => false) oneNodeRouter
        streamAndCancel).isSome := by decide +kernel
  obtain ⟨a, ha⟩ := Option.isSome_iff_exists.mp hsome
  have hstops : ∀ event ∈ streamAndCancel, event ≠ .stop ∧ event ≠ .stopped := by
    simp [streamAndCancel]
  exact ⟨a, ha, (no_request_starves id (fun _ => none)
    (fun _ => .error .jsonDecodeError) (fun _ => false) _ _ _ _ _
    streamAndCancel hstops a ha).waiting⟩

end Steps

end App

end Kareserve
