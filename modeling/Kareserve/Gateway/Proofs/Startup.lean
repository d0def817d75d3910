/-
A router that has been started from a configuration (Gateway/Startup.lean).

What `load_config` checks of its nodes is what the running router rests on:
there is one, their ids are distinct, and with cache lookups enabled each
has its domain (`Configures`). No event renames a node, moves it to another
domain, or adds or drops one (`Homed`), so this holds in every state the
router reaches, and in none of them does a plan end in "No available vLLM
server" (`started_places`).

`load_config` and `lifespan` are chains of checks, and what runs after a
check has its result (Lib/Fault.lean). A configuration that gets through
them all is read twice, once for its checks and once for the nodes; the two
readings are of one object and agree.
-/
import Kareserve.Gateway.Proofs.Config
import Kareserve.Gateway.Proofs.Serving
import Kareserve.Gateway.Startup

namespace Kareserve

open PyJson (Json HashKey)

-- =========================================================== the nodes

/-- What a started router has of its configuration. -/
structure Host.Configures (host : Host) (configPath : String) (s : Started) :
    Prop where
  load : host.loadConfig configPath = .ok s.config
  ne_nil : s.initialNodes ≠ []
  nodup : (s.initialNodes.map (·.nodeId)).Nodup
  covered : s.config.lmcacheLookupEnabled → ∀ node ∈ s.initialNodes,
    ∃ domain, s.config.cacheDomains.get node.cacheDomainId = some domain

section Reading

variable {host : Host}

theorem of_starting {α : Type} {x : Except ConfigError α} {a : α}
    (h : starting x = .ok a) : x = .ok a := by
  cases x with
  | error error => cases h
  | ok b =>
      injection h with h
      rw [h]

/-- The nodes of an accepted configuration. -/
theorem loadConfig_nodes {configPath : String} {config : RouterConfig}
    (h : host.loadConfig configPath = .ok config) :
    ∃ nodes keys, config.nodes.iter = .ok nodes ∧ config.nodes.truthy = true
      ∧ nodes.mapM nodeIdKey = .ok keys ∧ keys.Nodup := by
  unfold Host.loadConfig at h
  dsimp only at h
  obtain ⟨data, -, h⟩ := Fault.exists_of_bind h
  obtain ⟨nodes, -, h⟩ := Fault.exists_of_bind h
  obtain ⟨_, htruthy, h⟩ := Fault.exists_of_bind h
  obtain ⟨entries, hentries, h⟩ := Fault.exists_of_bind h
  obtain ⟨nodeIds, hnodeIds, h⟩ := Fault.exists_of_bind h
  obtain ⟨_, hunique, h⟩ := Fault.exists_of_bind h
  -- the rest leaves the nodes alone
  iterate 10 obtain ⟨_, -, h⟩ := Fault.exists_of_bind h
  injection h with h
  subst h
  refine ⟨entries, nodeIds, of_raises hentries, of_require htruthy, hnodeIds,
    ?_⟩
  have hlength := of_decide_eq_true (of_require hunique)
  rw [(Fault.forall₂_of_mapM hnodeIds).length_eq] at hlength
  exact List.dedup_eq_self.mp ((List.dedup_sublist nodeIds).eq_of_length hlength)

/-- What a node is read as. -/
theorem readNode_ok {node : Json} {state : NodeState}
    (h : host.readNode node = .ok state) :
    nodeIdKey node = .ok (.string state.nodeId)
      ∧ nodeDomainKey node = .ok (.string state.cacheDomainId)
      ∧ state = { nodeId := state.nodeId
                  cacheDomainId := state.cacheDomainId } := by
  unfold Host.readNode at h
  obtain ⟨nodeId, hnodeId, h⟩ := Fault.exists_of_bind h
  obtain ⟨_, -, h⟩ := Fault.exists_of_bind h
  obtain ⟨port, -, h⟩ := Fault.exists_of_bind h
  obtain ⟨_, -, h⟩ := Fault.exists_of_bind h
  obtain ⟨domainId, hdomainId, h⟩ := Fault.exists_of_bind h
  split at h
  next nodeId cacheDomainId =>
    injection h with h
    subst h
    unfold nodeIdKey nodeDomainKey
    rw [Fault.bind_ok (of_starting hnodeId), Fault.bind_ok (of_starting hnodeId),
      Fault.bind_ok (of_starting hdomainId)]
    exact ⟨rfl, rfl, rfl⟩
  next => cases h

/-- A loop over what is truthy has something to go through. -/
theorem iter_ne_nil {x : Json} (htruthy : x.truthy = true) :
    x.iter ≠ .ok [] := by
  intro hiter
  cases x with
  | list items =>
      injection hiter with hiter
      rw [hiter] at htruthy
      cases htruthy
  | string s =>
      injection hiter with hiter
      have hs : s = "" := String.toList_inj.mp (List.map_eq_nil_iff.mp hiter)
      rw [hs] at htruthy
      cases htruthy
  | dict members =>
      injection hiter with hiter
      cases members with
      | nil => cases htruthy
      | cons p members =>
          obtain ⟨value, hget⟩ := PyDict.exists_get_ofList (l := p :: members)
            (List.mem_map.mpr ⟨p, List.mem_cons_self .., rfl⟩)
          have hkey := PyDict.mem_keys_iff.mpr ⟨value, hget⟩
          rw [List.map_eq_nil_iff.mp hiter] at hkey
          cases hkey
  | _ => cases hiter

/-- The ids that are compared are those of the nodes. -/
theorem keys_of_readNode {nodes : List Json} {states : List NodeState}
    {keys : List HashKey}
    (hread : List.Forall₂ (fun node state => host.readNode node = .ok state)
      nodes states) (hkeys : nodes.mapM nodeIdKey = .ok keys) :
    keys = (states.map (·.nodeId)).map .string := by
  have hids : List.Forall₂ (fun node key => nodeIdKey node = .ok key) nodes
      ((states.map (·.nodeId)).map .string) := by
    rw [List.forall₂_map_right_iff, List.forall₂_map_right_iff]
    exact hread.imp fun _ _ h => (readNode_ok h).1
  have hmapM := Fault.mapM_of_forall₂ hids
  rw [hkeys] at hmapM
  injection hmapM

/-- `lifespan`, where it gets to its `yield`. -/
theorem lifespan_ok {templateText : String → Except ConfigError String}
    {configPath : String} {s : Started}
    (h : host.lifespan templateText configPath = .ok s) :
    host.Configures configPath s := by
  unfold Host.lifespan at h
  obtain ⟨config, hload, h⟩ := Fault.exists_of_bind h
  obtain ⟨template, -, h⟩ := Fault.exists_of_bind h
  obtain ⟨nodes, hnodes, h⟩ := Fault.exists_of_bind h
  obtain ⟨initialNodes, hinitial, h⟩ := Fault.exists_of_bind h
  obtain ⟨policy, -, h⟩ := Fault.exists_of_bind h
  injection h with h
  subst h
  have hconfig := of_starting hload
  have hiter := of_raises (of_starting hnodes)
  have hread := Fault.forall₂_of_mapM hinitial
  -- `lifespan` reads the nodes again, and finds those `load_config` has
  -- checked
  obtain ⟨nodes', keys, hiter', htruthy, hkeys, hnodup⟩ :=
    loadConfig_nodes hconfig
  rw [hiter] at hiter'
  injection hiter' with hiter'
  subst hiter'
  refine ⟨hconfig, ?_, ?_, fun henabled => ?_⟩
  · rintro rfl
    cases hread
    exact iter_ne_nil htruthy hiter
  · rw [keys_of_readNode hread hkeys] at hnodup
    exact hnodup.of_map _
  · obtain ⟨data, -, hloads⟩ := loadConfig_ok hconfig
    obtain ⟨nodes', hiter', hcovered⟩ := hloads.covered henabled
    rw [hiter] at hiter'
    injection hiter' with hiter'
    subst hiter'
    intro node hnode
    -- each of them is one of the objects whose domain was looked for
    obtain ⟨json, hjson, hnode⟩ := Fault.exists_of_mem_mapM hinitial hnode
    obtain ⟨domainId, domain, hkey, hdomain⟩ := hcovered json hjson
    rw [(readNode_ok hnode).2.1] at hkey
    injection hkey with hkey
    injection hkey with hkey
    exact ⟨domain, hkey ▸ hdomain⟩

end Reading

-- ========================================================= at their place

/-- What neither renames a node nor moves it to another domain. -/
def NodeEntry.KeepsHome (f : NodeEntry → NodeEntry) : Prop :=
  ∀ e, (f e).node.nodeId = e.node.nodeId
    ∧ (f e).node.cacheDomainId = e.node.cacheDomainId

/-- The nodes of a tracker are the initial ones, each with its domain. -/
structure KareserveTracker.Homed (t : KareserveTracker)
    (initialNodes : List NodeState) : Prop where
  nodes : ∀ nodeId e, t.entries.get nodeId = some e →
    ∃ node ∈ initialNodes, node.nodeId = nodeId ∧ e.node.nodeId = nodeId
      ∧ e.node.cacheDomainId = node.cacheDomainId
  known : ∀ node ∈ initialNodes, node.nodeId ∈ t.entries.keys
  domains : ∀ node ∈ initialNodes,
    node.cacheDomainId ∈ t.lmcacheCatalogStatus.keys

namespace KareserveTracker

variable {t : KareserveTracker} {initialNodes : List NodeState}

/-- Every node starts in the domain of its configuration. -/
theorem Homed.init (initialNodes : List NodeState) :
    (KareserveTracker.init initialNodes).Homed initialNodes where
  nodes nodeId e he := by
    obtain ⟨node, hnode, hid, rfl⟩ := init_get he
    exact ⟨node, hnode, hid, hid, rfl⟩
  known node hnode := PyDict.mem_keys_iff.mpr (init_known hnode)
  domains node hnode := by
    refine PyDict.mem_keys_iff.mpr (PyDict.exists_get_ofList ?_)
    rw [List.map_map]
    exact List.mem_map.mpr ⟨node, hnode, rfl⟩

/-- No operation on a node moves it to another domain. -/
theorem Homed.onNode (h : t.Homed initialNodes) {nodeId : NodeId}
    {f : NodeEntry → NodeEntry} (hf : NodeEntry.KeepsHome f) :
    (t.onNode nodeId f).Homed initialNodes where
  nodes nodeId' e he := by
    rw [onNode_get] at he
    split at he
    next hid =>
      obtain ⟨e₀, he₀, rfl⟩ := Option.map_eq_some_iff.mp he
      obtain ⟨hnodeId, hdomain⟩ := hf e₀
      rw [hnodeId, hdomain]
      exact h.nodes nodeId' e₀ (hid ▸ he₀)
    next => exact h.nodes nodeId' e he
  known node hnode := by
    have hkeys : (t.onNode nodeId f).entries.keys = t.entries.keys :=
      PyDict.keys_modify _ _ _
    rw [hkeys]
    exact h.known node hnode
  domains := h.domains

/-- A lookup marks only the domains there are, so every node keeps a home. -/
theorem Homed.setLmcacheLookupStatus (h : t.Homed initialNodes)
    (failedDomains : List String) :
    (t.setLmcacheLookupStatus failedDomains).Homed initialNodes where
  nodes := h.nodes
  known := h.known
  domains node hnode := by
    unfold KareserveTracker.setLmcacheLookupStatus
    rw [PyDict.keys_map]
    exact h.domains node hnode

end KareserveTracker

namespace App

variable {a a' : App} {P : KareserveTracker → Prop}

section Steps

variable {blake2b : List UInt8 → List UInt8}
  {decode : Bytes → Option RawMapEventBatch}
  {loads : Bytes → Except LoadsError Json}
  {replayEndpoint : NodeId → Bool} {event : AppEvent} {events : List AppEvent}

section Rule

variable
  (hstatus : ∀ t failedDomains, P t → P (t.setLmcacheLookupStatus failedDomains))
  (hnode : ∀ t nodeId f, NodeEntry.KeepsHome f → P t → P (t.onNode nodeId f))

include hnode

/-- What the calls of a step keep of a tracker. -/
theorem runCalls_tracker {t : KareserveTracker} (h : P t)
    (calls : List RouteCall) : P (t.runCalls calls) := by
  induction calls generalizing t with
  | nil => exact h
  | cons call calls ih =>
      apply ih
      cases call with
      | reserve nodeId work => exact hnode t nodeId _ (fun _ => ⟨rfl, rfl⟩) h
      | release nodeId work => exact hnode t nodeId _ (fun _ => ⟨rfl, rfl⟩) h

include hstatus

/-- All a step does to the tracker is to note the status of the domains, and
to write to nodes what is not their name or domain. -/
theorem step_tracker (h : P a.tracker)
    (hstep : a.step blake2b decode loads replayEndpoint event = some a') :
    P a'.tracker := by
  cases hpe : a.poolEvent blake2b event with
  | some pe =>
      obtain ⟨found, htracker⟩ := (step_pool hstep hpe).tracker
      rw [htracker]
      apply runCalls_tracker hnode
      cases found with
      | none => exact h
      | some found => exact hstatus _ _ h
  | none =>
      cases step_own hstep hpe with
      | exchange requestId event now x next get step =>
          unfold exchanged
          dsimp only
          split
          · exact runCalls_tracker hnode h
              [(x.note loads now event).1.completion.releaseCall]
          · exact h
      | listener nodeId event l mc get move =>
          refine hnode _ _ _ (fun e => ?_) h
          obtain ⟨size, hsize⟩ := e.act_node mc.1
          rw [hsize]
          exact ⟨rfl, rfl⟩
      | poll nodeId processStartSamples f =>
          refine hnode _ _ _ (fun e => ?_) h
          unfold NodeEntry.poll NodeEntry.updateProcessStart NodeState.store
          cases processStartSamples.getLast? with
          | none => exact ⟨rfl, rfl⟩
          | some processStart =>
              dsimp only
              split <;> exact ⟨rfl, rfl⟩

/-- What the tracker's operations preserve holds after every run. -/
theorem run_tracker (h : P a.tracker)
    (hrun : Lts.run (step blake2b decode loads replayEndpoint) a events
      = some a') : P a'.tracker :=
  Lts.run_preserves (I := fun a : App => P a.tracker)
    (fun _ _ _ h hstep => step_tracker hstatus hnode h hstep) h hrun

end Rule

/-- In every state of a router its nodes are where they were. -/
theorem run_homed {policy : Policy} {policyName : String}
    {prefixBlockSize maxPlanningGroupSize : ℤ} {initialNodes : List NodeState}
    (hrun : Lts.run (step blake2b decode loads replayEndpoint)
      (start policy policyName prefixBlockSize maxPlanningGroupSize
        replayEndpoint initialNodes) events = some a) :
    a.tracker.Homed initialNodes := by
  refine run_tracker (P := fun t => t.Homed initialNodes) ?_ ?_ ?_ hrun
  · exact fun _ failedDomains h => h.setLmcacheLookupStatus failedDomains
  · exact fun _ _ _ hf h => h.onNode hf
  · exact KareserveTracker.Homed.init initialNodes

/-- What a plan is to give: everyone in the group who has not been cancelled
has one of these nodes, in the node's own cache domain. -/
def Places (nodes : List NodeState) (group : List SchedulerRequest)
    (a' : App) : Prop :=
  ∀ request ∈ group, ∃ caller,
    a'.requestPool.callers.get request.requestId = some caller ∧
    (caller.future = .cancelled ∨
      ∃ result, caller.future = .result result ∧
        ∃ node ∈ nodes, result.node.nodeId = node.nodeId ∧
          result.node.cacheDomainId = node.cacheDomainId)

/-- A router that has been started never runs out of nodes. From every state
it reaches, whatever the lookup found, the plan of a group ends its round,
and everyone in it who has not been cancelled is given a node of the
configuration, in its own cache domain, or else the exception that a number
too large has raised. No caller is told that there is no server, and where
all numbers are small everyone has a node. -/
theorem started_places (host : Host)
    (templateText : String → Except ConfigError String) (configPath : String)
    (s : Started) (hstart : host.lifespan templateText configPath = .ok s)
    (blake2b : List UInt8 → List UInt8)
    (decode : Bytes → Option RawMapEventBatch)
    (loads : Bytes → Except LoadsError Json) (events : List AppEvent) (a : App)
    (hrun : Lts.run (step blake2b decode loads s.replayEndpoint) s.app events
      = some a)
    (group : List SchedulerRequest)
    (hworker : a.requestPool.worker = .planning group)
    (found : Option LookupResult) :
    ∃ a', a.step blake2b decode loads s.replayEndpoint (.lookupReturned found)
        = some a'
      ∧ (Places s.initialNodes group a'
        ∨ ∃ error, TooLarge error ∧ a.Fails group error a')
      ∧ (a.SmallNumbers group → Places s.initialNodes group a') := by
  have hconfigures := lifespan_ok hstart
  have hhomed := run_homed hrun
  obtain ⟨a', hstep, hends, hsmall⟩ := plan_serves blake2b decode loads
    s.replayEndpoint _ _ _ _ _ events a hrun group hworker found
  -- there is a node, so whoever is served gets one of those the tracker knows,
  -- which are the configuration's
  have hplaces : a.Serves found group a' → Places s.initialNodes group a' := by
    intro hserves request hrequest
    obtain ⟨caller, hget, hfuture⟩ := hserves.answered request hrequest
    refine ⟨caller, hget, hfuture.imp_right fun hanswer => ?_⟩
    obtain ⟨node, hnode⟩ := List.exists_mem_of_ne_nil _ hconfigures.ne_nil
    rw [if_neg (List.ne_nil_of_mem (hhomed.known node hnode))] at hanswer
    obtain ⟨result, hresult, hplaced⟩ := hanswer
    obtain ⟨nodeId, e, he, hnode⟩ := hplaced.known
    obtain ⟨node, hmem, hid, hown, hdomain⟩ := hhomed.nodes nodeId e he
    refine ⟨result, hresult, node, hmem, ?_, ?_⟩
    · rw [hnode, hid]
      exact hown
    · rw [hnode]
      exact hdomain
  exact ⟨a', hstep, hends.imp_left hplaces, hplaces ∘ hsmall⟩

/-- A host with lookup enabled and a configuration of two nodes, each with a
domain of its own. -/
def twoNodeHost : Host :=
  let node := fun nodeId : String => Json.dict
    [("node_id", .string nodeId), ("host", .string "127.0.0.1"),
      ("port", .int 8101)]
  let domain := Json.dict [("http_url", .string "http://127.0.0.1:8080"),
    ("model_id", .string "/models/opt-1.3b")]
  { oneNodeHost 1 with
    configFile := fun _ => .json <| .dict
      [("nodes", .list [node "gpu0", node "gpu1"]),
        ("cache_domains", .dict [("gpu0", domain), ("gpu1", domain)]),
        ("tokenizer", .dict [("path", .string "/models/opt-1.3b")]),
        ("routing", .dict [("policy", .string "Round_Robin")])] }

/-- The domains of `twoNodeHost`. -/
def twoDomains : List CacheDomainConfig :=
  [{ domainId := "gpu0", modelId := "/models/opt-1.3b" },
    { domainId := "gpu1", modelId := "/models/opt-1.3b" }]

/-- What a router on `twoNodeHost` is when it plans for one request. -/
structure TwoNodesPlan (s : Started) (a : App) : Prop where
  start : twoNodeHost.lifespan (fun _ => .error .runtimeError) "/config.json"
    = .ok s
  run : Lts.run (step id (fun _ => none) (fun _ => .error .jsonDecodeError)
    s.replayEndpoint) s.app
    [.request ⟨"r", [1, 2], 8⟩ ⟨"r", true⟩, .get, .collect] = some a
  worker : a.requestPool.worker = .planning [⟨"r", [1, 2], 8⟩]
  homes : ∀ nodeId ∈ ["gpu0", "gpu1"],
    (a.tracker.entries.get nodeId).map (·.node.cacheDomainId) = some nodeId
  enabled : s.config.lmcacheLookupEnabled = true
  domains : s.config.cacheDomains.values = twoDomains
  small : a.SmallNumbers [⟨"r", [1, 2], 8⟩]

theorem exists_twoNodesPlan : ∃ s a, TwoNodesPlan s a := by
  have hrun : ((twoNodeHost.lifespan (fun _ => .error .runtimeError)
        "/config.json").toOption.bind fun s =>
          (Lts.run (step id (fun _ => none) (fun _ => .error .jsonDecodeError)
            s.replayEndpoint) s.app [.request ⟨"r", [1, 2], 8⟩ ⟨"r", true⟩,
              .get, .collect]).map fun a =>
                (a.requestPool.worker,
                  decide (∀ nodeId ∈ ["gpu0", "gpu1"],
                    (a.tracker.entries.get nodeId).map (·.node.cacheDomainId)
                      = some nodeId),
                  s.config.lmcacheLookupEnabled, s.config.cacheDomains.values,
                  decide (a.SmallNumbers [⟨"r", [1, 2], 8⟩])))
      = some (.planning [⟨"r", [1, 2], 8⟩], true, true, twoDomains, true) := by
    decide +kernel
  obtain ⟨s, hs, hrun⟩ := Option.bind_eq_some_iff.mp hrun
  obtain ⟨a, ha, hfacts⟩ := Option.map_eq_some_iff.mp hrun
  injection hfacts with hworker hfacts
  injection hfacts with hhomes hfacts
  injection hfacts with henabled hfacts
  injection hfacts with hdomains hsmall
  refine ⟨s, a, ?_, ha, hworker, of_decide_eq_true hhomes, henabled, hdomains,
    of_decide_eq_true hsmall⟩
  cases hstart : twoNodeHost.lifespan (fun _ => .error .runtimeError)
    "/config.json" with
  | error error =>
      rw [hstart] at hs
      cases hs
  | ok s' =>
      rw [hstart] at hs
      injection hs with hs
      rw [hs]

theorem started_places_two_nodes :
    ∃ (s : Started) (a a' : App) (caller : Caller),
      twoNodeHost.lifespan (fun _ => .error .runtimeError) "/config.json"
        = .ok s ∧
      a.step id (fun _ => none) (fun _ => .error .jsonDecodeError)
        s.replayEndpoint (.lookupReturned none) = some a' ∧
      a'.requestPool.callers.get "r" = some caller ∧
      (caller.future = .cancelled ∨
        ∃ result, caller.future = .result result ∧
          ∃ node ∈ s.initialNodes, result.node.nodeId = node.nodeId ∧
            result.node.cacheDomainId = node.cacheDomainId) := by
  obtain ⟨s, a, h⟩ := exists_twoNodesPlan
  obtain ⟨a', hstep, -, hplaces⟩ := started_places twoNodeHost _ "/config.json"
    s h.start id (fun _ => none) (fun _ => .error .jsonDecodeError) _ a h.run _
    h.worker none
  obtain ⟨caller, hget, hfuture⟩ :=
    hplaces h.small ⟨"r", [1, 2], 8⟩ (List.mem_cons_self ..)
  exact ⟨s, a, a', caller, h.start, hstep, hget, hfuture⟩

end Steps

end App

end Kareserve
