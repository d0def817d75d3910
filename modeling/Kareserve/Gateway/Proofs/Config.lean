/-
What an accepted configuration is, and which lookups of its router the
bridge accepts.

`Loads` is what `load_config` leaves of the file it accepts: the domains
with their clamped world sizes, all of them if lookup is enabled, and the
timeout. The body of a lookup has the right types whatever the
configuration, so bounds are all that is left (`validate_lookupJson`). The
world size meets its bound and the timeout the lower one. The upper one is
not looked at on the side of the router: a timeout of more than ten seconds
is accepted by `load_config` and by the client, and no lookup by the bridge
(`lookup_accepted_iff`).
-/
import Kareserve.Gateway.Config
import Kareserve.Gateway.Proofs.Bridge
import Mathlib.Tactic.Linarith

namespace Kareserve

open PyJson (Json)

-- ================================================================ loading

/-- `float(routing.get("lmcache_lookup_timeout_seconds", 1.0))`. -/
def Host.configuredTimeout (host : Host) (data : Json) :
    Except ConfigError PyJson.Float := do
  let routing ← raises (data.get "routing" (.dict []))
  host.getFloat routing "lmcache_lookup_timeout_seconds" 1

/-- What an accepted configuration takes from its file. -/
structure Host.Loads (host : Host) (data : Json) (config : RouterConfig) :
    Prop where
  enabled : config.lmcacheLookupEnabled = host.lmcacheLookupEnabled
  cacheDomains : host.readCacheDomains data = .ok config.cacheDomains
  timeout : ∃ timeout, host.configuredTimeout data = .ok timeout
    ∧ config.lmcacheLookupTimeoutSeconds
      = PyJson.Float.max (.finite 0.01) [timeout]
  covered : config.lmcacheLookupEnabled → ∃ nodes,
    config.nodes.iter = .ok nodes
      ∧ ∀ node ∈ nodes, ∃ domainId domain,
        nodeDomainKey node = .ok (.string domainId)
          ∧ config.cacheDomains.get domainId = some domain

section Loading

variable {host : Host}

theorem of_require {c : Bool} {error : ConfigError} {u : Unit}
    (h : require c error = .ok u) : c = true := by
  unfold require at h
  split at h
  case isTrue hc => exact hc
  case isFalse => cases h

/-- What a built-in operation returns. -/
theorem of_raises {α : Type} {x : Except PyJson.Exc α} {a : α}
    (h : raises x = .ok a) : x = .ok a := by
  cases x with
  | error exc => cases h
  | ok b =>
      injection h with h
      rw [h]

theorem readData_ok {path : String} {data : Json}
    (h : host.readData path = .ok data) :
    host.configFile path = .json data := by
  unfold Host.readData at h
  split at h
  next => cases h
  next => cases h
  next hfile =>
    injection h with h
    rw [← h]
    exact hfile

theorem readRouting_ok {routing : Json} {options : RoutingOptions}
    (h : host.readRouting routing = .ok options) :
    ∃ timeout,
      host.getFloat routing "lmcache_lookup_timeout_seconds" 1 = .ok timeout
        ∧ options.lmcacheLookupTimeoutSeconds
          = PyJson.Float.max (.finite 0.01) [timeout] := by
  unfold Host.readRouting at h
  obtain ⟨timeout, htimeout, h⟩ := Fault.exists_of_bind h
  refine ⟨timeout, htimeout, ?_⟩
  -- the other members leave the timeout alone
  iterate 12 obtain ⟨_, -, h⟩ := Fault.exists_of_bind h
  injection h with h
  rw [← h]

/-- Where no node's domain is missing, each is there. -/
theorem covered_of_missing {cacheDomains : PyDict String CacheDomainConfig}
    {nodes : List Json} {keys : List PyJson.HashKey}
    (hkeys : nodes.mapM nodeDomainKey = .ok keys)
    (hmissing : (keys.dedup.filter fun key =>
      key ∉ cacheDomains.keys.map PyJson.HashKey.string) = []) :
    ∀ node ∈ nodes, ∃ domainId domain,
      nodeDomainKey node = .ok (.string domainId)
        ∧ cacheDomains.get domainId = some domain := by
  intro node hnode
  obtain ⟨key, hkey⟩ := Fault.exists_ok_of_mapM hkeys hnode
  have hmem := List.mem_dedup.mpr (Fault.mem_of_mapM hkeys hnode hkey)
  have hfound := List.filter_eq_nil_iff.mp hmissing key hmem
  rw [decide_eq_true_eq, not_not] at hfound
  obtain ⟨domainId, hdomainId, rfl⟩ := List.mem_map.mp hfound
  obtain ⟨domain, hdomain⟩ := PyDict.mem_keys_iff.mp hdomainId
  exact ⟨domainId, domain, hkey, hdomain⟩

/-- `load_config`, where it returns. -/
theorem loadConfig_ok {configPath : String} {config : RouterConfig}
    (h : host.loadConfig configPath = .ok config) :
    ∃ data, host.configFile (host.resolve configPath) = .json data
      ∧ host.Loads data config := by
  unfold Host.loadConfig at h
  dsimp only at h
  obtain ⟨data, hdata, h⟩ := Fault.exists_of_bind h
  obtain ⟨nodes, -, h⟩ := Fault.exists_of_bind h
  obtain ⟨_, -, h⟩ := Fault.exists_of_bind h
  obtain ⟨entries, hentries, h⟩ := Fault.exists_of_bind h
  obtain ⟨nodeIds, -, h⟩ := Fault.exists_of_bind h
  obtain ⟨_, -, h⟩ := Fault.exists_of_bind h
  obtain ⟨tokenizer, -, h⟩ := Fault.exists_of_bind h
  obtain ⟨tokenizerPath, -, h⟩ := Fault.exists_of_bind h
  obtain ⟨template, -, h⟩ := Fault.exists_of_bind h
  obtain ⟨routing, hrouting, h⟩ := Fault.exists_of_bind h
  obtain ⟨cacheDomains, hdomains, h⟩ := Fault.exists_of_bind h
  obtain ⟨keys, hkeys, h⟩ := Fault.exists_of_bind h
  obtain ⟨_, hmissing, h⟩ := Fault.exists_of_bind h
  obtain ⟨tokenizerOptions, -, h⟩ := Fault.exists_of_bind h
  obtain ⟨routingOptions, hoptions, h⟩ := Fault.exists_of_bind h
  obtain ⟨hardwareProfile, -, h⟩ := Fault.exists_of_bind h
  injection h with h
  subst h
  -- what is kept of the routing options is clamped
  obtain ⟨timeout, htimeout, hclamped⟩ := readRouting_ok hoptions
  refine ⟨data, ?_, rfl, hdomains, ⟨timeout, ?_, hclamped⟩, ?_⟩
  · exact readData_ok hdata
  · unfold Host.configuredTimeout
    rw [Fault.bind_ok hrouting]
    exact htimeout
  · intro henabled
    refine ⟨entries, of_raises hentries, covered_of_missing hkeys ?_⟩
    -- with lookups enabled no domain is missing
    have hnone := of_require hmissing
    dsimp only at henabled
    rw [henabled, Bool.true_and, Bool.not_not, List.isEmpty_iff] at hnone
    exact hnone

end Loading

-- ============================================================ the domains

section Domains

variable {host : Host} {data : Json}
  {cacheDomains : PyDict String CacheDomainConfig}

theorem readCacheDomain_worldSize {domainId : String} {domain : Json}
    {config : CacheDomainConfig}
    (h : host.readCacheDomain domainId domain = .ok config) :
    1 ≤ config.worldSize := by
  unfold Host.readCacheDomain at h
  iterate 4 obtain ⟨_, -, h⟩ := Fault.exists_of_bind h
  injection h with h
  rw [← h]
  exact le_max_left _ _

/-- A domain is kept under its own id, with a world size of at least
one. -/
theorem readCacheDomains_get
    (h : host.readCacheDomains data = .ok cacheDomains) {domainId : String}
    {domain : CacheDomainConfig}
    (hdomain : cacheDomains.get domainId = some domain) :
    domain.domainId = domainId ∧ 1 ≤ domain.worldSize := by
  unfold Host.readCacheDomains at h
  obtain ⟨domains, -, h⟩ := Fault.exists_of_bind h
  obtain ⟨pairs, -, h⟩ := Fault.exists_of_bind h
  obtain ⟨configs, hconfigs, h⟩ := Fault.exists_of_bind h
  injection h with h
  rw [← h] at hdomain
  obtain ⟨config, hmem, heq⟩ :=
    List.mem_map.mp (PyDict.mem_of_get_ofList hdomain)
  injection heq with hid hconfig
  obtain ⟨p, -, hread⟩ := Fault.exists_of_mem_mapM hconfigs hmem
  rw [← hconfig]
  exact ⟨hid, readCacheDomain_worldSize hread⟩

end Domains

-- ============================================================ the timeout

/-- The timeout a client has for a configured one. -/
def clientTimeout (timeout : PyJson.Float) : PyJson.Float :=
  PyJson.Float.max (PyJson.Float.max (.finite 0.01) [timeout]) [.finite 0.01]

/-- Only the lower bound is enforced: a timeout is a positive number, no
greater than ten where the configured one was not, or it is infinite. -/
theorem clientTimeout_cases (timeout : PyJson.Float) :
    (∃ q, clientTimeout timeout = .finite q ∧ 0 < q
        ∧ (q ≤ 10 ↔ PyJson.Float.lt (.finite 10) timeout = false))
      ∨ clientTimeout timeout = .infinite false
        ∧ PyJson.Float.lt (.finite 10) timeout = true := by
  cases timeout with
  | nan =>
      refine Or.inl ⟨0.01, by decide +kernel, by norm_num, ?_⟩
      decide +kernel
  | infinite negative =>
      cases negative with
      | false => exact Or.inr ⟨by decide +kernel, rfl⟩
      | true =>
          refine Or.inl ⟨0.01, by decide +kernel, by norm_num, ?_⟩
          decide +kernel
  | finite q =>
      refine Or.inl ⟨max q 0.01, ?_, lt_max_of_lt_right (by norm_num), ?_⟩
      · unfold clientTimeout
        have hinner := PyJson.Float.max_finite 0.01 [q]
        have houter := PyJson.Float.max_finite (max 0.01 q) [0.01]
        simp only [List.map_cons, List.map_nil, List.foldl_cons,
          List.foldl_nil] at hinner houter
        rw [hinner, houter, max_comm 0.01 q, max_assoc, max_self]
      · show max q 0.01 ≤ 10 ↔ decide (10 < q) = false
        rw [max_le_iff, decide_eq_false_iff_not, not_lt]
        exact and_iff_left (by norm_num)

-- =============================================================== the body

section Body

variable (conv : Pydantic.Conversions)

/-- A member of a query, as the other side reads it. -/
theorem field_lookupQueryJson {α : Type} {convert : Json → Option α}
    (domain : CacheDomainConfig) (request : SchedulerRequest) {name : String}
    {value : Json} {a : α} (default : Option α)
    (hmem : (name, value) ∈
      [("request_id", Json.string request.requestId),
        ("model_name", .string domain.modelId),
        ("world_size", .int domain.worldSize),
        ("token_ids", .list (request.promptTokens.map .int)),
        ("cache_salt", .string domain.cacheSalt)])
    (hconvert : convert value = some a) :
    Pydantic.field convert (lookupQueryJson domain request) name default
      = some a := by
  unfold lookupQueryJson
  rw [Pydantic.field_of_mem _ hmem, hconvert]
  show ["request_id", "model_name", "world_size", "token_ids",
    "cache_salt"].Nodup
  decide

/-- A query is read as it was sent. -/
theorem readQuery_lookupQueryJson (domain : CacheDomainConfig)
    (request : SchedulerRequest) :
    readQuery conv (lookupQueryJson domain request) = some
      { requestId := request.requestId
        modelName := domain.modelId
        worldSize := domain.worldSize
        tokenIds := request.promptTokens
        cacheSalt := domain.cacheSalt } := by
  have htokens : Pydantic.listOf conv.int
      (.list (request.promptTokens.map .int)) = some request.promptTokens := by
    rw [Pydantic.listOf_map fun n _ => conv.int_int n]
    exact congrArg some (List.map_id _)
  unfold readQuery
  rw [field_lookupQueryJson domain request none (by simp)
      (conv.str_string request.requestId),
    field_lookupQueryJson domain request none (by simp)
      (conv.str_string domain.modelId),
    field_lookupQueryJson domain request none (by simp) htokens,
    field_lookupQueryJson domain request (some 1) (by simp)
      (conv.int_int domain.worldSize),
    field_lookupQueryJson domain request (some "") (by simp)
      (conv.str_string domain.cacheSalt)]
  rfl

/-- The queries of a body are read as they were sent. -/
theorem queries_lookupJson (client : ConfiguredClient)
    (requests : List SchedulerRequest) (domain : CacheDomainConfig) :
    Pydantic.field (Pydantic.listOf (readQuery conv))
        (client.lookupJson requests domain) "queries" none
      = some (requests.map fun request =>
        { requestId := request.requestId
          modelName := domain.modelId
          worldSize := domain.worldSize
          tokenIds := request.promptTokens
          cacheSalt := domain.cacheSalt }) := by
  refine (Pydantic.field_of_mem ?_ (List.mem_cons_self ..) none).trans
    (Pydantic.listOf_map fun request _ =>
      readQuery_lookupQueryJson conv domain request)
  show ["queries", "timeout_ms"].Nodup
  decide

/-- The timeout of a body is read as it was sent. -/
theorem timeout_lookupJson (client : ConfiguredClient)
    (requests : List SchedulerRequest) (domain : CacheDomainConfig)
    (default : Option PyJson.Float) :
    Pydantic.field conv.float (client.lookupJson requests domain) "timeout_ms"
        default
      = some (PyJson.Float.mul client.timeoutSeconds (.finite 1000)) := by
  refine (Pydantic.field_of_mem ?_
    (List.mem_cons_of_mem _ (List.mem_cons_self ..)) default).trans
    (conv.float_float _)
  show ["queries", "timeout_ms"].Nodup
  decide

/-- The types of a body are right, whatever is in it, and what is left to
check are the bounds. -/
theorem validate_lookupJson (client : LMCacheLookupClient)
    (hrange : |client.timeoutSeconds * 1000| < PyJson.Float.limit)
    (requests : List SchedulerRequest) (domain : CacheDomainConfig) :
    validateLookup conv
        (ConfiguredClient.lookupJson
          ⟨client.domains, .finite client.timeoutSeconds⟩ requests domain)
      = (client.lookupBody requests domain).validate := by
  have hmul : PyJson.Float.mul (.finite client.timeoutSeconds) (.finite 1000)
      = .finite (client.timeoutSeconds * 1000) :=
    PyJson.Float.ofRat_of_lt hrange
  unfold validateLookup
  rw [queries_lookupJson, timeout_lookupJson]
  dsimp only [Option.bind_eq_bind, Option.bind_some]
  rw [hmul]
  rfl

/-- An infinite timeout is out of bounds. -/
theorem validate_lookupJson_infinite (client : ConfiguredClient)
    {negative : Bool}
    (hmul : PyJson.Float.mul client.timeoutSeconds (.finite 1000)
      = .infinite negative)
    (requests : List SchedulerRequest) (domain : CacheDomainConfig) :
    validateLookup conv (client.lookupJson requests domain) = none := by
  unfold validateLookup
  rw [queries_lookupJson, timeout_lookupJson]
  dsimp only [Option.bind_eq_bind, Option.bind_some]
  rw [hmul]

/-- With a positive timeout and a world size in bounds, a body is accepted
where the timeout is at most ten seconds. -/
theorem isSome_validate_lookupBody {client : LMCacheLookupClient}
    {domain : CacheDomainConfig} (hpos : 0 < client.timeoutSeconds)
    (hworld : 1 ≤ domain.worldSize) (requests : List SchedulerRequest) :
    ((client.lookupBody requests domain).validate).isSome
      ↔ client.timeoutSeconds ≤ 10 := by
  have hbounds : 0 < client.timeoutSeconds * 1000
        ∧ client.timeoutSeconds * 1000 ≤ 10000
      ↔ client.timeoutSeconds ≤ 10 := by
    constructor
    · intro h
      linarith [h.2]
    · intro h
      exact ⟨by linarith, by linarith⟩
  unfold SentLookup.validate
  rw [mapM_validate hworld, Option.bind_eq_bind, Option.bind_some, ← hbounds]
  split
  case isTrue h => exact iff_of_true rfl h
  case isFalse h => exact iff_of_false (by decide) h

/-- Whether a body is accepted is a matter of the configured timeout. -/
theorem isSome_validateLookup_iff {client : ConfiguredClient}
    {timeout : PyJson.Float}
    (hseconds : client.timeoutSeconds = clientTimeout timeout)
    (hkeyed : ∀ domainId domain, client.domains.get domainId = some domain →
      domain.domainId = domainId)
    {domain : CacheDomainConfig} (hworld : 1 ≤ domain.worldSize)
    (requests : List SchedulerRequest) :
    (validateLookup conv (client.lookupJson requests domain)).isSome
      ↔ PyJson.Float.lt (.finite 10) timeout = false := by
  rcases clientTimeout_cases timeout with
    ⟨q, hq, hpos, hbound⟩ | ⟨hinf, habove⟩
  · rw [hq] at hseconds
    rw [← hbound]
    by_cases hrange : |q * 1000| < PyJson.Float.limit
    · have hbody := validate_lookupJson conv ⟨client.domains, q, hkeyed⟩
        hrange requests domain
      rw [← hseconds] at hbody
      rw [hbody]
      exact isSome_validate_lookupBody hpos hworld requests
    · -- out of the range of a float, and above ten seconds by far
      have hmul : PyJson.Float.mul client.timeoutSeconds (.finite 1000)
          = .infinite (decide (q * 1000 < 0)) := by
        rw [hseconds]
        exact if_neg hrange
      rw [validate_lookupJson_infinite conv client hmul]
      refine iff_of_false (by decide) fun hle => hrange ?_
      have hlimit : (10000 : ℚ) < PyJson.Float.limit := by decide +kernel
      rw [abs_of_pos (by linarith)]
      linarith
  · have hmul : PyJson.Float.mul client.timeoutSeconds (.finite 1000)
        = .infinite false := by
      rw [hseconds, hinf]
      decide +kernel
    rw [validate_lookupJson_infinite conv client hmul, habove]
    exact iff_of_false (by decide) (by decide)

end Body

-- ============================================================= the lookups

/-- Conversions that take values of the type only. -/
def strictConversions : Pydantic.Conversions where
  int
    | .int n => some n
    | _ => none
  float
    | .float x => some x
    | _ => none
  str
    | .string s => some s
    | _ => none
  int_int := fun _ => rfl
  float_float := fun _ => rfl
  str_string := fun _ => rfl

/-- A host with lookup enabled and a configuration of one node. -/
def oneNodeHost (timeoutSeconds : ℚ) : Host where
  builtins := ⟨fun _ => none, fun _ => ""⟩
  parseFloat := fun _ => none
  environ := fun name =>
    if name = "KARESERVE_ENABLE_LMCACHE" then some "1" else none
  resolve := fun path => path
  configFile := fun _ => .json <| .dict
    [("nodes", .list [.dict [("node_id", .string "gpu0")]]),
      ("cache_domains", .dict
        [("gpu0", .dict
          [("http_url", .string "http://127.0.0.1:8080"),
            ("model_id", .string "/models/opt-1.3b")])]),
      ("tokenizer", .dict [("path", .string "/models/opt-1.3b")]),
      ("routing", .dict
        [("lmcache_lookup_timeout_seconds", .float (.finite timeoutSeconds))])]
  expanduser := some
  isAbsolute := fun path => path.startsWith "/"
  resolveBeside := fun _ path => path
  pathExists := fun _ => false

/-- The bridge accepts the lookups of a router just where its configured
timeout is not above ten seconds. The configuration is any that
`load_config` accepts with lookup enabled; the domain and the requests,
with them the world size and the salt, do not matter. -/
theorem lookup_accepted_iff (host : Host) (conv : Pydantic.Conversions)
    (configPath : String) (config : RouterConfig)
    (hload : host.loadConfig configPath = .ok config)
    (client : ConfiguredClient) (hclient : config.lookupClient = some client) :
    ∃ data timeout,
      host.configFile (host.resolve configPath) = .json data
        ∧ host.configuredTimeout data = .ok timeout
        ∧ ∀ domainId domain, client.domains.get domainId = some domain →
          ∀ requests,
            (validateLookup conv (client.lookupJson requests domain)).isSome
              ↔ PyJson.Float.lt (.finite 10) timeout = false := by
  obtain ⟨data, hdata, hloads⟩ := loadConfig_ok hload
  obtain ⟨timeout, htimeout, hclamped⟩ := hloads.timeout
  refine ⟨data, timeout, hdata, htimeout, ?_⟩
  unfold RouterConfig.lookupClient at hclient
  split at hclient
  case isFalse => cases hclient
  injection hclient with hclient
  subst hclient
  have hdomains : ∀ domainId domain,
      config.cacheDomains.get domainId = some domain →
        domain.domainId = domainId ∧ 1 ≤ domain.worldSize :=
    fun _ _ h => readCacheDomains_get hloads.cacheDomains h
  have hseconds : (ConfiguredClient.init config.cacheDomains
      config.lmcacheLookupTimeoutSeconds).timeoutSeconds
      = clientTimeout timeout := by
    unfold ConfiguredClient.init clientTimeout
    rw [hclamped]
  intro domainId domain hdomain requests
  exact isSome_validateLookup_iff conv hseconds
    (fun domainId domain h => (hdomains domainId domain h).1)
    (hdomains domainId domain hdomain).2 requests

/-- One second is accepted. -/
theorem lookup_accepted_one_second :
    ∃ config client domain,
      (oneNodeHost 1).loadConfig "/config.json" = .ok config
        ∧ config.lookupClient = some client
        ∧ client.domains.get "gpu0" = some domain
        ∧ ∀ requests, (validateLookup strictConversions
          (client.lookupJson requests domain)).isSome := by
  obtain ⟨data, timeout, hdata, htimeout, haccepted⟩ :=
    lookup_accepted_iff (oneNodeHost 1) strictConversions "/config.json" _ rfl
      _ rfl
  injection hdata with hdata
  rw [← hdata] at htimeout
  injection htimeout with htimeout
  refine ⟨_, _, _, rfl, rfl, rfl, fun requests => ?_⟩
  refine (haccepted "gpu0" _ rfl requests).mpr ?_
  rw [← htimeout]
  decide +kernel

/-- Half a minute is accepted by `load_config` and rejected with every
lookup. -/
theorem lookup_rejected_half_minute :
    ∃ config client domain,
      (oneNodeHost 30).loadConfig "/config.json" = .ok config
        ∧ config.lookupClient = some client
        ∧ client.domains.get "gpu0" = some domain
        ∧ validateLookup strictConversions
          (client.lookupJson [⟨"r", [1, 2], 8⟩] domain) = none := by
  refine ⟨_, _, _, rfl, rfl, rfl, ?_⟩
  rw [← Option.isNone_iff_eq_none]
  decide +kernel

end Kareserve
