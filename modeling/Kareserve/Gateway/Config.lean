/-
The router's configuration (`kareserve/server.py`, `load_config`), and the
body of a lookup as JSON on both sides of the bridge.

# Where it runs

`Host` has what `load_config` takes from outside: the environment, the
file, the paths, and built-in functions that depend on Unicode tables. A
path is kept as the text that `str` gives of it.

# What is not kept

The address of a cache domain is read, and raises where it is missing, but
no configuration keeps it: `CacheDomainConfig` is the one of the lookup
client.

# The body

The timeout of a configuration is a float and may be an infinity, so the
body is built here as JSON. `validateLookup` checks the types of its fields
and hands the rest, which is bounds, to Gateway/Bridge.lean; NaN and the
infinities are out of every bound.
-/
import Kareserve.Gateway.Bridge
import Kareserve.Lib.Pydantic
import Kareserve.Lib.PyFloat
import Kareserve.Lib.SortKey
import Mathlib.Data.List.Dedup
import Mathlib.Data.String.Basic

namespace Kareserve

open PyJson (Json Exc Builtins HashKey)

/-- What `load_config` raises. -/
inductive ConfigError where
  | fileNotFoundError (message : String)
  | valueError (message : String)
  | keyError (name : String)
  | runtimeError
  | builtin (exc : Exc)
  deriving DecidableEq

/-- The configuration file. -/
inductive ConfigFile where
  | missing
  /-- No UTF-8, or no JSON. -/
  | notJson
  | json (data : Json)

/-- What `load_config` takes from outside. -/
structure Host where
  builtins : Builtins
  /-- `float(s)`, where it does not raise. -/
  parseFloat : String → Option PyJson.Float
  environ : String → Option String
  /-- `Path(p).resolve()`. -/
  resolve : String → String
  configFile : String → ConfigFile
  /-- `Path(s).expanduser()`, where it does not raise. -/
  expanduser : String → Option String
  isAbsolute : String → Bool
  /-- `(config_path.parent / path).resolve()`. -/
  resolveBeside : String → String → String
  pathExists : String → Bool

/-- What `load_config` reads of the tokenizer, but for its path. -/
structure TokenizerOptions where
  tokenizerMaxModelLen : ℤ
  tokenizerRevision : Json
  tokenizerTrustRemoteCode : Bool
  chatTemplatePath : Option String
  allowRequestChatTemplate : Bool

/-- What `load_config` reads of the routing. -/
structure RoutingOptions where
  lmcacheLookupTimeoutSeconds : PyJson.Float
  policy : Json
  metricsIntervalSeconds : PyJson.Float
  expectedOutputTokens : ℤ
  prefixTokensPerLoadUnit : PyJson.Float
  prefixBlockSize : ℤ
  maxPlanningGroupSize : ℤ
  capacityPenalty : PyJson.Float
  kvCacheHighWatermark : PyJson.Float
  kvCacheHardLimit : PyJson.Float
  queueHistorySize : ℤ
  queueLocalMinSamples : ℤ
  prefixHashTokens : ℤ

/-- `RouterConfig`. -/
structure RouterConfig extends TokenizerOptions, RoutingOptions where
  nodes : Json
  tokenizerPath : String
  lmcacheLookupEnabled : Bool
  cacheDomains : PyDict String CacheDomainConfig
  hardwareProfile : Json

-- ================================================================ reading

/-- A built-in operation inside `load_config`. -/
def raises {α : Type} (x : Except Exc α) : Except ConfigError α :=
  x.mapError .builtin

/-- `if not c: raise error`. -/
def require (c : Bool) (error : ConfigError) : Except ConfigError Unit :=
  if c then .ok () else .error error

/-- `x[name]`. -/
def getItem (x : Json) (name : String) : Except ConfigError Json := do
  match ← raises (x.item name) with
  | some value => return value
  | none => throw (.keyError name)

/-- `bool(x.get(name, False))`. -/
def getBool (x : Json) (name : String) : Except ConfigError Bool := do
  let value ← raises (x.get name (.bool false))
  return value.truthy

/-- An element of `node_ids`. -/
def nodeIdKey (node : Json) : Except ConfigError HashKey := do
  let nodeId ← getItem node "node_id"
  raises nodeId.hashKey

/-- An element of `node_domains`. -/
def nodeDomainKey (node : Json) : Except ConfigError HashKey := do
  let nodeId ← getItem node "node_id"
  let domainId ← raises (node.get "cache_domain_id" nodeId)
  raises domainId.hashKey

/-- What is raised for `missing_domains`: only texts can be joined. -/
def missingDomainsError (missing : List HashKey) : ConfigError :=
  let names := missing.mapM fun key =>
    match key with
    | .string name => some name
    | _ => none
  match names with
  | some names => .valueError
      ("LMCache is enabled but cache_domains lacks: "
        ++ String.intercalate ", " (SortKey.sortBy (fun name => name) names))
  | none => .builtin .typeError

namespace Host

variable (host : Host)

/-- A variable, if it is set to something: `os.environ.get(name) or ..`. -/
def setting (name : String) : Option String :=
  (host.environ name).filter fun value => value ≠ ""

/-- `int(x.get(name, default))`. -/
def getInt (x : Json) (name : String) (default : ℤ) :
    Except ConfigError ℤ := do
  let value ← raises (x.get name (.int default))
  raises (value.toInt host.builtins)

/-- `float(x.get(name, default))`. -/
def getFloat (x : Json) (name : String) (default : ℚ) :
    Except ConfigError PyJson.Float := do
  let value ← raises (x.get name (.float (.finite default)))
  raises (PyJson.Float.ofJson host.parseFloat value)

/-- `str(x.get(name, default))`. -/
def getStr (x : Json) (name default : String) :
    Except ConfigError String := do
  let value ← raises (x.get name (.string default))
  return value.toStr host.builtins

-- ================================================================== paths

/-- `Path(value).expanduser()`. -/
def expanded (value : Json) : Except ConfigError String :=
  match value with
  | .string s =>
      match host.expanduser s with
      | some path => .ok path
      | none => .error .runtimeError
  | _ => .error (.builtin .typeError)

/-- `_resolve_optional_path`. -/
def resolveOptionalPath (value : Json) (configPath : String) :
    Except ConfigError (Option String) :=
  if !value.truthy then .ok none
  else do
    let path ← host.expanded value
    return some (if host.isAbsolute path then path
      else host.resolveBeside configPath path)

/-- `_resolve_model_reference`. -/
def resolveModelReference (value : Json) (configPath : String) :
    Except ConfigError String := do
  let path ← host.expanded value
  let localPath := host.resolveBeside configPath path
  return if host.isAbsolute path then path
    else if host.pathExists localPath then localPath
    else value.toStr host.builtins

-- ================================================================== parts

/-- `data`. -/
def readData (path : String) : Except ConfigError Json :=
  match host.configFile path with
  | .missing => .error (.fileNotFoundError
      ("Router configuration does not exist: " ++ path))
  | .notJson => .error (.builtin .valueError)
  | .json data => .ok data

/-- `tokenizer_path`. -/
def readTokenizerPath (tokenizer : Json) (path : String) :
    Except ConfigError String := do
  let value ←
    match host.setting "KARESERVE_TOKENIZER_PATH",
      host.setting "KARESERVE_MODEL" with
    | some value, _ => .ok (.string value)
    | none, some value => .ok (.string value)
    | none, none => raises (tokenizer.get "path" .null)
  require value.truthy (.valueError
    ("Tokenizer path must be set by tokenizer.path, "
      ++ "KARESERVE_TOKENIZER_PATH, or KARESERVE_MODEL"))
  host.resolveModelReference value path

/-- `configured_template`. -/
def configuredTemplate (tokenizer : Json) : Except ConfigError Json :=
  match host.setting "KARESERVE_CHAT_TEMPLATE" with
  | some value => .ok (.string value)
  | none => raises (tokenizer.get "chat_template_path" .null)

/-- An element of `cache_domains`. -/
def readCacheDomain (domainId : String) (domain : Json) :
    Except ConfigError CacheDomainConfig := do
  let _ ← getItem domain "http_url"
  let worldSize ← host.getInt domain "world_size" 1
  let cacheSalt ← host.getStr domain "cache_salt" ""
  let modelId ← getItem domain "model_id"
  return {
    domainId
    modelId := modelId.toStr host.builtins
    worldSize := max 1 worldSize
    cacheSalt }

/-- `cache_domains`. -/
def readCacheDomains (data : Json) :
    Except ConfigError (PyDict String CacheDomainConfig) := do
  let domains ← raises (data.get "cache_domains" (.dict []))
  let pairs ← raises domains.pairs
  let configs ← pairs.mapM fun p => host.readCacheDomain p.1 p.2
  return .ofList (configs.map fun domain => (domain.domainId, domain))

/-- `lmcache_lookup_enabled`. -/
def lmcacheLookupEnabled : Bool :=
  match host.environ "KARESERVE_ENABLE_LMCACHE_LOOKUP" with
  | none => (host.environ "KARESERVE_ENABLE_LMCACHE").getD "0" = "1"
  | some lookupOverride => lookupOverride = "1"

/-- The arguments of `RouterConfig` that `tokenizer` gives. -/
def readTokenizer (tokenizer template : Json) (path : String) :
    Except ConfigError TokenizerOptions := do
  let maxModelLen ← host.getInt tokenizer "max_model_len" 2048
  let tokenizerRevision ← raises (tokenizer.get "revision" .null)
  let tokenizerTrustRemoteCode ← getBool tokenizer "trust_remote_code"
  let chatTemplatePath ← host.resolveOptionalPath template path
  let allowRequestChatTemplate ←
    getBool tokenizer "allow_request_chat_template"
  return {
    tokenizerMaxModelLen := max 1 maxModelLen
    tokenizerRevision
    tokenizerTrustRemoteCode
    chatTemplatePath
    allowRequestChatTemplate }

/-- `policy_override or routing.get("policy", ..)`. -/
def readPolicy (routing : Json) : Except ConfigError Json :=
  match host.setting "KARESERVE_POLICY_OVERRIDE" with
  | some value => .ok (.string value)
  | none => raises (routing.get "policy" (.string "tiered_completion_time"))

/-- The arguments of `RouterConfig` that `routing` gives. -/
def readRouting (routing : Json) : Except ConfigError RoutingOptions := do
  let timeout ← host.getFloat routing "lmcache_lookup_timeout_seconds" 1
  let policy ← host.readPolicy routing
  let metricsIntervalSeconds ←
    host.getFloat routing "metrics_interval_seconds" 0.5
  let expectedOutputTokens ← host.getInt routing "expected_output_tokens" 16
  let prefixTokensPerLoadUnit ←
    host.getFloat routing "prefix_tokens_per_load_unit" 256
  let prefixBlockSize ← host.getInt routing "prefix_block_size" 16
  let maxPlanningGroupSize ← host.getInt routing "max_planning_group_size" 64
  let capacityPenalty ← host.getFloat routing "capacity_penalty" 2
  let kvCacheHighWatermark ←
    host.getFloat routing "kv_cache_high_watermark" 0.8
  let kvCacheHardLimit ← host.getFloat routing "kv_cache_hard_limit" 0.95
  let queueHistorySize ← host.getInt routing "queue_history_size" 128
  let queueLocalMinSamples ← host.getInt routing "queue_local_min_samples" 8
  let prefixHashTokens ← host.getInt routing "prefix_hash_tokens" 256
  return {
    lmcacheLookupTimeoutSeconds := PyJson.Float.max (.finite 0.01) [timeout]
    policy
    metricsIntervalSeconds
    expectedOutputTokens := max 0 expectedOutputTokens
    prefixTokensPerLoadUnit
    prefixBlockSize
    maxPlanningGroupSize := max 1 maxPlanningGroupSize
    capacityPenalty
    kvCacheHighWatermark
    kvCacheHardLimit
    queueHistorySize
    queueLocalMinSamples
    prefixHashTokens }

-- ============================================================ load_config

/-- `load_config`. -/
def loadConfig (configPath : String) : Except ConfigError RouterConfig := do
  let path := host.resolve configPath
  let data ← host.readData path
  let nodes ← raises (data.get "nodes" (.list []))
  require nodes.truthy
    (.valueError "Router configuration must contain at least one node")
  let entries ← raises nodes.iter
  let nodeIds ← entries.mapM nodeIdKey
  require (nodeIds.dedup.length = entries.length)
    (.valueError "Router node_id values must be unique")
  let tokenizer ← raises (data.get "tokenizer" (.dict []))
  let tokenizerPath ← host.readTokenizerPath tokenizer path
  let template ← host.configuredTemplate tokenizer
  let routing ← raises (data.get "routing" (.dict []))
  let cacheDomains ← host.readCacheDomains data
  let nodeDomains ← entries.mapM nodeDomainKey
  let missing := nodeDomains.dedup.filter fun key =>
    key ∉ cacheDomains.keys.map HashKey.string
  require (!(host.lmcacheLookupEnabled && !missing.isEmpty))
    (missingDomainsError missing)
  let tokenizerOptions ← host.readTokenizer tokenizer template path
  let routingOptions ← host.readRouting routing
  let hardwareProfile ← raises (data.get "hardware_profile" (.dict []))
  return {
    toTokenizerOptions := tokenizerOptions
    toRoutingOptions := routingOptions
    nodes
    tokenizerPath
    lmcacheLookupEnabled := host.lmcacheLookupEnabled
    cacheDomains
    hardwareProfile }

end Host

-- ============================================================= the client

/-- `LMCacheLookupClient`, with the float it is given. -/
structure ConfiguredClient where
  domains : PyDict String CacheDomainConfig
  timeoutSeconds : PyJson.Float

/-- `__init__`. -/
def ConfiguredClient.init (domains : PyDict String CacheDomainConfig)
    (timeoutSeconds : PyJson.Float) : ConfiguredClient where
  domains
  timeoutSeconds := PyJson.Float.max timeoutSeconds [.finite 0.01]

/-- The client that `lifespan` makes. -/
def RouterConfig.lookupClient (config : RouterConfig) :
    Option ConfiguredClient :=
  if config.lmcacheLookupEnabled then
    some (.init config.cacheDomains config.lmcacheLookupTimeoutSeconds)
  else none

/-- An element of `queries`. -/
def lookupQueryJson (domain : CacheDomainConfig)
    (request : SchedulerRequest) : Json :=
  .dict
    [("request_id", .string request.requestId),
      ("model_name", .string domain.modelId),
      ("world_size", .int domain.worldSize),
      ("token_ids", .list (request.promptTokens.map .int)),
      ("cache_salt", .string domain.cacheSalt)]

/-- The body for a domain. -/
def ConfiguredClient.lookupJson (client : ConfiguredClient)
    (requests : List SchedulerRequest) (domain : CacheDomainConfig) : Json :=
  .dict
    [("queries", .list (requests.map (lookupQueryJson domain))),
      ("timeout_ms",
        .float (PyJson.Float.mul client.timeoutSeconds (.finite 1000)))]

-- ============================================================= the bridge

section Validation

open Pydantic (Conversions field listOf)

variable (conv : Conversions)

/-- The types of `PrefixQuery`. -/
def readQuery (query : Json) : Option SentQuery := do
  let requestId ← field conv.str query "request_id" none
  let modelName ← field conv.str query "model_name" none
  let tokenIds ← field (listOf conv.int) query "token_ids" none
  let worldSize ← field conv.int query "world_size" (some 1)
  let cacheSalt ← field conv.str query "cache_salt" (some "")
  return { requestId, modelName, worldSize, tokenIds, cacheSalt }

/-- The validation of a body against `BatchLookupRequest`. -/
def validateLookup (body : Json) : Option BatchLookupRequest := do
  let queries ← field (listOf (readQuery conv)) body "queries" none
  let timeoutMs ← field conv.float body "timeout_ms" (some (.finite 1000))
  match timeoutMs with
  | .finite timeoutMs => SentLookup.validate { queries, timeoutMs }
  | _ => none

end Validation

end Kareserve
