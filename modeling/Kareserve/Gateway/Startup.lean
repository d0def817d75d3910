/-
From a configuration to a router: `lifespan` up to its `yield`
(`kareserve/server.py`), with `build_policy` and the readers of a hardware
profile (`from_hardware_profile` of `kareserve/policy.py`, `from_profile` of
`kareserve/performance.py`).

# What has no place here

Node ids and cache domains are texts and figures are rationals. A
configuration whose ids are other values, or with a NaN or an infinity where
it would be computed with, is accepted by the code and is `outside`. A NaN
that only loses a comparison is read as the code reads it.

# Medium profiles

The code keeps the entries of `medium_profiles` as they are and converts
them when a transfer is costed. Here they are read at once, and an entry
that would raise then is `outside`.

# Not here

Loading the tokenizer of the library.
-/
import Kareserve.Gateway.Config
import Kareserve.Gateway.Front

namespace Kareserve

open PyJson (Json Exc HashKey)

/-- What keeps `lifespan` from its `yield`. -/
inductive StartError where
  | raised (error : ConfigError)
  | outside
  deriving DecidableEq

/-- An exception of `lifespan`. -/
def starting {α : Type} (x : Except ConfigError α) : Except StartError α :=
  x.mapError .raised

/-- A figure that is computed with. -/
def numeric : PyJson.Float → Except StartError ℚ
  | .finite q => .ok q
  | _ => .error .outside

/-- A figure that counts if it is positive. -/
def ifPositive : PyJson.Float → Except StartError (Option ℚ)
  | .finite q => .ok (some q)
  | .nan | .infinite true => .ok none
  | .infinite false => .error .outside

-- ===================================================== the prefill model

/-- A finite `x`. -/
def finite : PyJson.Float → Option ℚ
  | .finite q => some q
  | _ => none

/-- A finite `max(low, x)`. -/
def atLeast (low : ℚ) : PyJson.Float → Option { q : ℚ // low ≤ q }
  | .finite q => some ⟨max low q, le_max_left low q⟩
  | .nan | .infinite true => some ⟨low, le_refl low⟩
  | .infinite false => none

/-- `required`, in the order of `sorted`. -/
def coefficientNames : List String :=
  ["cached", "cached_squared", "intercept", "prompt", "prompt_cached",
    "prompt_squared"]

/-- The figures of a model, if all are finite. -/
def PolynomialPrefillModel.ofFloats (tokenScale minimumMs intercept prompt
    cached promptSquared promptCached cachedSquared : PyJson.Float) :
    Option PolynomialPrefillModel := do
  let tokenScale ← atLeast 1 tokenScale
  let minimumMs ← atLeast 0 minimumMs
  return {
    tokenScale := tokenScale.1
    minimumMs := minimumMs.1
    interceptMs := ← finite intercept
    promptMs := ← finite prompt
    cachedMs := ← finite cached
    promptSquaredMs := ← finite promptSquared
    promptCachedMs := ← finite promptCached
    cachedSquaredMs := ← finite cachedSquared
    one_le_tokenScale := tokenScale.2
    minimumMs_nonneg := minimumMs.2 }

namespace Host

variable (host : Host)

/-- `from_profile`, of a `raw` with these members. -/
def readPolynomial (raw : List (String × Json)) :
    Except ConfigError PolynomialPrefillModel := do
  match bodyGet raw "coefficients_ms" .null with
  | .dict coefficients =>
      let missing := coefficientNames.filter fun name =>
        (Json.member coefficients name).isNone
      require missing.isEmpty (.valueError
        ("prefill_time_model lacks coefficients: "
          ++ String.intercalate ", " missing))
      let tokenScale ← host.getFloat (.dict raw) "token_scale" 1024
      let minimumMs ← host.getFloat (.dict raw) "minimum_ms" 0
      let intercept ← host.getFloat (.dict coefficients) "intercept" 0
      let prompt ← host.getFloat (.dict coefficients) "prompt" 0
      let cached ← host.getFloat (.dict coefficients) "cached" 0
      let promptSquared ←
        host.getFloat (.dict coefficients) "prompt_squared" 0
      let promptCached ← host.getFloat (.dict coefficients) "prompt_cached" 0
      let cachedSquared ←
        host.getFloat (.dict coefficients) "cached_squared" 0
      match PolynomialPrefillModel.ofFloats tokenScale minimumMs intercept
        prompt cached promptSquared promptCached cachedSquared with
      | some model => return model
      | none =>
          throw (.valueError "prefill_time_model values must be finite")
  | _ => throw (.valueError "prefill_time_model requires coefficients_ms")

/-- `from_profile`. -/
def readPrefillModel (profile : Json) :
    Except ConfigError (Option PolynomialPrefillModel) := do
  match ← raises (profile.get "prefill_time_model" .null) with
  | .null => return none
  | .dict raw =>
      require ((bodyGet raw "type" .null).isString "polynomial_v1")
        (.valueError "Unsupported prefill_time_model")
      return some (← host.readPolynomial raw)
  | _ => throw (.valueError "Unsupported prefill_time_model")

-- ================================================== the hardware profile

/-- `float(configured)` of a rate that may be `None`. -/
def readRate (profile : Json) (name : String) :
    Except StartError (Option ℚ) := do
  match ← starting (raises (profile.get name .null)) with
  | .null => return none
  | configured =>
      ifPositive
        (← starting (raises (PyJson.Float.ofJson host.parseFloat configured)))

/-- A figure of the profile. -/
def readFigure (profile : Json) (name : String) (default : ℚ) :
    Except StartError ℚ := do
  numeric (← starting (host.getFloat profile name default))

/-- A figure of a medium, where it is given. -/
def readMediumFigure (members : List (String × Json)) (name : String)
    (read : PyJson.Float → Except StartError (Option ℚ)) :
    Except StartError (List (String × ℚ)) :=
  match Json.member members name with
  | none => .ok []
  | some value =>
      match PyJson.Float.ofJson host.parseFloat value with
      | .error _ => .error .outside
      | .ok x => do return (← read x).toList.map fun q => (name, q)

/-- An entry of `medium_profiles`. -/
def readMedium (medium : Json) : Except StartError (PyDict String ℚ) :=
  if !medium.truthy then .ok .empty
  else
    match medium with
    | .dict members => do
        let bandwidth ←
          host.readMediumFigure members "bandwidth_gbps" ifPositive
        let latency ← host.readMediumFigure members "base_latency_ms" fun x =>
          return some (← numeric x)
        return .ofList (bandwidth ++ latency)
    | _ => .error .outside

/-- `medium_profiles`, of the three media. -/
def readMedia (profile : Json) :
    Except StartError (PyDict String (PyDict String ℚ)) := do
  let configured ← starting (raises (profile.get "medium_profiles" (.dict [])))
  let media ← starting (raises configured.toDict)
  let entries ← ["CPU", "FS", "OBJ"].mapM fun name =>
    match media.get (.string name) with
    | none => return none
    | some medium => return some (name, ← host.readMedium medium)
  return .ofList (entries.filterMap id)

/-- `host_memory_to_gpu_latency_ms`, which is read only where it is used. -/
def readLatency (profile : Json) (bandwidth : ℚ)
    (media : PyDict String (PyDict String ℚ)) : Except StartError ℚ :=
  if 0 < bandwidth ∧ media.get "CPU" = none then
    host.readFigure profile "host_memory_to_gpu_latency_ms" 0
  else .ok 0

/-- The profile as `from_hardware_profile` reads it. -/
def readHardwareProfile (profile : Json) :
    Except StartError HardwareProfile := do
  let numLayers ← starting (host.getInt profile "num_layers" 0)
  let hiddenSize ← starting (host.getInt profile "hidden_size" 0)
  let kvDtypeBytes ← host.readFigure profile "kv_dtype_bytes" 2
  let prefillMsPerToken ← host.readRate profile "prefill_ms_per_token"
  let decodeMsPerToken ← host.readRate profile "decode_ms_per_token"
  let mediumProfiles ← host.readMedia profile
  let bandwidth ← ifPositive (← starting
    (host.getFloat profile "host_memory_to_gpu_bandwidth_gbps" 0))
  let bandwidth := bandwidth.getD 0
  let latency ← host.readLatency profile bandwidth mediumProfiles
  let prefillTimeModel ← starting (host.readPrefillModel profile)
  let cpuLoadWeight ← host.readFigure profile "cpu_load_weight" 0.25
  let fsLoadWeight ← host.readFigure profile "fs_load_weight" 2
  let objLoadWeight ← host.readFigure profile "obj_load_weight" 4
  return {
    numLayers
    hiddenSize
    kvDtypeBytes
    prefillMsPerToken
    decodeMsPerToken
    mediumProfiles
    hostMemoryToGpuBandwidthGbps := bandwidth
    hostMemoryToGpuLatencyMs := latency
    prefillTimeModel
    cpuLoadWeight
    fsLoadWeight
    objLoadWeight }

-- =========================================================== build_policy

/-- `TieredCompletionTimePolicy(**policy_options)`. -/
def buildTiered (config : RouterConfig) (costModel : CostModel)
    (includeExternalCache : Bool) :
    Except StartError
      { p : TieredCompletionTimePolicy //
        p.includeExternalCache = includeExternalCache } := do
  let highWatermark ← numeric config.kvCacheHighWatermark
  let hardLimit ← numeric config.kvCacheHardLimit
  let penalty ← numeric config.capacityPenalty
  return ⟨.init costModel highWatermark hardLimit penalty
    config.queueHistorySize config.queueLocalMinSamples includeExternalCache,
    rfl⟩

/-- `config.policy.lower()`; no letter outside ASCII matters for a name. -/
def policyName (config : RouterConfig) : Except StartError String :=
  match config.policy with
  | .string name => .ok (name.map Char.toLower)
  | _ => .error (.raised (.builtin .attributeError))

/-- `build_policy`. -/
def buildPolicy (config : RouterConfig) : Except StartError Policy := do
  let profile ← host.readHardwareProfile config.hardwareProfile
  let tokensPerWorkUnit ← numeric config.prefixTokensPerLoadUnit
  let costModel := CostModel.fromHardwareProfile profile tokensPerWorkUnit
  let name ← policyName config
  if name = "tiered_completion_time" then
    return .tieredCompletionTime (← buildTiered config costModel true).1
  else if name = "gpu_prefix_load" then
    let p ← buildTiered config costModel false
    return .gpuPrefixLoad
      { toTieredCompletionTimePolicy := p.1, ignoresExternal := p.2 }
  else if name = "round_robin" then return .roundRobin { costModel }
  else if name = "prefix_hash" then
    return .prefixHash {
      costModel
      prefixHashTokens := (max 1 config.prefixHashTokens).toNat
      prefixHashTokens_pos := by omega }
  else if name = "least_load" then return .leastLoad { costModel }
  else throw (.raised (.valueError ("Unsupported routing policy: " ++ name)))

-- =============================================================== lifespan

/-- An element of `initial_nodes`. -/
def readNode (node : Json) : Except StartError NodeState := do
  let nodeId ← starting (getItem node "node_id")
  let _ ← starting (getItem node "host")
  let port ← starting (getItem node "port")
  let _ ← starting (raises (port.toInt host.builtins))
  let domainId ← starting (raises (node.get "cache_domain_id" nodeId))
  match nodeId, domainId with
  | .string nodeId, .string cacheDomainId => return { nodeId, cacheDomainId }
  | _, _ => throw .outside

/-- The text at `chat_template_path`. -/
def readTemplate (templateText : String → Except ConfigError String)
    (path : Option String) : Except StartError (Option String) :=
  match path with
  | none => .ok none
  | some path => (starting (templateText path)).map some

end Host

/-- Whether a member of a node is truthy. -/
def nodeSets (node : Json) (name : String) : Bool :=
  (node.field name .null).truthy

/-- What `lifespan` leaves in `app.state`, and the listeners it has
started. -/
structure Started where
  config : RouterConfig
  tokenizer : LocalRequestTokenizer
  initialNodes : List NodeState
  policy : Policy
  lookup : Option ConfiguredClient
  listening : List NodeId
  replayEndpoint : NodeId → Bool

/-- The nodes with a truthy member. -/
def nodesSetting (nodes : List Json) (name : String) : List NodeId :=
  nodes.filterMap fun node =>
    match node.field "node_id" .null with
    | .string nodeId => if nodeSets node name then some nodeId else none
    | _ => none

/-- `lifespan`, up to its `yield`. -/
def Host.lifespan (host : Host)
    (templateText : String → Except ConfigError String)
    (configPath : String) : Except StartError Started := do
  let config ← starting (host.loadConfig configPath)
  let template ← readTemplate templateText config.chatTemplatePath
  let nodes ← starting (raises config.nodes.iter)
  let initialNodes ← nodes.mapM host.readNode
  let policy ← host.buildPolicy config
  return {
    config
    tokenizer := .init config.tokenizerMaxModelLen template
      config.allowRequestChatTemplate
    initialNodes
    policy
    lookup := config.lookupClient
    listening := nodesSetting nodes "kv_events_endpoint"
    replayEndpoint := fun nodeId =>
      decide (nodeId ∈ nodesSetting nodes "kv_replay_endpoint") }

/-- The router at its `yield`. -/
def Started.app (s : Started) : App :=
  App.start s.policy
    (match s.config.policy with
      | .string name => name
      | _ => "")
    s.config.prefixBlockSize s.config.maxPlanningGroupSize s.replayEndpoint
    s.initialNodes

end Kareserve
