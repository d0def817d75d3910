/-
The lookup API on the side of LMCache (`kareserve/lmcache_server.py`).

# What LMCache provides

`Engine` has what `_lookup_query` asks of LMCache that stays the same, and
`Storage` what the stores hold when a query reads them: which objects are
in L1 and, of each adapter, the bitmap it answers with before the deadline,
if it does. Each query of a batch has a `Storage` of its own, as the stores
may change between two of them.

# Failures

An `HTTPException` gives its status, and any other exception 500. `gather`
passes on what is raised first; which of several queries that is depends
on time. Here it is the first in the order of the queries. The body of a
failure is left out: `lookup_domain` reads its text for `stats` only.

# Not here

`cache_status`, the arguments of the server, and how an adapter's task is
polled and its locks are given back.
-/
import Kareserve.Gateway.Lookup

namespace Kareserve

open PyJson (Json)

-- ============================================================ the request

/-- `PrefixQuery`, validated. -/
structure PrefixQuery where
  requestId : RequestId
  modelName : String
  tokenIds : List Token
  worldSize : ℕ
  cacheSalt : String
  worldSize_ge : 1 ≤ worldSize

/-- `BatchLookupRequest`, validated. -/
structure BatchLookupRequest where
  queries : List PrefixQuery
  timeoutMs : ℚ
  timeoutMs_gt : 0 < timeoutMs
  timeoutMs_le : timeoutMs ≤ 10000

/-- The validation of a query. -/
def SentQuery.validate (query : SentQuery) : Option PrefixQuery :=
  if h : 1 ≤ query.worldSize then
    some
      { requestId := query.requestId
        modelName := query.modelName
        tokenIds := query.tokenIds
        worldSize := query.worldSize.toNat
        cacheSalt := query.cacheSalt
        worldSize_ge := by omega }
  else none

/-- The validation of a body. -/
def SentLookup.validate (body : SentLookup) : Option BatchLookupRequest := do
  let queries ← body.queries.mapM SentQuery.validate
  if h : 0 < body.timeoutMs ∧ body.timeoutMs ≤ 10000 then
    some
      { queries
        timeoutMs := body.timeoutMs
        timeoutMs_gt := h.1
        timeoutMs_le := h.2 }
  else none

-- ================================================================ LMCache

/-- The state of an object in L1. -/
structure L1ObjectState where
  writeLocked : Bool

/-- What LMCache answers whatever its stores hold. -/
structure Engine (Key : Type) where
  /-- Whether `layout_desc_registry.find` finds a layout. -/
  hasLayout : String → ℕ → Bool
  chunkSize : ℕ
  /-- `resolve_object_keys`: the keys and the number of chunks. -/
  resolveObjectKeys : String → ℕ → List Token → String → List Key × ℕ

/-- A descriptor's type name, and the bitmap the adapter answers with. -/
structure L2Adapter (Key : Type) where
  typeName : String
  bitmap : List Key → Option (ℕ → Bool)

/-- What the stores hold. -/
structure Storage (Key : Type) where
  getObjectState : Key → Option L1ObjectState
  l2Adapters : List (L2Adapter Key)

/-- A server: `none` is an engine that is not initialized yet. -/
structure LMCacheServer (Key : Type) where
  engine : Option (Engine Key)
  storage : RequestId → Storage Key

/-- How a lookup fails. -/
inductive BridgeError where
  | invalid
  | notInitialized
  | noLayout
  | timedOut

def BridgeError.status : BridgeError → ℕ
  | .invalid => 422
  | .notInitialized => 503
  | .noLayout => 409
  | .timedOut => 500

-- ============================================================== one query

/-- The loop of `_prefix_chunks`, with the indices that are left. -/
def prefixChunksLoop (bits : List Bool) (worldSize : ℕ) : List ℕ → ℕ → ℕ
  | [], count => count
  | chunkIndex :: rest, count =>
      let start := chunkIndex * worldSize
      if ((bits.drop start).take worldSize).all id then
        prefixChunksLoop bits worldSize rest (count + 1)
      else count

/-- `_prefix_chunks`. -/
def prefixChunks (bits : List Bool) (chunkCount worldSize : ℕ) : ℕ :=
  prefixChunksLoop bits worldSize (List.range chunkCount) 0

/-- `_adapter_medium`. -/
def adapterMedium (typeName : String) : String :=
  if typeName ∈ ["dax", "fs", "fs_native", "raw_block"] then "FS" else "OBJ"

section Query

variable {Key : Type}

/-- `_lookup_l2_adapter`. -/
def lookupL2Adapter (adapter : L2Adapter Key) (keys : List Key) :
    Except BridgeError (List Bool) :=
  match adapter.bitmap keys with
  | none => .error .timedOut
  | some test => .ok ((List.range keys.length).map test)

/-- An element of `l1_bits`. -/
def Storage.readable (storage : Storage Key) (key : Key) : Bool :=
  match storage.getObjectState key with
  | none => false
  | some state => !state.writeLocked

/-- An element of `l2_results`. -/
def l2Result (engine : Engine Key) (query : PrefixQuery) (keys : List Key)
    (chunkCount : ℕ) (adapter : L2Adapter Key) : Except BridgeError Json := do
  let bits ← lookupL2Adapter adapter keys
  let prefixCount := prefixChunks bits chunkCount query.worldSize
  return .dict
    [("adapter", .string adapter.typeName),
      ("medium", .string (adapterMedium adapter.typeName)),
      ("prefix_tokens", .int (prefixCount * engine.chunkSize : ℕ))]

/-- `_lookup_query`. -/
def lookupQuery (engine : Engine Key) (storage : Storage Key)
    (query : PrefixQuery) : Except BridgeError Json :=
  if ¬ engine.hasLayout query.modelName query.worldSize then .error .noLayout
  else
    let (keys, chunkCount) := engine.resolveObjectKeys query.modelName
      query.worldSize query.tokenIds query.cacheSalt
    if keys = [] then
      .ok <| .dict
        [("request_id", .string query.requestId),
          ("chunk_size", .int engine.chunkSize),
          ("chunks", .int 0),
          ("l1_prefix_tokens", .int 0),
          ("l2", .list [])]
    else do
      let l1Bits := keys.map storage.readable
      let l2Results ←
        storage.l2Adapters.mapM (l2Result engine query keys chunkCount)
      let l1PrefixCount := prefixChunks l1Bits chunkCount query.worldSize
      return .dict
        [("request_id", .string query.requestId),
          ("chunk_size", .int engine.chunkSize),
          ("chunks", .int chunkCount),
          ("l1_prefix_tokens", .int (l1PrefixCount * engine.chunkSize : ℕ)),
          ("l2", .list l2Results)]

end Query

-- ============================================================ the endpoint

namespace LMCacheServer

variable {Key : Type} (server : LMCacheServer Key)

/-- `lookup_cache`. -/
def lookupCache (body : BatchLookupRequest) : Except BridgeError Json :=
  match server.engine with
  | none => .error .notInitialized
  | some engine => do
      let results ← body.queries.mapM fun query =>
        lookupQuery engine (server.storage query.requestId) query
      return .dict
        [("source", .string "lmcache_authoritative_lookup"),
          ("results", .list results)]

/-- The route of `lookup_cache`, from a body to an answer. -/
def answer (body : SentLookup) : LookupReply :=
  match body.validate with
  | none => .response BridgeError.invalid.status none
  | some request =>
      match server.lookupCache request with
      | .ok payload => .response 200 (some payload)
      | .error error => .response error.status none

end LMCacheServer

end Kareserve
