/-
The LMCache lookup client (`kareserve/lmcache_client.py`).

# One domain

A domain's endpoint answers with a status and a body, or not at all. The
body of a 200 is untrusted: `domainMatches` goes through it with untyped
operations, any of which may raise (Lib/PyJson.lean). `guarded` catches
four classes of exceptions (`LookupError.caught`); an exception of another
class leaves it, and with it the `gather` and the lookup.

# All domains

A domain's task suspends only while it waits for the endpoint. What
follows runs in one piece, so the outcome depends on the order in which
the answers come in and on nothing else about their timing.

# The body of a request

A body is kept by its fields, which are what `json.dumps` is given and of
the types the other side declares. What is left to check of it there are
bounds (Gateway/Bridge.lean).

# Not here

The session, the counters behind `stats` and the texts of the errors,
which only `stats` shows.
-/
import Kareserve.Lib.PyJson
import Kareserve.State

namespace Kareserve

open PyJson (Json Exc Builtins)

/-- `CacheDomainConfig`. -/
structure CacheDomainConfig where
  domainId : String
  modelId : String
  worldSize : ℤ := 1
  cacheSalt : String := ""
  deriving DecidableEq

/-- A query as `lookup_domain` sends it. -/
structure SentQuery where
  requestId : RequestId
  modelName : String
  worldSize : ℤ
  tokenIds : List Token
  cacheSalt : String

/-- The body of a lookup as `lookup_domain` sends it. -/
structure SentLookup where
  queries : List SentQuery
  timeoutMs : ℚ

/-- What comes of a request to a domain's endpoint. -/
inductive LookupReply where
  | connectionError
  | timeout
  /-- A status and a body; `none` is a body that is no JSON, and an empty
  body reads as `null`. -/
  | response (status : ℕ) (body : Option Json)

/-- What `lookup_domain` raises. -/
inductive LookupError where
  | clientError
  | timeoutError
  | runtimeError
  | builtin (exc : Exc)
  deriving DecidableEq

/-- The `except` clause of `guarded`. -/
def LookupError.caught : LookupError → Bool
  | .clientError | .timeoutError | .runtimeError => true
  | .builtin exc => decide (exc = .valueError)

/-- What `lookup` returns. -/
structure LookupResult where
  externalMatches : PyDict RequestId (PyDict String PrefixMatch)
  failedDomains : List String

/-- The match a lookup holds for a request and a domain. -/
def LookupResult.entry (found : LookupResult) (requestId : RequestId)
    (domainId : String) : Option PrefixMatch :=
  (found.externalMatches.get requestId).bind fun byDomain =>
    byDomain.get domainId

/-- `prompt_lengths`. -/
def promptLengths (requests : List SchedulerRequest) : PyDict RequestId ℤ :=
  .ofList (requests.map fun request =>
    (request.requestId, (request.promptTokens.length : ℤ)))

-- ============================================================ one domain

section Domain

variable (b : Builtins)

/-- A built-in operation inside `lookup_domain`. -/
def builtin {α : Type} (x : Except Exc α) : Except LookupError α :=
  x.mapError .builtin

/-- The count of an `l2` entry, if the entry is of the medium. -/
def entryTokens (medium : String) (entry : Json) : Except Exc (Option ℤ) := do
  let found ← entry.get "medium" .null
  if found.isString medium then
    let tokens ← entry.get "prefix_tokens" (.int 0)
    some <$> tokens.toInt b
  else return none

/-- `max` of the counts of a medium in `l2`, `default=0`. -/
def mediumTokens (medium : String) (l2 : Json) : Except Exc ℤ := do
  let entries ← l2.iter
  let counts ← entries.mapM (entryTokens b medium)
  return (counts.filterMap id).max?.getD 0

/-- The body of the loop over `results`. -/
def itemMatch (lengths : PyDict RequestId ℤ) (item : Json) :
    Except LookupError (RequestId × PrefixMatch) := do
  let requestId := (← builtin (item.get "request_id" (.string ""))).toStr b
  match lengths.get requestId with
  | none => throw .runtimeError
  | some promptTokens =>
      let l2 ← builtin (item.get "l2" (.list []))
      let fsPrefixTokens ← builtin (mediumTokens b "FS" l2)
      let objPrefixTokens ← builtin (mediumTokens b "OBJ" l2)
      let l1 ← builtin (item.get "l1_prefix_tokens" (.int 0))
      let cpuPrefixTokens ← builtin (l1.toInt b)
      return (requestId,
        { promptTokens, cpuPrefixTokens, fsPrefixTokens, objPrefixTokens })

/-- `lookup_domain`, from the payload on: `domain_matches`. -/
def domainMatches (lengths : PyDict RequestId ℤ) (payload : Json) :
    Except LookupError (PyDict RequestId PrefixMatch) := do
  let results ← builtin (payload.get "results" (.list []))
  let items ← builtin results.iter
  let found ← items.mapM (itemMatch b lengths)
  let domainMatches := PyDict.ofList found
  if ∀ requestId ∈ lengths.keys, (domainMatches.get requestId).isSome then
    return domainMatches
  else throw .runtimeError

/-- `lookup_domain`, up to where it writes to `results`. -/
def lookupDomain (lengths : PyDict RequestId ℤ) (reply : LookupReply) :
    Except LookupError (PyDict RequestId PrefixMatch) :=
  match reply with
  | .connectionError => .error .clientError
  | .timeout => .error .timeoutError
  | .response status body =>
      if status ≠ 200 then .error .runtimeError
      else
        match body with
        | none => .error (.builtin .valueError)
        | some payload => domainMatches b lengths payload

-- =========================================================== all domains

/-- The last loop of `lookup_domain`. -/
def LookupResult.write (found : LookupResult) (domainId : String)
    (domainMatches : PyDict RequestId PrefixMatch) : LookupResult :=
  { found with
    externalMatches := domainMatches.items.foldl
      (fun results p => results.modify p.1 fun byDomain =>
        byDomain.set domainId p.2) found.externalMatches }

/-- `guarded`, once the domain's answer is there. -/
def guarded (lengths : PyDict RequestId ℤ) (reply : CacheDomainConfig → LookupReply)
    (found : LookupResult) (domain : CacheDomainConfig) :
    Except LookupError LookupResult :=
  match lookupDomain b lengths (reply domain) with
  | .ok domainMatches => .ok (found.write domain.domainId domainMatches)
  | .error error =>
      if error.caught then
        .ok { found with
          failedDomains := found.failedDomains.insert domain.domainId }
      else .error error

end Domain

/-- `LMCacheLookupClient`. A domain is kept under its own id, as
`load_config` does. -/
structure LMCacheLookupClient where
  domains : PyDict String CacheDomainConfig
  timeoutSeconds : ℚ
  keyed : ∀ domainId domain, domains.get domainId = some domain →
    domain.domainId = domainId

namespace LMCacheLookupClient

/-- `__init__`. -/
def init (domains : PyDict String CacheDomainConfig)
    (keyed : ∀ domainId domain, domains.get domainId = some domain →
      domain.domainId = domainId)
    (timeoutSeconds : ℚ := 1) : LMCacheLookupClient where
  domains
  timeoutSeconds := max timeoutSeconds 0.01
  keyed

/-- The body for a domain. -/
def lookupBody (client : LMCacheLookupClient)
    (requests : List SchedulerRequest) (domain : CacheDomainConfig) :
    SentLookup where
  queries := requests.map fun request =>
    { requestId := request.requestId
      modelName := domain.modelId
      worldSize := domain.worldSize
      tokenIds := request.promptTokens
      cacheSalt := domain.cacheSalt }
  timeoutMs := client.timeoutSeconds * 1000

/-- `lookup`, where the answers of the domains come in in this order. -/
def lookup (b : Builtins) (client : LMCacheLookupClient)
    (requests : List SchedulerRequest) (reply : CacheDomainConfig → LookupReply)
    (order : List CacheDomainConfig) : Except LookupError LookupResult :=
  if client.domains.items = [] ∨ requests = [] then .ok ⟨.empty, []⟩
  else
    order.foldlM (guarded b (promptLengths requests) reply)
      ⟨.ofList (requests.map fun request => (request.requestId, .empty)), []⟩

end LMCacheLookupClient

end Kareserve
