/-
A lookup through the bridge (Gateway/Lookup.lean and Gateway/Bridge.lean):
what the client stores is the prefix the stores hold.

# The count

`prefixChunks` is the greatest number of leading chunks none of whose bits
is unset (`prefixChunks_isGreatest`). Over as many bits as the chunks have
keys this is the greatest number of chunks that are whole. Over fewer bits
it is so only if one of them is unset (`prefixChunks_shown_iff`): chunks
past the end of the bits count as whole.

# The format

The client reads back from a result what the bridge put in
(`itemMatch_resultJson`), and takes the greatest count of each medium. The
bridge's answer is never one that takes a lookup down: it is a payload
without faults or a status that is not 200 (`lookupDomain_answer_or`).
-/
import Kareserve.Gateway.Bridge
import Kareserve.Gateway.Proofs.Lookup
import Mathlib.Order.Bounds.Basic

namespace Kareserve

open PyJson (Json Exc Builtins)

-- ============================================================== the count

/-- The numbers of leading chunks all of whose keys, one of each rank, are
present; the keys are chunk after chunk. -/
def wholeChunks (present : ℕ → Prop) (chunkCount worldSize : ℕ) : Set ℕ :=
  {k | k ≤ chunkCount ∧
    ∀ j < k, ∀ rank < worldSize, present (j * worldSize + rank)}

section Count

variable {bits : List Bool} {worldSize : ℕ}

/-- A slice is all true where no bit of it is there and false: a slice past
the end is. -/
theorem all_slice_iff {start n : ℕ} :
    ((bits.drop start).take n).all id = true ↔
      ∀ rank < n, bits[start + rank]? ≠ some false := by
  rw [List.all_eq_true]
  constructor
  · intro h rank hrank hbit
    have hmem : false ∈ (bits.drop start).take n := by
      rw [List.mem_iff_getElem?]
      refine ⟨rank, ?_⟩
      rw [List.getElem?_take_of_lt hrank, List.getElem?_drop]
      exact hbit
    cases h false hmem
  · intro h bit hmem
    obtain ⟨rank, hrank⟩ := List.mem_iff_getElem?.mp hmem
    have hlt : rank < n := by
      by_contra hge
      rw [List.getElem?_take_eq_none (by omega)] at hrank
      cases hrank
    rw [List.getElem?_take_of_lt hlt, List.getElem?_drop] at hrank
    cases bit with
    | true => rfl
    | false => exact absurd hrank (h rank hlt)

/-- The loop counts the chunks up to the first that is not whole. -/
theorem prefixChunksLoop_spec (bits : List Bool) (worldSize i n count : ℕ) :
    ∃ t ≤ n,
      prefixChunksLoop bits worldSize (List.range' i n) count = count + t ∧
      (∀ j < t, ∀ rank < worldSize,
        bits[(i + j) * worldSize + rank]? ≠ some false) ∧
      (t < n → ∃ rank < worldSize,
        bits[(i + t) * worldSize + rank]? = some false) := by
  induction n generalizing i count with
  | zero => exact ⟨0, le_refl 0, rfl, by omega, by omega⟩
  | succ n ih =>
      rw [List.range'_succ]
      unfold prefixChunksLoop
      -- a whole chunk is counted, and the loop goes on; a bit that is not set
      -- ends it, one that is not there does not
      by_cases hall : ((bits.drop (i * worldSize)).take worldSize).all id = true
      · obtain ⟨t, hle, hcount, hwhole, hstop⟩ := ih (i + 1) (count + 1)
        refine ⟨t + 1, by omega, ?_, ?_, ?_⟩
        · dsimp only
          rw [if_pos hall, hcount]
          omega
        · intro j hj rank hrank
          cases j with
          | zero => exact all_slice_iff.mp hall rank hrank
          | succ j =>
              have hrest := hwhole j (by omega) rank hrank
              rwa [show i + 1 + j = i + (j + 1) by omega] at hrest
        · intro ht
          have hrest := hstop (by omega)
          rwa [show i + 1 + t = i + (t + 1) by omega] at hrest
      · refine ⟨0, by omega, ?_, by omega, ?_⟩
        · dsimp only
          rw [if_neg hall]
          rfl
        · intro _
          rw [all_slice_iff] at hall
          simp only [not_forall, not_not] at hall
          obtain ⟨rank, hrank, hbit⟩ := hall
          exact ⟨rank, hrank, hbit⟩

/-- The chunks whose bits are all present, up to a count. -/
theorem mem_wholeChunks_iff {present : ℕ → Prop} {chunkCount k : ℕ} :
    k ∈ wholeChunks present chunkCount worldSize ↔
      k ≤ chunkCount ∧ ∀ i < k * worldSize, present i := by
  refine and_congr_right fun _ => ?_
  constructor
  · intro h i hi
    have hworld : 0 < worldSize :=
      Nat.pos_of_mul_pos_left (by omega : 0 < k * worldSize)
    have hbit := h (i / worldSize) (Nat.div_lt_of_lt_mul (by rwa [Nat.mul_comm]))
      (i % worldSize) (Nat.mod_lt i hworld)
    rwa [Nat.mul_comm, Nat.div_add_mod] at hbit
  · intro h j hj rank hrank
    apply h
    calc j * worldSize + rank < j * worldSize + worldSize := by omega
      _ = (j + 1) * worldSize := (Nat.succ_mul j worldSize).symm
      _ ≤ k * worldSize := Nat.mul_le_mul_right _ hj

/-- The loop counts the greatest number of leading chunks in which no bit is
false, the missing ones not being false. -/
theorem prefixChunks_isGreatest (bits : List Bool) (chunkCount worldSize : ℕ) :
    IsGreatest
      (wholeChunks (fun i => bits[i]? ≠ some false) chunkCount worldSize)
      (prefixChunks bits chunkCount worldSize) := by
  unfold prefixChunks
  rw [List.range_eq_range']
  obtain ⟨t, hle, hcount, hwhole, hstop⟩ :=
    prefixChunksLoop_spec bits worldSize 0 chunkCount 0
  simp only [Nat.zero_add] at hcount hwhole hstop
  rw [hcount]
  refine ⟨⟨hle, hwhole⟩, ?_⟩
  rintro k ⟨hk, hall⟩
  by_contra hlt
  obtain ⟨rank, hrank, hbit⟩ := hstop (by omega)
  exact hall t (by omega) rank hrank hbit

/-- With a bit for each rank of each chunk, what is not unset is set. -/
theorem wholeChunks_eq {present : ℕ → Prop} {chunkCount : ℕ}
    (hbits : ∀ i < chunkCount * worldSize,
      bits[i]? ≠ some false ↔ present i) :
    wholeChunks (fun i => bits[i]? ≠ some false) chunkCount worldSize =
      wholeChunks present chunkCount worldSize := by
  ext k
  rw [mem_wholeChunks_iff, mem_wholeChunks_iff]
  refine and_congr_right fun hk => ?_
  refine forall₂_congr fun i hi => hbits i ?_
  exact hi.trans_le (Nat.mul_le_mul_right _ hk)

/-- The numbers of leading chunks that the bits show: there is a bit for
each of their keys, and it is set. -/
def shownChunks (bits : List Bool) (chunkCount worldSize : ℕ) : Set ℕ :=
  {k | k ≤ chunkCount ∧ k * worldSize ≤ bits.length ∧
    ∀ bit ∈ bits.take (k * worldSize), bit = true}

/-- What the bits show differs from what the loop counts only in that the bits
must be there. -/
theorem mem_shownChunks_iff {chunkCount k : ℕ} :
    k ∈ shownChunks bits chunkCount worldSize ↔
      k ∈ wholeChunks (fun i => bits[i]? ≠ some false) chunkCount worldSize ∧
        k * worldSize ≤ bits.length := by
  rw [mem_wholeChunks_iff, and_assoc]
  refine and_congr_right fun _ => ?_
  rw [and_comm]
  refine and_congr_left fun _ => ?_
  constructor
  · intro h i hi hbit
    have hmem : false ∈ bits.take (k * worldSize) := by
      rw [List.mem_iff_getElem?]
      exact ⟨i, by rw [List.getElem?_take_of_lt hi, hbit]⟩
    cases h false hmem
  · intro h bit hmem
    obtain ⟨i, hi⟩ := List.mem_iff_getElem?.mp hmem
    have hlt : i < k * worldSize := by
      by_contra hge
      rw [List.getElem?_take_eq_none (by omega)] at hi
      cases hi
    rw [List.getElem?_take_of_lt hlt] at hi
    cases bit with
    | true => rfl
    | false => exact absurd hi (h i hlt)

/-- The count is the greatest number of chunks the bits show if and only
if there are bits for all chunks or one of the bits is not set: past the
end of the bits every chunk counts. -/
theorem prefixChunks_shown_iff (bits : List Bool) (chunkCount worldSize : ℕ) :
    IsGreatest (shownChunks bits chunkCount worldSize)
        (prefixChunks bits chunkCount worldSize) ↔
      chunkCount * worldSize ≤ bits.length ∨ false ∈ bits := by
  have hgreatest := prefixChunks_isGreatest bits chunkCount worldSize
  constructor
  · intro h
    by_contra hnot
    rw [not_or] at hnot
    have hall : chunkCount ∈
        wholeChunks (fun i => bits[i]? ≠ some false) chunkCount worldSize :=
      ⟨le_refl _, fun j _ rank _ hbit => hnot.2 (List.mem_of_getElem? hbit)⟩
    have hcount : prefixChunks bits chunkCount worldSize = chunkCount :=
      le_antisymm h.1.1 (hgreatest.2 hall)
    have hlength := h.1.2.1
    rw [hcount] at hlength
    exact hnot.1 hlength
  · intro h
    have hshown : shownChunks bits chunkCount worldSize =
        wholeChunks (fun i => bits[i]? ≠ some false) chunkCount worldSize := by
      ext k
      rw [mem_shownChunks_iff]
      refine and_iff_left_of_imp fun hwhole => ?_
      obtain ⟨hle, hbits⟩ := mem_wholeChunks_iff.mp hwhole
      rcases h with hlength | hunset
      · exact (Nat.mul_le_mul_right _ hle).trans hlength
      · -- the chunks end before the bit that is not set
        obtain ⟨i, hi⟩ := List.mem_iff_getElem?.mp hunset
        have hlt : i < bits.length := (List.getElem?_eq_some_iff.mp hi).1
        by_contra hpast
        exact hbits i (by omega) hi
    rw [hshown]
    exact hgreatest

/-- Two chunks are counted of one bit: the second slice is empty. -/
theorem prefixChunks_past_the_bits :
    prefixChunks [true] 2 1 = 2
      ∧ ¬ IsGreatest (shownChunks [true] 2 1) (prefixChunks [true] 2 1) := by
  refine ⟨rfl, fun h => ?_⟩
  have hlength : 2 * 1 ≤ 1 := h.1.2.1
  omega

end Count

-- ============================================================= the format

section Format

variable {b : Builtins} {lengths : PyDict RequestId ℤ}

/-- An element of `l2` in a result. -/
def entryJson (entry : String × ℕ) : Json :=
  .dict
    [("adapter", .string entry.1),
      ("medium", .string (adapterMedium entry.1)),
      ("prefix_tokens", .int entry.2)]

/-- A result. -/
def resultJson (requestId : RequestId) (chunkSize chunks l1 : ℕ)
    (entries : List (String × ℕ)) : Json :=
  .dict
    [("request_id", .string requestId),
      ("chunk_size", .int chunkSize),
      ("chunks", .int chunks),
      ("l1_prefix_tokens", .int l1),
      ("l2", .list (entries.map entryJson))]

/-- The greatest count of a medium, 0 without one. -/
def mediumMax (medium : String) (entries : List (String × ℕ)) : ℕ :=
  ((entries.filter fun e => adapterMedium e.1 = medium).map Prod.snd).max?.getD 0

/-- A monotone function goes through a maximum. -/
theorem max?_map {α β : Type} [LinearOrder α] [LinearOrder β] {f : α → β}
    (hf : Monotone f) (l : List α) : (l.map f).max? = l.max?.map f := by
  cases hmax : l.max? with
  | none =>
      rw [List.max?_eq_none_iff.mp hmax]
      rfl
  | some a =>
      obtain ⟨hmem, hle⟩ := List.max?_eq_some_iff.mp hmax
      apply List.max?_eq_some_iff.mpr
      refine ⟨List.mem_map.mpr ⟨a, hmem, rfl⟩, fun b hb => ?_⟩
      obtain ⟨a', ha', rfl⟩ := List.mem_map.mp hb
      exact hf (hle a' ha')

/-- An entry written by the bridge is read back by the client. -/
theorem entryTokens_entryJson (medium : String) (entry : String × ℕ) :
    entryTokens b medium (entryJson entry) =
      .ok (if adapterMedium entry.1 = medium then some (entry.2 : ℤ)
        else none) := by
  have hmedium : (entryJson entry).get "medium" .null =
      .ok (.string (adapterMedium entry.1)) := rfl
  have htokens : (entryJson entry).get "prefix_tokens" (.int 0) =
      .ok (.int entry.2) := rfl
  unfold entryTokens
  rw [Fault.bind_ok hmedium, Fault.bind_ok htokens]
  by_cases h : adapterMedium entry.1 = medium
  · rw [if_pos h, if_pos (by simpa [Json.isString] using h)]
    rfl
  · rw [if_neg h, if_neg (by simpa [Json.isString] using h)]
    rfl

/-- The list of the entries is read as the greatest prefix of its medium. -/
theorem mediumTokens_entries (medium : String) (entries : List (String × ℕ)) :
    mediumTokens b medium (.list (entries.map entryJson)) =
      .ok (mediumMax medium entries : ℤ) := by
  have hcounts : (entries.map entryJson).mapM (entryTokens b medium) =
      .ok (entries.map fun e =>
        if adapterMedium e.1 = medium then some (e.2 : ℤ) else none) := by
    rw [List.mapM_map]
    exact Fault.mapM_ok fun e _ => entryTokens_entryJson medium e
  have hfilter : (entries.map fun e =>
      if adapterMedium e.1 = medium then some (e.2 : ℤ) else none).filterMap id =
      ((entries.filter fun e => adapterMedium e.1 = medium).map Prod.snd).map
        fun n : ℕ => (n : ℤ) := by
    clear hcounts
    induction entries with
    | nil => rfl
    | cons e entries ih =>
        rw [List.map_cons, List.filterMap_cons, ih, List.filter_cons]
        by_cases h : adapterMedium e.1 = medium <;> simp [h]
  have hiter : (Json.list (entries.map entryJson)).iter =
      .ok (entries.map entryJson) := rfl
  unfold mediumTokens
  rw [Fault.bind_ok hiter, Fault.bind_ok hcounts, hfilter,
    max?_map fun n m h => Int.ofNat_le.mpr h]
  unfold mediumMax
  cases ((entries.filter fun e => adapterMedium e.1 = medium).map
      Prod.snd).max? with
  | none => rfl
  | some n => rfl

/-- A read of a result. -/
theorem get_resultJson {requestId : RequestId} {chunkSize chunks l1 : ℕ}
    {entries : List (String × ℕ)} {name : String} (value : Json)
    (hmem : (name, value) ∈
      [("request_id", Json.string requestId),
        ("chunk_size", .int chunkSize),
        ("chunks", .int chunks),
        ("l1_prefix_tokens", .int l1),
        ("l2", .list (entries.map entryJson))]) (default : Json) :
    builtin ((resultJson requestId chunkSize chunks l1 entries).get name
      default) = .ok value := by
  refine congrArg builtin (Json.get_of_mem ?_ hmem default)
  show ["request_id", "chunk_size", "chunks", "l1_prefix_tokens", "l2"].Nodup
  decide

/-- A result written by the bridge is read back as the prefixes it was written
from. -/
theorem itemMatch_resultJson {requestId : RequestId} {promptTokens : ℤ}
    (hlength : lengths.get requestId = some promptTokens)
    (chunkSize chunks l1 : ℕ) (entries : List (String × ℕ)) :
    itemMatch b lengths (resultJson requestId chunkSize chunks l1 entries) =
      .ok (requestId,
        { promptTokens
          cpuPrefixTokens := l1
          fsPrefixTokens := mediumMax "FS" entries
          objPrefixTokens := mediumMax "OBJ" entries }) := by
  have hmedium : ∀ medium,
      builtin (mediumTokens b medium (.list (entries.map entryJson))) =
        .ok (mediumMax medium entries : ℤ) :=
    fun medium => congrArg builtin (mediumTokens_entries medium entries)
  unfold itemMatch
  rw [Fault.bind_ok (get_resultJson (.string requestId) (by simp) _)]
  dsimp only [Json.toStr]
  rw [hlength]
  dsimp only
  rw [Fault.bind_ok
      (get_resultJson (.list (entries.map entryJson)) (by simp) _),
    Fault.bind_ok (hmedium "FS"), Fault.bind_ok (hmedium "OBJ"),
    Fault.bind_ok (get_resultJson (.int l1) (by simp) _)]
  rfl

end Format

-- ============================================================== one query

section Query

variable {Key : Type}

/-- The keys of a query and the number of its chunks. -/
def Engine.keysOf (engine : Engine Key) (query : PrefixQuery) : List Key × ℕ :=
  engine.resolveObjectKeys query.modelName query.worldSize query.tokenIds
    query.cacheSalt

variable (engine : Engine Key) (storage : Storage Key) (query : PrefixQuery)

/-- The chunks of a query that an adapter has. -/
def adapterChunks (adapter : L2Adapter Key) : ℕ :=
  match adapter.bitmap (engine.keysOf query).1 with
  | none => 0
  | some test =>
      prefixChunks ((List.range (engine.keysOf query).1.length).map test)
        (engine.keysOf query).2 query.worldSize

/-- What a result has for L1. -/
def l1Tokens : ℕ :=
  if (engine.keysOf query).1 = [] then 0
  else
    prefixChunks ((engine.keysOf query).1.map storage.readable)
      (engine.keysOf query).2 query.worldSize * engine.chunkSize

/-- What a result has for L2. -/
def l2Entries : List (String × ℕ) :=
  if (engine.keysOf query).1 = [] then []
  else
    storage.l2Adapters.map fun adapter =>
      (adapter.typeName, adapterChunks engine query adapter * engine.chunkSize)

/-- The result of a query. -/
def queryJson : Json :=
  resultJson query.requestId engine.chunkSize
    (if (engine.keysOf query).1 = [] then 0 else (engine.keysOf query).2)
    (l1Tokens engine storage query) (l2Entries engine storage query)

/-- What the client makes of a result. -/
def queryMatch (promptTokens : ℤ) : PrefixMatch where
  promptTokens
  cpuPrefixTokens := l1Tokens engine storage query
  fsPrefixTokens := mediumMax "FS" (l2Entries engine storage query)
  objPrefixTokens := mediumMax "OBJ" (l2Entries engine storage query)

variable {engine storage query}

/-- An adapter that has answered in time reports the chunks of its bitmap. -/
theorem l2Result_eq {adapter : L2Adapter Key}
    (h : adapter.bitmap (engine.keysOf query).1 ≠ none) :
    l2Result engine query (engine.keysOf query).1 (engine.keysOf query).2
        adapter =
      .ok (entryJson (adapter.typeName,
        adapterChunks engine query adapter * engine.chunkSize)) := by
  obtain ⟨test, htest⟩ := Option.ne_none_iff_exists'.mp h
  unfold l2Result lookupL2Adapter adapterChunks
  rw [htest]
  rfl

/-- One that has not makes the result fail. -/
theorem l2Result_ok {adapter : L2Adapter Key} {json : Json}
    (h : l2Result engine query (engine.keysOf query).1 (engine.keysOf query).2
      adapter = .ok json) : adapter.bitmap (engine.keysOf query).1 ≠ none := by
  intro hnone
  unfold l2Result lookupL2Adapter at h
  rw [hnone] at h
  cases h

/-- A query is answered if there is a layout and every adapter that is
asked answers in time. -/
theorem lookupQuery_eq
    (hlayout : engine.hasLayout query.modelName query.worldSize = true)
    (hintime : (engine.keysOf query).1 ≠ [] →
      ∀ adapter ∈ storage.l2Adapters,
        adapter.bitmap (engine.keysOf query).1 ≠ none) :
    lookupQuery engine storage query = .ok (queryJson engine storage query) := by
  unfold lookupQuery
  rw [if_neg (not_not.mpr hlayout)]
  show (if (engine.keysOf query).1 = [] then _ else _) = _
  unfold queryJson l1Tokens l2Entries
  by_cases hkeys : (engine.keysOf query).1 = []
  · rw [if_pos hkeys, if_pos hkeys, if_pos hkeys, if_pos hkeys]
    rfl
  · rw [if_neg hkeys, if_neg hkeys, if_neg hkeys, if_neg hkeys]
    refine (Fault.bind_ok (Fault.mapM_ok fun adapter hadapter =>
      l2Result_eq (hintime hkeys adapter hadapter)) _).trans ?_
    unfold resultJson
    rw [List.map_map]
    rfl

/-- A query that is answered has a known layout, and adapters that were all in
time. -/
theorem lookupQuery_ok {json : Json}
    (h : lookupQuery engine storage query = .ok json) :
    engine.hasLayout query.modelName query.worldSize = true ∧
      ((engine.keysOf query).1 ≠ [] → ∀ adapter ∈ storage.l2Adapters,
        adapter.bitmap (engine.keysOf query).1 ≠ none) := by
  unfold lookupQuery at h
  split at h
  next => cases h
  next hlayout =>
    refine ⟨not_not.mp hlayout, fun hkeys adapter hadapter => ?_⟩
    replace h : (if (engine.keysOf query).1 = [] then _ else _) = _ := h
    rw [if_neg hkeys] at h
    obtain ⟨results, hresults, _⟩ := Fault.exists_of_bind h
    obtain ⟨result, hresult⟩ := Fault.exists_ok_of_mapM hresults hadapter
    exact l2Result_ok hresult

end Query

-- ============================================================= one domain

section Domain

variable {Key : Type} {b : Builtins} {client : LMCacheLookupClient}
  {requests : List SchedulerRequest} {server : LMCacheServer Key}
  {engine : Engine Key} {domain : CacheDomainConfig}

/-- A request's query for a domain, validated. -/
def domainQuery (domain : CacheDomainConfig) (hworld : 1 ≤ domain.worldSize)
    (request : SchedulerRequest) : PrefixQuery where
  requestId := request.requestId
  modelName := domain.modelId
  tokenIds := request.promptTokens
  worldSize := domain.worldSize.toNat
  cacheSalt := domain.cacheSalt
  worldSize_ge := by omega

/-- The queries of a body with a world size out of bounds are rejected. -/
theorem worldSize_of_mapM (hrequests : requests ≠ []) {queries : List PrefixQuery}
    (h : (client.lookupBody requests domain).queries.mapM SentQuery.validate =
      some queries) : 1 ≤ domain.worldSize := by
  by_contra hworld
  obtain ⟨request, rest, rfl⟩ := List.exists_cons_of_ne_nil hrequests
  unfold LMCacheLookupClient.lookupBody at h
  rw [List.map_cons, List.mapM_cons] at h
  obtain ⟨query, hquery, _⟩ := Option.bind_eq_some_iff.mp h
  have hnone := (dif_neg hworld).symm.trans hquery
  cases hnone

/-- All others are taken as they are. -/
theorem mapM_validate (hworld : 1 ≤ domain.worldSize)
    (requests : List SchedulerRequest) :
    (client.lookupBody requests domain).queries.mapM SentQuery.validate =
      some (requests.map (domainQuery domain hworld)) := by
  unfold LMCacheLookupClient.lookupBody
  rw [List.mapM_map]
  exact Fault.mapM_of_forall_some fun request _ => dif_pos hworld

/-- What the client sends is a valid request for the queries of its domain. -/
theorem validate_lookupBody {accepted : BatchLookupRequest}
    (hrequests : requests ≠ [])
    (h : (client.lookupBody requests domain).validate = some accepted) :
    ∃ hworld : 1 ≤ domain.worldSize,
      accepted.queries = requests.map (domainQuery domain hworld) := by
  obtain ⟨queries, hqueries, haccepted⟩ := Option.bind_eq_some_iff.mp h
  have hworld := worldSize_of_mapM hrequests hqueries
  rw [mapM_validate hworld] at hqueries
  injection hqueries with hqueries
  refine ⟨hworld, ?_⟩
  rw [hqueries]
  split at haccepted
  next =>
    injection haccepted with haccepted
    rw [← haccepted]
  next => cases haccepted

/-- What a domain's matches are when its server answers. -/
def domainMatchesOf (engine : Engine Key) (server : LMCacheServer Key)
    (domain : CacheDomainConfig) (hworld : 1 ≤ domain.worldSize)
    (requests : List SchedulerRequest) : List (RequestId × PrefixMatch) :=
  requests.map fun request =>
    (request.requestId,
      queryMatch engine (server.storage request.requestId)
        (domainQuery domain hworld request) request.promptTokens.length)

/-- The payload of a domain's server when it answers. -/
def servedPayload (engine : Engine Key) (server : LMCacheServer Key)
    (domain : CacheDomainConfig) (hworld : 1 ≤ domain.worldSize)
    (requests : List SchedulerRequest) : Json :=
  .dict
    [("source", .string "lmcache_authoritative_lookup"),
      ("results", .list (requests.map fun request =>
        queryJson engine (server.storage request.requestId)
          (domainQuery domain hworld request)))]

/-- What a domain's server needs to answer. -/
structure Answers (client : LMCacheLookupClient)
    (requests : List SchedulerRequest) (server : LMCacheServer Key)
    (engine : Engine Key) (domain : CacheDomainConfig)
    (hworld : 1 ≤ domain.worldSize) : Prop where
  ready : server.engine = some engine
  accepted : ((client.lookupBody requests domain).validate).isSome
  layout : engine.hasLayout domain.modelId domain.worldSize.toNat = true
  intime : ∀ request ∈ requests,
    (engine.keysOf (domainQuery domain hworld request)).1 ≠ [] →
      ∀ adapter ∈ (server.storage request.requestId).l2Adapters,
        adapter.bitmap (engine.keysOf (domainQuery domain hworld request)).1
          ≠ none

section Served

variable (hdistinct : (requests.map (·.requestId)).Nodup)
  (hworld : 1 ≤ domain.worldSize)
include hdistinct

/-- A request's match is that of its own query. -/
theorem get_domainMatchesOf {request : SchedulerRequest}
    (hrequest : request ∈ requests) :
    (PyDict.ofList
        (domainMatchesOf engine server domain hworld requests)).get
          request.requestId =
      some (queryMatch engine (server.storage request.requestId)
        (domainQuery domain hworld request) request.promptTokens.length) := by
  apply (PyDict.get_ofList_eq_some _).mpr
  · exact List.mem_map.mpr ⟨request, hrequest, rfl⟩
  · unfold domainMatchesOf
    rw [List.map_map]
    exact hdistinct

/-- The payload of the bridge is read as the matches of all the requests. -/
theorem domainMatches_servedPayload :
    domainMatches b (promptLengths requests)
        (servedPayload engine server domain hworld requests) =
      .ok (.ofList (domainMatchesOf engine server domain hworld requests)) := by
  let items := requests.map fun request =>
    queryJson engine (server.storage request.requestId)
      (domainQuery domain hworld request)
  have hresults : builtin ((servedPayload engine server domain hworld
      requests).get "results" (.list [])) = .ok (.list items) := rfl
  have hiter : builtin (Json.list items).iter = .ok items := rfl
  have hitems : items.mapM (itemMatch b (promptLengths requests)) =
      .ok (domainMatchesOf engine server domain hworld requests) := by
    rw [List.mapM_map]
    apply Fault.mapM_ok
    intro request hrequest
    exact itemMatch_resultJson (get_promptLengths hdistinct hrequest) ..
  have hanswered : ∀ requestId ∈ (promptLengths requests).keys,
      ((PyDict.ofList
        (domainMatchesOf engine server domain hworld requests)).get
          requestId).isSome := by
    intro requestId hmem
    rw [promptLengths, keys_ofList_requests hdistinct] at hmem
    obtain ⟨request, hrequest, rfl⟩ := List.mem_map.mp hmem
    rw [get_domainMatchesOf hdistinct hworld hrequest]
    rfl
  unfold domainMatches
  rw [Fault.bind_ok hresults, Fault.bind_ok hiter, Fault.bind_ok hitems]
  exact if_pos hanswered

/-- Over the whole way, JSON included, a domain's answer is what its server
found. -/
theorem lookupDomain_answer (hrequests : requests ≠ [])
    (h : Answers client requests server engine domain hworld) :
    lookupDomain b (promptLengths requests)
        (server.answer (client.lookupBody requests domain)) =
      .ok (.ofList (domainMatchesOf engine server domain hworld requests)) := by
  obtain ⟨accepted, haccepted⟩ := Option.isSome_iff_exists.mp h.accepted
  obtain ⟨_, hqueries⟩ := validate_lookupBody hrequests haccepted
  have hresults : (accepted.queries.mapM fun query =>
      lookupQuery engine (server.storage query.requestId) query) =
      .ok (requests.map fun request =>
        queryJson engine (server.storage request.requestId)
          (domainQuery domain hworld request)) := by
    rw [hqueries, List.mapM_map]
    apply Fault.mapM_ok
    intro request hrequest
    exact lookupQuery_eq h.layout (h.intime request hrequest)
  have hcache : server.lookupCache accepted =
      .ok (servedPayload engine server domain hworld requests) := by
    unfold LMCacheServer.lookupCache
    rw [h.ready]
    exact Fault.bind_ok hresults _
  unfold LMCacheServer.answer
  rw [haccepted]
  dsimp only
  rw [hcache]
  exact domainMatches_servedPayload hdistinct hworld

end Served

variable (b client server domain) in
/-- A server that does not answer is a domain that failed. -/
theorem lookupDomain_answer_or (hrequests : requests ≠ []) :
    lookupDomain b (promptLengths requests)
        (server.answer (client.lookupBody requests domain)) =
      .error .runtimeError ∨
    ∃ engine hworld, Answers client requests server engine domain hworld := by
  unfold LMCacheServer.answer
  cases haccepted : (client.lookupBody requests domain).validate with
  -- a body that is not valid, and an engine or a query that fails, is answered
  -- with another status than 200
  | none => exact .inl rfl
  | some accepted =>
      dsimp only
      cases hcache : server.lookupCache accepted with
      | error error => cases error <;> exact .inl rfl
      | ok payload =>
          right
          obtain ⟨hworld, hqueries⟩ := validate_lookupBody hrequests haccepted
          unfold LMCacheServer.lookupCache at hcache
          cases hengine : server.engine with
          | none =>
              rw [hengine] at hcache
              cases hcache
          | some engine =>
              rw [hengine] at hcache
              obtain ⟨results, hresults, _⟩ := Fault.exists_of_bind hcache
              rw [hqueries, List.mapM_map] at hresults
              -- every query of an answer that is sent has succeeded
              have hjson : ∀ request ∈ requests, ∃ json,
                  lookupQuery engine (server.storage request.requestId)
                    (domainQuery domain hworld request) = .ok json :=
                fun request hrequest =>
                  Fault.exists_ok_of_mapM hresults hrequest
              obtain ⟨request, hrequest⟩ := List.exists_mem_of_ne_nil _ hrequests
              refine ⟨engine, hworld, hengine, ?_, ?_, ?_⟩
              · rw [haccepted]
                rfl
              · obtain ⟨json, hok⟩ := hjson request hrequest
                exact (lookupQuery_ok hok).1
              · intro request hrequest
                obtain ⟨json, hok⟩ := hjson request hrequest
                exact (lookupQuery_ok hok).2

end Domain

-- ====================================================== what it comes to

section Reports

variable {Key : Type}

/-- An object a request can load: in L1, and not being written. -/
def Storage.InL1 (storage : Storage Key) (key : Key) : Prop :=
  ∃ state, storage.getObjectState key = some state ∧ state.writeLocked = false

/-- A key that can be read is in L1. -/
theorem readable_iff {storage : Storage Key} {key : Key} :
    storage.readable key = true ↔ storage.InL1 key := by
  unfold Storage.readable Storage.InL1
  cases storage.getObjectState key with
  | none => simp
  | some state => simp

/-- The greatest prefix, in chunks, that the adapters of a medium have; 0
without keys or adapters. -/
structure MediumChunks (storage : Storage Key) (keys : List Key)
    (chunkCount worldSize : ℕ) (medium : String) (n : ℕ) : Prop where
  noKeys : keys = [] → n = 0
  noAdapter :
    (∀ adapter ∈ storage.l2Adapters,
      adapterMedium adapter.typeName ≠ medium) → n = 0
  greatest : keys ≠ [] →
    (∃ adapter ∈ storage.l2Adapters,
      adapterMedium adapter.typeName = medium) →
    IsGreatest
      {k | ∃ adapter ∈ storage.l2Adapters,
        adapterMedium adapter.typeName = medium ∧
        ∃ test, adapter.bitmap keys = some test ∧
          IsGreatest
            (wholeChunks (fun i => test i = true) chunkCount worldSize) k} n

/-- A match is of the prefixes the stores hold. -/
structure Reports (storage : Storage Key) (keys : List Key)
    (chunkCount worldSize chunkSize : ℕ) (m : PrefixMatch) : Prop where
  cpu : ∃ k,
    IsGreatest
      (wholeChunks (fun i => ∃ key, keys[i]? = some key ∧ storage.InL1 key)
        chunkCount worldSize) k ∧
    m.cpuPrefixTokens = chunkSize * k
  fs : ∃ k, MediumChunks storage keys chunkCount worldSize "FS" k ∧
    m.fsPrefixTokens = chunkSize * k
  obj : ∃ k, MediumChunks storage keys chunkCount worldSize "OBJ" k ∧
    m.objPrefixTokens = chunkSize * k

section Query

variable {engine : Engine Key} {storage : Storage Key} {query : PrefixQuery}

/-- The greatest count of chunks among the adapters of a medium. -/
def mediumChunks (engine : Engine Key) (storage : Storage Key)
    (query : PrefixQuery) (medium : String) : ℕ :=
  if (engine.keysOf query).1 = [] then 0
  else
    ((storage.l2Adapters.filter fun a => adapterMedium a.typeName = medium).map
      (adapterChunks engine query)).max?.getD 0

/-- The greatest entry of a medium is that of its chunks. -/
theorem mediumMax_l2Entries (medium : String) :
    mediumMax medium (l2Entries engine storage query) =
      mediumChunks engine storage query medium * engine.chunkSize := by
  unfold mediumChunks l2Entries
  by_cases hkeys : (engine.keysOf query).1 = []
  · rw [if_pos hkeys, if_pos hkeys, Nat.zero_mul]
    rfl
  · rw [if_neg hkeys, if_neg hkeys]
    unfold mediumMax
    rw [List.filter_map, List.map_map]
    have hmax := max?_map (f := fun n => n * engine.chunkSize)
      (fun n m h => Nat.mul_le_mul_right _ h)
      ((storage.l2Adapters.filter fun a =>
        adapterMedium a.typeName = medium).map (adapterChunks engine query))
    rw [List.map_map] at hmax
    refine (congrArg (Option.getD · 0) hmax).trans ?_
    cases ((storage.l2Adapters.filter fun a =>
        adapterMedium a.typeName = medium).map
          (adapterChunks engine query)).max? with
    | none => exact (Nat.zero_mul _).symm
    | some n => rfl

/-- With a key for each rank of each chunk, an adapter's count is the
greatest. -/
theorem adapterChunks_isGreatest
    (hlength : (engine.keysOf query).1.length =
      (engine.keysOf query).2 * query.worldSize)
    {adapter : L2Adapter Key} {test : ℕ → Bool}
    (htest : adapter.bitmap (engine.keysOf query).1 = some test) :
    IsGreatest
      (wholeChunks (fun i => test i = true) (engine.keysOf query).2
        query.worldSize)
      (adapterChunks engine query adapter) := by
  unfold adapterChunks
  rw [htest, ← wholeChunks_eq]
  · exact prefixChunks_isGreatest ..
  · intro i hi
    rw [← hlength] at hi
    rw [List.getElem?_map, List.getElem?_range hi]
    simp

/-- The chunks of a medium: the longest prefix one of its adapters holds. -/
theorem mediumChunks_spec
    (hlength : (engine.keysOf query).1.length =
      (engine.keysOf query).2 * query.worldSize)
    (hintime : (engine.keysOf query).1 ≠ [] →
      ∀ adapter ∈ storage.l2Adapters,
        adapter.bitmap (engine.keysOf query).1 ≠ none) (medium : String) :
    MediumChunks storage (engine.keysOf query).1 (engine.keysOf query).2
      query.worldSize medium (mediumChunks engine storage query medium) where
  noKeys hkeys := if_pos hkeys
  noAdapter hnone := by
    unfold mediumChunks
    have hfilter : (storage.l2Adapters.filter fun a =>
        adapterMedium a.typeName = medium) = [] := by
      simpa using hnone
    rw [hfilter]
    exact ite_self 0
  greatest hkeys := by
    rintro ⟨adapter, hadapter, hmedium⟩
    unfold mediumChunks
    rw [if_neg hkeys]
    cases hmax : ((storage.l2Adapters.filter fun a =>
        adapterMedium a.typeName = medium).map
          (adapterChunks engine query)).max? with
    | none =>
        have hnil := List.max?_eq_none_iff.mp hmax
        simp only [List.map_eq_nil_iff, List.filter_eq_nil_iff,
          decide_eq_true_eq] at hnil
        exact absurd hmedium (hnil adapter hadapter)
    | some n =>
        -- the maximum is an adapter's, whose bitmap came in time, and what any
        -- other holds is at most that
        obtain ⟨hmem, hle⟩ := List.max?_eq_some_iff.mp hmax
        refine ⟨?_, ?_⟩
        · obtain ⟨best, hbest, rfl⟩ := List.mem_map.mp hmem
          obtain ⟨hbest, hof⟩ := List.mem_filter.mp hbest
          obtain ⟨test, htest⟩ :=
            Option.ne_none_iff_exists'.mp (hintime hkeys best hbest)
          exact ⟨best, hbest, of_decide_eq_true hof, test, htest,
            adapterChunks_isGreatest hlength htest⟩
        · rintro k ⟨other, hother, hof, test, htest, hk⟩
          have hsame := (adapterChunks_isGreatest hlength htest).unique hk
          rw [← hsame]
          apply hle
          apply List.mem_map_of_mem
          exact List.mem_filter.mpr ⟨hother, decide_eq_true hof⟩

/-- A query is answered with the true prefixes, where keys and bitmaps are as
long as they should be. -/
theorem queryMatch_reports
    (hlength : (engine.keysOf query).1.length =
      (engine.keysOf query).2 * query.worldSize)
    (hintime : (engine.keysOf query).1 ≠ [] →
      ∀ adapter ∈ storage.l2Adapters,
        adapter.bitmap (engine.keysOf query).1 ≠ none) (promptTokens : ℤ) :
    Reports storage (engine.keysOf query).1 (engine.keysOf query).2
      query.worldSize engine.chunkSize
      (queryMatch engine storage query promptTokens) where
  cpu := by
    refine ⟨prefixChunks ((engine.keysOf query).1.map storage.readable)
      (engine.keysOf query).2 query.worldSize, ?_, ?_⟩
    -- as many whole chunks as the first keys that can be read make up
    · rw [← wholeChunks_eq]
      · exact prefixChunks_isGreatest ..
      · intro i hi
        rw [← hlength] at hi
        rw [List.getElem?_map, List.getElem?_eq_getElem hi]
        simp [← readable_iff]
    · unfold queryMatch l1Tokens
      by_cases hkeys : (engine.keysOf query).1 = []
      · -- no keys, so no chunks
        have hchunks : (engine.keysOf query).2 = 0 := by
          rw [hkeys, List.length_nil] at hlength
          have := query.worldSize_ge
          rcases Nat.mul_eq_zero.mp hlength.symm with h | h
          · exact h
          · omega
        rw [if_pos hkeys, hchunks]
        simp [prefixChunks, prefixChunksLoop]
      · rw [if_neg hkeys, Int.natCast_mul]
        exact mul_comm _ _
  fs := by
    refine ⟨_, mediumChunks_spec hlength hintime "FS", ?_⟩
    unfold queryMatch
    rw [mediumMax_l2Entries "FS", Int.natCast_mul]
    exact mul_comm _ _
  obj := by
    refine ⟨_, mediumChunks_spec hlength hintime "OBJ", ?_⟩
    unfold queryMatch
    rw [mediumMax_l2Entries "OBJ", Int.natCast_mul]
    exact mul_comm _ _

end Query

end Reports

-- ============================================================= the lookup

section Lookup

variable {Key : Type} {b : Builtins} {client : LMCacheLookupClient}
  {requests : List SchedulerRequest}
  {server : CacheDomainConfig → LMCacheServer Key}

/-- The keys of a request in a domain and the number of its chunks. -/
def Engine.keysFor (engine : Engine Key) (domain : CacheDomainConfig)
    (request : SchedulerRequest) : List Key × ℕ :=
  engine.resolveObjectKeys domain.modelId domain.worldSize.toNat
    request.promptTokens domain.cacheSalt

/-- What a request's match rests on: there is a key for each rank of each
chunk, and no adapter that is asked times out. -/
structure Resolves (engine : Engine Key) (storage : Storage Key)
    (domain : CacheDomainConfig) (request : SchedulerRequest) : Prop where
  length : (engine.keysFor domain request).1.length =
    (engine.keysFor domain request).2 * domain.worldSize.toNat
  intime : (engine.keysFor domain request).1 ≠ [] →
    ∀ adapter ∈ storage.l2Adapters,
      adapter.bitmap (engine.keysFor domain request).1 ≠ none

variable (b server) in
/-- Servers of the bridge take no lookup down. -/
theorem lookup_answers_returns (hdistinct : (requests.map (·.requestId)).Nodup)
    {order : List CacheDomainConfig} (hperm : order.Perm client.domains.values) :
    ∃ found, client.lookup b requests
      (fun domain => (server domain).answer (client.lookupBody requests domain))
      order = .ok found := by
  by_cases hrequests : requests = []
  · exact ⟨_, if_pos (.inr hrequests)⟩
  · apply (lookup_returns_iff hrequests hperm).mpr
    intro domain _ error herror
    have hraises := (lookupDomain_failsFirst b (promptLengths requests)
      ((server domain).answer (client.lookupBody requests domain))).error_iff.mpr
        herror
    rcases lookupDomain_answer_or b client (server domain) domain hrequests
      with hfails | hanswers
    · rw [hfails] at hraises
      injection hraises with hraises
      rw [← hraises]
      rfl
    · obtain ⟨engine, hworld, h⟩ := hanswers
      rw [lookupDomain_answer hdistinct hworld hrequests h] at hraises
      cases hraises

/-- A lookup of servers of the bridge returns, and what it stores of a
domain whose server takes the body is, for each request, what that
request's keys are of in the server's stores; but for a server without an
engine or without a layout for the domain, which is a domain that failed. -/
theorem lookup_reports_prefixes (b : Builtins) (client : LMCacheLookupClient)
    (requests : List SchedulerRequest)
    (server : CacheDomainConfig → LMCacheServer Key)
    (order : List CacheDomainConfig)
    (hdistinct : (requests.map (·.requestId)).Nodup)
    (hperm : order.Perm client.domains.values) :
    ∃ found,
      client.lookup b requests (fun domain =>
        (server domain).answer (client.lookupBody requests domain)) order =
          .ok found ∧
      ∀ domain ∈ client.domains.values,
        ((client.lookupBody requests domain).validate).isSome →
        (∀ engine, (server domain).engine = some engine →
          ∀ request ∈ requests, Resolves engine
            ((server domain).storage request.requestId) domain request) →
        ∀ request ∈ requests,
          (∃ engine m, (server domain).engine = some engine ∧
            engine.hasLayout domain.modelId domain.worldSize.toNat = true ∧
            domain.domainId ∉ found.failedDomains ∧
            found.entry request.requestId domain.domainId = some m ∧
            m.promptTokens = request.promptTokens.length ∧
            Reports ((server domain).storage request.requestId)
              (engine.keysFor domain request).1
              (engine.keysFor domain request).2 domain.worldSize.toNat
              engine.chunkSize m) ∨
          ((∀ engine, (server domain).engine = some engine →
              engine.hasLayout domain.modelId domain.worldSize.toNat = false) ∧
            domain.domainId ∈ found.failedDomains ∧
            found.entry request.requestId domain.domainId = none) := by
  obtain ⟨found, hok⟩ := lookup_answers_returns b server hdistinct hperm
  refine ⟨found, hok, fun domain hdomain haccepted hresolves request hrequest => ?_⟩
  have hrequests := List.ne_nil_of_mem hrequest
  -- what the merged result says about one domain is what this domain alone
  -- would give
  have habout := lookup_about hdistinct hrequests hperm hok hdomain
  obtain ⟨accepted, hvalid⟩ := Option.isSome_iff_exists.mp haccepted
  obtain ⟨hworld, _⟩ := validate_lookupBody hrequests hvalid
  by_cases hserved : ∃ engine, (server domain).engine = some engine ∧
      engine.hasLayout domain.modelId domain.worldSize.toNat = true
  · obtain ⟨engine, hready, hlayout⟩ := hserved
    left
    -- an engine with the layout answers, within the time of its adapters
    have hanswers : Answers client requests (server domain) engine domain
        hworld :=
      ⟨hready, haccepted, hlayout, fun request hrequest =>
        (hresolves engine hready request hrequest).intime⟩
    rw [lookupDomain_answer hdistinct hworld hrequests hanswers] at habout
    obtain ⟨hserving, hentry⟩ := LookupResult.of_about_ok habout
    refine ⟨engine, queryMatch engine ((server domain).storage request.requestId)
      (domainQuery domain hworld request) request.promptTokens.length, hready,
      hlayout, hserving, ?_, rfl, ?_⟩
    · rw [hentry]
      exact get_domainMatchesOf hdistinct hworld hrequest
    · obtain ⟨hlength, hintime⟩ := hresolves engine hready request hrequest
      let query := domainQuery domain hworld request
      have hchunks : (engine.keysOf query).1.length =
          (engine.keysOf query).2 * query.worldSize := hlength
      exact queryMatch_reports hchunks hintime _
  · right
    -- without one the server answers with an error status
    rcases lookupDomain_answer_or b client (server domain) domain hrequests
      with hfails | hanswers
    · rw [hfails] at habout
      obtain ⟨hfailed, hentry⟩ := LookupResult.of_about_error habout
      refine ⟨fun engine hready => ?_, hfailed, hentry _⟩
      rw [← Bool.not_eq_true]
      exact fun hlayout => hserved ⟨engine, hready, hlayout⟩
    · obtain ⟨engine, _, h⟩ := hanswers
      exact absurd ⟨engine, h.ready, h.layout⟩ hserved

end Lookup

-- ============================================================ two ranks

/-- An engine of two ranks: the keys of each chunk of four tokens are the
token it starts at and the one after. -/
def pairEngine : Engine ℤ where
  hasLayout _ worldSize := worldSize = 2
  chunkSize := 4
  resolveObjectKeys _ worldSize tokenIds _ :=
    let chunkCount := tokenIds.length / 4
    ((List.range (chunkCount * worldSize)).map fun i =>
      (tokenIds.getD (i / worldSize * 4) 0 + (i % worldSize : ℕ)), chunkCount)

/-- A server with the whole first chunk in L1, of the second one key that
is being written, and both chunks on disk. -/
def pairServer : LMCacheServer ℤ where
  engine := some pairEngine
  storage _ :=
    { getObjectState := fun key => if key < 7 then some ⟨key = 6⟩ else none
      l2Adapters :=
        [⟨"fs", fun _ => some fun _ => true⟩, ⟨"s3", fun _ => some (· < 3)⟩] }

def pairClient : LMCacheLookupClient :=
  .init (.ofList [("a", { domainId := "a", modelId := "m", worldSize := 2 })]) <| by
    intro domainId domain h
    have hmem := PyDict.mem_of_get_ofList h
    simp only [List.mem_cons, Prod.mk.injEq, List.not_mem_nil, or_false] at hmem
    obtain ⟨rfl, rfl⟩ := hmem
    rfl

def pairRequest : SchedulerRequest := ⟨"r", [1, 2, 3, 4, 5, 6, 7, 8], 16⟩

/-- The chunk that is whole in L1 is reported, the other is not. -/
theorem pair_reports :
    ∃ found m,
      pairClient.lookup asciiBuiltins [pairRequest] (fun domain =>
        pairServer.answer (pairClient.lookupBody [pairRequest] domain))
          pairClient.domains.values = .ok found ∧
      found.entry "r" "a" = some m ∧ m.promptTokens = 8 ∧
      Reports (pairServer.storage "r") [1, 2, 5, 6] 2 2 4 m := by
  obtain ⟨found, hok, hall⟩ := lookup_reports_prefixes asciiBuiltins pairClient
    [pairRequest] (fun _ => pairServer) pairClient.domains.values (by decide)
    (.refl _)
  have hresolves : ∀ engine, pairServer.engine = some engine →
      ∀ request ∈ [pairRequest], Resolves engine
        (pairServer.storage request.requestId)
        { domainId := "a", modelId := "m", worldSize := 2 } request := by
    intro engine hengine request hrequest
    injection hengine with hengine
    obtain rfl := List.mem_singleton.mp hrequest
    rw [← hengine]
    refine ⟨rfl, fun _ adapter hadapter => ?_⟩
    rcases List.mem_pair.mp hadapter with rfl | rfl <;> exact Option.some_ne_none _
  rcases hall { domainId := "a", modelId := "m", worldSize := 2 }
    (List.mem_singleton.mpr rfl) (by decide +kernel) hresolves pairRequest
    (List.mem_singleton.mpr rfl) with
    ⟨engine, m, hengine, _, _, hentry, hprompt, hreports⟩ | ⟨hnone, _, _⟩
  · injection hengine with hengine
    rw [← hengine] at hreports
    exact ⟨found, m, hok, hentry, hprompt, hreports⟩
  · have hfalse := hnone pairEngine rfl
    cases hfalse

end Kareserve
