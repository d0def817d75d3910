/-
A cache lookup fails by the domain (Gateway/Lookup.lean).

`payloadFaults` lists what is wrong with a payload, in the order in which
`lookup_domain` would run into it; the head of the list is what it raises
(`domainMatches_failsFirst`). A domain whose payload raises what `guarded`
catches is in `failed_domains`. A domain whose payload raises anything
else, such as the `AttributeError` of a payload that is no object, takes
the whole lookup with it, and with the lookup the planning group.

What the merged result says about one domain is a function of that domain's
reply (`lookup_about`): the loop over the replies writes each domain's
entries once, and nothing else under its name (`foldlM_guarded_about`). The
order in which the replies come in therefore changes nothing of what is said
about a domain.
-/
import Kareserve.Gateway.Lookup

namespace Kareserve

open PyJson (Json Exc Builtins)
open Fault (FailsFirst)

-- ================================================= what a payload raises

section Faults

variable (b : Builtins)

/-- The checks of one `l2` entry: it has to have `get`, and a prefix that is a
number if its medium is the one asked for. -/
def entryFaults (medium : String) (entry : Json) : List Exc :=
  entry.getFaults
    ++ if (entry.field "medium" .null).isString medium then
        (entry.field "prefix_tokens" (.int 0)).toIntFaults b
      else []

/-- The checks of the `l2` list for one medium, entry by entry. -/
def mediumFaults (medium : String) (l2 : Json) : List Exc :=
  l2.iterFaults ++ l2.elements.flatMap (entryFaults b medium)

/-- The request id of an item. -/
def itemId (item : Json) : RequestId :=
  (item.field "request_id" (.string "")).toStr b

/-- What is wrong with an item: it is no object, it is of another request,
or its `l2`, read once for each medium, or its `l1_prefix_tokens` is. -/
def itemFaults (lengths : PyDict RequestId ℤ) (item : Json) :
    List LookupError :=
  item.getFaults.map .builtin
    ++ if (lengths.get (itemId b item)).isNone then [.runtimeError]
      else
        (mediumFaults b "FS" (item.field "l2" (.list []))
          ++ mediumFaults b "OBJ" (item.field "l2" (.list []))
          ++ (item.field "l1_prefix_tokens" (.int 0)).toIntFaults b).map
            .builtin

/-- The items of a payload. -/
def payloadItems (payload : Json) : List Json :=
  (payload.field "results" (.list [])).elements

/-- The checks of a payload in the order of the code: its shape, then each
item, then the set of ids. -/
def payloadFaults (lengths : PyDict RequestId ℤ) (payload : Json) :
    List LookupError :=
  (payload.getFaults
      ++ (payload.field "results" (.list [])).iterFaults).map .builtin
    ++ (payloadItems payload).flatMap (itemFaults b lengths)
    ++ if ∀ requestId ∈ lengths.keys,
          requestId ∈ (payloadItems payload).map (itemId b) then []
      else [.runtimeError]

/-- What is wrong with a domain's answer. -/
def replyFaults (lengths : PyDict RequestId ℤ) : LookupReply → List LookupError
  | .connectionError => [.clientError]
  | .timeout => [.timeoutError]
  | .response status body =>
      if status ≠ 200 then [.runtimeError]
      else
        match body with
        | none => [.builtin .valueError]
        | some payload => payloadFaults b lengths payload

end Faults

section Domain

variable {b : Builtins} {lengths : PyDict RequestId ℤ}

/-- A built-in operation fails with its own exception. -/
theorem builtin_failsFirst {α : Type} {x : Except Exc α} {faults : List Exc}
    (h : FailsFirst x faults) :
    FailsFirst (builtin x) (faults.map .builtin) := h.mapError _

theorem eq_of_builtin {α : Type} {x : Except Exc α} {a : α}
    (h : builtin x = .ok a) : x = .ok a := by
  cases x with
  | ok a' =>
      injection h with h
      rw [h]
  | error exc => cases h

/-- What an entry counts for a medium, by its checks. -/
theorem entryTokens_failsFirst (medium : String) (entry : Json) :
    FailsFirst (entryTokens b medium entry) (entryFaults b medium entry) := by
  apply (entry.get_failsFirst "medium" .null).bind
  intro found hfound
  rw [Json.eq_field hfound]
  by_cases hmedium : (entry.field "medium" .null).isString medium = true
  · rw [if_pos hmedium, if_pos hmedium]
    cases entry with
    | dict members => exact (Json.toInt_failsFirst b _).map some
    | _ => cases hfound
  · rw [if_neg hmedium, if_neg hmedium]
    exact .ok _

/-- What a medium has of an item, by the checks of its entries. -/
theorem mediumTokens_failsFirst (medium : String) (l2 : Json) :
    FailsFirst (mediumTokens b medium l2) (mediumFaults b medium l2) := by
  apply l2.iter_failsFirst.bind
  intro entries hentries
  rw [Json.eq_elements hentries, ← List.append_nil (List.flatMap ..)]
  apply (FailsFirst.mapM fun entry _ => entryTokens_failsFirst medium entry).bind
  intro counts _
  exact .ok _

/-- What an item of the payload says, by its checks. -/
theorem itemMatch_failsFirst (item : Json) :
    FailsFirst (itemMatch b lengths item) (itemFaults b lengths item) := by
  apply (builtin_failsFirst (item.get_failsFirst "request_id" _)).bind
  intro found hfound
  have hid : found.toStr b = itemId b item :=
    congrArg _ (Json.eq_field (eq_of_builtin hfound))
  dsimp only
  rw [hid]
  cases lengths.get (itemId b item) with
  | none => exact .error _ _
  | some promptTokens =>
      cases item with
      | dict members =>
          rw [if_neg (by simp), List.map_append, List.map_append,
            List.append_assoc]
          apply (FailsFirst.ok _).bind
          intro l2 hl2
          injection hl2 with hl2
          rw [← hl2]
          apply (builtin_failsFirst (mediumTokens_failsFirst "FS" _)).bind
          intro fsPrefixTokens _
          apply (builtin_failsFirst (mediumTokens_failsFirst "OBJ" _)).bind
          intro objPrefixTokens _
          apply (FailsFirst.ok _).bind
          intro l1 hl1
          injection hl1 with hl1
          rw [← hl1, ← List.append_nil (List.map ..)]
          apply (builtin_failsFirst (Json.toInt_failsFirst b _)).bind
          intro cpuPrefixTokens _
          exact .ok _
      | _ => cases hfound

/-- A match is for the request of its item, and as long as its prompt. -/
theorem itemMatch_ok {item : Json} {found : RequestId × PrefixMatch}
    (h : itemMatch b lengths item = .ok found) :
    found.1 = itemId b item ∧
      lengths.get found.1 = some found.2.promptTokens := by
  obtain ⟨value, hvalue, h⟩ := Fault.exists_of_bind h
  have hid : value.toStr b = itemId b item :=
    congrArg _ (Json.eq_field (eq_of_builtin hvalue))
  dsimp only at h
  rw [hid] at h
  cases hlength : lengths.get (itemId b item) with
  | none =>
      rw [hlength] at h
      cases h
  | some promptTokens =>
      rw [hlength] at h
      obtain ⟨l2, _, h⟩ := Fault.exists_of_bind h
      obtain ⟨fsPrefixTokens, _, h⟩ := Fault.exists_of_bind h
      obtain ⟨objPrefixTokens, _, h⟩ := Fault.exists_of_bind h
      obtain ⟨l1, _, h⟩ := Fault.exists_of_bind h
      obtain ⟨cpuPrefixTokens, _, h⟩ := Fault.exists_of_bind h
      injection h with h
      rw [← h]
      exact ⟨rfl, hlength⟩

/-- The items that were read are under their own ids. -/
theorem keys_of_mapM_itemMatch {items : List Json}
    {found : List (RequestId × PrefixMatch)}
    (h : items.mapM (itemMatch b lengths) = .ok found) :
    found.map Prod.fst = items.map (itemId b) := by
  have hids : List.Forall₂ Eq (found.map Prod.fst) (items.map (itemId b)) := by
    rw [List.forall₂_map_left_iff, List.forall₂_map_right_iff]
    apply (Fault.forall₂_of_mapM h).flip.imp
    intro p item hp
    exact (itemMatch_ok hp).1
  exact List.forall₂_eq_eq_eq ▸ hids

/-- Whether every request is answered, by the items alone. -/
theorem answered_iff {items : List Json} {found : List (RequestId × PrefixMatch)}
    (h : items.mapM (itemMatch b lengths) = .ok found) :
    (∀ requestId ∈ lengths.keys,
        ((PyDict.ofList found).get requestId).isSome) ↔
      ∀ requestId ∈ lengths.keys, requestId ∈ items.map (itemId b) := by
  rw [← keys_of_mapM_itemMatch h]
  apply forall₂_congr
  intro requestId _
  constructor
  · intro hsome
    by_contra hmem
    rw [PyDict.get_ofList_eq_none hmem] at hsome
    cases hsome
  · intro hmem
    obtain ⟨m, hm⟩ := PyDict.exists_get_ofList hmem
    rw [hm]
    rfl

/-- What a payload says, by its checks. -/
theorem domainMatches_failsFirst (payload : Json) :
    FailsFirst (domainMatches b lengths payload)
      (payloadFaults b lengths payload) := by
  unfold payloadFaults
  rw [List.map_append, List.append_assoc, List.append_assoc]
  apply (builtin_failsFirst (payload.get_failsFirst "results" _)).bind
  intro results hresults
  rw [Json.eq_field (eq_of_builtin hresults)]
  apply (builtin_failsFirst (Json.iter_failsFirst _)).bind
  intro items hitems
  obtain rfl : items = payloadItems payload :=
    Json.eq_elements (eq_of_builtin hitems)
  apply (FailsFirst.mapM fun item _ => itemMatch_failsFirst item).bind
  intro found hfound
  show FailsFirst
    (if ∀ requestId ∈ lengths.keys,
        ((PyDict.ofList found).get requestId).isSome then _ else _) _
  by_cases hall : ∀ requestId ∈ lengths.keys,
      ((PyDict.ofList found).get requestId).isSome
  · rw [if_pos hall, if_pos ((answered_iff hfound).mp hall)]
    exact .ok _
  · rw [if_neg hall, if_neg (mt (answered_iff hfound).mpr hall)]
    exact .error _ _

/-- A domain that is served has one match for each request, as long as the
request's prompt. -/
theorem domainMatches_ok {payload : Json} {found : PyDict RequestId PrefixMatch}
    (h : domainMatches b lengths payload = .ok found) :
    (∀ requestId ∈ lengths.keys, ∃ m, found.get requestId = some m) ∧
      ∀ requestId m, found.get requestId = some m →
        lengths.get requestId = some m.promptTokens := by
  obtain ⟨results, _, h⟩ := Fault.exists_of_bind h
  obtain ⟨items, _, h⟩ := Fault.exists_of_bind h
  obtain ⟨matched, hmatched, h⟩ := Fault.exists_of_bind h
  dsimp only at h
  split at h
  next hall =>
    injection h with h
    rw [← h]
    refine ⟨fun requestId hr => Option.isSome_iff_exists.mp (hall _ hr), ?_⟩
    intro requestId m hm
    obtain ⟨item, _, hitem⟩ :=
      Fault.exists_of_mem_mapM hmatched (PyDict.mem_of_get_ofList hm)
    exact (itemMatch_ok hitem).2
  next => cases h

variable (b lengths) in
/-- What a domain's answer comes to, by the checks of the whole reply:
transport, status, then payload. -/
theorem lookupDomain_failsFirst (reply : LookupReply) :
    FailsFirst (lookupDomain b lengths reply)
      (replyFaults b lengths reply) := by
  cases reply with
  | connectionError => exact .error _ _
  | timeout => exact .error _ _
  | response status body =>
      simp only [lookupDomain, replyFaults]
      by_cases hstatus : status ≠ 200
      · rw [if_pos hstatus, if_pos hstatus]
        exact .error _ _
      · rw [if_neg hstatus, if_neg hstatus]
        cases body with
        | none => exact .error _ _
        | some payload => exact domainMatches_failsFirst payload

/-- A domain that could be used has answered every request it was asked about,
and no other, with the prompt length it was given. -/
theorem lookupDomain_ok {reply : LookupReply} {found : PyDict RequestId PrefixMatch}
    (h : lookupDomain b lengths reply = .ok found) :
    (∀ requestId ∈ lengths.keys, ∃ m, found.get requestId = some m) ∧
      ∀ requestId m, found.get requestId = some m →
        lengths.get requestId = some m.promptTokens := by
  unfold lookupDomain at h
  split at h
  next => cases h
  next => cases h
  next status body =>
    split at h
    next => cases h
    next =>
      cases body with
      | none => cases h
      | some payload => exact domainMatches_ok h

end Domain

-- ============================================== what one domain leaves

/-- What a lookup holds about a domain: whether it failed, and the match of
each request. -/
def LookupResult.about (found : LookupResult) (domainId : String) :
    Bool × (RequestId → Option PrefixMatch) :=
  (decide (domainId ∈ found.failedDomains),
    fun requestId => found.entry requestId domainId)

/-- What a lookup is to hold about a domain. -/
def outcomeAbout :
    Except LookupError (PyDict RequestId PrefixMatch) →
      Bool × (RequestId → Option PrefixMatch)
  | .ok found => (false, found.get)
  | .error _ => (true, fun _ => none)

namespace LookupResult

/-- What a request's entry holds after a domain has written. -/
theorem get_write (found : LookupResult) (domainId : String)
    (domainMatches : PyDict RequestId PrefixMatch) (requestId : RequestId) :
    (found.write domainId domainMatches).externalMatches.get requestId =
      (found.externalMatches.get requestId).map fun byDomain =>
        (domainMatches.get requestId).elim byDomain fun m =>
          byDomain.set domainId m :=
  PyDict.get_foldl_modify
    (fun (m : PrefixMatch) (byDomain : PyDict String PrefixMatch) =>
      byDomain.set domainId m)
    domainMatches.nodup found.externalMatches requestId

/-- A domain writes under its own name only. -/
theorem entry_write_of_ne (found : LookupResult) {domainId domainId' : String}
    (hne : domainId' ≠ domainId)
    (domainMatches : PyDict RequestId PrefixMatch) (requestId : RequestId) :
    (found.write domainId domainMatches).entry requestId domainId' =
      found.entry requestId domainId' := by
  unfold entry
  rw [get_write]
  cases found.externalMatches.get requestId with
  | none => rfl
  | some byDomain =>
      cases domainMatches.get requestId with
      | none => rfl
      | some m => exact PyDict.get_set_of_ne _ hne m

/-- A domain's matches are stored as they are, where it had none. -/
theorem entry_write_self {found : LookupResult} {domainId : String}
    {domainMatches : PyDict RequestId PrefixMatch}
    (hkeys : ∀ requestId ∈ domainMatches.keys,
      ∃ byDomain, found.externalMatches.get requestId = some byDomain)
    {requestId : RequestId} (hnone : found.entry requestId domainId = none) :
    (found.write domainId domainMatches).entry requestId domainId =
      domainMatches.get requestId := by
  unfold entry at hnone ⊢
  rw [get_write]
  cases hm : domainMatches.get requestId with
  | none =>
      cases hby : found.externalMatches.get requestId with
      | none => rfl
      | some byDomain =>
          rw [hby] at hnone
          exact hnone
  | some m =>
      have hmem : requestId ∈ domainMatches.keys := by
        by_contra hmem
        rw [PyDict.get_eq_none_iff.mpr hmem] at hm
        cases hm
      obtain ⟨byDomain, hby⟩ := hkeys requestId hmem
      rw [hby]
      exact PyDict.get_set_self byDomain domainId m

/-- Writing adds no request: each has its entry from the start. -/
theorem keys_write (found : LookupResult) (domainId : String)
    (domainMatches : PyDict RequestId PrefixMatch) :
    (found.write domainId domainMatches).externalMatches.keys =
      found.externalMatches.keys :=
  PyDict.keys_foldl_modify
    (fun (m : PrefixMatch) (byDomain : PyDict String PrefixMatch) =>
      byDomain.set domainId m)
    domainMatches.items found.externalMatches

end LookupResult

section Guarded

variable {b : Builtins} {lengths : PyDict RequestId ℤ}
  {reply : CacheDomainConfig → LookupReply} {found found' : LookupResult}
  {domain : CacheDomainConfig}

/-- What `guarded` does when it returns. -/
theorem guarded_ok (h : guarded b lengths reply found domain = .ok found') :
    (∃ domainMatches,
        lookupDomain b lengths (reply domain) = .ok domainMatches ∧
        found' = found.write domain.domainId domainMatches) ∨
      ∃ error, lookupDomain b lengths (reply domain) = .error error ∧
        found' = { found with
          failedDomains := found.failedDomains.insert domain.domainId } := by
  unfold guarded at h
  split at h
  next domainMatches hok =>
    injection h with h
    exact .inl ⟨domainMatches, hok, h.symm⟩
  next error herror =>
    split at h
    next =>
      injection h with h
      exact .inr ⟨error, herror, h.symm⟩
    next => cases h

/-- A domain's answer touches no other domain. -/
theorem guarded_about_of_ne
    (h : guarded b lengths reply found domain = .ok found')
    {domainId : String} (hne : domainId ≠ domain.domainId) :
    found'.about domainId = found.about domainId := by
  obtain ⟨domainMatches, _, rfl⟩ | ⟨error, _, rfl⟩ := guarded_ok h
  · unfold LookupResult.about
    congr 1
    funext requestId
    exact found.entry_write_of_ne hne domainMatches requestId
  · unfold LookupResult.about
    congr 1
    rw [decide_eq_decide, List.mem_insert_iff]
    exact or_iff_right hne

/-- A domain that is caught or written leaves the requests as they were. -/
theorem guarded_keys (h : guarded b lengths reply found domain = .ok found') :
    found'.externalMatches.keys = found.externalMatches.keys := by
  obtain ⟨domainMatches, _, rfl⟩ | ⟨error, _, rfl⟩ := guarded_ok h
  · exact found.keys_write ..
  · rfl

/-- A domain nothing is known about is as its answer says. -/
theorem guarded_about_self
    (h : guarded b lengths reply found domain = .ok found')
    (hkeys : found.externalMatches.keys = lengths.keys)
    (hblank : found.about domain.domainId = (false, fun _ => none)) :
    found'.about domain.domainId =
      outcomeAbout (lookupDomain b lengths (reply domain)) := by
  have hfailed : decide (domain.domainId ∈ found.failedDomains) = false :=
    congrArg Prod.fst hblank
  have hentry : ∀ requestId, found.entry requestId domain.domainId = none :=
    fun requestId => congrFun (congrArg Prod.snd hblank) requestId
  obtain ⟨domainMatches, hok, rfl⟩ | ⟨error, herror, rfl⟩ := guarded_ok h
  · rw [hok]
    unfold LookupResult.about outcomeAbout
    congr 1
    funext requestId
    apply LookupResult.entry_write_self _ (hentry requestId)
    intro requestId' hmem
    obtain ⟨m, hm⟩ := PyDict.mem_keys_iff.mp hmem
    have hlength := (lookupDomain_ok hok).2 requestId' m hm
    have hmem' : requestId' ∈ found.externalMatches.keys := by
      rw [hkeys]
      exact PyDict.mem_keys_iff.mpr ⟨_, hlength⟩
    exact PyDict.mem_keys_iff.mp hmem'
  · rw [herror]
    unfold LookupResult.about outcomeAbout
    refine Prod.ext ?_ (funext hentry)
    exact decide_eq_true (List.mem_insert_self ..)

/-- The fault of an answer, if `guarded` lets it through. -/
def escapes (faults : List LookupError) : List LookupError :=
  (faults.head?.filter fun error => !error.caught).toList

/-- Nothing escapes the `except` clause where the first fault is one it
catches. -/
theorem escapes_eq_nil_iff {faults : List LookupError} :
    escapes faults = [] ↔ ∀ error, faults.head? = some error → error.caught := by
  unfold escapes
  cases faults.head? with
  | none => simp
  | some error => cases herror : error.caught <;> simp [herror]

variable (b lengths reply) in
/-- Only the first fault of a domain can escape, and only if the clause does
not catch its class. -/
theorem guarded_failsFirst (found : LookupResult) (domain : CacheDomainConfig) :
    FailsFirst (guarded b lengths reply found domain)
      (escapes (replyFaults b lengths (reply domain))) := by
  have hdomain := lookupDomain_failsFirst b lengths (reply domain)
  unfold guarded
  cases hfaults : replyFaults b lengths (reply domain) with
  | nil =>
      rw [hfaults] at hdomain
      obtain ⟨domainMatches, hok⟩ := hdomain
      rw [hok]
      exact .ok _
  | cons error faults =>
      rw [hfaults] at hdomain
      replace hdomain : lookupDomain b lengths (reply domain) = .error error :=
        hdomain
      rw [hdomain]
      dsimp only
      cases hcaught : error.caught with
      | true =>
          rw [if_pos rfl, escapes_eq_nil_iff.mpr]
          · exact .ok _
          · rintro error' ⟨⟩
            exact hcaught
      | false =>
          have hescapes : escapes (error :: faults) = [error] := by
            simp [escapes, hcaught]
          rw [hescapes]
          exact .error _ _

-- ============================================================== the loop

/-- The domains that are not among those that answered are untouched. -/
theorem foldlM_guarded_about_of_not_mem {order : List CacheDomainConfig}
    (h : order.foldlM (guarded b lengths reply) found = .ok found')
    {domainId : String} (hmem : domainId ∉ order.map (·.domainId)) :
    found'.about domainId = found.about domainId := by
  induction order generalizing found with
  | nil =>
      injection h with h
      rw [h]
  | cons domain order ih =>
      rw [List.foldlM_cons] at h
      obtain ⟨middle, hfirst, hrest⟩ := Fault.exists_of_bind h
      rw [List.map_cons, List.mem_cons, not_or] at hmem
      rw [ih hrest hmem.2, guarded_about_of_ne hfirst hmem.1]

/-- At the end each domain is as its own answer says. -/
theorem foldlM_guarded_about {order : List CacheDomainConfig}
    (h : order.foldlM (guarded b lengths reply) found = .ok found')
    (hnodup : (order.map (·.domainId)).Nodup)
    (hkeys : found.externalMatches.keys = lengths.keys)
    (hblank : ∀ d ∈ order, found.about d.domainId = (false, fun _ => none))
    (hdomain : domain ∈ order) :
    found'.about domain.domainId =
      outcomeAbout (lookupDomain b lengths (reply domain)) := by
  induction order generalizing found with
  | nil => cases hdomain
  | cons first order ih =>
      rw [List.foldlM_cons] at h
      obtain ⟨middle, hfirst, hrest⟩ := Fault.exists_of_bind h
      rw [List.map_cons, List.nodup_cons] at hnodup
      rcases List.mem_cons.mp hdomain with rfl | hdomain
      · rw [foldlM_guarded_about_of_not_mem hrest hnodup.1]
        exact guarded_about_self hfirst hkeys (hblank _ hdomain)
      · apply ih hrest hnodup.2 ((guarded_keys hfirst).trans hkeys) _ hdomain
        intro d hd
        have hne : d.domainId ≠ first.domainId := by
          intro heq
          exact hnodup.1 (List.mem_map.mpr ⟨d, hd, heq⟩)
        rw [guarded_about_of_ne hfirst hne]
        exact hblank d (List.mem_cons_of_mem _ hd)

end Guarded

section Lookup

variable {b : Builtins} {client : LMCacheLookupClient}
  {requests : List SchedulerRequest} {reply : CacheDomainConfig → LookupReply}
  {order : List CacheDomainConfig} {found : LookupResult}

/-- The client keeps each domain under its own id. -/
theorem LMCacheLookupClient.domainIds (client : LMCacheLookupClient) :
    client.domains.values.map (·.domainId) = client.domains.keys := by
  unfold PyDict.values PyDict.keys
  rw [List.map_map]
  apply List.map_congr_left
  rintro ⟨domainId, domain⟩ hmem
  exact client.keyed domainId domain (PyDict.get_eq_some_iff.mpr hmem)

/-- In whatever order they answer, every domain does so once. -/
theorem LMCacheLookupClient.nodup_domainIds
    (hperm : order.Perm client.domains.values) :
    (order.map (·.domainId)).Nodup := by
  rw [(hperm.map _).nodup_iff, client.domainIds]
  exact client.domains.nodup

section Requests

variable (hdistinct : (requests.map (·.requestId)).Nodup)
include hdistinct

/-- The keys of a dict with an entry for each request. -/
theorem keys_ofList_requests {V : Type} (f : SchedulerRequest → V) :
    (PyDict.ofList (requests.map fun r => (r.requestId, f r))).keys =
      requests.map (·.requestId) := by
  unfold PyDict.keys
  rw [PyDict.items_ofList, List.map_map]
  · rfl
  · rw [List.map_map]
    exact hdistinct

/-- The lengths sent are those of the prompts. -/
theorem get_promptLengths {request : SchedulerRequest} (h : request ∈ requests) :
    (promptLengths requests).get request.requestId =
      some (request.promptTokens.length : ℤ) := by
  apply (PyDict.get_ofList_eq_some _).mpr
  · exact List.mem_map.mpr ⟨request, h, rfl⟩
  · rw [List.map_map]
    exact hdistinct

/-- After a lookup that returned, a domain's entries are what its reply came
to, whatever came before or after it. -/
theorem lookup_about (hrequests : requests ≠ [])
    (hperm : order.Perm client.domains.values)
    (hok : client.lookup b requests reply order = .ok found)
    {domain : CacheDomainConfig} (hdomain : domain ∈ client.domains.values) :
    found.about domain.domainId =
      outcomeAbout (lookupDomain b (promptLengths requests) (reply domain)) := by
  have hdomains : client.domains.items ≠ [] := by
    intro hnil
    rw [PyDict.values, hnil] at hdomain
    cases hdomain
  unfold LMCacheLookupClient.lookup at hok
  rw [if_neg (not_or.mpr ⟨hdomains, hrequests⟩)] at hok
  apply foldlM_guarded_about hok (client.nodup_domainIds hperm) _ _
    (hperm.mem_iff.mpr hdomain)
  · exact (keys_ofList_requests hdistinct _).trans
      (keys_ofList_requests hdistinct _).symm
  · intro d _
    unfold LookupResult.about LookupResult.entry
    congr 1
    funext requestId
    cases hget : (PyDict.ofList (requests.map fun request =>
        (request.requestId, (PyDict.empty : PyDict String PrefixMatch)))).get
          requestId with
    | none => rfl
    | some byDomain =>
        obtain ⟨request, _, heq⟩ :=
          List.mem_map.mp (PyDict.mem_of_get_ofList hget)
        injection heq with _ heq
        rw [← heq]
        rfl

end Requests

-- ====================================================== fails per domain

/-- What a lookup holds about a domain is all or nothing: the domain failed
and no request has a match of it, or it did not and every request has one
that is as long as its prompt. -/
def LookupResult.Whole (found : LookupResult) (requests : List SchedulerRequest)
    (domainId : String) : Prop :=
  (domainId ∈ found.failedDomains ∧
      ∀ request ∈ requests, found.entry request.requestId domainId = none) ∨
    (domainId ∉ found.failedDomains ∧
      ∀ request ∈ requests, ∃ m,
        found.entry request.requestId domainId = some m ∧
        m.promptTokens = request.promptTokens.length)

/-- A lookup returns in whatever order the answers come in, holds all or
nothing of every domain, and holds of a domain what it would hold had the
others answered otherwise. -/
def FailsPerDomain (b : Builtins) (client : LMCacheLookupClient)
    (requests : List SchedulerRequest)
    (reply : CacheDomainConfig → LookupReply) : Prop :=
  ∀ order, order.Perm client.domains.values →
    ∃ found, client.lookup b requests reply order = .ok found ∧
      (∀ domain ∈ client.domains.values,
        found.Whole requests domain.domainId) ∧
      ∀ reply' order' found', order'.Perm client.domains.values →
        client.lookup b requests reply' order' = .ok found' →
        ∀ domain ∈ client.domains.values, reply' domain = reply domain →
          found'.about domain.domainId = found.about domain.domainId

/-- A domain that was used is not marked, and its entries are its matches. -/
theorem LookupResult.of_about_ok {domainId : String}
    {domainMatches : PyDict RequestId PrefixMatch}
    (h : found.about domainId = outcomeAbout (.ok domainMatches)) :
    domainId ∉ found.failedDomains ∧
      ∀ requestId, found.entry requestId domainId = domainMatches.get requestId :=
  ⟨of_decide_eq_false (congrArg Prod.fst h), congrFun (congrArg Prod.snd h)⟩

/-- A domain that could not be used is marked, and has no entries. -/
theorem LookupResult.of_about_error {domainId : String} {error : LookupError}
    (h : found.about domainId = outcomeAbout (.error error)) :
    domainId ∈ found.failedDomains ∧
      ∀ requestId, found.entry requestId domainId = none :=
  ⟨of_decide_eq_true (congrArg Prod.fst h), congrFun (congrArg Prod.snd h)⟩

/-- Either way a domain is there for all requests or for none. -/
theorem whole_of_about (hdistinct : (requests.map (·.requestId)).Nodup)
    {domainId : String} {answer : LookupReply}
    (h : found.about domainId =
      outcomeAbout (lookupDomain b (promptLengths requests) answer)) :
    found.Whole requests domainId := by
  cases hout : lookupDomain b (promptLengths requests) answer with
  | error error =>
      rw [hout] at h
      obtain ⟨hfailed, hentry⟩ := LookupResult.of_about_error h
      exact .inl ⟨hfailed, fun request _ => hentry _⟩
  | ok domainMatches =>
      rw [hout] at h
      obtain ⟨hserved, hentry⟩ := LookupResult.of_about_ok h
      refine .inr ⟨hserved, fun request hrequest => ?_⟩
      have hlength := get_promptLengths hdistinct hrequest
      obtain ⟨hall, htokens⟩ := lookupDomain_ok hout
      obtain ⟨m, hm⟩ :=
        hall _ (PyDict.mem_keys_iff.mpr ⟨_, hlength⟩)
      refine ⟨m, (hentry _).trans hm, ?_⟩
      have heq := (htokens _ m hm).symm.trans hlength
      injection heq

/-- When a lookup returns at all. -/
theorem lookup_returns_iff (hrequests : requests ≠ [])
    (hperm : order.Perm client.domains.values) :
    (∃ found, client.lookup b requests reply order = .ok found) ↔
      ∀ domain ∈ client.domains.values, ∀ error,
        (replyFaults b (promptLengths requests) (reply domain)).head? =
          some error → error.caught := by
  unfold LMCacheLookupClient.lookup
  by_cases hdomains : client.domains.items = []
  · rw [if_pos (.inl hdomains)]
    refine iff_of_true ⟨_, rfl⟩ fun domain hdomain => ?_
    rw [PyDict.values, hdomains] at hdomain
    cases hdomain
  · rw [if_neg (not_or.mpr ⟨hdomains, hrequests⟩)]
    have hloop := FailsFirst.foldlM (l := order) (fun domain _ found =>
      guarded_failsFirst b (promptLengths requests) reply found domain)
    rw [(hloop _).ok_iff, List.flatMap_eq_nil_iff]
    apply forall_congr'
    intro domain
    rw [hperm.mem_iff, escapes_eq_nil_iff]

/-- Of what an endpoint can answer, only the payload of a 200 can take the
lookup down. -/
theorem replyFaults_caught_iff {lengths : PyDict RequestId ℤ}
    {answer : LookupReply} :
    (∀ error, (replyFaults b lengths answer).head? = some error →
        error.caught) ↔
      ∀ payload, answer = .response 200 (some payload) →
        ∀ error, (payloadFaults b lengths payload).head? = some error →
          error.caught := by
  constructor
  · rintro h payload rfl
    exact h
  · intro h error herror
    cases answer with
    -- everything but the payload of a 200 is caught
    | connectionError =>
        injection herror with herror
        rw [← herror]
        rfl
    | timeout =>
        injection herror with herror
        rw [← herror]
        rfl
    | response status body =>
        simp only [replyFaults] at herror
        by_cases hstatus : status ≠ 200
        · rw [if_pos hstatus] at herror
          injection herror with herror
          rw [← herror]
          rfl
        · rw [if_neg hstatus] at herror
          obtain rfl := not_not.mp hstatus
          cases body with
          | none =>
              injection herror with herror
              rw [← herror]
              rfl
          | some payload => exact h payload rfl error herror

/-- A lookup fails by the domain exactly when what is wrong first with each
payload is something `guarded` catches. -/
theorem lookup_failsPerDomain_iff (b : Builtins) (client : LMCacheLookupClient)
    (requests : List SchedulerRequest)
    (reply : CacheDomainConfig → LookupReply)
    (hdistinct : (requests.map (·.requestId)).Nodup) :
    FailsPerDomain b client requests reply ↔
      requests = [] ∨ ∀ domain ∈ client.domains.values, ∀ payload,
        reply domain = .response 200 (some payload) →
        ∀ error,
          (payloadFaults b (promptLengths requests) payload).head? =
            some error → error.caught := by
  by_cases hrequests : requests = []
  · refine iff_of_true ?_ (.inl hrequests)
    -- without requests nobody is asked
    have hreturn : ∀ reply' order',
        client.lookup b requests reply' order' = .ok ⟨.empty, []⟩ :=
      fun reply' order' => if_pos (.inr hrequests)
    intro order _
    refine ⟨_, hreturn reply order, fun domain _ => .inr ⟨?_, ?_⟩, ?_⟩
    · exact List.not_mem_nil
    · rw [hrequests]
      intro request hrequest
      cases hrequest
    · intro reply' order' found' _ hok domain _ _
      rw [hreturn] at hok
      injection hok with hok
      rw [hok]
  · rw [or_iff_right hrequests]
    simp only [← replyFaults_caught_iff]
    constructor
    · intro h
      obtain ⟨found, hok, _⟩ := h _ (.refl _)
      -- a lookup that returns has caught what was wrong with each reply, in
      -- any order of the replies
      exact (lookup_returns_iff hrequests (.refl _)).mp ⟨found, hok⟩
    · intro h order hperm
      -- and what it says about a domain depends on that domain's reply alone
      obtain ⟨found, hok⟩ := (lookup_returns_iff hrequests hperm).mpr h
      refine ⟨found, hok, fun domain hdomain => ?_, ?_⟩
      · exact whole_of_about hdistinct
          (lookup_about hdistinct hrequests hperm hok hdomain)
      · intro reply' order' found' hperm' hok' domain hdomain hreply
        rw [lookup_about hdistinct hrequests hperm' hok' hdomain, hreply,
          lookup_about hdistinct hrequests hperm hok hdomain]

end Lookup

-- ============================================================= two domains

/-- Built-ins of ASCII decimals only. -/
def asciiBuiltins : Builtins where
  parseInt s := s.toInt?
  render _ := ""

/-- Two domains of one model. -/
def twoDomains : LMCacheLookupClient :=
  .init
    (.ofList
      [("a", { domainId := "a", modelId := "m" }),
        ("b", { domainId := "b", modelId := "m" })]) <| by
    intro domainId domain h
    have hmem := PyDict.mem_of_get_ofList h
    simp only [List.mem_cons, Prod.mk.injEq, List.not_mem_nil, or_false] at hmem
    obtain ⟨rfl, rfl⟩ | ⟨rfl, rfl⟩ := hmem <;> rfl

def lookupRequest : SchedulerRequest := ⟨"r", [1, 2, 3, 4], 16⟩

/-- A payload that answers the request with nothing cached. -/
def emptyAnswer : Json :=
  .dict [("results", .list [.dict [("request_id", .string "r")]])]

/-- A refused connection is kept to its domain. -/
theorem refused_connection_keeps_to_domain :
    FailsPerDomain asciiBuiltins twoDomains [lookupRequest] fun domain =>
      if domain.domainId = "a" then .connectionError
      else .response 200 (some emptyAnswer) :=
  (lookup_failsPerDomain_iff _ _ _ _ (by decide)).mpr <| .inr <| by
    intro domain _ payload hpayload error herror
    split at hpayload
    next => cases hpayload
    next =>
      injection hpayload with _ hpayload
      injection hpayload with hpayload
      rw [← hpayload] at herror
      cases herror

/-- The first domain answers with an empty array, the second as it should. -/
def arrayReply (domain : CacheDomainConfig) : LookupReply :=
  .response 200
    (some (if domain.domainId = "a" then .list [] else emptyAnswer))

/-- An array for a payload raises what `guarded` does not catch, and the
lookup with it. -/
theorem array_payload_escapes :
    twoDomains.lookup asciiBuiltins [lookupRequest] arrayReply
        twoDomains.domains.values = .error (.builtin .attributeError) ∧
      ¬ FailsPerDomain asciiBuiltins twoDomains [lookupRequest] arrayReply := by
  have hraises : twoDomains.lookup asciiBuiltins [lookupRequest] arrayReply
      twoDomains.domains.values = .error (.builtin .attributeError) := rfl
  refine ⟨hraises, fun h => ?_⟩
  obtain ⟨found, hok, _⟩ := h _ (.refl _)
  rw [hraises] at hok
  cases hok

end Kareserve
