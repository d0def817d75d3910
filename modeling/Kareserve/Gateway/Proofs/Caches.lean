/-
What a plan sees of the external caches (Gateway/Startup.lean).

A lookup goes from a configuration's cache domains over the network into the
tracker and from there into the candidates of a plan. Each part keeps to the
domain: a lookup holds of a domain what that domain answered
(Gateway/Proofs/Lookup.lean), a node stays in the domain of its
configuration (Gateway/Proofs/Startup.lean), and the tracker reads a node's
figures and its status under the node's own domain. So in every state of a
started router, and in whatever order the answers come in, a candidate shows
what the node's own domain answered for this very request, or, if the domain
failed, nothing, on a node that is marked (`plan_sees_caches`).
-/
import Kareserve.Gateway.Proofs.Lookup
import Kareserve.Gateway.Proofs.Startup

namespace Kareserve

open PyJson (Builtins Json)

/-- What a candidate shows of the external caches, by what its node's domain
came to. -/
def RouteCandidate.Shows (c : RouteCandidate) :
    Except LookupError (PyDict RequestId PrefixMatch) → Prop
  | .ok found => c.node.lmcacheCatalogStatus = .healthy ∧
      ∃ m, found.get c.requestId = some m ∧
        c.prefixMatch.cpuPrefixTokens = m.cpuPrefixTokens ∧
        c.prefixMatch.fsPrefixTokens = m.fsPrefixTokens ∧
        c.prefixMatch.objPrefixTokens = m.objPrefixTokens
  | .error _ => c.node.lmcacheCatalogStatus = .degraded ∧
      c.prefixMatch.cpuPrefixTokens = 0 ∧ c.prefixMatch.fsPrefixTokens = 0 ∧
      c.prefixMatch.objPrefixTokens = 0

namespace KareserveTracker

variable {t : KareserveTracker} {requests : List SchedulerRequest}

/-- The candidate of a request and a node. -/
theorem get_buildRouteCandidates
    (hdistinct : (requests.map (·.requestId)).Nodup)
    {request : SchedulerRequest} (hrequest : request ∈ requests)
    {nodeId : NodeId} {e : NodeEntry} (he : t.entries.get nodeId = some e)
    (defaultBlockSize : ℤ)
    (externalMatches : Option (PyDict RequestId (PyDict String PrefixMatch))) :
    ((t.buildRouteCandidates requests defaultBlockSize externalMatches).get
        request.requestId).bind (·.get nodeId)
      = some (e.routeCandidate
          (e.routingState (t.domainStatus e.node.cacheDomainId)) request
          defaultBlockSize
          (((externalMatches.getD .empty).get request.requestId).bind
            fun byDomain => byDomain.get e.node.cacheDomainId)) := by
  rw [get_buildRouteCandidates_row hdistinct hrequest, Option.bind_some,
    PyDict.get_map, he]
  rfl

/-- The status a lookup leaves of a known domain. -/
theorem domainStatus_setLmcacheLookupStatus {domainId : String}
    (hknown : domainId ∈ t.lmcacheCatalogStatus.keys)
    (failedDomains : List String) :
    (t.setLmcacheLookupStatus failedDomains).domainStatus domainId
      = if domainId ∈ failedDomains then .degraded else .healthy := by
  obtain ⟨status, hstatus⟩ := PyDict.mem_keys_iff.mp hknown
  unfold domainStatus setLmcacheLookupStatus
  rw [PyDict.get_map, hstatus]
  rfl

end KareserveTracker

namespace App

/-- A plan sees of the external caches what they answered it. From every
state a router with lookups reaches, whatever the domains answer and in
whatever order: if the lookup returns and the candidates can be built, each
request of the group has for each node a candidate, the node is in a
configured domain, and the candidate shows what that domain answered for
this request, or, if what it answered could not be used, no external prefix,
on a node marked as degraded. -/
theorem plan_sees_caches (host : Host)
    (templateText : String → Except ConfigError String) (configPath : String)
    (s : Started) (hstart : host.lifespan templateText configPath = .ok s)
    (henabled : s.config.lmcacheLookupEnabled)
    (blake2b : List UInt8 → List UInt8)
    (decode : Bytes → Option RawMapEventBatch)
    (loads : Bytes → Except LoadsError Json) (events : List AppEvent) (a : App)
    (hrun : Lts.run (step blake2b decode loads s.replayEndpoint) s.app events
      = some a)
    (group : List SchedulerRequest)
    (hworker : a.requestPool.worker = .planning group)
    (b : Builtins) (client : LMCacheLookupClient)
    (hclient : client.domains = s.config.cacheDomains)
    (reply : CacheDomainConfig → LookupReply) (order : List CacheDomainConfig)
    (hperm : order.Perm client.domains.values) (found : LookupResult)
    (hfound : client.lookup b group reply order = .ok found)
    (candidates : CandidateMatrix)
    (hbuilt : a.routePlanner.candidatesOrRaise group (some found)
      = .ok candidates) :
    ∀ request ∈ group, ∀ nodeId e, a.tracker.entries.get nodeId = some e →
      ∃ domain candidate,
        s.config.cacheDomains.get e.node.cacheDomainId = some domain ∧
        (candidates.get request.requestId).bind (·.get nodeId)
          = some candidate ∧
        candidate.requestId = request.requestId ∧
        candidate.node.nodeId = nodeId ∧
        candidate.Shows
          (lookupDomain b (promptLengths group) (reply domain)) := by
  obtain rfl := KareserveTracker.buildRouteCandidatesOrRaise_ok hbuilt
  intro request hrequest nodeId e he
  obtain ⟨hbooks, -⟩ := run_books hrun
  have hhomed := run_homed hrun
  have hdistinct := hbooks.nodup_group hworker
  -- the node and its domain
  obtain ⟨node, hnode, hid, hown, hdomainId⟩ := hhomed.nodes nodeId e he
  obtain ⟨domain, hdomain⟩ :=
    (lifespan_ok hstart).covered henabled node hnode
  rw [← hdomainId] at hdomain
  have hclientDomain : client.domains.get e.node.cacheDomainId = some domain := by
    rw [hclient]
    exact hdomain
  have hkeyed : domain.domainId = e.node.cacheDomainId :=
    client.keyed _ _ hclientDomain
  -- what the lookup holds of the domain
  have habout := lookup_about hdistinct (List.ne_nil_of_mem hrequest) hperm hfound
    (PyDict.mem_values_iff.mpr ⟨_, hclientDomain⟩)
  rw [hkeyed] at habout
  refine ⟨domain, _, hdomain,
    KareserveTracker.get_buildRouteCandidates
      (t := a.routePlanner.trackerAfter (some found)) hdistinct hrequest he _ _,
    rfl, hown, ?_⟩
  have hstatus : (a.routePlanner.trackerAfter (some found)).domainStatus
      e.node.cacheDomainId
        = if e.node.cacheDomainId ∈ found.failedDomains then .degraded
          else .healthy := by
    apply KareserveTracker.domainStatus_setLmcacheLookupStatus
    rw [hdomainId]
    exact hhomed.domains node hnode
  cases hout : lookupDomain b (promptLengths group) (reply domain) with
  | error error =>
      rw [hout] at habout
      obtain ⟨hfailed, hentry⟩ := LookupResult.of_about_error habout
      have hnone := hentry request.requestId
      unfold LookupResult.entry at hnone
      refine ⟨?_, ?_⟩
      · exact hstatus.trans (if_pos hfailed)
      · simp only [NodeEntry.routeCandidate, Option.map_some, Option.getD_some,
          hnone, Option.map_none, Option.getD_none, and_self]
  | ok matched =>
      rw [hout] at habout
      obtain ⟨hserved, hentry⟩ := LookupResult.of_about_ok habout
      have hread := hentry request.requestId
      unfold LookupResult.entry at hread
      obtain ⟨hall, -⟩ := lookupDomain_ok hout
      obtain ⟨m, hm⟩ := hall request.requestId (PyDict.mem_keys_iff.mpr
        ⟨_, get_promptLengths hdistinct hrequest⟩)
      rw [hm] at hread
      refine ⟨?_, m, hm, ?_⟩
      · exact hstatus.trans (if_neg hserved)
      · simp only [NodeEntry.routeCandidate, Option.map_some, Option.getD_some,
          hread, and_self]

/-- One domain cannot be reached, and the other has both tokens in
memory. -/
theorem plan_sees_caches_one_failed :
    ∃ (s : Started) (a : App) (found : LookupResult)
      (candidates : CandidateMatrix) (failed served : RouteCandidate),
      TwoNodesPlan s a ∧
      a.routePlanner.candidatesOrRaise [⟨"r", [1, 2], 8⟩] (some found)
        = .ok candidates ∧
      (candidates.get "r").bind (·.get "gpu0") = some failed ∧
      failed.node.lmcacheCatalogStatus = .degraded ∧
      failed.prefixMatch.cpuPrefixTokens = 0 ∧
      (candidates.get "r").bind (·.get "gpu1") = some served ∧
      served.node.lmcacheCatalogStatus = .healthy ∧
      served.prefixMatch.cpuPrefixTokens = 2 := by
  obtain ⟨s, a, h⟩ := exists_twoNodesPlan
  obtain ⟨data, -, hloads⟩ := loadConfig_ok (lifespan_ok h.start).load
  let client : LMCacheLookupClient :=
    { domains := s.config.cacheDomains
      timeoutSeconds := 1
      keyed := fun _ _ hget =>
        (readCacheDomains_get hloads.cacheDomains hget).1 }
  let reply : CacheDomainConfig → LookupReply := fun domain =>
    if domain.domainId = "gpu0" then .connectionError
    else .response 200 (some (.dict [("results", .list [.dict
      [("request_id", .string "r"), ("l1_prefix_tokens", .int 2)]])]))
  let b : Builtins := ⟨fun _ => none, fun _ => ""⟩
  have hfound : ∃ found, client.lookup b [⟨"r", [1, 2], 8⟩] reply twoDomains
      = .ok found := by
    have hdomains : client.domains.items ≠ [] := by
      intro hnil
      have hvalues := h.domains
      unfold PyDict.values at hvalues
      rw [show s.config.cacheDomains.items = [] from hnil] at hvalues
      cases hvalues
    unfold LMCacheLookupClient.lookup
    rw [if_neg (not_or.mpr ⟨hdomains, List.cons_ne_nil _ _⟩)]
    exact ⟨_, rfl⟩
  obtain ⟨found, hfound⟩ := hfound
  obtain ⟨assignments, hselected⟩ :=
    h.small.selects id (some found)
  have hbuilt := (RoutePlanner.selectOrRaise_ok (Prod.ext rfl hselected)).1
  have hsees := plan_sees_caches twoNodeHost _ "/config.json" s h.start h.enabled
    id (fun _ => none) (fun _ => .error .jsonDecodeError) _ a h.run _ h.worker b
    client rfl reply twoDomains (by
      show List.Perm _ s.config.cacheDomains.values
      rw [h.domains]) found hfound _ hbuilt ⟨"r", [1, 2], 8⟩ (List.mem_cons_self ..)
  obtain ⟨e₀, he₀, hhome₀⟩ :=
    Option.map_eq_some_iff.mp (h.homes "gpu0" (by decide))
  obtain ⟨e₁, he₁, hhome₁⟩ :=
    Option.map_eq_some_iff.mp (h.homes "gpu1" (by decide))
  obtain ⟨domain₀, failed, hdomain₀, hfailed, -, -, hshows₀⟩ := hsees "gpu0" e₀ he₀
  obtain ⟨domain₁, served, hdomain₁, hserved, hid₁, -, hshows₁⟩ :=
    hsees "gpu1" e₁ he₁
  have hreply₀ : reply domain₀ = .connectionError :=
    if_pos ((client.keyed _ _ hdomain₀).trans hhome₀)
  have hreply₁ : reply domain₁ = .response 200 (some (.dict [("results",
      .list [.dict [("request_id", .string "r"),
        ("l1_prefix_tokens", .int 2)]])])) := by
    refine if_neg fun hid => ?_
    rw [client.keyed _ _ hdomain₁, hhome₁] at hid
    exact absurd hid (by decide)
  rw [hreply₀] at hshows₀
  rw [hreply₁] at hshows₁
  obtain ⟨hstatus₀, hcpu₀, -⟩ := hshows₀
  obtain ⟨hstatus₁, m, hm, hcpu₁, -⟩ := hshows₁
  rw [hid₁] at hm
  refine ⟨s, a, found, _, failed, served, h, hbuilt, hfailed, hstatus₀, hcpu₀, hserved,
    hstatus₁, hcpu₁.trans ?_⟩
  have hmatch : some m = some { promptTokens := 2, cpuPrefixTokens := 2 } := by
    rw [← hm]
    rfl
  injection hmatch with hmatch
  rw [hmatch]

end App

end Kareserve
