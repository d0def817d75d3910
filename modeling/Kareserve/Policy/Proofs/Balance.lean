/-
How evenly the simple policies load the nodes.

A `Pick` is a request with the candidate it was given. `AnswersGroup` says
that an answer of `select_batch` is made of picks: one for each request
whose row is not empty, in the order of the group, each an eligible
candidate of the request's own row. Counts are taken over the picks; an
answer of a group without repeated request ids shows the same counts
(`AnswersGroup.count_values`).

Where all rows show the same nodes (`SameNodes`), the nodes a policy
chooses from are the same for every request (`SameNodes.eligible_node`). The
two loops are then instances of what `Lib/Greedy` and `Lib/Rotation` say
about units and about turns: the least-load policy keeps its picks
`Greedy`, the round-robin policy keeps them in rotation, in one group and
from group to group.
-/
import Kareserve.Lib.Greedy
import Kareserve.Lib.Rotation
import Kareserve.Policy.Proofs.Returning
import Mathlib.Data.Finset.Sort

namespace Kareserve

open SortKey

-- =============================================================== picks

/-- A request and the candidate it was given. -/
structure Pick where
  request : SchedulerRequest
  candidate : RouteCandidate

/-- The node a pick loads. -/
def Pick.nodeId (pick : Pick) : NodeId := pick.candidate.node.nodeId

/-- How many of the picks a node received. -/
def received (picks : List Pick) (nodeId : NodeId) : ℕ :=
  (picks.map Pick.nodeId).count nodeId

/-- The item a pick becomes in an answer. -/
def CostModel.answerItem (m : CostModel) (pick : Pick) :
    RequestId × RouteAssignment :=
  (pick.request.requestId, m.assignment pick.request pick.candidate 0 none)

/-- An answer made of picks. -/
structure AnswersGroup (m : CostModel) (requests : List SchedulerRequest)
    (candidates : CandidateMatrix) (picks : List Pick)
    (assignments : PyDict RequestId RouteAssignment) : Prop where
  requests_eq : picks.map Pick.request = requests.filter fun request =>
    !(candidates.row request.requestId).isEmpty
  eligible : ∀ pick ∈ picks,
    pick.candidate ∈ eligible (candidates.row pick.request.requestId)
  assignments_eq : assignments = .ofList (picks.map m.answerItem)

section Picks

variable {m : CostModel} {requests : List SchedulerRequest}
  {candidates : CandidateMatrix} {picks : List Pick}
  {assignments : PyDict RequestId RouteAssignment}
  {request : SchedulerRequest}

/-- What a node received, part by part. -/
theorem received_append (picks picks' : List Pick) (nodeId : NodeId) :
    received (picks ++ picks') nodeId
      = received picks nodeId + received picks' nodeId := by
  unfold received
  rw [List.map_append, List.count_append]

theorem received_singleton_self (pick : Pick) :
    received [pick] pick.nodeId = 1 := List.count_singleton_self

theorem received_singleton_of_ne (pick : Pick) {nodeId : NodeId}
    (h : nodeId ≠ pick.nodeId) : received [pick] nodeId = 0 :=
  List.count_eq_zero.mpr fun hmem => h (List.mem_singleton.mp hmem)

/-- No request, no pick. -/
theorem AnswersGroup.nil (m : CostModel) (candidates : CandidateMatrix) :
    AnswersGroup m [] candidates [] .empty where
  requests_eq := rfl
  eligible := fun pick h => by cases h
  assignments_eq := rfl

/-- A request without candidates. -/
theorem AnswersGroup.skip
    (h : AnswersGroup m requests candidates picks assignments)
    (hrow : candidates.row request.requestId = []) :
    AnswersGroup m (requests ++ [request]) candidates picks assignments where
  requests_eq := by
    rw [List.filter_append, ← h.requests_eq, List.filter_cons_of_neg,
      List.filter_nil, List.append_nil]
    rw [hrow]
    exact Bool.false_ne_true
  eligible := h.eligible
  assignments_eq := h.assignments_eq

/-- A request that is given an eligible candidate. -/
theorem AnswersGroup.pick {candidate : RouteCandidate}
    (h : AnswersGroup m requests candidates picks assignments)
    (hmem : candidate ∈
      Kareserve.eligible (candidates.row request.requestId)) :
    AnswersGroup m (requests ++ [request]) candidates
      (picks ++ [⟨request, candidate⟩])
      (assignments.set request.requestId
        (m.assignment request candidate 0 none)) where
  requests_eq := by
    have hrow := List.ne_nil_of_mem (mem_of_mem_eligible hmem)
    rw [List.map_append, h.requests_eq, List.filter_append,
      List.filter_cons_of_pos, List.filter_nil]
    · rfl
    · rw [Bool.not_eq_true', List.isEmpty_eq_false_iff]
      exact hrow
  eligible := by
    intro pick hpick
    rcases List.mem_append.mp hpick with hpick | hpick
    · exact h.eligible pick hpick
    · rw [List.mem_singleton] at hpick
      rw [hpick]
      exact hmem
  assignments_eq := by
    rw [List.map_append, List.map_cons, List.map_nil, PyDict.ofList_snoc,
      ← h.assignments_eq]
    rfl

/-- Without repeated request ids, an answer shows every pick. -/
theorem AnswersGroup.items_eq
    (h : AnswersGroup m requests candidates picks assignments)
    (hdistinct : (requests.map (·.requestId)).Nodup) :
    assignments.items = picks.map m.answerItem := by
  rw [h.assignments_eq]
  refine PyDict.items_ofList ?_
  have hids : (picks.map m.answerItem).map Prod.fst
      = (picks.map Pick.request).map (·.requestId) := by
    rw [List.map_map, List.map_map]
    rfl
  rw [hids, h.requests_eq]
  exact (List.filter_sublist.map _).nodup hdistinct

/-- Without repeated request ids, an answer shows what every node
received. -/
theorem AnswersGroup.count_values
    (h : AnswersGroup m requests candidates picks assignments)
    (hdistinct : (requests.map (·.requestId)).Nodup) (nodeId : NodeId) :
    (assignments.values.map fun a => a.candidate.node.nodeId).count nodeId
      = received picks nodeId := by
  unfold PyDict.values received
  rw [h.items_eq hdistinct, List.map_map, List.map_map]
  rfl

end Picks

-- ========================================================= same nodes

/-- What is eligible in a row: a candidate with metrics, or any candidate
where none has them. -/
theorem mem_eligible_iff {values : List RouteCandidate} {c : RouteCandidate} :
    c ∈ eligible values ↔ c ∈ values
      ∧ ((∃ c' ∈ values, c'.node.metricsStatus = .available) →
        c.node.metricsStatus = .available) := by
  constructor
  · intro h
    have hassigns := assigns_of_eligible (m := {}) h ⟨"", [], 0⟩ 0 none
    exact ⟨hassigns.mem, hassigns.available⟩
  · intro h
    obtain ⟨hmem, havailable⟩ := h
    unfold eligible
    dsimp only
    split
    case isTrue => exact hmem
    case isFalse hsome =>
      refine List.mem_filter.mpr ⟨hmem, decide_eq_true (havailable ?_)⟩
      rw [List.isEmpty_iff] at hsome
      obtain ⟨c', hc'⟩ := List.exists_mem_of_ne_nil _ hsome
      obtain ⟨hc', hstatus⟩ := List.mem_filter.mp hc'
      exact ⟨c', hc', of_decide_eq_true hstatus⟩

/-- Every row that is not empty shows the same nodes, with the same
snapshots. -/
structure SameNodes (candidates : CandidateMatrix) : Prop where
  shared : SharedSnapshots candidates
  same : ∀ requestId, ∀ c ∈ candidates.row requestId, ∀ requestId',
    candidates.row requestId' ≠ [] →
      ∃ c' ∈ candidates.row requestId', c'.node.nodeId = c.node.nodeId

/-- The matrix the tracker builds is such. -/
theorem KareserveTracker.Keyed.sameNodes {t : KareserveTracker} (h : t.Keyed)
    (requests : List SchedulerRequest) (defaultBlockSize : ℤ)
    (externalMatches : Option (PyDict RequestId (PyDict String PrefixMatch))) :
    SameNodes (t.buildRouteCandidates requests defaultBlockSize
      externalMatches) where
  shared := h.sharedSnapshots
  same := by
    intro requestId c hc requestId' hrow
    obtain ⟨request, -, -, nodeId, e, he, pm, rfl⟩ :=
      mem_row_buildRouteCandidates hc
    obtain ⟨c₀, hc₀⟩ := List.exists_mem_of_ne_nil _ hrow
    obtain ⟨request', hrequest', rfl, -⟩ := mem_row_buildRouteCandidates hc₀
    obtain ⟨c', hc', hnode⟩ :=
      exists_mem_row_buildRouteCandidates hrequest' he
    exact ⟨c', hc', congrArg NodeRoutingState.nodeId hnode⟩

section SameNodes

variable {candidates : CandidateMatrix} {requestId requestId' : RequestId}
  {c : RouteCandidate}

/-- A node of one row is, with its snapshot, a node of every other. -/
theorem SameNodes.exists_node (h : SameNodes candidates)
    (hc : c ∈ candidates.row requestId)
    (hrow : candidates.row requestId' ≠ []) :
    ∃ c' ∈ candidates.row requestId', c'.node = c.node := by
  obtain ⟨c', hc', hid⟩ := h.same requestId c hc requestId' hrow
  exact ⟨c', hc', h.shared requestId' c' hc' requestId c hc hid⟩

/-- The same nodes are eligible in every row. -/
theorem SameNodes.eligible_node (h : SameNodes candidates)
    (hc : c ∈ eligible (candidates.row requestId))
    (hrow : candidates.row requestId' ≠ []) :
    ∃ c' ∈ eligible (candidates.row requestId'), c'.node = c.node := by
  obtain ⟨hmem, havailable⟩ := mem_eligible_iff.mp hc
  obtain ⟨c', hc', hnode⟩ := h.exists_node hmem hrow
  refine ⟨c', mem_eligible_iff.mpr ⟨hc', fun hsome => ?_⟩, hnode⟩
  obtain ⟨c₁, hc₁, hstatus⟩ := hsome
  obtain ⟨c₂, hc₂, hnode₂⟩ :=
    h.exists_node hc₁ (List.ne_nil_of_mem hmem)
  rw [hnode]
  exact havailable ⟨c₂, hc₂, by rw [hnode₂]; exact hstatus⟩

end SameNodes

-- ========================================================== least load

namespace LeastLoadPolicy

/-- What a node carries when a group comes. -/
def loadBefore (node : NodeRoutingState) : ℚ :=
  node.routerActiveRequests + node.queueDepth

/-- What a node carries once a group's picks are made. -/
def loadAfter (picks : List Pick) (node : NodeRoutingState) : ℚ :=
  node.routerActiveRequests + node.queueDepth + received picks node.nodeId

/-- The snapshots of the nodes that are eligible for a request. -/
def places (candidates : CandidateMatrix) : Set NodeRoutingState :=
  {node | ∃ requestId, ∃ c ∈ eligible (candidates.row requestId),
    c.node = node}

/-- The loop after some requests: its counts are those of the snapshots
and the picks, and every pick went to a least loaded node. -/
structure After (p : LeastLoadPolicy) (candidates : CandidateMatrix)
    (requests : List SchedulerRequest) (picks : List Pick) (s : State) :
    Prop where
  answers : AnswersGroup p.costModel requests candidates picks s.assignments
  active : ∀ requestId, ∀ c ∈ candidates.row requestId,
    (s.active.get c.node.nodeId).getD c.node.routerActiveRequests
      = c.node.routerActiveRequests + received picks c.node.nodeId
  greedy : Greedy (places candidates) loadBefore
    (picks.map fun pick => pick.candidate.node)

section Loop

variable {p : LeastLoadPolicy} {requests : List SchedulerRequest}
  {candidates : CandidateMatrix} {picks : List Pick} {s : State}

/-- Every node has one snapshot, so picks can be counted by either. -/
theorem count_node (hshared : SharedSnapshots candidates)
    (hpicks : ∀ pick ∈ picks,
      pick.candidate ∈ candidates.row pick.request.requestId)
    {requestId : RequestId} {c : RouteCandidate}
    (hc : c ∈ candidates.row requestId) :
    (picks.map fun pick => pick.candidate.node).count c.node
      = received picks c.node.nodeId := by
  unfold received
  rw [List.count_eq_countP, List.count_eq_countP, List.countP_map,
    List.countP_map]
  refine List.countP_congr fun pick hpick => ?_
  rw [Function.comp_apply, Function.comp_apply, beq_iff_eq, beq_iff_eq]
  constructor
  · exact congrArg NodeRoutingState.nodeId
  · exact hshared _ _ (hpicks pick hpick) _ _ hc

/-- The load of the moment is the one the picks show. -/
theorem load_eq (h : SameNodes candidates)
    (hanswers : AnswersGroup p.costModel requests candidates picks
      s.assignments)
    {requestId : RequestId} {c : RouteCandidate}
    (hc : c ∈ candidates.row requestId) :
    Greedy.load loadBefore (picks.map fun pick => pick.candidate.node) c.node
      = loadAfter picks c.node := by
  unfold Greedy.load loadBefore loadAfter
  rw [count_node h.shared (fun pick hpick =>
    mem_of_mem_eligible (hanswers.eligible pick hpick)) hc]

theorem After.init (p : LeastLoadPolicy) (candidates : CandidateMatrix) :
    p.After candidates [] [] ⟨.empty, .empty⟩ where
  answers := .nil _ _
  active := fun _ _ _ => (add_zero _).symm
  greedy := .nil

/-- The defaults change no count. -/
theorem After.defaults (h : p.After candidates requests picks s)
    (hsame : SameNodes candidates) (request : SchedulerRequest) :
    p.After candidates requests picks
      { s with
        active := withDefaults (eligible (candidates.row request.requestId))
          s.active } where
  answers := h.answers
  active := by
    intro requestId c hc
    refine (PyDict.getD_foldl_setDefault ?_ _).trans (h.active requestId c hc)
    intro item hitem hid
    rw [hsame.shared _ item (mem_of_mem_eligible hitem) _ c hc hid]
  greedy := h.greedy

/-- A node with a default has its count. -/
theorem After.get_defaults (h : p.After candidates requests picks s)
    (hsame : SameNodes candidates) {request : SchedulerRequest}
    {item : RouteCandidate}
    (hitem : item ∈ eligible (candidates.row request.requestId)) :
    (withDefaults (eligible (candidates.row request.requestId)) s.active).get
      item.node.nodeId
      = some (item.node.routerActiveRequests
        + received picks item.node.nodeId) := by
  obtain ⟨count, hcount⟩ := exists_get_withDefaults hitem s.active
  have hvalue := (h.defaults hsame request).active _ item
    (mem_of_mem_eligible hitem)
  rw [hcount, Option.getD_some] at hvalue
  rw [hcount, hvalue]

/-- A pick of a candidate that is least among those of its row. -/
theorem After.pick (h : p.After candidates requests picks s)
    (hsame : SameNodes candidates) {request : SchedulerRequest}
    {item : RouteCandidate}
    (hitem : item ∈ eligible (candidates.row request.requestId))
    (hget : s.active.get item.node.nodeId
      = some (item.node.routerActiveRequests
        + received picks item.node.nodeId))
    (hleast : ∀ c ∈ eligible (candidates.row request.requestId),
      loadAfter picks item.node ≤ loadAfter picks c.node) :
    p.After candidates (requests ++ [request])
      (picks ++ [⟨request, item⟩])
      ⟨s.active.modify item.node.nodeId (· + 1),
        s.assignments.set request.requestId
          (p.costModel.assignment request item 0 none)⟩ where
  answers := h.answers.pick hitem
  active := by
    intro requestId c hc
    rw [PyDict.get_modify, received_append]
    by_cases hid : c.node.nodeId = item.node.nodeId
    · have hnode : c.node = item.node :=
        hsame.shared _ _ hc _ _ (mem_of_mem_eligible hitem) hid
      have hone : received [⟨request, item⟩] item.node.nodeId = 1 :=
        received_singleton_self ⟨request, item⟩
      rw [hnode, if_pos rfl, hget, hone, Nat.cast_add, Nat.cast_one]
      exact add_assoc _ _ _
    · rw [if_neg hid, h.active _ _ hc,
        received_singleton_of_ne ⟨request, item⟩ hid, Nat.add_zero]
  greedy := by
    rw [List.map_append]
    refine h.greedy.snoc fun node hnode => ?_
    obtain ⟨requestId, c, hc, rfl⟩ := hnode
    -- the node is eligible in this row as well
    obtain ⟨c', hc', hnode⟩ := hsame.eligible_node hc
      (List.ne_nil_of_mem (mem_of_mem_eligible hitem))
    rw [load_eq hsame h.answers (mem_of_mem_eligible hitem),
      load_eq hsame h.answers (mem_of_mem_eligible hc), ← hnode]
    exact hleast c' hc'

/-- One request: it is passed over, or it is one pick more. -/
theorem After.assign (h : p.After candidates requests picks s)
    (hsame : SameNodes candidates) (request : SchedulerRequest) :
    ∃ s' picks', p.assign candidates s request = some s'
      ∧ p.After candidates (requests ++ [request]) picks' s' := by
  rcases p.assign_cases s rfl with
    ⟨hnone, hassign⟩ | ⟨item, hitem, hassign, hleast⟩
  · exact ⟨s, picks, hassign, h.answers.skip (eligible_eq_nil.mp hnone),
      h.active, h.greedy⟩
  · have hitemGet := h.get_defaults hsame hitem
    refine ⟨_, _, hassign, (h.defaults hsame request).pick hsame hitem
      hitemGet fun c hc => ?_⟩
    have hle := hleast c hc _ _ hitemGet (h.get_defaults hsame hc)
    unfold loadAfter
    push_cast at hle
    linarith

/-- The loop over a group. -/
theorem exists_after (p : LeastLoadPolicy) (hsame : SameNodes candidates)
    (requests : List SchedulerRequest) :
    ∃ s picks, requests.foldlM (p.assign candidates) ⟨.empty, .empty⟩ = some s
      ∧ p.After candidates requests picks s := by
  induction requests using List.reverseRecOn with
  | nil => exact ⟨_, [], rfl, .init p candidates⟩
  | append_singleton requests request ih =>
      obtain ⟨s, picks, hs, hafter⟩ := ih
      obtain ⟨s', picks', hs', hafter'⟩ := hafter.assign hsame request
      refine ⟨s', picks', ?_, hafter'⟩
      rw [List.foldlM_append, hs]
      show (p.assign candidates s request).bind some = some s'
      rw [hs']
      rfl

/-- After a group, a node that received a request carries at most one more
than any eligible node. -/
theorem After.loadAfter_le (h : p.After candidates requests picks s)
    (hsame : SameNodes candidates) {requestId requestId' : RequestId}
    {i j : RouteCandidate} (hi : i ∈ eligible (candidates.row requestId))
    (hj : j ∈ eligible (candidates.row requestId'))
    (hreceived : 0 < received picks i.node.nodeId) :
    loadAfter picks i.node ≤ loadAfter picks j.node + 1 := by
  have hmem : i.node ∈ picks.map fun pick => pick.candidate.node := by
    rw [← List.count_pos_iff, count_node hsame.shared (fun pick hpick =>
      mem_of_mem_eligible (h.answers.eligible pick hpick))
      (mem_of_mem_eligible hi)]
    exact hreceived
  rw [← load_eq hsame h.answers (mem_of_mem_eligible hi),
    ← load_eq hsame h.answers (mem_of_mem_eligible hj)]
  exact h.greedy.load_le hmem ⟨requestId', j, hj, rfl⟩

end Loop

end LeastLoadPolicy

/-- The least-load policy fills a group in evenly. Where the rows show the
same nodes, the requests whose row is not empty are each given an eligible
candidate, and in the end a node that received one of them carries at most
one more than any eligible node. The load is what the node's snapshot shows
and what it received. The assignments are those of the call, if it
returns. -/
theorem least_load_fills_evenly (p : LeastLoadPolicy)
    (requests : List SchedulerRequest) (candidates : CandidateMatrix)
    (hsame : SameNodes candidates) :
    ∃ assignments picks,
      p.selectBatch requests candidates = some assignments
        ∧ Fault.Returns (p.selectBatchOrRaise requests candidates) assignments
        ∧ AnswersGroup p.costModel requests candidates picks assignments
        ∧ ((requests.map (·.requestId)).Nodup → ∀ nodeId,
          (assignments.values.map fun a => a.candidate.node.nodeId).count
            nodeId = received picks nodeId)
        ∧ ∀ requestId, ∀ i ∈ eligible (candidates.row requestId),
          ∀ requestId', ∀ j ∈ eligible (candidates.row requestId'),
            0 < received picks i.node.nodeId →
              LeastLoadPolicy.loadAfter picks i.node
                ≤ LeastLoadPolicy.loadAfter picks j.node + 1 := by
  obtain ⟨s, picks, hs, hafter⟩ := p.exists_after hsame requests
  have hselect : p.selectBatch requests candidates = some s.assignments := by
    unfold LeastLoadPolicy.selectBatch
    rw [hs]
    rfl
  refine ⟨s.assignments, picks, hselect, ?_, hafter.answers,
    hafter.answers.count_values, ?_⟩
  · intro assignments hok
    obtain ⟨hreturned, -⟩ := p.selectBatchOrRaise_ok hok
    exact Option.some.inj (hreturned.symm.trans hselect)
  · intro requestId i hi requestId' j hj hreceived
    exact hafter.loadAfter_le hsame hi hj hreceived

/-- Two requests for two nodes. -/
theorem least_load_two_nodes :
    ∃ assignments picks,
      ({ costModel := {} } : LeastLoadPolicy).selectBatch
          (["r", "q"].map sixBlockRequest)
          (blockMatrix ["a", "b"] ["r", "q"]) = some assignments
        ∧ ∀ nodeId, (assignments.values.map fun a =>
          a.candidate.node.nodeId).count nodeId = received picks nodeId := by
  obtain ⟨assignments, picks, hselect, -, -, hcount, -⟩ :=
    least_load_fills_evenly { costModel := {} }
      (["r", "q"].map sixBlockRequest) (blockMatrix ["a", "b"] ["r", "q"])
      ((KareserveTracker.Keyed.init _).sameNodes _ _ _)
  exact ⟨assignments, picks, hselect, hcount (by decide)⟩

-- ========================================================= round robin

/-- The eligible nodes of a request, in order. -/
def sortedNodes (candidates : CandidateMatrix) (requestId : RequestId) :
    List NodeId :=
  (sortedEligible candidates requestId).map fun item => item.node.nodeId

/-- Where rows are kept by node, a row has every node once. -/
theorem KeyedByNode.nodup_row {candidates : CandidateMatrix}
    (h : KeyedByNode candidates) (requestId : RequestId) :
    ((candidates.row requestId).map fun item => item.node.nodeId).Nodup := by
  unfold CandidateMatrix.row
  cases hget : candidates.get requestId with
  | none => exact List.nodup_nil
  | some byNode =>
      have hkeys : byNode.values.map (fun item => item.node.nodeId)
          = byNode.keys := by
        unfold PyDict.values PyDict.keys
        rw [List.map_map]
        refine List.map_congr_left fun item hitem => ?_
        exact h requestId byNode hget item.1 item.2
          (PyDict.get_eq_some_iff.mpr hitem)
      rw [Option.getD_some, hkeys]
      exact byNode.nodup

theorem eligible_sublist (values : List RouteCandidate) :
    (eligible values).Sublist values := by
  unfold eligible
  dsimp only
  split
  · exact .refl _
  · exact List.filter_sublist

/-- The order of the turns has every node once. -/
theorem KeyedByNode.nodup_sortedNodes {candidates : CandidateMatrix}
    (h : KeyedByNode candidates) (requestId : RequestId) :
    (sortedNodes candidates requestId).Nodup := by
  unfold sortedNodes sortedEligible
  rw [((perm_sortBy _ _).map _).nodup_iff]
  exact ((eligible_sublist _).map _).nodup (h.nodup_row requestId)

/-- The eligible nodes in order are a matter of the set of them. -/
theorem KeyedByNode.sortedNodes_eq {candidates : CandidateMatrix}
    (h : KeyedByNode candidates) {requestId : RequestId}
    {nodes : Finset NodeId}
    (hnodes : ((eligible (candidates.row requestId)).map
      fun item => item.node.nodeId).toFinset = nodes) :
    sortedNodes candidates requestId = nodes.sort (· ≤ ·) := by
  have hperm : (sortedNodes candidates requestId).Perm
      ((eligible (candidates.row requestId)).map
        fun item => item.node.nodeId) :=
    (perm_sortBy _ _).map _
  rw [← hnodes, ← List.toFinset_eq_of_perm _ _ hperm]
  refine ((List.toFinset_sort (· ≤ ·) (h.nodup_sortedNodes requestId)).mpr
    ?_).symm
  exact List.pairwise_map.mpr (pairwise_sortBy _ _)

namespace RoundRobinPolicy

/-- `select_batch` for one group after another. -/
def selectBatches (p : RoundRobinPolicy) :
    List (List SchedulerRequest × CandidateMatrix) →
      List (PyDict RequestId RouteAssignment)
  | [] => []
  | (requests, candidates) :: calls =>
      let answer := p.selectBatch requests candidates
      answer.2 :: answer.1.selectBatches calls

/-- The groups of a run have the same eligible nodes. -/
structure SameEligible (nodes : Finset NodeId)
    (calls : List (List SchedulerRequest × CandidateMatrix)) : Prop where
  keyed : ∀ call ∈ calls, KeyedByNode call.2
  same : ∀ call ∈ calls, ∀ request ∈ call.1,
    call.2.row request.requestId ≠ [] →
      ((eligible (call.2.row request.requestId)).map
        fun item => item.node.nodeId).toFinset = nodes

/-- The loop after some requests: the index has moved on with every pick,
and the picks take turns. -/
structure After (p : RoundRobinPolicy) (slots : List NodeId)
    (candidates : CandidateMatrix) (requests : List SchedulerRequest)
    (picks : List Pick)
    (s : RoundRobinPolicy × PyDict RequestId RouteAssignment) : Prop where
  costModel : s.1.costModel = p.costModel
  nextIndex : s.1.nextIndex = p.nextIndex + picks.length
  answers : AnswersGroup p.costModel requests candidates picks s.2
  rotates : Rotates slots p.nextIndex (picks.map Pick.nodeId)

section Loop

variable {p : RoundRobinPolicy} {slots : List NodeId}
  {candidates : CandidateMatrix} {requests : List SchedulerRequest}
  {picks : List Pick}
  {s : RoundRobinPolicy × PyDict RequestId RouteAssignment}

theorem After.init (p : RoundRobinPolicy) (slots : List NodeId)
    (candidates : CandidateMatrix) :
    p.After slots candidates [] [] (p, .empty) where
  costModel := rfl
  nextIndex := rfl
  answers := .nil _ _
  rotates := trivial

/-- One request: it is passed over, or it has the next turn. -/
theorem After.assign (h : p.After slots candidates requests picks s)
    {request : SchedulerRequest}
    (hslots : candidates.row request.requestId ≠ [] →
      sortedNodes candidates request.requestId = slots) :
    ∃ picks', p.After slots candidates (requests ++ [request]) picks'
      (RoundRobinPolicy.assign candidates s request) := by
  unfold RoundRobinPolicy.assign
  dsimp only
  split
  · rename_i hnone
    exact ⟨picks, h.costModel, h.nextIndex,
      h.answers.skip (sortedEligible_eq_none hnone), h.rotates⟩
  · rename_i candidate hsome
    have hmem := mem_sortedEligible.mp (List.mem_of_getElem? hsome)
    have hrow := List.ne_nil_of_mem (mem_of_mem_eligible hmem)
    refine ⟨picks ++ [⟨request, candidate⟩], h.costModel, ?_, ?_, ?_⟩
    · rw [List.length_append, List.length_singleton, ← Nat.add_assoc,
        ← h.nextIndex]
    · rw [h.costModel]
      exact h.answers.pick hmem
    · rw [List.map_append]
      refine h.rotates.append (.singleton ?_)
      rw [List.length_map, ← h.nextIndex, ← hslots hrow]
      unfold sortedNodes
      rw [List.length_map, List.getElem?_map, hsome]
      rfl

/-- The loop over a group. -/
theorem exists_after (p : RoundRobinPolicy)
    (hslots : ∀ request ∈ requests,
      candidates.row request.requestId ≠ [] →
        sortedNodes candidates request.requestId = slots) :
    ∃ picks, p.After slots candidates requests picks
      (p.selectBatch requests candidates) := by
  unfold selectBatch
  induction requests using List.reverseRecOn with
  | nil => exact ⟨[], .init p slots candidates⟩
  | append_singleton requests request ih =>
      obtain ⟨picks, hafter⟩ := ih fun request hmem =>
        hslots request (List.mem_append_left _ hmem)
      rw [List.foldl_append]
      exact hafter.assign (hslots request
        (List.mem_append_right _ (List.mem_singleton.mpr rfl)))

end Loop

/-- The groups of a run are answered with picks that take turns from the
first group to the last. -/
theorem exists_groups {nodes : Finset NodeId}
    {calls : List (List SchedulerRequest × CandidateMatrix)}
    (h : SameEligible nodes calls) (p : RoundRobinPolicy) :
    ∃ groups : List (List Pick),
      (p.selectBatches calls).length = calls.length
        ∧ List.Forall₂
          (fun call picks =>
            AnswersGroup p.costModel call.1.1 call.1.2 picks call.2)
          (calls.zip (p.selectBatches calls)) groups
        ∧ Rotates (nodes.sort (· ≤ ·)) p.nextIndex
          (groups.flatten.map Pick.nodeId) := by
  induction calls generalizing p with
  | nil => exact ⟨[], rfl, .nil, trivial⟩
  | cons call calls ih =>
      obtain ⟨requests, candidates⟩ := call
      have hhead : (requests, candidates) ∈ (requests, candidates) :: calls :=
        List.mem_cons_self ..
      obtain ⟨picks, hafter⟩ := p.exists_after fun request hmem hrow =>
        (h.keyed _ hhead).sortedNodes_eq (h.same _ hhead request hmem hrow)
      obtain ⟨groups, hlength, hgroups, hrotates⟩ := ih
        ⟨fun call hcall => h.keyed call (List.mem_cons_of_mem _ hcall),
          fun call hcall => h.same call (List.mem_cons_of_mem _ hcall)⟩
        (p.selectBatch requests candidates).1
      rw [hafter.costModel] at hgroups
      rw [hafter.nextIndex] at hrotates
      refine ⟨picks :: groups, ?_, .cons hafter.answers hgroups, ?_⟩
      · unfold selectBatches
        dsimp only
        rw [List.length_cons, List.length_cons, hlength]
      · rw [List.flatten_cons, List.map_append]
        refine hafter.rotates.append ?_
        rw [List.length_map]
        exact hrotates

end RoundRobinPolicy

/-- `select_batch` for one group after another, whatever the calls before
have raised. -/
def RoundRobinPolicy.selectBatchesOrRaise (p : RoundRobinPolicy) :
    List (List SchedulerRequest × CandidateMatrix) →
      List (Except PyException (PyDict RequestId RouteAssignment))
  | [] => []
  | (requests, candidates) :: calls =>
      let answer := p.selectBatchOrRaise requests candidates
      answer.2 :: answer.1.selectBatchesOrRaise calls

/-- The nodes that were given a request, call by call. -/
def nodesGiven
    (answers : List (Except PyException (PyDict RequestId RouteAssignment))) :
    List NodeId :=
  answers.flatMap fun answer =>
    match answer with
    | .ok assignments =>
        assignments.values.map fun a => a.candidate.node.nodeId
    | .error _ => []

/-- A run of which no call raises. -/
theorem RoundRobinPolicy.selectBatchesOrRaise_eq_ok (p : RoundRobinPolicy)
    {calls : List (List SchedulerRequest × CandidateMatrix)}
    (hprices : ∀ call ∈ calls, PricesRows p.costModel call.1 call.2) :
    p.selectBatchesOrRaise calls = (p.selectBatches calls).map .ok := by
  induction calls generalizing p with
  | nil => rfl
  | cons call calls ih =>
      obtain ⟨requests, candidates⟩ := call
      have hcall := selectBatchOrRaise_eq_ok
        (hprices (requests, candidates) (List.mem_cons_self ..))
      have hmodel := (p.selectBatch_assigns requests candidates).1
      unfold selectBatchesOrRaise selectBatches
      dsimp only
      rw [hcall, List.map_cons]
      refine congrArg _ (ih (p.selectBatch requests candidates).1 ?_)
      intro call hmem
      rw [hmodel]
      exact hprices call (List.mem_cons_of_mem _ hmem)

/-- Round robin stays balanced from group to group as long as every request
can be priced. Where every row that is not empty has the same eligible
nodes, all calls return, the requests whose row is not empty are each given
an eligible candidate; and over the whole run, as over every contiguous
part of it, no two of the nodes differ by more than one in what they
received. -/
theorem round_robin_stays_balanced (p : RoundRobinPolicy)
    (nodes : Finset NodeId)
    (calls : List (List SchedulerRequest × CandidateMatrix))
    (hsame : RoundRobinPolicy.SameEligible nodes calls)
    (hprices : ∀ call ∈ calls, PricesRows p.costModel call.1 call.2) :
    ∃ answers, ∃ groups : List (List Pick),
      p.selectBatchesOrRaise calls = answers.map .ok
        ∧ answers.length = calls.length
        ∧ List.Forall₂
          (fun call picks =>
            AnswersGroup p.costModel call.1.1 call.1.2 picks call.2
              ∧ ((call.1.1.map (·.requestId)).Nodup → ∀ nodeId,
                (call.2.values.map fun a => a.candidate.node.nodeId).count
                  nodeId = received picks nodeId))
          (calls.zip answers) groups
        ∧ ∀ part, part <:+: groups.flatten → ∀ i ∈ nodes, ∀ j ∈ nodes,
          received part i ≤ received part j + 1 := by
  obtain ⟨groups, hlength, hgroups, hrotates⟩ :=
    RoundRobinPolicy.exists_groups hsame p
  refine ⟨p.selectBatches calls, groups,
    p.selectBatchesOrRaise_eq_ok hprices, hlength, ?_, ?_⟩
  · exact hgroups.imp fun call picks hanswers =>
      ⟨hanswers, hanswers.count_values⟩
  · intro part hpart i hi j hj
    obtain ⟨start, hpartRotates⟩ := hrotates.of_infix (hpart.map Pick.nodeId)
    exact hpartRotates.count_le (nodes.sort_nodup (· ≤ ·))
      ((nodes.mem_sort (· ≤ ·)).mpr hi) ((nodes.mem_sort (· ≤ ·)).mpr hj)

/-- Two groups for two nodes, with a request without a row between. -/
theorem round_robin_two_groups :
    let calls := [(["r", "x", "q"].map sixBlockRequest,
        blockMatrix ["a", "b"] ["r", "q"]),
      (["s"].map sixBlockRequest, blockMatrix ["b", "a"] ["s"])]
    ∃ answers, ∃ groups : List (List Pick),
      ({ costModel := {} } : RoundRobinPolicy).selectBatchesOrRaise calls
          = answers.map .ok
        ∧ List.Forall₂
          (fun call picks => AnswersGroup {} call.1.1 call.1.2 picks call.2)
          (calls.zip answers) groups
        ∧ ∀ part, part <:+: groups.flatten →
          received part "a" ≤ received part "b" + 1 := by
  intro calls
  have hsame : RoundRobinPolicy.SameEligible {"a", "b"} calls := by
    constructor
    · intro call hcall
      rcases List.mem_pair.mp hcall with rfl | rfl
      · exact (KareserveTracker.Keyed.init _).keyedByNode
      · exact (KareserveTracker.Keyed.init _).keyedByNode
    · intro call hcall
      rcases List.mem_pair.mp hcall with rfl | rfl
      · decide +kernel
      · decide +kernel
  obtain ⟨answers, groups, hreturned, -, hgroups, hbalanced⟩ :=
    round_robin_stays_balanced { costModel := {} } {"a", "b"} calls hsame
      (by decide +kernel)
  exact ⟨answers, groups, hreturned, hgroups.imp fun _ _ h => h.1,
    fun part hpart => hbalanced part hpart "a" (by decide) "b" (by decide)⟩

/-- Three calls for two nodes, of which the second raises after the index
has moved on: one node is given both requests that are answered. -/
theorem round_robin_skips_a_turn :
    let t := KareserveTracker.init (["a", "b"].map tenBlockNode)
    let calls := [sixBlockRequest "q", endlessRequest, sixBlockRequest "s"].map
      fun request => ([request], t.buildRouteCandidates [request] 16 none)
    RoundRobinPolicy.SameEligible {"a", "b"} calls
      ∧ nodesGiven (({ costModel := {} } : RoundRobinPolicy
        ).selectBatchesOrRaise calls) = ["a", "a"] := by
  intro t calls
  refine ⟨⟨?_, by decide +kernel⟩, by decide +kernel⟩
  intro call hcall
  obtain ⟨request, -, rfl⟩ := List.mem_map.mp hcall
  exact (KareserveTracker.Keyed.init _).keyedByNode

end Kareserve
