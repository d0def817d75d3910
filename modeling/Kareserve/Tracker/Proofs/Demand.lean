/-
How many new GPU blocks a candidate asks for.

The blocks a prompt is matched with have the sizes they were stored with;
the blocks a candidate asks for have the size `b` the node last reported.
Where `b` divides the matched length, cached and new blocks together are
the blocks of the whole sequence, and the count is exact.

A matched length is a number of blocks of one size, and that of a first
block is matched by the prompt it holds. So the count is exact for every
request exactly if `b` divides the length of every block of group 0 that
the index has at the root (`exact_demand_iff`). Nothing sees to that:
`_store_event` reports the size of a block whatever its group
(`two_groups_misreport`).

The count is the ceiling of a float. All this is for numbers that a float
counts exactly, below `2 ^ 53` (`SchedulerRequest.Countable`): there the
quotient is in range, and rounding does not move its ceiling.

Where all blocks stored have one size, the count is exact
(`exact_demand_of_one_size`).
-/
import Kareserve.Tracker.System
import Kareserve.Tracker.Proofs.Prefix
import Mathlib.Algebra.Order.Floor.Ring

namespace Kareserve

-- ======================================================= matched lengths

/-- A walk covers a number of whole blocks. -/
theorem walkPrefix_dvd (index : PyDict IndexKey BlockIdentity)
    (groupIdx : ℤ) (blockSize : ℕ+) :
    ∀ (fuel : ℕ) (tokens : List Token) (parent : Option ExternalBlockHash),
      (blockSize : ℕ) ∣ walkPrefix index groupIdx blockSize fuel tokens
        parent := by
  intro fuel
  induction fuel with
  | zero => intro tokens parent; exact dvd_zero _
  | succ fuel ih =>
      intro tokens parent
      rw [walkPrefix]
      split
      · cases index.get (groupIdx, parent, tokens.take blockSize) with
        | none => exact dvd_zero _
        | some identity => exact dvd_add (dvd_refl _) (ih _ _)
      · exact dvd_zero _

/-- A walk that gets anywhere finds a block to start with. -/
theorem walkPrefix_first {index : PyDict IndexKey BlockIdentity}
    {groupIdx : ℤ} {blockSize : ℕ+} {fuel : ℕ} {tokens : List Token}
    {parent : Option ExternalBlockHash}
    (h : walkPrefix index groupIdx blockSize fuel tokens parent ≠ 0) :
    ∃ first identity, index.get (groupIdx, parent, first) = some identity
      ∧ first.length = blockSize ∧ first.length ≤ tokens.length := by
  cases fuel with
  | zero => exact absurd rfl h
  | succ fuel =>
      rw [walkPrefix] at h
      split at h
      · rename_i hle
        cases hget : index.get (groupIdx, parent, tokens.take blockSize) with
        | none =>
            rw [hget] at h
            exact absurd rfl h
        | some identity =>
            refine ⟨tokens.take blockSize, identity, hget, ?_⟩
            rw [List.length_take]
            constructor <;> omega
      · exact absurd rfl h

/-- A float counts the tokens of a request exactly. -/
def SchedulerRequest.Countable (request : SchedulerRequest) : Prop :=
  (request.promptTokens.length : ℤ) + |request.maxTokens| < 2 ^ 53

/-- `b` divides the length of every block of group 0 that is indexed at
the root, as far as floats count. -/
def GpuCatalog.RootsDivisible (c : GpuCatalog) (b : ℤ) : Prop :=
  ∀ tokens identity, c.gpuBlockIndex.get (0, none, tokens) = some identity →
    (tokens.length : ℤ) < 2 ^ 53 → b ∣ (tokens.length : ℤ)

/-- What is matched is a multiple of `b` exactly if every first block
is. -/
theorem GpuCatalog.longestPrefix_dvd_iff {c : GpuCatalog}
    (hsizes : c.SizesCover) {b : ℤ} :
    (∀ prompt : List Token, (prompt.length : ℤ) < 2 ^ 53 →
        b ∣ (c.longestPrefix prompt : ℤ))
      ↔ c.RootsDivisible b := by
  constructor
  · intro h tokens identity hget hcounts
    obtain ⟨size, -, hlen⟩ := hsizes _ _ hget
    -- a first block is itself a prompt, and all of it is matched
    have hchain : IndexChain c.gpuBlockIndex 0 size none
        [(identity.2, tokens)] :=
      ⟨⟨hlen, identity, hget, rfl⟩, trivial⟩
    have hspells : chainTokens [(identity.2, tokens)] = tokens := by
      simp [chainTokens]
    have hcover := longestPrefix_complete hsizes hchain
      (hspells ▸ List.prefix_refl tokens)
    rw [hspells] at hcover
    have hwithin := (c.longestPrefix_sound tokens).1
    have hall : c.longestPrefix tokens = tokens.length := by omega
    have hdvd := h tokens hcounts
    rw [hall] at hdvd
    exact hdvd
  · intro h prompt hcounts
    unfold longestPrefix
    rcases c.gpuBlockSizes.eq_empty_or_nonempty with hempty | hne
    · rw [hempty, Finset.sup_empty]
      exact dvd_zero b
    -- what is matched is the best walk, which is of blocks of one size
    · obtain ⟨size, -, hsup⟩ := Finset.exists_mem_eq_sup _ hne fun size =>
        walkPrefix c.gpuBlockIndex 0 size prompt.length prompt none
      rw [hsup]
      by_cases hzero : walkPrefix c.gpuBlockIndex 0 size prompt.length prompt
          none = 0
      · rw [hzero]
        exact dvd_zero b
      -- a walk that matches anything begins with a first block
      · obtain ⟨first, identity, hget, hlen, hwithin⟩ :=
          walkPrefix_first hzero
        have hfirst := h first identity hget (by omega)
        rw [hlen] at hfirst
        exact hfirst.trans (Int.natCast_dvd_natCast.mpr
          (walkPrefix_dvd _ _ _ _ _ _))

-- ======================================================= counting blocks

/-- What is cached in whole blocks comes off the count of all blocks. -/
theorem ceil_blocks_sub {b cached total : ℤ} (hb : 0 < b) (h : b ∣ cached) :
    ⌈((total - cached : ℤ) : ℚ) / b⌉ = ⌈(total : ℚ) / b⌉ - cached / b := by
  obtain ⟨blocks, rfl⟩ := h
  have hne : (b : ℚ) ≠ 0 := Int.cast_ne_zero.mpr (ne_of_gt hb)
  have hsplit : ((total - b * blocks : ℤ) : ℚ) / b
      = (total : ℚ) / b - (blocks : ℤ) := by
    rw [Int.cast_sub, Int.cast_mul, sub_div, mul_div_cancel_left₀ _ hne]
  rw [hsplit, Int.ceil_sub_intCast, Int.mul_ediv_cancel_left _ (ne_of_gt hb)]

/-- The block size a candidate is built with. -/
def NodeState.blockSizeOr (node : NodeState) (defaultBlockSize : ℤ) : ℤ :=
  match node.gpuBlockSize with
  | none | some 0 => defaultBlockSize
  | some size => size

/-- The cached blocks and the new ones are the blocks of the sequence. -/
def RouteCandidate.ExactDemand (candidate : RouteCandidate)
    (request : SchedulerRequest) (b : ℤ) : Prop :=
  b ∣ candidate.prefixMatch.gpuPrefixTokens
    ∧ candidate.requiredNewGpuBlocks
      = some (⌈((request.promptTokens.length + request.maxTokens : ℤ) : ℚ) / b⌉
        - candidate.prefixMatch.gpuPrefixTokens / b)

/-- What a countable request needs is counted exactly. -/
theorem SchedulerRequest.Countable.abs_requiredTokens_lt
    {request : SchedulerRequest} (h : request.Countable)
    {gpuPrefixTokens : ℤ} (hnonneg : 0 ≤ gpuPrefixTokens) :
    |request.requiredTokens gpuPrefixTokens| < 2 ^ 53 :=
  lt_of_le_of_lt (request.abs_requiredTokens_le hnonneg) h

/-- The tokens of a countable request are far inside a float's range. -/
theorem SchedulerRequest.Countable.fits {request : SchedulerRequest}
    (h : request.Countable) :
    ((request.promptTokens.length + |request.maxTokens| : ℤ) : ℚ)
      < PyJson.Float.limit := by
  have hlimit : ((2 ^ 53 : ℤ) : ℚ) < PyJson.Float.limit := by decide +kernel
  exact lt_trans (Int.cast_lt.mpr h) hlimit

/-- The blocks of a candidate: rounding has not moved their number. -/
theorem NodeEntry.routeCandidate_required (e : NodeEntry)
    (status : CatalogStatus) {request : SchedulerRequest}
    (hcounts : request.Countable) {defaultBlockSize : ℤ}
    (externalMatch : Option PrefixMatch)
    (hhealthy : e.gpuCatalogStatus = .healthy)
    (hpos : 0 < e.node.blockSizeOr defaultBlockSize)
    (hsize : e.node.blockSizeOr defaultBlockSize < 2 ^ 53) :
    (e.routeCandidate (e.routingState status) request defaultBlockSize
        externalMatch).requiredNewGpuBlocks
      = some ⌈(request.requiredTokens
          (e.catalog.longestPrefix request.promptTokens) : ℚ)
        / e.node.blockSizeOr defaultBlockSize⌉ := by
  have hrequired := hcounts.abs_requiredTokens_lt
    (e.eventMatch_nonneg (e.routingState status) request)
  have hceil := Rounding.ceil_round_div (f := Rounding.binary64) hpos
    hrequired hsize
  have hgpu := e.eventMatch_gpuPrefixTokens status request
  rw [if_pos hhealthy] at hgpu
  rw [← hgpu, ← hceil]
  exact if_pos hpos

/-- A multiple of the block size is all it takes. -/
theorem NodeEntry.exactDemand_iff (e : NodeEntry) (status : CatalogStatus)
    (hhealthy : e.gpuCatalogStatus = .healthy) {request : SchedulerRequest}
    (hcounts : request.Countable) {defaultBlockSize : ℤ}
    (externalMatch : Option PrefixMatch)
    (hpos : 0 < e.node.blockSizeOr defaultBlockSize)
    (hsize : e.node.blockSizeOr defaultBlockSize < 2 ^ 53) :
    (e.routeCandidate (e.routingState status) request defaultBlockSize
        externalMatch).ExactDemand request
        (e.node.blockSizeOr defaultBlockSize)
      ↔ e.node.blockSizeOr defaultBlockSize
        ∣ (e.catalog.longestPrefix request.promptTokens : ℤ) := by
  have hgpu := e.routeCandidate_gpuPrefixTokens status request
    defaultBlockSize externalMatch
  rw [if_pos hhealthy] at hgpu
  have hwithin := (e.catalog.longestPrefix_sound request.promptTokens).1
  unfold RouteCandidate.ExactDemand
  rw [e.routeCandidate_required status hcounts externalMatch hhealthy hpos
    hsize, hgpu]
  refine and_iff_left_of_imp fun hdvd => ?_
  rw [← ceil_blocks_sub hpos hdvd]
  unfold SchedulerRequest.requiredTokens
  congr 4
  omega

-- ============================================================== the runs

/-- The candidates of countable requests are built, and those of a node ask
for exactly the blocks each request needs. -/
def KareserveTracker.DemandExact (t : KareserveTracker) (nodeId : NodeId)
    (defaultBlockSize b : ℤ) : Prop :=
  ∀ requests externalMatches, (∀ request ∈ requests, request.Countable) →
    ∃ candidates, t.buildRouteCandidatesOrRaise requests defaultBlockSize
        externalMatches = .ok candidates
      ∧ ∀ requestId byNode candidate,
        candidates.get requestId = some byNode →
        byNode.get nodeId = some candidate →
        ∃ request ∈ requests, request.requestId = requestId
          ∧ candidate.ExactDemand request b

/-- The demand of one node, for every request: `b` has to divide what each of
them matches, which is what it matches at the root. -/
theorem KareserveTracker.demandExact_iff {t : KareserveTracker}
    {nodeId : NodeId} {e : NodeEntry} (hget : t.entries.get nodeId = some e)
    (hhealthy : e.gpuCatalogStatus = .healthy) (hsizes : e.catalog.SizesCover)
    {defaultBlockSize : ℤ} (hpos : 0 < e.node.blockSizeOr defaultBlockSize)
    (hsize : e.node.blockSizeOr defaultBlockSize < 2 ^ 53) :
    t.DemandExact nodeId defaultBlockSize (e.node.blockSizeOr defaultBlockSize)
      ↔ e.catalog.RootsDivisible (e.node.blockSizeOr defaultBlockSize) := by
  rw [← GpuCatalog.longestPrefix_dvd_iff hsizes]
  constructor
  · intro h prompt hprompt
    -- any prompt can be asked for, alone and without output
    let request : SchedulerRequest := ⟨"", prompt, 0⟩
    have hcounts : ∀ request' ∈ [request], request'.Countable := by
      intro request' hrequest'
      rw [List.mem_singleton] at hrequest'
      rw [hrequest']
      show (prompt.length : ℤ) + |0| < 2 ^ 53
      rwa [abs_zero, add_zero]
    obtain ⟨candidates, hbuilt, hexact⟩ := h [request] none hcounts
    rw [t.buildRouteCandidatesOrRaise_eq_ok fun request hrequest =>
      (hcounts request hrequest).fits] at hbuilt
    injection hbuilt with hbuilt
    obtain ⟨byNode, hbyNode⟩ := t.buildRouteCandidates_known
      (List.mem_singleton.mpr rfl : request ∈ [request]) defaultBlockSize none
    obtain ⟨asked, hasked, -, candidate, hcandidate, hgpu⟩ :=
      buildRouteCandidates_gpuPrefix hget hbyNode
    obtain ⟨asked', hasked', -, hdemand⟩ :=
      hexact request.requestId byNode candidate (hbuilt ▸ hbyNode) hcandidate
    rw [List.mem_singleton] at hasked
    rw [hasked, if_pos hhealthy] at hgpu
    have hdvd := hdemand.1
    rw [hgpu] at hdvd
    exact hdvd
  · intro h requests externalMatches hcounts
    refine ⟨_, t.buildRouteCandidatesOrRaise_eq_ok
      (fun request hrequest => (hcounts request hrequest).fits) _ _,
      fun requestId byNode candidate hbyNode hcandidate => ?_⟩
    -- every candidate is one request's, at this node
    have hmem := PyDict.mem_of_get_ofList hbyNode
    obtain ⟨request, hrequest, heq⟩ := List.mem_map.mp hmem
    injection heq with hid hrow
    rw [← hrow, PyDict.get_map, hget] at hcandidate
    injection hcandidate with hcandidate
    have hcount := hcounts request hrequest
    refine ⟨request, hrequest, hid, ?_⟩
    rw [← hcandidate, e.exactDemand_iff _ hhealthy hcount _ hpos hsize]
    apply h request.promptTokens
    have hnonneg := abs_nonneg request.maxTokens
    unfold SchedulerRequest.Countable at hcount
    omega

section Decode

variable {decode : Bytes → Option RawMapEventBatch}
  {replayEndpoint : NodeId → Bool}

/-- An entry that a run of its listener leaves has its sizes covered. -/
theorem Listener.run_sizesCover {replay : Bool} {l l' : Listener}
    {events : List NodeEvent}
    (hrun : Lts.run (Listener.step decode replay) l events = some l')
    (h : ∃ history, Refines decode l.entry history) :
    l'.entry.catalog.SizesCover := by
  have hrefines : ∃ history, Refines decode l'.entry history := by
    refine Lts.run_preserves (I := fun l => ∃ history,
      Refines decode l.entry history) ?_ h hrun
    rintro l event l' ⟨history, hrefines⟩ hstep
    exact ⟨_, hrefines.step hstep⟩
  obtain ⟨history, hrefines⟩ := hrefines
  rw [hrefines.catalog]
  exact GpuCatalog.sizesCover_applyPayloads decode _

/-- In every run of the system. -/
theorem System.run_sizesCover {initialNodes : List NodeState}
    {events : List SystemEvent} {s : System}
    (hrun : Lts.run (System.step decode replayEndpoint)
      (.init replayEndpoint initialNodes) events = some s)
    {nodeId : NodeId} {e : NodeEntry}
    (hget : s.tracker.entries.get nodeId = some e) :
    e.catalog.SizesCover := by
  have hlistener : s.listener nodeId = some ⟨e, s.control nodeId⟩ := by
    unfold System.listener
    rw [hget]
    rfl
  cases hstart : (System.init replayEndpoint initialNodes).listener nodeId with
  | none =>
      rw [System.run_unknown hrun hstart] at hlistener
      cases hlistener
  | some l =>
      obtain ⟨node, -, -, hfresh⟩ := System.init_listener hstart
      obtain ⟨l', hl', hnode⟩ := System.run_node hrun hstart
      rw [hlistener] at hl'
      injection hl' with hl'
      rw [hfresh] at hnode
      have hcover := Listener.run_sizesCover hnode ⟨[], refines_fresh node⟩
      rw [← hl'] at hcover
      exact hcover

/-- In every state the system reaches, whatever events the nodes publish,
a healthy node whose candidates are built with block size `b` is asked for
exactly the blocks each request needs if and only if `b` divides the
length of every block of group 0 that the node's index has at the root;
block sizes and requests are those a float counts exactly. -/
theorem exact_demand_iff {initialNodes : List NodeState}
    {events : List SystemEvent} {s : System}
    (hrun : Lts.run (System.step decode replayEndpoint)
      (.init replayEndpoint initialNodes) events = some s)
    {nodeId : NodeId} {e : NodeEntry}
    (hget : s.tracker.entries.get nodeId = some e)
    (hhealthy : e.gpuCatalogStatus = .healthy) (defaultBlockSize b : ℤ)
    (hb : e.node.blockSizeOr defaultBlockSize = b) (hpos : 0 < b)
    (hsize : b < 2 ^ 53) :
    s.tracker.DemandExact nodeId defaultBlockSize b
      ↔ e.catalog.RootsDivisible b := by
  subst hb
  exact KareserveTracker.demandExact_iff hget hhealthy
    (System.run_sizesCover hrun hget) hpos hsize

end Decode

-- ============================================================== one size

/-- Every block an event stores has size `size`. -/
def RawMapEvent.Stores (size : ℕ+) : RawMapEvent → Prop
  | .blockStored event => ∀ stored, event.storedSize = some stored → stored = size
  | _ => True

/-- Every indexed block has size `size`, and that is the size the node
reports. -/
def NodeEntry.OneSize (e : NodeEntry) (size : ℕ+) : Prop :=
  ∀ key identity, e.catalog.gpuBlockIndex.get key = some identity →
    key.2.2.length = (size : ℕ) ∧ e.node.gpuBlockSize = some (size : ℤ)

theorem RawMapBlockStored.storedSize_eq {event : RawMapBlockStored}
    {size : ℕ+} (h : event.storedSize = some size) :
    event.blockSize = (size : ℤ) := by
  unfold storedSize at h
  split at h
  · injection h with h
    rw [← h]
    show event.blockSize = (event.blockSize.toNat : ℤ)
    omega
  · cases h

/-- What the store loop indexes has the size it stores. -/
theorem storeBlocks_index {groupIdx : ℤ} {blockSize : ℕ+} {key : IndexKey} :
    ∀ (hashes : List ExternalBlockHash) {tokens : List Token}
      {parent : Option ExternalBlockHash} {c : GpuCatalog}
      {identity : BlockIdentity},
      (storeBlocks groupIdx blockSize hashes tokens parent c
        ).1.gpuBlockIndex.get key = some identity →
      key.2.2.length = (blockSize : ℕ)
        ∨ ∃ earlier, c.gpuBlockIndex.get key = some earlier := by
  intro hashes
  induction hashes with
  | nil => intro tokens parent c identity h; exact Or.inr ⟨identity, h⟩
  | cons blockHash hashes ih =>
      intro tokens parent c identity h
      rw [storeBlocks] at h
      by_cases hlen : (tokens.take blockSize).length = (blockSize : ℕ)
      · simp only [hlen, ne_eq, not_true_eq_false, if_false] at h
        rcases ih h with hsize | ⟨earlier, hearlier⟩
        · exact Or.inl hsize
        · simp only [GpuCatalog.storeBlock, PyDict.get_set] at hearlier
          by_cases hkey : key = (groupIdx, parent, tokens.take blockSize)
          · subst hkey
            exact Or.inl hlen
          · rw [if_neg hkey] at hearlier
            exact Or.inr ⟨earlier, hearlier⟩
      · simp only [hlen, ne_eq, not_false_eq_true, if_true] at h
        exact Or.inr ⟨identity, h⟩

/-- Removing a block adds nothing to the index. -/
theorem GpuCatalog.removeBlock_index {c : GpuCatalog} {groupIdx : ℤ}
    {blockHash : ExternalBlockHash} {key : IndexKey} {identity : BlockIdentity}
    (h : (c.removeBlock groupIdx blockHash).gpuBlockIndex.get key
      = some identity) : c.gpuBlockIndex.get key = some identity := by
  unfold removeBlock at h
  cases hblock : c.gpuBlocks.get (groupIdx, blockHash) with
  | none =>
      rw [hblock] at h
      exact h
  | some block =>
      rw [hblock] at h
      dsimp only at h
      rw [PyDict.get_erase] at h
      split at h
      · cases h
      · exact h

theorem GpuCatalog.removeEvent_index {c : GpuCatalog}
    {event : RawMapBlockRemoved} {key : IndexKey} {identity : BlockIdentity}
    (h : (c.removeEvent event).gpuBlockIndex.get key = some identity) :
    c.gpuBlockIndex.get key = some identity := by
  unfold removeEvent at h
  split at h
  · generalize event.blockHashes = hashes at h
    induction hashes generalizing c with
    | nil => exact h
    | cons blockHash hashes ih => exact removeBlock_index (ih h)
  · exact h

/-- An event that stores that size only keeps to it. -/
theorem NodeEntry.OneSize.processEvent {e : NodeEntry} {size : ℕ+}
    (h : e.OneSize size) {event : RawMapEvent} (hevent : event.Stores size) :
    (e.processEvent event).OneSize size := by
  cases event with
  | allBlocksCleared =>
      intro key identity hget
      cases hget
  | blockRemoved event =>
      intro key identity hget
      exact h key identity (GpuCatalog.removeEvent_index hget)
  | blockStored event =>
      intro key identity hget
      change (e.catalog.storeEvent event).1.gpuBlockIndex.get key
        = some identity at hget
      unfold GpuCatalog.storeEvent at hget
      unfold NodeEntry.processEvent NodeEntry.storeEvent
      dsimp only
      cases hstored : event.storedSize with
      | none =>
          rw [hstored] at hget
          exact h key identity hget
      | some stored =>
          rw [hstored] at hget
          have hsize : stored = size := hevent stored hstored
          have hreported := RawMapBlockStored.storedSize_eq hstored
          subst hsize
          rw [← hreported]
          refine ⟨?_, rfl⟩
          rcases storeBlocks_index event.blockHashes hget with
            hlen | ⟨earlier, hearlier⟩
          · exact hlen
          · exact (h key earlier hearlier).1

section Decode

variable {decode : Bytes → Option RawMapEventBatch}

/-- A batch of such events. -/
theorem NodeEntry.OneSize.processRawPayload {e : NodeEntry} {size : ℕ+}
    (h : e.OneSize size) {payload : Bytes}
    (hpayload : ∀ batch, decode payload = some batch →
      ∀ event ∈ batch.events, event.Stores size) :
    (e.processRawPayload decode payload).1.OneSize size := by
  unfold NodeEntry.processRawPayload
  cases hdecode : decode payload with
  | none => exact h
  | some batch =>
      have hevents := hpayload batch hdecode
      dsimp only
      generalize batch.events = events at hevents
      induction events generalizing e with
      | nil => exact h
      | cons event events ih =>
          rw [List.forall_mem_cons] at hevents
          exact ih (h.processEvent hevents.1) hevents.2

/-- The batch that a listener applies on an event stores that size only. -/
def Listener.MoveStores (decode : Bytes → Option RawMapEventBatch)
    (replay : Bool) (size : ℕ+) (l : Listener) (event : NodeEvent) : Prop :=
  ∀ mc number payload, l.move replay event = some mc →
    mc.1.batch = some (number, payload) →
    ∀ batch, decode payload = some batch →
      ∀ event ∈ batch.events, event.Stores size

theorem NodeEntry.OneSize.applySequence {e : NodeEntry} {size : ℕ+}
    (h : e.OneSize size) (sequence : ℤ) {payload : Bytes}
    (hpayload : ∀ batch, decode payload = some batch →
      ∀ event ∈ batch.events, event.Stores size) :
    (e.applySequence decode sequence payload).OneSize size := by
  have hprocessed := h.processRawPayload hpayload
  unfold NodeEntry.applySequence
  split
  · dsimp only
    split
    · exact hprocessed
    · exact hprocessed
  · exact h

theorem NodeEntry.OneSize.act {e : NodeEntry} {size : ℕ+}
    (h : e.OneSize size) {m : Move}
    (hbatch : ∀ number payload, m.batch = some (number, payload) →
      ∀ batch, decode payload = some batch →
        ∀ event ∈ batch.events, event.Stores size) :
    (e.act decode m).OneSize size := by
  have hreset : (e.restartIf m.reset).OneSize size := by
    cases m.reset with
    | false => exact h
    | true =>
        intro key identity hget
        cases hget
  have hdegrade : (if m.degrade then (e.restartIf m.reset).degrade
      else e.restartIf m.reset).OneSize size := by
    split
    · exact hreset
    · exact hreset
  rw [NodeEntry.act_eq]
  cases hm : m.batch with
  | none => exact hdegrade
  | some batch =>
      exact hdegrade.applySequence batch.1 (hbatch batch.1 batch.2 hm)

theorem NodeEntry.OneSize.updateProcessStart {e : NodeEntry} {size : ℕ+}
    (h : e.OneSize size) (samples : List ℚ) :
    (e.updateProcessStart samples).OneSize size := by
  intro key identity hget
  rw [NodeEntry.updateProcessStart_catalog] at hget
  have hsize : (e.updateProcessStart samples).node.gpuBlockSize
      = e.node.gpuBlockSize := by
    unfold NodeEntry.updateProcessStart
    cases samples.getLast? with
    | none => rfl
    | some processStart =>
        dsimp only
        split <;> rfl
  rw [hsize]
  cases hrestart : e.startChanged samples with
  | false =>
      rw [hrestart] at hget
      exact h key identity hget
  | true =>
      rw [hrestart] at hget
      cases hget

/-- A run of the listener in which only blocks of one size are stored. -/
theorem Listener.run_oneSize {replay : Bool} {size : ℕ+} {l l' : Listener}
    {events : List NodeEvent} (h : l.entry.OneSize size)
    (hstores : Lts.Along (Listener.step decode replay)
      (Listener.MoveStores decode replay size) l events)
    (hrun : Lts.run (Listener.step decode replay) l events = some l') :
    l'.entry.OneSize size := by
  refine Lts.run_invariant (I := fun l => l.entry.OneSize size) ?_ h hstores
    hrun
  intro l event l' h hstores hstep
  cases event with
  | metrics samples =>
      injection hstep with hstep
      subst hstep
      exact h.updateProcessStart samples
  | reserve work =>
      injection hstep with hstep
      subst hstep
      exact h
  | release work =>
      injection hstep with hstep
      subst hstep
      exact h
  | _ =>
      simp only [Listener.step, Option.map_eq_some_iff] at hstep
      obtain ⟨mc, hmove, rfl⟩ := hstep
      exact h.act fun number payload => hstores mc number payload hmove

/-- Then the node is asked for exactly the blocks each request needs. -/
theorem exact_demand_of_one_size {replay : Bool} {size : ℕ+}
    {node : NodeState} {l' : Listener} {events : List NodeEvent}
    (hstores : Lts.Along (Listener.step decode replay)
      (Listener.MoveStores decode replay size) (.start replay (.fresh node))
      events)
    (hrun : Lts.run (Listener.step decode replay)
      (.start replay (.fresh node)) events = some l')
    {t : KareserveTracker} {nodeId : NodeId}
    (hget : t.entries.get nodeId = some l'.entry)
    (hhealthy : l'.entry.gpuCatalogStatus = .healthy)
    {defaultBlockSize : ℤ}
    (hpos : 0 < l'.entry.node.blockSizeOr defaultBlockSize)
    (hcounts : l'.entry.node.blockSizeOr defaultBlockSize < 2 ^ 53) :
    t.DemandExact nodeId defaultBlockSize
      (l'.entry.node.blockSizeOr defaultBlockSize) := by
  -- every event stores blocks of this size, and each reports it
  have hone : l'.entry.OneSize size := by
    refine Listener.run_oneSize ?_ hstores hrun
    intro key identity hget
    cases hget
  refine (KareserveTracker.demandExact_iff hget hhealthy
    (Listener.run_sizesCover hrun ⟨[], refines_fresh node⟩) hpos
    hcounts).mpr ?_
  intro tokens identity hroot _
  obtain ⟨hlen, hreported⟩ := hone _ _ hroot
  -- so the size that is reported is the size of the blocks
  have hsize : l'.entry.node.blockSizeOr defaultBlockSize = (size : ℤ) := by
    unfold NodeState.blockSizeOr
    rw [hreported]
    split
    · rename_i hnone
      cases hnone
    · rename_i hzero
      injection hzero with hzero
      have := size.pos
      omega
    · rename_i hsome
      injection hsome with hsome
      exact hsome.symm
  rw [hsize]
  exact Int.natCast_dvd_natCast.mpr (dvd_of_eq hlen.symm)

end Decode

-- ============================================================= two groups

/-- The msgpack of an event that stores one GPU block at the root of a
group. -/
def rootBlockEvent (blockHash groupIdx : UInt8) (tokens : List UInt8) :
    Bytes :=
  [0x87] ++ fixstr "type" ++ fixstr "BlockStored"
    ++ fixstr "block_hashes" ++ [0x91, blockHash]
    ++ fixstr "parent_block_hash" ++ [0xc0]
    ++ fixstr "token_ids" ++ (144 + UInt8.ofNat tokens.length) :: tokens
    ++ fixstr "block_size" ++ [UInt8.ofNat tokens.length]
    ++ fixstr "medium" ++ fixstr "GPU"
    ++ fixstr "group_idx" ++ [groupIdx]

/-- A batch of a node with two cache groups: group 0 has blocks of two
tokens and group 1 blocks of four. -/
def twoGroupsPayload : Bytes :=
  [0x92, 0xcb, 0, 0, 0, 0, 0, 0, 0, 0, 0x92]
    ++ rootBlockEvent 1 0 [1, 2] ++ rootBlockEvent 2 1 [1, 2, 3, 4]

/-- A decoder that knows this payload only. -/
def twoGroupsDecode (payload : Bytes) : Option RawMapEventBatch :=
  if payload = twoGroupsPayload then
    some ⟨[
      .blockStored { blockHashes := [.int 1], parentBlockHash := none
                     tokenIds := [1, 2], blockSize := 2
                     medium := some "GPU", groupIdx := some 0 },
      .blockStored { blockHashes := [.int 2], parentBlockHash := none
                     tokenIds := [1, 2, 3, 4], blockSize := 4
                     medium := some "GPU", groupIdx := some 1 }]⟩
  else none

/-- The node that one batch leaves. -/
def oneBatchRun (decode : Bytes → Option RawMapEventBatch) (payload : Bytes) :
    Option System :=
  Lts.run (System.step decode fun _ => false)
    (.init (fun _ => false) [{ nodeId := "a", cacheDomainId := "d" }])
    [.node "a" (.parts [[], BigEndian.toBytes 8 0, payload])]

/-- One block of two tokens in group 0. -/
theorem exact_demand_one_block :
    ∃ s e, oneBatchRun oneBlockDecode (oneBlockPayload 7 0xc0 1 2) = some s
      ∧ s.tracker.entries.get "a" = some e
      ∧ s.tracker.DemandExact "a" 16 2 := by
  have hfacts : ((oneBatchRun oneBlockDecode (oneBlockPayload 7 0xc0 1 2)).bind
      fun s => (s.tracker.entries.get "a").map fun e =>
        (e.gpuCatalogStatus, e.node.blockSizeOr 16,
          e.catalog.gpuBlockIndex.items.map fun p => p.1.2.2.length))
      = some (.healthy, 2, [2]) := by decide
  obtain ⟨s, hs, hfacts⟩ := Option.bind_eq_some_iff.mp hfacts
  obtain ⟨e, he, hfacts⟩ := Option.map_eq_some_iff.mp hfacts
  injection hfacts with hhealthy hfacts
  injection hfacts with hb hlengths
  refine ⟨s, e, hs, he, (exact_demand_iff hs he hhealthy 16 2 hb (by decide)
    (by decide)).mpr fun tokens identity hroot _ => ?_⟩
  have hmem := List.mem_map_of_mem (f := fun p => p.1.2.2.length)
    (PyDict.get_eq_some_iff.mp hroot)
  rw [hlengths, List.mem_singleton] at hmem
  exact Int.natCast_dvd_natCast.mpr (dvd_of_eq hmem.symm)

/-- The node reports the block size of group 1 and matches the blocks of
group 0: two tokens are matched, and blocks have four. -/
theorem two_groups_misreport :
    ∃ s e, oneBatchRun twoGroupsDecode twoGroupsPayload = some s
      ∧ s.tracker.entries.get "a" = some e
      ∧ e.gpuCatalogStatus = .healthy
      ∧ e.node.blockSizeOr 16 = 4
      ∧ ¬ s.tracker.DemandExact "a" 16 4 := by
  have hfacts : ((oneBatchRun twoGroupsDecode twoGroupsPayload).bind
      fun s => (s.tracker.entries.get "a").map fun e =>
        (e.gpuCatalogStatus, e.node.blockSizeOr 16,
          e.catalog.gpuBlockIndex.get (0, none, [1, 2])))
      = some (.healthy, 4, some (0, .int 1)) := by decide +kernel
  obtain ⟨s, hs, hfacts⟩ := Option.bind_eq_some_iff.mp hfacts
  obtain ⟨e, he, hfacts⟩ := Option.map_eq_some_iff.mp hfacts
  injection hfacts with hhealthy hfacts
  injection hfacts with hb hroot
  refine ⟨s, e, hs, he, hhealthy, hb, fun h => ?_⟩
  have hiff := KareserveTracker.demandExact_iff he hhealthy
    (System.run_sizesCover hs he) (hb ▸ by decide : 0 < e.node.blockSizeOr 16)
    (hb ▸ by decide : e.node.blockSizeOr 16 < 2 ^ 53)
  rw [hb] at hiff
  have hdvd := hiff.mp h _ _ hroot (by decide)
  exact absurd hdvd (by decide)

end Kareserve
