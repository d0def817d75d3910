/-
What the prefix lookup finds: soundness in full, completeness up to the
index's single slot per (group, parent, tokens).

# Soundness

The walk follows index entries, every index entry names a live block
with that parent and those tokens (`IndexedTable.index_sound`), so the
matched length is the length of a chain of live blocks spelling that
much of the prompt (`longestPrefix_no_stale_hit`).

# Completeness, and where it stops

vLLM hashes more than parent and tokens (adapters, salts, extra keys),
so two live blocks can share (group, parent, tokens). The index keeps
the last one stored; storing a twin hides the other block and with it
every descendant that hangs off its hash, and removing a twin empties
the slot although the other block is still live. A lookup therefore
finds exactly the chains of CURRENT blocks (`IndexedTable.Current`):
`no_lost_hit_iff` says a node loses no hit exactly when every chain of
live blocks is spelled by a chain of current ones.
-/
import Kareserve.Tracker.Proofs.OpLog

namespace Kareserve

open IndexedTable

-- ================================================================ chains

/-- Blocks linked parent to child, each by its hash and its tokens. -/
def Chain (linked : Option ExternalBlockHash → List Token →
      ExternalBlockHash → Prop) :
    Option ExternalBlockHash → List (ExternalBlockHash × List Token) → Prop
  | _, [] => True
  | parent, (blockHash, tokens) :: rest =>
      linked parent tokens blockHash ∧ Chain linked (some blockHash) rest

/-- The tokens a chain spells. -/
def chainTokens (chain : List (ExternalBlockHash × List Token)) : List Token :=
  chain.flatMap Prod.snd

/-- A chain of live blocks of group 0, all of one size. -/
def LiveChain (log : List CatalogOp) (blockSize : ℕ+) :
    Option ExternalBlockHash → List (ExternalBlockHash × List Token) → Prop :=
  Chain fun parent tokens blockHash =>
    tokens.length = blockSize ∧ Live log (0, blockHash) ⟨parent, tokens⟩

/-- A chain of current blocks of group 0, all of one size. -/
def CurrentChain (log : List CatalogOp) (blockSize : ℕ+) :
    Option ExternalBlockHash → List (ExternalBlockHash × List Token) → Prop :=
  Chain fun parent tokens blockHash =>
    tokens.length = blockSize
      ∧ Current indexSlot log (0, parent, tokens) (0, blockHash)

/-- A chain of index entries of one group, all of one size. -/
def IndexChain (index : PyDict IndexKey BlockIdentity) (groupIdx : ℤ)
    (blockSize : ℕ+) :
    Option ExternalBlockHash → List (ExternalBlockHash × List Token) → Prop :=
  Chain fun parent tokens blockHash =>
    tokens.length = blockSize
      ∧ ∃ identity, index.get (groupIdx, parent, tokens) = some identity
        ∧ identity.2 = blockHash

/-- A chain of links is one of weaker links. -/
theorem Chain.imp {linked linked' : Option ExternalBlockHash → List Token →
      ExternalBlockHash → Prop} :
    ∀ {chain : List (ExternalBlockHash × List Token)}
      {parent : Option ExternalBlockHash},
      (∀ parent tokens blockHash, (blockHash, tokens) ∈ chain →
        linked parent tokens blockHash → linked' parent tokens blockHash) →
      Chain linked parent chain → Chain linked' parent chain := by
  intro chain
  induction chain with
  | nil => intro parent _ _; trivial
  | cons block rest ih =>
      intro parent h hchain
      exact ⟨h _ _ _ (List.mem_cons_self ..) hchain.1,
        ih (fun p t b hb => h p t b (List.mem_cons_of_mem _ hb)) hchain.2⟩

/-- Chains of blocks of one size spell that size for each block. -/
theorem chainTokens_length {linked : Option ExternalBlockHash → List Token →
      ExternalBlockHash → Prop} {blockSize : ℕ+}
    (hsize : ∀ parent tokens blockHash,
      linked parent tokens blockHash → tokens.length = blockSize) :
    ∀ {chain : List (ExternalBlockHash × List Token)}
      {parent : Option ExternalBlockHash}, Chain linked parent chain →
      (chainTokens chain).length = chain.length * blockSize := by
  intro chain
  induction chain with
  | nil => intro parent _; simp [chainTokens]
  | cons block rest ih =>
      intro parent hchain
      have hrest := ih hchain.2
      have hblock := hsize _ _ _ hchain.1
      unfold chainTokens at hrest ⊢
      rw [List.flatMap_cons, List.length_append, hrest, hblock,
        List.length_cons, Nat.add_mul, Nat.one_mul, Nat.add_comm]

/-- A chain covers whole blocks. -/
theorem LiveChain.length {log : List CatalogOp} {blockSize : ℕ+}
    {parent : Option ExternalBlockHash}
    {chain : List (ExternalBlockHash × List Token)}
    (h : LiveChain log blockSize parent chain) :
    (chainTokens chain).length = chain.length * blockSize :=
  chainTokens_length (fun _ _ _ hl => hl.1) h

theorem IndexChain.length {index : PyDict IndexKey BlockIdentity}
    {groupIdx : ℤ} {blockSize : ℕ+} {parent : Option ExternalBlockHash}
    {chain : List (ExternalBlockHash × List Token)}
    (h : IndexChain index groupIdx blockSize parent chain) :
    (chainTokens chain).length = chain.length * blockSize :=
  chainTokens_length (fun _ _ _ hl => hl.1) h

-- ============================================================== the walk

/-- The walk follows a chain of index entries and stops at its end. -/
theorem walkPrefix_sound (index : PyDict IndexKey BlockIdentity)
    (groupIdx : ℤ) (blockSize : ℕ+) :
    ∀ (fuel : ℕ) (tokens : List Token) (parent : Option ExternalBlockHash),
      walkPrefix index groupIdx blockSize fuel tokens parent ≤ tokens.length
      ∧ ∃ chain, IndexChain index groupIdx blockSize parent chain
        ∧ chainTokens chain
          = tokens.take (walkPrefix index groupIdx blockSize fuel tokens
              parent) := by
  intro fuel
  induction fuel with
  | zero =>
      intro tokens parent
      exact ⟨Nat.zero_le _, [], trivial, by simp [chainTokens, walkPrefix]⟩
  | succ fuel ih =>
      intro tokens parent
      rw [walkPrefix]
      split
      case isFalse =>
        exact ⟨Nat.zero_le _, [], trivial, by simp [chainTokens]⟩
      case isTrue hlen =>
        cases hget : index.get (groupIdx, parent, tokens.take blockSize) with
        | none => exact ⟨Nat.zero_le _, [], trivial, by simp [chainTokens]⟩
        | some identity =>
            obtain ⟨hle, chain, hchain, htokens⟩ :=
              ih (tokens.drop blockSize) (some identity.2)
            rw [List.length_drop] at hle
            dsimp only
            refine ⟨by omega, (identity.2, tokens.take blockSize) :: chain,
              ⟨⟨by rw [List.length_take]; omega, identity, hget, rfl⟩, hchain⟩,
              ?_⟩
            unfold chainTokens at htokens ⊢
            rw [List.flatMap_cons, htokens, List.take_add]

/-- The walk covers every chain of index entries that spells a prefix of
what is left of the prompt. -/
theorem walkPrefix_complete (index : PyDict IndexKey BlockIdentity)
    (groupIdx : ℤ) (blockSize : ℕ+) :
    ∀ (chain : List (ExternalBlockHash × List Token)) (fuel : ℕ)
      (tokens : List Token) (parent : Option ExternalBlockHash),
      IndexChain index groupIdx blockSize parent chain →
      chainTokens chain <+: tokens → tokens.length ≤ fuel →
      chain.length * blockSize
        ≤ walkPrefix index groupIdx blockSize fuel tokens parent := by
  intro chain
  induction chain with
  | nil => intro fuel tokens parent _ _ _; simp
  | cons block rest ih =>
      intro fuel tokens parent hchain hspells hfuel
      obtain ⟨blockHash, blockTokens⟩ := block
      obtain ⟨⟨hlen, identity, hget, hhash⟩, hrest⟩ := hchain
      have hpos : 0 < (blockSize : ℕ) := blockSize.pos
      -- the first block of the chain is the first of the prompt
      obtain ⟨suffix, rfl⟩ := hspells
      have hspell : chainTokens ((blockHash, blockTokens) :: rest) ++ suffix
          = blockTokens ++ (chainTokens rest ++ suffix) := by
        unfold chainTokens
        rw [List.flatMap_cons, List.append_assoc]
      rw [hspell] at hfuel ⊢
      have htake : (blockTokens ++ (chainTokens rest ++ suffix)).take blockSize
          = blockTokens := by
        rw [← hlen, List.take_left']
        rfl
      have hdrop : (blockTokens ++ (chainTokens rest ++ suffix)).drop blockSize
          = chainTokens rest ++ suffix := by
        rw [← hlen, List.drop_left']
        rfl
      rw [List.length_append, hlen] at hfuel
      cases fuel with
      -- a block has at least one token, so the fuel suffices
      | zero => omega
      | succ fuel =>
          rw [walkPrefix, if_pos (by rw [List.length_append]; omega), htake,
            hdrop, hget]
          dsimp only
          rw [hhash]
          have hwalk := ih fuel (chainTokens rest ++ suffix) (some blockHash)
            hrest (List.prefix_append _ _) (by omega)
          rw [List.length_cons, Nat.add_mul, Nat.one_mul]
          omega

/-- The lookup finds a chain of index entries from the root. -/
theorem GpuCatalog.longestPrefix_sound (c : GpuCatalog)
    (prompt : List Token) :
    c.longestPrefix prompt ≤ prompt.length
      ∧ ∃ blockSize chain, IndexChain c.gpuBlockIndex 0 blockSize none chain
        ∧ chainTokens chain = prompt.take (c.longestPrefix prompt) := by
  unfold longestPrefix
  rcases c.gpuBlockSizes.eq_empty_or_nonempty with hempty | hne
  · rw [hempty, Finset.sup_empty]
    exact ⟨Nat.zero_le _, 1, [], trivial, by simp [chainTokens]⟩
  · obtain ⟨blockSize, -, hsup⟩ := Finset.exists_mem_eq_sup _ hne fun size =>
      walkPrefix c.gpuBlockIndex 0 size prompt.length prompt none
    rw [hsup]
    obtain ⟨hle, chain, hchain, htokens⟩ := walkPrefix_sound c.gpuBlockIndex 0
      blockSize prompt.length prompt none
    exact ⟨hle, blockSize, chain, hchain, htokens⟩

/-- The lookup covers every chain of index entries from the root. -/
theorem GpuCatalog.longestPrefix_complete {c : GpuCatalog}
    (hsizes : c.SizesCover) {blockSize : ℕ+}
    {chain : List (ExternalBlockHash × List Token)} {prompt : List Token}
    (hchain : IndexChain c.gpuBlockIndex 0 blockSize none chain)
    (hspells : chainTokens chain <+: prompt) :
    (chainTokens chain).length ≤ c.longestPrefix prompt := by
  rw [hchain.length]
  cases chain with
  | nil => simp
  | cons block rest =>
      -- the first entry's size is recorded, so the walk for it is taken
      obtain ⟨hlen, identity, hget, -⟩ := hchain.1
      obtain ⟨size, hsize, hsizeLen⟩ := hsizes _ _ hget
      have hsame : size = blockSize := PNat.coe_injective (by
        rw [← hsizeLen, ← hlen])
      rw [hsame] at hsize
      have hwalk := walkPrefix_complete c.gpuBlockIndex 0 blockSize
        (block :: rest) prompt.length prompt none hchain hspells
        (Nat.le_refl _)
      exact hwalk.trans (Finset.le_sup (f := fun size =>
        walkPrefix c.gpuBlockIndex 0 size prompt.length prompt none) hsize)

-- ==================================================== chains of the log

section Payloads

variable (decode : Bytes → Option RawMapEventBatch)

/-- The catalog a node is left with after a list of payloads. -/
def catalogAfter (payloads : List Bytes) : GpuCatalog :=
  GpuCatalog.empty.applyPayloads decode payloads

/-- The catalog of a fresh node after some payloads. -/
theorem fresh_processRawPayloads_catalog (node : NodeState)
    (payloads : List Bytes) :
    ((NodeEntry.fresh node).processRawPayloads decode payloads).catalog
      = catalogAfter decode payloads :=
  NodeEntry.processRawPayloads_catalog decode _ payloads

variable {decode}

/-- Its index is that of the operation log. -/
theorem catalogAfter_index (payloads : List Bytes) :
    (catalogAfter decode payloads).gpuBlockIndex
      = (replay indexSlot (opLog decode payloads)).index :=
  congrArg IndexedTable.index (GpuCatalog.toTable_applyPayloads decode payloads)

/-- Index entries of group 0 are live blocks with that parent and those
tokens. -/
theorem indexChain_live {payloads : List Bytes}
    (hc : Consistent (opLog decode payloads)) {blockSize : ℕ+}
    {parent : Option ExternalBlockHash}
    {chain : List (ExternalBlockHash × List Token)}
    (h : IndexChain (catalogAfter decode payloads).gpuBlockIndex 0 blockSize
      parent chain) :
    LiveChain (opLog decode payloads) blockSize parent chain := by
  refine Chain.imp ?_ h
  rintro parent tokens blockHash - ⟨hlen, identity, hget, hhash⟩
  rw [catalogAfter_index] at hget
  obtain ⟨block, hblock, hslot⟩ := index_sound hc hget
  simp only [indexSlot, Prod.mk.injEq] at hslot
  obtain ⟨hgroup, hparent, htokens⟩ := hslot
  have hid : identity = (0, blockHash) := Prod.ext hgroup hhash
  have hblk : block = ⟨parent, tokens⟩ := by
    cases block
    cases hparent
    cases htokens
    rfl
  rw [table_get_iff indexSlot hc, hid, hblk] at hblock
  exact ⟨hlen, hblock⟩

/-- Index entries of group 0 are exactly the current blocks. -/
theorem indexChain_iff_current {payloads : List Bytes}
    (hc : Consistent (opLog decode payloads)) {blockSize : ℕ+}
    {parent : Option ExternalBlockHash}
    {chain : List (ExternalBlockHash × List Token)} :
    IndexChain (catalogAfter decode payloads).gpuBlockIndex 0 blockSize
        parent chain
      ↔ CurrentChain (opLog decode payloads) blockSize parent chain := by
  constructor
  · refine Chain.imp ?_
    rintro parent tokens blockHash - ⟨hlen, identity, hget, hhash⟩
    rw [catalogAfter_index] at hget
    obtain ⟨block, -, hslot⟩ := index_sound hc hget
    simp only [indexSlot, Prod.mk.injEq] at hslot
    have hid : identity = (0, blockHash) := Prod.ext hslot.1 hhash
    rw [hid, index_get_iff hc] at hget
    exact ⟨hlen, hget⟩
  · refine Chain.imp ?_
    rintro parent tokens blockHash - ⟨hlen, hcur⟩
    refine ⟨hlen, (0, blockHash), ?_, rfl⟩
    rw [catalogAfter_index, index_get_iff hc]
    exact hcur

-- ============================================================= soundness

/-- No stale GPU hit: from a fresh node, after any payloads in which a
(group, hash) is always stored with the same parent and tokens, the
matched length is that of a chain of blocks of group 0 and one size,
rooted at `None`, that spells exactly that much of the prompt and whose
blocks were all stored and not removed or cleared since. -/
theorem longestPrefix_no_stale_hit (node : NodeState) (payloads : List Bytes)
    (hc : Consistent (opLog decode payloads)) (prompt : List Token) :
    let n := ((NodeEntry.fresh node).processRawPayloads decode
      payloads).catalog.longestPrefix prompt
    n ≤ prompt.length
      ∧ ∃ blockSize chain,
        LiveChain (opLog decode payloads) blockSize none chain
        ∧ chainTokens chain = prompt.take n := by
  dsimp only
  rw [fresh_processRawPayloads_catalog]
  obtain ⟨hle, blockSize, chain, hchain, htokens⟩ :=
    (catalogAfter decode payloads).longestPrefix_sound prompt
  exact ⟨hle, blockSize, chain, indexChain_live hc hchain, htokens⟩

/-- A root block and its child, matched by a longer prompt. -/
theorem longestPrefix_two_blocks :
    let payloads := [oneBlockPayload 1 0xc0 1 2, oneBlockPayload 3 1 3 4]
    let n := ((NodeEntry.fresh { nodeId := "a", cacheDomainId := "d" }
      ).processRawPayloads oneBlockDecode payloads).catalog.longestPrefix
        [1, 2, 3, 4, 5]
    n = 4 ∧ ∃ blockSize chain,
      LiveChain (opLog oneBlockDecode payloads) blockSize none chain
        ∧ chainTokens chain = [1, 2, 3, 4] := by
  have h := @longestPrefix_no_stale_hit oneBlockDecode
    { nodeId := "a", cacheDomainId := "d" }
    [oneBlockPayload 1 0xc0 1 2, oneBlockPayload 3 1 3 4] (by decide)
    [1, 2, 3, 4, 5]
  have hn : ((NodeEntry.fresh { nodeId := "a", cacheDomainId := "d" }
      ).processRawPayloads oneBlockDecode
        [oneBlockPayload 1 0xc0 1 2, oneBlockPayload 3 1 3 4]
      ).catalog.longestPrefix [1, 2, 3, 4, 5] = 4 := by decide
  dsimp only at h ⊢
  rw [hn] at h
  exact ⟨hn, h.2⟩

-- ========================================================== completeness

/-- Every chain of live blocks of group 0 that spells the head of a prompt
is matched in full. -/
def NoLostHit (decode : Bytes → Option RawMapEventBatch) (node : NodeState)
    (payloads : List Bytes) : Prop :=
  ∀ (blockSize : ℕ+) (chain : List (ExternalBlockHash × List Token))
    (prompt : List Token),
    LiveChain (opLog decode payloads) blockSize none chain →
    chainTokens chain = prompt.take (chain.length * blockSize) →
    chain.length * blockSize
      ≤ ((NodeEntry.fresh node).processRawPayloads decode
          payloads).catalog.longestPrefix prompt

/-- Every chain of live blocks is spelled by a chain of current ones. -/
def CoveredByCurrent (log : List CatalogOp) : Prop :=
  ∀ (blockSize : ℕ+) (chain : List (ExternalBlockHash × List Token)),
    LiveChain log blockSize none chain →
    ∃ blockSize' chain', CurrentChain log blockSize' none chain'
      ∧ chainTokens chain' = chainTokens chain

/-- Where every live chain is spelled by a current one, no hit is lost: -/
theorem noLostHit_of_covered (node : NodeState) {payloads : List Bytes}
    (hc : Consistent (opLog decode payloads))
    (hcov : CoveredByCurrent (opLog decode payloads)) :
    NoLostHit decode node payloads := by
  intro blockSize chain prompt hchain hprompt
  rw [fresh_processRawPayloads_catalog, ← hchain.length]
  obtain ⟨blockSize', chain', hcur, htokens⟩ := hcov blockSize chain hchain
  rw [← htokens]
  refine GpuCatalog.longestPrefix_complete
    (GpuCatalog.sizesCover_applyPayloads decode payloads)
    ((indexChain_iff_current hc).mpr hcur) ?_
  rw [htokens, hprompt]
  exact List.take_prefix _ _

/-- An indexed chain is covered: the prompt of one that is not would be a lost
hit. -/
theorem covered_of_noLostHit {node : NodeState} {payloads : List Bytes}
    (hc : Consistent (opLog decode payloads))
    (h : NoLostHit decode node payloads) :
    CoveredByCurrent (opLog decode payloads) := by
  intro blockSize chain hchain
  have hlen := hchain.length
  have hmatch := h blockSize chain (chainTokens chain) hchain (by
    rw [← hlen, List.take_length])
  rw [fresh_processRawPayloads_catalog, ← hlen] at hmatch
  -- the prompt the chain spells is matched whole, by some index chain
  obtain ⟨hle, blockSize', chain', hchain', htokens⟩ :=
    (catalogAfter decode payloads).longestPrefix_sound (chainTokens chain)
  refine ⟨blockSize', chain', (indexChain_iff_current hc).mp hchain', ?_⟩
  rw [htokens, Nat.le_antisymm hle hmatch, List.take_length]

/-- Where no two hashes of a group are ever stored with the same parent
and tokens, nothing is lost. -/
theorem covered_of_distinct_slots {log : List CatalogOp}
    (hc : Consistent log)
    (hslots : ∀ k v k' v', StoreOp.put k v ∈ log → StoreOp.put k' v' ∈ log →
      indexSlot k v = indexSlot k' v' → k = k') :
    CoveredByCurrent log := by
  intro blockSize chain hchain
  refine ⟨blockSize, chain, Chain.imp ?_ hchain, rfl⟩
  rintro parent tokens blockHash - ⟨hlen, hlive⟩
  exact ⟨hlen, hlive.current hc hslots⟩

/-- Operations that remove none of a chain's blocks leave the chain
live. -/
theorem LiveChain.append {log ops : List CatalogOp} {blockSize : ℕ+}
    {parent : Option ExternalBlockHash}
    {chain : List (ExternalBlockHash × List Token)}
    (h : LiveChain log blockSize parent chain)
    (hops : ∀ op ∈ ops, ∀ block ∈ chain, ¬ Removes op (0, block.1)) :
    LiveChain (log ++ ops) blockSize parent chain := by
  refine Chain.imp ?_ h
  rintro parent tokens blockHash hmem ⟨hlen, hlive⟩
  exact ⟨hlen, hlive.append fun op hop => hops op hop _ hmem⟩

/-- The log of one more payload. -/
theorem opLog_concat (payloads : List Bytes) (payload : Bytes) :
    opLog decode (payloads ++ [payload])
      = opLog decode payloads ++ payloadOps decode payload := by
  simp [opLog]

/-- When no GPU hit is lost. From a fresh node, after any payloads in
which a (group, hash) is always stored with the same parent and tokens,
every live chain is matched in full exactly when every live chain is
spelled by a chain of current blocks. And then a last payload that only
stores has lowered no match, and one that removes a single hash has
lowered no match of a prompt with a live chain that does not use it. -/
theorem no_lost_hit_iff (node : NodeState) (payloads : List Bytes)
    (hc : Consistent (opLog decode payloads)) :
    (NoLostHit decode node payloads
      ↔ CoveredByCurrent (opLog decode payloads))
    ∧ (CoveredByCurrent (opLog decode payloads) →
      ∀ earlier payload, payloads = earlier ++ [payload] →
        ((∀ op ∈ payloadOps decode payload, ∃ k v, op = .put k v) →
          ∀ prompt,
            ((NodeEntry.fresh node).processRawPayloads decode
                earlier).catalog.longestPrefix prompt
              ≤ ((NodeEntry.fresh node).processRawPayloads decode
                  payloads).catalog.longestPrefix prompt)
        ∧ ∀ groupIdx blockHash,
          payloadOps decode payload = [.drop (groupIdx, blockHash)] →
          ∀ blockSize chain prompt,
            LiveChain (opLog decode earlier) blockSize none chain →
            (∀ block ∈ chain, block.1 ≠ blockHash) →
            chainTokens chain = prompt.take (chain.length * blockSize) →
            chain.length * blockSize
              ≤ ((NodeEntry.fresh node).processRawPayloads decode
                  payloads).catalog.longestPrefix prompt) := by
  refine ⟨⟨covered_of_noLostHit hc, noLostHit_of_covered node hc⟩, ?_⟩
  rintro hcov earlier payload rfl
  have hnone := noLostHit_of_covered node hc hcov
  rw [opLog_concat] at hc
  constructor
  · intro hstores prompt
    -- the chain matched before is still live, so it is matched after
    rw [fresh_processRawPayloads_catalog]
    obtain ⟨hle, blockSize, chain, hchain, htokens⟩ :=
      (catalogAfter decode earlier).longestPrefix_sound prompt
    have hlive := indexChain_live hc.of_append hchain
    have hlen : chain.length * blockSize
        = (catalogAfter decode earlier).longestPrefix prompt := by
      rw [← hlive.length, htokens, List.length_take]
      omega
    have hlive' : LiveChain (opLog decode (earlier ++ [payload])) blockSize
        none chain := by
      rw [opLog_concat]
      refine hlive.append fun op hop block _ => ?_
      obtain ⟨k, v, rfl⟩ := hstores op hop
      simp [Removes]
    have hafter := hnone blockSize chain prompt hlive' (by rw [hlen, htokens])
    rw [hlen] at hafter
    exact hafter
  · intro groupIdx blockHash hops blockSize chain prompt hlive hmem hprompt
    refine hnone blockSize chain prompt ?_ hprompt
    rw [opLog_concat, hops]
    refine hlive.append fun op hop block hblock => ?_
    rw [List.mem_singleton] at hop
    subst hop
    have hne := hmem block hblock
    simp [Removes, Ne.symm hne]

end Payloads

/-- Without twins nothing is lost: a root block and its child. -/
theorem no_lost_hit_two_blocks :
    NoLostHit oneBlockDecode { nodeId := "a", cacheDomainId := "d" }
      [oneBlockPayload 1 0xc0 1 2, oneBlockPayload 3 1 3 4] := by
  have hc : Consistent (opLog oneBlockDecode
      [oneBlockPayload 1 0xc0 1 2, oneBlockPayload 3 1 3 4]) := by decide
  have hlog : opLog oneBlockDecode
      [oneBlockPayload 1 0xc0 1 2, oneBlockPayload 3 1 3 4]
      = [.put (0, .int 1) ⟨none, [1, 2]⟩,
          .put (0, .int 3) ⟨some (.int 1), [3, 4]⟩] := rfl
  refine (no_lost_hit_iff _ _ hc).1.mpr (covered_of_distinct_slots hc ?_)
  rw [hlog]
  intro k v k' v' hv hv' hslot
  simp only [List.mem_cons, StoreOp.put.injEq, List.not_mem_nil, or_false]
    at hv hv'
  rcases hv with ⟨rfl, rfl⟩ | ⟨rfl, rfl⟩ <;>
    rcases hv' with ⟨rfl, rfl⟩ | ⟨rfl, rfl⟩ <;>
    simp [indexSlot] at hslot ⊢

/-- Block 2 is a twin of block 1 (one parent, one token list): storing it
hides block 1 and with it the live child 3 that hangs off block 1. -/
theorem twin_loses_hit :
    let payloads := [oneBlockPayload 1 0xc0 1 2, oneBlockPayload 3 1 3 4,
      oneBlockPayload 2 0xc0 1 2]
    Consistent (opLog oneBlockDecode payloads)
      ∧ ¬ NoLostHit oneBlockDecode { nodeId := "a", cacheDomainId := "d" }
        payloads := by
  dsimp only
  have hc : Consistent (opLog oneBlockDecode [oneBlockPayload 1 0xc0 1 2,
      oneBlockPayload 3 1 3 4, oneBlockPayload 2 0xc0 1 2]) := by decide
  refine ⟨hc, fun h => ?_⟩
  have hmatch := h 2 [(.int 1, [1, 2]), (.int 3, [3, 4])] [1, 2, 3, 4]
    ⟨⟨rfl, (table_get_iff indexSlot hc).mp (by decide)⟩,
      ⟨rfl, (table_get_iff indexSlot hc).mp (by decide)⟩, trivial⟩ rfl
  revert hmatch
  decide

end Kareserve
