/-
The catalog as an indexed table (Lib/IndexedTable.lean): every KV event
is a short list of single-block operations, and the catalog is what
replaying them leaves.

# The operations of an event

- a store event puts its full blocks, in order, each with the previous
  hash as parent; a token list that runs short ends the list early, and
  an event the guards reject puts nothing;
- a remove event drops its hashes, when its medium is the GPU;
- `AllBlocksCleared` clears.

`gpu_block_sizes` is not part of the table. All that is needed of it is
`SizesCover`: every indexed block's length is a recorded size.
-/
import Kareserve.Tracker.Catalog
import Kareserve.Lib.IndexedTable

namespace Kareserve

open IndexedTable

-- ======================================================== the operations

abbrev CatalogOp := StoreOp BlockIdentity GpuCachedBlock

/-- The slot of a block in `gpu_block_index`. -/
def indexSlot (identity : BlockIdentity) (block : GpuCachedBlock) : IndexKey :=
  (identity.1, block.parentBlockHash, block.tokenIds)

/-- The full blocks a store event carries, in order. -/
def fullBlocks (groupIdx : ℤ) (blockSize : ℕ+) :
    List ExternalBlockHash → List Token → Option ExternalBlockHash →
      List (BlockIdentity × GpuCachedBlock)
  | [], _, _ => []
  | blockHash :: hashes, tokens, parent =>
      if (blockSize : ℕ) ≤ tokens.length then
        ((groupIdx, blockHash), ⟨parent, tokens.take blockSize⟩)
          :: fullBlocks groupIdx blockSize hashes (tokens.drop blockSize)
            (some blockHash)
      else []

/-- What one event stores, removes or clears. -/
def RawMapEvent.ops : RawMapEvent → List CatalogOp
  | .blockStored event =>
      match event.storedSize with
      | none => []
      | some blockSize =>
          (fullBlocks (groupOf event.groupIdx) blockSize event.blockHashes
            event.tokenIds event.parentBlockHash).map fun b => .put b.1 b.2
  | .blockRemoved event =>
      if isGpu event.medium then
        event.blockHashes.map fun h => .drop (groupOf event.groupIdx, h)
      else []
  | .allBlocksCleared => [.clear]

/-- What one payload stores, removes or clears. -/
def payloadOps (decode : Bytes → Option RawMapEventBatch) (payload : Bytes) :
    List CatalogOp :=
  match decode payload with
  | none => []
  | some batch => batch.events.flatMap RawMapEvent.ops

/-- What a list of payloads stores, removes and clears. -/
def opLog (decode : Bytes → Option RawMapEventBatch)
    (payloads : List Bytes) : List CatalogOp :=
  payloads.flatMap (payloadOps decode)

/-- The two inverse dictionaries as a table with its index. -/
def GpuCatalog.toTable (c : GpuCatalog) :
    IndexedTable BlockIdentity GpuCachedBlock IndexKey :=
  ⟨c.gpuBlocks, c.gpuBlockIndex⟩

-- ============================================== the catalog replays them

theorem GpuCatalog.toTable_storeBlock (c : GpuCatalog) (groupIdx : ℤ)
    (blockHash : ExternalBlockHash) (parent : Option ExternalBlockHash)
    (blockTokens : List Token) :
    (c.storeBlock groupIdx blockHash parent blockTokens).toTable
      = apply indexSlot c.toTable
          (.put (groupIdx, blockHash) ⟨parent, blockTokens⟩) := by
  simp only [storeBlock, toTable, apply, indexSlot]
  cases c.gpuBlocks.get (groupIdx, blockHash) <;> rfl

theorem GpuCatalog.toTable_removeBlock (c : GpuCatalog) (groupIdx : ℤ)
    (blockHash : ExternalBlockHash) :
    (c.removeBlock groupIdx blockHash).toTable
      = apply indexSlot c.toTable (.drop (groupIdx, blockHash)) := by
  simp only [removeBlock, toTable, apply, indexSlot]
  cases c.gpuBlocks.get (groupIdx, blockHash) <;> rfl

/-- The store loop puts the full blocks. -/
theorem toTable_storeBlocks (groupIdx : ℤ) (blockSize : ℕ+) :
    ∀ (hashes : List ExternalBlockHash) (tokens : List Token)
      (parent : Option ExternalBlockHash) (c : GpuCatalog),
      (storeBlocks groupIdx blockSize hashes tokens parent c).1.toTable
        = ((fullBlocks groupIdx blockSize hashes tokens parent).map
            fun b => StoreOp.put b.1 b.2).foldl (apply indexSlot) c.toTable := by
  intro hashes
  induction hashes with
  | nil => intro tokens parent c; rfl
  | cons blockHash hashes ih =>
      intro tokens parent c
      rw [storeBlocks, fullBlocks]
      by_cases hlen : (blockSize : ℕ) ≤ tokens.length
      · have hfull : (tokens.take blockSize).length = (blockSize : ℕ) := by
          rw [List.length_take]
          omega
        simp only [hfull, hlen, ne_eq, not_true_eq_false, if_false, if_true,
          List.map_cons, List.foldl_cons]
        rw [ih, GpuCatalog.toTable_storeBlock]
      · have hshort : (tokens.take blockSize).length ≠ (blockSize : ℕ) := by
          rw [List.length_take]
          omega
        simp only [hshort, hlen, ne_eq, not_false_eq_true, if_true, if_false,
          List.map_nil, List.foldl_nil]

/-- An event does to the table what its operations do. -/
theorem GpuCatalog.toTable_applyEvent (c : GpuCatalog) (event : RawMapEvent) :
    (c.applyEvent event).toTable
      = event.ops.foldl (apply indexSlot) c.toTable := by
  cases event with
  | allBlocksCleared => rfl
  | blockStored event =>
      simp only [applyEvent, storeEvent, RawMapEvent.ops]
      cases event.storedSize with
      | none => rfl
      | some blockSize => exact toTable_storeBlocks _ _ _ _ _ _
  | blockRemoved event =>
      simp only [applyEvent, removeEvent, RawMapEvent.ops]
      cases isGpu event.medium with
      | false => rfl
      | true =>
          simp only [if_true, List.foldl_map]
          induction event.blockHashes generalizing c with
          | nil => rfl
          | cons h hashes ih =>
              rw [List.foldl_cons, List.foldl_cons, ih, toTable_removeBlock]

/-- A payload does to the table what its operations do. -/
theorem GpuCatalog.toTable_applyPayload
    (decode : Bytes → Option RawMapEventBatch) (c : GpuCatalog)
    (payload : Bytes) :
    (c.applyPayload decode payload).toTable
      = (payloadOps decode payload).foldl (apply indexSlot) c.toTable := by
  unfold applyPayload payloadOps
  cases decode payload with
  | none => rfl
  | some batch =>
      dsimp only
      induction batch.events generalizing c with
      | nil => rfl
      | cons event events ih =>
          rw [List.foldl_cons, ih, toTable_applyEvent, List.flatMap_cons,
            List.foldl_append]

section Payloads

variable (decode : Bytes → Option RawMapEventBatch)

/-- `process_raw_payload` on one payload after another. -/
def NodeEntry.processRawPayloads (e : NodeEntry) (payloads : List Bytes) :
    NodeEntry :=
  payloads.foldl (fun e payload => (e.processRawPayload decode payload).1) e

/-- The catalog one payload after another, an abstract `processRawPayloads`
that keeps the catalog only. -/
def GpuCatalog.applyPayloads (c : GpuCatalog) (payloads : List Bytes) :
    GpuCatalog :=
  payloads.foldl (GpuCatalog.applyPayload decode) c

theorem GpuCatalog.applyPayloads_append (c : GpuCatalog)
    (payloads payloads' : List Bytes) :
    c.applyPayloads decode (payloads ++ payloads')
      = (c.applyPayloads decode payloads).applyPayloads decode payloads' :=
  List.foldl_append

theorem GpuCatalog.applyPayloads_concat (c : GpuCatalog)
    (payloads : List Bytes) (payload : Bytes) :
    c.applyPayloads decode (payloads ++ [payload])
      = (c.applyPayloads decode payloads).applyPayload decode payload := by
  rw [applyPayloads_append]
  rfl

/-- What payloads do to a node's catalog they do to the catalog alone. -/
theorem NodeEntry.processRawPayloads_catalog (e : NodeEntry)
    (payloads : List Bytes) :
    (e.processRawPayloads decode payloads).catalog
      = e.catalog.applyPayloads decode payloads := by
  unfold processRawPayloads GpuCatalog.applyPayloads
  induction payloads generalizing e with
  | nil => rfl
  | cons payload payloads ih =>
      rw [List.foldl_cons, List.foldl_cons, ih, processRawPayload_catalog]

/-- From the empty catalog, payloads leave what replaying their operation
log leaves. -/
theorem GpuCatalog.toTable_applyPayloads (payloads : List Bytes) :
    (GpuCatalog.empty.applyPayloads decode payloads).toTable
      = replay indexSlot (opLog decode payloads) := by
  suffices general : ∀ c : GpuCatalog, (c.applyPayloads decode payloads).toTable
      = (opLog decode payloads).foldl (apply indexSlot) c.toTable by
    exact general .empty
  intro c
  unfold applyPayloads opLog
  induction payloads generalizing c with
  | nil => rfl
  | cons payload payloads ih =>
      rw [List.foldl_cons, ih, toTable_applyPayload, List.flatMap_cons,
        List.foldl_append]

end Payloads

-- =================================================== the recorded sizes

/-- Every indexed block's length is a recorded size. -/
def GpuCatalog.SizesCover (c : GpuCatalog) : Prop :=
  ∀ key identity, c.gpuBlockIndex.get key = some identity →
    ∃ blockSize ∈ c.gpuBlockSizes, key.2.2.length = (blockSize : ℕ)

/-- A stored block has one of the sizes ever stored. -/
theorem GpuCatalog.SizesCover.storeBlock {c : GpuCatalog} (h : c.SizesCover)
    {groupIdx : ℤ} {blockHash : ExternalBlockHash}
    {parent : Option ExternalBlockHash} {blockTokens : List Token}
    {blockSize : ℕ+} (hsize : blockSize ∈ c.gpuBlockSizes)
    (hlen : blockTokens.length = blockSize) :
    (c.storeBlock groupIdx blockHash parent blockTokens).SizesCover := by
  intro key identity hget
  simp only [GpuCatalog.storeBlock, PyDict.get_set] at hget
  by_cases hkey : key = (groupIdx, parent, blockTokens)
  · subst hkey
    exact ⟨blockSize, hsize, hlen⟩
  · rw [if_neg hkey] at hget
    exact h key identity hget

theorem sizesCover_storeBlocks (groupIdx : ℤ) (blockSize : ℕ+) :
    ∀ (hashes : List ExternalBlockHash) (tokens : List Token)
      (parent : Option ExternalBlockHash) (c : GpuCatalog),
      c.SizesCover → blockSize ∈ c.gpuBlockSizes →
      (storeBlocks groupIdx blockSize hashes tokens parent c).1.SizesCover := by
  intro hashes
  induction hashes with
  | nil => intro tokens parent c h _; exact h
  | cons blockHash hashes ih =>
      intro tokens parent c h hsize
      rw [storeBlocks]
      by_cases hlen : (tokens.take blockSize).length = (blockSize : ℕ)
      · simp only [hlen, ne_eq, not_true_eq_false, if_false]
        exact ih _ _ _ (h.storeBlock hsize hlen) hsize
      · simp only [hlen, ne_eq, not_false_eq_true, if_true]
        exact h

/-- Erasing index entries keeps the rest covered. -/
theorem GpuCatalog.SizesCover.removeBlock {c : GpuCatalog} (h : c.SizesCover)
    (groupIdx : ℤ) (blockHash : ExternalBlockHash) :
    (c.removeBlock groupIdx blockHash).SizesCover := by
  unfold GpuCatalog.removeBlock
  cases c.gpuBlocks.get (groupIdx, blockHash) with
  | none => exact h
  | some block =>
      intro key identity hget
      rw [PyDict.get_erase] at hget
      by_cases hkey : key = (groupIdx, block.parentBlockHash, block.tokenIds)
      · rw [if_pos hkey] at hget
        cases hget
      · rw [if_neg hkey] at hget
        exact h key identity hget

/-- After any event, what is stored still has one of the sizes. -/
theorem GpuCatalog.SizesCover.applyEvent {c : GpuCatalog} (h : c.SizesCover)
    (event : RawMapEvent) : (c.applyEvent event).SizesCover := by
  cases event with
  | allBlocksCleared =>
      intro key identity hget
      cases hget
  | blockStored event =>
      simp only [GpuCatalog.applyEvent, GpuCatalog.storeEvent]
      cases event.storedSize with
      | none => exact h
      | some blockSize =>
          refine sizesCover_storeBlocks _ _ _ _ _ _ ?_
            (Finset.mem_insert_self _ _)
          intro key identity hget
          obtain ⟨size, hsize, hlen⟩ := h key identity hget
          exact ⟨size, Finset.mem_insert_of_mem hsize, hlen⟩
  | blockRemoved event =>
      simp only [GpuCatalog.applyEvent, GpuCatalog.removeEvent]
      cases isGpu event.medium with
      | false => exact h
      | true =>
          simp only [if_true]
          induction event.blockHashes generalizing c with
          | nil => exact h
          | cons blockHash hashes ih => exact ih (h.removeBlock _ _)

/-- Every catalog built from payloads has its sizes covered. -/
theorem GpuCatalog.sizesCover_applyPayloads
    (decode : Bytes → Option RawMapEventBatch) (payloads : List Bytes) :
    (GpuCatalog.empty.applyPayloads decode payloads).SizesCover := by
  suffices general : ∀ c : GpuCatalog, c.SizesCover →
      (c.applyPayloads decode payloads).SizesCover by
    exact general .empty fun key identity hget => by cases hget
  intro c hc
  unfold applyPayloads
  induction payloads generalizing c with
  | nil => exact hc
  | cons payload payloads ih =>
      refine ih _ ?_
      unfold applyPayload
      cases decode payload with
      | none => exact hc
      | some batch =>
          dsimp only
          induction batch.events generalizing c with
          | nil => exact hc
          | cons event events ihe => exact ihe _ (hc.applyEvent event)

end Kareserve
