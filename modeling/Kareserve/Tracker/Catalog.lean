/-
The GPU cache catalog of one node (`kareserve/tracker.py`): the KV
events vLLM publishes, the three dictionaries they maintain
(`gpu_blocks`, `gpu_block_index`, `gpu_block_sizes`) and the prefix
lookup that reads them.

# The catalog

`gpu_blocks` maps a block identity (group, hash) to the parent and the
tokens it was stored with. `gpu_block_index` inverts it: from (group,
parent, tokens) to ONE identity, whichever was stored last.
`gpu_block_sizes` collects the sizes ever stored; sizes are positive by
type, as `_store_event` returns before recording any other.

# What is kept under one node id

The tracker's per-node dictionaries all have the same keys, the ids it
was built with, so what they hold for one node is one record here
(`NodeEntry`), and `KareserveTracker` (Tracker/Basic.lean) is one
dictionary of these.

The decoder is msgspec's; it enters as the parameter `decode`, `none`
standing for a `DecodeError`.
-/
import Kareserve.State
import Kareserve.Lib.Dict
import Mathlib.Data.Finset.Lattice.Fold
import Mathlib.Data.PNat.Basic
import Mathlib.Order.Lattice.Nat

namespace Kareserve

abbrev Bytes := List UInt8

-- ============================================================== KV events

/-- `ExternalBlockHash = bytes | int`. -/
inductive ExternalBlockHash where
  | bytes (value : Bytes)
  | int (value : ℤ)
  deriving DecidableEq, Repr

/-- `BlockIdentity`: group index and hash. -/
abbrev BlockIdentity := ℤ × ExternalBlockHash

/-- `GpuCachedBlock`. -/
structure GpuCachedBlock where
  parentBlockHash : Option ExternalBlockHash
  tokenIds : List Token
  deriving DecidableEq

/-- The keys of `gpu_block_index`: group, parent hash, tokens. -/
abbrev IndexKey := ℤ × Option ExternalBlockHash × List Token

/-- `RawMapBlockStored`, the fields `_store_event` reads. -/
structure RawMapBlockStored where
  blockHashes : List ExternalBlockHash
  parentBlockHash : Option ExternalBlockHash
  tokenIds : List Token
  blockSize : ℤ
  medium : Option String := none
  groupIdx : Option ℤ := none
  deriving DecidableEq

/-- `RawMapBlockRemoved`, the fields `_remove_event` reads. -/
structure RawMapBlockRemoved where
  blockHashes : List ExternalBlockHash
  medium : Option String := none
  groupIdx : Option ℤ := none
  deriving DecidableEq

/-- `RawMapEvent`. -/
inductive RawMapEvent where
  | blockStored (event : RawMapBlockStored)
  | blockRemoved (event : RawMapBlockRemoved)
  | allBlocksCleared
  deriving DecidableEq

/-- `RawMapEventBatch`. -/
structure RawMapEventBatch where
  events : List RawMapEvent
  deriving DecidableEq

/-- `str(medium).upper() == "GPU"`. Only ASCII letters upper-case to the
letters of `GPU`, and `str(None)` is `None`. -/
def isGpu (medium : Option String) : Bool :=
  match medium with
  | some m => decide (m.toList.map Char.toUpper = "GPU".toList)
  | none => false

/-- `int(group_idx or 0)`. -/
def groupOf (groupIdx : Option ℤ) : ℤ := groupIdx.getD 0

/-- The guards at the head of `_store_event`: the block size of an event
that gets past them. -/
def RawMapBlockStored.storedSize (event : RawMapBlockStored) : Option ℕ+ :=
  if h : isGpu event.medium = true ∧ event.blockHashes ≠ []
      ∧ 0 < event.blockSize then
    some ⟨event.blockSize.toNat, by omega⟩
  else none

-- ============================================================ the catalog

/-- `gpu_blocks`, `gpu_block_index` and `gpu_block_sizes` of one node. -/
structure GpuCatalog where
  gpuBlocks : PyDict BlockIdentity GpuCachedBlock
  gpuBlockIndex : PyDict IndexKey BlockIdentity
  gpuBlockSizes : Finset ℕ+

/-- The three dictionaries as `__init__` and `_clear_gpu_catalog` leave
them. -/
def GpuCatalog.empty : GpuCatalog := ⟨.empty, .empty, ∅⟩

/-- One pass of the loop body of `_store_event`, past the length check:
the block is recorded unless its identity is known, and the index entry
is overwritten either way. -/
def GpuCatalog.storeBlock (c : GpuCatalog) (groupIdx : ℤ)
    (blockHash : ExternalBlockHash) (parent : Option ExternalBlockHash)
    (blockTokens : List Token) : GpuCatalog :=
  { c with
    gpuBlocks :=
      match c.gpuBlocks.get (groupIdx, blockHash) with
      | some _ => c.gpuBlocks
      | none => c.gpuBlocks.set (groupIdx, blockHash) ⟨parent, blockTokens⟩
    gpuBlockIndex :=
      c.gpuBlockIndex.set (groupIdx, parent, blockTokens)
        (groupIdx, blockHash) }

/-- The loop of `_store_event` over the hashes, on the tokens not yet
consumed; the flag says the tokens ran short and the loop broke off. -/
def storeBlocks (groupIdx : ℤ) (blockSize : ℕ+) :
    List ExternalBlockHash → List Token → Option ExternalBlockHash →
      GpuCatalog → GpuCatalog × Bool
  | [], _, _, c => (c, false)
  | blockHash :: hashes, tokens, parent, c =>
      let blockTokens := tokens.take blockSize
      if blockTokens.length ≠ blockSize then (c, true)
      else
        storeBlocks groupIdx blockSize hashes (tokens.drop blockSize)
          (some blockHash) (c.storeBlock groupIdx blockHash parent blockTokens)

/-- What `_store_event` does to the catalog, and whether the event's
token list was short. -/
def GpuCatalog.storeEvent (c : GpuCatalog) (event : RawMapBlockStored) :
    GpuCatalog × Bool :=
  match event.storedSize with
  | none => (c, false)
  | some blockSize =>
      storeBlocks (groupOf event.groupIdx) blockSize event.blockHashes
        event.tokenIds event.parentBlockHash
        { c with gpuBlockSizes := insert blockSize c.gpuBlockSizes }

/-- One pass of the loop of `_remove_event`. The index entry under the
removed block's (parent, tokens) is popped whichever identity it names. -/
def GpuCatalog.removeBlock (c : GpuCatalog) (groupIdx : ℤ)
    (blockHash : ExternalBlockHash) : GpuCatalog :=
  match c.gpuBlocks.get (groupIdx, blockHash) with
  | none => c
  | some block =>
      { c with
        gpuBlocks := c.gpuBlocks.erase (groupIdx, blockHash)
        gpuBlockIndex :=
          c.gpuBlockIndex.erase
            (groupIdx, block.parentBlockHash, block.tokenIds) }

/-- `_remove_event`. -/
def GpuCatalog.removeEvent (c : GpuCatalog) (event : RawMapBlockRemoved) :
    GpuCatalog :=
  if isGpu event.medium then
    event.blockHashes.foldl
      (fun c blockHash => c.removeBlock (groupOf event.groupIdx) blockHash) c
  else c

/-- What one event does to the catalog. -/
def GpuCatalog.applyEvent (c : GpuCatalog) : RawMapEvent → GpuCatalog
  | .blockStored event => (c.storeEvent event).1
  | .blockRemoved event => c.removeEvent event
  | .allBlocksCleared => .empty

-- ========================================================= prefix lookup

/-- The `while` loop of `_longest_prefix` for one block size, on the
prompt not yet consumed: the tokens it advances the cursor by. The fuel
is the prompt's length, which no walk exceeds, as each pass consumes at
least one token. -/
def walkPrefix (index : PyDict IndexKey BlockIdentity) (groupIdx : ℤ)
    (blockSize : ℕ+) :
    ℕ → List Token → Option ExternalBlockHash → ℕ
  | 0, _, _ => 0
  | fuel + 1, tokens, parent =>
      if (blockSize : ℕ) ≤ tokens.length then
        match index.get (groupIdx, parent, tokens.take blockSize) with
        | none => 0
        | some identity =>
            blockSize + walkPrefix index groupIdx blockSize fuel
              (tokens.drop blockSize) (some identity.2)
      else 0

/-- `_longest_prefix`. The loop over the set of sizes keeps a running
maximum, so its order does not matter. -/
def GpuCatalog.longestPrefix (c : GpuCatalog) (promptTokens : List Token)
    (groupIdx : ℤ := 0) : ℕ :=
  c.gpuBlockSizes.sup fun blockSize =>
    walkPrefix c.gpuBlockIndex groupIdx blockSize promptTokens.length
      promptTokens none

-- ======================================================= one node's entry

/-- All that the tracker keeps under one node id: the node's state, its
catalog, `gpu_catalog_status` and `last_sequence`. -/
structure NodeEntry where
  node : NodeState
  catalog : GpuCatalog
  gpuCatalogStatus : CatalogStatus
  lastSequence : Option ℤ

/-- A node's entry as `__init__` builds it. -/
def NodeEntry.fresh (node : NodeState) : NodeEntry :=
  ⟨node, .empty, .healthy, none⟩

/-- `gpu_catalog_status[node_id] = CatalogStatus.DEGRADED`. -/
def NodeEntry.degrade (e : NodeEntry) : NodeEntry :=
  { e with gpuCatalogStatus := .degraded }

/-- `_clear_gpu_catalog`. -/
def NodeEntry.clearGpuCatalog (e : NodeEntry) : NodeEntry :=
  { e with catalog := .empty }

/-- `_store_event`. -/
def NodeEntry.storeEvent (e : NodeEntry) (event : RawMapBlockStored) :
    NodeEntry :=
  let stored := e.catalog.storeEvent event
  { e with
    node :=
      match event.storedSize with
      | none => e.node
      | some _ => { e.node with gpuBlockSize := some event.blockSize }
    catalog := stored.1
    gpuCatalogStatus := if stored.2 then .degraded else e.gpuCatalogStatus }

/-- `_remove_event`. -/
def NodeEntry.removeEvent (e : NodeEntry) (event : RawMapBlockRemoved) :
    NodeEntry :=
  { e with catalog := e.catalog.removeEvent event }

/-- The body of the loop of `process_raw_payload`. -/
def NodeEntry.processEvent (e : NodeEntry) : RawMapEvent → NodeEntry
  | .allBlocksCleared => e.clearGpuCatalog
  | .blockRemoved event => e.removeEvent event
  | .blockStored event => e.storeEvent event

section Decode

variable (decode : Bytes → Option RawMapEventBatch)

/-- `process_raw_payload` for a known node. -/
def NodeEntry.processRawPayload (e : NodeEntry) (payload : Bytes) :
    NodeEntry × Bool :=
  match decode payload with
  | none => (e.degrade, false)
  | some batch => (batch.events.foldl NodeEntry.processEvent e, true)

/-- What one payload does to the catalog; an undecodable one does
nothing. -/
def GpuCatalog.applyPayload (c : GpuCatalog) (payload : Bytes) : GpuCatalog :=
  match decode payload with
  | none => c
  | some batch => batch.events.foldl GpuCatalog.applyEvent c

end Decode

-- ============================================== the parts of an update

/-- Whether an event's token list runs short of its hashes: the reason
`_store_event` degrades the catalog. -/
def RawMapEvent.runsShort : RawMapEvent → Bool
  | .blockStored event =>
      match event.storedSize with
      | none => false
      | some blockSize =>
          decide (event.tokenIds.length < event.blockHashes.length * blockSize)
  | _ => false

/-- Whether a payload degrades the catalog: it does not decode, or an
event of it runs short. -/
def degrades (decode : Bytes → Option RawMapEventBatch) (payload : Bytes) :
    Bool :=
  match decode payload with
  | none => true
  | some batch => batch.events.any RawMapEvent.runsShort

/-- The store loop breaks off exactly when the tokens are too few. -/
theorem storeBlocks_short (groupIdx : ℤ) (blockSize : ℕ+) :
    ∀ (hashes : List ExternalBlockHash) (tokens : List Token)
      (parent : Option ExternalBlockHash) (c : GpuCatalog),
      (storeBlocks groupIdx blockSize hashes tokens parent c).2
        = decide (tokens.length < hashes.length * blockSize) := by
  intro hashes
  induction hashes with
  | nil => intro tokens parent c; simp [storeBlocks]
  | cons blockHash hashes ih =>
      intro tokens parent c
      have hpos : 0 < (blockSize : ℕ) := blockSize.pos
      have hmul : (blockHash :: hashes).length * (blockSize : ℕ)
          = hashes.length * blockSize + blockSize := by
        rw [List.length_cons, Nat.add_mul, Nat.one_mul]
      rw [storeBlocks]
      by_cases hlen : tokens.length < (blockSize : ℕ)
      · have hshort : (tokens.take blockSize).length ≠ (blockSize : ℕ) := by
          rw [List.length_take]
          omega
        simp only [hshort, ne_eq, not_false_eq_true, if_true]
        symm
        rw [decide_eq_true_eq, hmul]
        omega
      · have hfull : (tokens.take blockSize).length = (blockSize : ℕ) := by
          rw [List.length_take]
          omega
        simp only [hfull, ne_eq, not_true_eq_false, if_false]
        rw [ih, List.length_drop, hmul, decide_eq_decide]
        omega

/-- The flag `_store_event` ends with is whether the event runs short. -/
theorem GpuCatalog.storeEvent_short (c : GpuCatalog)
    (event : RawMapBlockStored) :
    (c.storeEvent event).2 = (RawMapEvent.blockStored event).runsShort := by
  unfold storeEvent RawMapEvent.runsShort
  dsimp only
  cases event.storedSize with
  | none => rfl
  | some blockSize => exact storeBlocks_short _ _ _ _ _ _

/-- The status after one event. -/
theorem NodeEntry.processEvent_status (e : NodeEntry) (event : RawMapEvent) :
    (e.processEvent event).gpuCatalogStatus
      = if event.runsShort then .degraded else e.gpuCatalogStatus := by
  cases event with
  | allBlocksCleared => rfl
  | blockRemoved event => rfl
  | blockStored event =>
      simp only [processEvent, storeEvent, GpuCatalog.storeEvent_short]

/-- The catalog after one event depends on the catalog before it only. -/
theorem NodeEntry.processEvent_catalog (e : NodeEntry) (event : RawMapEvent) :
    (e.processEvent event).catalog = e.catalog.applyEvent event := by
  cases event <;> rfl

@[simp] theorem NodeEntry.processEvent_lastSequence (e : NodeEntry)
    (event : RawMapEvent) :
    (e.processEvent event).lastSequence = e.lastSequence := by
  cases event <;> rfl

/-- The same node but for its block size. -/
def NodeState.Resized (node node' : NodeState) : Prop :=
  ∃ size, node' = { node with gpuBlockSize := size }

/-- A node that is not touched keeps its size. -/
theorem NodeState.Resized.refl (node : NodeState) : node.Resized node :=
  ⟨node.gpuBlockSize, rfl⟩

theorem NodeState.Resized.trans {node node' node'' : NodeState}
    (h : node.Resized node') (h' : node'.Resized node'') :
    node.Resized node'' := by
  obtain ⟨size, rfl⟩ := h
  obtain ⟨size', rfl⟩ := h'
  exact ⟨size', rfl⟩

/-- An event tells the block size of its node and nothing else. -/
theorem NodeEntry.processEvent_node (e : NodeEntry) (event : RawMapEvent) :
    e.node.Resized (e.processEvent event).node := by
  cases event with
  | allBlocksCleared => exact .refl _
  | blockRemoved event => exact .refl _
  | blockStored event =>
      simp only [processEvent, storeEvent]
      cases event.storedSize with
      | none => exact .refl _
      | some size => exact ⟨some event.blockSize, rfl⟩

/-- The catalog after a list of events. -/
theorem NodeEntry.foldl_processEvent_catalog (events : List RawMapEvent)
    (e : NodeEntry) :
    (events.foldl NodeEntry.processEvent e).catalog
      = events.foldl GpuCatalog.applyEvent e.catalog := by
  induction events generalizing e with
  | nil => rfl
  | cons event events ih =>
      rw [List.foldl_cons, List.foldl_cons, ih, processEvent_catalog]

/-- The status after a list of events. -/
theorem NodeEntry.foldl_processEvent_status (events : List RawMapEvent)
    (e : NodeEntry) :
    (events.foldl NodeEntry.processEvent e).gpuCatalogStatus
      = if events.any RawMapEvent.runsShort then .degraded
        else e.gpuCatalogStatus := by
  induction events generalizing e with
  | nil => rfl
  | cons event events ih =>
      rw [List.foldl_cons, ih, processEvent_status, List.any_cons]
      cases event.runsShort <;> simp

theorem NodeEntry.foldl_processEvent_lastSequence (events : List RawMapEvent)
    (e : NodeEntry) :
    (events.foldl NodeEntry.processEvent e).lastSequence = e.lastSequence := by
  induction events generalizing e with
  | nil => rfl
  | cons event events ih => rw [List.foldl_cons, ih, processEvent_lastSequence]

/-- Events change nothing of a node but its block size. -/
theorem NodeEntry.foldl_processEvent_node (events : List RawMapEvent)
    (e : NodeEntry) :
    e.node.Resized (events.foldl NodeEntry.processEvent e).node := by
  induction events generalizing e with
  | nil => exact .refl _
  | cons event events ih =>
      rw [List.foldl_cons]
      exact (e.processEvent_node event).trans (ih _)

section Payload

variable {decode : Bytes → Option RawMapEventBatch}

/-- The catalog after a payload. -/
theorem NodeEntry.processRawPayload_catalog (e : NodeEntry) (payload : Bytes) :
    (e.processRawPayload decode payload).1.catalog
      = e.catalog.applyPayload decode payload := by
  unfold processRawPayload GpuCatalog.applyPayload
  cases decode payload with
  | none => rfl
  | some batch => exact foldl_processEvent_catalog batch.events e

/-- The status after a payload. -/
theorem NodeEntry.processRawPayload_status (e : NodeEntry) (payload : Bytes) :
    (e.processRawPayload decode payload).1.gpuCatalogStatus
      = if degrades decode payload then .degraded
        else e.gpuCatalogStatus := by
  unfold processRawPayload degrades
  cases decode payload with
  | none => rfl
  | some batch => exact foldl_processEvent_status batch.events e

@[simp] theorem NodeEntry.processRawPayload_lastSequence (e : NodeEntry)
    (payload : Bytes) :
    (e.processRawPayload decode payload).1.lastSequence = e.lastSequence := by
  unfold processRawPayload
  cases decode payload with
  | none => rfl
  | some batch => exact foldl_processEvent_lastSequence batch.events e

theorem NodeEntry.processRawPayload_node (e : NodeEntry) (payload : Bytes) :
    e.node.Resized (e.processRawPayload decode payload).1.node := by
  unfold processRawPayload
  cases decode payload with
  | none => exact .refl _
  | some batch => exact foldl_processEvent_node batch.events e

/-- `process_raw_payload` returns whether the payload decoded. -/
theorem NodeEntry.processRawPayload_snd (e : NodeEntry) (payload : Bytes) :
    (e.processRawPayload decode payload).2 = (decode payload).isSome := by
  unfold processRawPayload
  cases decode payload <;> rfl

end Payload

-- ==================================================== one wire encoding

/-- A msgpack string of fewer than 32 ASCII characters. -/
def fixstr (s : String) : Bytes :=
  UInt8.ofNat (160 + s.length) :: s.toList.map fun c => UInt8.ofNat c.toNat

/-- The msgpack of a batch, stamped 0.0, whose one event stores one GPU
block of two tokens. Each number is a one-byte integer; the parent may
also be `0xc0`, nil. -/
def oneBlockPayload (blockHash parent token token' : UInt8) : Bytes :=
  [0x92, 0xcb, 0, 0, 0, 0, 0, 0, 0, 0, 0x91, 0x86]
    ++ fixstr "type" ++ fixstr "BlockStored"
    ++ fixstr "block_hashes" ++ [0x91, blockHash]
    ++ fixstr "parent_block_hash" ++ [parent]
    ++ fixstr "token_ids" ++ [0x92, token, token']
    ++ fixstr "block_size" ++ [2]
    ++ fixstr "medium" ++ fixstr "GPU"

/-- The payloads of the examples are not empty. -/
theorem oneBlockPayload_ne_nil (blockHash parent token token' : UInt8) :
    oneBlockPayload blockHash parent token token' ≠ [] := by
  simp [oneBlockPayload]

/-- A decoder that knows these payloads only, for running the model on
concrete bytes. -/
def oneBlockDecode (payload : Bytes) : Option RawMapEventBatch :=
  let blockHash := payload.getD 43 0
  let parent := payload.getD 62 0
  let token := payload.getD 74 0
  let token' := payload.getD 75 0
  if payload = oneBlockPayload blockHash parent token token'
      ∧ blockHash < 128 ∧ (parent < 128 ∨ parent = 0xc0)
      ∧ token < 128 ∧ token' < 128 then
    some ⟨[.blockStored {
      blockHashes := [.int blockHash.toNat]
      parentBlockHash := if parent = 0xc0 then none else some (.int parent.toNat)
      tokenIds := [token.toNat, token'.toNat]
      blockSize := 2
      medium := some "GPU" }]⟩
  else none

example : oneBlockDecode (oneBlockPayload 7 0xc0 1 2)
    = some ⟨[.blockStored ⟨[.int 7], none, [1, 2], 2, some "GPU", none⟩]⟩ := by
  decide

example : oneBlockDecode [0xc1] = none := by decide

end Kareserve
