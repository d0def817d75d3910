/-
The offline analysis measures what an ideal prefix cache would reuse.

A prompt shares `k` leading full blocks with another where both have as
many and the tokens of these agree (`SharesBlocks`). The trie holds the
blocks of the earlier prompts, so what the look-up counts is the largest
`k` that the prompt shares with a single one of them: `Lib/Trie` rules out
a path put together from two.

The ideal cache (`neverEvicting`) keeps every full block that any prompt
had. A block is known by all the tokens up to its end, and a prompt reuses
blocks as long as each is kept.
-/
import Kareserve.Scripts.PrefixReuse
import Mathlib.Algebra.Order.Field.Basic
import Mathlib.Tactic.NormNum

namespace Kareserve

/-- Two prompts agree in their first `k` full blocks. -/
def SharesBlocks (blockSize k : ℕ) (tokenIds tokenIds' : List Token) : Prop :=
  k * blockSize ≤ tokenIds.length ∧ k * blockSize ≤ tokenIds'.length
    ∧ tokenIds.take (k * blockSize) = tokenIds'.take (k * blockSize)

/-- The blocks of a prompt as a prefix cache knows them: by the tokens up
to their end. -/
def blockPrefixes (blockSize : ℕ) (tokenIds : List Token) :
    Set (List Token) :=
  {tokens | ∃ m, 1 ≤ m ∧ m * blockSize ≤ tokenIds.length
    ∧ tokens = tokenIds.take (m * blockSize)}

/-- What a cache holds that takes in the full blocks of every prompt and
evicts none. -/
def neverEvicting (blockSize : ℕ) (prompts : List (List Token)) :
    Set (List Token) :=
  prompts.foldl
    (fun cache tokenIds => cache ∪ blockPrefixes blockSize tokenIds) ∅

/-- A cache holds the first `k` full blocks of a prompt. -/
def CacheHolds (cache : Set (List Token)) (blockSize k : ℕ)
    (tokenIds : List Token) : Prop :=
  k * blockSize ≤ tokenIds.length
    ∧ ∀ m, 1 ≤ m → m ≤ k → tokenIds.take (m * blockSize) ∈ cache

variable {blockSize k : ℕ} {tokenIds tokenIds' : List Token}
  {prompts : List (List Token)}

-- ========================================================= full blocks

@[simp] theorem length_promptBlocks (blockSize : ℕ) (tokenIds : List Token) :
    (promptBlocks blockSize tokenIds).length
      = tokenIds.length / blockSize := by
  unfold promptBlocks
  rw [List.length_map, List.length_range]

/-- Blocks put together are the tokens up to their end. -/
theorem flatten_blocks (blockSize : ℕ) (tokenIds : List Token) (k : ℕ) :
    ((List.range k).map fun index =>
      (tokenIds.take ((index + 1) * blockSize)).drop
        (index * blockSize)).flatten
      = tokenIds.take (k * blockSize) := by
  induction k with
  | zero => rw [Nat.zero_mul]; rfl
  | succ k ih =>
      have hle : k * blockSize ≤ (k + 1) * blockSize :=
        Nat.mul_le_mul_right _ (Nat.le_succ k)
      have htake : tokenIds.take (k * blockSize)
          = (tokenIds.take ((k + 1) * blockSize)).take (k * blockSize) := by
        rw [List.take_take, Nat.min_eq_left hle]
      rw [List.range_succ, List.map_append, List.flatten_append, ih, htake]
      simp only [List.map_cons, List.map_nil, List.flatten_cons,
        List.flatten_nil, List.append_nil]
      exact List.take_append_drop _ _

/-- The first blocks depend on the tokens up to their end only. -/
theorem take_promptBlocks (hsize : 0 < blockSize)
    (hk : k * blockSize ≤ tokenIds.length) :
    (promptBlocks blockSize tokenIds).take k
      = promptBlocks blockSize (tokenIds.take (k * blockSize)) := by
  have hdiv : k ≤ tokenIds.length / blockSize :=
    (Nat.le_div_iff_mul_le hsize).mpr hk
  unfold promptBlocks
  rw [← List.map_take, List.take_range, Nat.min_eq_left hdiv,
    List.length_take_of_le hk, Nat.mul_div_cancel _ hsize]
  refine List.map_congr_left fun index hindex => ?_
  have hle : (index + 1) * blockSize ≤ k * blockSize :=
    Nat.mul_le_mul_right _ (List.mem_range.mp hindex)
  rw [List.take_take, Nat.min_eq_left hle]

theorem flatten_promptBlocks (hsize : 0 < blockSize)
    (hlength : tokenIds.length = k * blockSize) :
    (promptBlocks blockSize tokenIds).flatten = tokenIds := by
  unfold promptBlocks
  rw [flatten_blocks, hlength, Nat.mul_div_cancel _ hsize, ← hlength,
    List.take_length]

/-- The blocks of one prompt begin those of another where the two share
them. -/
theorem sharesBlocks_iff (hsize : 0 < blockSize) :
    k ≤ (promptBlocks blockSize tokenIds).length
        ∧ (promptBlocks blockSize tokenIds).take k
          <+: promptBlocks blockSize tokenIds'
      ↔ SharesBlocks blockSize k tokenIds tokenIds' := by
  rw [length_promptBlocks, Nat.le_div_iff_mul_le hsize]
  unfold SharesBlocks
  refine and_congr_right fun hk => ?_
  constructor
  · intro hprefix
    have hk' := hprefix.length_le
    rw [List.length_take, length_promptBlocks, length_promptBlocks,
      Nat.min_eq_left ((Nat.le_div_iff_mul_le hsize).mpr hk),
      Nat.le_div_iff_mul_le hsize] at hk'
    rw [List.prefix_iff_eq_take, List.length_take, length_promptBlocks,
      Nat.min_eq_left ((Nat.le_div_iff_mul_le hsize).mpr hk),
      take_promptBlocks hsize hk, take_promptBlocks hsize hk'] at hprefix
    have hflatten := congrArg List.flatten hprefix
    rw [flatten_promptBlocks hsize (List.length_take_of_le hk),
      flatten_promptBlocks hsize (List.length_take_of_le hk')] at hflatten
    exact ⟨hk', hflatten⟩
  · intro h
    obtain ⟨hk', htake⟩ := h
    rw [take_promptBlocks hsize hk, htake, ← take_promptBlocks hsize hk']
    exact List.take_prefix _ _

-- ============================================================ the loop

/-- The count of the look-up is the depth. -/
theorem countReusable_eq (node : TrieNode) (reusableBlocks : ℕ)
    (blocks : List (List Token)) :
    countReusable node reusableBlocks blocks
      = reusableBlocks + node.depth blocks := by
  induction blocks generalizing node reusableBlocks with
  | nil => rfl
  | cons block blocks ih =>
      unfold countReusable Trie.depth
      cases node.child block with
      | none => rfl
      | some child =>
          dsimp only
          rw [ih, Nat.add_assoc, Nat.add_comm 1]

namespace PrefixReuse

theorem analyze_snoc (blockSize : ℕ) (prompts : List (List Token))
    (tokenIds : List Token) :
    analyze blockSize (prompts ++ [tokenIds])
      = (analyze blockSize prompts).observe blockSize tokenIds := by
  unfold analyze
  rw [List.foldl_append]
  rfl

/-- The trie holds the blocks of every prompt. -/
theorem analyze_root (blockSize : ℕ) (prompts : List (List Token)) :
    (analyze blockSize prompts).root
      = .ofWords (prompts.map (promptBlocks blockSize)) := by
  induction prompts using List.reverseRecOn with
  | nil => rfl
  | append_singleton prompts tokenIds ih =>
      rw [analyze_snoc, List.map_append]
      unfold observe Trie.ofWords
      rw [ih, List.foldl_append]
      rfl

/-- A prompt is looked up among the earlier ones. -/
theorem analyze_reusableLengths (blockSize : ℕ)
    (prompts : List (List Token)) (tokenIds : List Token) :
    (analyze blockSize (prompts ++ [tokenIds])).reusableLengths
      = (analyze blockSize prompts).reusableLengths
        ++ [(Trie.ofWords (prompts.map (promptBlocks blockSize))).depth
          (promptBlocks blockSize tokenIds) * blockSize] := by
  rw [analyze_snoc]
  unfold observe
  dsimp only
  rw [countReusable_eq, Nat.zero_add, analyze_root]

theorem length_reusableLengths (blockSize : ℕ)
    (prompts : List (List Token)) :
    (analyze blockSize prompts).reusableLengths.length = prompts.length := by
  induction prompts using List.reverseRecOn with
  | nil => rfl
  | append_singleton prompts tokenIds ih =>
      rw [analyze_reusableLengths, List.length_append, List.length_append, ih]
      rfl

/-- What is recorded for a prompt stays as the loop goes on. -/
theorem reusableLengths_getElem? (blockSize : ℕ)
    {prompts : List (List Token)} {i : ℕ} {tokenIds : List Token}
    (hi : prompts[i]? = some tokenIds) :
    (analyze blockSize prompts).reusableLengths[i]?
      = some
        ((Trie.ofWords ((prompts.take i).map (promptBlocks blockSize))).depth
          (promptBlocks blockSize tokenIds) * blockSize) := by
  induction prompts using List.reverseRecOn with
  | nil => cases hi
  | append_singleton prompts last ih =>
      have hlt := (List.getElem?_eq_some_iff.mp hi).1
      rw [List.length_append, List.length_singleton] at hlt
      rw [analyze_reusableLengths]
      by_cases hlast : i = prompts.length
      · subst hlast
        rw [List.getElem?_concat_length] at hi
        injection hi with hi
        rw [← length_reusableLengths blockSize prompts,
          List.getElem?_concat_length, length_reusableLengths,
          List.take_left, hi]
      · have hlt' : i < prompts.length := by omega
        rw [List.getElem?_append_left hlt'] at hi
        rw [List.getElem?_append_left (by
          rw [length_reusableLengths]; exact hlt'), ih hi,
          List.take_append_of_le_length (Nat.le_of_lt hlt')]

end PrefixReuse

-- ======================================================= what it counts

/-- The depth is the largest number of blocks shared with one prompt. -/
theorem isGreatest_sharesBlocks (hsize : 0 < blockSize)
    (prompts : List (List Token)) (tokenIds : List Token) :
    IsGreatest {k | k = 0
        ∨ ∃ tokenIds' ∈ prompts, SharesBlocks blockSize k tokenIds tokenIds'}
      ((Trie.ofWords (prompts.map (promptBlocks blockSize))).depth
        (promptBlocks blockSize tokenIds)) := by
  convert Trie.isGreatest_depth _ (promptBlocks blockSize tokenIds) using 1
  ext k
  rw [Set.mem_ofPred_eq, Set.mem_ofPred_eq, Trie.holds_ofWords_iff]
  constructor
  · intro h
    rcases h with rfl | ⟨tokenIds', hmem, hshares⟩
    · exact ⟨Nat.zero_le _, Or.inl rfl⟩
    · obtain ⟨hk, hprefix⟩ := (sharesBlocks_iff hsize).mpr hshares
      exact ⟨hk, Or.inr ⟨_, List.mem_map_of_mem hmem, hprefix⟩⟩
  · intro h
    rcases h with ⟨hk, hnil | ⟨w, hw, hprefix⟩⟩
    · have hlength := congrArg List.length hnil
      rw [List.length_take_of_le hk] at hlength
      exact Or.inl hlength
    · obtain ⟨tokenIds', hmem, rfl⟩ := List.mem_map.mp hw
      exact Or.inr ⟨tokenIds', hmem, (sharesBlocks_iff hsize).mp ⟨hk, hprefix⟩⟩

theorem mem_neverEvicting_iff {tokens : List Token} :
    tokens ∈ neverEvicting blockSize prompts
      ↔ ∃ tokenIds ∈ prompts, tokens ∈ blockPrefixes blockSize tokenIds := by
  unfold neverEvicting
  induction prompts using List.reverseRecOn with
  | nil =>
      refine iff_of_false (Set.notMem_empty _) fun h => ?_
      obtain ⟨tokenIds, hmem, -⟩ := h
      cases hmem
  | append_singleton prompts last ih =>
      rw [List.foldl_append, List.foldl_cons, List.foldl_nil, Set.mem_union,
        ih]
      constructor
      · intro h
        rcases h with ⟨tokenIds, hmem, h⟩ | h
        · exact ⟨tokenIds, List.mem_append_left _ hmem, h⟩
        · exact ⟨last, List.mem_append_right _ (List.mem_singleton.mpr rfl), h⟩
      · intro h
        obtain ⟨tokenIds, hmem, h⟩ := h
        rcases List.mem_append.mp hmem with hmem | hmem
        · exact Or.inl ⟨tokenIds, hmem, h⟩
        · rw [List.mem_singleton.mp hmem] at h
          exact Or.inr h

/-- The ideal cache holds just the blocks shared with one prompt: the last
of them names the prompt, and its tokens are those of all before it. -/
theorem cacheHolds_neverEvicting_iff (hsize : 0 < blockSize) :
    CacheHolds (neverEvicting blockSize prompts) blockSize k tokenIds
      ↔ k = 0 ∨ ∃ tokenIds' ∈ prompts,
        SharesBlocks blockSize k tokenIds tokenIds' := by
  constructor
  · intro h
    obtain ⟨hk, hheld⟩ := h
    rcases Nat.eq_zero_or_pos k with hzero | hpos
    · exact Or.inl hzero
    obtain ⟨tokenIds', hmem, m, -, hm, htake⟩ :=
      mem_neverEvicting_iff.mp (hheld k hpos (Nat.le_refl k))
    have hlength := congrArg List.length htake
    rw [List.length_take_of_le hk, List.length_take_of_le hm] at hlength
    have hkm : k = m := Nat.eq_of_mul_eq_mul_right hsize hlength
    subst hkm
    exact Or.inr ⟨tokenIds', hmem, hk, hm, htake⟩
  · intro h
    rcases h with rfl | ⟨tokenIds', hmem, hk, hk', htake⟩
    · refine ⟨by rw [Nat.zero_mul]; exact Nat.zero_le _, fun m hm hm' => ?_⟩
      omega
    · refine ⟨hk, fun m hm hmk => ?_⟩
      have hle : m * blockSize ≤ k * blockSize := Nat.mul_le_mul_right _ hmk
      refine mem_neverEvicting_iff.mpr ⟨tokenIds', hmem, m, hm,
        hle.trans hk', ?_⟩
      have hshorter := congrArg (List.take (m * blockSize)) htake
      rwa [List.take_take, List.take_take, Nat.min_eq_left hle] at hshorter

/-- The analysis measures the true maximum. Whatever the block size and the
prompts, the length recorded for a prompt is the block size times the
largest number of leading full blocks that it shares with a single earlier
one, which is what a cache would reuse that holds all earlier full blocks
and evicts none; for the first prompt it is zero. -/
theorem reuse_is_the_true_maximum (args : ReuseArgs)
    (prompts : List (List Token)) :
    let blockSize := args.usedBlockSize
    let lengths := (PrefixReuse.analyze blockSize prompts).reusableLengths
    lengths.length = prompts.length
      ∧ ∀ i tokenIds, prompts[i]? = some tokenIds →
        ∃ k, lengths[i]? = some (blockSize * k)
          ∧ IsGreatest {k | k = 0 ∨ ∃ tokenIds' ∈ prompts.take i,
            SharesBlocks blockSize k tokenIds tokenIds'} k
          ∧ IsGreatest {k | CacheHolds
            (neverEvicting blockSize (prompts.take i)) blockSize k tokenIds} k
          ∧ (i = 0 → k = 0) := by
  intro blockSize lengths
  have hsize : 0 < blockSize := by
    show 0 < (max 1 args.blockSize).toNat
    omega
  refine ⟨PrefixReuse.length_reusableLengths _ _, fun i tokenIds hi => ?_⟩
  have hgreatest := isGreatest_sharesBlocks hsize (prompts.take i) tokenIds
  refine ⟨_, ?_, hgreatest, ?_, ?_⟩
  · rw [Nat.mul_comm]
    exact PrefixReuse.reusableLengths_getElem? blockSize hi
  · simp only [cacheHolds_neverEvicting_iff hsize]
    exact hgreatest
  · intro hzero
    subst hzero
    rcases hgreatest.1 with hzero | ⟨tokenIds', hmem, -⟩
    · exact hzero
    · rw [List.take_zero] at hmem
      cases hmem

/-- No prompt reuses more than it has. -/
theorem PrefixReuse.sum_reusableLengths_le (blockSize : ℕ)
    (prompts : List (List Token)) :
    (analyze blockSize prompts).reusableLengths.sum
      ≤ (analyze blockSize prompts).promptLengths.sum := by
  induction prompts using List.reverseRecOn with
  | nil => exact Nat.le_refl 0
  | append_singleton prompts tokenIds ih =>
      have hdepth := Trie.depth_le_length
        (.ofWords (prompts.map (promptBlocks blockSize)))
        (promptBlocks blockSize tokenIds)
      rw [length_promptBlocks] at hdepth
      have hlast := (Nat.mul_le_mul_right blockSize hdepth).trans
        (Nat.div_mul_le_self _ _)
      have hprompts : (analyze blockSize (prompts ++ [tokenIds])).promptLengths
          = (analyze blockSize prompts).promptLengths ++ [tokenIds.length] := by
        rw [analyze_snoc]
        rfl
      rw [analyze_reusableLengths, hprompts, List.sum_append, List.sum_append,
        List.sum_singleton, List.sum_singleton]
      exact Nat.add_le_add ih hlast

/-- The ratio that is printed is one. -/
theorem reusablePrefixTokenRatio_mem (args : ReuseArgs)
    (prompts : List (List Token)) :
    0 ≤ (analyzePrefixReuse args prompts).reusablePrefixTokenRatio
      ∧ (analyzePrefixReuse args prompts).reusablePrefixTokenRatio ≤ 1 := by
  have hle := PrefixReuse.sum_reusableLengths_le args.usedBlockSize prompts
  unfold analyzePrefixReuse
  dsimp only
  split
  case isTrue hsome =>
    refine ⟨div_nonneg (Nat.cast_nonneg _) (Nat.cast_nonneg _), ?_⟩
    rw [div_le_one (Nat.cast_pos.mpr (Nat.pos_of_ne_zero hsome))]
    exact_mod_cast hle
  case isFalse => exact ⟨le_refl 0, zero_le_one⟩

end Kareserve
