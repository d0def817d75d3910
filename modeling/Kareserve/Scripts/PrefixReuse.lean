/-
The offline analysis of prefix reuse (`scripts/analyze_prefix_reuse.py`).

The sample and its tokens come from the dataset and the tokenizer; `main`
is modelled from there on, as a function of the token lists. A `TrieNode`
is a node with its children, as a value: the walk that inserts a prompt
changes the nodes it passes, `insert` is the root it leaves.
-/
import Kareserve.Lib.Trie
import Kareserve.State
import Mathlib.Algebra.BigOperators.Group.List.Basic
import Mathlib.Algebra.GroupWithZero.Nat
import Mathlib.Data.Finset.Insert

namespace Kareserve

/-- `TrieNode`: the children are keyed by blocks of tokens. -/
abbrev TrieNode := Trie (List Token)

/-- The arguments that `main` reads again after it has its sample. -/
structure ReuseArgs where
  dataset : String
  seed : ℤ := 0
  blockSize : ℤ := 16

/-- `block_size`. -/
def ReuseArgs.usedBlockSize (args : ReuseArgs) : ℕ :=
  (max 1 args.blockSize).toNat

/-- `blocks`: the full blocks of a prompt. -/
def promptBlocks (blockSize : ℕ) (tokenIds : List Token) : List (List Token) :=
  (List.range (tokenIds.length / blockSize)).map fun index =>
    (tokenIds.take ((index + 1) * blockSize)).drop (index * blockSize)

/-- The loop that looks up one block after another; `reusableBlocks` counts
those found so far. -/
def countReusable (node : TrieNode) (reusableBlocks : ℕ) :
    List (List Token) → ℕ
  | [] => reusableBlocks
  | block :: blocks =>
      match node.child block with
      | none => reusableBlocks
      | some child => countReusable child (reusableBlocks + 1) blocks

/-- The locals of `main` that the loop over the requests writes. -/
structure PrefixReuse where
  root : TrieNode := .empty
  reusableLengths : List ℕ := []
  promptLengths : List ℕ := []
  exactPrompts : Finset (List Token) := ∅
  exactDuplicates : ℕ := 0

namespace PrefixReuse

/-- The body of the loop: the look-up comes before the insertion. -/
def observe (blockSize : ℕ) (s : PrefixReuse) (tokenIds : List Token) :
    PrefixReuse where
  root := s.root.insert (promptBlocks blockSize tokenIds)
  reusableLengths := s.reusableLengths
    ++ [countReusable s.root 0 (promptBlocks blockSize tokenIds) * blockSize]
  promptLengths := s.promptLengths ++ [tokenIds.length]
  exactPrompts := insert tokenIds s.exactPrompts
  exactDuplicates :=
    if tokenIds ∈ s.exactPrompts then s.exactDuplicates + 1
    else s.exactDuplicates

/-- The loop over the prompts. -/
def analyze (blockSize : ℕ) (prompts : List (List Token)) : PrefixReuse :=
  prompts.foldl (observe blockSize) {}

end PrefixReuse

/-- `result`. -/
structure ReuseResult where
  dataset : String
  seed : ℤ
  sampledRequests : ℕ
  blockSize : ℕ
  totalPromptTokens : ℕ
  requestsWithReusablePrefix : ℕ
  exactPromptDuplicates : ℕ
  totalReusablePrefixTokens : ℕ
  reusablePrefixTokenRatio : ℚ
  meanReusablePrefixTokens : ℚ
  maxReusablePrefixTokens : ℕ

/-- `main`, once the prompts are tokenized. -/
def analyzePrefixReuse (args : ReuseArgs) (prompts : List (List Token)) :
    ReuseResult :=
  let s := PrefixReuse.analyze args.usedBlockSize prompts
  let totalPromptTokens := s.promptLengths.sum
  let totalReusableTokens := s.reusableLengths.sum
  { dataset := args.dataset
    seed := args.seed
    sampledRequests := prompts.length
    blockSize := args.usedBlockSize
    totalPromptTokens
    requestsWithReusablePrefix :=
      s.reusableLengths.countP fun length => 0 < length
    exactPromptDuplicates := s.exactDuplicates
    totalReusablePrefixTokens := totalReusableTokens
    reusablePrefixTokenRatio :=
      if totalPromptTokens ≠ 0 then totalReusableTokens / totalPromptTokens
      else 0
    meanReusablePrefixTokens :=
      if prompts ≠ [] then totalReusableTokens / prompts.length else 0
    maxReusablePrefixTokens := s.reusableLengths.max?.getD 0 }

end Kareserve
