/-
Tries: words read letter by letter from a root, every node with a child
for some of the letters.

`Trie.Holds t w` says that the word can be read from the root. What a trie
holds is closed under prefixes (`Holds.of_prefix`), and an insertion adds
the prefixes of its word and nothing else (`holds_insert_iff`). So a trie
that words were put into holds exactly the prefixes of single words
(`holds_ofWords_iff`): no path runs along one word and on along another
unless they agree up to there.

`Trie.depth t w` is how far a word can be read, the greatest length of a
prefix that is held (`isGreatest_depth`).

The children of a node are a list of pairs. A letter is looked up in it
front to back and written in place or at the end, as in a dict.
-/
import Mathlib.Data.List.Infix
import Mathlib.Order.Bounds.Basic

/-- A node with its children. -/
inductive Trie (α : Type*) where
  | node (children : List (α × Trie α))

namespace Trie

variable {α : Type*} [DecidableEq α]

/-- Write under a key, in place or at the end. -/
def put {β : Type*} (a : α) (b : β) : List (α × β) → List (α × β)
  | [] => [(a, b)]
  | p :: l => if p.1 = a then (a, b) :: l else p :: put a b l

theorem lookup_put {β : Type*} (a a' : α) (b : β) (l : List (α × β)) :
    (put a b l).lookup a' = if a' = a then some b else l.lookup a' := by
  induction l with
  | nil =>
      unfold put
      rw [List.lookup_cons, List.lookup_nil]
      by_cases h : a' = a
      · rw [if_pos h, h, beq_self_eq_true]
      · rw [if_neg h, beq_false_of_ne h]
  | cons p l ih =>
      obtain ⟨c, d⟩ := p
      unfold put
      by_cases hc : c = a
      · subst hc
        rw [if_pos rfl, List.lookup_cons, List.lookup_cons]
        by_cases h : a' = c
        · rw [if_pos h, h, beq_self_eq_true]
        · rw [if_neg h, beq_false_of_ne h]
      · rw [if_neg hc, List.lookup_cons, List.lookup_cons, ih]
        by_cases h : a' = c
        · have hne : a' ≠ a := h ▸ hc
          rw [if_neg hne, if_neg hne, h, beq_self_eq_true]
        · rw [beq_false_of_ne h]

/-- A node without children. -/
def empty : Trie α := node []

/-- The child for a letter. -/
def child : Trie α → α → Option (Trie α)
  | node children, a => children.lookup a

/-- The node with a child for a letter, in place of the one it had. -/
def setChild : Trie α → α → Trie α → Trie α
  | node children, a, t => node (put a t children)

@[simp] theorem child_empty (a : α) : (empty : Trie α).child a = none := rfl

theorem child_setChild (t u : Trie α) (a b : α) :
    (t.setChild a u).child b = if b = a then some u else t.child b := by
  cases t with
  | node children => exact lookup_put a b u children

/-- The trie with a word: every letter finds its child or makes one. -/
def insert (t : Trie α) : List α → Trie α
  | [] => t
  | a :: w => t.setChild a (((t.child a).getD empty).insert w)

/-- The trie of a list of words, put in one after another. -/
def ofWords (words : List (List α)) : Trie α := words.foldl insert empty

/-- The word can be read from the root. -/
def Holds (t : Trie α) : List α → Prop
  | [] => True
  | a :: w => ∃ u, t.child a = some u ∧ u.Holds w

/-- How far a word can be read. -/
def depth (t : Trie α) : List α → ℕ
  | [] => 0
  | a :: w =>
      match t.child a with
      | none => 0
      | some u => u.depth w + 1

-- ======================================================= what is held

theorem holds_empty_iff {w : List α} : (empty : Trie α).Holds w ↔ w = [] := by
  cases w with
  | nil => exact iff_of_true trivial rfl
  | cons a w =>
      refine iff_of_false (fun h => ?_) (List.cons_ne_nil _ _)
      obtain ⟨u, hu, -⟩ := h
      cases hu

/-- The child that an insertion goes on with. -/
theorem holds_getD_child {t : Trie α} {a : α} {w : List α} :
    ((t.child a).getD empty).Holds w ↔ w = [] ∨ t.Holds (a :: w) := by
  cases hchild : t.child a with
  | none =>
      rw [Option.getD_none, holds_empty_iff]
      refine (or_iff_left fun h => ?_).symm
      obtain ⟨u, hu, -⟩ := h
      rw [hchild] at hu
      cases hu
  | some u =>
      rw [Option.getD_some]
      constructor
      · exact fun h => Or.inr ⟨u, hchild, h⟩
      · intro h
        rcases h with rfl | ⟨u', hu', h⟩
        · trivial
        · rw [hchild] at hu'
          injection hu' with hu'
          rwa [hu']

/-- An insertion adds the prefixes of its word. -/
theorem holds_insert_iff {t : Trie α} {w v : List α} :
    (t.insert w).Holds v ↔ t.Holds v ∨ v <+: w := by
  induction w generalizing t v with
  | nil =>
      unfold insert
      rw [List.prefix_nil]
      refine (or_iff_left_of_imp fun h => ?_).symm
      rw [h]
      trivial
  | cons a w ih =>
      cases v with
      | nil => exact iff_of_true trivial (Or.inl trivial)
      | cons b v =>
          unfold insert Holds
          rw [child_setChild, List.cons_prefix_cons]
          -- only the child of the word's own letter changes
          by_cases hab : b = a
          · subst hab
            rw [if_pos rfl]
            -- that child has the rest of the word, or is new with it
            have hhead : (∃ u, some (((t.child b).getD empty).insert w)
                = some u ∧ u.Holds v)
                ↔ (((t.child b).getD empty).insert w).Holds v := by
              constructor
              · intro h
                obtain ⟨u, hu, h⟩ := h
                injection hu with hu
                rwa [hu]
              · exact fun h => ⟨_, rfl, h⟩
            rw [hhead, ih, holds_getD_child]
            constructor
            · intro h
              rcases h with (rfl | h) | h
              · exact Or.inr ⟨rfl, List.nil_prefix⟩
              · exact Or.inl h
              · exact Or.inr ⟨rfl, h⟩
            · intro h
              rcases h with h | ⟨-, h⟩
              · exact Or.inl (Or.inr h)
              · exact Or.inr h
          · rw [if_neg hab]
            exact (or_iff_left fun h => hab h.1).symm

/-- A trie of words holds the prefixes of single words. -/
theorem holds_ofWords_iff {words : List (List α)} {v : List α} :
    (ofWords words).Holds v ↔ v = [] ∨ ∃ w ∈ words, v <+: w := by
  unfold ofWords
  induction words using List.reverseRecOn with
  | nil =>
      rw [List.foldl_nil, holds_empty_iff]
      refine (or_iff_left fun h => ?_).symm
      obtain ⟨w, hw, -⟩ := h
      cases hw
  | append_singleton words w ih =>
      rw [List.foldl_append, List.foldl_cons, List.foldl_nil,
        holds_insert_iff, ih, or_assoc]
      refine or_congr Iff.rfl ?_
      constructor
      · intro h
        rcases h with ⟨u, hu, h⟩ | h
        · exact ⟨u, List.mem_append_left _ hu, h⟩
        · exact ⟨w, List.mem_append_right _ (List.mem_singleton.mpr rfl), h⟩
      · intro h
        obtain ⟨u, hu, h⟩ := h
        rcases List.mem_append.mp hu with hu | hu
        · exact Or.inl ⟨u, hu, h⟩
        · rw [List.mem_singleton.mp hu] at h
          exact Or.inr h

-- ========================================================= the depth

/-- A prefix is held just where it is no longer than the word can be
read. -/
theorem holds_take_iff {t : Trie α} {w : List α} {k : ℕ}
    (hk : k ≤ w.length) : t.Holds (w.take k) ↔ k ≤ t.depth w := by
  induction w generalizing t k with
  | nil =>
      rw [Nat.le_zero.mp hk]
      exact iff_of_true trivial (Nat.zero_le _)
  | cons a w ih =>
      cases k with
      | zero => exact iff_of_true trivial (Nat.zero_le _)
      | succ k =>
          rw [List.take_succ_cons]
          unfold Holds depth
          cases hchild : t.child a with
          | none =>
              refine iff_of_false (fun h => ?_) (Nat.not_succ_le_zero k)
              obtain ⟨u, hu, -⟩ := h
              cases hu
          | some u =>
              have hk' := ih (t := u) (Nat.le_of_succ_le_succ hk)
              constructor
              · intro h
                obtain ⟨u', hu', h⟩ := h
                injection hu' with hu'
                exact Nat.succ_le_succ (hk'.mp (hu' ▸ h))
              · exact fun h => ⟨u, rfl, hk'.mpr (Nat.le_of_succ_le_succ h)⟩

theorem depth_le_length (t : Trie α) (w : List α) :
    t.depth w ≤ w.length := by
  induction w generalizing t with
  | nil => exact Nat.le_refl 0
  | cons a w ih =>
      unfold depth
      split
      · exact Nat.zero_le _
      · exact Nat.succ_le_succ (ih _)

/-- How far a word can be read is the greatest length of a prefix that is
held. -/
theorem isGreatest_depth (t : Trie α) (w : List α) :
    IsGreatest {k | k ≤ w.length ∧ t.Holds (w.take k)} (t.depth w) := by
  have hle := t.depth_le_length w
  constructor
  · exact ⟨hle, (holds_take_iff hle).mpr (Nat.le_refl _)⟩
  · exact fun k hk => (holds_take_iff hk.1).mp hk.2

end Trie
