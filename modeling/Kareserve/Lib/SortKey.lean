/-
Sorting and choosing by a key in a linear order: `sorted(l, key=..)`,
which is stable, and `min(l, key=..)`, which takes the first of several
least elements. A tuple of keys is a lexicographic product.

Where no two elements have one key, neither depends on the order of the
list (`sortBy_perm`, `minBy_perm`): a key that ends in an identity makes a
choice canonical. Elements with the same keys are sorted and chosen alike
(`sortBy_map`, `minBy_map`).
-/
import Mathlib.Data.List.Sort

namespace SortKey

variable {α β κ : Type*} [LinearOrder κ]

-- ============================================================== sorting

/-- `sorted(l, key=key)`. -/
def sortBy (key : α → κ) (l : List α) : List α :=
  l.insertionSort fun a b => key a ≤ key b

theorem perm_sortBy (key : α → κ) (l : List α) : (sortBy key l).Perm l :=
  List.perm_insertionSort _ l

@[simp] theorem mem_sortBy {key : α → κ} {l : List α} {a : α} :
    a ∈ sortBy key l ↔ a ∈ l :=
  (perm_sortBy key l).mem_iff

@[simp] theorem length_sortBy (key : α → κ) (l : List α) :
    (sortBy key l).length = l.length :=
  (perm_sortBy key l).length_eq

/-- Sorted lists have their keys in order. -/
theorem pairwise_sortBy (key : α → κ) (l : List α) :
    (sortBy key l).Pairwise fun a b => key a ≤ key b := by
  have : Std.Total (fun a b : α => key a ≤ key b) :=
    ⟨fun a b => le_total (key a) (key b)⟩
  have : IsTrans α fun a b => key a ≤ key b :=
    ⟨fun _ _ _ hab hbc => hab.trans hbc⟩
  exact List.pairwise_insertionSort _ l

/-- With a key of its own for every element, the order of the list does
not matter. -/
theorem sortBy_perm {key : α → κ} {l l' : List α}
    (hkey : ∀ a ∈ l, ∀ b ∈ l, key a = key b → a = b) (hperm : l.Perm l') :
    sortBy key l = sortBy key l' := by
  have hsorted : (sortBy key l).Perm (sortBy key l') :=
    ((perm_sortBy key l).trans hperm).trans (perm_sortBy key l').symm
  refine hsorted.eq_of_pairwise ?_ (pairwise_sortBy key l)
    (pairwise_sortBy key l')
  intro a b ha hb hab hba
  rw [mem_sortBy] at ha hb
  exact hkey a ha b (hperm.mem_iff.mpr hb) (le_antisymm hab hba)

/-- Sorting looks at nothing but the keys. -/
theorem sortBy_map {f : α → β} {key : α → κ} {key' : β → κ}
    (h : ∀ a, key' (f a) = key a) (l : List α) :
    sortBy key' (l.map f) = (sortBy key l).map f := by
  unfold sortBy
  refine (List.map_insertionSort _ _ f l fun a _ b _ => ?_).symm
  rw [h, h]

-- ============================================================= choosing

/-- `min(l, key=key)`, or `none` for an empty list. -/
def minBy (key : α → κ) : List α → Option α
  | [] => none
  | a :: l => some (l.foldl (fun m b => if key b < key m then b else m) a)

/-- The fold keeps a least element of those it has seen. -/
private theorem foldl_min (key : α → κ) (a : α) (l : List α) :
    l.foldl (fun m b => if key b < key m then b else m) a ∈ a :: l
      ∧ ∀ b ∈ a :: l,
        key (l.foldl (fun m b => if key b < key m then b else m) a)
          ≤ key b := by
  induction l generalizing a with
  | nil => simp
  | cons c l ih =>
      rw [List.foldl_cons]
      obtain ⟨hmem, hle⟩ := ih (if key c < key a then c else a)
      have hboth : key (if key c < key a then c else a) ≤ key a
          ∧ key (if key c < key a then c else a) ≤ key c := by
        split
        case isTrue hlt => exact ⟨le_of_lt hlt, le_refl _⟩
        case isFalse hnot => exact ⟨le_refl _, not_lt.mp hnot⟩
      refine ⟨?_, fun b hb => ?_⟩
      · rcases List.mem_cons.mp hmem with heq | hmem
        · rw [heq]
          split <;> simp
        · exact List.mem_cons_of_mem _ (List.mem_cons_of_mem _ hmem)
      · have hhead := hle _ (List.mem_cons_self ..)
        rcases List.mem_cons.mp hb with rfl | hb
        · exact hhead.trans hboth.1
        · rcases List.mem_cons.mp hb with rfl | hb
          · exact hhead.trans hboth.2
          · exact hle b (List.mem_cons_of_mem _ hb)

/-- The minimum is one of the list. -/
theorem mem_of_minBy {key : α → κ} {l : List α} {a : α}
    (h : minBy key l = some a) : a ∈ l := by
  cases l with
  | nil => cases h
  | cons c l =>
      injection h with h
      rw [← h]
      exact (foldl_min key c l).1

/-- No element is below the minimum. -/
theorem minBy_le {key : α → κ} {l : List α} {a : α}
    (h : minBy key l = some a) : ∀ b ∈ l, key a ≤ key b := by
  cases l with
  | nil => cases h
  | cons c l =>
      injection h with h
      rw [← h]
      exact (foldl_min key c l).2

/-- Only an empty list has none. -/
theorem minBy_eq_none {key : α → κ} {l : List α} :
    minBy key l = none ↔ l = [] := by
  cases l with
  | nil => exact iff_of_true rfl rfl
  | cons c l =>
      exact iff_of_false (fun h => by cases h) (List.cons_ne_nil _ _)

/-- The fold of an image keeps the image of what it keeps. -/
private theorem foldl_min_map {f : α → β} {key : α → κ} {key' : β → κ}
    (h : ∀ a, key' (f a) = key a) (l : List α) (a : α) :
    (l.map f).foldl (fun m b => if key' b < key' m then b else m) (f a)
      = f (l.foldl (fun m b => if key b < key m then b else m) a) := by
  induction l generalizing a with
  | nil => rfl
  | cons b l ih =>
      rw [List.map_cons, List.foldl_cons, List.foldl_cons, ← ih, h, h]
      split <;> rfl

/-- Choosing looks at nothing but the keys. -/
theorem minBy_map {f : α → β} {key : α → κ} {key' : β → κ}
    (h : ∀ a, key' (f a) = key a) (l : List α) :
    minBy key' (l.map f) = (minBy key l).map f := by
  cases l with
  | nil => rfl
  | cons a l => exact congrArg some (foldl_min_map h l a)

/-- With a key of its own for every element, the order of the list does
not matter. -/
theorem minBy_perm {key : α → κ} {l l' : List α}
    (hkey : ∀ a ∈ l, ∀ b ∈ l, key a = key b → a = b) (hperm : l.Perm l') :
    minBy key l = minBy key l' := by
  cases h : minBy key l with
  | none =>
      rw [minBy_eq_none] at h
      subst h
      rw [List.nil_perm.mp hperm]
      rfl
  | some a =>
      cases h' : minBy key l' with
      | none =>
          rw [minBy_eq_none] at h'
          subst h'
          rw [List.perm_nil.mp hperm] at h
          cases h
      | some b =>
          have ha := mem_of_minBy h
          have hb := hperm.mem_iff.mpr (mem_of_minBy h')
          rw [hkey a ha b hb (le_antisymm (minBy_le h b hb)
            (minBy_le h' a (hperm.mem_iff.mp ha)))]

end SortKey
