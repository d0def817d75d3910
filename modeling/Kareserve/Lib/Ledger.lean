/-
A ledger of outstanding tickets: a multiset of (key, amount) pairs, with
the number of tickets and the sum of their non-negative parts read off
per key. Every ticket that is withdrawn was deposited before, so no read
ever needs a floor: `load_nonneg`, `count_erase` and `load_erase` say
what is left is exactly what was there minus the ticket.

Multisets, not lists, because nothing here depends on the order of
deposits or withdrawals. `count_add`, `load_add` and `load_mono` compare a
ledger with a part of it.
-/
import Mathlib.Algebra.BigOperators.Group.Multiset.Basic
import Mathlib.Algebra.Order.BigOperators.Group.Multiset
import Mathlib.Algebra.Order.Group.Defs
import Mathlib.Data.Multiset.Filter

namespace Ledger

variable {K A : Type*} [DecidableEq K]

-- ============================================================== the count

section Count

/-- The number of tickets under a key. -/
def count (out : Multiset (K × A)) (k : K) : ℕ :=
  out.countP fun t => t.1 = k

@[simp] theorem count_zero (k : K) : count (0 : Multiset (K × A)) k = 0 := by
  simp [count]

theorem count_cons (out : Multiset (K × A)) (t : K × A) (k : K) :
    count (t ::ₘ out) k = count out k + if t.1 = k then 1 else 0 := by
  unfold count
  by_cases h : t.1 = k <;> simp [h]

/-- Withdrawing an outstanding ticket, counted. -/
theorem count_erase [DecidableEq A] {out : Multiset (K × A)} {t : K × A}
    (h : t ∈ out) (k : K) :
    count out k = count (out.erase t) k + if t.1 = k then 1 else 0 := by
  have hout := Multiset.cons_erase h
  rw [← count_cons, hout]

theorem count_add (out out' : Multiset (K × A)) (k : K) :
    count (out + out') k = count out k + count out' k :=
  Multiset.countP_add _ _ _

/-- A ticket counts. -/
theorem count_pos {out : Multiset (K × A)} {t : K × A} (h : t ∈ out) :
    0 < count out t.1 :=
  Multiset.countP_pos.mpr ⟨t, h, rfl⟩

/-- Part of the tickets with the counts of all is all of them. -/
theorem eq_of_le_of_count {out out' : Multiset (K × A)} (h : out ≤ out')
    (hcount : ∀ t ∈ out', count out t.1 = count out' t.1) : out = out' := by
  obtain ⟨rest, rfl⟩ := Multiset.le_iff_exists_add.mp h
  have hnone : rest = 0 := by
    rw [Multiset.eq_zero_iff_forall_notMem]
    intro t ht
    have hsame := hcount t (Multiset.mem_add.mpr (Or.inr ht))
    rw [count_add] at hsame
    have hpos := count_pos ht
    omega
  rw [hnone, add_zero]

end Count

-- =============================================================== the load

variable [AddCommGroup A] [LinearOrder A]

/-- The non-negative parts of the amounts under a key, summed. -/
def load (out : Multiset (K × A)) (k : K) : A :=
  ((out.filter fun t => t.1 = k).map fun t => max 0 t.2).sum

@[simp] theorem load_zero (k : K) : load (0 : Multiset (K × A)) k = 0 := by
  simp [load]

theorem load_cons (out : Multiset (K × A)) (t : K × A) (k : K) :
    load (t ::ₘ out) k = load out k + if t.1 = k then max 0 t.2 else 0 := by
  unfold load
  by_cases h : t.1 = k
  · rw [Multiset.filter_cons_of_pos (p := fun t : K × A => t.1 = k) out h,
      Multiset.map_cons, Multiset.sum_cons, if_pos h, add_comm]
  · rw [Multiset.filter_cons_of_neg (p := fun t : K × A => t.1 = k) out h,
      if_neg h, add_zero]

/-- A key with no tickets carries no load. -/
theorem load_eq_zero_of_count_eq_zero {out : Multiset (K × A)} {k : K}
    (h : count out k = 0) : load out k = 0 := by
  unfold count at h
  rw [Multiset.countP_eq_zero] at h
  unfold load
  rw [Multiset.filter_eq_nil.mpr h]
  simp

/-- No key carries a negative load. -/
theorem load_nonneg [IsOrderedAddMonoid A] (out : Multiset (K × A)) (k : K) :
    0 ≤ load out k := by
  refine Multiset.sum_nonneg fun a ha => ?_
  obtain ⟨t, -, rfl⟩ := Multiset.mem_map.mp ha
  exact le_max_left _ _

theorem load_add (out out' : Multiset (K × A)) (k : K) :
    load (out + out') k = load out k + load out' k := by
  unfold load
  rw [Multiset.filter_add, Multiset.map_add, Multiset.sum_add]

/-- Part of the tickets carries no more than all of them. -/
theorem load_mono [IsOrderedAddMonoid A] {out out' : Multiset (K × A)}
    (h : out ≤ out') (k : K) : load out k ≤ load out' k := by
  obtain ⟨rest, rfl⟩ := Multiset.le_iff_exists_add.mp h
  rw [load_add]
  exact le_add_of_nonneg_right (load_nonneg rest k)

/-- Withdrawing an outstanding ticket, weighed. -/
theorem load_erase {out : Multiset (K × A)} {t : K × A} (h : t ∈ out)
    (k : K) :
    load out k = load (out.erase t) k + if t.1 = k then max 0 t.2 else 0 := by
  have hout := Multiset.cons_erase h
  rw [← load_cons, hout]

end Ledger
