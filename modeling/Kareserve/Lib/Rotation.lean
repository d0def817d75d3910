/-
Taking turns: picks that go round a list of slots, one after another.

`Rotates slots start picks` reads `picks` from the slots in turn, beginning
at the position `start` and going round modulo their number. Turns compose
(`Rotates.append`), so a stretch out of the middle takes turns as well
(`Rotates.of_infix`): nothing depends on where the turns are cut.

`Rotates.count_le` is the balance over any stretch: no slot is picked more
than once oftener than another. The picks of the slot at position `i` are
the positions congruent to `i` among those passed (`Rotates.count_add`),
and these are counted by the quotients and remainders of the two ends
(`Nat.count_modEq_card`).
-/
import Mathlib.Data.Int.CardIntervalMod
import Mathlib.Data.List.Nodup

/-- The picks read the slots in turn, from the position `start` on. -/
def Rotates {α : Type*} (slots : List α) : ℕ → List α → Prop
  | _, [] => True
  | start, a :: picks =>
      slots[start % slots.length]? = some a ∧ Rotates slots (start + 1) picks

namespace Rotates

variable {α : Type*} {slots : List α} {start : ℕ} {picks : List α}

/-- Turns that follow on are turns. -/
theorem append_iff {l l' : List α} :
    Rotates slots start (l ++ l')
      ↔ Rotates slots start l ∧ Rotates slots (start + l.length) l' := by
  induction l generalizing start with
  | nil => exact ⟨fun h => ⟨trivial, h⟩, fun h => h.2⟩
  | cons a l ih =>
      rw [List.cons_append, Rotates, Rotates, ih, and_assoc,
        List.length_cons, Nat.add_assoc, Nat.add_comm 1]

theorem append {l l' : List α} (h : Rotates slots start l)
    (h' : Rotates slots (start + l.length) l') :
    Rotates slots start (l ++ l') :=
  append_iff.mpr ⟨h, h'⟩

theorem singleton {a : α} (h : slots[start % slots.length]? = some a) :
    Rotates slots start [a] :=
  ⟨h, trivial⟩

/-- A stretch of turns takes turns itself. -/
theorem of_infix {window : List α} (h : Rotates slots start picks)
    (hwindow : window <:+: picks) :
    ∃ start', Rotates slots start' window := by
  obtain ⟨before, after, rfl⟩ := hwindow
  exact ⟨_, (append_iff.mp (append_iff.mp h).1).2⟩

variable [DecidableEq α]

/-- The picks of a slot are the positions of its residue. -/
theorem count_add (hslots : slots.Nodup) {i : ℕ} {a : α}
    (ha : slots[i]? = some a) (h : Rotates slots start picks) :
    Nat.count (· ≡ i [MOD slots.length]) start + picks.count a
      = Nat.count (· ≡ i [MOD slots.length]) (start + picks.length) := by
  have hi : i < slots.length := (List.getElem?_eq_some_iff.mp ha).1
  induction picks generalizing start with
  | nil => rfl
  | cons b picks ih =>
      obtain ⟨hb, hrest⟩ := h
      have hnext := ih hrest
      rw [Nat.count_succ] at hnext
      have hturn : start ≡ i [MOD slots.length] ↔ b = a := by
        unfold Nat.ModEq
        rw [Nat.mod_eq_of_lt hi]
        constructor
        · intro heq
          rw [heq, ha] at hb
          exact (Option.some.inj hb).symm
        · intro heq
          rw [heq] at hb
          have hlt := Nat.mod_lt start (Nat.zero_lt_of_lt hi)
          exact (List.getElem?_inj hlt hslots).mp (hb.trans ha.symm)
      rw [List.count_cons, List.length_cons, Nat.add_comm picks.length,
        ← Nat.add_assoc start, ← hnext]
      by_cases heq : b = a
      · rw [if_pos (hturn.mpr heq), if_pos (by simpa using heq)]
        omega
      · rw [if_neg (mt hturn.mp heq), if_neg (by simpa using heq)]
        omega

/-- No slot has two turns more than another. -/
theorem count_le (hslots : slots.Nodup) {a b : α} (ha : a ∈ slots)
    (hb : b ∈ slots) (h : Rotates slots start picks) :
    picks.count a ≤ picks.count b + 1 := by
  obtain ⟨i, hi⟩ := List.mem_iff_getElem?.mp ha
  obtain ⟨j, hj⟩ := List.mem_iff_getElem?.mp hb
  have hi' : i < slots.length := (List.getElem?_eq_some_iff.mp hi).1
  have hj' : j < slots.length := (List.getElem?_eq_some_iff.mp hj).1
  have hpos : 0 < slots.length := by omega
  have hcounta := count_add hslots hi h
  have hcountb := count_add hslots hj h
  simp only [Nat.count_modEq_card _ hpos, Nat.mod_eq_of_lt hi',
    Nat.mod_eq_of_lt hj'] at hcounta hcountb
  -- whichever end has the larger remainder, the two slots' counts are the
  -- same quotient and at most one apart
  split_ifs at hcounta hcountb <;> omega

end Rotates
