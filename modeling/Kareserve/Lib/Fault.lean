/-
Computations that can fail, by the faults of their checks.

A computation in `Except` makes its checks one after another and fails
with the first that fails. `FailsFirst x faults` says that `x` does so for
a list of faults that is known without running it: with none it succeeds,
and else it fails with the head of the list. The list of a sequence is the
lists in sequence (`FailsFirst.bind`, `FailsFirst.mapM`), whatever values
the earlier steps pass on.

`Returns x a` is about the other outcome: if `x` succeeds, it is with `a`.
It relates a computation that can fail to one that cannot, step by step.
`FailsOnly P x` bounds the faults where their list is not known: they all
have the property `P`.
-/
import Mathlib.Data.List.Basic
import Mathlib.Data.List.Forall2
import Mathlib.Data.List.Induction

universe u

namespace Fault

variable {ε ε' α β : Type u}

/-- A computation that fails with the first of a list of faults. -/
def FailsFirst (x : Except ε α) (faults : List ε) : Prop :=
  match faults with
  | [] => ∃ a, x = .ok a
  | fault :: _ => x = .error fault

namespace FailsFirst

variable {x : Except ε α} {faults faults' : List ε}

theorem ok (a : α) : FailsFirst (.ok a : Except ε α) [] := ⟨a, rfl⟩

theorem error (fault : ε) (faults : List ε) :
    FailsFirst (.error fault : Except ε α) (fault :: faults) := rfl

/-- What a failure comes from. -/
theorem error_iff (h : FailsFirst x faults) {fault : ε} :
    x = .error fault ↔ faults.head? = some fault := by
  cases faults with
  | nil =>
      obtain ⟨a, ha⟩ := h
      rw [ha]
      exact iff_of_false (fun hx => by cases hx) fun hnil => by cases hnil
  | cons fault' faults =>
      have hx : x = .error fault' := h
      rw [hx, List.head?_cons]
      constructor
      · intro heq
        injection heq with heq
        rw [heq]
      · intro heq
        injection heq with heq
        rw [heq]

/-- When nothing fails. -/
theorem ok_iff (h : FailsFirst x faults) :
    (∃ a, x = .ok a) ↔ faults = [] := by
  cases faults with
  | nil => exact iff_of_true h rfl
  | cons fault faults =>
      have hx : x = .error fault := h
      rw [hx]
      constructor
      · rintro ⟨a, ha⟩
        cases ha
      · intro hnil
        cases hnil

/-- One computation after another. -/
theorem bind {f : α → Except ε β} (h : FailsFirst x faults)
    (h' : ∀ a, x = .ok a → FailsFirst (f a) faults') :
    FailsFirst (x >>= f) (faults ++ faults') := by
  cases faults with
  | nil =>
      obtain ⟨a, ha⟩ := h
      rw [ha]
      exact h' a ha
  | cons fault faults =>
      have hx : x = .error fault := h
      rw [hx]
      rfl

/-- A function of the result. -/
theorem map (h : FailsFirst x faults) (f : α → β) :
    FailsFirst (f <$> x) faults := by
  cases faults with
  | nil =>
      obtain ⟨a, ha⟩ := h
      rw [ha]
      exact ⟨f a, rfl⟩
  | cons fault faults =>
      have hx : x = .error fault := h
      rw [hx]
      rfl

/-- Faults under another name. -/
theorem mapError (h : FailsFirst x faults) (f : ε → ε') :
    FailsFirst (x.mapError f) (faults.map f) := by
  cases faults with
  | nil =>
      obtain ⟨a, ha⟩ := h
      rw [ha]
      exact ⟨a, rfl⟩
  | cons fault faults =>
      have hx : x = .error fault := h
      rw [hx]
      rfl

/-- One element after another. -/
theorem mapM {f : α → Except ε β} {faultsOf : α → List ε} {l : List α}
    (h : ∀ a ∈ l, FailsFirst (f a) (faultsOf a)) :
    FailsFirst (l.mapM f) (l.flatMap faultsOf) := by
  induction l with
  | nil => exact ok _
  | cons a l ih =>
      rw [List.mapM_cons, List.flatMap_cons]
      apply (h a (List.mem_cons_self ..)).bind
      intro b _
      have hrest := ih fun c hc => h c (List.mem_cons_of_mem _ hc)
      rw [← List.append_nil (l.flatMap faultsOf)]
      apply hrest.bind
      intro bs _
      exact ok _

/-- A loop that updates a value. -/
theorem foldlM {f : β → α → Except ε β} {faultsOf : α → List ε}
    {l : List α} (h : ∀ a ∈ l, ∀ b, FailsFirst (f b a) (faultsOf a)) (b : β) :
    FailsFirst (l.foldlM f b) (l.flatMap faultsOf) := by
  induction l generalizing b with
  | nil => exact ok _
  | cons a l ih =>
      rw [List.foldlM_cons, List.flatMap_cons]
      apply (h a (List.mem_cons_self ..) b).bind
      intro b' _
      exact ih (fun c hc => h c (List.mem_cons_of_mem _ hc)) b'

end FailsFirst

theorem bind_ok {x : Except ε α} {a : α} (h : x = .ok a)
    (f : α → Except ε β) : x >>= f = f a := by
  rw [h]
  rfl

/-- Two sequences that go on alike from what their first step returns. -/
theorem bind_congr {x : Except ε α} {f g : α → Except ε β}
    (h : ∀ a, x = .ok a → f a = g a) : x >>= f = x >>= g := by
  cases x with
  | error fault => rfl
  | ok a => exact h a rfl

/-- The steps of a sequence that succeeds. -/
theorem exists_of_bind {x : Except ε α} {f : α → Except ε β} {b : β}
    (h : x >>= f = .ok b) : ∃ a, x = .ok a ∧ f a = .ok b := by
  cases x with
  | error fault => cases h
  | ok a => exact ⟨a, rfl, h⟩

/-- The step that a sequence fails in. -/
theorem error_of_bind {x : Except ε α} {f : α → Except ε β} {fault : ε}
    (h : x >>= f = .error fault) :
    x = .error fault ∨ ∃ a, x = .ok a ∧ f a = .error fault := by
  cases x with
  | error fault' =>
      injection h with h
      exact Or.inl (congrArg _ h)
  | ok a => exact Or.inr ⟨a, rfl, h⟩

theorem error_of_mapM {f : α → Except ε β} {l : List α} {fault : ε}
    (h : l.mapM f = .error fault) : ∃ a ∈ l, f a = .error fault := by
  induction l with
  | nil => cases h
  | cons a l ih =>
      rw [List.mapM_cons] at h
      rcases error_of_bind h with h | ⟨b, -, h⟩
      · exact ⟨a, List.mem_cons_self .., h⟩
      · rcases error_of_bind h with h | ⟨bs, -, h⟩
        · obtain ⟨c, hc, hfc⟩ := ih h
          exact ⟨c, List.mem_cons_of_mem _ hc, hfc⟩
        · cases h

/-- A sequence of computations that all succeed. -/
theorem mapM_ok {f : α → Except ε β} {g : α → β} {l : List α}
    (h : ∀ a ∈ l, f a = .ok (g a)) : l.mapM f = .ok (l.map g) := by
  induction l with
  | nil => rfl
  | cons a l ih =>
      rw [List.mapM_cons, h a (List.mem_cons_self ..),
        ih fun c hc => h c (List.mem_cons_of_mem _ hc)]
      rfl

/-- A loop over `Option` of which no step fails. -/
theorem mapM_of_forall_some {α β : Type*} {f : α → Option β} {g : α → β}
    {l : List α} (h : ∀ a ∈ l, f a = some (g a)) :
    l.mapM f = some (l.map g) := by
  induction l with
  | nil => rfl
  | cons a l ih =>
      rw [List.mapM_cons, h a (List.mem_cons_self ..),
        ih fun b hb => h b (List.mem_cons_of_mem _ hb)]
      rfl

/-- What a loop returns, element by element. -/
theorem forall₂_of_mapM {f : α → Except ε β} {l : List α} {l' : List β}
    (h : l.mapM f = .ok l') : List.Forall₂ (fun a b => f a = .ok b) l l' := by
  induction l generalizing l' with
  | nil =>
      injection h with h
      rw [← h]
      exact .nil
  | cons a l ih =>
      rw [List.mapM_cons] at h
      obtain ⟨b, ha, h⟩ := exists_of_bind h
      obtain ⟨bs, hl, h⟩ := exists_of_bind h
      injection h with h
      rw [← h]
      exact .cons ha (ih hl)

theorem mapM_of_forall₂ {f : α → Except ε β} {l : List α} {l' : List β}
    (h : List.Forall₂ (fun a b => f a = .ok b) l l') : l.mapM f = .ok l' := by
  induction h with
  | nil => rfl
  | cons ha _ ih =>
      rw [List.mapM_cons, ha, ih]
      rfl

/-- A loop whose steps return what `g` says, where they return. -/
theorem eq_map_of_mapM {f : α → Except ε β} {g : α → β} {l : List α}
    {l' : List β} (h : l.mapM f = .ok l')
    (hg : ∀ a ∈ l, ∀ b, f a = .ok b → b = g a) : l' = l.map g := by
  have hall := forall₂_of_mapM h
  clear h
  induction hall with
  | nil => rfl
  | @cons a b l l' ha _ ih =>
      rw [List.map_cons, hg a (List.mem_cons_self ..) b ha,
        ih fun c hc => hg c (List.mem_cons_of_mem _ hc)]

/-- A sequence that succeeds has succeeded at every element. -/
theorem exists_ok_of_mapM {f : α → Except ε β} {l : List α} {l' : List β}
    (h : l.mapM f = .ok l') {a : α} (ha : a ∈ l) : ∃ b, f a = .ok b := by
  have hall := forall₂_of_mapM h
  clear h
  induction hall with
  | nil => cases ha
  | @cons a' b l l' ha' _ ih =>
      rcases List.mem_cons.mp ha with rfl | ha
      · exact ⟨b, ha'⟩
      · exact ih ha

/-- What a step of the loop returns is in what the loop returns. -/
theorem mem_of_mapM {f : α → Except ε β} {l : List α} {l' : List β}
    (h : l.mapM f = .ok l') {a : α} (ha : a ∈ l) {b : β} (hb : f a = .ok b) :
    b ∈ l' := by
  have hall := forall₂_of_mapM h
  clear h
  induction hall with
  | nil => cases ha
  | @cons a' b' l l' ha' _ ih =>
      rcases List.mem_cons.mp ha with rfl | ha
      · rw [ha'] at hb
        injection hb with hb
        rw [hb]
        exact List.mem_cons_self ..
      · exact List.mem_cons_of_mem _ (ih ha)

/-- Every result of a sequence comes from one of its elements. -/
theorem exists_of_mem_mapM {f : α → Except ε β} {l : List α} {l' : List β}
    (h : l.mapM f = .ok l') {b : β} (hb : b ∈ l') :
    ∃ a ∈ l, f a = .ok b := by
  have hall := forall₂_of_mapM h
  clear h
  induction hall with
  | nil => cases hb
  | @cons a b' l l' ha _ ih =>
      rcases List.mem_cons.mp hb with rfl | hb
      · exact ⟨a, List.mem_cons_self .., ha⟩
      · obtain ⟨c, hc, hfc⟩ := ih hb
        exact ⟨c, List.mem_cons_of_mem _ hc, hfc⟩

-- ============================================================ successes

/-- Two computations in sequence succeed when both do. -/
theorem bind_ok_iff {x : Except ε α} {f : α → Except ε β} :
    (∃ b, x >>= f = .ok b) ↔ ∃ a, x = .ok a ∧ ∃ b, f a = .ok b := by
  constructor
  · rintro ⟨b, h⟩
    obtain ⟨a, hx, hf⟩ := exists_of_bind h
    exact ⟨a, hx, b, hf⟩
  · rintro ⟨a, hx, b, hf⟩
    exact ⟨b, (bind_ok hx f).trans hf⟩

theorem map_ok_iff {x : Except ε α} {f : α → β} :
    (∃ b, f <$> x = .ok b) ↔ ∃ a, x = .ok a := by
  cases x with
  | error fault =>
      exact iff_of_false (fun ⟨b, h⟩ => by cases h) fun ⟨a, h⟩ => by cases h
  | ok a => exact iff_of_true ⟨f a, rfl⟩ ⟨a, rfl⟩

theorem mapM_ok_iff {f : α → Except ε β} {l : List α} :
    (∃ l', l.mapM f = .ok l') ↔ ∀ a ∈ l, ∃ b, f a = .ok b := by
  constructor
  · rintro ⟨l', h⟩ a ha
    exact exists_ok_of_mapM h ha
  · intro h
    induction l with
    | nil => exact ⟨[], rfl⟩
    | cons a l ih =>
        obtain ⟨b, hb⟩ := h a (List.mem_cons_self ..)
        obtain ⟨bs, hbs⟩ := ih fun c hc => h c (List.mem_cons_of_mem _ hc)
        rw [List.mapM_cons]
        exact ⟨b :: bs, (bind_ok hb _).trans (bind_ok hbs _)⟩

-- ================================================================= loops

/-- What every step of a loop keeps holds of what the loop returns. -/
theorem foldlM_invariant {f : β → α → Except ε β} {I : List α → β → Prop}
    {l : List α} {b b' : β} (hinit : I [] b)
    (hstep : ∀ done a b b', done ++ [a] <+: l → I done b → f b a = .ok b' →
      I (done ++ [a]) b')
    (h : l.foldlM f b = .ok b') : I l b' := by
  induction l using List.reverseRecOn generalizing b' with
  | nil =>
      injection h with h
      rw [← h]
      exact hinit
  | append_singleton l a ih =>
      rw [List.foldlM_append] at h
      obtain ⟨b₁, hl, h⟩ := exists_of_bind h
      obtain ⟨b₂, ha, h⟩ := exists_of_bind h
      injection h with h
      rw [← h]
      refine hstep l a b₁ b₂ (List.prefix_refl _) (ih ?_ hl) ha
      exact fun done c b b' hleads =>
        hstep done c b b' (hleads.trans (List.prefix_append _ _))

/-- A loop whose every step goes through goes through. -/
theorem exists_foldlM {f : β → α → Except ε β} {I : List α → β → Prop}
    {l : List α} {b : β} (hinit : I [] b)
    (hstep : ∀ done a b, done ++ [a] <+: l → I done b →
      ∃ b', f b a = .ok b' ∧ I (done ++ [a]) b') :
    ∃ b', l.foldlM f b = .ok b' ∧ I l b' := by
  induction l using List.reverseRecOn with
  | nil => exact ⟨b, rfl, hinit⟩
  | append_singleton l a ih =>
      obtain ⟨b₁, hl, hb₁⟩ := ih fun done c b hleads =>
        hstep done c b (hleads.trans (List.prefix_append _ _))
      obtain ⟨b₂, ha, hb₂⟩ := hstep l a b₁ (List.prefix_refl _) hb₁
      refine ⟨b₂, ?_, hb₂⟩
      rw [List.foldlM_append, bind_ok hl]
      exact bind_ok ha _

-- ======================================================= kinds of faults

/-- A computation all of whose faults are of a kind. -/
def FailsOnly (P : ε → Prop) (x : Except ε α) : Prop :=
  ∀ fault, x = .error fault → P fault

namespace FailsOnly

variable {P : ε → Prop} {x : Except ε α}

theorem ok (a : α) : FailsOnly P (.ok a : Except ε α) :=
  fun _ h => by cases h

/-- One computation after another, by what the first has returned. -/
theorem bind {f : α → Except ε β} (h : FailsOnly P x)
    (h' : ∀ a, x = .ok a → FailsOnly P (f a)) : FailsOnly P (x >>= f) := by
  intro fault hfault
  rcases error_of_bind hfault with hx | ⟨a, hx, hf⟩
  · exact h fault hx
  · exact h' a hx fault hf

/-- One element after another. -/
theorem mapM {f : α → Except ε β} {l : List α}
    (h : ∀ a ∈ l, FailsOnly P (f a)) : FailsOnly P (l.mapM f) := by
  intro fault hfault
  obtain ⟨a, ha, hfa⟩ := error_of_mapM hfault
  exact h a ha fault hfa

/-- A loop that updates a value. -/
theorem foldlM {f : β → α → Except ε β} {l : List α}
    (h : ∀ b, ∀ a ∈ l, FailsOnly P (f b a)) (b : β) :
    FailsOnly P (l.foldlM f b) := by
  induction l generalizing b with
  | nil => exact ok b
  | cons a l ih =>
      rw [List.foldlM_cons]
      refine (h b a (List.mem_cons_self ..)).bind fun b' _ => ?_
      exact ih (fun b c hc => h b c (List.mem_cons_of_mem _ hc)) b'

end FailsOnly

-- ============================================================== one value

/-- A computation that returns `a` if it returns. -/
def Returns (x : Except ε α) (a : α) : Prop := ∀ b, x = .ok b → b = a

namespace Returns

variable {x : Except ε α} {a : α} {b : β}

theorem ok (a : α) : Returns (.ok a : Except ε α) a := by
  intro b h
  injection h with h
  exact h.symm

theorem error (fault : ε) (a : α) : Returns (.error fault : Except ε α) a := by
  intro b h
  cases h

/-- A check has one thing to return. -/
theorem check (x : Except ε PUnit) : Returns x ⟨⟩ := fun _ _ => rfl

/-- One computation after another. -/
theorem bind {f : α → Except ε β} (h : Returns x a) (h' : Returns (f a) b) :
    Returns (x >>= f) b := by
  intro c hc
  obtain ⟨a', ha, hf⟩ := exists_of_bind hc
  rw [h a' ha] at hf
  exact h' c hf

/-- A function of the result. -/
theorem map (h : Returns x a) (f : α → β) : Returns (f <$> x) (f a) := by
  intro c hc
  cases x with
  | error fault => cases hc
  | ok a' =>
      injection hc with hc
      rw [← hc, h a' rfl]

/-- One element after another. -/
theorem mapM {f : α → Except ε β} {g : α → β} {l : List α}
    (h : ∀ a ∈ l, Returns (f a) (g a)) : Returns (l.mapM f) (l.map g) :=
  fun _ hb => eq_map_of_mapM hb h

end Returns

end Fault
