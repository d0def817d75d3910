/-
Runs of a partial step function: the shape every machine of this
development has. A machine is `step : S → A → Option S`; a label is
enabled where `step` is defined, and a run is a list of labels whose
steps all are.

# What is packaged here

- `run` and its append laws: a run of `as ++ bs` is a run of `as`
  followed by a run of `bs`, so a statement about the last state of
  every run is a statement about every state any run visits.
- `Along ok`: every step of a run meets a condition on the state before
  it and its label. Prefix-closed (`along_append`), which is what lets a
  run theorem be read at each intermediate state.
- `run_invariant`: the one induction. What a conditioned step preserves,
  a conditioned run preserves.
- `run_iff_along`: its converse for a defect nothing repairs.
- `trace`: what the steps of a run show, and `run_trace_invariant`, the
  induction for a statement about a state and how it was reached.
- `run_simulates`: a machine whose every step is, seen from a part, a run
  of that part.
- `run_related`: two machines whose states decide their next labels, and
  related states alike, run alike to their ends.
-/
import Mathlib.Data.List.Basic
import Mathlib.Data.List.Forall2
import Mathlib.Data.List.Induction

namespace Lts

variable {S A : Type*} {step : S → A → Option S}

-- ================================================================= runs

/-- Run a list of labels from a state, failing on the first disabled
one. -/
def run (step : S → A → Option S) : S → List A → Option S
  | s, [] => some s
  | s, a :: as => (step s a).bind fun s' => run step s' as

@[simp] theorem run_nil (s : S) : run step s [] = some s := rfl

@[simp] theorem run_cons (s : S) (a : A) (as : List A) :
    run step s (a :: as) = (step s a).bind fun s' => run step s' as := rfl

/-- A run over a concatenation is the two runs in sequence. -/
theorem run_append (s : S) (as bs : List A) :
    run step s (as ++ bs) = (run step s as).bind fun s' => run step s' bs := by
  induction as generalizing s with
  | nil => rfl
  | cons a as ih =>
      cases h : step s a with
      | none => simp [h]
      | some s' => simp [h, ih]

/-- Peeling the first step off a successful run. -/
theorem run_cons_eq_some {s s'' : S} {a : A} {as : List A} :
    run step s (a :: as) = some s''
      ↔ ∃ s', step s a = some s' ∧ run step s' as = some s'' := by
  rw [run_cons, Option.bind_eq_some_iff]

/-- Peeling the last step off a successful run. -/
theorem run_concat_eq_some {s s'' : S} {a : A} {as : List A} :
    run step s (as ++ [a]) = some s''
      ↔ ∃ s', run step s as = some s' ∧ step s' a = some s'' := by
  rw [run_append, Option.bind_eq_some_iff]
  simp [run]

-- ==================================================== conditioned runs

/-- Every step the labels take from `s` meets `ok`, a condition on the
state before the step and its label. -/
def Along (step : S → A → Option S) (ok : S → A → Prop) :
    S → List A → Prop
  | _, [] => True
  | s, a :: as =>
      ok s a ∧ ∀ s', step s a = some s' → Along step ok s' as

@[simp] theorem along_nil (ok : S → A → Prop) (s : S) :
    Along step ok s [] := trivial

/-- Peeling the first step off a conditioned run. -/
theorem along_cons {ok : S → A → Prop} {s s' : S} {a : A} {as : List A}
    (h : step s a = some s') :
    Along step ok s (a :: as) ↔ ok s a ∧ Along step ok s' as := by
  constructor
  · intro hal
    exact ⟨hal.1, hal.2 s' h⟩
  · rintro ⟨hok, hal⟩
    refine ⟨hok, fun s'' hs'' => ?_⟩
    rw [h] at hs''
    injection hs'' with hs''
    exact hs'' ▸ hal

instance decidableAlong {ok : S → A → Prop} [∀ s a, Decidable (ok s a)] :
    ∀ (s : S) (as : List A), Decidable (Along step ok s as)
  | _, [] => isTrue trivial
  | s, a :: as =>
      match h : step s a with
      | none => decidable_of_iff (ok s a)
          ⟨fun hok => ⟨hok, fun s' hs' => by rw [h] at hs'; cases hs'⟩,
            fun hal => hal.1⟩
      | some s' =>
          have : Decidable (Along step ok s' as) := decidableAlong s' as
          decidable_of_iff (ok s a ∧ Along step ok s' as) (along_cons h).symm

/-- A conditioned run splits at any intermediate state. -/
theorem along_append {ok : S → A → Prop} {s s' : S} {as bs : List A}
    (h : run step s as = some s') :
    Along step ok s (as ++ bs)
      ↔ Along step ok s as ∧ Along step ok s' bs := by
  induction as generalizing s with
  | nil =>
      rw [run_nil] at h
      injection h with h
      simp [h]
  | cons a as ih =>
      obtain ⟨s₁, hs₁, hrun⟩ := run_cons_eq_some.mp h
      rw [List.cons_append, along_cons hs₁, along_cons hs₁, ih hrun,
        and_assoc]

/-- The last step of a conditioned run meets the condition where it is
taken. -/
theorem along_concat {ok : S → A → Prop} {s s' : S} {a : A} {as : List A}
    (h : run step s as = some s') :
    Along step ok s (as ++ [a]) ↔ Along step ok s as ∧ ok s' a := by
  rw [along_append h]
  simp [Along]

/-- A condition on the labels alone. -/
theorem along_of_forall {ok : A → Prop} {as : List A} (h : ∀ a ∈ as, ok a)
    (s : S) : Along step (fun _ a => ok a) s as := by
  induction as generalizing s with
  | nil => trivial
  | cons a as ih =>
      exact ⟨h a (List.mem_cons_self ..),
        fun s' _ => ih (fun b hb => h b (List.mem_cons_of_mem _ hb)) s'⟩

/-- A stronger condition on the steps gives a stronger conditioned run,
as long as the invariant the strengthening reads is preserved. -/
theorem Along.imp_of_invariant {ok ok' : S → A → Prop} {I : S → Prop}
    (hstep : ∀ s a s', I s → ok s a → step s a = some s' → I s')
    (himp : ∀ s a, I s → ok s a → ok' s a)
    {s : S} {as : List A} (hs : I s) (h : Along step ok s as) :
    Along step ok' s as := by
  induction as generalizing s with
  | nil => trivial
  | cons a as ih =>
      exact ⟨himp s a hs h.1,
        fun s' hs' => ih (hstep s a s' hs h.1 hs') (h.2 s' hs')⟩

/-- The induction every run theorem uses: an invariant the conditioned
steps preserve holds at the end of every conditioned run. -/
theorem run_invariant {ok : S → A → Prop} {I : S → Prop}
    (hstep : ∀ s a s', I s → ok s a → step s a = some s' → I s')
    {s s' : S} {as : List A} (hs : I s) (hok : Along step ok s as)
    (hrun : run step s as = some s') : I s' := by
  induction as generalizing s with
  | nil =>
      rw [run_nil] at hrun
      injection hrun with hrun
      exact hrun ▸ hs
  | cons a as ih =>
      obtain ⟨s₁, hs₁, hrest⟩ := run_cons_eq_some.mp hrun
      exact ih (hstep s a s₁ hs hok.1 hs₁) (hok.2 s₁ hs₁) hrest

/-- An invariant every step preserves holds at the end of every run. -/
theorem run_preserves {I : S → Prop}
    (hstep : ∀ s a s', I s → step s a = some s' → I s')
    {s s' : S} {as : List A} (hs : I s)
    (hrun : run step s as = some s') : I s' := by
  induction as generalizing s with
  | nil =>
      rw [run_nil] at hrun
      injection hrun with hrun
      exact hrun ▸ hs
  | cons a as ih =>
      obtain ⟨s₁, hs₁, hrest⟩ := run_cons_eq_some.mp hrun
      exact ih (hstep s a s₁ hs hs₁) hrest

/-- A defect that no step repairs, and that a step causes exactly where
it misses the condition, is at the end of a run exactly where some step
missed the condition. -/
theorem run_iff_along {ok : S → A → Prop} {I bad : S → Prop}
    (hstep : ∀ s a s', I s → step s a = some s' →
      I s' ∧ (bad s' ↔ bad s ∨ ¬ ok s a))
    {s s' : S} {as : List A} (hs : I s) (hrun : run step s as = some s') :
    I s' ∧ (bad s' ↔ bad s ∨ ¬ Along step ok s as) := by
  induction as generalizing s with
  | nil =>
      rw [run_nil] at hrun
      injection hrun with hrun
      subst hrun
      exact ⟨hs, Or.inl, fun hor => hor.elim id fun hno => absurd trivial hno⟩
  | cons a as ih =>
      obtain ⟨s₁, hs₁, hrest⟩ := run_cons_eq_some.mp hrun
      obtain ⟨hI₁, hbad₁⟩ := hstep s a s₁ hs hs₁
      obtain ⟨hI', hbad'⟩ := ih hI₁ hrest
      refine ⟨hI', ?_⟩
      rw [hbad', hbad₁, along_cons hs₁, not_and_or, or_assoc]

-- =============================================================== traces

section Trace

variable {O : Type*} (seen : S → A → Option O)

/-- What the steps of a run show. -/
def trace (step : S → A → Option S) : S → List A → List O
  | _, [] => []
  | s, a :: as =>
      (seen s a).toList ++ ((step s a).map fun s' => trace step s' as).getD []

theorem trace_cons {s s' : S} {a : A} (h : step s a = some s') (as : List A) :
    trace seen step s (a :: as) =
      (seen s a).toList ++ trace seen step s' as := by
  rw [trace, h, Option.map_some, Option.getD_some]

theorem trace_singleton (s : S) (a : A) :
    trace seen step s [a] = (seen s a).toList := by
  rw [trace]
  cases step s a <;> exact List.append_nil _

theorem trace_concat {s s' : S} {as : List A} (h : run step s as = some s')
    (a : A) :
    trace seen step s (as ++ [a]) =
      trace seen step s as ++ (seen s' a).toList := by
  induction as generalizing s with
  | nil =>
      injection h with h
      subst h
      exact trace_singleton seen s a
  | cons b as ih =>
      obtain ⟨s₁, hs₁, hrest⟩ := run_cons_eq_some.mp h
      rw [List.cons_append, trace_cons seen hs₁, trace_cons seen hs₁, ih hrest,
        List.append_assoc]

/-- The induction for a statement about a state, the labels that led to it
and what their steps have shown. -/
theorem run_trace_invariant {P : List A → List O → S → Prop} {s s' : S}
    {as : List A} (hstart : P [] [] s)
    (hstep : ∀ done shown s a s', a ∈ as → P done shown s →
      step s a = some s' → P (done ++ [a]) (shown ++ (seen s a).toList) s')
    (hrun : run step s as = some s') : P as (trace seen step s as) s' := by
  induction as using List.reverseRecOn generalizing s' with
  | nil =>
      injection hrun with hrun
      exact hrun ▸ hstart
  | append_singleton as a ih =>
      obtain ⟨s₁, hrest, hlast⟩ := run_concat_eq_some.mp hrun
      rw [trace_concat seen hrest]
      apply hstep as _ s₁ a s' (List.mem_append_right _ (List.mem_cons_self ..))
        _ hlast
      apply ih _ hrest
      intro done shown s a' s' hmem
      exact hstep done shown s a' s' (List.mem_append_left _ hmem)

/-- What the steps of a run show another machine is a run of that machine,
if every step shows it one; related states stay related. -/
theorem run_simulates {T : Type*} {step' : T → O → Option T} {R : S → T → Prop}
    (hstep : ∀ s a s' t, R s t → step s a = some s' →
      ∃ t', run step' t (seen s a).toList = some t' ∧ R s' t')
    {s s' : S} {t : T} {as : List A} (h : R s t)
    (hrun : run step s as = some s') :
    ∃ t', run step' t (trace seen step s as) = some t' ∧ R s' t' := by
  induction as generalizing s t with
  | nil =>
      injection hrun with hrun
      exact ⟨t, rfl, hrun ▸ h⟩
  | cons a as ih =>
      obtain ⟨s₁, hs₁, hrest⟩ := run_cons_eq_some.mp hrun
      obtain ⟨t₁, ht₁, hR₁⟩ := hstep s a s₁ t h hs₁
      obtain ⟨t', ht', hR'⟩ := ih hR₁ hrest
      refine ⟨t', ?_, hR'⟩
      rw [trace_cons seen hs₁, run_append, ht₁, Option.bind_some, ht']

end Trace

-- ==================================================== related machines

section Related

variable {S' A' : Type*} {step' : S' → A' → Option S'}
  {next : S → Option A} {next' : S' → Option A'}
  {R : S → S' → Prop} {Q : A → A' → Prop}

/-- Two runs to the end from related states: each state has its only label
given by `next`, related states have related labels, and related labels
lead to related states. -/
theorem run_related
    (hlabel : ∀ s s' a t, R s s' → step s a = some t → next s = some a)
    (hlabel' : ∀ s s' a t, R s s' → step' s' a = some t → next' s' = some a)
    (hnext : ∀ s s', R s s' → Option.Rel Q (next s) (next' s'))
    (hstep : ∀ s s' a a' t t', R s s' → Q a a' → step s a = some t →
      step' s' a' = some t' → R t t')
    {s t : S} {s' t' : S'} {as : List A} {as' : List A'} (h : R s s')
    (hrun : run step s as = some t) (hend : next t = none)
    (hrun' : run step' s' as' = some t') (hend' : next' t' = none) :
    List.Forall₂ Q as as' ∧ R t t' := by
  induction as generalizing s s' as' with
  | nil =>
      injection hrun with hrun
      subst hrun
      -- neither run can go on where the other has come to its end
      cases as' with
      | nil =>
          injection hrun' with hrun'
          exact ⟨.nil, hrun' ▸ h⟩
      | cons a' as' =>
          obtain ⟨s₁', hs₁', -⟩ := run_cons_eq_some.mp hrun'
          have hrel := hnext s s' h
          rw [hend, hlabel' s s' a' s₁' h hs₁'] at hrel
          cases hrel
  | cons a as ih =>
      obtain ⟨s₁, hs₁, hrest⟩ := run_cons_eq_some.mp hrun
      have hrel := hnext s s' h
      rw [hlabel s s' a s₁ h hs₁] at hrel
      cases as' with
      | nil =>
          injection hrun' with hrun'
          rw [hrun', hend'] at hrel
          cases hrel
      | cons a' as' =>
          obtain ⟨s₁', hs₁', hrest'⟩ := run_cons_eq_some.mp hrun'
          rw [hlabel' s s' a' s₁' h hs₁'] at hrel
          cases hrel with
          | some hQ =>
              -- both take related labels, and end in related states
              obtain ⟨hall, hlast⟩ := ih
                (hstep s s' a a' s₁ s₁' h hQ hs₁ hs₁') hrest hrest'
              exact ⟨.cons hQ hall, hlast⟩

end Related

end Lts
