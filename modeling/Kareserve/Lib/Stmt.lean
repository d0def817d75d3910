/-
Imperative code that may raise: statements on a state, an exception that
ends them, and what was written before the exception stays written.

# Stages

Often a statement does no more than evaluate something, which can raise,
and update the state with the result. `Stages c x f` says that `c` does
this with `x` and `f`. In a sequence of such statements each writes before
the next evaluates; if none raises, it is as if everything had been
evaluated before anything was written (`Stages.seq_ok`), and if one does,
the sequence raises what it raises (`Stages.seq_error`).

# What is kept

`Keeps P c` says that `c` leaves `P` as true as it was, also where an
exception ends it. It is enough that every write does, so no exception has
to be looked at.
-/
import Kareserve.Lib.Fault

universe u

/-- The state a statement leaves, and the exception it ends with. -/
def Stmt (σ ε : Type u) := σ → σ × Option ε

namespace Stmt

variable {σ τ ε ε' α β γ : Type u}

-- ============================================================ statements

/-- A statement that writes. -/
def assign (f : σ → σ) : Stmt σ ε := fun s => (f s, none)

/-- A statement that raises. -/
def raise (error : ε) : Stmt σ ε := fun s => (s, some error)

/-- One statement after another. -/
def seq (c d : Stmt σ ε) : Stmt σ ε := fun s =>
  match c s with
  | (s', none) => d s'
  | (s', some error) => (s', some error)

/-- A statement on a value that is evaluated first. -/
def eval (x : Except ε α) (k : α → Stmt σ ε) : Stmt σ ε :=
  match x with
  | .ok a => k a
  | .error error => raise error

/-- A loop. -/
def forEach (items : List α) (body : α → Stmt σ ε) : Stmt σ ε :=
  items.foldr (fun item rest => (body item).seq rest) (assign id)

/-- A statement with a local variable. -/
def withLocal (v : τ) (c : Stmt (σ × τ) ε) : Stmt σ ε := fun s =>
  ((c (s, v)).1.1, (c (s, v)).2)

/-- `try` with one handler for the exceptions in `handles`. -/
def tryExcept (c : Stmt σ ε) (handles : ε → Bool) (handler : Stmt σ ε) :
    Stmt σ ε := fun s =>
  match c s with
  | (s', none) => (s', none)
  | (s', some error) =>
      if handles error then handler s' else (s', some error)

/-- Exceptions under another name. -/
def mapError (f : ε → ε') (c : Stmt σ ε) : Stmt σ ε' := fun s =>
  ((c s).1, (c s).2.map f)

/-- What follows a statement that goes through. -/
theorem seq_of_none {c : Stmt σ ε} {s s' : σ} (h : c s = (s', none))
    (d : Stmt σ ε) : (c.seq d) s = d s' := by
  unfold seq
  rw [h]

/-- Sequences need no brackets. -/
theorem seq_assoc (c d e : Stmt σ ε) : (c.seq d).seq e = c.seq (d.seq e) := by
  funext s
  unfold seq
  cases c s with
  | mk s' raised =>
      cases raised <;> rfl

/-- A statement that does nothing. -/
theorem skip_seq (d : Stmt σ ε) : (assign id : Stmt σ ε).seq d = d := rfl

/-- What raises is not followed. -/
theorem seq_raised {c : Stmt σ ε} {s : σ} {error : ε}
    (h : (c s).2 = some error) (d : Stmt σ ε) :
    ((c.seq d) s).2 = some error := by
  unfold seq
  cases hc : c s with
  | mk s' raised =>
      rw [hc] at h
      dsimp only at h
      rw [h]

/-- A sequence raises nothing where neither of its parts does. -/
theorem seq_none_iff {c d : Stmt σ ε} {s : σ} :
    ((c.seq d) s).2 = none ↔ (c s).2 = none ∧ (d (c s).1).2 = none := by
  unfold seq
  cases c s with
  | mk s' raised =>
      cases raised with
      | none => exact (and_iff_right rfl).symm
      | some error => exact iff_of_false (by simp) (by simp)

-- ================================================================ stages

/-- `c` evaluates `x` and then updates the state by `f`; if the evaluation
raises, so does `c`. -/
structure Stages (c : Stmt σ ε) (x : Except ε α) (f : α → σ → σ) : Prop where
  of_ok : ∀ a, x = .ok a → ∀ s, c s = (f a s, none)
  of_error : ∀ error, x = .error error → ∀ s, (c s).2 = some error

namespace Stages

variable {c d : Stmt σ ε} {x : Except ε α} {y : Except ε β} {f : α → σ → σ}
  {g : β → σ → σ}

/-- The evaluation first, then whatever the rest of the statement does
with its result. -/
theorem evalBind {k : α → Stmt σ ε} {y : α → Except ε β}
    (h : ∀ a, Stages (k a) (y a) g) : Stages (eval x k) (x >>= y) g := by
  cases x with
  | ok a => exact h a
  | error error =>
      refine ⟨fun b hb => (by cases hb), fun error' herror s => ?_⟩
      injection herror with herror
      rw [← herror]
      rfl

/-- An assignment is a stage of its own. -/
theorem pure (a : α) (f : α → σ → σ) :
    Stages (assign (f a) : Stmt σ ε) (.ok a) f := by
  refine ⟨fun b hb s => ?_, fun error herror => (by cases herror)⟩
  injection hb with hb
  rw [hb]
  rfl

theorem eval (x : Except ε α) (f : α → σ → σ) :
    Stages (Stmt.eval x fun a => assign (f a)) x f := by
  cases x with
  | ok a => exact pure a f
  | error error =>
      refine ⟨fun a ha => (by cases ha), fun error' herror s => ?_⟩
      injection herror with herror
      rw [← herror]
      rfl

/-- A statement that is left out where there is nothing to evaluate. -/
theorem skip {f : Option α → σ → σ} (hnone : ∀ s, f none s = s) :
    Stages (assign id : Stmt σ ε) (.ok none) f := by
  refine ⟨fun o ho s => ?_, fun error herror => (by cases herror)⟩
  injection ho with ho
  rw [← ho, hnone s]
  rfl

/-- A stage whose value is always there. -/
theorem mapSome {f : Option α → σ → σ} (h : Stages c x fun a => f (Option.some a)) :
    Stages c (Option.some <$> x) f := by
  cases x with
  | ok a =>
      refine ⟨fun o ho s => ?_, fun error herror => (by cases herror)⟩
      injection ho with ho
      rw [← ho]
      exact h.of_ok a rfl s
  | error error =>
      refine ⟨fun o ho => (by cases ho), fun error' herror s => ?_⟩
      injection herror with herror
      rw [← herror]
      exact h.of_error error rfl s

/-- A statement that raises nothing in front of another. -/
theorem seq_ok (hc : Stages c x f) {a : α} (hx : x = .ok a) (s : σ) :
    (c.seq d) s = d (f a s) :=
  seq_of_none (hc.of_ok a hx s) d

/-- A sequence whose evaluations raise. -/
theorem seq_error (hc : Stages c x f) {y : α → Except ε γ} {error : ε}
    (h : x >>= y = .error error)
    (hd : ∀ a, x = .ok a → y a = .error error →
      ∀ s, (d s).2 = some error) (s : σ) : ((c.seq d) s).2 = some error := by
  cases hx : x with
  | ok a =>
      rw [hx] at h
      rw [hc.seq_ok hx]
      exact hd a hx h (f a s)
  | error error' =>
      rw [hx] at h
      injection h with h
      rw [← h]
      exact seq_raised (hc.of_error error' hx s) d

/-- Two statements whose results are used together. -/
theorem seq (hc : Stages c x f) (hd : Stages d y g) :
    Stages (c.seq d) (x >>= fun a => (fun b => (a, b)) <$> y)
      fun ab s => g ab.2 (f ab.1 s) where
  of_ok ab h s := by
    obtain ⟨a, hx, h⟩ := Fault.exists_of_bind h
    rw [hc.seq_ok hx]
    cases hy : y with
    | error error =>
        rw [hy] at h
        cases h
    | ok b =>
        rw [hy] at h
        injection h with h
        rw [← h]
        exact hd.of_ok b hy (f a s)
  of_error error h := by
    refine hc.seq_error h fun a _ h s => ?_
    cases hy : y with
    | ok b =>
        rw [hy] at h
        cases h
    | error error' =>
        rw [hy] at h
        injection h with h
        rw [← h]
        exact hd.of_error error' hy s

theorem forEach {items : List α} {body : α → Stmt σ ε} {x : α → Except ε β}
    (h : ∀ item ∈ items, Stages (body item) (x item) g) :
    Stages (Stmt.forEach items body) (items.mapM x)
      fun bs s => bs.foldl (fun s b => g b s) s := by
  induction items with
  | nil => exact pure ([] : List β) fun bs s => bs.foldl (fun s b => g b s) s
  | cons item items ih =>
      have hbody := h item (List.mem_cons_self ..)
      have hrest := ih fun i hi => h i (List.mem_cons_of_mem _ hi)
      refine ⟨fun bs hbs s => ?_, fun error herror => ?_⟩
      · rw [List.mapM_cons] at hbs
        obtain ⟨b, hb, hbs⟩ := Fault.exists_of_bind hbs
        obtain ⟨bs', hbs', heq⟩ := Fault.exists_of_bind hbs
        injection heq with heq
        rw [← heq]
        exact (hbody.seq_ok hb s).trans (hrest.of_ok bs' hbs' (g b s))
      · rw [List.mapM_cons] at herror
        refine hbody.seq_error herror fun b _ herror s => ?_
        cases hbs : items.mapM x with
        | ok bs =>
            rw [hbs] at herror
            cases herror
        | error error' =>
            rw [hbs] at herror
            injection herror with herror
            rw [← herror]
            exact hrest.of_error error' hbs s

theorem withLocal {c : Stmt (σ × τ) ε} {f : α → σ × τ → σ × τ}
    (h : Stages c x f) (v : τ) :
    Stages (Stmt.withLocal v c) x fun a s => (f a (s, v)).1 := by
  refine ⟨fun a ha s => ?_, fun error herror s => ?_⟩
  · unfold Stmt.withLocal
    rw [h.of_ok a ha]
  · exact h.of_error error herror (s, v)

end Stages

-- ============================================================= invariants

/-- What holds before holds after, raised or not. -/
def Keeps (P : σ → Prop) (c : Stmt σ ε) : Prop := ∀ s, P s → P (c s).1

/-- Something that keeps `P` after something that brings it about. -/
theorem Keeps.after {P : σ → Prop} {c d : Stmt σ ε} (hd : Keeps P d) {s : σ}
    (hc : P (c s).1) : P ((c.seq d) s).1 := by
  unfold Stmt.seq
  cases h : c s with
  | mk s' raised =>
      rw [h] at hc
      cases raised with
      | none => exact hd s' hc
      | some error => exact hc

namespace Keeps

variable {P : σ → Prop} {c d : Stmt σ ε}

theorem assign {f : σ → σ} (h : ∀ s, P s → P (f s)) :
    Keeps P (Stmt.assign f : Stmt σ ε) := h

theorem raise (error : ε) : Keeps P (Stmt.raise error) := fun _ hs => hs

theorem seq (hc : Keeps P c) (hd : Keeps P d) : Keeps P (c.seq d) :=
  fun s hs => hd.after (hc s hs)

/-- What follows an evaluation, where it does not raise. -/
theorem eval {x : Except ε α} {k : α → Stmt σ ε}
    (h : ∀ a, x = .ok a → Keeps P (k a)) : Keeps P (Stmt.eval x k) := by
  cases x with
  | ok a => exact h a rfl
  | error error => exact raise error

theorem forEach {items : List α} {body : α → Stmt σ ε}
    (h : ∀ item ∈ items, Keeps P (body item)) :
    Keeps P (Stmt.forEach items body) := by
  induction items with
  | nil => exact assign fun _ hs => hs
  | cons item items ih =>
      exact (h item (List.mem_cons_self ..)).seq
        (ih fun i hi => h i (List.mem_cons_of_mem _ hi))

theorem withLocal {c : Stmt (σ × τ) ε} {v : τ}
    (h : Keeps (fun s => P s.1) c) : Keeps P (Stmt.withLocal v c) :=
  fun s hs => h (s, v) hs

theorem mapError (f : ε → ε') (h : Keeps P c) : Keeps P (Stmt.mapError f c) :=
  h

/-- A handler that keeps `P`, for a statement that brings it about. -/
theorem handled {handles : ε → Bool} (hd : Keeps P d) {s : σ}
    (hc : P (c s).1) : P ((Stmt.tryExcept c handles d) s).1 := by
  unfold Stmt.tryExcept
  cases h : c s with
  | mk s' raised =>
      rw [h] at hc
      cases raised with
      | none => exact hc
      | some error =>
          dsimp only
          split
          · exact hd s' hc
          · exact hc

end Keeps

end Stmt
