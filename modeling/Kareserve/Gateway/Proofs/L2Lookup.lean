/-
The locks of an L2 lookup.

A lookup gives its locks back in one place, after a query that finds the
task completed; a timeout and a cancellation give nothing back. So what is
locked is unlocked exactly if the task had no hit, or a query was made
after it completed (`locks_given_back_iff`). A query is made only before
the deadline, so a task that completes in the last sleep is too late as
well as one that completes after the end.
-/
import Kareserve.Gateway.L2Lookup

namespace Kareserve

namespace L2Lookup

variable {Key : Type} {s s' : L2Lookup Key} {events : List L2Event}
  {test : ℕ → Bool}

-- ============================================================= one event

/-- The lookup has returned. -/
def Returned (s : L2Lookup Key) : Prop := ∃ bits, s.phase = .returned bits

/-- What one event can do: complete the task, find it completed, or move
the coroutine on with nothing given back. -/
theorem step_cases {event : L2Event} (h : s.step event = some s') :
    (∃ test, event = .complete test ∧ s.bitmap = none
        ∧ s' = { s with bitmap := some test })
      ∨ (∃ test, event = .query ∧ ¬ s.Returned ∧ s.bitmap = some test
        ∧ s' = s.finish test)
      ∨ (∃ now phase, s' = { s with now, phase } ∧ ¬ s.Returned
        ∧ ¬ s'.Returned ∧ (∀ test, event ≠ .complete test)
        ∧ (event = .query → s.bitmap = none)) := by
  unfold step at h
  split at h
  -- the task completes, once
  · rename_i test
    split at h
    · rename_i hnone
      injection h with h
      exact Or.inl ⟨test, rfl, Option.isNone_iff_eq_none.mp hnone, h.symm⟩
    · cases h
  -- the coroutine looks at the clock, and goes on or gives up
  · rename_i now hphase
    split at h
    · injection h with h
      refine Or.inr (Or.inr ⟨now, _, h.symm, by simp [Returned, hphase], ?_,
        fun _ hc => (by cases hc), fun hq => by cases hq⟩)
      rintro ⟨bits, hbits⟩
      rw [← h] at hbits
      dsimp only at hbits
      split at hbits <;> cases hbits
    · cases h
  -- it asks for the bitmap: without one it sleeps, with one it is done
  · rename_i hphase
    have hopen : ¬ s.Returned := by simp [Returned, hphase]
    split at h
    · rename_i hnone
      injection h with h
      exact Or.inr (Or.inr ⟨s.now, .sleeping, h.symm, hopen,
        by simp [Returned, ← h], fun _ hc => (by cases hc), fun _ => hnone⟩)
    · rename_i test htest
      injection h with h
      exact Or.inr (Or.inl ⟨test, rfl, hopen, htest, h.symm⟩)
  -- it wakes up
  · rename_i hphase
    injection h with h
    exact Or.inr (Or.inr ⟨s.now, .checking, h.symm,
      by simp [Returned, hphase], by simp [Returned, ← h],
      fun _ hc => (by cases hc), fun hq => by cases hq⟩)
  -- it is cancelled in its sleep
  · rename_i hphase
    injection h with h
    exact Or.inr (Or.inr ⟨s.now, .cancelled, h.symm,
      by simp [Returned, hphase], by simp [Returned, ← h],
      fun _ hc => (by cases hc), fun hq => by cases hq⟩)
  · cases h

-- =============================================================== the runs

/-- Only a return gives locks back, and it gives all of them. -/
structure Inv (s : L2Lookup Key) : Prop where
  returned : ∀ bits, s.phase = .returned bits →
    ∃ test, s.bitmap = some test ∧ bits = hitBits s.keys test
      ∧ s.unlocked = hitKeys s.keys bits
  open_ : ¬ s.Returned → s.unlocked = []

theorem start_inv (keys : List Key) (now timeoutSeconds : ℚ) :
    (start keys now timeoutSeconds).Inv where
  returned := fun bits h => by cases h
  open_ := fun _ => rfl

theorem step_inv {event : L2Event} (hinv : s.Inv)
    (h : s.step event = some s') : s'.Inv := by
  rcases step_cases h with ⟨test, rfl, hnone, rfl⟩ | ⟨test, rfl, hopen, htest, rfl⟩
    | ⟨now, phase, rfl, hopen, hopen', -, -⟩
  · refine ⟨fun bits hbits => ?_, hinv.open_⟩
    obtain ⟨test', htest', -⟩ := hinv.returned bits hbits
    rw [hnone] at htest'
    cases htest'
  · refine ⟨fun bits hbits => ?_, fun h => absurd ⟨_, rfl⟩ h⟩
    injection hbits with hbits
    refine ⟨test, htest, hbits.symm, ?_⟩
    show s.unlocked ++ _ = _
    rw [hinv.open_ hopen, hbits, List.nil_append]
    rfl
  · exact ⟨fun bits hbits => absurd ⟨bits, hbits⟩ hopen',
      fun _ => hinv.open_ hopen⟩

theorem run_inv (hinv : s.Inv) (hrun : Lts.run step s events = some s') :
    s'.Inv :=
  Lts.run_preserves (fun _ _ _ hinv h => step_inv hinv h) hinv hrun

/-- The keys stay. -/
theorem run_keys (hrun : Lts.run step s events = some s') :
    s'.keys = s.keys := by
  refine Lts.run_preserves (I := fun t => t.keys = s.keys) ?_ rfl hrun
  intro t event t' ht h
  rcases step_cases h with ⟨_, -, -, rfl⟩ | ⟨_, -, -, -, rfl⟩ | ⟨_, _, rfl, -⟩
  · exact ht
  · exact ht
  · exact ht

/-- After the completion, a query is a return. -/
theorem run_completed (hrun : Lts.run step s events = some s')
    (htest : s.bitmap = some test) :
    s'.bitmap = some test
      ∧ (s'.Returned ↔ s.Returned ∨ L2Event.query ∈ events) := by
  induction events generalizing s with
  | nil =>
      injection hrun with hrun
      subst hrun
      exact ⟨htest, by simp⟩
  | cons event events ih =>
      obtain ⟨s₁, hstep, hrest⟩ := Lts.run_cons_eq_some.mp hrun
      rcases step_cases hstep with ⟨_, -, hnone, -⟩ | ⟨test', rfl, hopen, htest', rfl⟩
        | ⟨now, phase, rfl, hopen, hopen', -, hquery⟩
      · rw [hnone] at htest
        cases htest
      · obtain ⟨hbitmap, hiff⟩ := ih hrest htest
        refine ⟨hbitmap, iff_of_true (hiff.mpr (Or.inl ⟨_, rfl⟩)) ?_⟩
        exact Or.inr (List.mem_cons_self ..)
      · obtain ⟨hbitmap, hiff⟩ := ih hrest htest
        refine ⟨hbitmap, ?_⟩
        have hne : L2Event.query ≠ event := by
          rintro rfl
          rw [hquery rfl] at htest
          cases htest
        rw [hiff, List.mem_cons, or_iff_right hopen', or_iff_right hopen,
          or_iff_right hne]

/-- A bitmap comes from a completion. -/
theorem complete_of_bitmap (hrun : Lts.run step s events = some s')
    (hstart : s.bitmap = none) (htest : s'.bitmap = some test) :
    .complete test ∈ events := by
  induction events generalizing s with
  | nil =>
      injection hrun with hrun
      rw [← hrun, hstart] at htest
      cases htest
  | cons event events ih =>
      obtain ⟨s₁, hstep, hrest⟩ := Lts.run_cons_eq_some.mp hrun
      rcases step_cases hstep with ⟨test', rfl, -, rfl⟩ | ⟨_, -, -, hsome, -⟩
        | ⟨_, _, rfl, -⟩
      · have hsame := (run_completed hrest rfl).1
        rw [htest] at hsame
        injection hsame with hsame
        rw [hsame]
        exact List.mem_cons_self ..
      · rw [hstart] at hsome
        cases hsome
      · exact List.mem_cons_of_mem _ (ih hrest hstart)

/-- What follows a completion in a run from the start. -/
theorem run_from_completion {keys : List Key} {now timeoutSeconds : ℚ}
    {before after : List L2Event}
    (hrun : Lts.run step (start keys now timeoutSeconds)
      (before ++ .complete test :: after) = some s) :
    s.bitmap = some test ∧ (s.Returned ↔ L2Event.query ∈ after) := by
  rw [Lts.run_append] at hrun
  obtain ⟨s₀, hbefore, hrun⟩ := Option.bind_eq_some_iff.mp hrun
  obtain ⟨s₁, hstep, hafter⟩ := Lts.run_cons_eq_some.mp hrun
  rcases step_cases hstep with ⟨test', heq, hnone, rfl⟩ | ⟨_, heq, -⟩
    | ⟨_, _, -, -, -, hne, -⟩
  · injection heq with heq
    subst heq
    obtain ⟨hbitmap, hreturned⟩ := run_completed hafter rfl
    refine ⟨hbitmap, hreturned.trans (or_iff_right ?_)⟩
    rintro ⟨bits, hbits⟩
    -- a return leaves a bitmap, and here there was none
    obtain ⟨_, hsome, -⟩ := (run_inv (start_inv keys now timeoutSeconds)
      hbefore).returned bits hbits
    rw [hnone] at hsome
    cases hsome
  · cases heq
  · exact absurd rfl (hne test)

/-- A lookup returns the bits of the bitmap the task was completed with. -/
theorem returned_bits {keys : List Key} {now timeoutSeconds : ℚ}
    (hrun : Lts.run step (start keys now timeoutSeconds) events = some s)
    {bits : List Bool} (hbits : s.phase = .returned bits) (typeName : String) :
    ∃ test, .complete test ∈ events
      ∧ lookupL2Adapter ⟨typeName, fun _ => some test⟩ keys = .ok bits := by
  obtain ⟨test, htest, heq, -⟩ :=
    (run_inv (start_inv keys now timeoutSeconds) hrun).returned bits hbits
  rw [run_keys hrun] at heq
  exact ⟨test, complete_of_bitmap hrun rfl htest, congrArg Except.ok heq.symm⟩

-- ============================================================== the locks

/-- A completion with a hit is followed by a query. -/
def SeenInTime (keys : List Key) (events : List L2Event) : Prop :=
  ∀ before after test, events = before ++ .complete test :: after →
    hitKeys keys (hitBits keys test) ≠ [] → L2Event.query ∈ after

/-- At any time, during the lookup and after it, the keys passed to
`submit_unlock` are those the task has locked, each as often, if and only
if the task has completed with no hit or not yet, or a query was made
after it completed. -/
theorem locks_given_back_iff (keys : List Key) (now timeoutSeconds : ℚ)
    (hrun : Lts.run step (start keys now timeoutSeconds) events = some s) :
    s.unlocked.Perm s.locked ↔ SeenInTime keys events := by
  have hinv := run_inv (start_inv keys now timeoutSeconds) hrun
  have hkeys : s.keys = keys := run_keys hrun
  constructor
  · rintro hperm before after test rfl hhit
    obtain ⟨hbitmap, hreturned⟩ := run_from_completion hrun
    -- without a query nothing was given back, so nothing was locked
    by_contra hquery
    have hnone := hinv.open_ (mt hreturned.mp hquery)
    rw [hnone, locked, hbitmap, hkeys] at hperm
    exact hhit (List.nil_perm.mp hperm)
  · intro hseen
    unfold locked
    cases hbitmap : s.bitmap with
    | none =>
        -- the task has not completed: nothing is locked yet
        have hopen : ¬ s.Returned := by
          rintro ⟨bits, hbits⟩
          obtain ⟨_, hsome, -⟩ := hinv.returned bits hbits
          rw [hbitmap] at hsome
          cases hsome
        rw [hinv.open_ hopen]
    | some test =>
        obtain ⟨before, after, heq⟩ :=
          List.append_of_mem (complete_of_bitmap hrun rfl hbitmap)
        subst heq
        obtain ⟨-, hreturned⟩ := run_from_completion hrun
        -- a query after the completion gives back what was hit; without one
        -- there was no hit
        by_cases hquery : L2Event.query ∈ after
        · obtain ⟨bits, hbits⟩ := hreturned.mpr hquery
          obtain ⟨test', hsome, hbitsEq, hunlocked⟩ := hinv.returned bits hbits
          rw [hbitmap] at hsome
          injection hsome with hsome
          rw [hunlocked, hbitsEq, hsome]
        · rw [hinv.open_ (mt hreturned.mp hquery), hkeys]
          have hhit : hitKeys keys (hitBits keys test) = [] := by
            by_contra hhit
            exact hquery (hseen before after test rfl hhit)
          show [].Perm (hitKeys keys (hitBits keys test))
          rw [hhit]

/-- The task completes in the first sleep, and the second query finds
it. -/
theorem locks_given_back_second_query :
    ∃ s, Lts.run step (start ["k", "l"] 0 1)
        [.check 0, .query, .complete fun i => i == 0, .wake, .check (1 / 1000),
          .query] = some s
      ∧ s.unlocked.Perm s.locked := by
  have hrun : (Lts.run step (start ["k", "l"] 0 1)
      [.check 0, .query, .complete fun i => i == 0, .wake, .check (1 / 1000),
        .query]).isSome := by decide +kernel
  obtain ⟨s, hs⟩ := Option.isSome_iff_exists.mp hrun
  refine ⟨s, hs, (locks_given_back_iff ["k", "l"] 0 1 hs).mpr ?_⟩
  intro before after test heq _
  have hlast := congrArg List.getLast? heq
  rcases List.eq_nil_or_concat after with rfl | ⟨rest, event, rfl⟩
  · simp at hlast
  · rw [List.concat_eq_append, ← List.cons_append, ← List.append_assoc,
      List.getLast?_concat] at hlast
    injection hlast with hlast
    rw [← hlast]
    simp

/-- The task completes while the coroutine sleeps past the deadline. -/
theorem timeout_keeps_lock :
    ∃ s, Lts.run step (start ["k"] 0 (1 / 1000))
        [.check 0, .query, .complete fun _ => true, .wake, .check (1 / 1000)]
        = some s
      ∧ s.phase = .timedOut ∧ ¬ s.unlocked.Perm s.locked := by
  have hfacts : (Lts.run step (start ["k"] 0 (1 / 1000))
      [.check 0, .query, .complete fun _ => true, .wake, .check (1 / 1000)]).map
      (fun s => (s.phase, s.unlocked, s.locked))
      = some (.timedOut, [], ["k"]) := by decide +kernel
  obtain ⟨s, hs, hfacts⟩ := Option.map_eq_some_iff.mp hfacts
  injection hfacts with hphase hfacts
  injection hfacts with hunlocked hlocked
  refine ⟨s, hs, hphase, ?_⟩
  rw [hunlocked, hlocked]
  decide

end L2Lookup

end Kareserve
