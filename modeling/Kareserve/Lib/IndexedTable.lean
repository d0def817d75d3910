/-
A table with a single-slot inverted index, and what a log of operations
leaves in it. The table maps keys to values; the index maps a derived
key (`slot`) back to ONE table key, the last written. Writing a present
key keeps its value, dropping a key also empties the slot its value
derives, whoever occupies it.

# The log reading

- `Live log k v`: `k` was put with `v` and neither dropped nor cleared
  since. On a log that always puts a key with the same value
  (`Consistent`) this is exactly what the table holds
  (`table_get_iff`).
- `index_sound`: on such a log every occupied slot names a live key
  whose value derives that slot. Nothing stale is ever indexed.
- `Current log i k`: `k` was the last key put under slot `i`, and since
  then nothing that was live under `i` at that moment has been dropped.
  This is exactly what the index holds (`index_get_iff`), so a live key
  is missing from the index exactly when it is not current.
-/
import Kareserve.Lib.Dict
import Mathlib.Data.List.Induction

/-- One operation on the table. -/
inductive StoreOp (K V : Type*) where
  | put (k : K) (v : V)
  | drop (k : K)
  | clear

/-- The table and its index. -/
structure IndexedTable (K V I : Type*) where
  table : PyDict K V
  index : PyDict I K

namespace IndexedTable

variable {K V I : Type*}

/-- Nothing stored. -/
def empty : IndexedTable K V I := ⟨.empty, .empty⟩

section Apply

variable [DecidableEq K] [DecidableEq I] (slot : K → V → I)

/-- One operation. -/
def apply (s : IndexedTable K V I) : StoreOp K V → IndexedTable K V I
  | .put k v =>
      { table :=
          match s.table.get k with
          | some _ => s.table
          | none => s.table.set k v
        index := s.index.set (slot k v) k }
  | .drop k =>
      match s.table.get k with
      | none => s
      | some v =>
          { table := s.table.erase k, index := s.index.erase (slot k v) }
  | .clear => empty

/-- A log of operations, from nothing. -/
def replay (log : List (StoreOp K V)) : IndexedTable K V I :=
  log.foldl (apply slot) empty

theorem replay_concat (log : List (StoreOp K V)) (op : StoreOp K V) :
    replay slot (log ++ [op]) = apply slot (replay slot log) op := by
  unfold replay
  rw [List.foldl_append, List.foldl_cons, List.foldl_nil]

end Apply

-- ============================================================= live keys

/-- The operations that end a key's presence. -/
def Removes (op : StoreOp K V) (k : K) : Prop := op = .clear ∨ op = .drop k

/-- `k` was put with `v` and not removed since. -/
def Live (log : List (StoreOp K V)) (k : K) (v : V) : Prop :=
  ∃ before after, log = before ++ .put k v :: after
    ∧ ∀ op ∈ after, ¬ Removes op k

/-- A key is always put with the same value. -/
def Consistent (log : List (StoreOp K V)) : Prop :=
  ∀ k v v', StoreOp.put k v ∈ log → StoreOp.put k v' ∈ log → v = v'

/-- Two operations that, if both put one key, put it with one value. -/
def Agree : StoreOp K V → StoreOp K V → Prop
  | .put k v, .put k' v' => k = k' → v = v'
  | _, _ => True

instance [DecidableEq K] [DecidableEq V] :
    ∀ op op' : StoreOp K V, Decidable (Agree op op')
  | .put k v, .put k' v' => inferInstanceAs (Decidable (k = k' → v = v'))
  | .put _ _, .drop _ | .put _ _, .clear => isTrue trivial
  | .drop _, _ | .clear, _ => isTrue trivial

/-- Consistency looks at pairs of operations only. -/
theorem consistent_iff (log : List (StoreOp K V)) :
    (∀ op ∈ log, ∀ op' ∈ log, Agree op op') ↔ Consistent log := by
  constructor
  · intro h k v v' hv hv'
    exact h _ hv _ hv' rfl
  · intro h op hop op' hop'
    cases op with
    | put k v =>
        cases op' with
        | put k' v' =>
            intro hk
            subst hk
            exact h k v v' hop hop'
        | drop _ => trivial
        | clear => trivial
    | drop _ => trivial
    | clear => trivial

instance [DecidableEq K] [DecidableEq V] (log : List (StoreOp K V)) :
    Decidable (Consistent log) :=
  decidable_of_iff _ (consistent_iff log)

theorem Consistent.of_subset {log log' : List (StoreOp K V)}
    (h : Consistent log') (hsub : log ⊆ log') : Consistent log :=
  fun k v v' hv hv' => h k v v' (hsub hv) (hsub hv')

theorem Consistent.of_append {log log' : List (StoreOp K V)}
    (h : Consistent (log ++ log')) : Consistent log :=
  h.of_subset (List.subset_append_left _ _)

theorem Live.put_mem {log : List (StoreOp K V)} {k : K} {v : V}
    (h : Live log k v) : StoreOp.put k v ∈ log := by
  obtain ⟨before, after, rfl, -⟩ := h
  exact List.mem_append_right _ (List.mem_cons_self ..)

theorem not_live_nil (k : K) (v : V) : ¬ Live ([] : List (StoreOp K V)) k v := by
  rintro ⟨before, after, h, -⟩
  simp at h

/-- Liveness, one operation at a time. -/
theorem live_concat {log : List (StoreOp K V)} {op : StoreOp K V} {k : K}
    {v : V} :
    Live (log ++ [op]) k v ↔ op = .put k v ∨ (Live log k v ∧ ¬ Removes op k) := by
  constructor
  · rintro ⟨before, after, h, hafter⟩
    rcases List.eq_nil_or_concat after with rfl | ⟨after', op', rfl⟩
    · have hlast := List.append_inj_right' h rfl
      injection hlast with hop
      exact Or.inl hop
    · rw [List.concat_eq_append, ← List.cons_append, ← List.append_assoc] at h
      have hlog := List.append_inj_left' h rfl
      have hlast := List.append_inj_right' h rfl
      injection hlast with hop
      subst hop
      refine Or.inr ⟨⟨before, after', hlog, fun o ho => hafter o ?_⟩,
        hafter op ?_⟩
      · simp [ho]
      · simp
  · rintro (rfl | ⟨⟨before, after, rfl, hafter⟩, hop⟩)
    · exact ⟨log, [], rfl, by simp⟩
    · refine ⟨before, after ++ [op], by simp, fun o ho => ?_⟩
      rcases List.mem_append.mp ho with ho | ho
      · exact hafter o ho
      · rw [List.mem_singleton] at ho
        exact ho ▸ hop

/-- Operations that do not remove a key leave it live. -/
theorem Live.append {log ops : List (StoreOp K V)} {k : K} {v : V}
    (h : Live log k v) (hops : ∀ op ∈ ops, ¬ Removes op k) :
    Live (log ++ ops) k v := by
  obtain ⟨before, after, rfl, hafter⟩ := h
  refine ⟨before, after ++ ops, by simp, fun op hop => ?_⟩
  rcases List.mem_append.mp hop with hop | hop
  · exact hafter op hop
  · exact hops op hop

-- ========================================================== current keys

/-- `k` was the last key put under slot `i`; since then there was no
clear, and no key that was live under `i` at that moment was dropped. -/
def Current (slot : K → V → I) (log : List (StoreOp K V)) (i : I) (k : K) : Prop :=
  ∃ v before after, log = before ++ .put k v :: after ∧ slot k v = i
    ∧ ∀ op ∈ after, op ≠ .clear
      ∧ (∀ k' v', op = .put k' v' → slot k' v' ≠ i)
      ∧ ∀ k' v', op = .drop k' → Live (before ++ [.put k v]) k' v' →
          slot k' v' ≠ i

variable {slot : K → V → I}

/-- While a slot is left alone, the keys live under it stay the same. -/
private theorem live_append_of_quiet {log after : List (StoreOp K V)} {i : I}
    (hafter : ∀ op ∈ after, op ≠ .clear
      ∧ (∀ k' v', op = .put k' v' → slot k' v' ≠ i)
      ∧ ∀ k' v', op = .drop k' → Live log k' v' → slot k' v' ≠ i)
    {k' : K} {v' : V} (hslot : slot k' v' = i) :
    Live (log ++ after) k' v' ↔ Live log k' v' := by
  induction after using List.reverseRecOn with
  | nil => simp
  | append_singleton after op ih =>
      have hprev := ih fun o ho => hafter o (List.mem_append_left _ ho)
      obtain ⟨hclear, hput, hdrop⟩ := hafter op (by simp)
      rw [← List.append_assoc, live_concat, hprev]
      constructor
      · rintro (hop | ⟨hlive, -⟩)
        · exact absurd hslot (hput k' v' hop)
        · exact hlive
      · intro hlive
        refine Or.inr ⟨hlive, ?_⟩
        rintro (hop | hop)
        · exact hclear hop
        · exact hdrop k' v' hop hlive hslot

/-- Currency, one operation at a time: a put under the slot takes it
over, a drop of a key live under it empties it, a clear empties it. -/
theorem current_concat {log : List (StoreOp K V)} {op : StoreOp K V} {i : I}
    {k : K} :
    Current slot (log ++ [op]) i k
      ↔ (∃ v, op = .put k v ∧ slot k v = i)
        ∨ (Current slot log i k ∧ op ≠ .clear
          ∧ (∀ k' v', op = .put k' v' → slot k' v' ≠ i)
          ∧ ∀ k' v', op = .drop k' → Live log k' v' → slot k' v' ≠ i) := by
  constructor
  · rintro ⟨v, before, after, h, hslot, hafter⟩
    -- the put that made the key current is the last operation, or is in the
    -- log
    rcases List.eq_nil_or_concat after with rfl | ⟨after', op', rfl⟩
    · have hlast := List.append_inj_right' h rfl
      injection hlast with hop
      exact Or.inl ⟨v, hop, hslot⟩
    · rw [List.concat_eq_append, ← List.cons_append, ← List.append_assoc] at h
      have hlog := List.append_inj_left' h rfl
      have hlast := List.append_inj_right' h rfl
      injection hlast with hop
      subst hop
      have hquiet : ∀ o ∈ after', _ := fun o ho =>
        hafter o (by simp [ho])
      obtain ⟨hclear, hput, hdrop⟩ := hafter op (by simp)
      refine Or.inr ⟨⟨v, before, after', hlog, hslot, hquiet⟩, hclear, hput,
        fun k' v' hop' hlive hslot' => ?_⟩
      -- between that put and the last operation nothing touched the slot, so
      -- whether the dropped key was live there is decided before
      have hsplit : log = (before ++ [.put k v]) ++ after' := by
        rw [hlog, List.append_assoc, List.singleton_append]
      rw [hsplit, live_append_of_quiet hquiet hslot'] at hlive
      exact hdrop k' v' hop' hlive hslot'
  · rintro (⟨v, rfl, hslot⟩ | ⟨⟨v, before, after, rfl, hslot, hafter⟩,
      hclear, hput, hdrop⟩)
    · exact ⟨v, log, [], rfl, hslot, by simp⟩
    -- conversely the last operation joins those that left the slot alone
    · refine ⟨v, before, after ++ [op], by simp, hslot, fun o ho => ?_⟩
      rcases List.mem_append.mp ho with ho | ho
      · exact hafter o ho
      · rw [List.mem_singleton] at ho
        subst ho
        refine ⟨hclear, hput, fun k' v' hop' hlive hslot' => ?_⟩
        have hsplit : before ++ StoreOp.put k v :: after
            = (before ++ [.put k v]) ++ after := by simp
        rw [hsplit] at hdrop
        exact hdrop k' v' hop'
          ((live_append_of_quiet hafter hslot').mpr hlive) hslot'

/-- Where no two keys are put under one slot, every live key is
current. -/
theorem Live.current {log : List (StoreOp K V)} (hc : Consistent log)
    (hslots : ∀ k v k' v', StoreOp.put k v ∈ log → StoreOp.put k' v' ∈ log →
      slot k v = slot k' v' → k = k')
    {k : K} {v : V} (h : Live log k v) : Current slot log (slot k v) k := by
  induction log using List.reverseRecOn with
  | nil => exact absurd h (not_live_nil k v)
  | append_singleton log op ih =>
      have hput : StoreOp.put k v ∈ log ++ [op] := h.put_mem
      rw [current_concat]
      rcases live_concat.mp h with hop | ⟨hlive, hrem⟩
      · exact Or.inl ⟨v, hop, rfl⟩
      · have hcur := ih hc.of_append
          (fun k₁ v₁ k₂ v₂ h₁ h₂ => hslots k₁ v₁ k₂ v₂
            (List.mem_append_left _ h₁) (List.mem_append_left _ h₂)) hlive
        by_cases hop : ∃ k' v', op = .put k' v' ∧ slot k' v' = slot k v
        · -- the slot is rewritten, by the same key and so the same value
          obtain ⟨k', v', rfl, hslot⟩ := hop
          have hmem : StoreOp.put k' v' ∈ log ++ [.put k' v'] := by simp
          obtain rfl := hslots k' v' k v hmem hput hslot
          exact Or.inl ⟨v', rfl, hslot⟩
        · refine Or.inr ⟨hcur, fun hclear => hrem (Or.inl hclear),
            fun k' v' hop' hslot => hop ⟨k', v', hop', hslot⟩, ?_⟩
          rintro k' v' rfl hlive' hslot
          obtain rfl := hslots k' v' k v
            (List.mem_append_left _ hlive'.put_mem) hput hslot
          exact hrem (Or.inr rfl)

-- ============================================================= the table

variable [DecidableEq K] [DecidableEq I]

variable (slot) in
/-- The table holds exactly the live keys. -/
theorem table_get_iff {log : List (StoreOp K V)} (hc : Consistent log)
    {k : K} {v : V} :
    (replay slot log).table.get k = some v ↔ Live log k v := by
  induction log using List.reverseRecOn generalizing k v with
  | nil =>
      constructor
      · intro h
        cases h
      · exact fun h => absurd h (not_live_nil k v)
  | append_singleton log op ih =>
      have hlog := hc.of_append
      rw [replay_concat, live_concat]
      cases op with
      | clear => simp [apply, empty, Removes]
      | drop k' =>
          have hput : StoreOp.drop k' ≠ StoreOp.put k v := by simp
          have hrem : Removes (StoreOp.drop k' : StoreOp K V) k ↔ k' = k := by
            simp [Removes]
          rw [hrem, or_iff_right hput, ← ih hlog]
          cases hget : (replay slot log).table.get k' with
          | none =>
              simp only [apply, hget]
              constructor
              · intro h
                refine ⟨h, fun hk => ?_⟩
                rw [← hk, hget] at h
                cases h
              · exact fun h => h.1
          | some v' =>
              simp only [apply, hget, PyDict.get_erase]
              by_cases hk : k = k'
              · simp [hk]
              · simp [hk, Ne.symm hk]
      | put k' v' =>
          have hrem : ¬ Removes (StoreOp.put k' v') k := by simp [Removes]
          have hinj : StoreOp.put k' v' = StoreOp.put k v ↔ k' = k ∧ v' = v := by
            simp
          rw [hinj, and_iff_left hrem, ← ih hlog]
          by_cases hk : k' = k
          · subst hk
            cases hget : (replay slot log).table.get k' with
            | none => simp [apply, hget]
            | some w =>
                -- the key is present: consistency says with the value put now
                have hw : w = v' := hc k' w v'
                  (List.mem_append_left _ ((ih hlog).mp hget).put_mem)
                  (List.mem_append_right _ (List.mem_singleton_self _))
                simp [apply, hget, hw]
          · cases hget : (replay slot log).table.get k' with
            | none =>
                simp [apply, hget, PyDict.get_set_of_ne _ (Ne.symm hk), hk]
            | some w => simp [apply, hget, hk]

-- ============================================================= the index

/-- Every occupied slot names a key the table holds, with a value that
derives the slot. -/
theorem index_sound {log : List (StoreOp K V)} (hc : Consistent log)
    {i : I} {k : K} (h : (replay slot log).index.get i = some k) :
    ∃ v, (replay slot log).table.get k = some v ∧ slot k v = i := by
  induction log using List.reverseRecOn generalizing i k with
  | nil => cases h
  | append_singleton log op ih =>
      have hlog := hc.of_append
      cases op with
      | clear =>
          rw [replay_concat] at h
          cases h
      | put k' v' =>
          -- the put itself occupies its slot; every other slot is as it was,
          -- and its key is not overwritten, as one key has one value
          have hlive : (replay slot (log ++ [.put k' v'])).table.get k'
              = some v' :=
            (table_get_iff slot hc).mpr (live_concat.mpr (Or.inl rfl))
          rw [replay_concat] at h
          simp only [apply, PyDict.get_set] at h
          by_cases hi : i = slot k' v'
          · rw [if_pos hi] at h
            injection h with h
            subst h
            exact ⟨v', hlive, hi.symm⟩
          · rw [if_neg hi] at h
            obtain ⟨v, hv, hslot⟩ := ih hlog h
            refine ⟨v, ?_, hslot⟩
            rw [table_get_iff slot hc, live_concat]
            exact Or.inr ⟨(table_get_iff slot hlog).mp hv, by simp [Removes]⟩
      | drop k' =>
          rw [replay_concat] at h ⊢
          cases hget : (replay slot log).table.get k' with
          | none =>
              simp only [apply, hget] at h ⊢
              exact ih hlog h
          | some v' =>
              simp only [apply, hget, PyDict.get_erase] at h ⊢
              by_cases hi : i = slot k' v'
              · rw [if_pos hi] at h
                cases h
              · rw [if_neg hi] at h
                obtain ⟨v, hv, hslot⟩ := ih hlog h
                -- another slot is another key's: a key has one slot
                have hk : k ≠ k' := by
                  rintro rfl
                  rw [hget] at hv
                  injection hv with hv
                  exact hi (hv ▸ hslot.symm)
                exact ⟨v, by rw [if_neg hk]; exact hv, hslot⟩

/-- The index holds exactly the current keys. -/
theorem index_get_iff {log : List (StoreOp K V)} (hc : Consistent log)
    {i : I} {k : K} :
    (replay slot log).index.get i = some k ↔ Current slot log i k := by
  induction log using List.reverseRecOn generalizing k with
  | nil =>
      constructor
      · intro h
        cases h
      · rintro ⟨v, before, after, h, -⟩
        simp at h
  | append_singleton log op ih =>
      have hlog := hc.of_append
      -- one operation more: the key is current by it, or was and still is
      rw [replay_concat, current_concat, ← ih hlog]
      cases op with
      | clear => simp [apply, empty]
      | put k' v' =>
          by_cases hi : i = slot k' v'
          -- what is put becomes the current key of its slot, over any other
          · subst hi
            simp only [apply, PyDict.get_set_self, Option.some.injEq]
            constructor
            · rintro rfl
              exact Or.inl ⟨v', rfl, rfl⟩
            · rintro (⟨v, hop, -⟩ | ⟨-, -, hput, -⟩)
              · injection hop
              · exact absurd rfl (hput k' v' rfl)
          · simp only [apply, PyDict.get_set, if_neg hi]
            constructor
            · intro h
              refine Or.inr ⟨h, by simp, ?_, by simp⟩
              rintro k₁ v₁ hop
              injection hop with hk hv
              subst hk hv
              exact Ne.symm hi
            · rintro (⟨v, hop, hslot⟩ | ⟨h, -⟩)
              · injection hop with hk hv
                subst hk hv
                exact absurd hslot.symm hi
              · exact h
      -- a drop empties a slot only if the key was live, and then it is the
      -- slot of the value it was put with
      | drop k' =>
          cases hget : (replay slot log).table.get k' with
          | none =>
              simp only [apply, hget]
              constructor
              · intro h
                refine Or.inr ⟨h, by simp, by simp, ?_⟩
                intro k₁ v₁ hop hlive
                injection hop with hk
                subst hk
                rw [← table_get_iff slot hlog, hget] at hlive
                cases hlive
              · rintro (⟨v, hop, -⟩ | ⟨h, -⟩)
                · cases hop
                · exact h
          | some v' =>
              have hlive := (table_get_iff slot hlog).mp hget
              simp only [apply, hget, PyDict.get_erase]
              constructor
              · intro h
                by_cases hi : i = slot k' v'
                · rw [if_pos hi] at h
                  cases h
                · rw [if_neg hi] at h
                  refine Or.inr ⟨h, by simp, by simp, ?_⟩
                  intro k₁ v₁ hop hlive₁
                  injection hop with hk
                  subst hk
                  -- a key is always put with one value (`Consistent`), so in
                  -- one slot
                  rw [hc k' v₁ v' (List.mem_append_left _ hlive₁.put_mem)
                    (List.mem_append_left _ hlive.put_mem)]
                  exact Ne.symm hi
              · rintro (⟨v, hop, -⟩ | ⟨h, -, -, hdrop⟩)
                · cases hop
                · have hi := hdrop k' v' rfl hlive
                  rw [if_neg (Ne.symm hi)]
                  exact h

end IndexedTable
