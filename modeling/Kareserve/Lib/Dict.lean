/-
Insertion-ordered dictionaries with unique keys: `dict` as Python has
it. Writing an existing key keeps its position, writing a new key
appends, and iteration follows insertion order. Mathlib's `AList` moves
a rewritten key to the front, so it cannot stand in where iteration
order is observable.

Key uniqueness is a field, so every operation carries its own proof and
no later lemma re-establishes it. The laws below are the usual ones:
what a read returns after each write, and extensionality (`ext_get`): two
dictionaries with the same key order and the same reads are equal.
-/
import Mathlib.Data.List.Nodup
import Mathlib.Data.List.Basic
import Mathlib.Data.List.Induction

/-- A dictionary: its items in insertion order, keys unique. -/
structure PyDict (K V : Type*) where
  items : List (K × V)
  nodup : (items.map Prod.fst).Nodup

namespace PyDict

variable {K V : Type*} [DecidableEq K]

-- =========================================================== operations

/-- The keys in insertion order. -/
def keys (d : PyDict K V) : List K := d.items.map Prod.fst

/-- The values in insertion order. -/
def values (d : PyDict K V) : List V := d.items.map Prod.snd

/-- The empty dictionary. -/
def empty : PyDict K V := ⟨[], List.nodup_nil⟩

/-- `d.get(k)`. -/
def get (d : PyDict K V) (k : K) : Option V := d.items.lookup k

/-- Update the value stored under `k` in place, if there is one. -/
def modify (d : PyDict K V) (k : K) (f : V → V) : PyDict K V where
  items := d.items.map fun p => if p.1 = k then (p.1, f p.2) else p
  nodup := by
    have hkeys : (d.items.map fun p => if p.1 = k then (p.1, f p.2) else p).map
        Prod.fst = d.items.map Prod.fst := by
      rw [List.map_map]
      refine List.map_congr_left fun p _ => ?_
      by_cases hp : p.1 = k <;> simp [hp]
    rw [hkeys]
    exact d.nodup

/-- `d[k] = v`: in place for a present key, at the end for a new one. -/
def set (d : PyDict K V) (k : K) (v : V) : PyDict K V :=
  if h : k ∈ d.items.map Prod.fst then d.modify k fun _ => v
  else
    { items := d.items ++ [(k, v)]
      nodup := by
        rw [List.map_append, List.nodup_append]
        refine ⟨d.nodup, List.nodup_singleton _, ?_⟩
        intro a ha b hb hab
        simp only [List.map_cons, List.map_nil, List.mem_singleton] at hb
        exact h (hb ▸ hab ▸ ha) }

/-- `d.setdefault(k, v)`, keeping the dictionary only. -/
def setDefault (d : PyDict K V) (k : K) (v : V) : PyDict K V :=
  if (d.get k).isSome then d else d.set k v

/-- `d.pop(k, None)`, keeping the dictionary only. -/
def erase (d : PyDict K V) (k : K) : PyDict K V where
  items := d.items.filter fun p => p.1 ≠ k
  nodup := d.nodup.sublist (List.filter_sublist.map Prod.fst)

/-- `{k: f(k, v) for k, v in d.items()}`. -/
def map {W : Type*} (d : PyDict K V) (f : K → V → W) : PyDict K W where
  items := d.items.map fun p => (p.1, f p.1 p.2)
  nodup := by
    rw [List.map_map]
    exact d.nodup

/-- A dict comprehension: the pairs written one after another. -/
def ofList (l : List (K × V)) : PyDict K V :=
  l.foldl (fun d p => d.set p.1 p.2) empty

-- ================================================================ reads

/-- Reading a cons of items. -/
private theorem lookup_cons_eq (k k' : K) (v : V) (l : List (K × V)) :
    ((k', v) :: l).lookup k = if k = k' then some v else l.lookup k := by
  by_cases h : k = k'
  · subst h
    simp
  · have hb : (k == k') = false := by simpa using h
    rw [List.lookup_cons, hb]
    simp [h]

/-- A list read finds nothing exactly when the key is not listed. -/
private theorem lookup_eq_none_iff' {l : List (K × V)} {k : K} :
    l.lookup k = none ↔ k ∉ l.map Prod.fst := by
  induction l with
  | nil => simp
  | cons p l ih =>
      obtain ⟨k', v⟩ := p
      rw [lookup_cons_eq]
      by_cases h : k = k'
      · simp [h]
      · rw [if_neg h, ih, List.map_cons, List.mem_cons, not_or]
        exact ⟨fun hl => ⟨h, hl⟩, fun hl => hl.2⟩

/-- A key reads as absent exactly when it is not among the keys. -/
theorem get_eq_none_iff {d : PyDict K V} {k : K} :
    d.get k = none ↔ k ∉ d.keys := lookup_eq_none_iff'

/-- With unique keys, a list read finds what the list holds. -/
private theorem lookup_eq_some_iff' {l : List (K × V)}
    (hnodup : (l.map Prod.fst).Nodup) {k : K} {v : V} :
    l.lookup k = some v ↔ (k, v) ∈ l := by
  induction l with
  | nil => simp
  | cons p l ih =>
      obtain ⟨k', v'⟩ := p
      rw [List.map_cons, List.nodup_cons] at hnodup
      rw [lookup_cons_eq, List.mem_cons]
      by_cases h : k = k'
      · subst h
        have hnot : (k, v) ∉ l := fun hmem =>
          hnodup.1 (List.mem_map.mpr ⟨_, hmem, rfl⟩)
        simp [hnot, eq_comm]
      · rw [if_neg h, ih hnodup.2]
        simp [h]

/-- A read finds what the dictionary holds. -/
theorem get_eq_some_iff {d : PyDict K V} {k : K} {v : V} :
    d.get k = some v ↔ (k, v) ∈ d.items := lookup_eq_some_iff' d.nodup

theorem mem_keys_iff {d : PyDict K V} {k : K} :
    k ∈ d.keys ↔ ∃ v, d.get k = some v := by
  rw [← Option.isSome_iff_exists, ← Option.ne_none_iff_isSome, ne_eq,
    get_eq_none_iff, not_not]

theorem mem_values_iff {d : PyDict K V} {v : V} :
    v ∈ d.values ↔ ∃ k, d.get k = some v := by
  unfold values
  rw [List.mem_map]
  constructor
  · intro h
    obtain ⟨⟨k, v'⟩, hmem, rfl⟩ := h
    exact ⟨k, get_eq_some_iff.mpr hmem⟩
  · intro h
    obtain ⟨k, hget⟩ := h
    exact ⟨(k, v), get_eq_some_iff.mp hget, rfl⟩

@[simp] theorem get_empty (k : K) : (empty : PyDict K V).get k = none := rfl

/-- An in-place update is invisible in the key order. -/
@[simp] theorem keys_modify (d : PyDict K V) (k : K) (f : V → V) :
    (d.modify k f).keys = d.keys := by
  unfold keys modify
  rw [List.map_map]
  refine List.map_congr_left fun p _ => ?_
  by_cases hp : p.1 = k <;> simp [hp]

/-- What an in-place update does to every read. -/
theorem get_modify (d : PyDict K V) (k k' : K) (f : V → V) :
    (d.modify k f).get k' = if k' = k then (d.get k').map f else d.get k' := by
  unfold get modify
  dsimp only
  induction d.items with
  | nil => simp
  | cons p l ih =>
      obtain ⟨k₁, v⟩ := p
      rw [List.map_cons, lookup_cons_eq k' k₁ v l]
      by_cases h₁ : k₁ = k
      · subst h₁
        rw [if_pos rfl, lookup_cons_eq, ih]
        by_cases h₂ : k' = k₁ <;> simp [h₂]
      · rw [if_neg h₁, lookup_cons_eq, ih]
        by_cases h₂ : k' = k₁
        · subst h₂
          simp [h₁]
        · simp [h₂]

/-- Reading past an appended pair. -/
private theorem lookup_concat (l : List (K × V)) (k k' : K) (v : V)
    (h : k ∉ l.map Prod.fst) :
    (l ++ [(k, v)]).lookup k' = if k' = k then some v else l.lookup k' := by
  induction l with
  | nil =>
      rw [List.nil_append, lookup_cons_eq]
  | cons p l ih =>
      obtain ⟨k₁, v₁⟩ := p
      simp only [List.map_cons, List.mem_cons, not_or] at h
      rw [List.cons_append, lookup_cons_eq, lookup_cons_eq, ih h.2]
      by_cases h₁ : k' = k₁
      · subst h₁
        simp [Ne.symm h.1]
      · simp [h₁]

/-- A loop that updates one key after another. -/
theorem get_foldl_modify {W : Type*} (f : W → V → V) {l : List (K × W)}
    (hnodup : (l.map Prod.fst).Nodup) (d : PyDict K V) (k : K) :
    (l.foldl (fun d p => d.modify p.1 (f p.2)) d).get k =
      (d.get k).map fun v => (l.lookup k).elim v fun w => f w v := by
  induction l generalizing d with
  | nil => simp
  | cons p l ih =>
      obtain ⟨k', w⟩ := p
      rw [List.map_cons, List.nodup_cons] at hnodup
      rw [List.foldl_cons, ih hnodup.2, get_modify, lookup_cons_eq]
      by_cases hk : k = k'
      · -- the rest of the loop leaves the key alone
        have hrest : l.lookup k = none :=
          lookup_eq_none_iff'.mpr (hk ▸ hnodup.1)
        rw [if_pos hk, if_pos hk, hrest, Option.map_map]
        rfl
      · rw [if_neg hk, if_neg hk]

/-- Updating values adds no key. -/
theorem keys_foldl_modify {W : Type*} (f : W → V → V) (l : List (K × W))
    (d : PyDict K V) :
    (l.foldl (fun d p => d.modify p.1 (f p.2)) d).keys = d.keys := by
  induction l generalizing d with
  | nil => rfl
  | cons p l ih => rw [List.foldl_cons, ih, keys_modify]

/-- What a write does to every read. -/
theorem get_set (d : PyDict K V) (k k' : K) (v : V) :
    (d.set k v).get k' = if k' = k then some v else d.get k' := by
  unfold set
  split
  · next h =>
      rw [get_modify]
      by_cases hk : k' = k
      · subst hk
        rw [if_pos rfl, if_pos rfl]
        cases hget : d.get k' with
        | none => exact absurd h (get_eq_none_iff.mp hget)
        | some w => rfl
      · rw [if_neg hk, if_neg hk]
  · next h => exact lookup_concat d.items k k' v h

@[simp] theorem get_set_self (d : PyDict K V) (k : K) (v : V) :
    (d.set k v).get k = some v := by
  rw [get_set, if_pos rfl]

theorem get_set_of_ne (d : PyDict K V) {k k' : K} (h : k' ≠ k) (v : V) :
    (d.set k v).get k' = d.get k' := by
  rw [get_set, if_neg h]

/-- A new key is written at the end. -/
theorem items_set_of_get_eq_none {d : PyDict K V} {k : K}
    (h : d.get k = none) (v : V) : (d.set k v).items = d.items ++ [(k, v)] := by
  have hkey : k ∉ d.items.map Prod.fst := get_eq_none_iff.mp h
  unfold set
  rw [dif_neg hkey]

/-- What a default does to every read. -/
theorem get_setDefault (d : PyDict K V) (k k' : K) (v : V) :
    (d.setDefault k v).get k'
      = if k' = k then some ((d.get k).getD v) else d.get k' := by
  unfold setDefault
  cases hget : d.get k with
  | none =>
      rw [if_neg (by simp), get_set]
      rfl
  | some w =>
      rw [if_pos (by simp)]
      by_cases hk : k' = k
      · rw [if_pos hk, hk, hget]
        rfl
      · rw [if_neg hk]

/-- What a loop of defaults does to every read: what was there stays, and
else the first default under the key is read. -/
theorem get_foldl_setDefault_eq {α : Type*} (key : α → K) (value : α → V)
    (l : List α) (d : PyDict K V) (k : K) :
    (l.foldl (fun d a => d.setDefault (key a) (value a)) d).get k
      = (d.get k).or ((l.find? fun a => key a = k).map value) := by
  induction l generalizing d with
  | nil => exact (Option.or_none).symm
  | cons a l ih =>
      rw [List.foldl_cons, ih, get_setDefault, List.find?_cons]
      by_cases hk : k = key a
      · rw [if_pos hk, decide_eq_true hk.symm, hk]
        cases d.get (key a) <;> rfl
      · rw [if_neg hk, decide_eq_false (Ne.symm hk)]

/-- The default a read comes to. -/
private theorem find?_key {α : Type*} {key : α → K} {l : List α} {k : K}
    {a : α} (h : (l.find? fun a => key a = k) = some a) :
    a ∈ l ∧ key a = k := by
  have hkey := List.find?_some h
  exact ⟨List.mem_of_find?_eq_some h, of_decide_eq_true hkey⟩

/-- Every default that is set leaves its key. -/
theorem exists_get_foldl_setDefault {α : Type*} (key : α → K) (value : α → V)
    {l : List α} {d : PyDict K V} {k : K}
    (h : (∃ v, d.get k = some v) ∨ ∃ a ∈ l, key a = k) :
    ∃ v, (l.foldl (fun d a => d.setDefault (key a) (value a)) d).get k
      = some v := by
  rw [get_foldl_setDefault_eq]
  cases hget : d.get k with
  | some v => exact ⟨v, rfl⟩
  | none =>
      cases hfind : l.find? fun a => key a = k with
      | some a => exact ⟨value a, rfl⟩
      | none =>
          rcases h with ⟨v, hv⟩ | ⟨a, ha, hk⟩
          · rw [hget] at hv
            cases hv
          · exact absurd (decide_eq_true hk) (List.find?_eq_none.mp hfind a ha)

/-- Where every default under a key is the same, a read with that default
sees no difference. -/
theorem getD_foldl_setDefault {α : Type*} {key : α → K} {value : α → V}
    {l : List α} {k : K} {v : V} (hsame : ∀ a ∈ l, key a = k → value a = v)
    (d : PyDict K V) :
    ((l.foldl (fun d a => d.setDefault (key a) (value a)) d).get k).getD v
      = (d.get k).getD v := by
  rw [get_foldl_setDefault_eq]
  cases d.get k with
  | some w => rfl
  | none =>
      cases hfind : l.find? fun a => key a = k with
      | none => rfl
      | some a => exact hsame a (find?_key hfind).1 (find?_key hfind).2

/-- Where every default under a key is the same, so is what is read. -/
theorem get_foldl_setDefault {α : Type*} {key : α → K} {value : α → V}
    {l : List α} {d : PyDict K V} {k : K} {v : V}
    (hsame : ∀ a ∈ l, key a = k → value a = v)
    (h : d.get k = some v ∨ d.get k = none ∧ ∃ a ∈ l, key a = k) :
    (l.foldl (fun d a => d.setDefault (key a) (value a)) d).get k
      = some v := by
  obtain ⟨w, hw⟩ := exists_get_foldl_setDefault key value
    (h.imp (fun h => ⟨v, h⟩) And.right)
  have hgetD := getD_foldl_setDefault hsame d
  rw [hw, Option.getD_some] at hgetD
  rw [hw, hgetD]
  rcases h with h | ⟨h, -⟩
  · rw [h, Option.getD_some]
  · rw [h, Option.getD_none]

/-- What is read after a list of defaults was there or is one of them. -/
theorem of_get_foldl_setDefault {α : Type*} {key : α → K} {value : α → V}
    {l : List α} {d : PyDict K V} {k : K} {v : V}
    (h : (l.foldl (fun d a => d.setDefault (key a) (value a)) d).get k
      = some v) :
    d.get k = some v ∨ ∃ a ∈ l, key a = k ∧ value a = v := by
  rw [get_foldl_setDefault_eq] at h
  rcases Option.or_eq_some_iff.mp h with h | ⟨-, h⟩
  · exact Or.inl h
  · obtain ⟨a, hfind, hv⟩ := Option.map_eq_some_iff.mp h
    exact Or.inr ⟨a, (find?_key hfind).1, (find?_key hfind).2, hv⟩

/-- What a removal does to every read. -/
theorem get_erase (d : PyDict K V) (k k' : K) :
    (d.erase k).get k' = if k' = k then none else d.get k' := by
  unfold get erase
  dsimp only
  induction d.items with
  | nil => simp
  | cons p l ih =>
      obtain ⟨k₁, v⟩ := p
      by_cases h₁ : k₁ = k
      · subst h₁
        rw [List.filter_cons_of_neg (by simp), ih, lookup_cons_eq]
        by_cases h₂ : k' = k₁ <;> simp [h₂]
      · rw [List.filter_cons_of_pos (by simpa using h₁), lookup_cons_eq,
          lookup_cons_eq, ih]
        by_cases h₂ : k' = k₁
        · subst h₂
          simp [h₁]
        · simp [h₂]

/-- Removing a present key leaves fewer. -/
theorem length_items_erase_lt {d : PyDict K V} {k : K} {v : V}
    (h : d.get k = some v) : (d.erase k).items.length < d.items.length := by
  unfold erase
  refine List.length_filter_lt_length_iff_exists.mpr ⟨(k, v), ?_, ?_⟩
  · exact get_eq_some_iff.mp h
  · simp

omit [DecidableEq K] in
@[simp] theorem keys_map {W : Type*} (d : PyDict K V) (f : K → V → W) :
    (d.map f).keys = d.keys := by
  unfold keys map
  rw [List.map_map]
  rfl

omit [DecidableEq K] in
theorem values_map {W : Type*} (d : PyDict K V) (f : V → W) :
    (d.map fun _ v => f v).values = d.values.map f := by
  unfold values map
  rw [List.map_map, List.map_map]
  rfl

/-- What a comprehension over a dictionary reads. -/
@[simp] theorem get_map {W : Type*} (d : PyDict K V) (f : K → V → W) (k : K) :
    (d.map f).get k = (d.get k).map (f k) := by
  unfold get map
  dsimp only
  induction d.items with
  | nil => rfl
  | cons p l ih =>
      rw [List.map_cons, lookup_cons_eq, ih, lookup_cons_eq k p.1 p.2 l]
      by_cases hk : k = p.1
      · rw [if_pos hk, if_pos hk, hk]
        rfl
      · rw [if_neg hk, if_neg hk]

/-- The last pair is written last. -/
theorem ofList_snoc (l : List (K × V)) (p : K × V) :
    ofList (l ++ [p]) = (ofList l).set p.1 p.2 := by
  unfold ofList
  rw [List.foldl_append]
  rfl

/-- What a comprehension holds was in its list. -/
theorem mem_of_get_ofList {l : List (K × V)} {k : K} {v : V}
    (h : (ofList l).get k = some v) : (k, v) ∈ l := by
  induction l using List.reverseRecOn with
  | nil => cases h
  | append_singleton l p ih =>
      rw [ofList_snoc, get_set] at h
      by_cases hk : k = p.1
      · rw [if_pos hk] at h
        injection h with hv
        rw [hk, ← hv]
        exact List.mem_append_right _ (List.mem_singleton.mpr rfl)
      · rw [if_neg hk] at h
        exact List.mem_append_left _ (ih h)

/-- A comprehension has at most as many items as its list. -/
theorem length_items_ofList_le (l : List (K × V)) :
    (ofList l).items.length ≤ l.length := by
  induction l using List.reverseRecOn with
  | nil => exact Nat.le_refl 0
  | append_singleton l p ih =>
      rw [ofList_snoc, List.length_append, List.length_singleton]
      unfold set
      split
      · unfold modify
        rw [List.length_map]
        omega
      · rw [List.length_append, List.length_singleton]
        omega

/-- Every key of the list is a key of the comprehension. -/
theorem exists_get_ofList {l : List (K × V)} {k : K}
    (h : k ∈ l.map Prod.fst) : ∃ v, (ofList l).get k = some v := by
  induction l using List.reverseRecOn with
  | nil => cases h
  | append_singleton l p ih =>
      rw [ofList_snoc, get_set]
      by_cases hk : k = p.1
      · exact ⟨p.2, if_pos hk⟩
      · rw [if_neg hk]
        rw [List.map_append, List.mem_append] at h
        rcases h with h | h
        · exact ih h
        · simp only [List.map_cons, List.map_nil, List.mem_singleton] at h
          exact absurd h hk

/-- No other key is a key of the comprehension. -/
theorem get_ofList_eq_none {l : List (K × V)} {k : K}
    (h : k ∉ l.map Prod.fst) : (ofList l).get k = none := by
  cases hget : (ofList l).get k with
  | none => rfl
  | some v =>
      exact absurd (List.mem_map.mpr ⟨(k, v), mem_of_get_ofList hget, rfl⟩) h

/-- With unique keys, a comprehension has the items of its list. -/
theorem items_ofList {l : List (K × V)} (hnodup : (l.map Prod.fst).Nodup) :
    (ofList l).items = l := by
  induction l using List.reverseRecOn with
  | nil => rfl
  | append_singleton l p ih =>
      rw [List.map_append, List.nodup_append] at hnodup
      have hnew : p.1 ∉ l.map Prod.fst := fun hmem =>
        hnodup.2.2 _ hmem _ (List.mem_singleton.mpr rfl) rfl
      rw [ofList_snoc, items_set_of_get_eq_none (get_ofList_eq_none hnew),
        ih hnodup.1]

/-- With unique keys, a comprehension reads what its list holds. -/
theorem get_ofList_eq_some {l : List (K × V)}
    (hnodup : (l.map Prod.fst).Nodup) {k : K} {v : V} :
    (ofList l).get k = some v ↔ (k, v) ∈ l := by
  refine ⟨mem_of_get_ofList, fun hmem => ?_⟩
  obtain ⟨w, hw⟩ := exists_get_ofList (List.mem_map.mpr ⟨(k, v), hmem, rfl⟩)
  have hpair : ((k, w) : K × V) = (k, v) :=
    List.inj_on_of_nodup_map hnodup (mem_of_get_ofList hw) hmem rfl
  injection hpair with _ hval
  rw [hw, hval]

/-- Writing commutes with mapping the values. -/
theorem map_set {W : Type*} (d : PyDict K V) (k : K) (v : V) (f : V → W) :
    (d.set k v).map (fun _ v => f v) = (d.map fun _ v => f v).set k (f v) := by
  have hkeys : (d.map fun _ v => f v).items.map Prod.fst
      = d.items.map Prod.fst := keys_map d fun _ v => f v
  unfold set
  by_cases hk : k ∈ d.items.map Prod.fst
  · rw [dif_pos hk, dif_pos (by rw [hkeys]; exact hk)]
    unfold map modify
    simp only [List.map_map, mk.injEq]
    refine List.map_congr_left fun p _ => ?_
    by_cases hp : p.1 = k <;> simp [hp]
  · rw [dif_neg hk, dif_neg (by rw [hkeys]; exact hk)]
    unfold map
    simp only [List.map_append, List.map_cons, List.map_nil]

/-- Mapping the values of a dictionary built from a list. -/
theorem map_ofList {W : Type*} (l : List (K × V)) (f : V → W) :
    (ofList l).map (fun _ v => f v)
      = ofList (l.map fun p => (p.1, f p.2)) := by
  induction l using List.reverseRecOn with
  | nil => rfl
  | append_singleton l p ih =>
      rw [ofList_snoc, map_set, ih, List.map_append, List.map_cons,
        List.map_nil, ofList_snoc]

/-- The items under one key: one or none. -/
theorem filterMap_items {W : Type*} (d : PyDict K V) (k : K) (f : V → W) :
    (d.items.filterMap fun p => if p.1 = k then some (f p.2) else none)
      = ((d.get k).map f).toList := by
  obtain ⟨items, hnodup⟩ := d
  unfold get
  dsimp only
  induction items with
  | nil => rfl
  | cons p l ih =>
      rw [List.map_cons, List.nodup_cons] at hnodup
      rw [lookup_cons_eq, List.filterMap_cons]
      by_cases hk : p.1 = k
      · have hnone : l.lookup k = none := lookup_eq_none_iff'.mpr (hk ▸ hnodup.1)
        rw [if_pos hk, if_pos hk.symm, ih hnodup.2, hnone]
        rfl
      · rw [if_neg hk, if_neg (Ne.symm hk)]
        exact ih hnodup.2

-- ======================================================= extensionality

/-- The items are their keys paired with what the keys read. -/
private theorem items_ext :
    ∀ {l l' : List (K × V)}, (l.map Prod.fst).Nodup →
      l.map Prod.fst = l'.map Prod.fst →
      (∀ k, l.lookup k = l'.lookup k) → l = l' := by
  intro l
  induction l with
  | nil =>
      intro l' _ hkeys _
      simpa using hkeys.symm
  | cons p l ih =>
      intro l' hnd hkeys hget
      obtain ⟨k, v⟩ := p
      cases l' with
      | nil => simp at hkeys
      | cons p' l' =>
          obtain ⟨k', v'⟩ := p'
          simp only [List.map_cons, List.cons.injEq] at hkeys
          obtain ⟨rfl, hkeys⟩ := hkeys
          simp only [List.map_cons, List.nodup_cons] at hnd
          have hv := hget k
          rw [lookup_cons_eq, lookup_cons_eq, if_pos rfl, if_pos rfl] at hv
          injection hv with hv
          subst hv
          have hl : l = l' := by
            refine ih hnd.2 hkeys fun k₁ => ?_
            by_cases h₁ : k₁ = k
            · subst h₁
              rw [lookup_eq_none_iff'.mpr hnd.1,
                lookup_eq_none_iff'.mpr (hkeys ▸ hnd.1)]
            · have h := hget k₁
              rw [lookup_cons_eq, lookup_cons_eq, if_neg h₁, if_neg h₁] at h
              exact h
          rw [hl]

/-- Dictionaries with the same reads have the same items in some order. -/
theorem perm_items {d d' : PyDict K V} (hget : ∀ k, d.get k = d'.get k) :
    d.items.Perm d'.items := by
  apply (List.perm_ext_iff_of_nodup d.nodup.of_map d'.nodup.of_map).mpr
  intro p
  obtain ⟨k, v⟩ := p
  rw [← get_eq_some_iff, ← get_eq_some_iff, hget]

/-- Dictionaries that are read alike have the same values, in some order. -/
theorem perm_values {d d' : PyDict K V} (hget : ∀ k, d.get k = d'.get k) :
    d.values.Perm d'.values := (perm_items hget).map Prod.snd

/-- A comprehension with unique keys does not depend on the order. -/
theorem get_ofList_perm {l l' : List (K × V)} (h : l.Perm l')
    (hnodup : (l.map Prod.fst).Nodup) (k : K) :
    (ofList l).get k = (ofList l').get k := by
  have hnodup' : (l'.map Prod.fst).Nodup := (h.map Prod.fst).nodup_iff.mp hnodup
  apply Option.ext
  intro v
  rw [get_ofList_eq_some hnodup, get_ofList_eq_some hnodup']
  exact h.mem_iff

omit [DecidableEq K] in
/-- Dictionaries with the same items are equal. -/
theorem ext_items {d d' : PyDict K V} (h : d.items = d'.items) : d = d' := by
  cases d
  cases d'
  cases h
  rfl

/-- What a list of all the keys reads, one after another, are the items in
some order. -/
theorem perm_filterMap_get {d : PyDict K V} {ks : List K} (hks : ks.Nodup)
    (hall : ∀ k v, d.get k = some v → k ∈ ks) :
    (ks.filterMap fun k => (d.get k).map fun v => (k, v)).Perm d.items := by
  have hnodup : (ks.filterMap fun k => (d.get k).map fun v => (k, v)).Nodup := by
    refine hks.filterMap fun k k' p hp hp' => ?_
    obtain ⟨v, -, rfl⟩ := Option.map_eq_some_iff.mp hp
    obtain ⟨v', -, hp'⟩ := Option.map_eq_some_iff.mp hp'
    injection hp' with hk _
    exact hk.symm
  apply (List.perm_ext_iff_of_nodup hnodup d.nodup.of_map).mpr
  intro p
  obtain ⟨k, v⟩ := p
  rw [List.mem_filterMap, ← get_eq_some_iff]
  constructor
  · intro hmem
    obtain ⟨k', -, hget⟩ := hmem
    obtain ⟨v', hget, heq⟩ := Option.map_eq_some_iff.mp hget
    injection heq with hk hv
    rw [← hk, hget, hv]
  · intro hget
    refine ⟨k, hall k v hget, ?_⟩
    rw [hget]
    rfl

/-- Dictionaries with the same key order and the same reads are equal. -/
theorem ext_get {d d' : PyDict K V} (hkeys : d.keys = d'.keys)
    (hget : ∀ k, d.get k = d'.get k) : d = d' :=
  ext_items (items_ext d.nodup hkeys hget)

end PyDict
