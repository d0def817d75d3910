/-
Where the policies that look at no load place a request
(Policy/Baselines.lean): `prefix_hash` by its first tokens, `round_robin` by
its turn. Both take the node at a position, modulo the number of eligible
nodes in the order of their ids (`PlacesAt`).

The key of `prefix_hash` is a text that can be read back
(`keyBytes_injective`), so it tells apart what its first tokens tell apart:
a decimal has no comma in it and is not empty, and UTF-8 is injective.

The digest itself is a parameter. Nothing is asked of it: two requests with
the same first tokens have the same digest because they have the same key,
whatever the digest does with it.
-/
import Kareserve.Policy.Proofs.Complete

namespace Kareserve

open SortKey

-- =============================================================== the key

/-- The bytes of an array, from a position on. -/
theorem toList_loop (bytes : ByteArray) (i : ℕ) (acc : List UInt8) :
    ByteArray.toList.loop bytes i acc = acc.reverse ++ bytes.data.toList.drop i := by
  fun_induction ByteArray.toList.loop bytes i acc with
  | case1 i acc hlt ih =>
      have hlt' : i < bytes.data.toList.length := hlt
      rw [ih, List.reverse_cons, List.append_assoc,
        List.drop_eq_getElem_cons hlt']
      have hget : bytes.get! i = bytes.data[i]! := by cases bytes; rfl
      rw [hget, getElem!_pos bytes.data i hlt]
      rfl
  | case2 i acc hge =>
      have hge' : bytes.data.toList.length ≤ i := not_lt.mp hge
      rw [List.drop_eq_nil_of_le hge', List.append_nil]

theorem toList_injective {x y : ByteArray} (h : x.toList = y.toList) : x = y := by
  unfold ByteArray.toList at h
  rw [toList_loop, toList_loop] at h
  exact ByteArray.ext (Array.toList_inj.mp h)

/-- Joined texts that are not empty and do without the separator can be taken
apart. -/
theorem intercalate_inj {α : Type} [DecidableEq α] {sep : α}
    {texts texts' : List (List α)} (hfree : ∀ l ∈ texts, sep ∉ l ∧ l ≠ [])
    (hfree' : ∀ l ∈ texts', sep ∉ l ∧ l ≠ [])
    (h : [sep].intercalate texts = [sep].intercalate texts') :
    texts = texts' := by
  have hread : ∀ texts : List (List α), texts ≠ [] →
      (∀ l ∈ texts, sep ∉ l ∧ l ≠ []) →
      ([sep].intercalate texts).splitOn sep = texts :=
    fun texts hne hfree =>
      List.splitOn_intercalate sep (fun l hl => (hfree l hl).1) hne
  -- nothing joined reads as one empty text, which is not among the others
  have hnone : ∀ texts : List (List α), (∀ l ∈ texts, sep ∉ l ∧ l ≠ []) →
      [sep].intercalate texts = [] → texts = [] := by
    intro texts hfree hnil
    by_contra hne
    have hsplit := hread texts hne hfree
    rw [hnil] at hsplit
    exact (hfree [] (by rw [← hsplit]; exact List.mem_cons_self ..)).2 rfl
  by_cases hnil : texts = []
  · rw [hnil] at h ⊢
    exact (hnone texts' hfree' h.symm).symm
  · by_cases hnil' : texts' = []
    · rw [hnil'] at h
      exact absurd (hnone texts hfree h) hnil
    · rw [← hread texts hnil hfree, h, hread texts' hnil' hfree']

/-- A decimal can be read. -/
theorem strInt_injective : Function.Injective strInt := by
  have hdigits : ∀ n m : ℤ, Nat.toDigits 10 n.natAbs = Nat.toDigits 10 m.natAbs →
      n.natAbs = m.natAbs := by
    intro n m h
    rw [← Nat.ofDigitChars_ten_toDigits (n := n.natAbs), h,
      Nat.ofDigitChars_ten_toDigits]
  have hminus : ∀ n : ℕ, '-' ∉ Nat.toDigits 10 n := by
    intro n hmem
    have hdigit := Nat.isDigit_of_mem_toDigits (by decide) (by decide) hmem
    exact absurd hdigit (by decide)
  intro n m h
  have hlist := String.ofList_injective h
  by_cases hn : n < 0 <;> by_cases hm : m < 0
  · rw [if_pos hn, if_pos hm] at hlist
    have habs := hdigits n m (List.append_cancel_left hlist)
    omega
  · rw [if_pos hn, if_neg hm] at hlist
    refine absurd ?_ (hminus m.natAbs)
    rw [List.nil_append] at hlist
    rw [← hlist]
    exact List.mem_append_left _ (List.mem_cons_self ..)
  · rw [if_neg hn, if_pos hm] at hlist
    refine absurd ?_ (hminus n.natAbs)
    rw [List.nil_append] at hlist
    rw [hlist]
    exact List.mem_append_left _ (List.mem_cons_self ..)
  · rw [if_neg hn, if_neg hm, List.nil_append, List.nil_append] at hlist
    have habs := hdigits n m hlist
    omega

theorem comma_not_mem_strInt (n : ℤ) : ',' ∉ (strInt n).toList := by
  unfold strInt
  rw [String.toList_ofList]
  intro hmem
  rcases List.mem_append.mp hmem with hsign | hdigits
  · split at hsign
    · exact absurd (List.mem_singleton.mp hsign) (by decide)
    · cases hsign
  · have hdigit := Nat.isDigit_of_mem_toDigits (by decide) (by decide) hdigits
    exact absurd hdigit (by decide)

theorem toList_strInt_ne_nil (n : ℤ) : (strInt n).toList ≠ [] := by
  unfold strInt
  rw [String.toList_ofList]
  exact List.append_ne_nil_of_right_ne_nil _ Nat.toDigits_ne_nil

namespace PrefixHashPolicy

/-- `key`, of the first tokens. -/
def keyBytes (tokens : List ℤ) : List UInt8 :=
  (String.intercalate "," (tokens.map strInt)).toUTF8.toList

/-- The key tells apart any two beginnings. -/
theorem keyBytes_injective : Function.Injective keyBytes := by
  intro tokens tokens' h
  have htext := congrArg String.toList
    (String.toByteArray_inj.mp (toList_injective h))
  rw [String.toList_intercalate, String.toList_intercalate, List.map_map,
    List.map_map] at htext
  have hfree : ∀ tokens : List ℤ,
      ∀ text ∈ tokens.map (String.toList ∘ strInt), ',' ∉ text ∧ text ≠ [] := by
    intro tokens text htext
    obtain ⟨n, -, rfl⟩ := List.mem_map.mp htext
    exact ⟨comma_not_mem_strInt n, toList_strInt_ne_nil n⟩
  exact List.map_injective_iff.mpr
    (fun n m hnm => strInt_injective (String.toList_inj.mp hnm))
    (intercalate_inj (hfree tokens) (hfree tokens') htext)

end PrefixHashPolicy

-- ========================================================== a position

/-- Each request has the eligible candidate at its position. -/
structure PlacesAt (index : ℕ → SchedulerRequest → ℕ)
    (requests : List SchedulerRequest) (candidates : CandidateMatrix)
    (assignments : PyDict RequestId RouteAssignment) : Prop where
  placed : ∀ i request, requests[i]? = some request →
    (assignments.get request.requestId).map RouteAssignment.candidate
      = (sortedEligible candidates request.requestId)[index i request
        % (sortedEligible candidates request.requestId).length]?
  absent : ∀ requestId, requestId ∉ requests.map (·.requestId) →
    assignments.get requestId = none

section Positions

variable {index : ℕ → SchedulerRequest → ℕ} {requests : List SchedulerRequest}
  {candidates : CandidateMatrix}
  {assignments : PyDict RequestId RouteAssignment} {request : SchedulerRequest}

theorem PlacesAt.nil (index : ℕ → SchedulerRequest → ℕ)
    (candidates : CandidateMatrix) :
    PlacesAt index [] candidates .empty where
  placed i request h := by cases h
  absent _ _ := rfl

/-- One request more. -/
theorem PlacesAt.concat (h : PlacesAt index requests candidates assignments)
    (hfresh : request.requestId ∉ requests.map (·.requestId))
    {assignments' : PyDict RequestId RouteAssignment}
    (hself : (assignments'.get request.requestId).map RouteAssignment.candidate
      = (sortedEligible candidates request.requestId)[index requests.length
        request % (sortedEligible candidates request.requestId).length]?)
    (hother : ∀ requestId, requestId ≠ request.requestId →
      assignments'.get requestId = assignments.get requestId) :
    PlacesAt index (requests ++ [request]) candidates assignments' where
  placed i request' hi := by
    by_cases hlt : i < requests.length
    · rw [List.getElem?_append_left hlt] at hi
      have hmem := List.mem_map_of_mem (f := fun r : SchedulerRequest =>
        r.requestId) (List.mem_of_getElem? hi)
      rw [hother _ (ne_of_mem_of_not_mem hmem hfresh)]
      exact h.placed i request' hi
    · rw [List.getElem?_append_right (not_lt.mp hlt),
        List.getElem?_singleton] at hi
      split at hi
      case isTrue hzero =>
        injection hi with hi
        have hlast : i = requests.length := by omega
        rw [← hi, hlast]
        exact hself
      case isFalse => cases hi
  absent requestId hnot := by
    rw [List.map_append, List.mem_append, not_or, List.map_singleton,
      List.mem_singleton] at hnot
    rw [hother _ hnot.2]
    exact h.absent requestId hnot.1

/-- The body of both loops, in what it does to the assignments. -/
theorem PlacesAt.assign (h : PlacesAt index requests candidates assignments)
    (hfresh : request.requestId ∉ requests.map (·.requestId))
    (give : RouteCandidate → RouteAssignment)
    (hgive : ∀ c, (give c).candidate = c) :
    PlacesAt index (requests ++ [request]) candidates
      (match (sortedEligible candidates request.requestId)[index requests.length
          request % (sortedEligible candidates request.requestId).length]? with
        | none => assignments
        | some c => assignments.set request.requestId (give c)) := by
  split
  next hnone =>
    refine h.concat hfresh ?_ fun _ _ => rfl
    rw [hnone, h.absent _ hfresh]
    rfl
  next c hsome =>
    refine h.concat hfresh ?_ fun requestId hne =>
      PyDict.get_set_of_ne _ hne _
    rw [hsome, PyDict.get_set_self, Option.map_some, hgive]

end Positions

/-- `prefix_hash` goes by the first tokens. -/
theorem PrefixHashPolicy.selectBatch_placesAt (blake2b : List UInt8 → List UInt8)
    (p : PrefixHashPolicy) {requests : List SchedulerRequest}
    (hdistinct : (requests.map (·.requestId)).Nodup)
    (candidates : CandidateMatrix) :
    PlacesAt (fun _ request => p.prefixHash blake2b request) requests candidates
      (p.selectBatch blake2b requests candidates) := by
  unfold selectBatch
  induction requests using List.reverseRecOn with
  | nil => exact .nil _ _
  | append_singleton requests request ih =>
      rw [List.map_append, List.nodup_append] at hdistinct
      rw [List.foldl_append, List.foldl_cons, List.foldl_nil]
      refine (ih hdistinct.1).assign ?_ _ fun _ => rfl
      exact fun hmem => hdistinct.2.2 _ hmem _ (List.mem_singleton.mpr rfl) rfl

/-- `round_robin` goes by its index, which counts the requests. -/
theorem RoundRobinPolicy.selectBatch_placesAt (p : RoundRobinPolicy)
    {requests : List SchedulerRequest}
    (hdistinct : (requests.map (·.requestId)).Nodup)
    {candidates : CandidateMatrix}
    (hrows : ∀ request ∈ requests, candidates.row request.requestId ≠ []) :
    (p.selectBatch requests candidates).1.nextIndex
        = p.nextIndex + requests.length ∧
      PlacesAt (fun i _ => p.nextIndex + i) requests candidates
        (p.selectBatch requests candidates).2 := by
  unfold selectBatch
  induction requests using List.reverseRecOn with
  | nil => exact ⟨rfl, .nil _ _⟩
  | append_singleton requests request ih =>
      rw [List.map_append, List.nodup_append] at hdistinct
      rw [List.foldl_append, List.foldl_cons, List.foldl_nil]
      obtain ⟨hindex, hplaces⟩ := ih hdistinct.1 fun request hmem =>
        hrows request (List.mem_append_left _ hmem)
      have hfresh : request.requestId ∉ requests.map (·.requestId) :=
        fun hmem => hdistinct.2.2 _ hmem _ (List.mem_singleton.mpr rfl) rfl
      generalize requests.foldl (assign candidates) (p, .empty) = s
        at hindex hplaces ⊢
      have hnext := hplaces.assign hfresh
        (fun c => s.1.costModel.assignment request c 0 none) fun _ => rfl
      unfold assign
      dsimp only at hnext ⊢
      rw [hindex]
      split
      next hnone =>
        exact absurd (sortedEligible_eq_none hnone)
          (hrows request (List.mem_append_right _ (List.mem_singleton.mpr rfl)))
      next c hsome =>
        rw [hsome] at hnext
        exact ⟨by simp [Nat.add_assoc], hnext⟩

end Kareserve
