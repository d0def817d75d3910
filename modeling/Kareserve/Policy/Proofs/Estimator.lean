/-
The online queue estimator: what its windows hold, and what a prediction
depends on.

# The windows

`Tracks` says of an estimator which calls of `observe` it has seen: the
cluster's window is the last of all accepted samples, a node's window the
last of the node's own. A call keeps it (`Tracks.observe`), so it holds
after any sequence of calls (`observeAll_tracks`), and what is said about
the estimator below is said about lists of samples.

# The slope

An accepted sample has positive work and a delay that is not negative, so
no window's divisions fail, and the slope is the least-squares ratio
itself (`slope_eq`): the clamp at zero never moves it.
-/
import Kareserve.Lib.LeastSquares
import Kareserve.Lib.Window
import Kareserve.Policy.Performance

namespace Kareserve

namespace OnlineQueueTimeEstimator

-- ============================================================= accepted

/-- The sample of a call, if it is accepted. -/
def Observation.sample (o : Observation) : Option (ℚ × ℚ) :=
  match o.observedQueueMs with
  | .finite ms =>
      if o.reservedWork ≤ 0 then none else some (o.reservedWork, max 0 ms)
  | _ => none

/-- The accepted samples, in order. -/
def samples (observations : List Observation) : List (ℚ × ℚ) :=
  observations.filterMap Observation.sample

/-- The calls for a node, in order. -/
def callsOf (nodeId : NodeId) (observations : List Observation) :
    List Observation :=
  observations.filter fun o => o.nodeId = nodeId

/-- The accepted samples of a node, in order. -/
def samplesOf (nodeId : NodeId) (observations : List Observation) :
    List (ℚ × ℚ) :=
  samples (callsOf nodeId observations)

theorem samples_concat (observations : List Observation) (o : Observation) :
    samples (observations ++ [o]) = samples observations ++ o.sample.toList := by
  unfold samples
  rw [List.filterMap_append]
  cases h : o.sample <;> simp [h]

theorem samplesOf_concat (nodeId : NodeId) (observations : List Observation)
    (o : Observation) :
    samplesOf nodeId (observations ++ [o])
      = samplesOf nodeId observations
        ++ if o.nodeId = nodeId then o.sample.toList else [] := by
  unfold samplesOf callsOf
  rw [List.filter_append]
  by_cases hid : o.nodeId = nodeId
  · rw [if_pos hid, ← samples_concat]
    simp [hid]
  · simp [hid]

/-- What is accepted has positive work and no negative delay. -/
theorem mem_samples {observations : List Observation} {s : ℚ × ℚ}
    (h : s ∈ samples observations) : 0 < s.1 ∧ 0 ≤ s.2 := by
  obtain ⟨o, -, hsample⟩ := List.mem_filterMap.mp h
  unfold Observation.sample at hsample
  split at hsample
  · split at hsample
    · cases hsample
    · rename_i hwork
      injection hsample with hsample
      rw [← hsample]
      exact ⟨not_le.mp hwork, le_max_left _ _⟩
  · cases hsample

/-- A call by the sample it brings. -/
theorem observeFloat_eq (e : OnlineQueueTimeEstimator) (o : Observation) :
    e.observeFloat o.nodeId o.reservedWork o.observedQueueMs
      = match o.sample with
        | none => e
        | some sample =>
            { e with
              cluster := e.cluster.append sample
              nodes := e.nodes.set o.nodeId
                (((e.nodes.get o.nodeId).getD
                  (.withCapacity e.historySize)).append sample) } := by
  unfold observeFloat Observation.sample
  cases o.observedQueueMs with
  | finite ms =>
      dsimp only
      unfold observe
      by_cases hwork : o.reservedWork ≤ 0
      · rw [if_pos hwork, if_pos hwork]
      · rw [if_neg hwork, if_neg hwork]
  | nan => rfl
  | infinite negative => rfl

-- ============================================================== windows

/-- An estimate holds the last of a list of samples. -/
structure Holds (window : QueueEstimate) (size : ℕ)
    (accepted : List (ℚ × ℚ)) : Prop where
  capacity : window.capacity = size
  samples : window.samples = accepted.rtake size

/-- A window starts empty. -/
theorem Holds.withCapacity (size : ℕ) :
    Holds (.withCapacity size) size [] where
  capacity := rfl
  samples := (List.rtake_nil size).symm

/-- A sample that comes drives out the oldest of a full window. -/
theorem Holds.append {window : QueueEstimate} {size : ℕ}
    {accepted : List (ℚ × ℚ)} (h : Holds window size accepted)
    (sample : ℚ × ℚ) :
    Holds (window.append sample) size (accepted ++ [sample]) where
  capacity := h.capacity
  samples := by
    rw [← Window.rtake_concat_rtake, ← h.samples, ← h.capacity]
    show (window.samples ++ [sample]).drop _ = _
    unfold List.rtake
    rw [List.length_append, List.length_singleton]

/-- The samples decide the window. -/
theorem Holds.unique {window window' : QueueEstimate} {size : ℕ}
    {accepted : List (ℚ × ℚ)} (h : Holds window size accepted)
    (h' : Holds window' size accepted) : window = window' := by
  have hcapacity := h.capacity.trans h'.capacity.symm
  have hsamples := h.samples.trans h'.samples.symm
  cases window
  cases window'
  simp only at hcapacity hsamples
  subst hcapacity
  subst hsamples
  rfl

/-- A window has as many samples as it was given, up to its size. -/
theorem Holds.length {window : QueueEstimate} {size : ℕ}
    {accepted : List (ℚ × ℚ)} (h : Holds window size accepted) :
    window.samples.length = min accepted.length size := by
  rw [h.samples, Window.length_rtake]

/-- What an estimator built with these arguments has kept of a sequence of
calls. -/
structure Tracks (e : OnlineQueueTimeEstimator)
    (historySize localMinSamples : ℤ) (observations : List Observation) :
    Prop where
  historySize : e.historySize = (max 8 historySize).toNat
  localMinSamples : e.localMinSamples = (max 1 localMinSamples).toNat
  cluster : Holds e.cluster e.historySize (samples observations)
  known : ∀ nodeId window, e.nodes.get nodeId = some window →
    Holds window e.historySize (samplesOf nodeId observations)
      ∧ samplesOf nodeId observations ≠ []
  unknown : ∀ nodeId, e.nodes.get nodeId = none →
    samplesOf nodeId observations = []

section Tracks

variable {e : OnlineQueueTimeEstimator} {historySize localMinSamples : ℤ}
  {observations : List Observation}

/-- An estimator that was shown nothing. -/
theorem Tracks.init (historySize localMinSamples : ℤ) :
    Tracks (.init historySize localMinSamples) historySize localMinSamples
      [] where
  historySize := rfl
  localMinSamples := rfl
  cluster := .withCapacity _
  known := fun nodeId window h => by cases h
  unknown := fun nodeId h => rfl

/-- One observation: a node's own window and the common one take it, if it is
one to learn from. -/
theorem Tracks.observe
    (h : Tracks e historySize localMinSamples observations)
    (o : Observation) :
    Tracks (e.observeFloat o.nodeId o.reservedWork o.observedQueueMs)
      historySize localMinSamples (observations ++ [o]) := by
  rw [observeFloat_eq]
  cases hsample : o.sample with
  -- nothing to learn from: every window stays
  | none =>
      have hsame : ∀ nodeId, samplesOf nodeId (observations ++ [o])
          = samplesOf nodeId observations := by
        intro nodeId
        rw [samplesOf_concat, hsample]
        split <;> exact List.append_nil _
      refine ⟨h.historySize, h.localMinSamples, ?_, fun nodeId window hget => ?_,
        fun nodeId hget => ?_⟩
      · rw [samples_concat, hsample]
        show Holds e.cluster e.historySize (samples observations ++ [])
        rw [List.append_nil]
        exact h.cluster
      · rw [hsame]
        exact h.known nodeId window hget
      · rw [hsame]
        exact h.unknown nodeId hget
  | some sample =>
      -- its own window, or a new one where the node had none
      have hown : Holds ((e.nodes.get o.nodeId).getD
          (.withCapacity e.historySize)) e.historySize
          (samplesOf o.nodeId observations) := by
        cases hget : e.nodes.get o.nodeId with
        | none =>
            rw [h.unknown o.nodeId hget]
            exact .withCapacity _
        | some window => exact (h.known o.nodeId window hget).1
      refine ⟨h.historySize, h.localMinSamples, ?_, fun nodeId window hget => ?_,
        fun nodeId hget => ?_⟩
      · rw [samples_concat, hsample]
        exact h.cluster.append sample
      · dsimp only at hget ⊢
        rw [PyDict.get_set] at hget
        rw [samplesOf_concat, hsample]
        -- only the observed node's window takes the sample
        by_cases hid : nodeId = o.nodeId
        · rw [if_pos hid] at hget
          injection hget with hget
          subst hid
          subst hget
          rw [if_pos rfl]
          exact ⟨hown.append sample, by simp⟩
        · rw [if_neg hid] at hget
          rw [if_neg (Ne.symm hid), List.append_nil]
          exact h.known nodeId window hget
      · dsimp only at hget
        rw [PyDict.get_set] at hget
        by_cases hid : nodeId = o.nodeId
        · rw [if_pos hid] at hget
          cases hget
        · rw [if_neg hid] at hget
          rw [samplesOf_concat, if_neg (Ne.symm hid), List.append_nil]
          exact h.unknown nodeId hget

/-- After any sequence of calls. -/
theorem observeAll_tracks (historySize localMinSamples : ℤ)
    (observations : List Observation) :
    Tracks ((OnlineQueueTimeEstimator.init historySize
      localMinSamples).observeAll observations) historySize localMinSamples
      observations := by
  induction observations using List.reverseRecOn with
  | nil => exact .init historySize localMinSamples
  | append_singleton observations o ih =>
      unfold observeAll at ih ⊢
      rw [List.foldl_append]
      exact ih.observe o

end Tracks

-- ================================================================ slope

section Slope

open LeastSquares

variable {window : QueueEstimate} {size : ℕ} {accepted : List (ℚ × ℚ)}
  {observations : List Observation}

/-- What is accepted has positive work and a delay that is not negative. -/
theorem Holds.sample_bounds (h : Holds window size accepted)
    (hbounds : ∀ s ∈ accepted, 0 < s.1 ∧ 0 ≤ s.2) :
    ∀ s ∈ window.samples, 0 < s.1 ∧ 0 ≤ s.2 := by
  intro s hs
  rw [h.samples] at hs
  exact hbounds s (Window.mem_of_mem_rtake hs)

/-- The denominator is zero for an empty window only. -/
theorem momentXX_pos_iff (hbounds : ∀ s ∈ window.samples, 0 < s.1 ∧ 0 ≤ s.2) :
    0 < momentXX window.samples ↔ window.samples ≠ [] := by
  constructor
  · intro hpos hnil
    rw [hnil] at hpos
    exact lt_irrefl 0 hpos
  · intro hne
    obtain ⟨s, rest, hcons⟩ := List.exists_cons_of_ne_nil hne
    have hmem : s ∈ window.samples := by
      rw [hcons]
      exact List.mem_cons_self ..
    exact momentXX_pos hmem (ne_of_gt (hbounds s hmem).1)

/-- The slope is the least-squares ratio. -/
theorem slope_eq (hbounds : ∀ s ∈ window.samples, 0 < s.1 ∧ 0 ≤ s.2)
    (hne : window.samples ≠ []) :
    window.slope = momentXY window.samples / momentXX window.samples := by
  have hpos := (momentXX_pos_iff hbounds).mpr hne
  have hratio : 0 ≤ momentXY window.samples / momentXX window.samples :=
    ratio_nonneg fun s hs => ⟨le_of_lt (hbounds s hs).1, (hbounds s hs).2⟩
  show (if momentXX window.samples ≤ 0 then 0
    else max 0 (momentXY window.samples / momentXX window.samples)) = _
  rw [if_neg (not_le.mpr hpos), max_eq_right hratio]

/-- No window divides by zero for its slope. -/
theorem slopeChecked_eq (window : QueueEstimate) :
    window.slopeChecked = some window.slope := by
  unfold QueueEstimate.slopeChecked QueueEstimate.slope
  dsimp only
  split
  · rfl
  · rename_i hpos
    unfold QueueEstimate.divide
    rw [if_neg fun hzero => hpos (le_of_eq hzero)]
    rfl

/-- Nor for its mean error. -/
theorem absoluteErrorMs_isSome (window : QueueEstimate) :
    window.absoluteErrorMs.isSome := by
  unfold QueueEstimate.absoluteErrorMs
  split
  · rfl
  · rename_i hne
    have hlength : (window.samples.length : ℚ) ≠ 0 := by
      rw [Nat.cast_ne_zero, ne_eq, List.length_eq_zero_iff]
      exact hne
    rw [slopeChecked_eq, Option.bind_some]
    unfold QueueEstimate.divide
    rw [if_neg hlength]
    rfl

/-- What a window is good for, whatever it holds of the accepted
samples. -/
theorem Holds.least_squares (h : Holds window size accepted)
    (hbounds : ∀ s ∈ accepted, 0 < s.1 ∧ 0 ≤ s.2) :
    window.slopeChecked = some window.slope
      ∧ window.absoluteErrorMs.isSome ∧ 0 ≤ window.slope
      ∧ (window.samples ≠ [] → ∀ s,
        residual window.samples window.slope ≤ residual window.samples s) := by
  have hwindow := h.sample_bounds hbounds
  refine ⟨slopeChecked_eq window, absoluteErrorMs_isSome window,
    window.slope_nonneg, fun hne s => ?_⟩
  rw [slope_eq hwindow hne]
  exact ratio_minimises ((momentXX_pos_iff hwindow).mpr hne) s

end Slope

/-- The estimator is sliding-window least squares. After any sequence of
calls of `observe`, the cluster's window is the last `history_size` of the
accepted samples and each node's the last of its own; no division of any
window fails, its slope is not negative, and, unless it is empty, no other
slope has a smaller sum of squared errors. -/
theorem estimator_least_squares (historySize localMinSamples : ℤ)
    (observations : List Observation) :
    let e := (OnlineQueueTimeEstimator.init historySize
      localMinSamples).observeAll observations
    e.historySize = (max 8 historySize).toNat
      ∧ e.cluster.samples = (samples observations).rtake
        (min (samples observations).length e.historySize)
      ∧ (∀ nodeId, (e.nodes.get nodeId).map QueueEstimate.samples
        = if samplesOf nodeId observations = [] then none
          else some ((samplesOf nodeId observations).rtake
            (min (samplesOf nodeId observations).length e.historySize)))
      ∧ ∀ window, (window = e.cluster
          ∨ ∃ nodeId, e.nodes.get nodeId = some window) →
        window.slopeChecked = some window.slope
          ∧ window.absoluteErrorMs.isSome ∧ 0 ≤ window.slope
          ∧ (window.samples ≠ [] → ∀ s,
            LeastSquares.residual window.samples window.slope
              ≤ LeastSquares.residual window.samples s) := by
  intro e
  have h : Tracks e historySize localMinSamples observations :=
    observeAll_tracks historySize localMinSamples observations
  refine ⟨h.historySize, ?_, fun nodeId => ?_, fun window hwindow => ?_⟩
  · rw [Window.rtake_min_length]
    exact h.cluster.samples
  · rw [Window.rtake_min_length]
    -- a node has a window from its first sample on
    cases hget : e.nodes.get nodeId with
    | none =>
        rw [if_pos (h.unknown nodeId hget)]
        rfl
    | some window =>
        obtain ⟨hholds, hne⟩ := h.known nodeId window hget
        rw [if_neg hne, Option.map_some, hholds.samples]
  · rcases hwindow with rfl | ⟨nodeId, hget⟩
    · exact h.cluster.least_squares fun s hs => mem_samples hs
    · exact (h.known nodeId window hget).1.least_squares
        fun s hs => mem_samples hs

-- =========================================================== predictions

section Predictions

variable {e e' : OnlineQueueTimeEstimator} {historySize localMinSamples : ℤ}
  {observations observations' : List Observation} {nodeId : NodeId} {n : ℕ}

/-- A node that has its samples, and room for them, is predicted from
its own window. -/
theorem Tracks.estimate_own
    (h : Tracks e historySize localMinSamples observations)
    (hroom : max 1 localMinSamples ≤ max 8 historySize)
    (henough : max 1 localMinSamples
      ≤ (samplesOf nodeId observations).length) :
    Holds (e.estimate nodeId) e.historySize (samplesOf nodeId observations) := by
  unfold estimate
  cases hget : e.nodes.get nodeId with
  | none =>
      rw [h.unknown nodeId hget, List.length_nil] at henough
      have hone : 1 ≤ max 1 localMinSamples := le_max_left _ _
      omega
  | some window =>
      have hholds := (h.known nodeId window hget).1
      have hfull : ¬ window.samples.length < e.localMinSamples := by
        rw [hholds.length, h.localMinSamples, h.historySize]
        omega
      show Holds (if window.samples.length < e.localMinSamples then e.cluster
        else window) _ _
      rw [if_neg hfull]
      exact hholds

/-- A node whose window cannot hold as many samples as are asked for is
always predicted from the cluster's. -/
theorem Tracks.estimate_cluster
    (h : Tracks e historySize localMinSamples observations)
    (hroom : max 8 historySize < max 1 localMinSamples) :
    e.estimate nodeId = e.cluster := by
  unfold estimate
  cases hget : e.nodes.get nodeId with
  | none => rfl
  | some window =>
      have hholds := (h.known nodeId window hget).1
      have hshort : window.samples.length < e.localMinSamples := by
        rw [hholds.length, h.localMinSamples, h.historySize]
        omega
      show (if window.samples.length < e.localMinSamples then e.cluster
        else window) = _
      rw [if_pos hshort]

/-- Calls for a node that bring no delay. -/
def idleCalls (nodeId : NodeId) (n : ℕ) : List Observation :=
  List.replicate n ⟨nodeId, 1, .finite 0⟩

/-- A call for a node that brings one. -/
def delayedCall (nodeId : NodeId) : Observation := ⟨nodeId, 1, .finite 1⟩

theorem samples_idleCalls (nodeId : NodeId) (n : ℕ) :
    samples (idleCalls nodeId n) = List.replicate n (1, 0) := by
  unfold samples idleCalls
  rw [List.filterMap_replicate]
  rfl

theorem callsOf_idleCalls (nodeId : NodeId) (n : ℕ) :
    callsOf nodeId (idleCalls nodeId n) = idleCalls nodeId n := by
  unfold callsOf idleCalls
  rw [List.filter_replicate, if_pos (decide_eq_true rfl)]

theorem callsOf_concat_of_ne {o : Observation} (h : o.nodeId ≠ nodeId)
    (observations : List Observation) :
    callsOf nodeId (observations ++ [o]) = callsOf nodeId observations := by
  unfold callsOf
  rw [List.filter_append, List.filter_cons_of_neg (by simpa using h),
    List.filter_nil, List.append_nil]

/-- A cluster that has seen no delay. -/
theorem Tracks.slope_idle
    (h : Tracks e historySize localMinSamples (idleCalls nodeId n)) :
    e.cluster.slope = 0 := by
  have hnumerator : LeastSquares.momentXY e.cluster.samples = 0 := by
    refine List.sum_eq_zero fun x hx => ?_
    obtain ⟨s, hs, rfl⟩ := List.mem_map.mp hx
    rw [h.cluster.samples, samples_idleCalls] at hs
    rw [List.eq_of_mem_replicate (Window.mem_of_mem_rtake hs), mul_zero]
  show (if _ then 0 else max 0 (LeastSquares.momentXY e.cluster.samples / _)) = _
  rw [hnumerator, zero_div, max_self, ite_self]

/-- A cluster whose last sample is a delay. -/
theorem Tracks.slope_delayed {other : NodeId}
    (h : Tracks e historySize localMinSamples
      (idleCalls nodeId n ++ [delayedCall other])) : 0 < e.cluster.slope := by
  have hsize : 0 < e.historySize := by
    rw [h.historySize]
    omega
  obtain ⟨size, hsize⟩ := Nat.exists_eq_succ_of_ne_zero (ne_of_gt hsize)
  have hwindow : e.cluster.samples
      = (List.replicate n (1, 0)).rtake size ++ [(1, 1)] := by
    rw [h.cluster.samples, samples_concat, samples_idleCalls, hsize]
    exact List.rtake_concat_succ _ _ _
  have hbounds := h.cluster.sample_bounds fun s hs => mem_samples hs
  have hne : e.cluster.samples ≠ [] := by
    rw [hwindow]
    exact List.append_ne_nil_of_right_ne_nil _ (List.cons_ne_nil _ _)
  have hidle : LeastSquares.momentXY
      ((List.replicate n ((1 : ℚ), (0 : ℚ))).rtake size) = 0 := by
    refine List.sum_eq_zero fun x hx => ?_
    obtain ⟨s, hs, rfl⟩ := List.mem_map.mp hx
    rw [List.eq_of_mem_replicate (Window.mem_of_mem_rtake hs), mul_zero]
  have hnumerator : LeastSquares.momentXY e.cluster.samples = 1 := by
    unfold LeastSquares.momentXY at hidle ⊢
    rw [hwindow, List.map_append, List.sum_append, hidle]
    norm_num
  rw [slope_eq hbounds hne, hnumerator]
  exact one_div_pos.mpr ((momentXX_pos_iff hbounds).mpr hne)

end Predictions

/-- Once a node has had as many accepted calls as are asked for, what is
predicted for it depends on the calls for it alone. -/
def PredictsFromOwn (historySize localMinSamples : ℤ) : Prop :=
  ∀ nodeId observations observations',
    callsOf nodeId observations = callsOf nodeId observations' →
    max 1 localMinSamples ≤ (samplesOf nodeId observations).length →
    ∀ work,
      ((OnlineQueueTimeEstimator.init historySize
        localMinSamples).observeAll observations).predictMs nodeId work
      = ((OnlineQueueTimeEstimator.init historySize
        localMinSamples).observeAll observations').predictMs nodeId work

/-- A well-sampled node is predicted from its own samples exactly if a
window has room for as many samples as are asked for. -/
theorem predicts_from_own_iff (historySize localMinSamples : ℤ) :
    PredictsFromOwn historySize localMinSamples
      ↔ max 1 localMinSamples ≤ max 8 historySize := by
  constructor
  · intro h
    -- with too little room the node has all the samples asked for, and still
    -- is predicted from the common window, which another node's delay moves
    by_contra hroom
    rw [not_le] at hroom
    have hquiet := observeAll_tracks historySize localMinSamples
      (idleCalls "a" (max 1 localMinSamples).toNat)
    have hbusy := observeAll_tracks historySize localMinSamples
      (idleCalls "a" (max 1 localMinSamples).toNat ++ [delayedCall "b"])
    have hsame := h "a" (idleCalls "a" (max 1 localMinSamples).toNat)
      (idleCalls "a" (max 1 localMinSamples).toNat ++ [delayedCall "b"])
      (callsOf_concat_of_ne (by decide) _).symm
      (by
        unfold samplesOf
        rw [callsOf_idleCalls, samples_idleCalls, List.length_replicate]
        exact Int.self_le_toNat _) 1
    have hslope := hbusy.slope_delayed
    unfold predictMs at hsame
    dsimp only at hsame
    rw [hquiet.estimate_cluster hroom, hbusy.estimate_cluster hroom,
      hquiet.slope_idle, mul_zero, ite_self] at hsame
    split at hsame
    · rename_i hnil
      unfold QueueEstimate.slope at hslope
      rw [hnil] at hslope
      exact absurd hslope (by decide)
    · rw [max_eq_right zero_le_one, one_mul] at hsame
      exact ne_of_gt hslope hsame.symm
  · intro hroom nodeId observations observations' hcalls henough work
    -- with room enough a node with so many samples uses its own window, which
    -- holds its own last samples and nothing else
    have htracks := observeAll_tracks historySize localMinSamples observations
    have htracks' := observeAll_tracks historySize localMinSamples observations'
    have hsamples : samplesOf nodeId observations
        = samplesOf nodeId observations' := congrArg samples hcalls
    have hown := htracks.estimate_own hroom henough
    rw [hsamples] at henough
    have hown' := htracks'.estimate_own hroom henough
    rw [← hsamples, htracks'.historySize, ← htracks.historySize] at hown'
    unfold predictMs
    rw [hown.unique hown']

/-- With nine samples asked for and room for eight, a call for another node
changes what is predicted for a node that has had nine. -/
theorem starved_node_reads_cluster :
    let quiet := idleCalls "a" 9
    let busy := idleCalls "a" 9 ++ [delayedCall "b"]
    callsOf "a" quiet = callsOf "a" busy
      ∧ max 1 9 ≤ (samplesOf "a" quiet).length
      ∧ ((OnlineQueueTimeEstimator.init 8 9).observeAll quiet).predictMs "a" 1
        = 0
      ∧ ((OnlineQueueTimeEstimator.init 8 9).observeAll busy).predictMs "a" 1
        = 1 / 8 := by
  decide +kernel

end OnlineQueueTimeEstimator

end Kareserve
