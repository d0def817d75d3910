/-
From measurements to the router's costs (Scripts/Calibration.lean).

What the scripts fit is what the router computes with. The bandwidth and the
latency of `linear_profile` are a line turned into two figures, and
`transfer_cost` turns them back (`transfer_calibrated`). The prefill model
goes through a configuration file into `from_profile`, which finds nothing
to refuse and nothing to clamp but the minimum (`profile_reads_back`). Where
the measurements are of the fitted kind, the router's costs are the
measurements.

The solver is a parameter. What is asked of it is what least squares is: no
other coefficients leave a smaller sum of squared errors. From that alone, a
fit of measurements that are on a curve of the fitted kind is that curve at
every measurement (`Regression.exact_of_best`), whether or not its
coefficients are unique.
-/
import Kareserve.Gateway.Proofs.Config
import Kareserve.Gateway.Startup
import Kareserve.Scripts.Calibration

namespace Kareserve

open PyJson (Json)

-- ========================================================= the transfers

section Transfers

variable {first : TransferResult} {others : List TransferResult}

/-- The points of `linear_profile`. -/
def transferPoints (first : TransferResult) (others : List TransferResult) :
    List (ℚ × ℚ) :=
  (first :: others).map TransferResult.point

/-- The bytes of a prefix, as the profile has them. -/
def HardwareProfile.kvBytes (profile : HardwareProfile) (tokens : ℤ) : ℚ :=
  tokens * (2 * profile.numLayers * profile.hiddenSize * profile.kvDtypeBytes)

/-- A profile with a bandwidth for the memory costs a transfer by it. -/
theorem transferCost_cpu {profile : HardwareProfile} {tokensPerWorkUnit : ℚ}
    (hbandwidth : 0 < profile.hostMemoryToGpuBandwidthGbps)
    (hcpu : profile.mediumProfiles.get "CPU" = none)
    (hlayers : 0 < profile.numLayers) (hhidden : 0 < profile.hiddenSize)
    {tokens : ℤ} (htokens : 0 ≤ tokens) :
    (CostModel.fromHardwareProfile profile tokensPerWorkUnit).transferCost .cpu
        tokens
      = profile.kvBytes tokens
          / (profile.hostMemoryToGpuBandwidthGbps * 10 ^ 9) * 1000
        + profile.hostMemoryToGpuLatencyMs := by
  have hmedium : (CostModel.fromHardwareProfile profile
      tokensPerWorkUnit).mediumProfile .cpu
        = some (.ofList [("bandwidth_gbps", profile.hostMemoryToGpuBandwidthGbps),
          ("base_latency_ms", profile.hostMemoryToGpuLatencyMs)]) := by
    show profile.media.get "CPU" = _
    unfold HardwareProfile.media
    rw [if_pos ⟨hbandwidth, hcpu⟩]
    exact PyDict.get_set_self _ _ _
  have hbytes : (CostModel.fromHardwareProfile profile
      tokensPerWorkUnit).kvBytesPerToken
        = some (2 * profile.numLayers * profile.hiddenSize
          * profile.kvDtypeBytes) := if_pos ⟨hlayers, hhidden⟩
  unfold CostModel.transferCost CostModel.profiledTransferCost
  rw [hmedium, hbytes, max_eq_right htokens]
  have hread : (PyDict.ofList
      [("bandwidth_gbps", profile.hostMemoryToGpuBandwidthGbps),
        ("base_latency_ms", profile.hostMemoryToGpuLatencyMs)]).get
          "bandwidth_gbps" = some profile.hostMemoryToGpuBandwidthGbps := rfl
  have hlatency : (PyDict.ofList
      [("bandwidth_gbps", profile.hostMemoryToGpuBandwidthGbps),
        ("base_latency_ms", profile.hostMemoryToGpuLatencyMs)]).get
          "base_latency_ms" = some profile.hostMemoryToGpuLatencyMs := rfl
  dsimp only
  rw [hread, hlatency, Option.getD_some, Option.getD_some, if_pos hbandwidth]
  rfl

/-- The router costs a transfer from memory as it was measured. With the
figures of `linear_profile` in its hardware profile, a transfer costs what
the line of least squares has for its bytes, no other line misses the
measurements by less, and where the measurements are on a line, that line is
the cost. -/
theorem transfer_calibrated (first : TransferResult)
    (others : List TransferResult)
    (hspread : 0 < Regression.spread (transferPoints first others))
    (hslope : 0 < Regression.slope (transferPoints first others))
    (hintercept : 0 ≤ Regression.intercept (transferPoints first others))
    (profile : HardwareProfile)
    (hbandwidth : profile.hostMemoryToGpuBandwidthGbps
      = (linearProfile first others).1)
    (hlatency : profile.hostMemoryToGpuLatencyMs
      = (linearProfile first others).2)
    (hcpu : profile.mediumProfiles.get "CPU" = none)
    (hlayers : 0 < profile.numLayers) (hhidden : 0 < profile.hiddenSize)
    (tokensPerWorkUnit : ℚ) (tokens : ℤ) (htokens : 0 ≤ tokens) :
    (CostModel.fromHardwareProfile profile tokensPerWorkUnit).transferCost .cpu
        tokens
      = 1000 * (Regression.slope (transferPoints first others)
          * profile.kvBytes tokens
        + Regression.intercept (transferPoints first others)) ∧
    (∀ a b, Regression.squaredError (transferPoints first others) Prod.snd
        (Regression.line (Regression.slope (transferPoints first others))
          (Regression.intercept (transferPoints first others)))
      ≤ Regression.squaredError (transferPoints first others) Prod.snd
        (Regression.line a b)) ∧
    ∀ a b, (∀ r ∈ first :: others,
        r.medianMs / 1000 = a * (r.sizeMib * 1024 * 1024) + b) →
      (CostModel.fromHardwareProfile profile tokensPerWorkUnit).transferCost .cpu
        tokens = 1000 * (a * profile.kvBytes tokens + b) := by
  -- the slope and the intercept are not cut off, so the figures are the line's
  have hfigures : linearProfile first others
      = (1 / Regression.slope (transferPoints first others) / 10 ^ 9,
        Regression.intercept (transferPoints first others) * 1000) := by
    have hms : 0 ≤ Regression.intercept (transferPoints first others) * 1000 :=
      mul_nonneg hintercept (by norm_num)
    show (if Regression.spread (transferPoints first others) ≤ 0 then _
      else (if 0 < Regression.slope (transferPoints first others) then _ else _,
        max 0 (Regression.intercept (transferPoints first others) * 1000))) = _
    rw [if_neg (not_le.mpr hspread), if_pos hslope, max_eq_right hms]
    rfl
  -- bandwidth and latency are turned back into the slope and the intercept
  have hcost : (CostModel.fromHardwareProfile profile
      tokensPerWorkUnit).transferCost .cpu tokens
        = 1000 * (Regression.slope (transferPoints first others)
          * profile.kvBytes tokens
        + Regression.intercept (transferPoints first others)) := by
    rw [hfigures] at hbandwidth hlatency
    have hpos : 0 < profile.hostMemoryToGpuBandwidthGbps := by
      rw [hbandwidth]
      exact div_pos (div_pos one_pos hslope) (by norm_num)
    rw [transferCost_cpu hpos hcpu hlayers hhidden htokens, hbandwidth, hlatency]
    have hne := ne_of_gt hslope
    field_simp
  refine ⟨hcost, Regression.line_minimises hspread, fun a b hexact => ?_⟩
  obtain ⟨ha, hb⟩ := Regression.line_of_exact hspread (a := a) (b := b) (by
    intro p hp
    obtain ⟨r, hr, rfl⟩ := List.mem_map.mp hp
    exact (hexact r hr).symm)
  rw [hcost, ha, hb]

/-- Transfers of one and of three MiB: half a millisecond, and a quarter more
for each MiB. -/
def smallTransfer : TransferResult :=
  { sizeMib := 1, medianMs := 3 / 4, bandwidthGbps := 7 / 5 }

def largeTransfer : TransferResult :=
  { sizeMib := 3, medianMs := 5 / 4, bandwidthGbps := 5 / 2 }

/-- A profile with the figures of these. -/
def transferProfile : HardwareProfile :=
  { numLayers := 2
    hiddenSize := 64
    hostMemoryToGpuBandwidthGbps :=
      (linearProfile smallTransfer [largeTransfer]).1
    hostMemoryToGpuLatencyMs :=
      (linearProfile smallTransfer [largeTransfer]).2 }

theorem transfer_calibrated_two_sizes :
    (CostModel.fromHardwareProfile transferProfile 256).transferCost .cpu 2048
      = 3 / 4 := by
  have hexact : ∀ r ∈ [smallTransfer, largeTransfer], r.medianMs / 1000
      = 1 / 4194304000 * (r.sizeMib * 1024 * 1024) + 1 / 2000 := by
    intro r hr
    simp only [List.mem_cons, List.not_mem_nil, or_false] at hr
    rcases hr with rfl | rfl <;> norm_num [smallTransfer, largeTransfer]
  have hspread : 0 < Regression.spread
      (transferPoints smallTransfer [largeTransfer]) := by
    refine Regression.spread_pos (p := smallTransfer.point)
      (q := largeTransfer.point) (List.mem_cons_self ..)
      (List.mem_cons_of_mem _ (List.mem_cons_self ..)) ?_
    norm_num [TransferResult.point, smallTransfer, largeTransfer]
  obtain ⟨hslope, hintercept⟩ := Regression.line_of_exact hspread
    (a := 1 / 4194304000) (b := 1 / 2000) (by
      intro p hp
      obtain ⟨r, hr, rfl⟩ := List.mem_map.mp hp
      exact (hexact r hr).symm)
  have hcost := (transfer_calibrated smallTransfer [largeTransfer] hspread
    (by rw [hslope]; norm_num) (by rw [hintercept]; norm_num) transferProfile
    rfl rfl rfl (by decide) (by decide) 256 2048 (by decide)).2.2 _ _ hexact
  rw [hcost]
  norm_num [HardwareProfile.kvBytes, transferProfile]

end Transfers

-- ===================================================== the prefill model

section Prefill

variable {np : Numpy} {samples : List ProfileSample}

/-- The prediction of fitted coefficients, before it is bounded below. -/
def predicted (tokenScale : ℚ) (coefficients : Fin 6 → ℚ) (s : ProfileSample) :
    ℚ := dot (s.row tokenScale) coefficients

theorem minimumMs_nonneg (minimumMs : ℚ) : 0 ≤ max 0 minimumMs :=
  le_max_left 0 minimumMs

/-- The model that is read from a fit. -/
def fittedModel (tokenScale minimumMs : ℚ) (coefficients : Fin 6 → ℚ) :
    PolynomialPrefillModel where
  tokenScale := max 1 tokenScale
  minimumMs := max 0 minimumMs
  interceptMs := coefficients 0
  promptMs := coefficients 1
  cachedMs := coefficients 2
  promptSquaredMs := coefficients 3
  promptCachedMs := coefficients 4
  cachedSquaredMs := coefficients 5
  one_le_tokenScale := le_max_left _ _
  minimumMs_nonneg := minimumMs_nonneg minimumMs

/-- Where it was measured, the model predicts what was fitted. -/
theorem predictMs_fittedModel {tokenScale : ℚ} (hscale : 1 ≤ tokenScale)
    (minimumMs : ℚ) (coefficients : Fin 6 → ℚ) {s : ProfileSample} {n k : ℤ}
    (hn : s.promptTokens = n) (hk : s.cachedPrefixTokens = k) (hnonneg : 0 ≤ k)
    (hle : k ≤ n) :
    (fittedModel tokenScale minimumMs coefficients).predictMs n k
      = max (max 0 minimumMs) (predicted tokenScale coefficients s) := by
  unfold PolynomialPrefillModel.predictMs fittedModel predicted dot
  dsimp only
  rw [max_eq_right hscale, max_eq_right (hnonneg.trans hle),
    max_eq_right hnonneg, min_eq_left hle, Fin.sum_univ_six]
  congr 1
  simp only [ProfileSample.row, hn, hk, Matrix.cons_val]
  ring

/-- A figure of an object, as `getFloat` reads it. -/
theorem getFloat_number {host : Host} {members : List (String × Json)}
    (hnodup : (members.map Prod.fst).Nodup) {name : String} {q : ℚ}
    (hmem : (name, number q) ∈ members) (default : ℚ) :
    host.getFloat (.dict members) name default = .ok (.finite q) := by
  unfold Host.getFloat
  rw [Json.get_of_mem hnodup hmem]
  rfl

theorem bodyGet_of_mem {members : List (String × Json)}
    (hnodup : (members.map Prod.fst).Nodup) {name : String} {value : Json}
    (hmem : (name, value) ∈ members) (default : Json) :
    bodyGet members name default = value := by
  unfold bodyGet Json.member
  rw [(PyDict.get_ofList_eq_some hnodup).mpr hmem]
  rfl

/-- The members of the coefficients. -/
theorem coefficient_mem (coefficients : Fin 6 → ℚ) (i : Fin 6) :
    (featureNames i, number (coefficients i))
      ∈ (List.finRange 6).map fun i => (featureNames i, number (coefficients i)) :=
  List.mem_map.mpr ⟨i, List.mem_finRange i, rfl⟩

theorem coefficient_nodup (coefficients : Fin 6 → ℚ) :
    (((List.finRange 6).map fun i =>
      (featureNames i, number (coefficients i))).map Prod.fst).Nodup := by
  rw [List.map_map]
  show ((List.finRange 6).map featureNames).Nodup
  decide

/-- `from_profile` takes what `fit` returns. -/
theorem readPolynomial_fit {host : Host} {tokenScale : ℚ}
    {model : List (String × Json)} (h : fit np samples tokenScale = .ok model) :
    (bodyGet model "type" .null).isString "polynomial_v1" = true ∧
      host.readPolynomial model = .ok (fittedModel tokenScale
        (np.percentile (samples.map ProfileSample.ttftMs) 5)
        (fitCoefficients np samples tokenScale)) := by
  unfold fit at h
  split at h
  case isTrue => cases h
  case isFalse =>
    injection h with h
    -- no name is written twice, so every `get` finds what was written
    have hnodup : (model.map Prod.fst).Nodup := by
      rw [← h]
      show ["type", "token_scale", "minimum_ms", "coefficients_ms", "fit"].Nodup
      decide
    have hmem : ∀ p ∈ [("type", Json.string "polynomial_v1"),
        ("token_scale", number tokenScale),
        ("minimum_ms",
          number (np.percentile (samples.map ProfileSample.ttftMs) 5)),
        ("coefficients_ms", .dict ((List.finRange 6).map fun i =>
          (featureNames i, number (fitCoefficients np samples tokenScale i))))],
        p ∈ model := by
      intro p hp
      rw [← h]
      simp only [List.mem_cons, List.not_mem_nil, or_false] at hp ⊢
      tauto
    have hcoefficient : ∀ i name, featureNames i = name →
        host.getFloat (.dict ((List.finRange 6).map fun i =>
          (featureNames i, number (fitCoefficients np samples tokenScale i))))
          name 0 = .ok (.finite (fitCoefficients np samples tokenScale i)) := by
      rintro i name rfl
      exact getFloat_number (coefficient_nodup _) (coefficient_mem _ i) 0
    have hcoefficients : bodyGet model "coefficients_ms" .null
        = .dict ((List.finRange 6).map fun i =>
          (featureNames i, number (fitCoefficients np samples tokenScale i))) :=
      bodyGet_of_mem hnodup (hmem _ (by simp)) _
    constructor
    · rw [bodyGet_of_mem hnodup (hmem _ (List.mem_cons_self ..))]
      rfl
    · unfold Host.readPolynomial
      rw [hcoefficients]
      dsimp only
      -- the names that are required are the names of the features
      have hmissing : (coefficientNames.filter fun name =>
          (Json.member ((List.finRange 6).map fun i => (featureNames i,
            number (fitCoefficients np samples tokenScale i))) name).isNone)
          = [] := by
        rw [List.filter_eq_nil_iff]
        intro name hname
        have hfeature : ∃ i, featureNames i = name := by
          revert name
          decide
        obtain ⟨i, rfl⟩ := hfeature
        unfold Json.member
        rw [(PyDict.get_ofList_eq_some (coefficient_nodup _)).mpr
          (coefficient_mem _ i)]
        exact Bool.false_ne_true
      have hscale : host.getFloat _ _ _ = _ := getFloat_number hnodup
        (hmem ("token_scale", number tokenScale) (by simp)) 1024
      have hminimum : host.getFloat _ _ _ = _ := getFloat_number hnodup
        (hmem ("minimum_ms", number
          (np.percentile (samples.map ProfileSample.ttftMs) 5)) (by simp)) 0
      have hcomplete : ∀ error,
          require ([] : List String).isEmpty error = .ok () := fun _ => rfl
      rw [hmissing, Fault.bind_ok (hcomplete _), Fault.bind_ok hscale,
        Fault.bind_ok hminimum, Fault.bind_ok (hcoefficient 0 "intercept" rfl),
        Fault.bind_ok (hcoefficient 1 "prompt" rfl),
        Fault.bind_ok (hcoefficient 2 "cached" rfl),
        Fault.bind_ok (hcoefficient 3 "prompt_squared" rfl),
        Fault.bind_ok (hcoefficient 4 "prompt_cached" rfl),
        Fault.bind_ok (hcoefficient 5 "cached_squared" rfl)]
      rfl

/-- A fit is read back, whatever else is in the profile. -/
theorem readPrefillModel_fit {host : Host} {tokenScale : ℚ}
    {profile model : List (String × Json)}
    (h : fit np samples tokenScale = .ok model)
    (hmodel : Json.member profile "prefill_time_model" = some (.dict model)) :
    host.readPrefillModel (.dict profile)
      = .ok (some (fittedModel tokenScale
        (np.percentile (samples.map ProfileSample.ttftMs) 5)
        (fitCoefficients np samples tokenScale))) := by
  obtain ⟨htype, hread⟩ : _ ∧ host.readPolynomial _ = _ :=
    readPolynomial_fit h
  have hget : raises ((Json.dict profile).get "prefill_time_model" .null)
      = .ok (.dict model) := by
    unfold Json.get
    dsimp only
    rw [hmodel]
    rfl
  have hrequire : ∀ error, require
      ((bodyGet model "type" .null).isString "polynomial_v1") error
        = .ok () := by
    intro error
    rw [htype]
    rfl
  unfold Host.readPrefillModel
  rw [Fault.bind_ok hget]
  dsimp only
  rw [Fault.bind_ok (hrequire _), Fault.bind_ok hread]
  rfl

/-- Only `prefill_time_model` is read for the prefill model. -/
theorem readHardwareProfile_congr {host : Host}
    {before after : List (String × Json)}
    (hsame : ∀ name, name ≠ "prefill_time_model" →
      Json.member after name = Json.member before name)
    {model : Option PolynomialPrefillModel}
    (hmodel : host.readPrefillModel (.dict after) = .ok model)
    {old : HardwareProfile}
    (h : host.readHardwareProfile (.dict before) = .ok old) :
    host.readHardwareProfile (.dict after)
      = .ok { old with prefillTimeModel := model } := by
  have hget : ∀ name, name ≠ "prefill_time_model" → ∀ default,
      (Json.dict after).get name default
        = (Json.dict before).get name default := by
    intro name hname default
    unfold Json.get
    dsimp only
    rw [hsame name hname]
  unfold Host.readHardwareProfile Host.readRate
    Host.readMedia Host.readLatency Host.readFigure Host.getInt
    Host.getFloat at h ⊢
  simp only [hget _ (show "num_layers" ≠ "prefill_time_model" by decide),
    hget _ (show "hidden_size" ≠ "prefill_time_model" by decide),
    hget _ (show "kv_dtype_bytes" ≠ "prefill_time_model" by decide),
    hget _ (show "prefill_ms_per_token" ≠ "prefill_time_model" by decide),
    hget _ (show "decode_ms_per_token" ≠ "prefill_time_model" by decide),
    hget _ (show "medium_profiles" ≠ "prefill_time_model" by decide),
    hget _ (show "host_memory_to_gpu_bandwidth_gbps" ≠ "prefill_time_model"
      by decide),
    hget _ (show "host_memory_to_gpu_latency_ms" ≠ "prefill_time_model"
      by decide),
    hget _ (show "cpu_load_weight" ≠ "prefill_time_model" by decide),
    hget _ (show "fs_load_weight" ≠ "prefill_time_model" by decide),
    hget _ (show "obj_load_weight" ≠ "prefill_time_model" by decide)]
  obtain ⟨numLayers, hlayers, h⟩ := Fault.exists_of_bind h
  obtain ⟨hiddenSize, hhidden, h⟩ := Fault.exists_of_bind h
  obtain ⟨kvDtypeBytes, hbytes, h⟩ := Fault.exists_of_bind h
  obtain ⟨prefillMs, hprefill, h⟩ := Fault.exists_of_bind h
  obtain ⟨decodeMs, hdecode, h⟩ := Fault.exists_of_bind h
  obtain ⟨media, hmedia, h⟩ := Fault.exists_of_bind h
  obtain ⟨figure, hfigure, h⟩ := Fault.exists_of_bind h
  obtain ⟨bandwidth, hbandwidth, h⟩ := Fault.exists_of_bind h
  obtain ⟨latency, hlatency, h⟩ := Fault.exists_of_bind h
  obtain ⟨oldModel, -, h⟩ := Fault.exists_of_bind h
  obtain ⟨cpu, hcpu, h⟩ := Fault.exists_of_bind h
  obtain ⟨fs, hfs, h⟩ := Fault.exists_of_bind h
  obtain ⟨obj, hobj, h⟩ := Fault.exists_of_bind h
  have hstarting : starting (host.readPrefillModel (.dict after))
      = .ok model := by
    rw [hmodel]
    rfl
  rw [Fault.bind_ok hlayers, Fault.bind_ok hhidden, Fault.bind_ok hbytes,
    Fault.bind_ok hprefill, Fault.bind_ok hdecode, Fault.bind_ok hmedia,
    Fault.bind_ok hfigure, Fault.bind_ok hbandwidth,
    Fault.bind_ok hlatency, Fault.bind_ok hstarting, Fault.bind_ok hcpu,
    Fault.bind_ok hfs, Fault.bind_ok hobj]
  injection h with h
  rw [← h]
  rfl

theorem ofList_items {K V : Type} [DecidableEq K] (d : PyDict K V) :
    PyDict.ofList d.items = d :=
  PyDict.ext_items (PyDict.items_ofList d.nodup)

/-- What `--update-config` changes, and what it does not. -/
theorem of_setPrefillModel {config updated : List (String × Json)}
    {model : Json} (h : setPrefillModel config model = .ok updated) :
    ∃ before after,
      bodyGet config "hardware_profile" (.dict []) = .dict before ∧
      Json.member updated "hardware_profile" = some (.dict after) ∧
      Json.member after "prefill_time_model" = some model ∧
      (∀ name, name ≠ "prefill_time_model" →
        Json.member after name = Json.member before name) ∧
      ∀ name, name ≠ "hardware_profile" →
        Json.member updated name = Json.member config name := by
  have hdefault : ((PyDict.ofList config).setDefault "hardware_profile"
      (.dict [])).get "hardware_profile"
        = some (bodyGet config "hardware_profile" (.dict [])) := by
    rw [PyDict.get_setDefault, if_pos rfl]
    rfl
  unfold setPrefillModel at h
  dsimp only at h
  rw [hdefault] at h
  cases hprofile : bodyGet config "hardware_profile" (.dict []) with
  | dict before =>
      rw [hprofile] at h
      injection h with h
      subst h
      refine ⟨before,
        ((PyDict.ofList before).set "prefill_time_model" model).items,
        rfl, ?_, ?_, ?_, ?_⟩
      · unfold Json.member
        rw [ofList_items, PyDict.get_set_self]
      · unfold Json.member
        rw [ofList_items, PyDict.get_set_self]
      · intro name hname
        unfold Json.member
        rw [ofList_items, PyDict.get_set_of_ne _ hname]
      · intro name hname
        unfold Json.member
        rw [ofList_items, PyDict.get_set_of_ne _ hname, PyDict.get_setDefault,
          if_neg hname]
  | _ => rw [hprofile] at h; cases h

/-- The scale of a profile is one of its prompts, and at least 1 where they
are. -/
theorem one_le_profileScale (hsamples : samples ≠ [])
    (hpositive : ∀ s ∈ samples, 1 ≤ s.promptTokens) :
    1 ≤ profileScale samples := by
  unfold profileScale
  cases hmax : (samples.map ProfileSample.promptTokens).max? with
  | none =>
      have hnil := List.map_eq_nil_iff.mp (List.max?_eq_none_iff.mp hmax)
      exact absurd hnil hsamples
  | some q =>
      obtain ⟨s, hs, rfl⟩ := List.mem_map.mp (List.max?_mem hmax)
      exact hpositive s hs

/-- A prefill profile goes through the configuration into the router. A start
that accepted the hardware profile before accepts it afterwards, with nothing
changed but the prefill model, and then costs each measured prompt what the
fit has for it, or the minimum. Where any polynomial of this kind agrees with
all measurements, the costs are the measurements. -/
theorem profile_reads_back (np : Numpy) (samples : List ProfileSample)
    (config updated : List (String × Json))
    (h : profileInto np samples config = .ok updated)
    (hpositive : ∀ s ∈ samples, 1 ≤ s.promptTokens)
    (hlstsq : ∀ coefficients,
      Regression.squaredError samples ProfileSample.ttftMs
        (predicted (profileScale samples)
          (fitCoefficients np samples (profileScale samples)))
      ≤ Regression.squaredError samples ProfileSample.ttftMs
        (predicted (profileScale samples) coefficients))
    (host : Host) (old : HardwareProfile)
    (hold : host.readHardwareProfile
      (bodyGet config "hardware_profile" (.dict [])) = .ok old)
    (tokensPerWorkUnit : ℚ) :
    ∃ model : PolynomialPrefillModel,
      host.readHardwareProfile (bodyGet updated "hardware_profile" (.dict []))
        = .ok { old with prefillTimeModel := some model } ∧
      (∀ name, name ≠ "hardware_profile" →
        Json.member updated name = Json.member config name) ∧
      (∀ s ∈ samples, ∀ n k : ℤ, s.promptTokens = n →
        s.cachedPrefixTokens = k → 0 ≤ k → k ≤ n →
        (CostModel.fromHardwareProfile
          { old with prefillTimeModel := some model }
          tokensPerWorkUnit).prefillCost n k
          = max model.minimumMs (predicted (profileScale samples)
            (fitCoefficients np samples (profileScale samples)) s)) ∧
      ∀ coefficients, (∀ s ∈ samples,
        predicted (profileScale samples) coefficients s = s.ttftMs) →
        ∀ s ∈ samples, ∀ n k : ℤ, s.promptTokens = n →
          s.cachedPrefixTokens = k → 0 ≤ k → k ≤ n →
          (CostModel.fromHardwareProfile
            { old with prefillTimeModel := some model }
            tokensPerWorkUnit).prefillCost n k
            = max model.minimumMs s.ttftMs := by
  obtain ⟨fitted, hfit, hset⟩ := Fault.exists_of_bind h
  obtain ⟨before, after, hbefore, hafter, hmodel, hsame, hframe⟩ :=
    of_setPrefillModel hset
  have hsamples : samples ≠ [] := by
    rintro rfl
    cases hfit
  -- the scale is the longest prompt, and no prompt is empty
  have hscale := one_le_profileScale hsamples hpositive
  have hnew : bodyGet updated "hardware_profile" (.dict []) = .dict after := by
    unfold bodyGet
    rw [hafter]
    rfl
  rw [hbefore] at hold
  rw [hnew]
  -- only the minimum is clamped on the way
  have hcost : ∀ s ∈ samples, ∀ n k : ℤ, s.promptTokens = n →
      s.cachedPrefixTokens = k → 0 ≤ k → k ≤ n →
      (fittedModel (profileScale samples)
        (np.percentile (samples.map ProfileSample.ttftMs) 5)
        (fitCoefficients np samples (profileScale samples))).predictMs n k
        = max (max 0 (np.percentile (samples.map ProfileSample.ttftMs) 5))
          (predicted (profileScale samples)
            (fitCoefficients np samples (profileScale samples)) s) :=
    fun s _ n k hn hk hnonneg hle =>
      predictMs_fittedModel hscale _ _ hn hk hnonneg hle
  refine ⟨_, readHardwareProfile_congr hsame (readPrefillModel_fit hfit hmodel)
    hold, hframe, hcost, fun coefficients hexact s hs n k hn hk hnonneg hle => ?_⟩
  -- an error that is at most zero is zero at every sample
  have hright := Regression.exact_of_best (hlstsq coefficients) hexact s hs
  exact (hcost s hs n k hn hk hnonneg hle).trans (by rw [hright]; rfl)

/-- Six prompts that take 10 ms and a millisecond for each token. -/
def measuredPrompts : List ProfileSample :=
  [⟨1, 0, 11⟩, ⟨2, 0, 12⟩, ⟨4, 0, 14⟩, ⟨2, 1, 12⟩, ⟨4, 1, 14⟩, ⟨4, 2, 14⟩]

/-- What numpy has for them. -/
def promptNumpy : Numpy where
  lstsq := fun _ _ => ![10, 4, 0, 0, 0, 0]
  percentile := fun _ _ => 45 / 4
  sqrt := fun _ => 0

theorem profile_reads_back_six_prompts :
    ∃ (updated : List (String × Json)) (old : HardwareProfile)
        (model : PolynomialPrefillModel),
      profileInto promptNumpy measuredPrompts
        [("hardware_profile", .dict [("num_layers", .int 12)])] = .ok updated ∧
      (oneNodeHost 1).readHardwareProfile
        (bodyGet updated "hardware_profile" (.dict []))
          = .ok { old with prefillTimeModel := some model } ∧
      (CostModel.fromHardwareProfile
        { old with prefillTimeModel := some model } 256).prefillCost 4 2
          = max model.minimumMs 14 := by
  have hscale : profileScale measuredPrompts = 4 := by
    norm_num [profileScale, measuredPrompts, List.max?]
  have hexact : ∀ s ∈ measuredPrompts,
      predicted 4 ![10, 4, 0, 0, 0, 0] s = s.ttftMs := by
    intro s hs
    simp only [measuredPrompts, List.mem_cons, List.not_mem_nil, or_false] at hs
    rcases hs with rfl | rfl | rfl | rfl | rfl | rfl <;>
      norm_num [predicted, dot, ProfileSample.row, Fin.sum_univ_succ]
  obtain ⟨updated, hupdated⟩ : ∃ updated, profileInto promptNumpy
      measuredPrompts [("hardware_profile", .dict [("num_layers", .int 12)])]
        = .ok updated := ⟨_, rfl⟩
  obtain ⟨old, hold⟩ : ∃ old, (oneNodeHost 1).readHardwareProfile
      (bodyGet [("hardware_profile", .dict [("num_layers", .int 12)])]
        "hardware_profile" (.dict [])) = .ok old := ⟨_, rfl⟩
  obtain ⟨model, hread, -, -, hcost⟩ := profile_reads_back promptNumpy
    measuredPrompts _ updated hupdated
    (by
      intro s hs
      simp only [measuredPrompts, List.mem_cons, List.not_mem_nil, or_false] at hs
      rcases hs with rfl | rfl | rfl | rfl | rfl | rfl <;> norm_num)
    (by
      intro coefficients
      rw [hscale]
      exact (Regression.squaredError_eq_zero_iff.mpr hexact).trans_le
        Regression.squaredError_nonneg)
    (oneNodeHost 1) old hold 256
  exact ⟨updated, old, model, hupdated, hread, hcost _ (by rw [hscale]; exact hexact)
    ⟨4, 2, 14⟩ (by simp [measuredPrompts]) 4 2 (by norm_num) (by norm_num)
    (by decide) (by decide)⟩

end Prefill

end Kareserve
