/-
The time unit of a cost model.

Changing the unit multiplies every time of a model by the same `c` and
divides its bandwidths by it (`scale`). A cost in that unit is then
multiplied by `c` too, and costs compare as before (`OneUnit.ranking`).

A transfer has two ways to be priced: by the profile of its medium, in
milliseconds, or by a weight of the medium against work units, which knows
of no time. So a model that predicts in milliseconds is in one unit exactly
if every medium that weighs anything is profiled (`oneUnit_iff`).

`fromHardwareProfile` has both kinds side by side: with the profile of
configs/config.json the file system is profiled and the object store is
weighed, so the unit of a path depends on where its prefix is.
-/
import Kareserve.Policy.CostModel
import Mathlib.Tactic.Ring
import Mathlib.Tactic.FieldSimp
import Mathlib.Tactic.Linarith
import Mathlib.Tactic.NormNum

namespace Kareserve

-- ============================================================== rescaling

/-- A prefill model in another unit. -/
def PolynomialPrefillModel.scale (m : PolynomialPrefillModel) (c : ℚ)
    (hc : 0 < c) : PolynomialPrefillModel where
  tokenScale := m.tokenScale
  minimumMs := c * m.minimumMs
  interceptMs := c * m.interceptMs
  promptMs := c * m.promptMs
  cachedMs := c * m.cachedMs
  promptSquaredMs := c * m.promptSquaredMs
  promptCachedMs := c * m.promptCachedMs
  cachedSquaredMs := c * m.cachedSquaredMs
  one_le_tokenScale := m.one_le_tokenScale
  minimumMs_nonneg := mul_nonneg (le_of_lt hc) m.minimumMs_nonneg

/-- A prefill model in other units. -/
theorem PolynomialPrefillModel.predictMs_scale (m : PolynomialPrefillModel)
    {c : ℚ} (hc : 0 < c) (promptTokens cachedPrefixTokens : ℤ) :
    (m.scale c hc).predictMs promptTokens cachedPrefixTokens
      = c * m.predictMs promptTokens cachedPrefixTokens := by
  unfold predictMs scale
  dsimp only
  rw [mul_max_of_nonneg _ _ (le_of_lt hc)]
  congr 1
  ring

/-- An entry of a medium profile in another unit. -/
def scaleEntry (c : ℚ) (name : String) (value : ℚ) : ℚ :=
  if name = "bandwidth_gbps" then value / c
  else if name = "base_latency_ms" then c * value
  else value

/-- The medium profiles in another unit. -/
def scaleMedia (c : ℚ) (media : PyDict String (PyDict String ℚ)) :
    PyDict String (PyDict String ℚ) :=
  media.map fun _ profile => profile.map (scaleEntry c)

namespace CostModel

/-- A model with every time multiplied by `c` and every bandwidth divided
by it. -/
def scale (m : CostModel) (c : ℚ) (hc : 0 < c) : CostModel where
  tokensPerWorkUnit := m.tokensPerWorkUnit
  computeMsPerToken := m.computeMsPerToken.map (c * ·)
  decodeMsPerToken := m.decodeMsPerToken.map (c * ·)
  kvBytesPerToken := m.kvBytesPerToken
  mediumProfiles := m.mediumProfiles.map (scaleMedia c)
  prefillModel := m.prefillModel.map fun model => model.scale c hc
  cpuLoadWeight := m.cpuLoadWeight
  fsLoadWeight := m.fsLoadWeight
  objLoadWeight := m.objLoadWeight
  tokensPerWorkUnit_pos := m.tokensPerWorkUnit_pos

end CostModel

/-- A hardware profile with every time multiplied by `c` and every
bandwidth divided by it. -/
def HardwareProfile.scale (profile : HardwareProfile) (c : ℚ) (hc : 0 < c) :
    HardwareProfile where
  numLayers := profile.numLayers
  hiddenSize := profile.hiddenSize
  kvDtypeBytes := profile.kvDtypeBytes
  prefillMsPerToken := profile.prefillMsPerToken.map (c * ·)
  decodeMsPerToken := profile.decodeMsPerToken.map (c * ·)
  mediumProfiles := scaleMedia c profile.mediumProfiles
  hostMemoryToGpuBandwidthGbps := profile.hostMemoryToGpuBandwidthGbps / c
  hostMemoryToGpuLatencyMs := c * profile.hostMemoryToGpuLatencyMs
  prefillTimeModel := profile.prefillTimeModel.map fun model =>
    model.scale c hc
  cpuLoadWeight := profile.cpuLoadWeight
  fsLoadWeight := profile.fsLoadWeight
  objLoadWeight := profile.objLoadWeight

namespace CostModel

variable {m : CostModel} {c : ℚ}

/-- A time that is set stays set. -/
private theorem filter_pos_map_mul (hc : 0 < c) (ms : Option ℚ) :
    ((ms.map (c * ·)).filter fun ms => 0 < ms)
      = (ms.filter fun ms => 0 < ms).map (c * ·) := by
  cases ms with
  | none => rfl
  | some ms =>
      by_cases hms : 0 < ms
      · have hscaled : 0 < c * ms := mul_pos hc hms
        simp [Option.filter, hms, hscaled]
      · have hscaled : ¬ 0 < c * ms := fun h =>
          hms ((mul_pos_iff_of_pos_left hc).mp h)
        simp [Option.filter, hms, hscaled]

/-- The profile that a memory bandwidth stands for. -/
private theorem memory_profile_scale (c bandwidth latency : ℚ) :
    (PyDict.ofList [("bandwidth_gbps", bandwidth),
        ("base_latency_ms", latency)]).map (scaleEntry c)
      = .ofList [("bandwidth_gbps", bandwidth / c),
        ("base_latency_ms", c * latency)] := by
  apply PyDict.ext_items
  show (PyDict.ofList _).items.map (fun p => (p.1, scaleEntry c p.1 p.2)) = _
  rw [PyDict.items_ofList (by simp), PyDict.items_ofList (by simp)]
  simp [scaleEntry]

/-- The media of a profile in other units. -/
theorem media_scale (profile : HardwareProfile) (hc : 0 < c) :
    (profile.scale c hc).media = scaleMedia c profile.media := by
  have habsent : (scaleMedia c profile.mediumProfiles).get "CPU" = none
      ↔ profile.mediumProfiles.get "CPU" = none := by
    unfold scaleMedia
    rw [PyDict.get_map, Option.map_eq_none_iff]
  have hmissing : (0 < profile.hostMemoryToGpuBandwidthGbps / c
        ∧ (scaleMedia c profile.mediumProfiles).get "CPU" = none)
      ↔ (0 < profile.hostMemoryToGpuBandwidthGbps
        ∧ profile.mediumProfiles.get "CPU" = none) :=
    and_congr (div_pos_iff_of_pos_right hc) habsent
  unfold HardwareProfile.media
  by_cases h : 0 < profile.hostMemoryToGpuBandwidthGbps
      ∧ profile.mediumProfiles.get "CPU" = none
  · rw [if_pos h]
    refine (if_pos (hmissing.mpr h)).trans ?_
    unfold scaleMedia
    rw [PyDict.map_set, memory_profile_scale]
    rfl
  · rw [if_neg h]
    exact if_neg fun hscaled => h (hmissing.mp hscaled)

/-- The model of a rescaled profile is the model, rescaled. -/
theorem fromHardwareProfile_scale (profile : HardwareProfile)
    (tokensPerWorkUnit : ℚ) (hc : 0 < c) :
    fromHardwareProfile (profile.scale c hc) tokensPerWorkUnit
      = (fromHardwareProfile profile tokensPerWorkUnit).scale c hc := by
  unfold fromHardwareProfile scale
  rw [media_scale]
  congr 1
  · exact filter_pos_map_mul hc _
  · exact filter_pos_map_mul hc _

-- ============================================================ one by one

/-- A medium whose transfers are priced by its profile. -/
def Profiled (m : CostModel) (medium : CacheMedium) : Prop :=
  ∃ profile kvBytes, m.mediumProfile medium = some profile
    ∧ m.kvBytesPerToken = some kvBytes
    ∧ 0 < (profile.get "bandwidth_gbps").getD 0

/-- A medium has a rate where it has a profile and a size is known. -/
theorem transferRate_isSome_iff (m : CostModel) (medium : CacheMedium) :
    (m.transferRate medium).isSome ↔ m.Profiled medium := by
  unfold transferRate Profiled
  cases m.mediumProfile medium with
  | none => simp
  | some profile =>
      cases m.kvBytesPerToken with
      | none => simp
      | some kvBytes =>
          dsimp only
          split
          · rename_i hbandwidth
            exact iff_of_true rfl ⟨profile, kvBytes, rfl, rfl, hbandwidth⟩
          · rename_i hbandwidth
            refine iff_of_false (by simp) ?_
            rintro ⟨_, _, hprofile, -, hpos⟩
            injection hprofile with hprofile
            rw [hprofile] at hbandwidth
            exact hbandwidth hpos

/-- A medium of the scaled model. -/
theorem mediumProfile_scale (m : CostModel) (hc : 0 < c)
    (medium : CacheMedium) :
    (m.scale c hc).mediumProfile medium
      = (m.mediumProfile medium).map fun profile =>
        profile.map (scaleEntry c) := by
  unfold mediumProfile scale
  dsimp only
  cases m.mediumProfiles with
  | none => rfl
  | some media => exact PyDict.get_map _ _ _

/-- A rate of a profile is a time. -/
theorem transferRate_scale (m : CostModel) (hc : 0 < c)
    (medium : CacheMedium) :
    (m.scale c hc).transferRate medium
      = (m.transferRate medium).map fun rate => (c * rate.1, c * rate.2) := by
  have hbytes : (m.scale c hc).kvBytesPerToken = m.kvBytesPerToken := rfl
  unfold transferRate
  rw [mediumProfile_scale, hbytes]
  cases m.mediumProfile medium with
  | none => rfl
  | some profile =>
      cases m.kvBytesPerToken with
      | none => rfl
      | some kvBytes =>
          -- a bandwidth is bytes per time, so it is divided, and a missing one
          -- stays zero
          have hbandwidth : ((profile.map (scaleEntry c)).get
              "bandwidth_gbps").getD 0
                = (profile.get "bandwidth_gbps").getD 0 / c := by
            rw [PyDict.get_map]
            cases profile.get "bandwidth_gbps" with
            | none => exact (zero_div c).symm
            | some value => rfl
          have hlatency : ((profile.map (scaleEntry c)).get
              "base_latency_ms").getD 0
                = c * (profile.get "base_latency_ms").getD 0 := by
            rw [PyDict.get_map]
            cases profile.get "base_latency_ms" with
            | none => exact (mul_zero c).symm
            | some value => rfl
          dsimp only [Option.map_some]
          rw [hbandwidth, hlatency]
          -- a medium with no bandwidth has no rate in either unit
          by_cases hpos : 0 < (profile.get "bandwidth_gbps").getD 0
          · rw [if_pos hpos, if_pos (div_pos hpos hc)]
            have hne := ne_of_gt hc
            have hne' := ne_of_gt hpos
            rw [Option.map_some]
            congr 2
            field_simp
          · rw [if_neg hpos, if_neg fun h =>
              hpos ((div_pos_iff_of_pos_right hc).mp h)]
            rfl

/-- Scaling does not change the unit. -/
theorem unit_scale (m : CostModel) (hc : 0 < c) :
    (m.scale c hc).unit = m.unit := by
  unfold unit scale
  simp

/-- In milliseconds a prefill scales with the unit. -/
theorem prefillCost_scale (hunit : m.unit = .ms) (hc : 0 < c)
    (promptTokens cachedPrefixTokens : ℤ) :
    (m.scale c hc).prefillCost promptTokens cachedPrefixTokens
      = c * m.prefillCost promptTokens cachedPrefixTokens := by
  unfold prefillCost scale
  dsimp only
  cases hmodel : m.prefillModel with
  | some model => exact model.predictMs_scale hc _ _
  | none =>
      unfold computeCost
      dsimp only
      cases hms : m.computeMsPerToken with
      | some ms => exact mul_left_comm _ _ _
      | none =>
          rw [unit, hmodel, hms] at hunit
          cases hunit

/-- Of a medium that is priced by its weight, the cost stays as it is. -/
theorem transferCost_unprofiled {medium : CacheMedium}
    (h : ¬ m.Profiled medium) (tokens : ℤ) :
    m.transferCost medium tokens
      = (max 0 tokens : ℤ) * m.loadWeight medium / m.tokensPerWorkUnit := by
  rw [← transferRate_isSome_iff, Option.not_isSome_iff_eq_none] at h
  unfold transferCost
  dsimp only
  rw [profiledTransferCost_eq, h]
  rfl

theorem profiled_scale (hc : 0 < c) (medium : CacheMedium) :
    (m.scale c hc).Profiled medium ↔ m.Profiled medium := by
  rw [← transferRate_isSome_iff, ← transferRate_isSome_iff,
    transferRate_scale, Option.isSome_map]

/-- A medium whose transfers are times, or nothing. -/
def Timed (m : CostModel) (medium : CacheMedium) : Prop :=
  m.Profiled medium ∨ m.loadWeight medium = 0

/-- A timed transfer scales with the unit. -/
theorem transferCost_scale {medium : CacheMedium} (h : m.Timed medium)
    (hc : 0 < c) (tokens : ℤ) :
    (m.scale c hc).transferCost medium tokens
      = c * m.transferCost medium tokens := by
  by_cases hprofiled : m.Profiled medium
  · obtain ⟨rate, hrate⟩ := Option.isSome_iff_exists.mp
      ((m.transferRate_isSome_iff medium).mpr hprofiled)
    unfold transferCost
    dsimp only
    rw [profiledTransferCost_eq, profiledTransferCost_eq, transferRate_scale,
      hrate]
    simp only [Option.map_some, Option.getD_some]
    ring
  · have hweight : m.loadWeight medium = 0 := h.resolve_left hprofiled
    have hweight' : (m.scale c hc).loadWeight medium = 0 := by
      cases medium <;> exact hweight
    rw [transferCost_unprofiled hprofiled,
      transferCost_unprofiled (mt (profiled_scale hc medium).mp hprofiled),
      hweight, hweight']
    simp

/-- The least of scaled costs. -/
theorem min_map_mul {c : ℚ} (hc : 0 < c) (l : List ℚ) :
    ((l.map (c * ·)).min?).getD 0 = c * (l.min?).getD 0 := by
  cases hmin : l.min? with
  | none =>
      rw [List.min?_eq_none_iff.mp hmin]
      exact (mul_zero c).symm
  | some least =>
      obtain ⟨hmem, hle⟩ := List.min?_eq_some_iff.mp hmin
      have hscaled : (l.map (c * ·)).min? = some (c * least) := by
        refine List.min?_eq_some_iff.mpr ⟨List.mem_map_of_mem hmem, ?_⟩
        intro scaled hscaled
        obtain ⟨cost, hcost, rfl⟩ := List.mem_map.mp hscaled
        exact mul_le_mul_of_nonneg_left (hle cost hcost) (le_of_lt hc)
      rw [hscaled]
      rfl

theorem l2Costs_scale (h : ∀ medium, m.Timed medium) (hc : 0 < c)
    (fsPrefix objPrefix externalPrefix memoryPrefix : ℤ) :
    (m.scale c hc).l2Costs fsPrefix objPrefix externalPrefix memoryPrefix
      = (m.l2Costs fsPrefix objPrefix externalPrefix memoryPrefix).map
        (c * ·) := by
  unfold l2Costs
  rw [List.map_map]
  refine List.map_congr_left fun p _ => ?_
  exact transferCost_scale (h p.1) hc _

-- =============================================================== one unit

/-- The cost of a prompt's path scales with the unit. -/
theorem promptPathCost_scale (hunit : m.unit = .ms)
    (h : ∀ medium, m.Timed medium) (hc : 0 < c) (pm : PrefixMatch)
    (includeExternal : Bool) :
    (m.scale c hc).promptPathCost pm includeExternal
      = c * m.promptPathCost pm includeExternal := by
  unfold promptPathCost
  dsimp only
  simp only [prefillCost_scale hunit hc]
  split
  · rfl
  · split
    · rfl
    · rw [transferCost_scale (h .cpu) hc, l2Costs_scale h hc]
      split
      · rw [min_map_mul hc]
        ring
      · ring

/-- The work of a request scales: prefill, transfers and decode are times. -/
theorem candidateWork_scale (hunit : m.unit = .ms)
    (h : ∀ medium, m.Timed medium) (hc : 0 < c) (request : SchedulerRequest)
    (candidate : RouteCandidate) :
    (m.scale c hc).candidateWork request candidate
      = c * m.candidateWork request candidate := by
  have hdecode : (m.scale c hc).decodeMsPerToken
      = m.decodeMsPerToken.map (c * ·) := rfl
  unfold candidateWork
  dsimp only
  rw [promptPathCost_scale hunit h hc, hdecode]
  cases m.decodeMsPerToken with
  | some ms =>
      simp only [Option.map_some]
      ring
  | none =>
      have hms : ¬ m.unit = .normalized := by
        rw [hunit]
        decide
      simp only [Option.map_none, unit_scale, if_neg hms]

/-- Every cost of a model is in its unit of time. -/
structure OneUnit (m : CostModel) : Prop where
  path : ∀ c (hc : 0 < c) pm includeExternal,
    (m.scale c hc).promptPathCost pm includeExternal
      = c * m.promptPathCost pm includeExternal
  work : ∀ c (hc : 0 < c) request candidate,
    (m.scale c hc).candidateWork request candidate
      = c * m.candidateWork request candidate

/-- The ranking of candidates does not depend on the unit then. -/
theorem OneUnit.ranking (h : m.OneUnit) (hc : 0 < c)
    (request request' : SchedulerRequest)
    (candidate candidate' : RouteCandidate) :
    (m.scale c hc).candidateWork request candidate
        ≤ (m.scale c hc).candidateWork request' candidate'
      ↔ m.candidateWork request candidate
        ≤ m.candidateWork request' candidate' := by
  rw [h.work, h.work]
  exact mul_le_mul_iff_right₀ hc

-- ============================================================ every medium

/-- A prompt of one token that only `medium` holds. -/
def heldBy : CacheMedium → PrefixMatch
  | .cpu => { promptTokens := 1, cpuPrefixTokens := 1 }
  | .fs => { promptTokens := 1, fsPrefixTokens := 1 }
  | .obj => { promptTokens := 1, objPrefixTokens := 1 }

/-- From memory it is loaded, from anywhere else it gets there first. -/
theorem promptPathCost_heldBy (m : CostModel) (medium : CacheMedium) :
    m.promptPathCost (heldBy medium) true
      = m.transferCost .cpu 1
        + (if medium = .cpu then 0 else m.transferCost medium 1)
        + m.prefillCost 1 1 := by
  cases medium <;> simp [promptPathCost, heldBy, l2Costs]

/-- Only a time, or nothing, changes with the unit. -/
theorem timed_of_transferCost {medium : CacheMedium} (hc : 0 < c)
    (hne : c ≠ 1) (h : (m.scale c hc).transferCost medium 1
      = c * m.transferCost medium 1) : m.Timed medium := by
  by_cases hprofiled : m.Profiled medium
  · exact Or.inl hprofiled
  · have hweight : (m.scale c hc).loadWeight medium
        = m.loadWeight medium := by
      cases medium <;> rfl
    have htokens : (m.scale c hc).tokensPerWorkUnit
        = m.tokensPerWorkUnit := rfl
    have hone : ((max 0 1 : ℤ) : ℚ) = 1 := by norm_num
    rw [transferCost_unprofiled hprofiled, transferCost_unprofiled
      (mt (profiled_scale hc medium).mp hprofiled), hweight, htokens, hone,
      one_mul] at h
    have hzero : (c - 1) * (m.loadWeight medium / m.tokensPerWorkUnit) = 0 := by
      linarith
    have hprice := (mul_eq_zero.mp hzero).resolve_left (sub_ne_zero.mpr hne)
    exact Or.inr ((div_eq_zero_iff.mp hprice).resolve_right
      (ne_of_gt m.tokensPerWorkUnit_pos))

/-- A model that predicts in milliseconds is in one unit exactly if a
medium with no bandwidth to go by weighs nothing. -/
theorem oneUnit_iff (hunit : m.unit = .ms) :
    m.OneUnit ↔ ∀ medium, m.Profiled medium ∨ m.loadWeight medium = 0 := by
  constructor
  · intro h
    have hheld (medium : CacheMedium) :=
      h.path 2 two_pos (heldBy medium) true
    simp only [promptPathCost_heldBy, prefillCost_scale hunit] at hheld
    have hcpu : (m.scale 2 two_pos).transferCost .cpu 1
        = 2 * m.transferCost .cpu 1 := by
      have := hheld .cpu
      rw [if_pos rfl, if_pos rfl] at this
      linarith
    intro medium
    apply timed_of_transferCost two_pos (by norm_num)
    by_cases hmedium : medium = .cpu
    · rw [hmedium]
      exact hcpu
    · have := hheld medium
      rw [if_neg hmedium, if_neg hmedium] at this
      linarith
  · intro h
    exact ⟨fun _ hc => promptPathCost_scale hunit h hc,
      fun _ hc => candidateWork_scale hunit h hc⟩

/-- A profile that measures every medium. -/
theorem oneUnit_of_all_media :
    (fromHardwareProfile
      { numLayers := 1, hiddenSize := 1, prefillMsPerToken := some 1
        mediumProfiles := .ofList [
          ("CPU", .ofList [("bandwidth_gbps", 1)]),
          ("FS", .ofList [("bandwidth_gbps", 1)]),
          ("OBJ", .ofList [("bandwidth_gbps", 1)])] } 256).OneUnit := by
  refine (oneUnit_iff (by decide +kernel)).mpr fun medium => Or.inl ?_
  rw [← transferRate_isSome_iff]
  cases medium <;> decide +kernel

/-- The profile of the example configuration, which knows the bandwidths
of the memory and of the file system. -/
def exampleProfile : HardwareProfile where
  numLayers := 24
  hiddenSize := 2048
  mediumProfiles := .ofList [("FS", .ofList [
    ("bandwidth_gbps", 5537376778 / 10 ^ 10), ("base_latency_ms", 0)])]
  hostMemoryToGpuBandwidthGbps := 224 / 10
  hostMemoryToGpuLatencyMs := 46 / 1000
  prefillTimeModel := some
    { tokenScale := 1920
      minimumMs := 128099322319 / 10 ^ 10
      interceptMs := 120444729228 / 10 ^ 10
      promptMs := 235194610222 / 10 ^ 10
      cachedMs := -231590498747 / 10 ^ 10
      promptSquaredMs := 36669522609 / 10 ^ 10
      promptCachedMs := 60505562387 / 10 ^ 10
      cachedSquaredMs := -151458455555 / 10 ^ 10
      one_le_tokenScale := by norm_num
      minimumMs_nonneg := by norm_num }

/-- In the example configuration a token in the object store is loaded at
a price that is no time. -/
theorem example_mixes_units :
    (fromHardwareProfile exampleProfile 256).unit = .ms
      ∧ ¬ (fromHardwareProfile exampleProfile 256).OneUnit := by
  refine ⟨by decide +kernel, fun h => ?_⟩
  have hobj := h.path 2 two_pos (heldBy .obj) true
  exact absurd hobj (by decide +kernel)

end CostModel

end Kareserve
