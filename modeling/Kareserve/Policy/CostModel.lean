/-
The cost model (`kareserve/policy.py`, `CostModel`): prompt execution
paths and whole requests in one comparable cost unit.

# What a model is made of

`tokens_per_work_unit` is positive in every model the router builds: the
default is 256 and `from_hardware_profile` takes at least 1. The other
parameters come from a profile unchecked. `CostModel.NonNeg` says that
they are not negative, and then no cost is (`candidateWork_nonneg`).

# A hardware profile

A profile is kept by its entries, as numbers: `float` and `int` of an
entry that is no number raise, and then there is no model. The prefill
model is there as `from_profile` returns it.

# Tokens as floats

A cost multiplies a number of tokens with a float or divides it by one. The
functions here are the values; a number of tokens that is no float raises
instead, which is in Policy/Raising.lean, next to the integers each function
converts.
-/
import Kareserve.Policy.Performance

namespace Kareserve

/-- The default of `tokens_per_work_unit` is positive. -/
theorem tokensPerWorkUnit_default_pos : (0 : ℚ) < 256 := by
  norm_num

/-- `CostModel`. -/
structure CostModel where
  tokensPerWorkUnit : ℚ := 256
  computeMsPerToken : Option ℚ := none
  decodeMsPerToken : Option ℚ := none
  kvBytesPerToken : Option ℚ := none
  mediumProfiles : Option (PyDict String (PyDict String ℚ)) := none
  prefillModel : Option PolynomialPrefillModel := none
  cpuLoadWeight : ℚ := 1 / 4
  fsLoadWeight : ℚ := 2
  objLoadWeight : ℚ := 4
  tokensPerWorkUnit_pos : 0 < tokensPerWorkUnit := by
    exact tokensPerWorkUnit_default_pos

/-- The values of `unit`. -/
inductive CostUnit where
  | ms
  | normalized
  deriving DecidableEq

/-- A hardware profile, with the defaults `from_hardware_profile` reads its
entries with. -/
structure HardwareProfile where
  numLayers : ℤ := 0
  hiddenSize : ℤ := 0
  kvDtypeBytes : ℚ := 2
  prefillMsPerToken : Option ℚ := none
  decodeMsPerToken : Option ℚ := none
  mediumProfiles : PyDict String (PyDict String ℚ) := .empty
  hostMemoryToGpuBandwidthGbps : ℚ := 0
  hostMemoryToGpuLatencyMs : ℚ := 0
  prefillTimeModel : Option PolynomialPrefillModel := none
  cpuLoadWeight : ℚ := 1 / 4
  fsLoadWeight : ℚ := 2
  objLoadWeight : ℚ := 4

/-- The medium profiles, with the memory bandwidth for a missing `CPU`. -/
def HardwareProfile.media (profile : HardwareProfile) :
    PyDict String (PyDict String ℚ) :=
  if 0 < profile.hostMemoryToGpuBandwidthGbps
      ∧ profile.mediumProfiles.get "CPU" = none then
    profile.mediumProfiles.set "CPU" (.ofList
      [("bandwidth_gbps", profile.hostMemoryToGpuBandwidthGbps),
        ("base_latency_ms", profile.hostMemoryToGpuLatencyMs)])
  else profile.mediumProfiles

/-- `from_hardware_profile`. -/
def CostModel.fromHardwareProfile (profile : HardwareProfile)
    (tokensPerWorkUnit : ℚ) : CostModel where
  tokensPerWorkUnit := max tokensPerWorkUnit 1
  computeMsPerToken := profile.prefillMsPerToken.filter fun ms => 0 < ms
  decodeMsPerToken := profile.decodeMsPerToken.filter fun ms => 0 < ms
  kvBytesPerToken :=
    if 0 < profile.numLayers ∧ 0 < profile.hiddenSize then
      some (2 * profile.numLayers * profile.hiddenSize * profile.kvDtypeBytes)
    else none
  mediumProfiles := some profile.media
  prefillModel := profile.prefillTimeModel
  cpuLoadWeight := profile.cpuLoadWeight
  fsLoadWeight := profile.fsLoadWeight
  objLoadWeight := profile.objLoadWeight
  tokensPerWorkUnit_pos := lt_max_of_lt_right one_pos

namespace CostModel

variable (m : CostModel)

/-- `unit`. -/
def unit : CostUnit :=
  if m.prefillModel ≠ none ∨ m.computeMsPerToken ≠ none then .ms
  else .normalized

-- ================================================================ costs

/-- `compute_cost`, of a number of tokens that fits a float
(`computeConversions`). -/
def computeCost (tokens : ℤ) : ℚ :=
  match m.computeMsPerToken with
  | some ms => (max 0 tokens : ℤ) * ms
  | none => (max 0 tokens : ℤ) / m.tokensPerWorkUnit

/-- `prefill_cost`. -/
def prefillCost (promptTokens cachedPrefixTokens : ℤ) : ℚ :=
  match m.prefillModel with
  | some model => model.predictMs promptTokens cachedPrefixTokens
  | none => m.computeCost (promptTokens - cachedPrefixTokens)

/-- The load weight of a medium. -/
def loadWeight : CacheMedium → ℚ
  | .cpu => m.cpuLoadWeight
  | .fs => m.fsLoadWeight
  | .obj => m.objLoadWeight

/-- The profile of a medium. -/
def mediumProfile (medium : CacheMedium) : Option (PyDict String ℚ) :=
  m.mediumProfiles.bind fun profiles => profiles.get medium.value

/-- The branch of `transfer_cost` for a medium whose bandwidth is
known. -/
def profiledTransferCost (medium : CacheMedium) (tokens : ℤ) : Option ℚ :=
  match m.mediumProfile medium, m.kvBytesPerToken with
  | some profile, some kvBytes =>
      let bandwidth := (profile.get "bandwidth_gbps").getD 0
      if 0 < bandwidth then
        let transferMs := tokens * kvBytes / (bandwidth * 10 ^ 9) * 1000
        some (transferMs + (profile.get "base_latency_ms").getD 0)
      else none
  | _, _ => none

/-- `transfer_cost`. -/
def transferCost (medium : CacheMedium) (tokens : ℤ) : ℚ :=
  let tokens := max 0 tokens
  (m.profiledTransferCost medium tokens).getD
    (tokens * m.loadWeight medium / m.tokensPerWorkUnit)

/-- `l2_costs`: a cost for each L2 medium that holds the whole external
prefix. -/
def l2Costs (fsPrefix objPrefix externalPrefix memoryPrefix : ℤ) : List ℚ :=
  ([(CacheMedium.fs, fsPrefix), (.obj, objPrefix)].filter
    fun p => p.2 = externalPrefix).map
      fun p => m.transferCost p.1 (externalPrefix - memoryPrefix)

/-- `prompt_path_cost`. -/
def promptPathCost (pm : PrefixMatch) (includeExternal : Bool) : ℚ :=
  let totalTokens := pm.promptTokens
  let gpuPrefix := min pm.gpuPrefixTokens totalTokens
  if !includeExternal then m.prefillCost totalTokens gpuPrefix
  else
    let cpuPrefix := min pm.cpuPrefixTokens totalTokens
    let fsPrefix := min pm.fsPrefixTokens totalTokens
    let objPrefix := min pm.objPrefixTokens totalTokens
    let externalPrefix := max (max cpuPrefix fsPrefix) objPrefix
    if externalPrefix ≤ gpuPrefix then m.prefillCost totalTokens gpuPrefix
    else
      let cost := m.transferCost .cpu (externalPrefix - gpuPrefix)
      let memoryPrefix := max gpuPrefix cpuPrefix
      let l2Cost :=
        if memoryPrefix < externalPrefix then
          -- never of an empty list: `l2Costs_ne_nil`
          (m.l2Costs fsPrefix objPrefix externalPrefix memoryPrefix).min?.getD 0
        else 0
      cost + l2Cost + m.prefillCost totalTokens externalPrefix

/-- `candidate_work`, the value. It raises for an output limit that does
not fit a float: `candidateWorkOrRaise`. -/
def candidateWork (request : SchedulerRequest) (candidate : RouteCandidate) :
    ℚ :=
  let work := m.promptPathCost candidate.prefixMatch true
  match m.decodeMsPerToken with
  | some ms => work + request.maxTokens * ms
  | none =>
      if m.unit = .normalized then work + m.computeCost request.maxTokens
      else work

-- ======================================================== transfer rates

/-- The time per token and the base latency of a medium whose bandwidth is
known. -/
def transferRate (medium : CacheMedium) : Option (ℚ × ℚ) :=
  match m.mediumProfile medium, m.kvBytesPerToken with
  | some profile, some kvBytes =>
      let bandwidth := (profile.get "bandwidth_gbps").getD 0
      if 0 < bandwidth then
        some (kvBytes / (bandwidth * 10 ^ 9) * 1000,
          (profile.get "base_latency_ms").getD 0)
      else none
  | _, _ => none

/-- A profiled transfer takes its time per token and its latency. -/
theorem profiledTransferCost_eq (medium : CacheMedium) (tokens : ℤ) :
    m.profiledTransferCost medium tokens
      = (m.transferRate medium).map fun rate =>
        (tokens : ℚ) * rate.1 + rate.2 := by
  unfold profiledTransferCost transferRate
  cases m.mediumProfile medium with
  | none => rfl
  | some profile =>
      cases m.kvBytesPerToken with
      | none => rfl
      | some kvBytes =>
          dsimp only
          split
          · rw [Option.map_some, mul_div_assoc, mul_assoc]
          · rfl

-- ============================================================= the floor

/-- An external prefix beyond the memory prefix is held by an L2
medium. -/
theorem l2Costs_ne_nil {gpuPrefix cpuPrefix fsPrefix objPrefix : ℤ}
    (h : max gpuPrefix cpuPrefix < max (max cpuPrefix fsPrefix) objPrefix) :
    m.l2Costs fsPrefix objPrefix (max (max cpuPrefix fsPrefix) objPrefix)
      (max gpuPrefix cpuPrefix) ≠ [] := by
  unfold l2Costs
  rw [ne_eq, List.map_eq_nil_iff, List.filter_eq_nil_iff]
  intro hnone
  have hfs := hnone (.fs, fsPrefix) (by simp)
  have hobj := hnone (.obj, objPrefix) (by simp)
  simp only [decide_eq_true_eq] at hfs hobj
  omega

/-- No parameter of a transfer is negative. -/
structure TransferNonNeg : Prop where
  kvBytes : ∀ bytes, m.kvBytesPerToken = some bytes → 0 ≤ bytes
  latency : ∀ medium profile, m.mediumProfile medium = some profile →
    0 ≤ (profile.get "base_latency_ms").getD 0
  cpu : 0 ≤ m.cpuLoadWeight
  fs : 0 ≤ m.fsLoadWeight
  obj : 0 ≤ m.objLoadWeight

/-- No parameter is negative. -/
structure NonNeg : Prop where
  compute : ∀ ms, m.computeMsPerToken = some ms → 0 ≤ ms
  decode : ∀ ms, m.decodeMsPerToken = some ms → 0 ≤ ms
  kvBytes : ∀ bytes, m.kvBytesPerToken = some bytes → 0 ≤ bytes
  latency : ∀ medium profile, m.mediumProfile medium = some profile →
    0 ≤ (profile.get "base_latency_ms").getD 0
  cpu : 0 ≤ m.cpuLoadWeight
  fs : 0 ≤ m.fsLoadWeight
  obj : 0 ≤ m.objLoadWeight

/-- The defaults are not negative. -/
theorem nonNeg_default : ({} : CostModel).NonNeg where
  compute := fun ms h => by cases h
  decode := fun ms h => by cases h
  kvBytes := fun bytes h => by cases h
  latency := fun medium profile h => by cases h
  cpu := by norm_num
  fs := by norm_num
  obj := by norm_num

variable {m}

theorem NonNeg.transfer (h : m.NonNeg) : m.TransferNonNeg where
  kvBytes := h.kvBytes
  latency := h.latency
  cpu := h.cpu
  fs := h.fs
  obj := h.obj

/-- No computation has a negative cost where the weights are not negative. -/
theorem computeCost_nonneg (h : m.NonNeg) (tokens : ℤ) :
    0 ≤ m.computeCost tokens := by
  have htokens : (0 : ℚ) ≤ (max 0 tokens : ℤ) :=
    Int.cast_nonneg (le_max_left _ _)
  unfold computeCost
  cases hms : m.computeMsPerToken with
  | some ms => exact mul_nonneg htokens (h.compute ms hms)
  | none => exact div_nonneg htokens (le_of_lt m.tokensPerWorkUnit_pos)

theorem prefillCost_nonneg (h : m.NonNeg)
    (promptTokens cachedPrefixTokens : ℤ) :
    0 ≤ m.prefillCost promptTokens cachedPrefixTokens := by
  unfold prefillCost
  cases m.prefillModel with
  | some model => exact model.predictMs_nonneg _ _
  | none => exact computeCost_nonneg h _

theorem loadWeight_nonneg (h : m.TransferNonNeg) (medium : CacheMedium) :
    0 ≤ m.loadWeight medium := by
  cases medium with
  | cpu => exact h.cpu
  | fs => exact h.fs
  | obj => exact h.obj

/-- A rate is a product of what is not negative. -/
theorem TransferNonNeg.rate (h : m.TransferNonNeg) {medium : CacheMedium}
    {rate : ℚ × ℚ} (hrate : m.transferRate medium = some rate) :
    0 ≤ rate.1 ∧ 0 ≤ rate.2 := by
  unfold transferRate at hrate
  split at hrate
  · rename_i profile kvBytes hprofile hbytes
    dsimp only at hrate
    split at hrate
    case isTrue hbandwidth =>
      injection hrate with hrate
      rw [← hrate]
      have hscaled : 0 < (profile.get "bandwidth_gbps").getD 0 * 10 ^ 9 :=
        mul_pos hbandwidth (by norm_num)
      refine ⟨mul_nonneg (div_nonneg ?_ (le_of_lt hscaled)) (by norm_num),
        h.latency medium profile hprofile⟩
      exact h.kvBytes kvBytes hbytes
    case isFalse => cases hrate
  · cases hrate

theorem transferCost_nonneg (h : m.TransferNonNeg) (medium : CacheMedium)
    (tokens : ℤ) : 0 ≤ m.transferCost medium tokens := by
  have htokens : 0 ≤ max 0 tokens := le_max_left _ _
  unfold transferCost
  dsimp only
  rw [profiledTransferCost_eq]
  cases hrate : m.transferRate medium with
  | some rate =>
      obtain ⟨hfirst, hsecond⟩ := h.rate hrate
      exact add_nonneg (mul_nonneg (Int.cast_nonneg htokens) hfirst) hsecond
  | none =>
      exact div_nonneg
        (mul_nonneg (Int.cast_nonneg htokens) (loadWeight_nonneg h medium))
        (le_of_lt m.tokensPerWorkUnit_pos)

theorem l2Cost_nonneg (h : m.TransferNonNeg)
    (fsPrefix objPrefix externalPrefix memoryPrefix : ℤ) :
    0 ≤ (m.l2Costs fsPrefix objPrefix externalPrefix memoryPrefix).min?.getD
      0 := by
  cases hmin : (m.l2Costs fsPrefix objPrefix externalPrefix memoryPrefix).min?
    with
  | none => exact le_refl 0
  | some cost =>
      have hmem := List.min?_mem hmin
      unfold l2Costs at hmem
      obtain ⟨p, -, hp⟩ := List.mem_map.mp hmem
      rw [Option.getD_some, ← hp]
      exact transferCost_nonneg h _ _

/-- The path of a prompt is a prefill and transfers, none of them negative. -/
theorem promptPathCost_nonneg (h : m.NonNeg) (pm : PrefixMatch)
    (includeExternal : Bool) : 0 ≤ m.promptPathCost pm includeExternal := by
  unfold promptPathCost
  dsimp only
  split
  · exact prefillCost_nonneg h _ _
  · split
    · exact prefillCost_nonneg h _ _
    · refine add_nonneg (add_nonneg (transferCost_nonneg h.transfer _ _) ?_)
        (prefillCost_nonneg h _ _)
      split
      · exact l2Cost_nonneg h.transfer _ _ _ _
      · exact le_refl 0

/-- With non-negative parameters, no request is negative work. -/
theorem candidateWork_nonneg (h : m.NonNeg) {request : SchedulerRequest}
    (hmax : 0 ≤ request.maxTokens) (candidate : RouteCandidate) :
    0 ≤ m.candidateWork request candidate := by
  have hpath := promptPathCost_nonneg h candidate.prefixMatch true
  unfold candidateWork
  dsimp only
  cases hms : m.decodeMsPerToken with
  | some ms =>
      exact add_nonneg hpath
        (mul_nonneg (Int.cast_nonneg hmax) (h.decode ms hms))
  | none =>
      dsimp only
      split
      · exact add_nonneg hpath (computeCost_nonneg h _)
      · exact hpath

end CostModel

end Kareserve
