/-
Where a prefix is held, against what its path costs.

The path of a prompt is cut at three points: what the GPU holds, what is
in memory, and the external prefix `E`. With `E` fixed, the first two only
ever shorten the transfers (`transferCost_mono`, `l2Cost_antitone`), and a
transfer that gets empty drops out, base latency and all. A medium counts
only if it reaches `E`, and one more that does only adds to what the least
cost is taken of.

All of it rests on transfers not being negative: a negative number of
bytes per token turns every comparison round (`negative_bytes_misplace`).
-/
import Kareserve.Policy.CostModel

namespace Kareserve

/-- `external_prefix` of `prompt_path_cost`. -/
def PrefixMatch.externalPrefix (pm : PrefixMatch) : ℤ :=
  max (max (min pm.cpuPrefixTokens pm.promptTokens)
    (min pm.fsPrefixTokens pm.promptTokens))
    (min pm.objPrefixTokens pm.promptTokens)

/-- It is the longest external prefix, cut off at the prompt. -/
theorem PrefixMatch.externalPrefix_eq (pm : PrefixMatch) :
    pm.externalPrefix
      = min (max (max pm.cpuPrefixTokens pm.fsPrefixTokens)
        pm.objPrefixTokens) pm.promptTokens := by
  unfold externalPrefix
  omega

theorem PrefixMatch.externalPrefix_max (pm : PrefixMatch) :
    pm.externalPrefix
      = max (max (min pm.cpuPrefixTokens pm.promptTokens)
        (min pm.fsPrefixTokens pm.promptTokens))
        (min pm.objPrefixTokens pm.promptTokens) := rfl

/-- An L2 medium. -/
inductive L2Medium where
  | fs
  | obj

namespace PrefixMatch

/-- The prefix in an L2 medium. -/
def l2PrefixTokens (pm : PrefixMatch) : L2Medium → ℤ
  | .fs => pm.fsPrefixTokens
  | .obj => pm.objPrefixTokens

/-- A match with another prefix in an L2 medium. -/
def withL2 (pm : PrefixMatch) (medium : L2Medium) (tokens : ℤ) :
    PrefixMatch :=
  match medium with
  | .fs => { pm with fsPrefixTokens := tokens }
  | .obj => { pm with objPrefixTokens := tokens }

@[simp] theorem withL2_promptTokens (pm : PrefixMatch) (medium : L2Medium)
    (tokens : ℤ) : (pm.withL2 medium tokens).promptTokens = pm.promptTokens := by
  cases medium <;> rfl

@[simp] theorem withL2_gpuPrefixTokens (pm : PrefixMatch) (medium : L2Medium)
    (tokens : ℤ) :
    (pm.withL2 medium tokens).gpuPrefixTokens = pm.gpuPrefixTokens := by
  cases medium <;> rfl

@[simp] theorem withL2_cpuPrefixTokens (pm : PrefixMatch) (medium : L2Medium)
    (tokens : ℤ) :
    (pm.withL2 medium tokens).cpuPrefixTokens = pm.cpuPrefixTokens := by
  cases medium <;> rfl

/-- The external prefix stays where a medium comes to reach it, or did not
reach it before and does not go beyond. -/
theorem externalPrefix_withL2 (pm : PrefixMatch) (medium : L2Medium)
    {tokens : ℤ} (hle : min tokens pm.promptTokens ≤ pm.externalPrefix)
    (h : min tokens pm.promptTokens = pm.externalPrefix
      ∨ min (pm.l2PrefixTokens medium) pm.promptTokens < pm.externalPrefix) :
    (pm.withL2 medium tokens).externalPrefix = pm.externalPrefix := by
  have hparts := pm.externalPrefix_max
  rw [externalPrefix_max (pm.withL2 medium tokens)]
  cases medium <;> dsimp only [withL2, l2PrefixTokens] at * <;> omega

end PrefixMatch

namespace CostModel

-- ======================================================= the same minimum

/-- `prompt_path_cost`, with `none` where it would take a minimum over an
empty list. -/
def promptPathCostChecked (m : CostModel) (pm : PrefixMatch)
    (includeExternal : Bool) : Option ℚ :=
  let totalTokens := pm.promptTokens
  let gpuPrefix := min pm.gpuPrefixTokens totalTokens
  if !includeExternal then some (m.prefillCost totalTokens gpuPrefix)
  else
    let cpuPrefix := min pm.cpuPrefixTokens totalTokens
    let fsPrefix := min pm.fsPrefixTokens totalTokens
    let objPrefix := min pm.objPrefixTokens totalTokens
    let externalPrefix := max (max cpuPrefix fsPrefix) objPrefix
    if externalPrefix ≤ gpuPrefix then
      some (m.prefillCost totalTokens gpuPrefix)
    else
      let cost := m.transferCost .cpu (externalPrefix - gpuPrefix)
      let memoryPrefix := max gpuPrefix cpuPrefix
      if memoryPrefix < externalPrefix then
        (m.l2Costs fsPrefix objPrefix externalPrefix memoryPrefix).min?.map
          fun l2 => cost + l2 + m.prefillCost totalTokens externalPrefix
      else some (cost + 0 + m.prefillCost totalTokens externalPrefix)

/-- It never does. -/
theorem promptPathCostChecked_eq (m : CostModel) (pm : PrefixMatch)
    (includeExternal : Bool) :
    m.promptPathCostChecked pm includeExternal
      = some (m.promptPathCost pm includeExternal) := by
  unfold promptPathCostChecked promptPathCost
  dsimp only
  split
  · rfl
  · split
    · rfl
    · split
      · rename_i hbeyond
        have hne := m.l2Costs_ne_nil hbeyond
        cases hmin : (m.l2Costs _ _ _ _).min? with
        | none => exact absurd (List.min?_eq_none_iff.mp hmin) hne
        | some l2 => rfl
      · rfl

-- ============================================================== the parts

section Parts

variable (m : CostModel)

/-- `l2Cost` of `prompt_path_cost`. -/
def l2Cost (fsPrefix objPrefix externalPrefix memoryPrefix : ℤ) : ℚ :=
  if memoryPrefix < externalPrefix then
    (m.l2Costs fsPrefix objPrefix externalPrefix memoryPrefix).min?.getD 0
  else 0

/-- `l2Cost` of a match. -/
def l2CostOf (pm : PrefixMatch) : ℚ :=
  m.l2Cost (min pm.fsPrefixTokens pm.promptTokens)
    (min pm.objPrefixTokens pm.promptTokens) pm.externalPrefix
    (max (min pm.gpuPrefixTokens pm.promptTokens)
      (min pm.cpuPrefixTokens pm.promptTokens))

/-- The cost of a path, from the points it is cut at. -/
theorem promptPathCost_eq (pm : PrefixMatch) :
    m.promptPathCost pm true
      = if pm.externalPrefix ≤ min pm.gpuPrefixTokens pm.promptTokens then
          m.prefillCost pm.promptTokens
            (min pm.gpuPrefixTokens pm.promptTokens)
        else
          m.transferCost .cpu (pm.externalPrefix
              - min pm.gpuPrefixTokens pm.promptTokens)
            + m.l2CostOf pm
            + m.prefillCost pm.promptTokens pm.externalPrefix := rfl

variable {m}

/-- A longer transfer costs no less. -/
theorem transferCost_mono (h : m.TransferNonNeg) (medium : CacheMedium)
    {tokens tokens' : ℤ} (hle : tokens ≤ tokens') :
    m.transferCost medium tokens ≤ m.transferCost medium tokens' := by
  have hmax : ((max 0 tokens : ℤ) : ℚ) ≤ (max 0 tokens' : ℤ) :=
    Int.cast_le.mpr (max_le_max_left 0 hle)
  unfold transferCost
  dsimp only
  rw [profiledTransferCost_eq, profiledTransferCost_eq]
  cases hrate : m.transferRate medium with
  | some rate =>
      obtain ⟨hfirst, -⟩ := h.rate hrate
      apply add_le_add_left
      exact mul_le_mul_of_nonneg_right hmax hfirst
  | none =>
      refine div_le_div_of_nonneg_right ?_ (le_of_lt m.tokensPerWorkUnit_pos)
      exact mul_le_mul_of_nonneg_right hmax (loadWeight_nonneg h medium)

end Parts

-- ============================================================ L2 minima

/-- A minimum taken of smaller values of the same elements. -/
theorem min_getD_map_le {α : Type*} {f g : α → ℚ} {l : List α}
    (h : ∀ a ∈ l, f a ≤ g a) :
    ((l.map f).min?).getD 0 ≤ ((l.map g).min?).getD 0 := by
  cases hg : (l.map g).min? with
  | none =>
      rw [List.min?_eq_none_iff, List.map_eq_nil_iff] at hg
      rw [hg]
      exact le_refl 0
  | some y =>
      obtain ⟨a, ha, rfl⟩ := List.mem_map.mp (List.min?_mem hg)
      cases hf : (l.map f).min? with
      | none =>
          rw [List.min?_eq_none_iff, List.map_eq_nil_iff] at hf
          rw [hf] at ha
          cases ha
      | some x =>
          have hle := (List.min?_eq_some_iff.mp hf).2 (f a)
            (List.mem_map.mpr ⟨a, ha, rfl⟩)
          exact hle.trans (h a ha)

/-- A minimum taken of more. -/
theorem min_getD_le_of_subset {l l' : List ℚ} (hne : l ≠ []) (h : l ⊆ l') :
    (l'.min?).getD 0 ≤ (l.min?).getD 0 := by
  cases hmin : l.min? with
  | none => exact absurd (List.min?_eq_none_iff.mp hmin) hne
  | some x =>
      have hx := h (List.min?_mem hmin)
      cases hmin' : l'.min? with
      | none =>
          rw [List.min?_eq_none_iff.mp hmin'] at hx
          cases hx
      | some y => exact (List.min?_eq_some_iff.mp hmin').2 x hx

section L2

variable {m : CostModel} {fsPrefix objPrefix externalPrefix memoryPrefix : ℤ}

theorem l2Cost_nonneg' (h : m.TransferNonNeg) :
    0 ≤ m.l2Cost fsPrefix objPrefix externalPrefix memoryPrefix := by
  unfold l2Cost
  split
  · exact l2Cost_nonneg h _ _ _ _
  · exact le_refl 0

/-- The more is in memory, the less an L2 medium has to bring. -/
theorem l2Cost_antitone (h : m.TransferNonNeg) {memoryPrefix' : ℤ}
    (hle : memoryPrefix ≤ memoryPrefix') :
    m.l2Cost fsPrefix objPrefix externalPrefix memoryPrefix'
      ≤ m.l2Cost fsPrefix objPrefix externalPrefix memoryPrefix := by
  by_cases hbeyond : memoryPrefix' < externalPrefix
  · unfold l2Cost
    rw [if_pos hbeyond, if_pos (lt_of_le_of_lt hle hbeyond)]
    apply min_getD_map_le
    intro p _
    exact transferCost_mono h p.1 (sub_le_sub_left hle _)
  · have hzero : m.l2Cost fsPrefix objPrefix externalPrefix memoryPrefix' = 0 :=
      if_neg hbeyond
    rw [hzero]
    exact l2Cost_nonneg' h

/-- A medium that comes to reach the external prefix adds to what the
minimum is taken of. -/
theorem l2CostOf_withL2_le {pm : PrefixMatch} {medium : L2Medium} {tokens : ℤ}
    (hsame : (pm.withL2 medium tokens).externalPrefix = pm.externalPrefix)
    (hreach : min tokens pm.promptTokens = pm.externalPrefix) :
    m.l2CostOf (pm.withL2 medium tokens) ≤ m.l2CostOf pm := by
  unfold l2CostOf l2Cost
  rw [hsame, PrefixMatch.withL2_promptTokens,
    PrefixMatch.withL2_gpuPrefixTokens, PrefixMatch.withL2_cpuPrefixTokens]
  split
  case isTrue hbeyond =>
    apply min_getD_le_of_subset (m.l2Costs_ne_nil hbeyond)
    refine List.map_subset _ fun p hp => ?_
    simp only [List.mem_filter, List.mem_cons, List.not_mem_nil, or_false,
      decide_eq_true_eq] at hp ⊢
    obtain ⟨hmem, hp⟩ := hp
    refine ⟨?_, hp⟩
    -- what reached it before is still there
    cases medium with
    | fs =>
        refine hmem.imp (fun hfs => ?_) fun hobj => hobj
        exact Prod.ext (by rw [hfs]) (hp.trans hreach.symm)
    | obj =>
        refine hmem.imp (fun hfs => hfs) fun hobj => ?_
        exact Prod.ext (by rw [hobj]) (hp.trans hreach.symm)
  case isFalse => exact le_refl 0

/-- A medium that falls short is not looked at. -/
theorem l2CostOf_withL2_eq {pm : PrefixMatch} {medium : L2Medium} {tokens : ℤ}
    (hsame : (pm.withL2 medium tokens).externalPrefix = pm.externalPrefix)
    (hold : min (pm.l2PrefixTokens medium) pm.promptTokens
      ≠ pm.externalPrefix)
    (hnew : min tokens pm.promptTokens ≠ pm.externalPrefix) :
    m.l2CostOf (pm.withL2 medium tokens) = m.l2CostOf pm := by
  unfold l2CostOf
  rw [hsame]
  cases medium <;>
    simp only [PrefixMatch.l2PrefixTokens] at hold <;>
    simp [PrefixMatch.withL2, l2Cost, l2Costs, List.filter_cons, hold, hnew]

end L2

-- ============================================================= placement

/-- A better placement of the same prefix costs no more. -/
structure BetterPlacement (m : CostModel) : Prop where
  /-- No minimum is taken over an empty list. -/
  defined : ∀ pm includeExternal, m.promptPathCostChecked pm includeExternal
    = some (m.promptPathCost pm includeExternal)
  gpu : ∀ (pm : PrefixMatch) tokens, pm.gpuPrefixTokens ≤ tokens →
    tokens ≤ pm.externalPrefix →
    m.promptPathCost { pm with gpuPrefixTokens := tokens } true
      ≤ m.promptPathCost pm true
  cpu : ∀ (pm : PrefixMatch) tokens, pm.cpuPrefixTokens ≤ tokens →
    tokens ≤ pm.externalPrefix →
    m.promptPathCost { pm with cpuPrefixTokens := tokens } true
      ≤ m.promptPathCost pm true
  /-- An L2 medium that comes to reach the external prefix. -/
  fsReaches : ∀ (pm : PrefixMatch) tokens,
    min tokens pm.promptTokens = pm.externalPrefix →
    m.promptPathCost { pm with fsPrefixTokens := tokens } true
      ≤ m.promptPathCost pm true
  objReaches : ∀ (pm : PrefixMatch) tokens,
    min tokens pm.promptTokens = pm.externalPrefix →
    m.promptPathCost { pm with objPrefixTokens := tokens } true
      ≤ m.promptPathCost pm true
  /-- An L2 medium short of it. -/
  fsShort : ∀ (pm : PrefixMatch) tokens,
    pm.fsPrefixTokens < pm.externalPrefix → tokens < pm.externalPrefix →
    m.promptPathCost { pm with fsPrefixTokens := tokens } true
      = m.promptPathCost pm true
  objShort : ∀ (pm : PrefixMatch) tokens,
    pm.objPrefixTokens < pm.externalPrefix → tokens < pm.externalPrefix →
    m.promptPathCost { pm with objPrefixTokens := tokens } true
      = m.promptPathCost pm true

section Placement

variable {m : CostModel}

/-- More on the GPU: the transfer gets shorter or drops out, and the prefill
stays. -/
theorem promptPathCost_gpu_le (h : m.TransferNonNeg) (pm : PrefixMatch)
    {tokens : ℤ} (hraise : pm.gpuPrefixTokens ≤ tokens)
    (hle : tokens ≤ pm.externalPrefix) :
    m.promptPathCost { pm with gpuPrefixTokens := tokens } true
      ≤ m.promptPathCost pm true := by
  have hprefix := pm.externalPrefix_eq
  have hsame : ({ pm with gpuPrefixTokens := tokens } :
      PrefixMatch).externalPrefix = pm.externalPrefix := rfl
  rw [promptPathCost_eq, promptPathCost_eq, hsame]
  dsimp only
  have hnew : min tokens pm.promptTokens = tokens := by omega
  have hold : min pm.gpuPrefixTokens pm.promptTokens = pm.gpuPrefixTokens := by
    omega
  rw [hnew, hold]
  rcases lt_or_ge pm.gpuPrefixTokens pm.externalPrefix with hshort | hwhole
  · rw [if_neg (not_le.mpr hshort)]
    have htransfer := transferCost_nonneg h .cpu
      (pm.externalPrefix - pm.gpuPrefixTokens)
    rcases lt_or_ge tokens pm.externalPrefix with hshort' | hwhole'
    · rw [if_neg (not_le.mpr hshort')]
      apply add_le_add_left
      apply add_le_add
      · exact transferCost_mono h .cpu (sub_le_sub_left hraise _)
      · exact l2Cost_antitone h
          (max_le_max_right _ (min_le_min_right _ hraise))
    · rw [if_pos hwhole', le_antisymm hle hwhole']
      exact le_add_of_nonneg_left (add_nonneg htransfer (l2Cost_nonneg' h))
  · have heq : tokens = pm.gpuPrefixTokens := by omega
    rw [heq]

/-- With the same prefix on the GPU and the same external prefix, a path
costs no more if the L2 media bring theirs at no more. -/
theorem promptPathCost_le_of_l2 {pm pm' : PrefixMatch}
    (hprompt : pm'.promptTokens = pm.promptTokens)
    (hgpu : pm'.gpuPrefixTokens = pm.gpuPrefixTokens)
    (hsame : pm'.externalPrefix = pm.externalPrefix)
    (hl2 : m.l2CostOf pm' ≤ m.l2CostOf pm) :
    m.promptPathCost pm' true ≤ m.promptPathCost pm true := by
  rw [promptPathCost_eq, promptPathCost_eq, hsame, hprompt, hgpu]
  split
  · exact le_refl _
  · apply add_le_add_left
    apply add_le_add_right
    exact hl2

theorem promptPathCost_eq_of_l2 {pm pm' : PrefixMatch}
    (hprompt : pm'.promptTokens = pm.promptTokens)
    (hgpu : pm'.gpuPrefixTokens = pm.gpuPrefixTokens)
    (hsame : pm'.externalPrefix = pm.externalPrefix)
    (hl2 : m.l2CostOf pm' = m.l2CostOf pm) :
    m.promptPathCost pm' true = m.promptPathCost pm true :=
  le_antisymm
    (promptPathCost_le_of_l2 hprompt hgpu hsame (le_of_eq hl2))
    (promptPathCost_le_of_l2 hprompt.symm hgpu.symm hsame.symm
      (le_of_eq hl2.symm))

/-- More in memory: an L2 medium has less to bring. -/
theorem promptPathCost_cpu_le (h : m.TransferNonNeg) (pm : PrefixMatch)
    {tokens : ℤ} (hraise : pm.cpuPrefixTokens ≤ tokens)
    (hle : tokens ≤ pm.externalPrefix) :
    m.promptPathCost { pm with cpuPrefixTokens := tokens } true
      ≤ m.promptPathCost pm true := by
  have hsame : ({ pm with cpuPrefixTokens := tokens } :
      PrefixMatch).externalPrefix = pm.externalPrefix := by
    rw [PrefixMatch.externalPrefix_eq, PrefixMatch.externalPrefix_eq] at *
    dsimp only
    omega
  refine promptPathCost_le_of_l2 rfl rfl hsame ?_
  unfold l2CostOf
  rw [hsame]
  exact l2Cost_antitone h (max_le_max_left _ (min_le_min_right _ hraise))

/-- An L2 medium that comes to reach the external prefix. -/
theorem promptPathCost_withL2_le (m : CostModel) (pm : PrefixMatch)
    (medium : L2Medium) {tokens : ℤ}
    (hreach : min tokens pm.promptTokens = pm.externalPrefix) :
    m.promptPathCost (pm.withL2 medium tokens) true
      ≤ m.promptPathCost pm true := by
  have hsame :=
    pm.externalPrefix_withL2 medium (le_of_eq hreach) (.inl hreach)
  exact promptPathCost_le_of_l2 (pm.withL2_promptTokens medium tokens)
    (pm.withL2_gpuPrefixTokens medium tokens) hsame
    (l2CostOf_withL2_le hsame hreach)

/-- An L2 medium that stays short of it. -/
theorem promptPathCost_withL2_eq (m : CostModel) (pm : PrefixMatch)
    (medium : L2Medium) {tokens : ℤ}
    (hold : pm.l2PrefixTokens medium < pm.externalPrefix)
    (hnew : tokens < pm.externalPrefix) :
    m.promptPathCost (pm.withL2 medium tokens) true
      = m.promptPathCost pm true := by
  have hold' := lt_of_le_of_lt (min_le_left _ pm.promptTokens) hold
  have hnew' := lt_of_le_of_lt (min_le_left _ pm.promptTokens) hnew
  have hsame :=
    pm.externalPrefix_withL2 medium (le_of_lt hnew') (.inr hold')
  exact promptPathCost_eq_of_l2 (pm.withL2_promptTokens medium tokens)
    (pm.withL2_gpuPrefixTokens medium tokens) hsame
    (l2CostOf_withL2_eq hsame (ne_of_lt hold') (ne_of_lt hnew'))

end Placement

/-- No transfer is negative, and so a better placement never costs
more. -/
theorem betterPlacement_of_transferNonNeg {m : CostModel}
    (h : m.TransferNonNeg) : m.BetterPlacement where
  defined := m.promptPathCostChecked_eq
  gpu := fun pm _ => promptPathCost_gpu_le h pm
  cpu := fun pm _ => promptPathCost_cpu_le h pm
  fsReaches := fun pm _ => promptPathCost_withL2_le m pm .fs
  objReaches := fun pm _ => promptPathCost_withL2_le m pm .obj
  fsShort := fun pm _ => promptPathCost_withL2_eq m pm .fs
  objShort := fun pm _ => promptPathCost_withL2_eq m pm .obj

/-- A profiled link to memory of 24 GB/s, for 4096 bytes a token. -/
theorem betterPlacement_profiled :
    ({ kvBytesPerToken := some 4096
       mediumProfiles := some (.ofList [("CPU", .ofList
        [("bandwidth_gbps", 24), ("base_latency_ms", 1 / 2)])]) }
      : CostModel).BetterPlacement := by
  apply betterPlacement_of_transferNonNeg
  refine ⟨?_, ?_, by norm_num, by norm_num, by norm_num⟩
  · intro bytes hbytes
    injection hbytes with hbytes
    rw [← hbytes]
    norm_num
  · intro medium profile hprofile
    cases medium with
    | cpu =>
        injection hprofile with hprofile
        rw [← hprofile]
        decide +kernel
    | fs => cases hprofile
    | obj => cases hprofile

/-- Nothing but the bytes per token is negative here. Of a prompt of two
tokens that are in memory, one more on the GPU costs more. -/
theorem negative_bytes_misplace :
    ∃ m : CostModel, 0 ≤ m.cpuLoadWeight ∧ 0 ≤ m.fsLoadWeight
      ∧ 0 ≤ m.objLoadWeight
      ∧ (∀ medium profile, m.mediumProfile medium = some profile →
        0 ≤ (profile.get "bandwidth_gbps").getD 0
          ∧ 0 ≤ (profile.get "base_latency_ms").getD 0)
      ∧ ¬ m.BetterPlacement := by
  let link : PyDict String ℚ := .ofList [("bandwidth_gbps", 1)]
  refine ⟨{ kvBytesPerToken := some (-1)
            mediumProfiles := some (.ofList [("CPU", link)]) },
    by norm_num, by norm_num, by norm_num, ?_, ?_⟩
  · intro medium profile hprofile
    cases medium with
    | cpu =>
        injection hprofile with hprofile
        rw [← hprofile]
        exact ⟨by decide +kernel, by decide +kernel⟩
    | fs => cases hprofile
    | obj => cases hprofile
  · intro hbetter
    have hmore := hbetter.gpu ⟨2, 0, 2, 0, 0⟩ 1 (by decide) (by decide)
    exact absurd hmore (by decide +kernel)

end CostModel

end Kareserve
