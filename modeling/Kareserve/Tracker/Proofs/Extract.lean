/-
The figures `update_metrics_text` takes from a page in the text format,
against the figures on the page.

On the one side stand all samples of exactly the named metric, however
they are written, and the labels of exactly the named name
(`MetricsPage.Extracted`); on the other what the patterns and the searches
see of the page. The two agree where the samples that are not seen add
nothing and the searches take the labels they are meant for
(`MetricsPage.ReadAlike`).

# The argument

A page is cut at its line ends, and a pattern finds at most one thing on a
line (Tracker/Proofs/Patterns.lean). So what is found of a metric are the
plain ones of its samples (`findall_metric`), and the figure that is read is
the sum or the maximum of these (`sumRead_iff`, `maxRead_iff`). The figure on
the page is that of all samples, plain or not. Each field of the node is
compared on its own (`count_agrees`, `total_agrees`, `usage_agrees`,
`blocks_agree`, `blockSize_agrees`).
-/
import Kareserve.Tracker.Proofs.Apply
import Kareserve.Tracker.Proofs.Labels
import Kareserve.Tracker.Proofs.Patterns

namespace Kareserve

open Exposition

-- ================================================================= pages

/-- A page in the text format, with finite values of the metrics that are
read and integral request counts. -/
structure MetricsPage where
  lines : List Line
  finite : ∀ s ∈ samples lines, ∀ spec ∈ metricSpecs,
    s.name.text = spec.2.1.toList →
      ∃ q, s.value.number = some q ∧ |q| < PyJson.Float.limit
  integral : ∀ s ∈ samples lines,
    ∀ metric ∈ ["vllm:num_requests_running", "vllm:num_requests_waiting"],
      s.name.text = metric.toList →
        ∀ q, s.value.number = some q → ∃ n : ℤ, (n : ℚ) = q

namespace MetricsPage

def text (page : MetricsPage) : List Char := pageText page.lines

/-- All samples of a metric. -/
def named (page : MetricsPage) (metric : String) : List Sample :=
  (samples page.lines).filter fun s => s.name.text = metric.toList

def values (page : MetricsPage) (metric : String) : List ℚ :=
  (page.named metric).filterMap fun s => s.value.number

end MetricsPage

/-- The number of a label: its value, if that is a number. -/
def labelNumber (digits : DecimalDigits) (l : Label) : Option ℕ :=
  if l.value ≠ [] ∧ l.value.all digits.isDigit then
    some (digits.number l.value)
  else none

/-- The number of the label of exactly this name. -/
def exactNumber (digits : DecimalDigits) (name : String) (s : Sample) :
    Option ℕ :=
  (s.labels.find? fun l => l.name.text = name.toList).bind (labelNumber digits)

-- ====================================================== what is on a page

/-- A field is the sum of the values, if there are any. -/
def SumRead (values : List ℚ) (unchanged : Prop) (is : ℚ → Prop) : Prop :=
  if values = [] then unchanged else is values.sum

/-- A field is the greatest of the values, if there are any. -/
def MaxRead (values : List ℚ) (unchanged : Prop) (is : ℚ → Prop) : Prop :=
  if values = [] then unchanged
  else ∃ q, is q ∧ q ∈ values ∧ ∀ r ∈ values, r ≤ q

namespace MetricsPage

/-- The blocks of all config samples. -/
def blocks (page : MetricsPage) (digits : DecimalDigits) : ℕ :=
  ((page.named "vllm:cache_config_info").map fun s =>
    (exactNumber digits "num_gpu_blocks" s).getD 0).sum

/-- The block size of the last config sample that has one. -/
def blockSize (page : MetricsPage) (digits : DecimalDigits) : Option ℕ :=
  ((page.named "vllm:cache_config_info").filterMap
    (exactNumber digits "block_size")).getLast?

/-- The node has the figures of the page, and where the page has none those
it had before. Config samples without a number under the name of a label
say nothing about it. -/
structure Extracted (digits : DecimalDigits) (page : MetricsPage)
    (before after : PolledNode) : Prop where
  running : SumRead (page.values "vllm:num_requests_running")
    (after.runningRequests = before.runningRequests)
    fun q => ∃ n : ℤ, after.runningRequests = some n ∧ (n : ℚ) = q
  waiting : SumRead (page.values "vllm:num_requests_waiting")
    (after.waitingRequests = before.waitingRequests)
    fun q => ∃ n : ℤ, after.waitingRequests = some n ∧ (n : ℚ) = q
  usage : MaxRead (page.values "vllm:kv_cache_usage_perc")
    (after.kvCacheUsage = before.kvCacheUsage)
    fun q => after.kvCacheUsage = some (.finite q)
  queries : SumRead (page.values "vllm:external_prefix_cache_queries_total")
    (after.lmcacheQueries = before.lmcacheQueries)
    fun q => after.lmcacheQueries = .finite q
  hits : SumRead (page.values "vllm:external_prefix_cache_hits_total")
    (after.lmcacheHits = before.lmcacheHits)
    fun q => after.lmcacheHits = .finite q
  totalBlocks : after.gpuTotalBlocks
    = if 0 < page.blocks digits then some (page.blocks digits : ℤ)
      else before.gpuTotalBlocks
  blockSize : after.gpuBlockSize
    = ((page.blockSize digits).map (↑)).or before.gpuBlockSize

/-- The page is applied and its figures are read right. -/
def ReadsRight (digits : DecimalDigits) (now : ℚ) (page : MetricsPage)
    (node : PolledNode) : Prop :=
  ∃ after, updateMetricsText digits page.text now node = (after, none)
    ∧ page.Extracted digits node after

end MetricsPage

-- ========================================================= what is seen

/-- A sample as the metric patterns want it. -/
def plainSample (s : Sample) : Bool :=
  decide (s.lead.text = []) && (metricCapture s).isSome

/-- The number the search for a label name takes. -/
def searchedDigits (digits : DecimalDigits) (name : String) (s : Sample) :
    Option (List Char) :=
  s.labels.findSome? (labelDigits digits name)

namespace MetricsPage

/-- The values that are seen. -/
def plainValues (page : MetricsPage) (metric : String) : List ℚ :=
  ((page.named metric).filter plainSample).filterMap fun s => s.value.number

/-- The values that are not seen. -/
def missedValues (page : MetricsPage) (metric : String) : List ℚ :=
  ((page.named metric).filter fun s => !plainSample s).filterMap
    fun s => s.value.number

/-- The config samples that are seen. -/
def plainConfigs (page : MetricsPage) : List Sample :=
  (page.named "vllm:cache_config_info").filter fun s =>
    plainSample s && s.braces.isSome

end MetricsPage

/-- The values that are not seen change no sum. Where none is seen, the sum
is what the field was (`kept`) or there are none. -/
def SumAgrees (kept : ℚ → Prop) (plain missed : List ℚ) : Prop :=
  if plain = [] then missed = [] ∨ kept missed.sum
  else PyJson.Float.InRange 0 plain ∧ missed.sum = 0

/-- The values that are not seen change no maximum. -/
def MaxAgrees (kept : ℚ → Prop) (plain missed : List ℚ) : Prop :=
  if plain = [] then
    missed = [] ∨ ∃ q, kept q ∧ q ∈ missed ∧ ∀ r ∈ missed, r ≤ q
  else ∀ r ∈ missed, ∃ q ∈ plain, r ≤ q

namespace MetricsPage

/-- The blocks that are seen. -/
def seenBlocks (page : MetricsPage) (digits : DecimalDigits) : ℕ :=
  (page.plainConfigs.map fun s =>
    ((searchedDigits digits "num_gpu_blocks" s).map digits.number).getD 0).sum

/-- The last block size that is seen. -/
def seenBlockSize (page : MetricsPage) (digits : DecimalDigits) : Option ℕ :=
  (page.plainConfigs.filterMap fun s =>
    (searchedDigits digits "block_size" s).map digits.number).getLast?

/-- What is not seen of the page, or seen under another name, changes
nothing for the node, and what is seen can be converted. -/
structure ReadAlike (digits : DecimalDigits) (page : MetricsPage)
    (before : PolledNode) : Prop where
  running : SumAgrees
    (fun q => ∃ n : ℤ, before.runningRequests = some n ∧ (n : ℚ) = q)
    (page.plainValues "vllm:num_requests_running")
    (page.missedValues "vllm:num_requests_running")
  waiting : SumAgrees
    (fun q => ∃ n : ℤ, before.waitingRequests = some n ∧ (n : ℚ) = q)
    (page.plainValues "vllm:num_requests_waiting")
    (page.missedValues "vllm:num_requests_waiting")
  usage : MaxAgrees (fun q => before.kvCacheUsage = some (.finite q))
    (page.plainValues "vllm:kv_cache_usage_perc")
    (page.missedValues "vllm:kv_cache_usage_perc")
  queries : SumAgrees (fun q => before.lmcacheQueries = .finite q)
    (page.plainValues "vllm:external_prefix_cache_queries_total")
    (page.missedValues "vllm:external_prefix_cache_queries_total")
  hits : SumAgrees (fun q => before.lmcacheHits = .finite q)
    (page.plainValues "vllm:external_prefix_cache_hits_total")
    (page.missedValues "vllm:external_prefix_cache_hits_total")
  totalBlocks : page.seenBlocks digits = page.blocks digits
    ∨ (page.seenBlocks digits = 0
      ∧ before.gpuTotalBlocks = some (page.blocks digits : ℤ))
    ∨ (page.blocks digits = 0
      ∧ before.gpuTotalBlocks = some (page.seenBlocks digits : ℤ))
  blockSize : page.seenBlockSize digits = page.blockSize digits
    ∨ (page.seenBlockSize digits = none
      ∧ before.gpuBlockSize = (page.blockSize digits).map (↑))
    ∨ (page.blockSize digits = none
      ∧ before.gpuBlockSize = (page.seenBlockSize digits).map (↑))
  labels : ∀ s ∈ page.plainConfigs,
    ∀ name ∈ ["num_gpu_blocks", "block_size"],
      ∀ ds, searchedDigits digits name s = some ds → ds.length ≤ 4300

end MetricsPage

-- ====================================================== sums and maxima

section Agree

variable {values plain missed : List ℚ} {unchanged : Prop}
  {is kept : ℚ → Prop}

/-- A sum is read right where what is missed adds nothing. -/
theorem sumRead_iff (hperm : (plain ++ missed).Perm values)
    (hnil : plain = [] → unchanged ∧ ∀ q, is q ↔ kept q)
    (hcons : plain ≠ [] →
      ∀ q, is q ↔ PyJson.Float.InRange 0 plain ∧ plain.sum = q) :
    SumRead values unchanged is ↔ SumAgrees kept plain missed := by
  have hsum : values.sum = plain.sum + missed.sum := by
    rw [← hperm.sum_eq, List.sum_append]
  unfold SumRead SumAgrees
  by_cases hplain : plain = []
  · obtain ⟨hunchanged, hkept⟩ := hnil hplain
    have hvalues : values = [] ↔ missed = [] := by
      rw [hplain, List.nil_append] at hperm
      rw [← List.perm_nil, ← List.perm_nil]
      exact ⟨hperm.trans, hperm.symm.trans⟩
    rw [if_pos hplain]
    by_cases hmissed : missed = []
    · rw [if_pos (hvalues.mpr hmissed)]
      exact iff_of_true hunchanged (.inl hmissed)
    · rw [if_neg (mt hvalues.mp hmissed), hsum, hplain, List.sum_nil, zero_add,
        hkept]
      exact (or_iff_right hmissed).symm
  · have hvalues : values ≠ [] := by
      rintro rfl
      exact hplain (List.append_eq_nil_iff.mp (List.perm_nil.mp hperm)).1
    rw [if_neg hvalues, if_neg hplain, hcons hplain, hsum]
    refine and_congr_right fun _ => ?_
    constructor
    · intro h
      linarith
    · intro h
      linarith

/-- A maximum is read right where no missed sample is above it. -/
theorem maxRead_iff (hperm : (plain ++ missed).Perm values)
    (hnil : plain = [] → unchanged ∧ ∀ q, is q ↔ kept q)
    (hcons : plain ≠ [] → (∃ q, is q)
      ∧ ∀ q, is q ↔ q ∈ plain ∧ ∀ r ∈ plain, r ≤ q) :
    MaxRead values unchanged is ↔ MaxAgrees kept plain missed := by
  unfold MaxRead MaxAgrees
  by_cases hplain : plain = []
  · obtain ⟨hunchanged, hkept⟩ := hnil hplain
    rw [hplain, List.nil_append] at hperm
    have hvalues : values = [] ↔ missed = [] := by
      rw [← List.perm_nil, ← List.perm_nil]
      exact ⟨hperm.trans, hperm.symm.trans⟩
    rw [if_pos hplain]
    by_cases hmissed : missed = []
    · rw [if_pos (hvalues.mpr hmissed)]
      exact iff_of_true hunchanged (.inl hmissed)
    · rw [if_neg (mt hvalues.mp hmissed), or_iff_right hmissed]
      refine exists_congr fun q => ?_
      rw [hkept, hperm.mem_iff.symm]
      refine and_congr_right fun _ => and_congr_right fun _ => ?_
      exact forall_congr' fun r => by rw [hperm.mem_iff]
  · have hvalues : values ≠ [] := by
      rintro rfl
      exact hplain (List.append_eq_nil_iff.mp (List.perm_nil.mp hperm)).1
    obtain ⟨⟨q, hq⟩, his⟩ := hcons hplain
    rw [if_neg hvalues, if_neg hplain]
    constructor
    · rintro ⟨q, hq, -, hmax⟩ r hr
      refine ⟨q, ((his q).mp hq).1, hmax r ?_⟩
      exact hperm.mem_iff.mp (List.mem_append_right _ hr)
    · intro h
      obtain ⟨hmem, hmax⟩ := (his q).mp hq
      refine ⟨q, hq, hperm.mem_iff.mp (List.mem_append_left _ hmem), ?_⟩
      intro r hr
      rcases List.mem_append.mp (hperm.mem_iff.mpr hr) with hr | hr
      · exact hmax r hr
      · obtain ⟨p, hp, hle⟩ := h r hr
        exact hle.trans (hmax p hp)

end Agree

-- ========================================================== the captures

/-- A plain number is the text of a decimal. -/
theorem plainNumber_eq {s : Sample} {number : List Char}
    (h : plainNumber s = some number) :
    ∃ d, s.value = .decimal d ∧ number = d.text := by
  unfold plainNumber at h
  cases hvalue : s.value with
  | word w n =>
      rw [hvalue] at h
      cases h
  | decimal d =>
      rw [hvalue] at h
      dsimp only at h
      split at h
      · injection h with h
        exact ⟨d, rfl, h.symm⟩
      · cases h

theorem metricCapture_eq {s : Sample} {number : List Char}
    (h : metricCapture s = some number) :
    ∃ d, s.value = .decimal d ∧ number = d.text := by
  unfold metricCapture at h
  split at h
  · exact plainNumber_eq h
  · cases h

/-- Filtering and mapping at once. -/
theorem filterMap_if {α β : Type} (p : α → Bool) (f : α → β) (l : List α) :
    l.filterMap (fun a => if p a then some (f a) else none)
      = (l.filter p).map f := by
  induction l with
  | nil => rfl
  | cons a l ih =>
      cases ha : p a with
      | true =>
          rw [List.filter_cons_of_pos ha, List.map_cons, ← ih]
          exact List.filterMap_cons_some (if_pos ha)
      | false =>
          rw [List.filter_cons_of_neg (by simpa using ha), ← ih]
          exact List.filterMap_cons_none (if_neg (by simpa using ha))

/-- A sample as the patterns want it is captured by its value. -/
theorem capture_plain (s : Sample) (metric : String) :
    (if s.lead.text = [] ∧ s.name.text = metric.toList then metricCapture s
      else none)
      = if plainSample s && decide (s.name.text = metric.toList) then
          some s.value.text
        else none := by
  unfold plainSample
  cases hcapture : metricCapture s with
  | none => simp
  | some number =>
      obtain ⟨d, hvalue, hnumber⟩ := metricCapture_eq hcapture
      rw [hvalue, hnumber]
      simp [Value.text]

/-- What is between the braces of a sample. -/
def inside (s : Sample) : List Char := s.braces.elim [] Braces.inside

/-- The configuration pattern sees a line if it is plain and has braces. -/
theorem capture_config (s : Sample) (metric : String) :
    (if s.lead.text = [] ∧ s.name.text = metric.toList then configCapture s
      else none)
      = if (plainSample s && s.braces.isSome)
            && decide (s.name.text = metric.toList) then
          some (inside s)
        else none := by
  unfold plainSample configCapture metricCapture inside
  cases s.braces with
  | none => simp
  | some b =>
      rw [Option.bind_some, Option.all_some]
      by_cases hplain : plainBraces b
      · rw [if_pos hplain, if_pos hplain]
        cases plainNumber s <;> simp
      · rw [if_neg hplain, if_neg hplain]
        simp

section Metric

variable {metric : String}

/-- The name of a metric, as a pattern has it. -/
structure IsMetricName (metric : String) : Prop where
  ne_nil : metric.toList ≠ []
  chars : ∀ c ∈ metric.toList, isNameChar c

/-- What `findall` finds of a metric are its plain samples. -/
theorem findall_metric (page : MetricsPage) (hmetric : IsMetricName metric) :
    findall (metricPattern metric) page.text
      = ((page.named metric).filter plainSample).map fun s => s.value.text := by
  unfold MetricsPage.named MetricsPage.text
  rw [List.filter_filter, ← filterMap_if]
  refine (findall_page hmetric.ne_nil hmetric.chars matchMetric_nameEnds
    matchMetric_tail page.lines).trans ?_
  exact congrArg (List.filterMap · _) (funext fun s => capture_plain s metric)

/-- The configuration is found on its plain lines, up to the first closing
brace. -/
theorem findall_config (page : MetricsPage) :
    findall configPattern page.text = page.plainConfigs.map inside := by
  unfold MetricsPage.plainConfigs MetricsPage.named MetricsPage.text
  rw [List.filter_filter, ← filterMap_if]
  refine (findall_page (by decide) (List.all_eq_true.mp (by decide))
    matchConfig_nameEnds matchConfig_tail page.lines).trans ?_
  exact congrArg (List.filterMap · _)
    (funext fun s => capture_config s "vllm:cache_config_info")

/-- Every start time on a page is a number. -/
theorem parse_processStart (page : MetricsPage) :
    ∀ item ∈ findall processStartPattern page.text,
      (PyJson.Float.parse item).isSome := by
  intro item hitem
  have hpage : findall processStartPattern page.text = _ :=
    findall_page (by decide) (List.all_eq_true.mp (by decide))
      matchValue_nameEnds matchValue_tail page.lines
  rw [hpage] at hitem
  obtain ⟨s, -, hs⟩ := List.mem_filterMap.mp hitem
  split at hs
  · unfold processStartCapture at hs
    split at hs
    · obtain ⟨d, -, rfl⟩ := plainNumber_eq hs
      rw [d.parse_text]
      rfl
    · cases hs
  · cases hs

/-- The samples that are seen convert to their values. -/
theorem mapM_float {ss : List Sample} (hplain : ∀ s ∈ ss, plainSample s)
    (hfinite : ∀ s ∈ ss, ∃ q, s.value.number = some q
      ∧ |q| < PyJson.Float.limit) :
    (ss.map fun s => s.value.text).mapM float
      = .ok ((ss.filterMap fun s => s.value.number).map PyJson.Float.finite) := by
  induction ss with
  | nil => rfl
  | cons s ss ih =>
      have hcapture := hplain s (List.mem_cons_self ..)
      unfold plainSample at hcapture
      rw [Bool.and_eq_true] at hcapture
      obtain ⟨number, hnumber⟩ := Option.isSome_iff_exists.mp hcapture.2
      obtain ⟨d, hvalue, -⟩ := metricCapture_eq hnumber
      obtain ⟨q, hq, hrange⟩ := hfinite s (List.mem_cons_self ..)
      have hfloat : float s.value.text = .ok (.finite q) := by
        rw [hvalue] at hq ⊢
        injection hq with hq
        show float d.text = _
        unfold float
        rw [d.parse_text, hq, PyJson.Float.ofRat_of_lt hrange]
      have hrest := ih (fun t ht => hplain t (List.mem_cons_of_mem _ ht))
        fun t ht => hfinite t (List.mem_cons_of_mem _ ht)
      have hcons : (s :: ss).filterMap (fun s => s.value.number)
          = q :: ss.filterMap fun s => s.value.number :=
        List.filterMap_cons_some hq
      rw [List.map_cons, List.mapM_cons, Fault.bind_ok hfloat,
        Fault.bind_ok hrest, hcons]
      rfl

/-- They all parse, to their values. -/
theorem floats_page (page : MetricsPage) (hmetric : IsMetricName metric)
    (hspec : metric ∈ metricSpecs.map fun spec => spec.2.1) :
    (findall (metricPattern metric) page.text).mapM float
      = .ok ((page.plainValues metric).map PyJson.Float.finite) := by
  obtain ⟨spec, hspec, hname⟩ := List.mem_map.mp hspec
  rw [findall_metric page hmetric]
  refine mapM_float (fun s hs => (List.mem_filter.mp hs).2) fun s hs => ?_
  obtain ⟨hmem, hs⟩ := List.mem_filter.mp (List.mem_filter.mp hs).1
  refine page.finite s hmem spec hspec ?_
  rw [hname]
  exact of_decide_eq_true hs

/-- What is read of a metric: nothing where no sample is seen, and else the
reduced values of those that are. -/
theorem readMetric_page {β : Type} (page : MetricsPage)
    (hmetric : IsMetricName metric)
    (hspec : metric ∈ metricSpecs.map fun spec => spec.2.1) {reducer : Reducer}
    {field : PyJson.Float → Except PyJson.Exc β} {value : Option β}
    (h : readMetric page.text metric reducer field = .ok value) :
    (page.plainValues metric = [] → value = none)
      ∧ (page.plainValues metric ≠ [] →
        ∃ q qs b, page.plainValues metric = q :: qs
          ∧ field (reducer.apply (.finite q) (qs.map PyJson.Float.finite)) = .ok b
          ∧ value = some b) := by
  unfold readMetric at h
  rw [reduceMatches_eq, floats_page page hmetric hspec] at h
  cases hplain : page.plainValues metric with
  | nil =>
      rw [hplain] at h
      injection h with h
      exact ⟨fun _ => h.symm, fun hne => absurd rfl hne⟩
  | cons q qs =>
      rw [hplain] at h
      refine ⟨fun hnil => absurd hnil (List.cons_ne_nil q qs),
        fun _ => ⟨q, qs, ?_⟩⟩
      change some <$> field (reducer.apply (.finite q)
        (qs.map PyJson.Float.finite)) = .ok value at h
      cases hfield : field (reducer.apply (.finite q)
          (qs.map PyJson.Float.finite)) with
      | error error =>
          rw [hfield] at h
          cases h
      | ok b =>
          rw [hfield] at h
          injection h with h
          exact ⟨b, rfl, rfl, h.symm⟩

/-- Seen and missed values are all the values. -/
theorem values_perm (page : MetricsPage) (metric : String) :
    (page.plainValues metric ++ page.missedValues metric).Perm
      (page.values metric) := by
  unfold MetricsPage.plainValues MetricsPage.missedValues MetricsPage.values
  rw [← List.filterMap_append]
  exact (List.filter_append_perm plainSample _).filterMap _

/-- A sum of request counts is a request count. -/
theorem exists_int_sum {qs : List ℚ} (h : ∀ q ∈ qs, ∃ n : ℤ, (n : ℚ) = q) :
    ∃ n : ℤ, (n : ℚ) = qs.sum := by
  induction qs with
  | nil => exact ⟨0, by simp⟩
  | cons q qs ih =>
      obtain ⟨n, hn⟩ := h q (List.mem_cons_self ..)
      obtain ⟨m, hm⟩ := ih fun r hr => h r (List.mem_cons_of_mem _ hr)
      exact ⟨n + m, by rw [Int.cast_add, hn, hm, List.sum_cons]⟩

/-- A request count against the samples on the page. -/
theorem count_agrees (page : MetricsPage) (hmetric : IsMetricName metric)
    (hspec : metric ∈ metricSpecs.map fun spec => spec.2.1)
    (hcount : metric
      ∈ ["vllm:num_requests_running", "vllm:num_requests_waiting"])
    {n : Option ℤ}
    (hread : readMetric page.text metric .sum (·.toInt) = .ok n)
    (before : Option ℤ) {after : Option ℤ}
    (hafter : after = n.or before) :
    SumRead (page.values metric) (after = before)
        (fun q => ∃ n : ℤ, after = some n ∧ (n : ℚ) = q)
      ↔ SumAgrees (fun q => ∃ n : ℤ, before = some n ∧ (n : ℚ) = q)
        (page.plainValues metric) (page.missedValues metric) := by
  -- a count is exported as a whole number, so its sum is one, and `int` loses
  -- nothing of it
  have hint : ∀ q ∈ page.plainValues metric, ∃ n : ℤ, (n : ℚ) = q := by
    intro q hq
    obtain ⟨s, hs, hnumber⟩ := List.mem_filterMap.mp hq
    obtain ⟨hmem, hname⟩ := List.mem_filter.mp (List.mem_filter.mp hs).1
    exact page.integral s hmem metric hcount (of_decide_eq_true hname) q hnumber
  obtain ⟨hnone, hsome⟩ := readMetric_page page hmetric hspec hread
  refine sumRead_iff (values_perm page metric) (fun hnil => ?_) fun hne q => ?_
  · rw [hafter, hnone hnil, Option.none_or]
    exact ⟨rfl, fun _ => Iff.rfl⟩
  · obtain ⟨p, ps, m, hcons, hm, hsome⟩ := hsome hne
    obtain ⟨z, hz⟩ := exists_int_sum hint
    obtain ⟨r, hsum⟩ := toInt_ok_iff.mp ⟨m, hm⟩
    have hsum' : PyJson.Float.sum ((page.plainValues metric).map
        PyJson.Float.finite) = .finite r := by
      rw [hcons]
      exact hsum
    obtain ⟨hrange, hr⟩ := PyJson.Float.sum_eq_finite_iff.mp hsum'
    -- so what is stored is the sum of what was found
    have hmz : m = z := by
      have hint : PyJson.Float.toInt (.finite r) = .ok m := hsum ▸ hm
      rw [← hr, ← hz] at hint
      injection hint with hint
      rw [← hint]
      simp
    rw [hafter, hsome, Option.some_or, hmz]
    constructor
    · rintro ⟨n, hn, hq⟩
      injection hn with hn
      rw [← hn, hz] at hq
      exact ⟨hrange, hq⟩
    · rintro ⟨-, hq⟩
      exact ⟨z, rfl, hz.trans hq⟩

/-- A counter against the samples on the page. -/
theorem total_agrees (page : MetricsPage) (hmetric : IsMetricName metric)
    (hspec : metric ∈ metricSpecs.map fun spec => spec.2.1)
    {x : Option PyJson.Float}
    (hread : readMetric page.text metric .sum .ok = .ok x)
    (before : PyJson.Float) {after : PyJson.Float}
    (hafter : after = x.getD before) :
    SumRead (page.values metric) (after = before)
        (fun q => after = .finite q)
      ↔ SumAgrees (fun q => before = .finite q) (page.plainValues metric)
        (page.missedValues metric) := by
  obtain ⟨hnone, hsome⟩ := readMetric_page page hmetric hspec hread
  refine sumRead_iff (values_perm page metric) (fun hnil => ?_) fun hne q => ?_
  · rw [hafter, hnone hnil, Option.getD_none]
    exact ⟨rfl, fun _ => Iff.rfl⟩
  · obtain ⟨p, ps, y, hcons, hy, hsome⟩ := hsome hne
    injection hy with hy
    rw [hafter, hsome, Option.getD_some, ← hy, hcons]
    show PyJson.Float.sum ((p :: ps).map PyJson.Float.finite) = .finite q ↔ _
    exact PyJson.Float.sum_eq_finite_iff

/-- The cache usage against the samples on the page. -/
theorem usage_agrees (page : MetricsPage) (hmetric : IsMetricName metric)
    (hspec : metric ∈ metricSpecs.map fun spec => spec.2.1)
    {x : Option PyJson.Float}
    (hread : readMetric page.text metric .max .ok = .ok x)
    (before : Option PyJson.Float) {after : Option PyJson.Float}
    (hafter : after = x.or before) :
    MaxRead (page.values metric) (after = before)
        (fun q => after = some (.finite q))
      ↔ MaxAgrees (fun q => before = some (.finite q)) (page.plainValues metric)
        (page.missedValues metric) := by
  obtain ⟨hnone, hsome⟩ := readMetric_page page hmetric hspec hread
  refine maxRead_iff (values_perm page metric) (fun hnil => ?_) fun hne => ?_
  · rw [hafter, hnone hnil, Option.none_or]
    exact ⟨rfl, fun _ => Iff.rfl⟩
  · obtain ⟨p, ps, y, hcons, hy, hsome⟩ := hsome hne
    injection hy with hy
    rw [hafter, hsome, Option.some_or, ← hy, hcons]
    refine ⟨⟨_, congrArg some (PyJson.Float.max_finite p ps)⟩, fun q => ?_⟩
    rw [Option.some.injEq]
    exact PyJson.Float.max_eq_finite_iff

end Metric

-- =============================================================== configs

section Config

variable {digits : DecimalDigits}

/-- A search in a line finds what its labels have first. -/
theorem search_sample {name : String} (hname : IsLabelName name) (s : Sample) :
    Scan.search (digitsPattern digits name) (inside s)
      = searchedDigits digits name s := by
  unfold inside searchedDigits Sample.labels
  cases s.braces with
  | none => exact digitsPattern_of_stops hname (Scan.stops_nil _)
  | some b => exact search_inside hname b

theorem searchInt_eq {name : String} {labels : List Char} {n : Option ℕ}
    (h : searchInt digits name labels = .ok n) :
    n = (Scan.search (digitsPattern digits name) labels).map digits.number := by
  unfold searchInt at h
  cases hsearch : Scan.search (digitsPattern digits name) labels with
  | none =>
      rw [hsearch] at h
      injection h with h
      exact h.symm
  | some ds =>
      rw [hsearch] at h
      dsimp only at h
      unfold DecimalDigits.int at h
      split at h
      · cases h
      · injection h with h
        exact h.symm

theorem numGpuBlocks_isLabelName : IsLabelName "num_gpu_blocks" :=
  ⟨by decide, List.all_eq_true.mp (by decide)⟩

theorem blockSize_isLabelName : IsLabelName "block_size" :=
  ⟨by decide, List.all_eq_true.mp (by decide)⟩

/-- What is read of the config samples on a page. -/
theorem readConfigs_page (page : MetricsPage)
    {configs : List (Option ℕ × Option ℕ)}
    (h : (findall configPattern page.text).mapM (readConfig digits)
      = .ok configs) :
    configs = page.plainConfigs.map fun s =>
      ((searchedDigits digits "num_gpu_blocks" s).map digits.number,
        (searchedDigits digits "block_size" s).map digits.number) := by
  rw [findall_config] at h
  have hmap := Fault.eq_map_of_mapM (g := fun labels =>
    ((Scan.search (digitsPattern digits "num_gpu_blocks") labels).map
        digits.number,
      (Scan.search (digitsPattern digits "block_size") labels).map
        digits.number)) h fun labels _ config hconfig => by
    obtain ⟨blocks, hblocks, hconfig⟩ := Fault.exists_of_bind hconfig
    cases hsize : searchInt digits "block_size" labels with
    | error error =>
        rw [hsize] at hconfig
        cases hconfig
    | ok size =>
        rw [hsize] at hconfig
        injection hconfig with hconfig
        rw [← hconfig, searchInt_eq hblocks, searchInt_eq hsize]
  rw [hmap, List.map_map]
  refine List.map_congr_left fun s _ => ?_
  dsimp only [Function.comp_apply]
  rw [search_sample numGpuBlocks_isLabelName, search_sample blockSize_isLabelName]

/-- Whether the numbers in the labels can be converted. -/
theorem labels_page (page : MetricsPage) :
    (∀ labels ∈ findall configPattern page.text,
        ∀ name ∈ ["num_gpu_blocks", "block_size"],
          ∀ ds, Scan.search (digitsPattern digits name) labels = some ds →
            ds.length ≤ 4300)
      ↔ ∀ s ∈ page.plainConfigs,
        ∀ name ∈ ["num_gpu_blocks", "block_size"],
          ∀ ds, searchedDigits digits name s = some ds → ds.length ≤ 4300 := by
  rw [findall_config, List.forall_mem_map]
  refine forall₂_congr fun s _ => ?_
  rw [List.forall_mem_cons, List.forall_mem_singleton, List.forall_mem_cons,
    List.forall_mem_singleton, search_sample numGpuBlocks_isLabelName,
    search_sample blockSize_isLabelName]

/-- Two ways of reading the blocks, for a node that keeps what it has
where there are none. -/
theorem blocks_agree {seen total : ℕ} {before : Option ℤ} :
    (if 0 < seen then some (seen : ℤ) else before)
        = (if 0 < total then some (total : ℤ) else before)
      ↔ seen = total ∨ (seen = 0 ∧ before = some (total : ℤ))
        ∨ (total = 0 ∧ before = some (seen : ℤ)) := by
  rcases Nat.eq_zero_or_pos seen with rfl | hseen
  · rcases Nat.eq_zero_or_pos total with rfl | htotal
    · exact iff_of_true rfl (.inl rfl)
    · rw [if_neg (Nat.lt_irrefl 0), if_pos htotal]
      constructor
      · intro h
        exact .inr (.inl ⟨rfl, h⟩)
      · rintro (h | ⟨-, h⟩ | ⟨h, -⟩)
        · omega
        · exact h
        · omega
  · rcases Nat.eq_zero_or_pos total with rfl | htotal
    · rw [if_pos hseen, if_neg (Nat.lt_irrefl 0)]
      constructor
      · intro h
        exact .inr (.inr ⟨rfl, h.symm⟩)
      · rintro (h | ⟨h, -⟩ | ⟨-, h⟩)
        · omega
        · omega
        · exact h.symm
    · rw [if_pos hseen, if_pos htotal, Option.some.injEq, Nat.cast_inj]
      constructor
      · exact .inl
      · rintro (h | ⟨h, -⟩ | ⟨h, -⟩)
        · exact h
        · omega
        · omega

/-- When what was stored is what the page says. -/
theorem blockSize_agrees {seen exact : Option ℕ} {before : Option ℤ} :
    (seen.map (↑)).or before = (exact.map (↑)).or before
      ↔ seen = exact ∨ (seen = none ∧ before = exact.map (↑))
        ∨ (exact = none ∧ before = seen.map (↑)) := by
  cases seen with
  | none =>
      cases exact with
      | none => exact iff_of_true rfl (.inl rfl)
      | some size => simp
  | some n =>
      cases exact with
      | none => simp [eq_comm]
      | some size => simp

end Config

-- ============================================================= the pages

theorem running_isMetricName : IsMetricName "vllm:num_requests_running" :=
  ⟨by decide, List.all_eq_true.mp (by decide)⟩

theorem waiting_isMetricName : IsMetricName "vllm:num_requests_waiting" :=
  ⟨by decide, List.all_eq_true.mp (by decide)⟩

theorem usage_isMetricName : IsMetricName "vllm:kv_cache_usage_perc" :=
  ⟨by decide, List.all_eq_true.mp (by decide)⟩

theorem queries_isMetricName :
    IsMetricName "vllm:external_prefix_cache_queries_total" :=
  ⟨by decide, List.all_eq_true.mp (by decide)⟩

theorem hits_isMetricName :
    IsMetricName "vllm:external_prefix_cache_hits_total" :=
  ⟨by decide, List.all_eq_true.mp (by decide)⟩

/-- Every metric of the list is a name the patterns can tell from others. -/
theorem isMetricName_of_mem : ∀ spec ∈ metricSpecs, IsMetricName spec.2.1 := by
  unfold metricSpecs
  rw [List.forall_mem_cons, List.forall_mem_cons, List.forall_mem_cons,
    List.forall_mem_cons, List.forall_mem_singleton]
  exact ⟨running_isMetricName, waiting_isMetricName, usage_isMetricName,
    queries_isMetricName, hits_isMetricName⟩

/-- A sum that is read right is in range. -/
theorem inRange_of_sumAgrees {kept : ℚ → Prop} {plain missed : List ℚ}
    (h : SumAgrees kept plain missed) : PyJson.Float.InRange 0 plain := by
  unfold SumAgrees at h
  split at h
  · rename_i hnil
    rw [hnil]
    trivial
  · exact h.1

/-- Whether the sum of the values that are seen is in range. -/
theorem counts_page (page : MetricsPage) {metric : String}
    (hmetric : IsMetricName metric)
    (hspec : metric ∈ metricSpecs.map fun spec => spec.2.1) :
    (∀ xs, (findall (metricPattern metric) page.text).mapM float = .ok xs →
        ∃ q, PyJson.Float.sum xs = .finite q)
      ↔ PyJson.Float.InRange 0 (page.plainValues metric) := by
  rw [floats_page page hmetric hspec]
  constructor
  · intro h
    obtain ⟨q, hq⟩ := h _ rfl
    exact (PyJson.Float.sum_eq_finite_iff.mp hq).1
  · intro h xs hxs
    injection hxs with hxs
    rw [← hxs]
    exact ⟨_, PyJson.Float.sum_of_inRange h⟩

namespace MetricsPage

variable {digits : DecimalDigits} {page : MetricsPage}

/-- What has to be converted on a page: its sums and the numbers in its
labels. -/
theorem convertible_iff :
    Convertible digits page.text
      ↔ (PyJson.Float.InRange 0 (page.plainValues "vllm:num_requests_running")
          ∧ PyJson.Float.InRange 0
            (page.plainValues "vllm:num_requests_waiting"))
        ∧ ∀ s ∈ page.plainConfigs, ∀ name ∈ ["num_gpu_blocks", "block_size"],
          ∀ ds, searchedDigits digits name s = some ds → ds.length ≤ 4300 := by
  rw [← counts_page page running_isMetricName (by decide),
    ← counts_page page waiting_isMetricName (by decide), ← labels_page]
  constructor
  · intro h
    have hcounts := h.counts
    rw [List.forall_mem_cons, List.forall_mem_singleton] at hcounts
    exact ⟨hcounts, h.labels⟩
  · rintro ⟨hcounts, hlabels⟩
    refine ⟨fun sample hlast => ?_, fun spec hspec item hitem => ?_, ?_, hlabels⟩
    · exact parse_processStart page sample (List.mem_of_mem_getLast? hlast)
    · have hfloats := floats_page page (isMetricName_of_mem spec hspec)
        (List.mem_map_of_mem hspec)
      exact float_ok_iff.mp (Fault.exists_ok_of_mapM hfloats hitem)
    · rw [List.forall_mem_cons, List.forall_mem_singleton]
      exact hcounts

/-- A page that is read is extracted right if and only if what is not seen
of it changes nothing. -/
theorem extracted_iff {r : Reading} (hread : readPage digits page.text = .ok r)
    (now : ℚ) (node : PolledNode) :
    page.Extracted digits node (node.applied r now)
      ↔ page.ReadAlike digits node := by
  have hlabels := (convertible_iff.mp (readPage_ok_iff.mp ⟨r, hread⟩)).2
  have hparts := readPage_eq_ok_iff.mp hread
  -- what is stored, field by field; each agrees with the page on its own
  obtain ⟨start, catalog, last, happlied⟩ := node.applied_eq r now
  have hrunning := count_agrees page running_isMetricName (by decide)
    (by decide) hparts.runningRequests node.runningRequests rfl
  have hwaiting := count_agrees page waiting_isMetricName (by decide)
    (by decide) hparts.waitingRequests node.waitingRequests rfl
  have husage := usage_agrees page usage_isMetricName (by decide)
    hparts.kvCacheUsage node.kvCacheUsage rfl
  have hqueries := total_agrees page queries_isMetricName (by decide)
    hparts.lmcacheQueries node.lmcacheQueries rfl
  have hhits := total_agrees page hits_isMetricName (by decide)
    hparts.lmcacheHits node.lmcacheHits rfl
  -- the sums over the configuration lines are of the same lines
  have hconfigs := readConfigs_page page hparts.configs
  have htotal : r.totalBlocks = page.seenBlocks digits := by
    unfold Reading.totalBlocks seenBlocks
    rw [hconfigs, List.map_map]
    rfl
  have hsize : r.blockSize = page.seenBlockSize digits := by
    unfold Reading.blockSize seenBlockSize
    rw [hconfigs, List.filterMap_map]
    rfl
  rw [happlied, htotal, hsize]
  constructor
  · intro h
    exact
      { running := hrunning.mp h.running
        waiting := hwaiting.mp h.waiting
        usage := husage.mp h.usage
        queries := hqueries.mp h.queries
        hits := hhits.mp h.hits
        totalBlocks := blocks_agree.mp h.totalBlocks
        blockSize := blockSize_agrees.mp h.blockSize
        labels := hlabels }
  · intro h
    exact
      { running := hrunning.mpr h.running
        waiting := hwaiting.mpr h.waiting
        usage := husage.mpr h.usage
        queries := hqueries.mpr h.queries
        hits := hhits.mpr h.hits
        totalBlocks := blocks_agree.mpr h.totalBlocks
        blockSize := blockSize_agrees.mpr h.blockSize }

end MetricsPage

/-- The figures of a page are read right if and only if the samples that
are not seen and the labels that are taken for others change nothing, and
what is seen can be converted. -/
theorem reads_right_iff (digits : DecimalDigits) (now : ℚ)
    (page : MetricsPage) (node : PolledNode) :
    page.ReadsRight digits now node ↔ page.ReadAlike digits node := by
  constructor
  · rintro ⟨after, hupdate, hextracted⟩
    cases hread : readPage digits page.text with
    | error error =>
        have hraised := updateMetricsText_raises hread now node
        rw [hupdate] at hraised
        cases hraised
    | ok r =>
        rw [updateMetricsText_of_read hread now node] at hupdate
        injection hupdate with hafter
        rw [← hafter] at hextracted
        exact (MetricsPage.extracted_iff hread now node).mp hextracted
  · intro h
    have hconvertible : Convertible digits page.text :=
      MetricsPage.convertible_iff.mpr
        ⟨⟨inRange_of_sumAgrees h.running, inRange_of_sumAgrees h.waiting⟩,
          h.labels⟩
    obtain ⟨r, hread⟩ := readPage_ok_iff.mpr hconvertible
    exact ⟨node.applied r now, updateMetricsText_of_read hread now node,
      (MetricsPage.extracted_iff hread now node).mpr h⟩

-- ===================================================== a longer label name

/-- The labels `{mamba_block_size="512",block_size="16"}`. -/
def sizeLabels : List Label :=
  [{ lead := .none
     name := ⟨"mamba_block_size".toList, by decide, fun c hc => by cases hc; rfl,
       List.all_eq_true.mp (by decide)⟩
     beforeEquals := .none
     afterEquals := .none
     value := "512".toList
     trail := .none },
   { lead := .none
     name := ⟨"block_size".toList, by decide, fun c hc => by cases hc; rfl,
       List.all_eq_true.mp (by decide)⟩
     beforeEquals := .none
     afterEquals := .none
     value := "16".toList
     trail := .none }]

def sizeSample : Sample where
  lead := .none
  name := ⟨"vllm:cache_config_info".toList, by decide,
    fun c hc => by cases hc; rfl, List.all_eq_true.mp (by decide)⟩
  braces := some ⟨.none, sizeLabels, false, .none, by decide⟩
  gap := ⟨[' '], by simp [isBlank]⟩
  value := .decimal ⟨.none, ['1'], none, none, by decide, by simp, by simp⟩
  trail := .none
  separated := fun h => by cases h

theorem sizeSample_name : ∀ metric ∈ metricSpecs.map fun spec => spec.2.1,
    sizeSample.name.text ≠ metric.toList := by
  decide

/-- A page whose only sample has the two sizes. -/
def sizePage : MetricsPage where
  lines := [.sample sizeSample]
  finite := by
    intro s hs spec hspec hname
    rw [List.mem_singleton.mp hs] at hname
    exact absurd hname (sizeSample_name _ (List.mem_map_of_mem hspec))
  integral := by
    intro s hs metric hmetric hname
    rw [List.mem_singleton.mp hs] at hname
    have hspec : metric ∈ metricSpecs.map fun spec => spec.2.1 :=
      List.mem_append_left [_, _, _] hmetric
    exact absurd hname (sizeSample_name metric hspec)

/-- The search for the block size takes the end of a longer name. -/
theorem sizePage_misread :
    ∃ after, updateMetricsText .asciiOnly sizePage.text 0 {} = (after, none)
      ∧ after.gpuBlockSize = some 512
      ∧ sizePage.blockSize .asciiOnly = some 16
      ∧ ¬ sizePage.ReadsRight .asciiOnly 0 {} := by
  have hread : (updateMetricsText .asciiOnly sizePage.text 0 {}).1.gpuBlockSize
      = some 512 := by decide +kernel
  have hnone : (updateMetricsText .asciiOnly sizePage.text 0 {}).2 = none := by
    decide +kernel
  have hsize : sizePage.blockSize .asciiOnly = some 16 := by decide +kernel
  refine ⟨_, Prod.ext rfl hnone, hread, hsize, ?_⟩
  rintro ⟨after, hupdate, hextracted⟩
  have hafter := hextracted.blockSize
  rw [hupdate] at hread
  rw [hread, hsize] at hafter
  injection hafter with hafter
  cases hafter

end Kareserve
