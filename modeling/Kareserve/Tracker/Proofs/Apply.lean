/-
A metrics page against what it reads as a whole.

`update_metrics_text` writes fields while later samples are still to be
converted. `readPage` is the page evaluated first and as a whole, and
`PolledNode.applied` the update with everything that was read; the code
does this update if the page can be read, and raises what the reading
raises if not (`updateMetricsText_of_read`, `updateMetricsText_raises`).

# What cannot be converted

The patterns admit more than numbers, sums that leave the range of a float
and more digits than `int` takes. A page without these is `Convertible`.
Every exception on such a page is one `poll_metrics` does not handle, so
the polling of all nodes ends with the first page that is not.
-/
import Kareserve.Tracker.Metrics

namespace Kareserve

open PyJson (Exc)

-- ============================================================ the reading

/-- What a page says. -/
structure Reading where
  processStart : Option PyJson.Float
  runningRequests : Option ℤ
  waitingRequests : Option ℤ
  kvCacheUsage : Option PyJson.Float
  lmcacheQueries : Option PyJson.Float
  lmcacheHits : Option PyJson.Float
  /-- `num_gpu_blocks` and `block_size` of each config sample. -/
  configs : List (Option ℕ × Option ℕ)

namespace Reading

/-- The blocks of all config samples. -/
def totalBlocks (r : Reading) : ℕ := (r.configs.map (·.1.getD 0)).sum

/-- The last block size. -/
def blockSize (r : Reading) : Option ℕ :=
  (r.configs.filterMap Prod.snd).getLast?

end Reading

/-- A node after a page that says `r`. -/
def PolledNode.applied (node : PolledNode) (r : Reading) (now : ℚ) :
    PolledNode :=
  let node := r.processStart.elim node fun start => node.storeProcessStart start
  let node :=
    { node with
      runningRequests := r.runningRequests.or node.runningRequests
      waitingRequests := r.waitingRequests.or node.waitingRequests
      kvCacheUsage := r.kvCacheUsage.or node.kvCacheUsage
      lmcacheQueries := r.lmcacheQueries.getD node.lmcacheQueries
      lmcacheHits := r.lmcacheHits.getD node.lmcacheHits }
  let node := (node.storeBlockSize r.blockSize).storeTotalBlocks r.totalBlocks
  { node with metricsStatus := .available, metricsUpdatedAt := some now }

/-- The fields of a node after a page. -/
theorem PolledNode.applied_eq (node : PolledNode) (r : Reading) (now : ℚ) :
    ∃ start catalog last, node.applied r now =
      { runningRequests := r.runningRequests.or node.runningRequests
        waitingRequests := r.waitingRequests.or node.waitingRequests
        kvCacheUsage := r.kvCacheUsage.or node.kvCacheUsage
        lmcacheQueries := r.lmcacheQueries.getD node.lmcacheQueries
        lmcacheHits := r.lmcacheHits.getD node.lmcacheHits
        gpuTotalBlocks :=
          if 0 < r.totalBlocks then some (r.totalBlocks : ℤ)
          else node.gpuTotalBlocks
        gpuBlockSize := (r.blockSize.map (↑)).or node.gpuBlockSize
        metricsStatus := .available
        metricsUpdatedAt := some now
        processStartTimeSeconds := start
        catalog := catalog
        lastSequence := last } := by
  have hstarted : ∃ start catalog last,
      (r.processStart.elim node fun start => node.storeProcessStart start)
        = { node with
            processStartTimeSeconds := start
            catalog := catalog
            lastSequence := last } := by
    cases r.processStart with
    | none => exact ⟨_, _, _, rfl⟩
    | some start =>
        unfold storeProcessStart
        dsimp only [Option.elim_some]
        split <;> exact ⟨_, _, _, rfl⟩
  obtain ⟨start, catalog, last, hstarted⟩ := hstarted
  refine ⟨start, catalog, last, ?_⟩
  unfold applied storeTotalBlocks
  dsimp only
  rw [hstarted]
  split <;> rfl

section Update

variable (digits : DecimalDigits) (metricsText : List Char)

/-- What the start time on a page comes to. -/
def readProcessStart : Except Exc (Option PyJson.Float) :=
  match (findall processStartPattern metricsText).getLast? with
  | none => .ok none
  | some sample => some <$> float sample

/-- A metric by its reducer, and the field made of the result. -/
def readMetric {β : Type} (metric : String) (reducer : Reducer)
    (field : PyJson.Float → Except Exc β) : Except Exc (Option β) := do
  match ← reduceMatches reducer (findall (metricPattern metric) metricsText) with
  | none => pure none
  | some value => some <$> field value

/-- What a configuration line comes to: its blocks and its block size. -/
def readConfig (labels : List Char) : Except Exc (Option ℕ × Option ℕ) :=
  searchInt digits "num_gpu_blocks" labels >>= fun blocks =>
    (fun blockSize => (blocks, blockSize))
      <$> searchInt digits "block_size" labels

/-- The page as a whole. -/
def readPage : Except Exc Reading := do
  let processStart ← readProcessStart metricsText
  let runningRequests ←
    readMetric metricsText "vllm:num_requests_running" .sum (·.toInt)
  let waitingRequests ←
    readMetric metricsText "vllm:num_requests_waiting" .sum (·.toInt)
  let kvCacheUsage ←
    readMetric metricsText "vllm:kv_cache_usage_perc" .max .ok
  let lmcacheQueries ←
    readMetric metricsText "vllm:external_prefix_cache_queries_total" .sum .ok
  let lmcacheHits ←
    readMetric metricsText "vllm:external_prefix_cache_hits_total" .sum .ok
  let configs ← (findall configPattern metricsText).mapM (readConfig digits)
  pure
    { processStart, runningRequests, waitingRequests, kvCacheUsage,
      lmcacheQueries, lmcacheHits, configs }

end Update

/-- `r` is what the parts of the page read as. -/
structure Reading.Of (digits : DecimalDigits) (metricsText : List Char)
    (r : Reading) : Prop where
  processStart : readProcessStart metricsText = .ok r.processStart
  runningRequests :
    readMetric metricsText "vllm:num_requests_running" .sum (·.toInt)
      = .ok r.runningRequests
  waitingRequests :
    readMetric metricsText "vllm:num_requests_waiting" .sum (·.toInt)
      = .ok r.waitingRequests
  kvCacheUsage :
    readMetric metricsText "vllm:kv_cache_usage_perc" .max .ok
      = .ok r.kvCacheUsage
  lmcacheQueries :
    readMetric metricsText "vllm:external_prefix_cache_queries_total" .sum .ok
      = .ok r.lmcacheQueries
  lmcacheHits :
    readMetric metricsText "vllm:external_prefix_cache_hits_total" .sum .ok
      = .ok r.lmcacheHits
  configs : (findall configPattern metricsText).mapM (readConfig digits)
    = .ok r.configs

section Update

variable {digits : DecimalDigits} {metricsText : List Char}

/-- When a page can be read, and what it says. -/
theorem readPage_eq_ok_iff {r : Reading} :
    readPage digits metricsText = .ok r ↔ r.Of digits metricsText := by
  constructor
  · intro h
    unfold readPage at h
    obtain ⟨processStart, hstart, h⟩ := Fault.exists_of_bind h
    obtain ⟨running, hrunning, h⟩ := Fault.exists_of_bind h
    obtain ⟨waiting, hwaiting, h⟩ := Fault.exists_of_bind h
    obtain ⟨usage, husage, h⟩ := Fault.exists_of_bind h
    obtain ⟨queries, hqueries, h⟩ := Fault.exists_of_bind h
    obtain ⟨hits, hhits, h⟩ := Fault.exists_of_bind h
    obtain ⟨configs, hconfigs, h⟩ := Fault.exists_of_bind h
    injection h with h
    rw [← h]
    exact ⟨hstart, hrunning, hwaiting, husage, hqueries, hhits, hconfigs⟩
  · intro h
    unfold readPage
    exact (Fault.bind_ok h.processStart _).trans <|
      (Fault.bind_ok h.runningRequests _).trans <|
      (Fault.bind_ok h.waitingRequests _).trans <|
      (Fault.bind_ok h.kvCacheUsage _).trans <|
      (Fault.bind_ok h.lmcacheQueries _).trans <|
      (Fault.bind_ok h.lmcacheHits _).trans (Fault.bind_ok h.configs _)

-- ============================================== the statements, by stages

/-- The start time is stored once it is read. -/
theorem updateProcessStart_stages (metricsText : List Char) :
    Stmt.Stages (updateProcessStart metricsText) (readProcessStart metricsText)
      fun start node => start.elim node fun start => node.storeProcessStart start := by
  unfold updateProcessStart readProcessStart
  cases (findall processStartPattern metricsText).getLast? with
  | none => exact .skip fun _ => rfl
  | some sample => exact .mapSome (.eval (float sample) _)

/-- A metric that is not there changes nothing. -/
theorem updateMetric_stages {β : Type} (metricsText : List Char)
    {field : MetricField} (metric : String) (reducer : Reducer)
    {read : PyJson.Float → Except Exc β}
    {store : Option β → PolledNode → PolledNode}
    (hnone : ∀ node, store none node = node)
    (hsome : ∀ value, Stmt.Stages (storeMetric field value) (read value)
      fun b => store (some b)) :
    Stmt.Stages (updateMetric metricsText (field, metric, reducer))
      (readMetric metricsText metric reducer read) store := by
  refine Stmt.Stages.evalBind fun value => ?_
  cases value with
  | none => exact .skip hnone
  | some value => exact .mapSome (hsome value)

theorem runningRequests_stages (metricsText : List Char) :
    Stmt.Stages
      (updateMetric metricsText
        (.runningRequests, "vllm:num_requests_running", .sum))
      (readMetric metricsText "vllm:num_requests_running" .sum (·.toInt))
      fun n node =>
        { node with runningRequests := n.or node.runningRequests } :=
  updateMetric_stages metricsText _ _ (fun _ => rfl) fun _ => .eval _ _

theorem waitingRequests_stages (metricsText : List Char) :
    Stmt.Stages
      (updateMetric metricsText
        (.waitingRequests, "vllm:num_requests_waiting", .sum))
      (readMetric metricsText "vllm:num_requests_waiting" .sum (·.toInt))
      fun n node =>
        { node with waitingRequests := n.or node.waitingRequests } :=
  updateMetric_stages metricsText _ _ (fun _ => rfl) fun _ => .eval _ _

theorem kvCacheUsage_stages (metricsText : List Char) :
    Stmt.Stages
      (updateMetric metricsText
        (.kvCacheUsage, "vllm:kv_cache_usage_perc", .max))
      (readMetric metricsText "vllm:kv_cache_usage_perc" .max .ok)
      fun x node => { node with kvCacheUsage := x.or node.kvCacheUsage } :=
  updateMetric_stages metricsText _ _ (fun _ => rfl) fun value =>
    .pure value fun x (node : PolledNode) =>
      { node with kvCacheUsage := some x }

theorem lmcacheQueries_stages (metricsText : List Char) :
    Stmt.Stages
      (updateMetric metricsText
        (.lmcacheQueries, "vllm:external_prefix_cache_queries_total", .sum))
      (readMetric metricsText "vllm:external_prefix_cache_queries_total" .sum
        .ok)
      fun x node =>
        { node with lmcacheQueries := x.getD node.lmcacheQueries } :=
  updateMetric_stages metricsText _ _ (fun _ => rfl) fun value =>
    .pure value fun x (node : PolledNode) =>
      { node with lmcacheQueries := x }

theorem lmcacheHits_stages (metricsText : List Char) :
    Stmt.Stages
      (updateMetric metricsText
        (.lmcacheHits, "vllm:external_prefix_cache_hits_total", .sum))
      (readMetric metricsText "vllm:external_prefix_cache_hits_total" .sum .ok)
      fun x node => { node with lmcacheHits := x.getD node.lmcacheHits } :=
  updateMetric_stages metricsText _ _ (fun _ => rfl) fun value =>
    .pure value fun x (node : PolledNode) =>
      { node with lmcacheHits := x }

/-- A configuration line stores its block size and adds its blocks. -/
theorem updateConfigSample_stages (digits : DecimalDigits)
    (labels : List Char) :
    Stmt.Stages (updateConfigSample digits labels) (readConfig digits labels)
      fun config => Prod.map (·.storeBlockSize config.2)
        (· + config.1.getD 0) :=
  .seq
    (.eval (searchInt digits "num_gpu_blocks" labels)
      fun (blocks : Option ℕ) => Prod.map id (· + blocks.getD 0))
    (.eval (searchInt digits "block_size" labels)
      fun blockSize => Prod.map (PolledNode.storeBlockSize blockSize) id)

theorem PolledNode.storeBlockSize_storeBlockSize (a b : Option ℕ)
    (node : PolledNode) :
    (node.storeBlockSize a).storeBlockSize b
      = node.storeBlockSize (b.or a) := by
  cases b <;> rfl

/-- The loop over the config samples: the blocks add up, and of the block
sizes the last one stays. -/
theorem foldl_config (configs : List (Option ℕ × Option ℕ))
    (state : PolledNode × ℕ) :
    configs.foldl (fun state config =>
        Prod.map (·.storeBlockSize config.2) (· + config.1.getD 0) state) state
      = (state.1.storeBlockSize (configs.filterMap Prod.snd).getLast?,
        state.2 + (configs.map (·.1.getD 0)).sum) := by
  induction configs generalizing state with
  | nil => rfl
  | cons config configs ih =>
      rw [List.foldl_cons, ih, List.map_cons, List.sum_cons]
      show ((state.1.storeBlockSize config.2).storeBlockSize _,
        state.2 + config.1.getD 0 + _) = _
      rw [PolledNode.storeBlockSize_storeBlockSize, Nat.add_assoc,
        List.filterMap_cons]
      cases config.2 with
      | none => rw [Option.or_none]
      | some size =>
          rw [List.getLast?_cons]
          cases (configs.filterMap Prod.snd).getLast? <;> rfl

/-- All of them: the last size counts, and the blocks add up. -/
theorem updateConfig_stages (digits : DecimalDigits)
    (metricsText : List Char) :
    Stmt.Stages (updateConfig digits metricsText)
      ((findall configPattern metricsText).mapM (readConfig digits))
      fun configs node =>
        (node.storeBlockSize (configs.filterMap Prod.snd).getLast?).storeTotalBlocks
          (configs.map (·.1.getD 0)).sum := by
  have hloop : Stmt.Stages
      (.forEach (findall configPattern metricsText) (updateConfigSample digits))
      ((findall configPattern metricsText).mapM (readConfig digits)) _ :=
    .forEach fun labels _ => updateConfigSample_stages digits labels
  refine ⟨fun configs hconfigs node => ?_, fun error herror node => ?_⟩
  · unfold updateConfig Stmt.withLocal
    rw [hloop.seq_ok hconfigs, foldl_config, Nat.zero_add]
    rfl
  · exact Stmt.seq_raised (hloop.of_error error herror (node, 0)) _

/-- The statement without its nesting. -/
theorem updateMetricsText_eq (digits : DecimalDigits)
    (metricsText : List Char) (now : ℚ) :
    updateMetricsText digits metricsText now
      = (updateProcessStart metricsText).seq
        ((updateMetric metricsText
            (.runningRequests, "vllm:num_requests_running", .sum)).seq
          ((updateMetric metricsText
              (.waitingRequests, "vllm:num_requests_waiting", .sum)).seq
            ((updateMetric metricsText
                (.kvCacheUsage, "vllm:kv_cache_usage_perc", .max)).seq
              ((updateMetric metricsText
                  (.lmcacheQueries, "vllm:external_prefix_cache_queries_total",
                    .sum)).seq
                ((updateMetric metricsText
                    (.lmcacheHits, "vllm:external_prefix_cache_hits_total",
                      .sum)).seq
                  ((updateConfig digits metricsText).seq
                    (.assign fun node =>
                      { node with
                        metricsStatus := .available
                        metricsUpdatedAt := some now }))))))) := by
  unfold updateMetricsText
  show (updateProcessStart metricsText).seq (Stmt.seq (Stmt.seq _ (Stmt.seq _
    (Stmt.seq _ (Stmt.seq _ (Stmt.seq _ (.assign id)))))) _) = _
  rw [Stmt.seq_assoc, Stmt.seq_assoc, Stmt.seq_assoc, Stmt.seq_assoc,
    Stmt.seq_assoc, Stmt.skip_seq]

-- ===================================================== the page as a whole

/-- A page that can be read is applied with everything it says. -/
theorem updateMetricsText_of_read {r : Reading}
    (h : readPage digits metricsText = .ok r) (now : ℚ) (node : PolledNode) :
    updateMetricsText digits metricsText now node
      = (node.applied r now, none) := by
  have hread := readPage_eq_ok_iff.mp h
  rw [updateMetricsText_eq,
    (updateProcessStart_stages metricsText).seq_ok hread.processStart,
    (runningRequests_stages metricsText).seq_ok hread.runningRequests,
    (waitingRequests_stages metricsText).seq_ok hread.waitingRequests,
    (kvCacheUsage_stages metricsText).seq_ok hread.kvCacheUsage,
    (lmcacheQueries_stages metricsText).seq_ok hread.lmcacheQueries,
    (lmcacheHits_stages metricsText).seq_ok hread.lmcacheHits,
    (updateConfig_stages digits metricsText).seq_ok hread.configs]
  rfl

/-- A page that cannot be read raises what its reading raises. -/
theorem updateMetricsText_raises {error : Exc}
    (h : readPage digits metricsText = .error error) (now : ℚ)
    (node : PolledNode) :
    (updateMetricsText digits metricsText now node).2 = some error := by
  unfold readPage at h
  rw [updateMetricsText_eq]
  refine (updateProcessStart_stages metricsText).seq_error h ?_ node
  intro _ _ h
  refine (runningRequests_stages metricsText).seq_error h ?_
  intro _ _ h
  refine (waitingRequests_stages metricsText).seq_error h ?_
  intro _ _ h
  refine (kvCacheUsage_stages metricsText).seq_error h ?_
  intro _ _ h
  refine (lmcacheQueries_stages metricsText).seq_error h ?_
  intro _ _ h
  refine (lmcacheHits_stages metricsText).seq_error h ?_
  intro _ _ h
  refine (updateConfig_stages digits metricsText).seq_error h ?_
  intro _ _ h
  cases h

-- ============================================== which pages can be read

/-- The page has no sample that cannot be converted. -/
structure Convertible (digits : DecimalDigits) (metricsText : List Char) :
    Prop where
  /-- The process start time that counts is a number. -/
  processStart : ∀ sample,
    (findall processStartPattern metricsText).getLast? = some sample →
      (PyJson.Float.parse sample).isSome
  /-- What the metric patterns match is a number. -/
  samples : ∀ spec ∈ metricSpecs,
    ∀ item ∈ findall (metricPattern spec.2.1) metricsText,
      (PyJson.Float.parse item).isSome
  /-- The request counts add up in the range of a float. -/
  counts : ∀ metric ∈ ["vllm:num_requests_running", "vllm:num_requests_waiting"],
    ∀ xs, (findall (metricPattern metric) metricsText).mapM float = .ok xs →
      ∃ q, PyJson.Float.sum xs = .finite q
  /-- The numbers found in the labels have no more than 4300 digits. -/
  labels : ∀ labels ∈ findall configPattern metricsText,
    ∀ name ∈ ["num_gpu_blocks", "block_size"],
      ∀ ds, Scan.search (digitsPattern digits name) labels = some ds →
        ds.length ≤ 4300

/-- `float` takes exactly what parses. -/
theorem float_ok_iff {item : List Char} :
    (∃ x, float item = .ok x) ↔ (PyJson.Float.parse item).isSome := by
  unfold float
  cases PyJson.Float.parse item with
  | none => exact iff_of_false (fun ⟨x, hx⟩ => by cases hx) (by decide)
  | some x => exact iff_of_true ⟨x, rfl⟩ rfl

/-- `int` of a float takes exactly the finite ones. -/
theorem toInt_ok_iff {x : PyJson.Float} :
    (∃ n, x.toInt = .ok n) ↔ ∃ q, x = .finite q := by
  cases x with
  | finite q => exact iff_of_true ⟨_, rfl⟩ ⟨q, rfl⟩
  | nan => exact iff_of_false (fun ⟨n, hn⟩ => by cases hn) fun ⟨q, hq⟩ => by cases hq
  | infinite s =>
      exact iff_of_false (fun ⟨n, hn⟩ => by cases hn) fun ⟨q, hq⟩ => by cases hq

/-- A start time can be read if the last one of the page parses. -/
theorem readProcessStart_ok_iff :
    (∃ start, readProcessStart metricsText = .ok start)
      ↔ ∀ sample,
        (findall processStartPattern metricsText).getLast? = some sample →
          (PyJson.Float.parse sample).isSome := by
  unfold readProcessStart
  cases (findall processStartPattern metricsText).getLast? with
  | none => exact iff_of_true ⟨none, rfl⟩ fun sample h => by cases h
  | some sample =>
      rw [Fault.map_ok_iff, float_ok_iff]
      constructor
      · intro h sample' heq
        injection heq with heq
        rw [← heq]
        exact h
      · intro h
        exact h sample rfl

/-- The reduction of the converted matches. -/
theorem reduceMatches_eq (reducer : Reducer) (items : List (List Char)) :
    reduceMatches reducer items
      = (fun xs => xs.head?.map fun x => reducer.apply x xs.tail)
        <$> items.mapM float := by
  cases items with
  | nil => rfl
  | cons item items =>
      rw [List.mapM_cons, reduceMatches]
      cases float item with
      | error error => rfl
      | ok x =>
          cases items.mapM float <;> rfl

/-- A metric is read if its matches are numbers and the field can be made
of the result. -/
theorem readMetric_ok_iff {β : Type} {metric : String} {reducer : Reducer}
    {field : PyJson.Float → Except Exc β} :
    (∃ value, readMetric metricsText metric reducer field = .ok value)
      ↔ (∀ item ∈ findall (metricPattern metric) metricsText,
          (PyJson.Float.parse item).isSome)
        ∧ ∀ x xs, (findall (metricPattern metric) metricsText).mapM float
            = .ok (x :: xs) → ∃ b, field (reducer.apply x xs) = .ok b := by
  have hitems : (∀ item ∈ findall (metricPattern metric) metricsText,
      (PyJson.Float.parse item).isSome)
      ↔ ∃ xs, (findall (metricPattern metric) metricsText).mapM float
        = .ok xs := by
    rw [Fault.mapM_ok_iff]
    exact forall₂_congr fun item _ => float_ok_iff.symm
  unfold readMetric
  rw [reduceMatches_eq, hitems]
  cases (findall (metricPattern metric) metricsText).mapM float with
  | error error =>
      exact iff_of_false (fun ⟨b, h⟩ => by cases h) fun ⟨⟨xs, h⟩, _⟩ => by cases h
  | ok xs =>
      cases xs with
      | nil => exact iff_of_true ⟨none, rfl⟩ ⟨⟨[], rfl⟩, fun x xs h => by cases h⟩
      | cons x xs =>
          show (∃ value, some <$> field (reducer.apply x xs) = .ok value) ↔ _
          rw [Fault.map_ok_iff]
          constructor
          · intro h
            refine ⟨⟨x :: xs, rfl⟩, fun x' xs' heq => ?_⟩
            injection heq with heq
            injection heq with hx hxs
            rw [← hx, ← hxs]
            exact h
          · intro h
            exact h.2 x xs rfl

/-- A number in a label can be read if it has at most 4300 digits. -/
theorem searchInt_ok_iff {name : String} {labels : List Char} :
    (∃ n, searchInt digits name labels = .ok n)
      ↔ ∀ ds, Scan.search (digitsPattern digits name) labels = some ds →
        ds.length ≤ 4300 := by
  unfold searchInt
  cases Scan.search (digitsPattern digits name) labels with
  | none => exact iff_of_true ⟨none, rfl⟩ fun ds h => by cases h
  | some ds =>
      rw [Fault.map_ok_iff]
      unfold DecimalDigits.int
      constructor
      · rintro ⟨n, hn⟩ ds' heq
        injection heq with heq
        rw [← heq]
        split at hn
        · cases hn
        · rename_i hlength
          exact not_lt.mp hlength
      · intro h
        exact ⟨_, if_neg (not_lt.mpr (h ds rfl))⟩

/-- A configuration line can be read if both of its numbers can. -/
theorem readConfig_ok_iff {labels : List Char} :
    (∃ config, readConfig digits labels = .ok config)
      ↔ ∀ name ∈ ["num_gpu_blocks", "block_size"],
        ∀ ds, Scan.search (digitsPattern digits name) labels = some ds →
          ds.length ≤ 4300 := by
  unfold readConfig
  rw [Fault.bind_ok_iff, List.forall_mem_cons, List.forall_mem_singleton,
    ← searchInt_ok_iff, ← searchInt_ok_iff]
  constructor
  · rintro ⟨blocks, hblocks, hsize⟩
    exact ⟨⟨blocks, hblocks⟩, Fault.map_ok_iff.mp hsize⟩
  · rintro ⟨⟨blocks, hblocks⟩, hsize⟩
    exact ⟨blocks, hblocks, Fault.map_ok_iff.mpr hsize⟩

/-- A metric can be read if all of its samples parse. -/
theorem readFloat_ok_iff {metric : String} {reducer : Reducer} :
    (∃ value, readMetric metricsText metric reducer .ok = .ok value)
      ↔ ∀ item ∈ findall (metricPattern metric) metricsText,
        (PyJson.Float.parse item).isSome := by
  rw [readMetric_ok_iff]
  exact and_iff_left fun x xs _ => ⟨_, rfl⟩

/-- A count can be read if its samples parse and their sum is finite. -/
theorem readCount_ok_iff {metric : String} :
    (∃ n, readMetric metricsText metric .sum (·.toInt) = .ok n)
      ↔ (∀ item ∈ findall (metricPattern metric) metricsText,
          (PyJson.Float.parse item).isSome)
        ∧ ∀ xs, (findall (metricPattern metric) metricsText).mapM float
            = .ok xs → ∃ q, PyJson.Float.sum xs = .finite q := by
  rw [readMetric_ok_iff]
  refine and_congr_right fun _ => ?_
  constructor
  · intro h xs hxs
    cases xs with
    | nil => exact ⟨0, rfl⟩
    | cons x xs => exact toInt_ok_iff.mp (h x xs hxs)
  · intro h x xs hxs
    exact toInt_ok_iff.mpr (h (x :: xs) hxs)

/-- The pages that can be read are the convertible ones. -/
theorem readPage_ok_iff :
    (∃ r, readPage digits metricsText = .ok r)
      ↔ Convertible digits metricsText := by
  -- each line by itself, as the first that fails ends the update
  have hconfigs : (∃ configs, (findall configPattern metricsText).mapM
        (readConfig digits) = .ok configs)
      ↔ ∀ labels ∈ findall configPattern metricsText,
        ∀ name ∈ ["num_gpu_blocks", "block_size"],
          ∀ ds, Scan.search (digitsPattern digits name) labels = some ds →
            ds.length ≤ 4300 := by
    rw [Fault.mapM_ok_iff]
    exact forall₂_congr fun labels _ => readConfig_ok_iff
  constructor
  · rintro ⟨r, h⟩
    have hread := readPage_eq_ok_iff.mp h
    -- what was read can be read, part by part
    have hrunning := readCount_ok_iff.mp ⟨_, hread.runningRequests⟩
    have hwaiting := readCount_ok_iff.mp ⟨_, hread.waitingRequests⟩
    have husage := readFloat_ok_iff.mp ⟨_, hread.kvCacheUsage⟩
    have hqueries := readFloat_ok_iff.mp ⟨_, hread.lmcacheQueries⟩
    have hhits := readFloat_ok_iff.mp ⟨_, hread.lmcacheHits⟩
    refine ⟨readProcessStart_ok_iff.mp ⟨_, hread.processStart⟩, ?_, ?_,
      hconfigs.mp ⟨_, hread.configs⟩⟩
    · unfold metricSpecs
      rw [List.forall_mem_cons, List.forall_mem_cons, List.forall_mem_cons,
        List.forall_mem_cons, List.forall_mem_singleton]
      exact ⟨hrunning.1, hwaiting.1, husage, hqueries, hhits⟩
    · rw [List.forall_mem_cons, List.forall_mem_singleton]
      exact ⟨hrunning.2, hwaiting.2⟩
  · intro h
    -- the samples of each metric, in the order of the specs
    have hsamples := h.samples
    unfold metricSpecs at hsamples
    rw [List.forall_mem_cons, List.forall_mem_cons, List.forall_mem_cons,
      List.forall_mem_cons, List.forall_mem_singleton] at hsamples
    obtain ⟨hrunning, hwaiting, husage, hqueries, hhits⟩ := hsamples
    have hcounts := h.counts
    rw [List.forall_mem_cons, List.forall_mem_singleton] at hcounts
    obtain ⟨_, hstart⟩ := readProcessStart_ok_iff.mpr h.processStart
    obtain ⟨_, hrunning⟩ := readCount_ok_iff.mpr ⟨hrunning, hcounts.1⟩
    obtain ⟨_, hwaiting⟩ := readCount_ok_iff.mpr ⟨hwaiting, hcounts.2⟩
    obtain ⟨_, husage⟩ := readFloat_ok_iff.mpr husage
    obtain ⟨_, hqueries⟩ := readFloat_ok_iff.mpr hqueries
    obtain ⟨_, hhits⟩ := readFloat_ok_iff.mpr hhits
    obtain ⟨_, hread⟩ := hconfigs.mpr h.labels
    exact ⟨⟨_, _, _, _, _, _, _⟩, readPage_eq_ok_iff.mpr
      ⟨hstart, hrunning, hwaiting, husage, hqueries, hhits, hread⟩⟩

end Update

-- ========================================================= all or nothing

/-- The page is applied completely, or nothing is, and the polling of the
nodes goes on. -/
structure AllOrNothing (digits : DecimalDigits) (now : ℚ)
    (metricsText : List Char) (node : PolledNode) : Prop where
  outcome :
    (∃ r, readPage digits metricsText = .ok r
      ∧ updateMetricsText digits metricsText now node
        = (node.applied r now, none))
    ∨ ∃ error, updateMetricsText digits metricsText now node
      = (node, some error)
  handled : ∀ error,
    (updateMetricsText digits metricsText now node).2 = some error →
      (PollError.other error).handled
  survives : (pollNode digits now (.page metricsText) node).2 = none

/-- What a page does to the loop body of `poll_metrics`. -/
theorem pollNode_page (digits : DecimalDigits) (now : ℚ)
    (metricsText : List Char) (node : PolledNode) :
    (pollNode digits now (.page metricsText) node).2
      = (updateMetricsText digits metricsText now node).2.map .other := by
  unfold pollNode Stmt.tryExcept Stmt.mapError
  dsimp only
  cases (updateMetricsText digits metricsText now node).2 <;> rfl

/-- A page is applied all or nothing, and polling survives it, if and only
if each sample on it can be converted. -/
theorem all_or_nothing_iff (digits : DecimalDigits) (now : ℚ)
    (metricsText : List Char) (node : PolledNode) :
    AllOrNothing digits now metricsText node
      ↔ Convertible digits metricsText := by
  rw [← readPage_ok_iff]
  constructor
  · intro h
    cases hread : readPage digits metricsText with
    | ok r => exact ⟨r, rfl⟩
    | error error =>
        have hraised := updateMetricsText_raises hread now node
        cases h.handled error hraised
  · rintro ⟨r, hread⟩
    have happlied := updateMetricsText_of_read hread now node
    refine ⟨.inl ⟨r, hread, happlied⟩, fun error herror => ?_, ?_⟩
    · rw [happlied] at herror
      cases herror
    · rw [pollNode_page, happlied]
      rfl

/-- A restarted process whose count leaves the range of a float. -/
def restartPage : List Char :=
  "process_start_time_seconds 2\nvllm:num_requests_running 1e999\n".toList

/-- The sequence number is dropped and the start time replaced, and then
the count raises. -/
theorem restart_page_half_applied :
    ∃ node : PolledNode, node.lastSequence = some 7
      ∧ (updateMetricsText .asciiOnly restartPage 0 node).1.lastSequence = none
      ∧ (updateMetricsText .asciiOnly restartPage 0 node).2 = some .overflowError
      ∧ ¬ AllOrNothing .asciiOnly 0 restartPage node := by
  let node : PolledNode :=
    { processStartTimeSeconds := some (.finite 1), lastSequence := some 7 }
  have hraised : (updateMetricsText .asciiOnly restartPage 0 node).2
      = some .overflowError := by decide +kernel
  refine ⟨node, rfl, by decide +kernel, hraised, fun h => ?_⟩
  cases h.handled .overflowError hraised

-- ============================================================ the polling

/-- The poll of a node raises on a page that cannot be converted, and only
then. -/
theorem pollNode_survives_iff (digits : DecimalDigits) (now : ℚ)
    (response : MetricsResponse) (node : PolledNode) :
    (pollNode digits now response node).2 = none
      ↔ ∀ metricsText, response = .page metricsText →
        Convertible digits metricsText := by
  cases response with
  | page metricsText =>
      rw [pollNode_page, Option.map_eq_none_iff]
      constructor
      · intro h metricsText' heq
        injection heq with heq
        rw [← heq]
        cases hread : readPage digits metricsText with
        | ok r => exact readPage_ok_iff.mp ⟨r, hread⟩
        | error error =>
            rw [updateMetricsText_raises hread now node] at h
            cases h
      · intro h
        obtain ⟨r, hread⟩ := readPage_ok_iff.mpr (h metricsText rfl)
        rw [updateMetricsText_of_read hread now node]
  | otherStatus => exact iff_of_true rfl fun _ h => by cases h
  | clientError => exact iff_of_true rfl fun _ h => by cases h
  | timeoutError => exact iff_of_true rfl fun _ h => by cases h

/-- Storing a page makes no node known. -/
theorem onPolledNode_known (nodeId nodeId' : NodeId)
    (c : Stmt PolledNode PollError) (nodes : PyDict NodeId PolledNode) :
    ((onPolledNode nodeId c nodes).1.get nodeId').isSome
      = (nodes.get nodeId').isSome := by
  unfold onPolledNode
  cases hnode : nodes.get nodeId with
  | none => rfl
  | some node =>
      dsimp only
      by_cases hid : nodeId' = nodeId
      · rw [hid, PyDict.get_set_self, hnode]
        rfl
      · rw [PyDict.get_set_of_ne _ hid]

/-- It raises where the node is known and its statement raises. -/
theorem onPolledNode_none_iff (nodeId : NodeId)
    (c : Stmt PolledNode PollError) (nodes : PyDict NodeId PolledNode) :
    (onPolledNode nodeId c nodes).2 = none
      ↔ ∀ node, nodes.get nodeId = some node → (c node).2 = none := by
  unfold onPolledNode
  cases nodes.get nodeId with
  | none => exact iff_of_true rfl fun _ h => by cases h
  | some node =>
      constructor
      · intro h node' heq
        injection heq with heq
        rw [← heq]
        exact h
      · intro h
        exact h node rfl

/-- A round of polling ends without an exception if and only if every page
that a known node answers with can be converted: one page that cannot ends
the polling of all nodes. -/
theorem pollRound_survives_iff (digits : DecimalDigits) (now : ℚ)
    (responses : List (NodeId × MetricsResponse))
    (nodes : PyDict NodeId PolledNode) :
    (pollRound digits now responses nodes).2 = none
      ↔ ∀ nodeId metricsText, (nodeId, .page metricsText) ∈ responses →
        (nodes.get nodeId).isSome → Convertible digits metricsText := by
  induction responses generalizing nodes with
  | nil => exact iff_of_true rfl fun _ _ h => by cases h
  | cons response responses ih =>
      obtain ⟨nodeId, response⟩ := response
      refine Stmt.seq_none_iff.trans ?_
      have hrest := ih (onPolledNode nodeId (pollNode digits now response) nodes).1
      simp only [onPolledNode_known] at hrest
      rw [onPolledNode_none_iff]
      refine (and_congr Iff.rfl hrest).trans ?_
      simp only [pollNode_survives_iff]
      constructor
      · rintro ⟨hfirst, hrest⟩ nodeId' metricsText hmem hknown
        rcases List.mem_cons.mp hmem with heq | hmem
        · injection heq with hid hpage
          obtain ⟨node, hnode⟩ := Option.isSome_iff_exists.mp hknown
          exact hfirst node (hid ▸ hnode) metricsText hpage.symm
        · exact hrest nodeId' metricsText hmem hknown
      · intro h
        refine ⟨fun node hnode metricsText hpage => ?_,
          fun nodeId' metricsText hmem =>
            h nodeId' metricsText (List.mem_cons_of_mem _ hmem)⟩
        refine h nodeId metricsText ?_ (by rw [hnode]; rfl)
        rw [hpage]
        exact List.mem_cons_self ..

-- ====================================================== the process start

/-- The node as the listeners' model has it. -/
structure PolledNode.Shows (node : PolledNode) (e : NodeEntry) : Prop where
  catalog : node.catalog = e.catalog
  lastSequence : node.lastSequence = e.lastSequence
  processStart : node.processStartTimeSeconds
    = e.node.processStartTimeSeconds.map .finite

/-- A page is to the listeners' model the start times on it. -/
theorem PolledNode.Shows.applied {node : PolledNode} {e : NodeEntry}
    (h : node.Shows e) {r : Reading} {starts : List ℚ}
    (hstart : r.processStart = starts.getLast?.map .finite) (now : ℚ) :
    (node.applied r now).Shows (e.updateProcessStart starts) := by
  have hshown : (r.processStart.elim node
      fun start => node.storeProcessStart start).Shows
      (e.updateProcessStart starts) := by
    rw [hstart]
    unfold NodeEntry.updateProcessStart
    cases hlast : starts.getLast? with
    | none => exact h
    | some start =>
        have hchanged : node.processStartTimeSeconds.any (.finite start ≠ ·)
            = e.startChanged starts := by
          unfold NodeEntry.startChanged
          rw [hlast, h.processStart]
          cases e.node.processStartTimeSeconds with
          | none => rfl
          | some known => simp
        show (node.storeProcessStart (.finite start)).Shows _
        unfold PolledNode.storeProcessStart
        rw [hchanged]
        cases e.startChanged starts with
        | true => exact ⟨rfl, rfl, rfl⟩
        | false => exact ⟨h.catalog, h.lastSequence, rfl⟩
  unfold PolledNode.applied PolledNode.storeTotalBlocks
  dsimp only
  split <;> exact ⟨hshown.catalog, hshown.lastSequence, hshown.processStart⟩

end Kareserve
