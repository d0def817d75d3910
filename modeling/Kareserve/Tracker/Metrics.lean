/-
`update_metrics_text` (`kareserve/tracker.py`) on the text of a metrics
page, and the round of `poll_metrics` (`kareserve/server.py`) around it.

# Patterns

The regular expressions are deterministic: each of their parts matches the
longest run of a set of characters that the next part has none of. So a
match is read off from left to right, and none of them matches the empty
text.

# Floats

`float(item)` is exact (Lib/PyFloat.lean), so the numbers on the page may
be infinite and may fail to convert. `PolledNode` has the fields of one
node the update touches, with floats where `NodeEntry` has rationals;
`PolledNode.Shows` is how the two agree on a process start time.
-/
import Kareserve.Lib.PyFloat
import Kareserve.Lib.Stmt
import Kareserve.Tracker.Basic

namespace Kareserve

open PyJson (Exc isNumberChar)

/-- The decimal digits `\d` stands for, with the values `int` gives them. -/
structure DecimalDigits where
  value : Char → Option ℕ
  ascii : ∀ c, c.toNat < 128 →
    value c = if c.isDigit then some (c.toNat - '0'.toNat) else none

namespace DecimalDigits

/-- Only the digits of ASCII. -/
def asciiOnly : DecimalDigits where
  value c := if c.isDigit then some (c.toNat - '0'.toNat) else none
  ascii _ _ := rfl

variable (digits : DecimalDigits)

/-- `\d`. -/
def isDigit (c : Char) : Bool := (digits.value c).isSome

/-- The number digits stand for. -/
def number (ds : List Char) : ℕ :=
  ds.foldl (fun n c => 10 * n + (digits.value c).getD 0) 0

/-- `int(ds)` of a non-empty text of digits; `int` refuses more than 4300
of them. -/
def int (ds : List Char) : Except Exc ℕ :=
  if 4300 < ds.length then .error .valueError else .ok (digits.number ds)

end DecimalDigits

-- ============================================================= patterns

/-- `\s`. -/
def isSpace (c : Char) : Bool :=
  let n := c.toNat
  (9 ≤ n && n ≤ 13) || (28 ≤ n && n ≤ 32) || n ∈ [0x85, 0xa0, 0x1680]
    || (0x2000 ≤ n && n ≤ 0x200a) || n ∈ [0x2028, 0x2029, 0x202f, 0x205f, 0x3000]

/-- `$`. -/
def atLineEnd (text : List Char) : Bool := text.head?.all (· = '\n')

/-- `\s+([-+0-9.eE]+)$`. -/
def matchValue (text : List Char) : Option (List Char × List Char) :=
  let rest := text.dropWhile isSpace
  let number := rest.takeWhile isNumberChar
  let rest := rest.dropWhile isNumberChar
  if text.takeWhile isSpace ≠ [] ∧ number ≠ [] ∧ atLineEnd rest then
    some (number, rest)
  else none

/-- `\{([^}]*)\}`. -/
def matchLabels : List Char → Option (List Char × List Char)
  | '{' :: text =>
      match text.dropWhile (· ≠ '}') with
      | [] => none
      | _ :: rest => some (text.takeWhile (· ≠ '}'), rest)
  | _ => none

/-- `^process_start_time_seconds\s+([-+0-9.eE]+)$`. -/
def processStartPattern (text : List Char) : Option (List Char × List Char) :=
  (text.dropPrefix? "process_start_time_seconds".toList).bind matchValue

/-- `(?:\{[^}]*\})?\s+([-+0-9.eE]+)$`. Without the group a brace would
have to be blank. -/
def matchMetric (text : List Char) : Option (List Char × List Char) :=
  match matchLabels text with
  | some (_, rest) => matchValue rest
  | none => matchValue text

/-- `^metric(?:\{[^}]*\})?\s+([-+0-9.eE]+)$`. -/
def metricPattern (metric : String) (text : List Char) :
    Option (List Char × List Char) :=
  (text.dropPrefix? metric.toList).bind matchMetric

/-- `\{([^}]*)\}\s+[-+0-9.eE]+$`. -/
def matchConfig (text : List Char) : Option (List Char × List Char) :=
  (matchLabels text).bind fun (labels, rest) =>
    (matchValue rest).map fun (_, rest) => (labels, rest)

/-- `^vllm:cache_config_info\{([^}]*)\}\s+[-+0-9.eE]+$`. -/
def configPattern (text : List Char) : Option (List Char × List Char) :=
  (text.dropPrefix? "vllm:cache_config_info".toList).bind matchConfig

/-- `name="(\d+)"`. -/
def digitsPattern (digits : DecimalDigits) (name : String)
    (text : List Char) : Option (List Char) :=
  (text.dropPrefix? (name.toList ++ ['=', '"'])).bind fun rest =>
    let ds := rest.takeWhile digits.isDigit
    if ds ≠ [] ∧ (rest.dropWhile digits.isDigit).head? = some '"' then some ds
    else none

/-- `re.findall` of a pattern that starts with `^`. -/
def findall {α : Type} (pattern : List Char → Option (α × List Char))
    (metricsText : List Char) : List α :=
  Scan.findAll pattern '\n' metricsText

-- ============================================================= one node

/-- What of one node `update_metrics_text` reads and writes. -/
structure PolledNode where
  runningRequests : Option ℤ := none
  waitingRequests : Option ℤ := none
  kvCacheUsage : Option PyJson.Float := none
  lmcacheQueries : PyJson.Float := .finite 0
  lmcacheHits : PyJson.Float := .finite 0
  gpuTotalBlocks : Option ℤ := none
  gpuBlockSize : Option ℤ := none
  metricsStatus : MetricsStatus := .unavailable
  metricsUpdatedAt : Option ℚ := none
  processStartTimeSeconds : Option PyJson.Float := none
  catalog : GpuCatalog := .empty
  lastSequence : Option ℤ := none

/-- `float(item)`. -/
def float (item : List Char) : Except Exc PyJson.Float :=
  match PyJson.Float.parse item with
  | some x => .ok x
  | none => .error .valueError

/-- The fields of `metric_specs`. -/
inductive MetricField where
  | runningRequests
  | waitingRequests
  | kvCacheUsage
  | lmcacheQueries
  | lmcacheHits
  deriving DecidableEq

inductive Reducer where
  | sum
  | max
  deriving DecidableEq

/-- A reducer on a first item and the others. -/
def Reducer.apply : Reducer → PyJson.Float → List PyJson.Float → PyJson.Float
  | .sum, item, items => .sum (item :: items)
  | .max, item, items => .max item items

/-- `metric_specs`. -/
def metricSpecs : List (MetricField × String × Reducer) :=
  [(.runningRequests, "vllm:num_requests_running", .sum),
    (.waitingRequests, "vllm:num_requests_waiting", .sum),
    (.kvCacheUsage, "vllm:kv_cache_usage_perc", .max),
    (.lmcacheQueries, "vllm:external_prefix_cache_queries_total", .sum),
    (.lmcacheHits, "vllm:external_prefix_cache_hits_total", .sum)]

/-- `reducer(float(item) for item in matches)`, if there are any. -/
def reduceMatches (reducer : Reducer) :
    List (List Char) → Except Exc (Option PyJson.Float)
  | [] => .ok none
  | item :: items => do
      let x ← float item
      let xs ← items.mapM float
      pure (some (reducer.apply x xs))

/-- `setattr(node, field, int(value))` or `setattr(node, field, value)`. -/
def storeMetric (field : MetricField) (value : PyJson.Float) :
    Stmt PolledNode Exc :=
  match field with
  | .runningRequests =>
      .eval value.toInt fun n => .assign fun node =>
        { node with runningRequests := some n }
  | .waitingRequests =>
      .eval value.toInt fun n => .assign fun node =>
        { node with waitingRequests := some n }
  | .kvCacheUsage => .assign fun node => { node with kvCacheUsage := some value }
  | .lmcacheQueries => .assign fun node => { node with lmcacheQueries := value }
  | .lmcacheHits => .assign fun node => { node with lmcacheHits := value }

/-- `_clear_gpu_catalog` and `last_sequence.pop`. -/
def PolledNode.restart (node : PolledNode) : PolledNode :=
  { node with catalog := .empty, lastSequence := none }

/-- A process start time that was read. -/
def PolledNode.storeProcessStart (processStart : PyJson.Float)
    (node : PolledNode) : PolledNode :=
  let changed := node.processStartTimeSeconds.any (processStart ≠ ·)
  { (if changed then node.restart else node) with
    processStartTimeSeconds := some processStart }

/-- The block size of a config sample, if the search found one. -/
def PolledNode.storeBlockSize (blockSize : Option ℕ) (node : PolledNode) :
    PolledNode :=
  { node with gpuBlockSize := (blockSize.map (↑)).or node.gpuBlockSize }

/-- `if total_blocks > 0: node.gpu_total_blocks = total_blocks`. -/
def PolledNode.storeTotalBlocks (totalBlocks : ℕ) (node : PolledNode) :
    PolledNode :=
  if 0 < totalBlocks then { node with gpuTotalBlocks := some totalBlocks }
  else node

section Update

variable (digits : DecimalDigits) (metricsText : List Char)

/-- The process start time. -/
def updateProcessStart : Stmt PolledNode Exc :=
  match (findall processStartPattern metricsText).getLast? with
  | none => .assign id
  | some sample =>
      .eval (float sample) fun processStart =>
        .assign (PolledNode.storeProcessStart processStart)

/-- The body of the loop over `metric_specs`. -/
def updateMetric (spec : MetricField × String × Reducer) :
    Stmt PolledNode Exc :=
  .eval (reduceMatches spec.2.2 (findall (metricPattern spec.2.1) metricsText))
    fun
    | none => .assign id
    | some value => storeMetric spec.1 value

/-- The number of a label, if the search finds it. -/
def searchInt (name : String) (labels : List Char) :
    Except Exc (Option ℕ) :=
  match Scan.search (digitsPattern digits name) labels with
  | none => .ok none
  | some ds => some <$> digits.int ds

/-- The body of the loop over `config_samples`, with `total_blocks` beside
the node. -/
def updateConfigSample (labels : List Char) : Stmt (PolledNode × ℕ) Exc :=
  .seq
    (.eval (searchInt digits "num_gpu_blocks" labels) fun blocks =>
      .assign (Prod.map id (· + blocks.getD 0)))
    (.eval (searchInt digits "block_size" labels) fun blockSize =>
      .assign (Prod.map (·.storeBlockSize blockSize) id))

/-- The loop over `config_samples` and what follows from it. -/
def updateConfig : Stmt PolledNode Exc :=
  .withLocal 0
    (.seq
      (.forEach (findall configPattern metricsText)
        (updateConfigSample digits))
      (.assign fun state => (state.1.storeTotalBlocks state.2, state.2)))

/-- `update_metrics_text` on a known node, at the time `now`. -/
def updateMetricsText (now : ℚ) : Stmt PolledNode Exc :=
  .seq (updateProcessStart metricsText)
    (.seq (.forEach metricSpecs (updateMetric metricsText))
      (.seq (updateConfig digits metricsText)
        (.assign fun node =>
          { node with
            metricsStatus := .available
            metricsUpdatedAt := some now })))

end Update

-- ========================================================= poll_metrics

/-- What the `try` of `poll_metrics` can raise. -/
inductive PollError where
  | clientError
  | timeoutError
  | other (error : Exc)
  deriving DecidableEq

/-- `except (aiohttp.ClientError, asyncio.TimeoutError)`. -/
def PollError.handled : PollError → Bool
  | .clientError | .timeoutError => true
  | .other _ => false

/-- What a node answers to `GET /metrics`. -/
inductive MetricsResponse where
  | page (metricsText : List Char)
  | otherStatus
  | clientError
  | timeoutError
  deriving DecidableEq

/-- `mark_metrics_unavailable`. -/
def markMetricsUnavailable : Stmt PolledNode PollError :=
  .assign fun node => { node with metricsStatus := .unavailable }

/-- The body of the loop of `poll_metrics` for a known node. -/
def pollNode (digits : DecimalDigits) (now : ℚ) (response : MetricsResponse) :
    Stmt PolledNode PollError :=
  .tryExcept
    (match response with
      | .page metricsText =>
          .mapError .other (updateMetricsText digits metricsText now)
      | .otherStatus => markMetricsUnavailable
      | .clientError => .raise .clientError
      | .timeoutError => .raise .timeoutError)
    PollError.handled markMetricsUnavailable

/-- A statement on one node of the tracker; an unknown node id makes it a
no-op. -/
def onPolledNode (nodeId : NodeId) (c : Stmt PolledNode PollError) :
    Stmt (PyDict NodeId PolledNode) PollError := fun nodes =>
  match nodes.get nodeId with
  | none => (nodes, none)
  | some node => (nodes.set nodeId (c node).1, (c node).2)

/-- One round of `poll_metrics` over the nodes with their answers; an
exception that is not handled ends the task. -/
def pollRound (digits : DecimalDigits) (now : ℚ)
    (responses : List (NodeId × MetricsResponse)) :
    Stmt (PyDict NodeId PolledNode) PollError :=
  .forEach responses fun (nodeId, response) =>
    onPolledNode nodeId (pollNode digits now response)

end Kareserve
