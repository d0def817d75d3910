/-
The performance models policies use (`kareserve/performance.py`).

# Floats and divisions

An estimator's samples are rationals. A delay that is observed may be any
float (`observeFloat`): one that is not finite is no sample. The two
divisions of `_QueueEstimate` are also here as they are made, with the
`ZeroDivisionError` they could raise (`slopeChecked`, `absoluteErrorMs`).

# Not here

`from_profile`, of which only its clamps matter: they are the two
invariants of a `PolynomialPrefillModel`, and its check for finite
numbers, which rationals always pass. The dictionary of `stats`.
-/
import Kareserve.State
import Kareserve.Lib.Dict
import Kareserve.Lib.PyJson
import Mathlib.Algebra.Order.Ring.Rat
import Mathlib.Algebra.Order.BigOperators.Group.List
import Mathlib.Algebra.Order.Field.Basic

namespace Kareserve

-- ============================================================== prefill

/-- `PolynomialPrefillModel`. -/
structure PolynomialPrefillModel where
  tokenScale : ℚ
  minimumMs : ℚ
  interceptMs : ℚ
  promptMs : ℚ
  cachedMs : ℚ
  promptSquaredMs : ℚ
  promptCachedMs : ℚ
  cachedSquaredMs : ℚ
  one_le_tokenScale : 1 ≤ tokenScale
  minimumMs_nonneg : 0 ≤ minimumMs
  deriving DecidableEq

/-- `predict_ms`. -/
def PolynomialPrefillModel.predictMs (m : PolynomialPrefillModel)
    (promptTokens cachedPrefixTokens : ℤ) : ℚ :=
  let prompt : ℚ := (max 0 promptTokens : ℤ) / m.tokenScale
  let cached : ℚ :=
    (min (max 0 cachedPrefixTokens) (max 0 promptTokens) : ℤ) / m.tokenScale
  let value := m.interceptMs
    + m.promptMs * prompt
    + m.cachedMs * cached
    + m.promptSquaredMs * prompt * prompt
    + m.promptCachedMs * prompt * cached
    + m.cachedSquaredMs * cached * cached
  max m.minimumMs value

theorem PolynomialPrefillModel.predictMs_nonneg (m : PolynomialPrefillModel)
    (promptTokens cachedPrefixTokens : ℤ) :
    0 ≤ m.predictMs promptTokens cachedPrefixTokens :=
  m.minimumMs_nonneg.trans (le_max_left _ _)

-- ============================================================ the queue

/-- `_QueueEstimate`: the last samples of (work, delay), at most as many
as the deque holds. -/
structure QueueEstimate where
  capacity : ℕ
  samples : List (ℚ × ℚ)
  length_le : samples.length ≤ capacity
  deriving DecidableEq

namespace QueueEstimate

/-- `with_capacity`. -/
def withCapacity (capacity : ℕ) : QueueEstimate where
  capacity
  samples := []
  length_le := Nat.zero_le _

/-- `samples.append` on a deque of bounded length. -/
def append (e : QueueEstimate) (sample : ℚ × ℚ) : QueueEstimate where
  capacity := e.capacity
  samples := (e.samples ++ [sample]).drop (e.samples.length + 1 - e.capacity)
  length_le := by
    have hle := e.length_le
    rw [List.length_drop, List.length_append, List.length_singleton]
    omega

/-- `slope`. -/
def slope (e : QueueEstimate) : ℚ :=
  let denominator := (e.samples.map fun s => s.1 * s.1).sum
  if denominator ≤ 0 then 0
  else
    let numerator := (e.samples.map fun s => s.1 * s.2).sum
    max 0 (numerator / denominator)

theorem slope_nonneg (e : QueueEstimate) : 0 ≤ e.slope := by
  unfold slope
  dsimp only
  split
  · exact le_refl 0
  · exact le_max_left _ _

/-- `a / b`; `none` is a `ZeroDivisionError`. -/
def divide (a b : ℚ) : Option ℚ := if b = 0 then none else some (a / b)

/-- `slope`, with its division as it is made. -/
def slopeChecked (e : QueueEstimate) : Option ℚ :=
  let denominator := (e.samples.map fun s => s.1 * s.1).sum
  if denominator ≤ 0 then some 0
  else
    let numerator := (e.samples.map fun s => s.1 * s.2).sum
    (divide numerator denominator).map (max 0)

/-- `absolute_error_ms`. -/
def absoluteErrorMs (e : QueueEstimate) : Option ℚ :=
  if e.samples = [] then some 0
  else
    e.slopeChecked.bind fun slope =>
      divide (e.samples.map fun s => |s.2 - slope * s.1|).sum e.samples.length

end QueueEstimate

/-- `OnlineQueueTimeEstimator`. -/
structure OnlineQueueTimeEstimator where
  historySize : ℕ
  localMinSamples : ℕ
  cluster : QueueEstimate
  nodes : PyDict NodeId QueueEstimate

namespace OnlineQueueTimeEstimator

/-- `__init__`. -/
def init (historySize localMinSamples : ℤ) : OnlineQueueTimeEstimator where
  historySize := (max 8 historySize).toNat
  localMinSamples := (max 1 localMinSamples).toNat
  cluster := .withCapacity (max 8 historySize).toNat
  nodes := .empty

/-- The estimate `predict_ms` reads: the node's own once it has enough
samples. -/
def estimate (e : OnlineQueueTimeEstimator) (nodeId : NodeId) : QueueEstimate :=
  match e.nodes.get nodeId with
  | none => e.cluster
  | some own =>
      if own.samples.length < e.localMinSamples then e.cluster else own

/-- `predict_ms`. -/
def predictMs (e : OnlineQueueTimeEstimator) (nodeId : NodeId)
    (reservedWork : ℚ) : ℚ :=
  let estimate := e.estimate nodeId
  if estimate.samples = [] then 0 else max 0 reservedWork * estimate.slope

/-- `observe`. -/
def observe (e : OnlineQueueTimeEstimator) (nodeId : NodeId)
    (reservedWork observedQueueMs : ℚ) : OnlineQueueTimeEstimator :=
  if reservedWork ≤ 0 then e
  else
    let sample := (reservedWork, max 0 observedQueueMs)
    let own := (e.nodes.get nodeId).getD (.withCapacity e.historySize)
    { e with
      cluster := e.cluster.append sample
      nodes := e.nodes.set nodeId (own.append sample) }

/-- `observe`, of any float. -/
def observeFloat (e : OnlineQueueTimeEstimator) (nodeId : NodeId)
    (reservedWork : ℚ) (observedQueueMs : PyJson.Float) :
    OnlineQueueTimeEstimator :=
  match observedQueueMs with
  | .finite ms => e.observe nodeId reservedWork ms
  | _ => e

/-- The arguments of a call of `observe`. -/
structure Observation where
  nodeId : NodeId
  reservedWork : ℚ
  observedQueueMs : PyJson.Float
  deriving DecidableEq

/-- A sequence of calls of `observe`. -/
def observeAll (e : OnlineQueueTimeEstimator)
    (observations : List Observation) : OnlineQueueTimeEstimator :=
  observations.foldl (fun e o =>
    e.observeFloat o.nodeId o.reservedWork o.observedQueueMs) e

/-- More reserved work never predicts a shorter queue. -/
theorem predictMs_mono (e : OnlineQueueTimeEstimator) (nodeId : NodeId)
    {work work' : ℚ} (h : work ≤ work') :
    e.predictMs nodeId work ≤ e.predictMs nodeId work' := by
  unfold predictMs
  dsimp only
  split
  · exact le_refl 0
  · exact mul_le_mul_of_nonneg_right (max_le_max_left 0 h)
      (QueueEstimate.slope_nonneg _)

end OnlineQueueTimeEstimator

end Kareserve
