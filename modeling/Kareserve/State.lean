/-
Shared state and decision types (`kareserve/state.py`).

Field defaults are the dataclass defaults. Left out are the fields no
routing decision reads: `host`, `port`, `metrics_updated_at`, the two
LMCache monitoring counters and a request's `raw_body`.

# Floats

A float is the rational it stands for, and arithmetic on floats is exact,
here and in all modules on routing: a sum or a product is not rounded and
has no greatest value. What is kept of floats is where an integer becomes
one. An integer, or a quotient of two, that is too large for a float
raises an `OverflowError`, and the quotient of `build_route_candidates`,
of which an integer is made again, is rounded.
-/
import Mathlib.Data.Rat.Defs
import Mathlib.Algebra.Order.Ring.Unbundled.Rat

namespace Kareserve

/-- An exception, by its class and its text. -/
structure PyException where
  type : String
  message : String
  deriving DecidableEq

abbrev NodeId := String
abbrev RequestId := String
abbrev Token := ℤ

/-- `CacheMedium`. -/
inductive CacheMedium where
  | cpu
  | fs
  | obj
  deriving DecidableEq, Repr

/-- The value of a `CacheMedium`. -/
def CacheMedium.value : CacheMedium → String
  | .cpu => "CPU"
  | .fs => "FS"
  | .obj => "OBJ"

/-- `MetricsStatus`. -/
inductive MetricsStatus where
  | available
  | unavailable
  deriving DecidableEq, Repr

/-- `CatalogStatus`. -/
inductive CatalogStatus where
  | healthy
  | degraded
  deriving DecidableEq, Repr

/-- `NodeState`: mutable observations for one vLLM server. -/
structure NodeState where
  nodeId : NodeId
  cacheDomainId : String
  routerActiveRequests : ℤ := 0
  routerInflightWork : ℚ := 0
  runningRequests : Option ℤ := none
  waitingRequests : Option ℤ := none
  kvCacheUsage : Option ℚ := none
  gpuTotalBlocks : Option ℤ := none
  gpuBlockSize : Option ℤ := none
  metricsStatus : MetricsStatus := .unavailable
  processStartTimeSeconds : Option ℚ := none
  deriving DecidableEq

/-- `NodeRoutingState`: the immutable snapshot policies read. -/
structure NodeRoutingState where
  nodeId : NodeId
  cacheDomainId : String
  routerActiveRequests : ℤ
  routerInflightWork : ℚ
  runningRequests : Option ℤ
  waitingRequests : Option ℤ
  kvCacheUsage : Option ℚ
  gpuTotalBlocks : Option ℤ
  gpuBlockSize : Option ℤ
  metricsStatus : MetricsStatus
  processStartTimeSeconds : Option ℚ
  gpuCatalogStatus : CatalogStatus
  lmcacheCatalogStatus : CatalogStatus
  deriving DecidableEq

/-- `int(x)`: toward zero. -/
def truncate (x : ℚ) : ℤ := x.num.tdiv x.den

/-- `str(n)`. -/
def strInt (n : ℤ) : String :=
  String.ofList ((if n < 0 then ['-'] else []) ++ Nat.toDigits 10 n.natAbs)

/-- `queue_depth`. -/
def NodeRoutingState.queueDepth (node : NodeRoutingState) : ℚ :=
  (node.runningRequests.getD 0 + node.waitingRequests.getD 0 : ℤ)

/-- `estimated_gpu_free_blocks`. The fraction and the product are exact
here, and `int` may get one block less from them than from the rounded
ones: the float nearest to 0.1 is a little above it, and as a usage of ten
blocks it leaves 8 here and 9 in the code. -/
def NodeRoutingState.estimatedGpuFreeBlocks (node : NodeRoutingState) :
    Option ℤ :=
  match node.gpuTotalBlocks, node.kvCacheUsage with
  | some total, some usage =>
      let freeFraction := 1 - min (max usage 0) 1
      some (max 0 (truncate (total * freeFraction)))
  | _, _ => none

/-- `PrefixMatch`. -/
structure PrefixMatch where
  promptTokens : ℤ
  gpuPrefixTokens : ℤ := 0
  cpuPrefixTokens : ℤ := 0
  fsPrefixTokens : ℤ := 0
  objPrefixTokens : ℤ := 0
  deriving DecidableEq

/-- `RouteCandidate`. -/
structure RouteCandidate where
  requestId : RequestId
  node : NodeRoutingState
  prefixMatch : PrefixMatch
  requiredNewGpuBlocks : Option ℤ
  deriving DecidableEq

/-- `RouteCostBreakdown`. -/
structure RouteCostBreakdown where
  promptPathCost : ℚ
  queueCost : ℚ
  capacityCost : ℚ
  deriving DecidableEq

/-- `total`. -/
def RouteCostBreakdown.total (b : RouteCostBreakdown) : ℚ :=
  b.promptPathCost + b.queueCost + b.capacityCost

/-- `SchedulerRequest`. -/
structure SchedulerRequest where
  requestId : RequestId
  promptTokens : List Token
  maxTokens : ℤ
  deriving DecidableEq

/-- `RouteAssignment`. -/
structure RouteAssignment where
  candidate : RouteCandidate
  inflightWork : ℚ
  estimatedCost : ℚ
  costBreakdown : Option RouteCostBreakdown := none
  deriving DecidableEq

end Kareserve
