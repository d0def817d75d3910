/-
`RoutePlanner.plan` (`kareserve/routing.py`), and a router as the sequence
of its plans, releases and first outputs.

`plan` suspends in the cache lookup only, and reads nothing before it. What
is modelled is the rest, which runs in one piece: it is given the outcome
of the lookup.

# A router

`Router` keeps the assignments it has handed out. A release and a first
output are for one of these, so what a router does next depends on what
it decided before. Where the calls come from (Gateway/Completion.lean) and
how requests are grouped (Gateway/Pool.lean) are other matters: any order
of events is a run.

# Numbers that are too large

Building the candidates and choosing from them may raise
(Policy/Raising.lean), and `selectOrRaise` is both as they do. A router
here is one none of whose plans does; the one that meets such requests is
in Gateway/App.lean.

# Not here

`assign`, which plans for a group of one, and the figures of `stats`.
-/
import Kareserve.Gateway.Lookup
import Kareserve.Gateway.Pool
import Kareserve.Policy.Raising

namespace Kareserve

/-- `RoutePlanner`. -/
structure RoutePlanner where
  tracker : KareserveTracker
  policy : Policy
  prefixBlockSize : ℤ

namespace RoutePlanner

/-- `__init__`. -/
def init (tracker : KareserveTracker) (policy : Policy)
    (prefixBlockSize : ℤ) : RoutePlanner where
  tracker
  policy
  prefixBlockSize := max 1 prefixBlockSize

/-- The tracker once the lookup, if there is one, has returned. -/
def trackerAfter (planner : RoutePlanner) (lookup : Option LookupResult) :
    KareserveTracker :=
  match lookup with
  | none => planner.tracker
  | some found => planner.tracker.setLmcacheLookupStatus found.failedDomains

/-- `candidates`. -/
def candidates (planner : RoutePlanner) (requests : List SchedulerRequest)
    (lookup : Option LookupResult) : CandidateMatrix :=
  (planner.trackerAfter lookup).buildRouteCandidates requests
    planner.prefixBlockSize (lookup.map LookupResult.externalMatches)

/-- `candidates`, as they are built or not. -/
def candidatesOrRaise (planner : RoutePlanner)
    (requests : List SchedulerRequest) (lookup : Option LookupResult) :
    Except PyException CandidateMatrix :=
  (planner.trackerAfter lookup).buildRouteCandidatesOrRaise requests
    planner.prefixBlockSize (lookup.map LookupResult.externalMatches)

/-- `assignments`, as they are chosen or not, with the policy that leaves. -/
def selectOrRaise (blake2b : List UInt8 → List UInt8)
    (planner : RoutePlanner) (requests : List SchedulerRequest)
    (lookup : Option LookupResult) :
    Policy × Except PyException (PyDict RequestId RouteAssignment) :=
  match planner.candidatesOrRaise requests lookup with
  | .error error => (planner.policy, .error error)
  | .ok candidates =>
      planner.policy.selectBatchOrRaise blake2b requests candidates

/-- What `plan` leaves and answers. -/
abbrev Planned :=
  RoutePlanner × Except PyException (PyDict RequestId AssignmentResult)

section Plan

variable (blake2b : List UInt8 → List UInt8)

/-- `plan`, from where the lookup has returned, as long as no number is too
large for the candidates or the policy (`selectOrRaise`). Else it raises
before it has reserved anything. -/
def planAfter (planner : RoutePlanner) (requests : List SchedulerRequest)
    (lookup : Option LookupResult) : Option Planned :=
  let tracker := planner.trackerAfter lookup
  (planner.policy.selectBatch blake2b requests
      (planner.candidates requests lookup)).map fun selected =>
    let planner := { planner with tracker, policy := selected.2 }
    match commitPlan requests selected.1 with
    | .error error => (planner, .error error)
    | .ok (calls, results) =>
        ({ planner with tracker := tracker.runCalls (calls.map Prod.snd) },
          .ok results)

/-- `plan`, given what the lookup returns or raises; `none` as a lookup
stands for a planner without one, and as an answer for a `KeyError`. -/
def plan (planner : RoutePlanner) (requests : List SchedulerRequest)
    (lookup : Option (Except PyException LookupResult)) : Option Planned :=
  if requests = [] then some (planner, .ok .empty)
  else
    match lookup with
    | none => planner.planAfter blake2b requests none
    | some (.error error) => some (planner, .error error)
    | some (.ok found) => planner.planAfter blake2b requests (some found)

end Plan

end RoutePlanner

-- ============================================================== a router

/-- A route planner and the assignments it has handed out. -/
structure Router where
  planner : RoutePlanner
  assignments : PyDict RequestId RouteAssignment

/-- What happens to a router, with a lookup in `L` for each plan. -/
inductive RouterEvent (L : Type) where
  | plan (requests : List SchedulerRequest) (lookup : L)
  | release (requestId : RequestId)
  | firstOutput (requestId : RequestId) (upstreamFirstOutputMs : ℚ)

/-- The same event with another lookup. -/
def RouterEvent.map {L L' : Type} (f : L → L') : RouterEvent L → RouterEvent L'
  | .plan requests lookup => .plan requests (f lookup)
  | .release requestId => .release requestId
  | .firstOutput requestId ms => .firstOutput requestId ms

namespace Router

/-- A router that has handed out nothing. -/
def start (planner : RoutePlanner) : Router := ⟨planner, .empty⟩

/-- The assignments after an answer. -/
def handedOut (assignments : PyDict RequestId RouteAssignment) :
    Except PyException (PyDict RequestId AssignmentResult) →
      PyDict RequestId RouteAssignment
  | .error _ => assignments
  | .ok results =>
      .ofList (assignments.items
        ++ results.items.map fun p => (p.1, p.2.assignment))

variable (blake2b : List UInt8 → List UInt8)

/-- One event, where it can happen. -/
def step (r : Router) : RouterEvent (Option LookupResult) → Option Router
  | .plan requests lookup =>
      (r.planner.plan blake2b requests (lookup.map .ok)).map fun planned =>
        { planner := planned.1
          assignments := handedOut r.assignments planned.2 }
  | .release requestId =>
      (r.assignments.get requestId).map fun a =>
        { r with planner := { r.planner with
            tracker := r.planner.tracker.call a.releaseCall } }
  | .firstOutput requestId ms =>
      (r.assignments.get requestId).map fun a =>
        { r with planner := { r.planner with
            policy := r.planner.policy.observeFirstOutput a ms } }

end Router

end Kareserve
