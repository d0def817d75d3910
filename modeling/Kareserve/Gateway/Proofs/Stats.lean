/-
The figures of `GET /health` add up (Gateway/Stats.lean).

`Monitored.Counted` says what the counters are after a run: every request
that was received is in the queue, in the worker's hands, counted by the
planner, or was dropped with a plan that raised or by the shutdown
(`lostBy`); what the planner has counted, the pool has, but for what found
no server; and no group is larger than the configured size. One event keeps
it (`Counted.step`), by what the event does to the requests the pool holds
(`RequestPool.step_held`) and what the plan lacks (`App.missing_eq`).

The pool's figures and the planner's are written by one step, the end of a
plan (`count_counts`); every other step leaves both. A plan that raised is
counted by neither, and neither is a request dropped by the shutdown, so the
health of a router whose plans raise shows more requests received than
planned and queued together. `lostBy` reads these off the run.
-/
import Kareserve.Gateway.Proofs.Parts
import Kareserve.Gateway.Stats
import Kareserve.Policy.Proofs.Estimator

namespace Kareserve

-- ============================================================= the pool

namespace RequestPool

/-- The requests in the worker's hands. -/
def hand (pool : RequestPool) : List SchedulerRequest :=
  match pool.worker with
  | .yielded first => [first]
  | .planning group => group
  | _ => []

variable {pool pool' : RequestPool} {event : PoolEvent}

theorem held_eq (pool : RequestPool) : pool.held = pool.hand ++ pool.queue :=
  rfl

/-- How many requests come to the pool by an event. -/
def arriving : PoolEvent → ℕ
  | .assign _ => 1
  | _ => 0

/-- Whether the worker puts down what it has in its hands. -/
def handsDown : PoolEvent → Bool
  | .planned _ | .planFailed _ | .stop => true
  | _ => false

/-- What comes to the pool is held until the worker puts it down. -/
theorem step_held (hstep : pool.step event = some pool') :
    pool.held.length + arriving event = pool'.held.length
      + if handsDown event then pool.hand.length else 0 := by
  rw [held_eq, held_eq, List.length_append, List.length_append]
  cases hround : pool.roundOf event with
  -- a round ends with everyone in hand put down
  | some round =>
      obtain ⟨hworker, hserves, -⟩ := step_round hround hstep
      have hdown : handsDown event = true ∧ arriving event = 0 := by
        obtain ⟨-, ⟨assignments, rfl, -⟩ | ⟨error, rfl, -⟩⟩ :=
          roundOf_eq_some hround
        · exact ⟨rfl, rfl⟩
        · exact ⟨rfl, rfl⟩
      have hwaiting : pool'.hand = [] := by
        unfold hand
        rw [hserves.worker]
      rw [hdown.1, hdown.2, hwaiting, hserves.queue, if_pos rfl]
      simp only [List.length_nil]
      omega
  | none =>
      cases quiet_of_step hround hstep with
      | assign request hfresh =>
          have hhand : (pool.assign request).hand = pool.hand := by
            unfold hand assign
            cases pool.worker <;> rfl
          rw [hhand]
          show _ + 1 = _ + (pool.queue ++ [request]).length + 0
          rw [List.length_append, List.length_singleton]
          omega
      | cancel => rfl
      | resume => rfl
      -- from the queue into the hand
      | get first queue hworker hqueue =>
          unfold hand
          rw [hworker, hqueue]
          simp [arriving, handsDown]
          omega
      | collect first hworker =>
          unfold hand
          rw [hworker]
          simp [arriving, handsDown]
          omega
      | stop hrunning =>
          show _ + 0 = 0 + pool.queue.length + pool.hand.length
          omega
      | stopped hstopping =>
          unfold hand
          rw [hstopping]
          rfl

theorem step_size (hstep : pool.step event = some pool') :
    pool'.maxPlanningGroupSize = pool.maxPlanningGroupSize := by
  cases hround : pool.roundOf event with
  | some round => exact (step_round hround hstep).2.1.size
  | none => exact (quiet_of_step hround hstep).size_eq

/-- The group in the worker's hands has its first request, and no more than
there is room for. -/
def Grouped (pool : RequestPool) : Prop :=
  1 ≤ pool.maxPlanningGroupSize ∧
    ∀ group, pool.worker = .planning group →
      1 ≤ group.length ∧ group.length ≤ pool.maxPlanningGroupSize

theorem Grouped.step (h : pool.Grouped) (hstep : pool.step event = some pool') :
    pool'.Grouped := by
  refine ⟨(step_size hstep).symm ▸ h.1, fun group hplanning => ?_⟩
  rw [step_size hstep]
  cases hround : pool.roundOf event with
  | some round =>
      rw [(step_round hround hstep).2.1.worker] at hplanning
      cases hplanning
  | none =>
      cases quiet_of_step hround hstep with
      | assign request hfresh =>
          refine h.2 group ?_
          unfold assign at hplanning
          dsimp only at hplanning
          split at hplanning
          next => cases hplanning
          next => exact hplanning
      | cancel => exact h.2 group hplanning
      | resume => exact h.2 group hplanning
      | get => cases hplanning
      | collect first hworker =>
          injection hplanning with hplanning
          have hpos := h.1
          rw [← hplanning, List.length_cons, List.length_take]
          omega
      | stop => cases hplanning
      | stopped => cases hplanning

end RequestPool

-- ========================================================== the counters

/-- The requests an event drops: a plan that raises (in its lookup, building
the candidates or in the policy) its group, and the shutdown what the worker
has in its hands. -/
def App.lostBy (blake2b : List UInt8 → List UInt8) (a : App)
    (event : AppEvent) : Option (List SchedulerRequest) :=
  match a.poolEvent blake2b event with
  | some (.planFailed _) | some .stop => some a.requestPool.hand
  | _ => none

namespace Monitored

/-- How the counters of the pool and of the planner fit. -/
structure Figures (nodes : List NodeId) (size : ℕ) (pool : PoolCounters)
    (planner : PlannerCounters) : Prop where
  planned : planner.totalRequests
    = pool.totalRequests + planner.failedRequests
  served : nodes ≠ [] →
    planner.failedRequests = 0 ∧ planner.totalPlans = pool.totalGroups
  unserved : nodes = [] → pool.totalRequests = 0
  largest : pool.largestGroup ≤ size
  groups : pool.totalGroups ≤ pool.totalRequests
  requests : pool.totalRequests ≤ pool.totalGroups * pool.largestGroup

/-- What the counters are after a run with these events that has dropped
`lost`. -/
structure Counted (size : ℕ) (nodes : List NodeId) (events : List AppEvent)
    (lost : List (List SchedulerRequest)) (m : Monitored) : Prop where
  room : m.app.requestPool.maxPlanningGroupSize = size
  grouped : m.app.requestPool.Grouped
  known : m.app.tracker.entries.keys = nodes
  received : (App.requests events).length
    = m.app.requestPool.held.length + m.planner.totalRequests
      + lost.flatten.length
  figures : Figures nodes size m.pool m.planner

variable {blake2b : List UInt8 → List UInt8}
  {decode : Bytes → Option RawMapEventBatch}
  {loads : Bytes → Except LoadsError PyJson.Json}
  {replayEndpoint : NodeId → Bool} {size : ℕ} {nodes : List NodeId}
  {events : List AppEvent} {lost : List (List SchedulerRequest)}
  {m m' : Monitored} {a : App} {event : AppEvent}

/-- What is counted: nothing, or a group that was planned. -/
inductive Counts (blake2b : List UInt8 → List UInt8) (m : Monitored)
    (event : AppEvent) : Monitored → Prop
  | nothing (unplanned : ∀ assignments,
        m.app.poolEvent blake2b event ≠ some (.planned assignments)) :
      Counts blake2b m event m
  | group (group : List SchedulerRequest)
      (assignments : PyDict RequestId RouteAssignment)
      (worker : m.app.requestPool.worker = .planning group)
      (planned : m.app.poolEvent blake2b event = some (.planned assignments)) :
      Counts blake2b m event
        { m with
          planner := m.planner.planned group
            (if m.app.tracker.entries.keys = [] then group else [])
          pool := if m.app.tracker.entries.keys = [] then m.pool
            else m.pool.served group }

theorem count_counts (hgrouped : m.app.requestPool.Grouped)
    (event : AppEvent) : Counts blake2b m event (m.count blake2b event) := by
  cases event with
  | lookupReturned found =>
      simp only [count]
      split
      next group hworker =>
        cases hselect : (m.app.routePlanner.selectOrRaise blake2b group
            found).2 with
        -- a plan that raised is not counted
        | error error =>
            refine .nothing fun assignments hplanned => ?_
            simp only [App.poolEvent, hworker, hselect] at hplanned
            injection hplanned with hplanned
            cases hplanned
        | ok assignments =>
            have hplanned : m.app.poolEvent blake2b (.lookupReturned found)
                = some (.planned assignments) := by
              simp only [App.poolEvent, hworker, hselect]
              rfl
            have hcounts := Counts.group group assignments hworker hplanned
            dsimp only
            rw [App.missing_eq (RoutePlanner.assignsBatch hselect)]
            -- without a node the plan is a failed one, as the group is not
            -- empty
            by_cases hnone : m.app.tracker.entries.keys = []
            · have hgroup : group ≠ [] := by
                have hlength := (hgrouped.2 group hworker).1
                intro heq
                rw [heq] at hlength
                cases hlength
              rw [if_pos hnone, if_pos hgroup]
              rw [if_pos hnone, if_pos hnone] at hcounts
              exact hcounts
            · rw [if_neg hnone, if_neg (not_not_intro rfl)]
              rw [if_neg hnone, if_neg hnone] at hcounts
              exact hcounts
      next hworker =>
        refine .nothing fun assignments hplanned => ?_
        simp only [App.poolEvent] at hplanned
        cases hplanned
  | _ => exact .nothing fun _ hplanned => by cases hplanned

/-- What the worker puts down is counted by the planner or dropped. -/
theorem hand_counted {pe : PoolEvent} (hgrouped : m.app.requestPool.Grouped)
    (hpe : m.app.poolEvent blake2b event = some pe) :
    m.planner.totalRequests
      + (if RequestPool.handsDown pe then m.app.requestPool.hand.length else 0)
      = (m.count blake2b event).planner.totalRequests
        + (m.app.lostBy blake2b event).toList.flatten.length := by
  have hcounts : Counts blake2b m event _ := count_counts hgrouped event
  generalize m.count blake2b event = counted at hcounts ⊢
  cases hcounts with
  | group group assignments hworker hplanned =>
      rw [hplanned] at hpe
      injection hpe with hpe
      have hhand : m.app.requestPool.hand = group := by
        unfold RequestPool.hand
        rw [hworker]
      unfold App.lostBy
      rw [hplanned, ← hpe, hhand]
      rfl
  | nothing hunplanned =>
      unfold App.lostBy
      rw [hpe]
      cases pe with
      | planned assignments => exact absurd hpe (hunplanned assignments)
      | planFailed error =>
          show _ + m.app.requestPool.hand.length
            = _ + (m.app.requestPool.hand ++ []).length
          rw [List.append_nil]
      | stop =>
          show _ + m.app.requestPool.hand.length
            = _ + (m.app.requestPool.hand ++ []).length
          rw [List.append_nil]
      | _ => rfl

/-- What comes to the pool is a request of a handler. -/
theorem length_requests {pe : PoolEvent}
    (hpe : m.app.poolEvent blake2b event = some pe) :
    (App.requests [event]).length = RequestPool.arriving pe := by
  cases event with
  | lookupReturned found =>
      simp only [App.poolEvent] at hpe
      split at hpe
      next group _ =>
        injection hpe with hpe
        rw [← hpe]
        cases (m.app.routePlanner.selectOrRaise blake2b group found).2 <;> rfl
      next => cases hpe
  | upstream => cases hpe
  | listener => cases hpe
  | poll => cases hpe
  | _ =>
      injection hpe with hpe
      rw [← hpe]
      rfl

/-- An event without the pool counts nothing and drops nothing. -/
theorem count_own (hpe : m.app.poolEvent blake2b event = none)
    (hstep : m.app.step blake2b decode loads replayEndpoint event = some a) :
    m.count blake2b event = m ∧ m.app.lostBy blake2b event = none ∧
      App.requests [event] = [] ∧ a.requestPool = m.app.requestPool := by
  cases App.step_own hstep hpe with
  | exchange => exact ⟨rfl, rfl, rfl, App.exchanged_requestPool ..⟩
  | listener => exact ⟨rfl, rfl, rfl, rfl⟩
  | poll => exact ⟨rfl, rfl, rfl, rfl⟩

/-- One event and the figures. -/
theorem Figures.count (h : Figures nodes size m.pool m.planner)
    (hknown : m.app.tracker.entries.keys = nodes)
    (hgrouped : m.app.requestPool.Grouped)
    (hsize : m.app.requestPool.maxPlanningGroupSize = size)
    (event : AppEvent) :
    Figures nodes size (m.count blake2b event).pool
      (m.count blake2b event).planner := by
  have hcounts : Counts blake2b m event _ := count_counts hgrouped event
  generalize m.count blake2b event = counted at hcounts ⊢
  cases hcounts with
  | nothing => exact h
  | group group assignments hworker hplanned =>
      obtain ⟨hone, hmax⟩ := hgrouped.2 group hworker
      rw [hknown]
      by_cases hnone : nodes = []
      · rw [if_pos hnone, if_pos hnone]
        refine ⟨?_, fun hsome => absurd hnone hsome, h.unserved, h.largest,
          h.groups, h.requests⟩
        show _ + group.length = m.pool.totalRequests + (_ + group.length)
        rw [h.planned, Nat.add_assoc]
      · rw [if_neg hnone, if_neg hnone]
        obtain ⟨hfailed, hplans⟩ := h.served hnone
        refine ⟨?_, fun _ => ⟨hfailed, congrArg (· + 1) hplans⟩,
          fun heq => absurd heq hnone, ?_, ?_, ?_⟩
        · show _ + group.length = m.pool.totalRequests + group.length + (_ + 0)
          rw [h.planned, Nat.add_zero, Nat.add_right_comm]
        · exact max_le h.largest (hsize ▸ hmax)
        · exact Nat.add_le_add h.groups hone
        · show m.pool.totalRequests + group.length ≤ (m.pool.totalGroups + 1)
            * max m.pool.largestGroup group.length
          rw [Nat.add_mul, Nat.one_mul]
          exact Nat.add_le_add
            (h.requests.trans (Nat.mul_le_mul_left _ (le_max_left _ _)))
            (le_max_right _ _)

/-- One event. -/
theorem Counted.step (h : Counted size nodes events lost m)
    (hstep : m.step blake2b decode loads replayEndpoint event = some m') :
    Counted size nodes (events ++ [event])
      (lost ++ (m.app.lostBy blake2b event).toList)
      m' := by
  obtain ⟨a, happ, rfl⟩ := Option.map_eq_some_iff.mp hstep
  -- the counters are written by the part that plans
  have hfigures : Figures nodes size (m.count blake2b event).pool
      (m.count blake2b event).planner :=
    h.figures.count h.known h.grouped h.room event
  have hknown := (App.step_keys happ).trans h.known
  have hreceived := h.received
  have hevents : (App.requests (events ++ [event])).length
      = (App.requests events).length + (App.requests [event]).length := by
    unfold App.requests
    rw [List.filterMap_append, List.length_append]
  have hlost : (lost ++ (m.app.lostBy blake2b event).toList).flatten.length
      = lost.flatten.length + (m.app.lostBy blake2b event).toList.flatten.length := by
    rw [List.flatten_append, List.length_append]
  cases hpe : m.app.poolEvent blake2b event with
  | some pe =>
      have hpool := (App.step_pool happ hpe).step
      -- what comes in is held, and what is put down was counted or is lost
      have hheld := RequestPool.step_held hpool
      have hhand := hand_counted h.grouped hpe
      have harriving := length_requests hpe
      refine ⟨(RequestPool.step_size hpool).trans h.room,
        h.grouped.step hpool, hknown, ?_, hfigures⟩
      rw [hevents, hlost]
      dsimp only
      omega
  | none =>
      -- any other event leaves pool and counters alone
      obtain ⟨hcount, hnothing, hno, hsame⟩ := count_own hpe happ
      rw [hcount] at hfigures
      refine ⟨?_, ?_, hknown, ?_, ?_⟩
      · dsimp only
        rw [hsame]
        exact h.room
      · dsimp only
        rw [hsame]
        exact h.grouped
      · rw [hevents, hlost, hno, hnothing, hcount]
        dsimp only
        rw [hsame]
        exact hreceived
      · rw [hcount]
        exact hfigures

-- ================================================================ health

end Monitored

end Kareserve
