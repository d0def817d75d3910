/-
What `stop` leaves behind (Gateway/Pool.lean).

`stop` cancels the worker and waits for it. The worker answers a group in
two places, after a plan and in the handler of an exception, and
`CancelledError` passes the handler by. What the worker had taken, and what
was queued, is therefore left as it was: between the call of `stop` and
its return only the callers themselves can complete a future, by being
cancelled (`stopping_run`).

`Pending` is a caller whose future is open. `stop` answers none of them, so
those that are pending when it is called are pending when it returns, but
for the ones cancelled meanwhile: it completes everyone exactly if these are
all (`stop_completes_iff`).
-/
import Kareserve.Gateway.Proofs.Delivery

namespace Kareserve

namespace RequestPool

/-- A request whose future is not completed. -/
def Pending (pool : RequestPool) (requestId : RequestId) : Prop :=
  ∃ caller, pool.callers.get requestId = some caller ∧
    caller.future = .pending

/-- Every future is completed. -/
def AllDone (pool : RequestPool) : Prop :=
  ∀ requestId caller, pool.callers.get requestId = some caller →
    caller.future.done = true

/-- `stop` is called in the first state and returns in the last, with these
events in between; on a pool whose worker is gone it returns at once. -/
def StopReturns (pool : RequestPool) (meanwhile : List PoolEvent)
    (pool' : RequestPool) : Prop :=
  if pool.worker = .stopped then meanwhile = [] ∧ pool' = pool
  else Lts.run step pool (.stop :: meanwhile ++ [.stopped]) = some pool'

section Shutdown

variable {pool pool' : RequestPool} {event : PoolEvent}
  {meanwhile : List PoolEvent}

theorem allDone_iff : pool.AllDone ↔ ∀ requestId, ¬ pool.Pending requestId := by
  constructor
  · rintro h requestId ⟨caller, hget, hpending⟩
    have hdone := h requestId caller hget
    rw [hpending] at hdone
    cases hdone
  · intro h requestId caller hget
    by_contra hdone
    exact h requestId ⟨caller, hget, Asyncio.Waiter.pending_of_not_done hdone⟩

theorem roundOf_stopping (hworker : pool.worker = .stopping) :
    pool.roundOf event = none := by
  unfold roundOf
  rw [hworker]

/-- Who is pending after a caller's own step. -/
theorem pending_set {requestId requestId' : RequestId} {caller' : Caller}
    (hdone : caller'.future ≠ .pending) :
    Pending { pool with callers := pool.callers.set requestId caller' }
        requestId' ↔ pool.Pending requestId' ∧ requestId' ≠ requestId := by
  by_cases heq : requestId' = requestId
  · refine iff_of_false ?_ fun h => h.2 heq
    rintro ⟨other, hget, hpending⟩
    rw [heq] at hget
    replace hget : (pool.callers.set requestId caller').get requestId = _ := hget
    rw [PyDict.get_set_self] at hget
    injection hget with hget
    exact hdone (hget ▸ hpending)
  · rw [and_iff_left heq]
    unfold Pending
    dsimp only
    rw [PyDict.get_set_of_ne _ heq]

/-- While the worker is going, a step completes a future only by cancelling
its caller. -/
theorem stopping_step (hworker : pool.worker = .stopping)
    (hassign : ∀ request, event ≠ .assign request)
    (hstopped : event ≠ .stopped) (hstep : pool.step event = some pool') :
    pool'.worker = .stopping ∧
      ∀ requestId, pool'.Pending requestId ↔
        pool.Pending requestId ∧ event ≠ .cancel requestId := by
  cases quiet_of_step (roundOf_stopping hworker) hstep with
  | assign request => exact absurd rfl (hassign request)
  | cancel requestId caller caller' hget hcancel =>
      refine ⟨hworker, fun requestId' => ?_⟩
      rw [pending_set (Asyncio.Waiter.cancel_ne_pending hcancel)]
      refine and_congr_right fun _ => not_congr ?_
      constructor
      · rintro rfl
        rfl
      · intro heq
        injection heq with heq
        exact heq.symm
  | resume requestId caller caller' hget hresume =>
      obtain ⟨hsame, hdone⟩ := Asyncio.Waiter.resume_eq_some hresume
      refine ⟨hworker, fun requestId' => ?_⟩
      rw [pending_set (hsame ▸ hdone)]
      refine and_congr_right ?_
      rintro ⟨other, hother, hpending⟩
      refine iff_of_true ?_ fun heq => by cases heq
      -- a task that runs does not await a pending future
      rintro rfl
      rw [hget] at hother
      injection hother with hother
      exact hdone (hother ▸ hpending)
  | get _ _ hwaiting =>
      rw [hworker] at hwaiting
      cases hwaiting
  | collect _ hyielded =>
      rw [hworker] at hyielded
      cases hyielded
  | stop => exact ⟨rfl, fun _ => (and_iff_left fun heq => by cases heq).symm⟩
  | stopped => exact absurd rfl hstopped

/-- Only a call of `assign` starts a worker again. -/
theorem stopped_step (hworker : pool.worker = .stopped)
    (hassign : ∀ request, event ≠ .assign request)
    (hstep : pool.step event = some pool') :
    event ≠ .stopped ∧ pool'.worker = .stopped := by
  have hround : pool.roundOf event = none := by
    unfold roundOf
    rw [hworker]
  cases quiet_of_step hround hstep with
  | assign request => exact absurd rfl (hassign request)
  | cancel =>
      refine ⟨?_, hworker⟩
      intro heq
      cases heq
  | resume =>
      refine ⟨?_, hworker⟩
      intro heq
      cases heq
  | get _ _ hwaiting =>
      rw [hworker] at hwaiting
      cases hwaiting
  | collect _ hyielded =>
      rw [hworker] at hyielded
      cases hyielded
  | stop hrunning => exact absurd hworker hrunning
  | stopped hstopping =>
      rw [hworker] at hstopping
      cases hstopping

theorem stopped_run (hworker : pool.worker = .stopped)
    (hassign : ∀ request, .assign request ∉ meanwhile) :
    Lts.run step pool (meanwhile ++ [.stopped]) = none := by
  rw [← Option.not_isSome_iff_eq_none, Option.isSome_iff_exists]
  rintro ⟨last, hrun⟩
  obtain ⟨middle, hmiddle, hlast⟩ := Lts.run_concat_eq_some.mp hrun
  have halong : Lts.Along step (fun _ event => ∀ request, event ≠ .assign request)
      pool meanwhile := by
    apply Lts.along_of_forall
    rintro event hmem request rfl
    exact hassign request hmem
  have hgone : middle.worker = .stopped :=
    Lts.run_invariant (I := fun pool : RequestPool => pool.worker = .stopped)
      (fun _ _ _ hI hok hstep => (stopped_step hI hok hstep).2) hworker halong
      hmiddle
  exact (stopped_step hgone (fun _ heq => by cases heq) hlast).1 rfl

/-- What `stop` leaves: of the requests that were pending, those whose
callers were not cancelled. -/
theorem stopping_run (hworker : pool.worker = .stopping)
    (hassign : ∀ request, .assign request ∉ meanwhile)
    (hrun : Lts.run step pool (meanwhile ++ [.stopped]) = some pool') :
    ∀ requestId, pool'.Pending requestId ↔
      pool.Pending requestId ∧ .cancel requestId ∉ meanwhile := by
  induction meanwhile generalizing pool with
  -- the return of `stop` answers nobody
  | nil =>
      obtain ⟨last, hstep, hlast⟩ := Lts.run_cons_eq_some.mp hrun
      injection hlast with hlast
      have hquiet := quiet_of_step (roundOf_stopping hworker) hstep
      rw [hlast] at hquiet
      intro requestId
      cases hquiet with
      | stopped => exact (and_iff_left List.not_mem_nil).symm
  | cons event meanwhile ih =>
      obtain ⟨middle, hstep, hrest⟩ := Lts.run_cons_eq_some.mp hrun
      have hevent : ∀ request, event ≠ .assign request := by
        rintro request rfl
        exact hassign request (List.mem_cons_self ..)
      by_cases hstopped : event = .stopped
      · -- once the worker is gone, it cannot go again
        subst hstopped
        cases quiet_of_step (roundOf_stopping hworker) hstep with
        | stopped =>
            have hgone : ({ pool with worker := .stopped } : RequestPool).worker =
                .stopped := rfl
            have hnone := stopped_run hgone fun request hmem =>
              hassign request (List.mem_cons_of_mem _ hmem)
            exact absurd (hnone.symm.trans hrest) (Option.some_ne_none _).symm
      -- any other step leaves the worker where it is, and the pending pending,
      -- unless it cancels one of them
      · obtain ⟨hmiddle, hfirst⟩ :=
          stopping_step hworker hevent hstopped hstep
        have hothers := ih hmiddle
          (fun request hmem => hassign request (List.mem_cons_of_mem _ hmem))
          hrest
        intro requestId
        rw [hothers, hfirst, List.mem_cons, not_or, and_assoc]
        refine and_congr_right fun _ => and_congr_left fun _ => ?_
        exact not_congr eq_comm

/-- `stop` strands nobody exactly when everyone whose request is pending at
its call is cancelled before it returns. -/
theorem stop_completes_iff (pool : RequestPool) (meanwhile : List PoolEvent)
    (pool' : RequestPool) (hassign : ∀ request, .assign request ∉ meanwhile)
    (hstop : pool.StopReturns meanwhile pool') :
    pool'.AllDone ↔
      ∀ requestId, pool.Pending requestId → .cancel requestId ∈ meanwhile := by
  rw [allDone_iff]
  have hpending : ∀ requestId, pool'.Pending requestId ↔
      pool.Pending requestId ∧ .cancel requestId ∉ meanwhile := by
    unfold StopReturns at hstop
    split at hstop
    next =>
      obtain ⟨rfl, rfl⟩ := hstop
      exact fun requestId => (and_iff_left List.not_mem_nil).symm
    next =>
      obtain ⟨middle, hstep, hrun⟩ := Lts.run_cons_eq_some.mp hstop
      simp only [step] at hstep
      split at hstep
      next => cases hstep
      next =>
        injection hstep with hstep
        subst hstep
        have hgoing : ({ pool with worker := .stopping } : RequestPool).worker =
            .stopping := rfl
        have hleft := stopping_run hgoing hassign hrun
        exact hleft
  apply forall_congr'
  intro requestId
  rw [hpending, not_and, not_not]

/-- The pool with one request in planning and one queued. -/
def oneInPlanning : RequestPool where
  maxPlanningGroupSize := 1
  queue := [⟨"q", [], 0⟩]
  worker := .planning [⟨"r", [], 0⟩]
  callers := .ofList [("r", .start), ("q", .start)]
  calls := []

/-- Both callers give up while the worker is going. -/
theorem stop_completes_two_callers :
    ∃ pool', oneInPlanning.StopReturns [.cancel "q", .cancel "r"] pool' ∧
      pool'.AllDone := by
  have hsome : (Lts.run step oneInPlanning
      [.stop, .cancel "q", .cancel "r", .stopped]).isSome := by decide
  obtain ⟨pool', hrun⟩ := Option.isSome_iff_exists.mp hsome
  refine ⟨pool', hrun, ?_⟩
  apply (stop_completes_iff oneInPlanning [.cancel "q", .cancel "r"] pool'
    (by simp) hrun).mpr
  rintro requestId ⟨caller, hget, _⟩
  have hmem := PyDict.mem_of_get_ofList hget
  simp only [List.mem_cons, Prod.mk.injEq, List.not_mem_nil, or_false] at hmem
  obtain ⟨rfl, _⟩ | ⟨rfl, _⟩ := hmem <;> simp

/-- Nobody gives up: when `stop` has returned, both are pending, and there
is no worker to answer them. -/
theorem stop_strands_two_callers :
    ∃ pool', Lts.run step (init 1)
        [.assign ⟨"r", [], 0⟩, .assign ⟨"q", [], 0⟩, .get, .collect] =
          some oneInPlanning ∧
      oneInPlanning.StopReturns [] pool' ∧ pool'.worker = .stopped ∧
      pool'.Pending "r" ∧ pool'.Pending "q" ∧ ¬ pool'.AllDone := by
  have hpending : ({ oneInPlanning with worker := .stopped } :
      RequestPool).Pending "r" := ⟨.start, rfl, rfl⟩
  refine ⟨{ oneInPlanning with worker := .stopped }, rfl, rfl, rfl, hpending,
    ⟨.start, rfl, rfl⟩, ?_⟩
  rw [allDone_iff]
  exact fun hall => hall "r" hpending

end Shutdown

end RequestPool

end Kareserve
