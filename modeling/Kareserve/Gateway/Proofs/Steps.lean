/-
What a step of the request pool can be (Gateway/Pool.lean).

A step either ends a planning round, which `roundOf` reads off the state
and the event, or is one of the seven in `Quiet`. Every proof about a step
goes by these two and never unfolds `step` (`roundOf_eq_some`,
`quiet_of_step`).

To the callers of a group the end of its round does one thing: a future
that was pending is answered, and its task waits to run (`step_caller`).
Calls are only ever added (`step_calls`).

A round is looked at as a whole because its step is: the worker hands out the
results of a group without an await, so no other task sees some of the
callers answered and others not.
-/
import Kareserve.Gateway.Pool

namespace Kareserve

namespace RequestPool

-- ================================================================ rounds

/-- A group and what came of its plan. -/
structure Round where
  group : List SchedulerRequest
  outcome : Except PyException (PyDict RequestId RouteAssignment)

/-- The round an event ends. -/
def roundOf (pool : RequestPool) (event : PoolEvent) : Option Round :=
  match pool.worker, event with
  | .planning group, .planned assignments =>
      some ⟨group, (commitPlan group assignments).map fun _ => assignments⟩
  | .planning group, .planFailed error => some ⟨group, .error error⟩
  | _, _ => none

section Steps

variable {pool pool' : RequestPool} {event : PoolEvent} {round : Round}

/-- The two events that end a round. -/
theorem roundOf_eq_some (h : pool.roundOf event = some round) :
    pool.worker = .planning round.group ∧
      ((∃ assignments, event = .planned assignments ∧
          round.outcome =
            (commitPlan round.group assignments).map fun _ => assignments) ∨
        ∃ error, event = .planFailed error ∧ round.outcome = .error error) := by
  unfold roundOf at h
  split at h
  next group assignments hworker =>
    injection h with h
    rw [← h]
    exact ⟨hworker, .inl ⟨assignments, rfl, rfl⟩⟩
  next group error hworker =>
    injection h with h
    rw [← h]
    exact ⟨hworker, .inr ⟨error, rfl, rfl⟩⟩
  next => cases h

/-- A request that joins ends no round. -/
theorem roundOf_assign (pool : RequestPool) (request : SchedulerRequest) :
    pool.roundOf (.assign request) = none := by
  unfold roundOf
  cases pool.worker <;> rfl

-- =========================================================== other steps

/-- The steps that end no round. -/
inductive Quiet (pool : RequestPool) : PoolEvent → RequestPool → Prop
  | assign (request : SchedulerRequest)
      (fresh : pool.callers.get request.requestId = none) :
      Quiet pool (.assign request) (pool.assign request)
  | cancel (requestId : RequestId) (caller caller' : Caller)
      (get : pool.callers.get requestId = some caller)
      (cancel : caller.cancel = some caller') :
      Quiet pool (.cancel requestId)
        { pool with callers := pool.callers.set requestId caller' }
  | resume (requestId : RequestId) (caller caller' : Caller)
      (get : pool.callers.get requestId = some caller)
      (resume : caller.resume = some caller') :
      Quiet pool (.resume requestId)
        { pool with callers := pool.callers.set requestId caller' }
  | get (first : SchedulerRequest) (queue : List SchedulerRequest)
      (waiting : pool.worker = .waiting) (head : pool.queue = first :: queue) :
      Quiet pool .get { pool with worker := .yielded first, queue := queue }
  | collect (first : SchedulerRequest) (yielded : pool.worker = .yielded first) :
      Quiet pool .collect
        { pool with
          worker := .planning
            (first :: pool.queue.take (pool.maxPlanningGroupSize - 1))
          queue := pool.queue.drop (pool.maxPlanningGroupSize - 1) }
  | stop (running : pool.worker ≠ .stopped) :
      Quiet pool .stop { pool with worker := .stopping }
  | stopped (stopping : pool.worker = .stopping) :
      Quiet pool .stopped { pool with worker := .stopped }

/-- A step that ends no round leaves everyone who has an answer with it. -/
theorem quiet_of_step (hround : pool.roundOf event = none)
    (hstep : pool.step event = some pool') : Quiet pool event pool' := by
  cases event with
  | assign request =>
      simp only [step] at hstep
      split at hstep
      next hfresh =>
        injection hstep with hstep
        rw [← hstep]
        exact .assign request (Option.isNone_iff_eq_none.mp hfresh)
      next => cases hstep
  | cancel requestId =>
      obtain ⟨caller, hget, hstep⟩ := Option.bind_eq_some_iff.mp hstep
      obtain ⟨caller', hcancel, hstep⟩ := Option.map_eq_some_iff.mp hstep
      rw [← hstep]
      exact .cancel requestId caller caller' hget hcancel
  | resume requestId =>
      obtain ⟨caller, hget, hstep⟩ := Option.bind_eq_some_iff.mp hstep
      obtain ⟨caller', hresume, hstep⟩ := Option.map_eq_some_iff.mp hstep
      rw [← hstep]
      exact .resume requestId caller caller' hget hresume
  | get =>
      simp only [step] at hstep
      split at hstep
      next first queue hworker hqueue =>
        injection hstep with hstep
        rw [← hstep]
        exact .get first queue hworker hqueue
      next => cases hstep
  | collect =>
      simp only [step] at hstep
      split at hstep
      next first hworker =>
        injection hstep with hstep
        rw [← hstep]
        exact .collect first hworker
      next => cases hstep
  -- a plan's end is a round, which this is not
  | planned assignments =>
      simp only [step] at hstep
      split at hstep
      next group hworker =>
        unfold roundOf at hround
        rw [hworker] at hround
        cases hround
      next => cases hstep
  | planFailed error =>
      simp only [step] at hstep
      split at hstep
      next group hworker =>
        unfold roundOf at hround
        rw [hworker] at hround
        cases hround
      next => cases hstep
  | stop =>
      simp only [step] at hstep
      split at hstep
      next => cases hstep
      next hrunning =>
        injection hstep with hstep
        rw [← hstep]
        exact .stop hrunning
  | stopped =>
      simp only [step] at hstep
      split at hstep
      next hstopping =>
        injection hstep with hstep
        rw [← hstep]
        exact .stopped hstopping
      next => cases hstep

-- ====================================================== calls and callers

/-- A caller is given its answer, or left alone. -/
def AnswersAt (pool : RequestPool) (requestId : RequestId)
    (caller' : Caller) : Prop :=
  pool.callers.get requestId = some caller' ∨
    ∃ caller, pool.callers.get requestId = some caller ∧
      caller.future = .pending ∧ caller'.task = .awaiting false

/-- What the loops over a group do to the callers and the calls. -/
structure Answers (pool pool' : RequestPool) : Prop where
  calls : pool.calls <+: pool'.calls
  caller : ∀ requestId caller', pool'.callers.get requestId = some caller' →
    AnswersAt pool requestId caller'

/-- Nobody is answered. -/
theorem Answers.refl (pool : RequestPool) : Answers pool pool where
  calls := List.prefix_refl _
  caller _ _ hget := .inl hget

/-- Answered one after another. -/
theorem Answers.trans {pool'' : RequestPool} (h : Answers pool pool')
    (h' : Answers pool' pool'') : Answers pool pool'' where
  calls := h.calls.trans h'.calls
  caller requestId caller'' hget := by
    obtain hsame | ⟨caller', hget', hpending, htask⟩ :=
      h'.caller requestId caller'' hget
    · exact h.caller requestId caller'' hsame
    · obtain hsame | ⟨caller, hget₀, hpending₀, -⟩ :=
        h.caller requestId caller' hget'
      · exact .inr ⟨caller', hsame, hpending, htask⟩
      · exact .inr ⟨caller, hget₀, hpending₀, htask⟩

/-- One caller is answered. -/
theorem Answers.set {requestId : RequestId} {caller caller' : Caller}
    (hget : pool.callers.get requestId = some caller)
    (hanswer : caller' = caller ∨
      (caller.future = .pending ∧ caller'.task = .awaiting false)) :
    Answers pool
      { pool with callers := pool.callers.set requestId caller' } where
  calls := List.prefix_refl _
  caller requestId' other hother := by
    dsimp only at hother
    rw [PyDict.get_set] at hother
    split at hother
    next heq =>
      injection hother with hother
      rw [← hother, heq]
      obtain rfl | ⟨hpending, htask⟩ := hanswer
      · exact .inl hget
      · exact .inr ⟨caller, hget, hpending, htask⟩
    next => exact .inl hother

/-- A result is an answer, if it is still awaited. -/
theorem handOutOne_answers {results : PyDict RequestId AssignmentResult}
    {request : SchedulerRequest}
    (h : pool.handOutOne results request = some pool') :
    Answers pool pool' := by
  obtain ⟨caller, hget, h⟩ := Option.bind_eq_some_iff.mp h
  obtain ⟨result, -, h⟩ := Option.bind_eq_some_iff.mp h
  split at h
  next =>
    injection h with h
    rw [← h]
    exact ⟨List.prefix_append _ _, fun _ _ hget => .inl hget⟩
  next =>
    obtain ⟨caller', hset, h⟩ := Option.map_eq_some_iff.mp h
    rw [← h]
    refine .set hget (.inr ?_)
    unfold Asyncio.Waiter.setResult at hset
    split at hset
    next => cases hset
    next hdone =>
      injection hset with hset
      rw [← hset]
      exact ⟨Asyncio.Waiter.pending_of_not_done hdone, rfl⟩

/-- The results of a whole group. -/
theorem handOut_answers {results : PyDict RequestId AssignmentResult}
    {group : List SchedulerRequest}
    (h : handOut results pool group = some pool') : Answers pool pool' := by
  induction group generalizing pool with
  | nil =>
      injection h with h
      rw [h]
      exact .refl _
  | cons request group ih =>
      obtain ⟨pool₁, hone, hrest⟩ := Option.bind_eq_some_iff.mp h
      exact (handOutOne_answers hone).trans (ih hrest)

theorem failOne_answers (error : PyException) (request : SchedulerRequest) :
    Answers pool (pool.failOne error request) := by
  unfold failOne
  split
  next => exact .refl _
  next caller hget =>
    refine .set hget ?_
    unfold Asyncio.Waiter.failIfPending
    split
    next => exact .inl rfl
    next hdone =>
      exact .inr ⟨Asyncio.Waiter.pending_of_not_done hdone, rfl⟩

/-- The exception of a whole group. -/
theorem fail_answers (error : PyException) (group : List SchedulerRequest) :
    Answers pool (pool.fail error group) := by
  induction group generalizing pool with
  | nil => exact .refl _
  | cons request group ih => exact (failOne_answers error request).trans ih

/-- The worker's place is no one's answer. -/
theorem Answers.of_eq {pool₀ pool₁ : RequestPool} (h : Answers pool₀ pool₁)
    (hcalls : pool.calls <+: pool₀.calls) (hcallers : pool₀.callers = pool.callers)
    (hcalls' : pool'.calls = pool₁.calls)
    (hcallers' : pool'.callers = pool₁.callers) : Answers pool pool' where
  calls := hcalls' ▸ hcalls.trans h.calls
  caller requestId caller' hget := by
    have hat := h.caller requestId caller' (hcallers' ▸ hget)
    unfold AnswersAt at hat ⊢
    rwa [hcallers] at hat

/-- The end of a round answers callers. -/
theorem round_answers (hround : pool.roundOf event = some round)
    (hstep : pool.step event = some pool') : Answers pool pool' := by
  obtain ⟨hworker, ⟨assignments, rfl, -⟩ | ⟨error, rfl, -⟩⟩ :=
    roundOf_eq_some hround
  · simp only [step, hworker] at hstep
    split at hstep
    next =>
      split at hstep
      next error hcommit =>
        injection hstep with hstep
        rw [← hstep]
        exact (fail_answers error round.group).of_eq
          (List.prefix_refl _) rfl rfl rfl
      next calls results hcommit =>
        exact (handOut_answers hstep).of_eq
          (List.prefix_append _ _) rfl rfl rfl
    next => cases hstep
  · simp only [step, hworker] at hstep
    injection hstep with hstep
    rw [← hstep]
    exact (fail_answers error round.group).of_eq (List.prefix_refl _) rfl rfl rfl

/-- A quiet step makes no call. -/
theorem Quiet.calls_eq (h : Quiet pool event pool') :
    pool'.calls = pool.calls := by
  cases h <;> rfl

/-- No call is taken back. -/
theorem step_calls (hstep : pool.step event = some pool') :
    pool.calls <+: pool'.calls := by
  cases hround : pool.roundOf event with
  | some round => exact (round_answers hround hstep).calls
  | none =>
      rw [(quiet_of_step hround hstep).calls_eq]

/-- What a caller found after a step was before it. -/
inductive Was (pool : RequestPool) (event : PoolEvent) (requestId : RequestId)
    (caller' : Caller) : Prop
  | same (get : pool.callers.get requestId = some caller')
  | new (request : SchedulerRequest) (assign : event = .assign request)
      (own : request.requestId = requestId) (start : caller' = .start)
  | cancelled (caller : Caller) (own : event = .cancel requestId)
      (get : pool.callers.get requestId = some caller)
      (cancel : caller.cancel = some caller')
  | resumed (caller : Caller) (own : event = .resume requestId)
      (get : pool.callers.get requestId = some caller)
      (resume : caller.resume = some caller')
  | answered (caller : Caller)
      (get : pool.callers.get requestId = some caller)
      (pending : caller.future = .pending)
      (task : caller'.task = .awaiting false)

/-- What a step can have done to a caller. -/
theorem step_caller (hstep : pool.step event = some pool')
    {requestId : RequestId} {caller' : Caller}
    (hget : pool'.callers.get requestId = some caller') :
    Was pool event requestId caller' := by
  cases hround : pool.roundOf event with
  | some round =>
      obtain hsame | ⟨caller, hcaller, hpending, htask⟩ :=
        (round_answers hround hstep).caller requestId caller' hget
      · exact .same hsame
      · exact .answered caller hcaller hpending htask
  | none =>
      cases quiet_of_step hround hstep with
      | assign request hfresh =>
          rw [show (pool.assign request).callers
            = pool.callers.set request.requestId .start from rfl,
            PyDict.get_set] at hget
          split at hget
          next heq =>
            injection hget with hget
            exact .new request rfl heq.symm hget.symm
          next => exact .same hget
      | cancel requestId' caller caller'' hcaller hcancel =>
          dsimp only at hget
          rw [PyDict.get_set] at hget
          split at hget
          next heq =>
            injection hget with hget
            subst hget
            subst heq
            exact .cancelled caller rfl hcaller hcancel
          next => exact .same hget
      | resume requestId' caller caller'' hcaller hresume =>
          dsimp only at hget
          rw [PyDict.get_set] at hget
          split at hget
          next heq =>
            injection hget with hget
            subst hget
            subst heq
            exact .resumed caller rfl hcaller hresume
          next => exact .same hget
      | get => exact .same hget
      | collect => exact .same hget
      | stop => exact .same hget
      | stopped => exact .same hget

end Steps

end RequestPool

end Kareserve
