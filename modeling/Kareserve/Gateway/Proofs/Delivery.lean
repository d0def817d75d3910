/-
How the request pool serves its callers (Gateway/Pool.lean).

# Rounds

A planning round is a group and what came of its plan, read off the step
that ends it (Gateway/Proofs/Steps.lean); the trace of a run has its
rounds in order.

# Futures

One lemma says what a step does to a caller's future (`step_future`): it
stays, or it was pending and is cancelled by its caller or answered by
the round of its group. That a future is completed once and with what its
own round answers, and that a round leaves other callers alone, are read
off it. The existing invariant of the pool (Gateway/Proofs/Pool.lean)
says that those the pool still holds are pending or cancelled, which is
why the hand-out never meets a completed future.

# Order

Nothing is taken but from the head of the queue and nothing is put back,
so what arrived is what was grouped followed by what was not
(`Delivers.segments`).
-/
import Kareserve.Gateway.Proofs.Pool

namespace Kareserve

namespace RequestPool

-- ========================================================== definitions

/-- What a round answers a request of its group. -/
def Round.Answers (round : Round) (requestId : RequestId)
    (future : Asyncio.Future AssignmentResult PyException) : Prop :=
  match round.outcome with
  | .error error => future = .exception error
  | .ok assignments =>
      ∃ assignment, assignments.get requestId = some assignment ∧
        future = .result ⟨assignment, round.group.length⟩

/-- The requests `assign` was called for, in order. -/
def arrivals (events : List PoolEvent) : List SchedulerRequest :=
  events.filterMap fun event =>
    match event with
    | .assign request => some request
    | _ => none

/-- The groups taken so far, the one in planning last. -/
def groups (pool : RequestPool) (rounds : List Round) :
    List (List SchedulerRequest) :=
  rounds.map (·.group) ++
    match pool.worker with
    | .planning group => [group]
    | _ => []

/-- The requests not yet in a group. -/
def ungrouped (pool : RequestPool) : List SchedulerRequest :=
  (match pool.worker with
    | .yielded first => [first]
    | _ => []) ++ pool.queue

/-- What a loop over a group does: it answers those of the group who still
wait, and no one else. -/
structure Serves
    (answers : RequestId → Asyncio.Future AssignmentResult PyException → Prop)
    (requestIds : List RequestId) (pool pool' : RequestPool) : Prop where
  queue : pool'.queue = pool.queue
  worker : pool'.worker = pool.worker
  size : pool'.maxPlanningGroupSize = pool.maxPlanningGroupSize
  other : ∀ requestId, requestId ∉ requestIds →
    pool'.callers.get requestId = pool.callers.get requestId
  future : ∀ requestId caller, pool.callers.get requestId = some caller →
    ∃ caller', pool'.callers.get requestId = some caller' ∧
      (caller'.future = caller.future ∨
        (caller.future = .pending ∧ requestId ∈ requestIds ∧
          answers requestId caller'.future)) ∧
      (requestId ∈ requestIds → caller'.future.done = true)

section Serves

variable {pool pool' pool'' : RequestPool} {group : List SchedulerRequest}
  {answers : RequestId → Asyncio.Future AssignmentResult PyException → Prop}
  {requestIds requestIds' : List RequestId}

/-- Nobody served. -/
theorem Serves.refl : Serves answers [] pool pool where
  queue := rfl
  worker := rfl
  size := rfl
  other _ _ := rfl
  future _ caller hget :=
    ⟨caller, hget, .inl rfl, fun hmem => absurd hmem List.not_mem_nil⟩

/-- Served one after another: whoever has an answer keeps it. -/
theorem Serves.trans (h : Serves answers requestIds pool pool')
    (h' : Serves answers requestIds' pool' pool'')
    (hdone : ∀ requestId future, answers requestId future →
      future.done = true) :
    Serves answers (requestIds ++ requestIds') pool pool'' where
  queue := h'.queue.trans h.queue
  worker := h'.worker.trans h.worker
  size := h'.size.trans h.size
  other requestId hmem := by
    rw [List.mem_append, not_or] at hmem
    rw [h'.other requestId hmem.2, h.other requestId hmem.1]
  future requestId caller hget := by
    obtain ⟨middle, hmiddle, hfirst, hdone₁⟩ := h.future requestId caller hget
    obtain ⟨last, hlast, hsecond, hdone₂⟩ :=
      h'.future requestId middle hmiddle
    have hkeeps : middle.future.done = true → last.future = middle.future := by
      intro hmiddleDone
      obtain hsame | ⟨hpending, _, _⟩ := hsecond
      · exact hsame
      · rw [hpending] at hmiddleDone
        cases hmiddleDone
    refine ⟨last, hlast, ?_, fun hmem => ?_⟩
    · obtain hsame | ⟨hpending, hmem, hanswers⟩ := hfirst
      · obtain hsame' | ⟨hpending, hmem, hanswers⟩ := hsecond
        · exact .inl (hsame'.trans hsame)
        · exact .inr ⟨hsame ▸ hpending, List.mem_append_right _ hmem, hanswers⟩
      · rw [hkeeps (hdone _ _ hanswers)]
        exact .inr ⟨hpending, List.mem_append_left _ hmem, hanswers⟩
    · rcases List.mem_append.mp hmem with hmem | hmem
      · rw [hkeeps (hdone₁ hmem)]
        exact hdone₁ hmem
      · exact hdone₂ hmem

/-- One caller's future is set, or found done. -/
theorem Serves.set {requestId : RequestId} {caller caller' : Caller}
    (hget : pool.callers.get requestId = some caller)
    (hfuture : caller'.future = caller.future ∨
      (caller.future = .pending ∧ answers requestId caller'.future))
    (hdone : caller'.future.done = true) :
    Serves answers [requestId] pool
      { pool with callers := pool.callers.set requestId caller' } where
  queue := rfl
  worker := rfl
  size := rfl
  other requestId' hmem :=
    PyDict.get_set_of_ne _ (fun heq => hmem (List.mem_singleton.mpr heq)) _
  future requestId' other hother := by
    by_cases heq : requestId' = requestId
    · rw [heq, hget] at hother
      injection hother with hother
      rw [heq, ← hother]
      refine ⟨caller', PyDict.get_set_self _ _ _, ?_, fun _ => hdone⟩
      obtain hsame | ⟨hpending, hanswers⟩ := hfuture
      · exact .inl hsame
      · exact .inr ⟨hpending, List.mem_singleton.mpr rfl, hanswers⟩
    · refine ⟨other, (PyDict.get_set_of_ne _ heq _).trans hother, .inl rfl, ?_⟩
      intro hmem
      exact absurd (List.mem_singleton.mp hmem) heq

/-- A result as the answer of a hand-out. -/
def HandsOut (results : PyDict RequestId AssignmentResult)
    (requestId : RequestId)
    (future : Asyncio.Future AssignmentResult PyException) : Prop :=
  ∃ result, results.get requestId = some result ∧ future = .result result

/-- One result, set on its caller's future if that is still pending. -/
theorem handOutOne_serves {results : PyDict RequestId AssignmentResult}
    {request : SchedulerRequest}
    (h : pool.handOutOne results request = some pool') :
    Serves (HandsOut results) [request.requestId] pool pool' := by
  obtain ⟨caller, hget, h⟩ := Option.bind_eq_some_iff.mp h
  obtain ⟨result, hresult, h⟩ := Option.bind_eq_some_iff.mp h
  by_cases hcancelled : caller.future = .cancelled
  · rw [if_pos hcancelled] at h
    injection h with h
    rw [← h]
    -- only the release is new
    refine ⟨rfl, rfl, rfl, fun _ _ => rfl, fun requestId other hother => ?_⟩
    refine ⟨other, hother, .inl rfl, fun hmem => ?_⟩
    rw [List.mem_singleton.mp hmem, hget] at hother
    injection hother with hother
    rw [← hother, hcancelled]
    rfl
  · rw [if_neg hcancelled] at h
    obtain ⟨caller', hset, h⟩ := Option.map_eq_some_iff.mp h
    rw [← h]
    unfold Asyncio.Waiter.setResult at hset
    split at hset
    next => cases hset
    next hdone =>
      injection hset with hset
      apply Serves.set hget
      · rw [← hset]
        exact .inr ⟨Asyncio.Waiter.pending_of_not_done hdone, result, hresult, rfl⟩
      · rw [← hset]
        rfl

/-- The results of a plan, in the order of its group. -/
theorem handOut_serves {results : PyDict RequestId AssignmentResult}
    (h : handOut results pool group = some pool') :
    Serves (HandsOut results) (group.map (·.requestId)) pool pool' := by
  induction group generalizing pool with
  | nil =>
      injection h with h
      rw [← h]
      exact .refl
  | cons request group ih =>
      obtain ⟨middle, hone, hrest⟩ := Option.bind_eq_some_iff.mp h
      apply (handOutOne_serves hone).trans (ih hrest)
      rintro requestId future ⟨result, _, rfl⟩
      rfl

/-- One exception. -/
theorem failOne_serves (error : PyException) (request : SchedulerRequest) :
    Serves (fun _ future => future = .exception error) [request.requestId] pool
      (pool.failOne error request) := by
  unfold failOne
  cases hget : pool.callers.get request.requestId with
  | none =>
      refine ⟨rfl, rfl, rfl, fun _ _ => rfl, fun requestId other hother => ?_⟩
      refine ⟨other, hother, .inl rfl, fun hmem => ?_⟩
      rw [List.mem_singleton.mp hmem, hget] at hother
      cases hother
  | some caller =>
      have hfuture := caller.failIfPending_future error
      apply Serves.set hget
      · rw [hfuture]
        split
        next => exact .inl rfl
        next hdone =>
          exact .inr ⟨Asyncio.Waiter.pending_of_not_done hdone, rfl⟩
      · rw [hfuture]
        split
        next hdone => exact hdone
        next => rfl

variable (pool group) in
/-- The exception of a plan that raised, for its whole group. -/
theorem fail_serves (error : PyException) :
    Serves (fun _ future => future = .exception error)
      (group.map (·.requestId)) pool (pool.fail error group) := by
  induction group generalizing pool with
  | nil => exact .refl
  | cons request group ih =>
      apply (failOne_serves error request).trans (ih _)
      intro requestId future hfuture
      rw [hfuture]
      rfl

/-- Answers of a kind are answers of a wider one. -/
theorem Serves.imp
    {answers' : RequestId → Asyncio.Future AssignmentResult PyException → Prop}
    (h : Serves answers requestIds pool pool')
    (himp : ∀ requestId ∈ requestIds, ∀ future,
      answers requestId future → answers' requestId future) :
    Serves answers' requestIds pool pool' where
  queue := h.queue
  worker := h.worker
  size := h.size
  other := h.other
  future requestId caller hget := by
    obtain ⟨caller', hget', hfuture, hdone⟩ := h.future requestId caller hget
    refine ⟨caller', hget', ?_, hdone⟩
    obtain hsame | ⟨hpending, hmem, hanswers⟩ := hfuture
    · exact .inl hsame
    · exact .inr ⟨hpending, hmem, himp requestId hmem _ hanswers⟩

end Serves

-- ================================================================ steps

section Steps

variable {pool pool' : RequestPool} {event : PoolEvent} {round : Round}

/-- A round that fails. -/
theorem fail_round {error : PyException} (houtcome : round.outcome = .error error) :
    Serves round.Answers (round.group.map (·.requestId))
        { pool with worker := .waiting }
        { pool.fail error round.group with worker := .waiting } := by
  have h := fail_serves pool round.group error
  have hserves : Serves (fun _ future => future = .exception error)
      (round.group.map (·.requestId)) { pool with worker := .waiting }
      { pool.fail error round.group with worker := .waiting } :=
    ⟨h.queue, rfl, h.size, h.other, h.future⟩
  apply hserves.imp
  intro requestId _ future hfuture
  unfold Round.Answers
  rw [houtcome]
  exact hfuture

/-- A plan that failed has made no calls. -/
theorem calls_fail (error : PyException) (group : List SchedulerRequest) :
    (pool.fail error group).calls = pool.calls := by
  induction group generalizing pool with
  | nil => rfl
  | cons request group ih =>
      show ((pool.failOne error request).fail error group).calls = pool.calls
      rw [ih]
      unfold failOne
      split <;> rfl

/-- What the end of a round does: the worker waits again, the group is
answered, and all else stays; a round that fails makes no call. -/
theorem step_round (hround : pool.roundOf event = some round)
    (hstep : pool.step event = some pool') :
    pool.worker = .planning round.group ∧
      Serves round.Answers (round.group.map (·.requestId))
        { pool with worker := .waiting } pool' ∧
      ∀ error, round.outcome = .error error → pool'.calls = pool.calls := by
  obtain ⟨hworker, hevent⟩ := roundOf_eq_some hround
  refine ⟨hworker, ?_⟩
  -- a plan that returned is committed and handed out, unless an assignment is
  -- missing; one that raised fails its group
  obtain ⟨assignments, rfl, houtcome⟩ | ⟨error, rfl, houtcome⟩ := hevent
  · simp only [step, hworker] at hstep
    split at hstep
    next hkeys =>
      cases hcommit : commitPlan round.group assignments with
      | error error =>
          rw [hcommit] at hstep houtcome
          injection hstep with hstep
          rw [← hstep]
          exact ⟨fail_round houtcome, fun _ _ => calls_fail error round.group⟩
      | ok planned =>
          obtain ⟨calls, results⟩ := planned
          rw [hcommit] at hstep houtcome
          have h := handOut_serves hstep
          refine ⟨?_, fun error herror => ?_⟩
          · have hserves : Serves (HandsOut results)
                (round.group.map (·.requestId)) { pool with worker := .waiting }
                pool' :=
              ⟨h.queue, h.worker, h.size, h.other, h.future⟩
            apply hserves.imp
            rintro requestId hmem future ⟨result, hresult, rfl⟩
            obtain ⟨request, hrequest, rfl⟩ := List.mem_map.mp hmem
            obtain ⟨assignment, hassignment, hown⟩ :=
              (commitPlan_ok hcommit).2 request hrequest
            rw [hresult] at hown
            injection hown with hown
            unfold Round.Answers
            rw [houtcome]
            exact ⟨assignment, hassignment, congrArg _ hown⟩
          · rw [houtcome] at herror
            cases herror
    next => cases hstep
  · simp only [step, hworker] at hstep
    injection hstep with hstep
    rw [← hstep]
    exact ⟨fail_round houtcome, fun _ _ => calls_fail error round.group⟩

/-- A caller's own step moves its future from pending to cancelled, if it
moves it. -/
theorem future_set {requestId requestId' : RequestId}
    {caller caller' other : Caller}
    (hget : pool.callers.get requestId = some caller)
    (hfuture : caller'.future = caller.future ∨
      (caller.future = .pending ∧ caller'.future = .cancelled))
    (hother : pool.callers.get requestId' = some other) :
    ∃ other', (pool.callers.set requestId caller').get requestId' = some other' ∧
      (other'.future = other.future ∨
        (requestId' = requestId ∧ other.future = .pending ∧
          other'.future = .cancelled)) := by
  by_cases heq : requestId' = requestId
  · rw [heq, hget] at hother
    injection hother with hother
    rw [heq, ← hother]
    refine ⟨caller', PyDict.get_set_self _ _ _, ?_⟩
    obtain hsame | ⟨hpending, hcancelled⟩ := hfuture
    · exact .inl hsame
    · exact .inr ⟨rfl, hpending, hcancelled⟩
  · exact ⟨other, (PyDict.get_set_of_ne _ heq _).trans hother, .inl rfl⟩

/-- Everyone in a group has been answered when its round ends, or has given
up before. -/
theorem PoolInv.answers (h : PoolInv pool pool.held .empty) {round : Round}
    (hworker : pool.worker = .planning round.group)
    (hserves : Serves round.Answers (round.group.map (·.requestId))
      { pool with worker := .waiting } pool')
    {request : SchedulerRequest} (hrequest : request ∈ round.group) :
    ∃ caller, pool'.callers.get request.requestId = some caller ∧
      (caller.future = .cancelled ∨
        round.Answers request.requestId caller.future) := by
  have hheld : request ∈ pool.held := by
    unfold held
    rw [hworker]
    exact List.mem_append_left _ hrequest
  obtain ⟨caller, hget, hopen, _⟩ := h.unanswered request hheld
  obtain ⟨caller', hget', hfuture, hdone⟩ :=
    hserves.future request.requestId caller hget
  refine ⟨caller', hget', ?_⟩
  obtain hsame | ⟨_, _, hanswers⟩ := hfuture
  · -- it stayed as it was and is done, so it was cancelled
    left
    rw [hsame]
    refine hopen.resolve_left fun hpending => ?_
    have hno := hdone (List.mem_map_of_mem hrequest)
    rw [hsame, hpending] at hno
    cases hno
  · exact .inr hanswers

/-- What a step does to a caller that is there: its future stays, or it
was pending and is cancelled by its caller or answered by its round. -/
theorem step_future (hstep : pool.step event = some pool')
    {requestId : RequestId} {caller : Caller}
    (hget : pool.callers.get requestId = some caller) :
    ∃ caller', pool'.callers.get requestId = some caller' ∧
      (caller'.future = caller.future ∨
        (caller.future = .pending ∧
          ((event = .cancel requestId ∧ caller'.future = .cancelled) ∨
            ∃ round, pool.roundOf event = some round ∧
              requestId ∈ round.group.map (·.requestId) ∧
              round.Answers requestId caller'.future))) := by
  cases hround : pool.roundOf event with
  | some round =>
      obtain ⟨_, hserves, _⟩ := step_round hround hstep
      obtain ⟨caller', hget', hfuture, _⟩ :=
        hserves.future requestId caller hget
      refine ⟨caller', hget', ?_⟩
      obtain hsame | ⟨hpending, hmem, hanswers⟩ := hfuture
      · exact .inl hsame
      · exact .inr ⟨hpending, .inr ⟨round, rfl, hmem, hanswers⟩⟩
  | none =>
      -- outside a round only the caller itself is cancelled or runs on
      cases quiet_of_step hround hstep with
      | assign request hfresh =>
          have hne : requestId ≠ request.requestId := by
            intro heq
            rw [heq, hfresh] at hget
            cases hget
          exact ⟨caller, (PyDict.get_set_of_ne _ hne _).trans hget, .inl rfl⟩
      | cancel requestId' other other' hother hcancel =>
          have hmoves : other'.future = other.future ∨
              (other.future = .pending ∧ other'.future = .cancelled) := by
            obtain hseen | ⟨hsame, _⟩ := Asyncio.Waiter.cancel_eq_some hcancel
            · exact .inr hseen
            · exact .inl hsame
          obtain ⟨caller', hget', hfuture⟩ := future_set hother hmoves hget
          refine ⟨caller', hget', ?_⟩
          obtain hsame | ⟨rfl, hpending, hcancelled⟩ := hfuture
          · exact .inl hsame
          · exact .inr ⟨hpending, .inl ⟨rfl, hcancelled⟩⟩
      | resume requestId' other other' hother hresume =>
          have hsame := (Asyncio.Waiter.resume_eq_some hresume).1
          obtain ⟨caller', hget', hfuture⟩ :=
            future_set hother (.inl hsame) hget
          refine ⟨caller', hget', ?_⟩
          obtain hsame | ⟨rfl, hpending, hcancelled⟩ := hfuture
          · exact .inl hsame
          · -- running a task cancels no future
            rw [hother] at hget
            rw [PyDict.get_set_self] at hget'
            injection hget with hget
            injection hget' with hget'
            rw [← hget', ← hget]
            exact .inl hsame
      | get => exact ⟨caller, hget, .inl rfl⟩
      | collect => exact ⟨caller, hget, .inl rfl⟩
      | stop => exact ⟨caller, hget, .inl rfl⟩
      | stopped => exact ⟨caller, hget, .inl rfl⟩

end Steps

-- ================================================================= runs

/-- What holds of a pool after a run without a stop, by the run's labels and
rounds. -/
structure History (size : ℤ) (events : List PoolEvent) (rounds : List Round)
    (pool : RequestPool) : Prop where
  inv : PoolInv pool pool.held .empty
  size_eq : pool.maxPlanningGroupSize = (max 1 size).toNat
  running : pool.worker ≠ .stopping
  started : pool.worker = .stopped → pool.queue = []
  segments : arrivals events = (pool.groups rounds).flatten ++ pool.ungrouped
  distinct : ((arrivals events).map (·.requestId)).Nodup
  known : ∀ request ∈ arrivals events,
    ∃ caller, pool.callers.get request.requestId = some caller
  sizes : ∀ group ∈ pool.groups rounds,
    1 ≤ group.length ∧ group.length ≤ pool.maxPlanningGroupSize
  answered : ∀ round ∈ rounds, ∀ request ∈ round.group,
    ∃ caller, pool.callers.get request.requestId = some caller ∧
      (caller.future = .cancelled ∨
        round.Answers request.requestId caller.future)

section Runs

variable {size : ℤ} {events : List PoolEvent} {rounds : List Round}
  {pool pool' : RequestPool} {event : PoolEvent}

theorem arrivals_concat (events : List PoolEvent) (event : PoolEvent) :
    arrivals (events ++ [event]) = arrivals events ++ arrivals [event] :=
  List.filterMap_append ..

/-- What a round answers with ends the wait of its caller. -/
theorem Round.Answers.done {round : Round} {requestId : RequestId}
    {future : Asyncio.Future AssignmentResult PyException}
    (h : round.Answers requestId future) : future.done = true := by
  unfold Round.Answers at h
  split at h
  next =>
    rw [h]
    rfl
  next =>
    obtain ⟨assignment, _, h⟩ := h
    rw [h]
    rfl

/-- A future that is done stays as it is. -/
theorem step_done (hstep : pool.step event = some pool')
    {requestId : RequestId} {caller : Caller}
    (hget : pool.callers.get requestId = some caller)
    (hdone : caller.future.done = true) :
    ∃ caller', pool'.callers.get requestId = some caller' ∧
      caller'.future = caller.future := by
  obtain ⟨caller', hget', hsame | ⟨hpending, _⟩⟩ := step_future hstep hget
  · exact ⟨caller', hget', hsame⟩
  · rw [hpending] at hdone
    cases hdone

/-- Before the first request there is nothing. -/
theorem History.init (size : ℤ) :
    History size [] [] (RequestPool.init size) where
  inv := init_inv size
  size_eq := rfl
  running := fun h => by cases h
  started := fun _ => rfl
  segments := rfl
  distinct := List.nodup_nil
  known := fun request hmem => by cases hmem
  sizes := fun group hmem => by cases hmem
  answered := fun round hmem => by cases hmem

/-- What was answered stays answered. -/
theorem History.answered_step (h : History size events rounds pool)
    (hstep : pool.step event = some pool') {round : Round} (hround : round ∈ rounds)
    {request : SchedulerRequest} (hrequest : request ∈ round.group) :
    ∃ caller, pool'.callers.get request.requestId = some caller ∧
      (caller.future = .cancelled ∨
        round.Answers request.requestId caller.future) := by
  obtain ⟨caller, hget, hfuture⟩ := h.answered round hround request hrequest
  have hdone : caller.future.done = true := by
    obtain hcancelled | hanswers := hfuture
    · rw [hcancelled]
      rfl
    · exact hanswers.done
  obtain ⟨caller', hget', hsame⟩ := step_done hstep hget hdone
  exact ⟨caller', hget', hsame ▸ hfuture⟩

/-- Nobody who arrived is forgotten. -/
theorem History.known_step (h : History size events rounds pool)
    (hstep : pool.step event = some pool') :
    ∀ request ∈ arrivals (events ++ [event]),
      ∃ caller, pool'.callers.get request.requestId = some caller := by
  intro request hmem
  rw [arrivals_concat] at hmem
  rcases List.mem_append.mp hmem with hmem | hmem
  · obtain ⟨caller, hget⟩ := h.known request hmem
    obtain ⟨caller', hget', _⟩ := step_future hstep hget
    exact ⟨caller', hget'⟩
  · cases event with
    | assign request' =>
        obtain rfl := List.mem_singleton.mp hmem
        cases quiet_of_step (roundOf_assign pool _) hstep with
        | assign => exact ⟨_, PyDict.get_set_self _ _ _⟩
    | _ => cases hmem

/-- Ids stay distinct: `assign` is called with a fresh one. -/
theorem History.distinct_step (h : History size events rounds pool)
    (hstep : pool.step event = some pool') :
    ((arrivals (events ++ [event])).map (·.requestId)).Nodup := by
  rw [arrivals_concat, List.map_append]
  cases event with
  | assign request =>
      cases quiet_of_step (roundOf_assign pool request) hstep with
      | assign _ hfresh =>
          refine h.distinct.append (List.nodup_singleton _) ?_
          rw [List.disjoint_right]
          intro requestId hmem hold
          obtain rfl := List.mem_singleton.mp hmem
          obtain ⟨request', hrequest', heq⟩ := List.mem_map.mp hold
          obtain ⟨caller, hget⟩ := h.known request' hrequest'
          rw [heq, hfresh] at hget
          cases hget
  | _ => exact (List.append_nil _).symm ▸ h.distinct

/-- Nothing is taken but from the head of the queue, and nothing is put
back. -/
theorem Quiet.segments (h : Quiet pool event pool')
    (hstops : event ≠ .stop ∧ event ≠ .stopped)
    (hsegments : arrivals events =
      (pool.groups rounds).flatten ++ pool.ungrouped) :
    arrivals (events ++ [event]) =
      (pool'.groups rounds).flatten ++ pool'.ungrouped := by
  rw [arrivals_concat, hsegments]
  cases h with
  | assign request =>
      have hgroups : (pool.assign request).groups rounds = pool.groups rounds := by
        unfold groups RequestPool.assign
        cases pool.worker <;> rfl
      have hungrouped : (pool.assign request).ungrouped =
          pool.ungrouped ++ [request] := by
        unfold ungrouped RequestPool.assign
        cases pool.worker <;> simp
      rw [hgroups, hungrouped, List.append_assoc]
      rfl
  | cancel => exact List.append_nil _
  | resume => exact List.append_nil _
  | get first queue hworker hqueue =>
      unfold groups ungrouped
      rw [hworker, hqueue]
      exact List.append_nil _
  | collect first hworker =>
      unfold groups ungrouped
      rw [hworker]
      show _ ++ [] = _
      simp [List.take_append_drop]
  | stop => exact absurd rfl hstops.1
  | stopped => exact absurd rfl hstops.2

/-- A group has its first request, and no more than there is room for. -/
theorem Quiet.sizes (h : Quiet pool event pool')
    (hpos : 1 ≤ pool.maxPlanningGroupSize)
    (hsizes : ∀ group ∈ pool.groups rounds,
      1 ≤ group.length ∧ group.length ≤ pool.maxPlanningGroupSize) :
    ∀ group ∈ pool'.groups rounds,
      1 ≤ group.length ∧ group.length ≤ pool'.maxPlanningGroupSize := by
  have hrounds : ∀ group ∈ rounds.map (·.group),
      1 ≤ group.length ∧ group.length ≤ pool.maxPlanningGroupSize :=
    fun group hmem => hsizes group (List.mem_append_left _ hmem)
  cases h with
  | assign request =>
      have hgroups : (pool.assign request).groups rounds = pool.groups rounds := by
        unfold groups RequestPool.assign
        cases pool.worker <;> rfl
      rw [hgroups]
      exact hsizes
  | cancel => exact hsizes
  | resume => exact hsizes
  | collect first hworker =>
      intro group hmem
      rcases List.mem_append.mp hmem with hmem | hmem
      · exact hrounds group hmem
      · obtain rfl := List.mem_singleton.mp hmem
        rw [List.length_cons, List.length_take]
        dsimp only
        omega
  | get | stop | stopped =>
      intro group hmem
      exact hrounds group (by simpa [groups] using hmem)

/-- A worker that was not started has nothing to do, and without a stop
none is stopped. -/
theorem Quiet.running (h : Quiet pool event pool')
    (hstops : event ≠ .stop ∧ event ≠ .stopped)
    (hrunning : pool.worker ≠ .stopping)
    (hstarted : pool.worker = .stopped → pool.queue = []) :
    pool'.worker ≠ .stopping ∧
      (pool'.worker = .stopped → pool'.queue = []) := by
  cases h with
  | assign request =>
      unfold RequestPool.assign
      dsimp only
      split
      next => constructor <;> intro h <;> cases h
      next hstopped => exact ⟨hrunning, fun h => absurd h hstopped⟩
  | cancel => exact ⟨hrunning, hstarted⟩
  | resume => exact ⟨hrunning, hstarted⟩
  | get => constructor <;> intro h <;> cases h
  | collect => constructor <;> intro h <;> cases h
  | stop => exact absurd rfl hstops.1
  | stopped => exact absurd rfl hstops.2

/-- Between rounds nothing changes the greatest size. -/
theorem Quiet.size_eq (h : Quiet pool event pool') :
    pool'.maxPlanningGroupSize = pool.maxPlanningGroupSize := by
  cases h <;> rfl

/-- A step that ends no round. -/
theorem History.quiet (h : History size events rounds pool)
    (hstops : event ≠ .stop ∧ event ≠ .stopped)
    (hstep : pool.step event = some pool') (hround : pool.roundOf event = none) :
    History size (events ++ [event]) rounds pool' := by
  have hquiet := quiet_of_step hround hstep
  have hpos : 1 ≤ pool.maxPlanningGroupSize := by
    rw [h.size_eq]
    omega
  obtain ⟨hrunning, hstarted⟩ := hquiet.running hstops h.running h.started
  exact
    { inv := (step_inv h.inv hstep).1
      size_eq := hquiet.size_eq.trans h.size_eq
      running := hrunning
      started := hstarted
      segments := hquiet.segments hstops h.segments
      distinct := h.distinct_step hstep
      known := h.known_step hstep
      sizes := hquiet.sizes hpos h.sizes
      answered := fun round hmem request hrequest =>
        h.answered_step hstep hmem hrequest }

/-- The end of a round answers everyone in its group who is still waiting. -/
theorem History.answers (h : History size events rounds pool) {round : Round}
    (hworker : pool.worker = .planning round.group)
    (hserves : Serves round.Answers (round.group.map (·.requestId))
      { pool with worker := .waiting } pool')
    {request : SchedulerRequest} (hrequest : request ∈ round.group) :
    ∃ caller, pool'.callers.get request.requestId = some caller ∧
      (caller.future = .cancelled ∨
        round.Answers request.requestId caller.future) :=
  h.inv.answers hworker hserves hrequest

/-- The end of a round. -/
theorem History.round (h : History size events rounds pool)
    (hstep : pool.step event = some pool') {round : Round}
    (hround : pool.roundOf event = some round) :
    History size (events ++ [event]) (rounds ++ [round]) pool' := by
  obtain ⟨hworker, hserves, _⟩ := step_round hround hstep
  have hwaiting : pool'.worker = .waiting := hserves.worker
  have hgroups : pool'.groups (rounds ++ [round]) = pool.groups rounds := by
    unfold groups
    rw [hworker, hwaiting, List.map_append, List.append_nil]
    rfl
  have hungrouped : pool'.ungrouped = pool.ungrouped := by
    unfold ungrouped
    rw [hworker, hwaiting, hserves.queue]
  have harrivals : arrivals [event] = [] := by
    obtain ⟨_, ⟨_, rfl, _⟩ | ⟨_, rfl, _⟩⟩ := roundOf_eq_some hround <;> rfl
  exact
    { inv := (step_inv h.inv hstep).1
      size_eq := hserves.size.trans h.size_eq
      running := by simp [hwaiting]
      started := by simp [hwaiting]
      segments := by
        rw [hgroups, hungrouped, arrivals_concat, harrivals, List.append_nil]
        exact h.segments
      distinct := h.distinct_step hstep
      known := h.known_step hstep
      sizes := by
        rw [hgroups, hserves.size]
        exact h.sizes
      answered := by
        intro other hmem request hrequest
        rcases List.mem_append.mp hmem with hmem | hmem
        · exact h.answered_step hstep hmem hrequest
        · obtain rfl := List.mem_singleton.mp hmem
          exact h.answers hworker hserves hrequest }

/-- One event: a request joins the queue, a round is collected or ends, or the
history stays. -/
theorem History.step (h : History size events rounds pool)
    (hstops : event ≠ .stop ∧ event ≠ .stopped)
    (hstep : pool.step event = some pool') :
    History size (events ++ [event])
      (rounds ++ (pool.roundOf event).toList) pool' := by
  cases hround : pool.roundOf event with
  | none =>
      rw [Option.toList_none, List.append_nil]
      exact h.quiet hstops hstep hround
  | some round => exact h.round hstep hround

/-- The history of a whole run, read off its trace. -/
theorem run_history (hstops : ∀ event ∈ events, event ≠ .stop ∧ event ≠ .stopped)
    (hrun : Lts.run step (init size) events = some pool) :
    History size events (Lts.trace roundOf step (init size) events) pool :=
  Lts.run_trace_invariant roundOf (History.init size)
    (fun _ _ _ event _ hmem h hstep => h.step (hstops event hmem) hstep) hrun

/-- Along a run, a future that is done stays as it is. -/
theorem run_done (hrun : Lts.run step pool events = some pool')
    {requestId : RequestId} {caller : Caller}
    (hget : pool.callers.get requestId = some caller)
    (hdone : caller.future.done = true) :
    ∃ caller', pool'.callers.get requestId = some caller' ∧
      caller'.future = caller.future := by
  apply Lts.run_preserves (I := fun pool : RequestPool =>
    ∃ caller', pool.callers.get requestId = some caller' ∧
      caller'.future = caller.future) _ ⟨caller, hget, rfl⟩ hrun
  intro pool event pool' h hstep
  obtain ⟨middle, hmiddle, hsame⟩ := h
  obtain ⟨last, hlast, hkeep⟩ := step_done hstep hmiddle (hsame ▸ hdone)
  exact ⟨last, hlast, hkeep.trans hsame⟩

end Runs

-- ============================================================== delivery

/-- Wherever the worker is, it can go on: nothing raises out of its loop,
and while a request is in no group the worker is there. -/
structure GoesOn (pool : RequestPool) : Prop where
  running : pool.ungrouped ≠ [] →
    pool.worker ≠ .stopped ∧ pool.worker ≠ .stopping
  get : pool.worker = .waiting → pool.queue ≠ [] → (pool.step .get).isSome
  collect : ∀ first, pool.worker = .yielded first → (pool.step .collect).isSome
  planned : ∀ group, pool.worker = .planning group →
    ∀ assignments : PyDict RequestId RouteAssignment,
      (∀ requestId ∈ assignments.keys, requestId ∈ group.map (·.requestId)) →
      (pool.step (.planned assignments)).isSome
  planFailed : ∀ group, pool.worker = .planning group →
    ∀ error, (pool.step (.planFailed error)).isSome

/-- What the end of a round leaves as it was; one that fails has made no
call either. -/
structure Unaffected (pool : RequestPool) (round : Round) (pool' : RequestPool) :
    Prop where
  worker : pool'.worker = .waiting
  queue : pool'.queue = pool.queue
  others : ∀ requestId, requestId ∉ round.group.map (·.requestId) →
    pool'.callers.get requestId = pool.callers.get requestId
  calls : ∀ error, round.outcome = .error error → pool'.calls = pool.calls

/-- What a run that had these events and rounds has done for its callers. -/
structure Delivers (size : ℤ) (events : List PoolEvent) (rounds : List Round)
    (pool : RequestPool) : Prop where
  /-- The groups are consecutive segments of what arrived, -/
  segments : arrivals events = (pool.groups rounds).flatten ++ pool.ungrouped
  /-- and so no request is in two. -/
  distinct : ((arrivals events).map (·.requestId)).Nodup
  sizes : ∀ group ∈ pool.groups rounds,
    1 ≤ group.length ∧ (group.length : ℤ) ≤ max 1 size
  /-- A request has been taken once there are as many groups as requests up
  to it. -/
  taken : ∀ request ∈ (arrivals events).take (pool.groups rounds).length,
    request ∈ (pool.groups rounds).flatten
  answered : ∀ round ∈ rounds, ∀ request ∈ round.group,
    ∃ caller, pool.callers.get request.requestId = some caller ∧
      (caller.future = .cancelled ∨
        round.Answers request.requestId caller.future)
  unanswered : ∀ request ∈ pool.held,
    ∃ caller, pool.callers.get request.requestId = some caller ∧
      (caller.future = .pending ∨ caller.future = .cancelled)
  goesOn : pool.GoesOn
  unaffected : ∀ event round pool', pool.roundOf event = some round →
    pool.step event = some pool' → Unaffected pool round pool'

section Delivery

variable {size : ℤ} {events : List PoolEvent} {rounds : List Round}
  {pool : RequestPool}

theorem PoolInv.goesOn (h : PoolInv pool pool.held .empty)
    (hrunning : pool.worker ≠ .stopping)
    (hstarted : pool.worker = .stopped → pool.queue = []) : pool.GoesOn where
  running hungrouped := by
    refine ⟨fun hstopped => hungrouped ?_, hrunning⟩
    unfold ungrouped
    rw [hstopped, hstarted hstopped]
    rfl
  get hworker hqueue := by
    obtain ⟨first, queue, hqueue⟩ := List.exists_cons_of_ne_nil hqueue
    simp only [step, hworker, hqueue]
    rfl
  collect first hworker := by
    simp only [step, hworker]
    rfl
  planned group hworker assignments hkeys := by
    have hheld : pool.held = group ++ pool.queue := by
      unfold held
      rw [hworker]
    rw [hheld] at h
    simp only [step, hworker]
    rw [if_pos hkeys]
    cases hcommit : commitPlan group assignments with
    | error error => rfl
    | ok planned =>
        obtain ⟨calls, results⟩ := planned
        obtain ⟨hcalls, hresults⟩ := commitPlan_ok hcommit
        obtain ⟨pool', hhand, _⟩ :=
          PoolInv.handOut (h.reserve hkeys hcalls) hresults
        exact Option.isSome_iff_exists.mpr ⟨pool', hhand⟩
  planFailed group hworker error := by
    simp only [step, hworker]
    rfl

/-- Groups that are not empty are no more than the requests in them. -/
theorem length_le_length_flatten {α : Type} {l : List (List α)}
    (h : ∀ group ∈ l, 1 ≤ group.length) : l.length ≤ l.flatten.length := by
  induction l with
  | nil => exact le_refl _
  | cons group l ih =>
      have hgroup := h group (List.mem_cons_self ..)
      have hrest := ih fun other hmem => h other (List.mem_cons_of_mem _ hmem)
      rw [List.flatten_cons, List.length_append, List.length_cons]
      omega

/-- What a history says once it is read as a delivery: order, sizes, and one
answer each. -/
theorem History.delivers (h : History size events rounds pool) :
    Delivers size events rounds pool where
  segments := h.segments
  distinct := h.distinct
  sizes group hmem := by
    obtain ⟨hpos, hle⟩ := h.sizes group hmem
    rw [h.size_eq] at hle
    exact ⟨hpos, by omega⟩
  taken request hmem := by
    have hlength := length_le_length_flatten
      fun group hmem => (h.sizes group hmem).1
    rw [h.segments, List.take_append_of_le_length hlength] at hmem
    exact List.mem_of_mem_take hmem
  answered := h.answered
  unanswered request hmem := by
    obtain ⟨caller, hget, hopen, _⟩ := h.inv.unanswered request hmem
    exact ⟨caller, hget, hopen⟩
  goesOn := h.inv.goesOn h.running h.started
  unaffected event round pool' hround hstep := by
    obtain ⟨_, hserves, hcalls⟩ := step_round hround hstep
    exact ⟨hserves.worker, hserves.queue, hserves.other, hcalls⟩

/-- Without a stop, whatever the order of calls, cancellations, successes
and failures, every request is taken into one group, in the order of
arrival, and answered by its own round, and a future that is completed
stays so. -/
theorem pool_delivers (size : ℤ) (events : List PoolEvent) (pool : RequestPool)
    (hstops : ∀ event ∈ events, event ≠ .stop ∧ event ≠ .stopped)
    (hrun : Lts.run step (init size) events = some pool) :
    Delivers size events (Lts.trace roundOf step (init size) events) pool ∧
      ∀ before after middle, events = before ++ after →
        Lts.run step (init size) before = some middle →
        ∀ requestId caller, middle.callers.get requestId = some caller →
          caller.future.done = true →
          ∃ caller', pool.callers.get requestId = some caller' ∧
            caller'.future = caller.future := by
  refine ⟨(run_history hstops hrun).delivers, ?_⟩
  intro before after middle hevents hbefore requestId caller hget hdone
  rw [hevents, Lts.run_append, hbefore, Option.bind_some] at hrun
  exact run_done hrun hget hdone

/-- Three requests in groups of two: one is cancelled while its group is in
planning, the plan fails, and the third has its result. -/
theorem pool_delivers_three :
    let events : List PoolEvent :=
      [.assign ⟨"r", [], 0⟩, .assign ⟨"q", [], 0⟩, .get,
        .assign ⟨"p", [], 0⟩, .collect, .cancel "q",
        .planFailed ⟨"KeyError", "a"⟩, .get, .collect,
        .planned (.ofList [("p", assignmentOnA "p" 3)])]
    ∃ pool, Lts.run step (init 2) events = some pool ∧
      (Lts.trace roundOf step (init 2) events).map (·.group) =
        [[⟨"r", [], 0⟩, ⟨"q", [], 0⟩], [⟨"p", [], 0⟩]] ∧
      Delivers 2 events (Lts.trace roundOf step (init 2) events) pool := by
  intro events
  have hsome : (Lts.run step (init 2) events).isSome := by decide
  obtain ⟨pool, hrun⟩ := Option.isSome_iff_exists.mp hsome
  refine ⟨pool, hrun, by decide, (pool_delivers 2 events pool ?_ hrun).1⟩
  simp [events]

end Delivery

end RequestPool

end Kareserve
