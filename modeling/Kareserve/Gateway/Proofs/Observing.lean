/-
What the router process trains its policy on (Gateway/App.lean).

`observe_first_output` is called in one place, on the way out of a streamed
exchange that saw an output, right before its release. `observed` reads the
calls off the steps of a run. They are what the exchanges that ended so
account for, one each (`Trained`), and the estimator is these observations
and nothing else: planning only reads it.

`Streams` carries through an exchange that a first output is noted in a
streamed one only. `Trained` then has two halves: what was shown is what
finished exchanges account for, each once, and the estimator is the initial
one after what was shown. An exchange that is cancelled after its first
output still trains, if closing its session returns; one whose release is
lost does not.
-/
import Kareserve.Gateway.Proofs.Parts

namespace Kareserve

/-- The queue estimator, of the policies that have one. -/
def Policy.estimator : Policy → Option OnlineQueueTimeEstimator
  | .tieredCompletionTime p => some p.queueEstimator
  | .gpuPrefixLoad p => some p.queueEstimator
  | _ => none

/-- An observed first output: the assignment and the time it took. -/
abbrev FirstOutput := RouteAssignment × ℚ

/-- A first output, on the estimator. -/
def OnlineQueueTimeEstimator.observeOutput (e : OnlineQueueTimeEstimator)
    (o : FirstOutput) : OnlineQueueTimeEstimator :=
  match o.1.costBreakdown with
  | none => e
  | some breakdown =>
      e.observe o.1.candidate.node.nodeId o.1.candidate.node.routerInflightWork
        (max 0 (o.2 - breakdown.promptPathCost))

theorem Policy.observeFirstOutput_estimator (policy : Policy)
    (assignment : RouteAssignment) (ms : ℚ) :
    (policy.observeFirstOutput assignment ms).estimator
      = policy.estimator.map (·.observeOutput (assignment, ms)) := by
  have htiered : ∀ p : TieredCompletionTimePolicy,
      (p.observeFirstOutput assignment ms).queueEstimator
        = p.queueEstimator.observeOutput (assignment, ms) := by
    intro p
    unfold TieredCompletionTimePolicy.observeFirstOutput
      OnlineQueueTimeEstimator.observeOutput
    cases assignment.costBreakdown <;> rfl
  cases policy with
  | tieredCompletionTime p => exact congrArg some (htiered p)
  | gpuPrefixLoad p =>
      exact congrArg some (htiered p.toTieredCompletionTimePolicy)
  | _ => rfl

/-- Planning leaves the estimator, whether it raises or not. -/
theorem RoutePlanner.selectOrRaise_estimator
    (blake2b : List UInt8 → List UInt8) (planner : RoutePlanner)
    (requests : List SchedulerRequest) (lookup : Option LookupResult) :
    (planner.selectOrRaise blake2b requests lookup).1.estimator
      = planner.policy.estimator := by
  unfold selectOrRaise
  split
  next => rfl
  next candidates _ =>
    unfold Policy.selectBatchOrRaise
    cases planner.policy <;> rfl

namespace App

variable {a a' : App} {requestId : RequestId}

-- ========================================================== definitions

/-- The call of `observe_first_output` a step makes, by request. -/
def observed (loads : Bytes → Except LoadsError PyJson.Json) (a : App) :
    AppEvent → Option (RequestId × FirstOutput)
  | .upstream requestId event now =>
      (a.exchanges.get requestId).bind fun x =>
        (x.completion.step x.phase (x.note loads now event).2).bind fun next =>
          if next.2 then
            (x.note loads now event).1.firstOutputMs.map fun ms =>
              (requestId, x.completion.assignment.assignment, ms)
          else none
  | _ => none

/-- A stream that has ended with its release after a first output. -/
def Outputs (o : FirstOutput) (x : LiveExchange) (calls : List RouteCall) :
    Prop :=
  x.phase = .finished ∧ x.completion.stream = true ∧
    x.completion.assignment.assignment = o.1 ∧ x.firstOutputMs = some o.2 ∧
    calls = [x.completion.reserveCall, x.completion.releaseCall]

/-- The phases of a stream, before its end. -/
def streamPhases : List Phase :=
  [.responding, .awaitingChunk, .yielded, .streamClosing]

/-- Only a stream has an output. -/
structure Streams (x : LiveExchange) : Prop where
  phase : x.phase ∈ streamPhases → x.completion.stream = true
  output : x.firstOutputAt.isSome = true → x.completion.stream = true

/-- The observations so far are what the exchanges account for. -/
structure Trained (estimator : Option OnlineQueueTimeEstimator)
    (shown : List (RequestId × FirstOutput)) (a : App) : Prop where
  once : (shown.map Prod.fst).Nodup
  accounted : ∀ requestId o,
    (requestId, o) ∈ shown ↔ a.ExchangeAt requestId (Outputs o)
  estimator : a.routePlanner.policy.estimator
    = estimator.map fun e => (shown.map Prod.snd).foldl
        OnlineQueueTimeEstimator.observeOutput e

-- ============================================================= one stream

/-- A stream phase is entered by a stream only. -/
theorem step_streamPhases {c : Completion} {phase : Phase}
    {event : ExchangeEvent} {next : Phase × Bool}
    (h : c.step phase event = some next) (hnext : next.1 ∈ streamPhases) :
    c.stream = true ∨ phase ∈ streamPhases := by
  cases phase with
  | opening =>
      left
      cases event with
      | opened contentType =>
          simp only [Completion.step] at h
          split at h
          next hstream => exact hstream
          next =>
            injection h with h
            subst h
            simp [streamPhases] at hnext
      | raised raised =>
          cases raised with
          | clientError =>
              injection h with h
              subst h
              simp [streamPhases] at hnext
          | _ =>
              injection h with h
              subst h
              simp [streamPhases] at hnext
      | _ => cases h
  | finished => cases event <;> cases h
  | closingFailed | reading | readClosing =>
      cases event <;> cases h <;> simp [streamPhases] at hnext
  | _ => exact .inr (by simp [streamPhases])

/-- An output is noted where a chunk is awaited. -/
theorem note_firstOutputAt (loads : Bytes → Except LoadsError PyJson.Json)
    (x : LiveExchange) (now : ℚ) (event : UpstreamEvent) :
    (x.note loads now event).1.firstOutputAt = x.firstOutputAt ∨
      x.phase = .awaitingChunk := by
  unfold LiveExchange.note
  cases event with
  | chunk bytes =>
      dsimp only
      split
      next => exact .inl rfl
      next hawaits =>
        rw [not_or, not_not] at hawaits
        exact .inr hawaits.1
  | _ => exact .inl rfl

theorem Streams.step {loads : Bytes → Except LoadsError PyJson.Json}
    {x : LiveExchange} (h : Streams x) {now : ℚ} {event : UpstreamEvent}
    {next : Phase × Bool}
    (hnext : x.completion.step x.phase (x.note loads now event).2 = some next) :
    Streams { (x.note loads now event).1 with phase := next.1 } := by
  have hcompletion : (x.note loads now event).1.completion = x.completion :=
    congrArg Exchange.completion (x.note_toExchange loads now event)
  refine ⟨fun hphase => ?_, fun houtput => ?_⟩
  · show (x.note loads now event).1.completion.stream = true
    rw [hcompletion]
    exact (step_streamPhases hnext hphase).elim id h.phase
  · show (x.note loads now event).1.completion.stream = true
    rw [hcompletion]
    obtain hsame | hawaits := note_firstOutputAt loads x now event
    · exact h.output (hsame ▸ houtput)
    · exact h.phase (by rw [hawaits]; simp [streamPhases])

section Steps

variable {blake2b : List UInt8 → List UInt8}
  {decode : Bytes → Option RawMapEventBatch}
  {loads : Bytes → Except LoadsError PyJson.Json}
  {replayEndpoint : NodeId → Bool} {event : AppEvent}
  {estimator : Option OnlineQueueTimeEstimator}
  {shown : List (RequestId × FirstOutput)}

/-- A step the pool takes part in leaves the exchanges, but for one that
begins. -/
theorem pool_exchanges (hh : Handled a) {pe : PoolEvent}
    (hstep : a.step blake2b decode loads replayEndpoint event = some a')
    (hpe : a.poolEvent blake2b event = some pe) {x' : LiveExchange}
    (hx' : a'.exchanges.get requestId = some x') :
    a.exchanges.get requestId = some x' ∨
      (x'.phase = .opening ∧ x'.firstOutputAt = none) := by
  by_cases hresume : ∃ requestId times, event = .resume requestId times
  · obtain ⟨requestId', times, rfl⟩ := hresume
    obtain ⟨a₁, exchanges, -, -, hexchanges, hbegins, rfl⟩ :=
      step_resume hh hstep
    have hx₁ : exchanges.get requestId = some x' := hx'
    by_cases hid : requestId = requestId'
    · subst hid
      rw [← hexchanges]
      exact hbegins.began x' hx₁
    · rw [hbegins.other requestId hid, hexchanges] at hx₁
      exact .inl hx₁
  · have hsame := (step_pool hstep hpe).exchanges
      (poolEvent_ne_resume hpe fun id times heq => hresume ⟨id, times, heq⟩)
    rw [hsame] at hx'
    exact .inl hx'

/-- Every exchange is one of a stream, or has no output. -/
theorem step_streams (hh : Handled a)
    (h : ∀ id x, a.exchanges.get id = some x → Streams x)
    (hstep : a.step blake2b decode loads replayEndpoint event = some a') :
    ∀ id x, a'.exchanges.get id = some x → Streams x := by
  intro id x' hx'
  cases hpe : a.poolEvent blake2b event with
  | some pe =>
      obtain hbefore | ⟨hopening, hnone⟩ := pool_exchanges hh hstep hpe hx'
      · exact h id x' hbefore
      · refine ⟨fun hphase => ?_, fun houtput => ?_⟩
        · rw [hopening] at hphase
          simp [streamPhases] at hphase
        · rw [hnone] at houtput
          cases houtput
  | none =>
      cases step_own hstep hpe with
      | exchange requestId event now x next hx hnext =>
          rw [exchanged_exchanges, PyDict.get_set] at hx'
          split at hx'
          next =>
            injection hx' with hx'
            rw [← hx']
            exact (h requestId x hx).step hnext
          next => exact h id x' hx'
      | listener => exact h id x' hx'
      | poll => exact h id x' hx'

/-- What a step the pool takes part in does to the policy. -/
inductive PoolPolicy (blake2b : List UInt8 → List UInt8) (a : App) :
    AppEvent → Policy → Prop
  | same (event : AppEvent) (hother : ∀ found, event ≠ .lookupReturned found) :
      PoolPolicy blake2b a event a.routePlanner.policy
  | plan (found : Option LookupResult) (group : List SchedulerRequest)
      (worker : a.requestPool.worker = .planning group) :
      PoolPolicy blake2b a (.lookupReturned found)
        (a.routePlanner.selectOrRaise blake2b group found).1

theorem step_policy {pe : PoolEvent}
    (hstep : a.step blake2b decode loads replayEndpoint event = some a')
    (hpe : a.poolEvent blake2b event = some pe) :
    PoolPolicy blake2b a event a'.routePlanner.policy := by
  -- the pool's step keeps the policy of the planner it is given
  have hpool : ∀ {planner : RoutePlanner} {pe : PoolEvent} (a₁ : App),
      a.poolStep planner pe = some a₁ →
      a₁.routePlanner.policy = planner.policy := by
    intro planner pe a₁ h
    obtain ⟨pool, -, rfl⟩ := Option.map_eq_some_iff.mp h
    rfl
  cases event with
  | request request handler =>
      obtain ⟨a₁, h₁, rfl⟩ := Option.map_eq_some_iff.mp hstep
      dsimp only
      rw [hpool a₁ h₁]
      exact .same _ fun _ => AppEvent.noConfusion
  | resume requestId times =>
      obtain ⟨a₁, h₁, rfl⟩ := Option.map_eq_some_iff.mp hstep
      have hafter : (a₁.afterAssign requestId times).routePlanner
          = a₁.routePlanner := by
        unfold afterAssign
        split
        · split <;> rfl
        · rfl
      rw [hafter, hpool a₁ h₁]
      exact .same _ fun _ => AppEvent.noConfusion
  | lookupReturned found =>
      simp only [App.step] at hstep
      split at hstep
      next group hworker =>
        -- only a plan gives it another one
        rw [hpool a' hstep]
        exact .plan found group hworker
      next => cases hstep
  | upstream => cases hpe
  | listener => cases hpe
  | poll => cases hpe
  | _ =>
      rw [hpool a' hstep]
      exact .same _ fun _ => AppEvent.noConfusion

/-- A step the pool takes part in leaves the estimator. -/
theorem step_estimator {pe : PoolEvent}
    (hstep : a.step blake2b decode loads replayEndpoint event = some a')
    (hpe : a.poolEvent blake2b event = some pe) :
    a'.routePlanner.policy.estimator = a.routePlanner.policy.estimator := by
  generalize hpolicy : a'.routePlanner.policy = policy
  have h := step_policy hstep hpe
  rw [hpolicy] at h
  cases h with
  | same => rfl
  | plan found group worker =>
      exact a.routePlanner.selectOrRaise_estimator blake2b group found

/-- What an exchange does to the policy. -/
theorem exchanged_policy (a : App) (requestId : RequestId) (x : LiveExchange)
    (next : Phase × Bool) :
    (a.exchanged requestId x next).routePlanner.policy = a.routePlanner.policy ∨
      ∃ assignment ms, (a.exchanged requestId x next).routePlanner.policy
        = a.routePlanner.policy.observeFirstOutput assignment ms := by
  unfold exchanged
  cases next.2 with
  | false => exact .inl rfl
  | true =>
      rw [if_pos rfl]
      unfold finish
      dsimp only
      cases x.firstOutputMs with
      | none => exact .inl rfl
      | some ms => exact .inr ⟨_, ms, rfl⟩

/-- What an exchange does to the estimator. -/
theorem exchanged_estimator (a : App) (requestId : RequestId)
    (x : LiveExchange) (next : Phase × Bool) :
    (a.exchanged requestId x next).routePlanner.policy.estimator
      = a.routePlanner.policy.estimator.map fun e =>
        ((if next.2 then x.firstOutputMs.map fun ms =>
            (x.completion.assignment.assignment, ms)
          else none).toList).foldl OnlineQueueTimeEstimator.observeOutput e := by
  unfold exchanged
  cases next.2 with
  | false => simp
  | true =>
      rw [if_pos rfl, if_pos rfl]
      unfold finish
      dsimp only
      cases x.firstOutputMs with
      | none => simp
      | some ms => exact Policy.observeFirstOutput_estimator ..

/-- What a step of an exchange observes. -/
theorem observed_upstream {event : UpstreamEvent} {now : ℚ} {x : LiveExchange}
    {next : Phase × Bool} (hx : a.exchanges.get requestId = some x)
    (hnext : x.completion.step x.phase (x.note loads now event).2 = some next) :
    a.observed loads (.upstream requestId event now)
      = (if next.2 then (x.note loads now event).1.firstOutputMs.map fun ms =>
          (x.completion.assignment.assignment, ms)
        else none).map fun o => (requestId, o) := by
  unfold observed
  dsimp only
  rw [hx, Option.bind_some, hnext, Option.bind_some]
  split
  · rw [Option.map_map]
    rfl
  · rfl

/-- An exchange that goes on or ends. -/
theorem Trained.exchange (h : Trained estimator shown a) (hbooks : Bookkept a)
    (hs : ∀ id x, a.exchanges.get id = some x → Streams x)
    {event : UpstreamEvent} {now : ℚ} {x : LiveExchange} {next : Phase × Bool}
    (hx : a.exchanges.get requestId = some x)
    (hnext : x.completion.step x.phase (x.note loads now event).2 = some next) :
    Trained estimator
      (shown ++ (a.observed loads (.upstream requestId event now)).toList)
      (a.exchanged requestId (x.note loads now event).1 next) := by
  have hnote : (x.note loads now event).1.completion = x.completion :=
    congrArg Exchange.completion (x.note_toExchange loads now event)
  have hstreams := (hs requestId x hx).step hnext
  have hafter := hbooks.callsFor_exchanged hx hnote hnext
  rw [observed_upstream hx hnext]
  generalize (x.note loads now event).1 = noted at *
  obtain ⟨hunfinished, hspec⟩ := Completion.step_spec hnext
  -- before this step the exchange had not ended, so the estimator was shown
  -- nothing of it
  have hnew : ∀ o, (requestId, o) ∉ shown := by
    intro o hmem
    obtain ⟨y, hy, hfinished, -⟩ := (h.accounted requestId o).mp hmem
    rw [hx] at hy
    injection hy with hy
    exact hunfinished (hy ▸ hfinished)
  have hself : (a.exchanged requestId noted next).exchanges.get requestId
      = some { noted with phase := next.1 } := by
    rw [exchanged_exchanges]
    exact PyDict.get_set_self _ _ _
  refine ⟨?_, fun id o => ?_, ?_⟩
  · rw [List.map_append, List.nodup_append]
    refine ⟨h.once, ?_, ?_⟩
    · cases (if next.2 = true then _ else none : Option FirstOutput) <;> simp
    · intro id hid id' hid' heq
      obtain ⟨⟨id₀, o⟩, hmem, rfl⟩ := List.mem_map.mp hid
      obtain ⟨⟨id₁, o'⟩, hmem', rfl⟩ := List.mem_map.mp hid'
      rw [Option.mem_toList, Option.map_eq_some_iff] at hmem'
      obtain ⟨o₁, -, heq'⟩ := hmem'
      injection heq' with hid₁
      dsimp only at heq
      rw [heq, ← hid₁] at hmem
      exact hnew o hmem
  · rw [List.mem_append, Option.mem_toList, Option.map_eq_some_iff]
    by_cases hid : id = requestId
    · subst hid
      constructor
      · rintro (hmem | ⟨o₁, ho₁, heq⟩)
        · exact absurd hmem (hnew o)
        · injection heq with _ heq
          subst heq
          split at ho₁
          next hreleases =>
            obtain ⟨ms, hms, rfl⟩ := Option.map_eq_some_iff.mp ho₁
            have hfinished : next.1 = .finished := by
              -- of the three things a step can do, only this one releases
              obtain ⟨hreleased, -⟩ | ⟨hlost, -⟩ | ⟨-, hnone, -⟩ := hspec
              · rw [hreleased]
              · rw [hlost]
              · rw [hnone] at hreleases
                cases hreleases
            have houtput : noted.firstOutputAt.isSome = true := by
              unfold LiveExchange.firstOutputMs at hms
              obtain ⟨at_, hat, -⟩ := Option.map_eq_some_iff.mp hms
              rw [hat]
              rfl
            refine ⟨_, hself, hfinished, hstreams.output houtput, ?_, hms, ?_⟩
            · exact congrArg (·.assignment.assignment) hnote
            · rw [hafter, if_pos hreleases, ← hnote]
          next => cases ho₁
      -- conversely an exchange that has made both of its calls has just
      -- released, for its first call alone was there before
      · rintro ⟨y, hy, -, -, hassignment, hms, hcalls⟩
        rw [hself] at hy
        injection hy with hy
        rw [← hy] at hassignment hms hcalls
        refine .inr ⟨o, ?_, rfl⟩
        rw [hafter] at hcalls
        have hreleases : next.2 = true := by
          by_contra hno
          rw [if_neg hno] at hcalls
          exact absurd (List.cons.inj hcalls).2.symm (List.cons_ne_nil _ _)
        rw [if_pos hreleases, Option.map_eq_some_iff]
        refine ⟨o.2, hms, Prod.ext ?_ rfl⟩
        rw [← hassignment, ← hnote]
    · rw [a.exchanged_exchangeAt noted next hid, h.accounted]
      refine ⟨fun hor => hor.resolve_right ?_, .inl⟩
      rintro ⟨o₁, -, heq⟩
      injection heq with heq
      exact hid heq.symm
  · rw [exchanged_estimator, h.estimator, hnote, Option.map_map]
    apply Option.map_congr
    intro e _
    rw [List.map_append, List.foldl_append]
    cases (if next.2 = true then _ else none : Option FirstOutput) <;> rfl

/-- One event. -/
theorem Trained.step (h : Trained estimator shown a) (hbooks : Bookkept a)
    (hh : Handled a) (hs : ∀ id x, a.exchanges.get id = some x → Streams x)
    (hstep : a.step blake2b decode loads replayEndpoint event = some a') :
    Trained estimator (shown ++ (a.observed loads event).toList) a' := by
  cases hpe : a.poolEvent blake2b event with
  | some pe =>
      have hnone : a.observed loads event = none := by
        cases event with
        | upstream => cases hpe
        | _ => rfl
      rw [hnone, Option.toList_none, List.append_nil]
      refine ⟨h.once, fun id o => ?_, ?_⟩
      · rw [h.accounted]
        refine ((hbooks.pool_step hh hstep hpe).2 id (Outputs o)
          fun x calls hout => ?_).symm
        rw [hout.1]
        exact Phase.noConfusion
      · rw [step_estimator hstep hpe]
        exact h.estimator
  | none =>
      cases step_own hstep hpe with
      | listener =>
          rw [show a.observed loads _ = none from rfl, Option.toList_none,
            List.append_nil]
          exact ⟨h.once, h.accounted, h.estimator⟩
      | poll =>
          rw [show a.observed loads _ = none from rfl, Option.toList_none,
            List.append_nil]
          exact ⟨h.once, h.accounted, h.estimator⟩
      | exchange requestId event now x next hx hnext =>
          exact h.exchange hbooks hs hx hnext

-- ================================================================ runs

theorem start_trained (policy : Policy) (policyName : String)
    (prefixBlockSize maxPlanningGroupSize : ℤ) (replayEndpoint : NodeId → Bool)
    (initialNodes : List NodeState) :
    Trained policy.estimator [] (start policy policyName prefixBlockSize
      maxPlanningGroupSize replayEndpoint initialNodes) := by
  refine ⟨List.nodup_nil, fun id o => ?_, ?_⟩
  · refine iff_of_false List.not_mem_nil ?_
    rintro ⟨x, hx, -⟩
    cases hx
  · show policy.estimator = policy.estimator.map fun e => e
    rw [Option.map_id']

/-- The policy learns the outputs of released streams, and nothing else. In
any run of the router process, the calls of `observe_first_output` are for
distinct requests: exactly the streams that saw an output and ended with
their release, each with its own assignment and the time from the opening of
its upstream. A stream that ends past its release teaches nothing, and no
plan changes what was learned. -/
theorem trained_on_released_streams (blake2b : List UInt8 → List UInt8)
    (decode : Bytes → Option RawMapEventBatch)
    (loads : Bytes → Except LoadsError PyJson.Json)
    (replayEndpoint : NodeId → Bool) (policy : Policy) (policyName : String)
    (prefixBlockSize maxPlanningGroupSize : ℤ) (initialNodes : List NodeState)
    (events : List AppEvent) (a : App)
    (hrun : Lts.run (step blake2b decode loads replayEndpoint)
      (start policy policyName prefixBlockSize maxPlanningGroupSize
        replayEndpoint initialNodes) events = some a) :
    Trained policy.estimator
      (Lts.trace (observed loads) (step blake2b decode loads replayEndpoint)
        (start policy policyName prefixBlockSize maxPlanningGroupSize
          replayEndpoint initialNodes) events) a := by
  have hinv := Lts.run_trace_invariant (observed loads)
    (P := fun _ shown a => Bookkept a ∧ Handled a ∧
      (∀ id x, a.exchanges.get id = some x → Streams x) ∧
      Trained policy.estimator shown a) ?_ ?_ hrun
  · exact hinv.2.2.2
  · refine ⟨start_books .., start_handled _ _ _ _ _ _, fun id x hx => ?_,
      start_trained ..⟩
    cases hx
  · rintro done shown a₁ event a₂ - ⟨hbooks, hhandled, hstreams, htrained⟩ hstep
    obtain ⟨hbooks', hhandled', -⟩ := step_books hbooks hhandled hstep
    exact ⟨hbooks', hhandled', step_streams hhandled hstreams hstep,
      htrained.step hbooks hhandled hstreams hstep⟩

/-- A parser that finds an output in any data. -/
def oneChoice (_ : Bytes) : Except LoadsError PyJson.Json :=
  .ok (.dict [("choices", .list [.dict [("text", .string "Hi")]])])

/-- The stream of `streamAndCancel`, with an output in its second chunk. Its
client leaves after it. -/
def streamWithOutput : List AppEvent :=
  streamAndCancel ++ [.upstream "r" (.chunk (ascii ": ping\n\n")) 3,
    .upstream "r" .returned 4, .upstream "r" (.chunk (ascii "data: x\n\n")) 5,
    .upstream "r" (.raised .cancelled) 6, .upstream "r" .returned 7]

theorem trained_on_one_stream :
    ∃ a o, Lts.run (step id (fun _ => none) oneChoice fun _ => false)
        oneNodeRouter streamWithOutput = some a ∧
      a.ExchangeAt "r" (Outputs o) ∧ o.2 = 4000 := by
  have hsome : (Lts.run (step id (fun _ => none) oneChoice fun _ => false)
      oneNodeRouter streamWithOutput).isSome := by decide +kernel
  obtain ⟨a, ha⟩ := Option.isSome_iff_exists.mp hsome
  have hshown : (Lts.trace (observed oneChoice) (step id (fun _ => none)
      oneChoice fun _ => false) oneNodeRouter streamWithOutput).map
        (fun o => (o.1, o.2.2)) = [("r", 4000)] := by decide +kernel
  have htrained := trained_on_released_streams id (fun _ => none) oneChoice
    (fun _ => false) _ _ _ _ _ streamWithOutput a ha
  have hmem : ("r", (4000 : ℚ)) ∈ (Lts.trace (observed oneChoice)
      (step id (fun _ => none) oneChoice fun _ => false) oneNodeRouter
      streamWithOutput).map fun o => (o.1, o.2.2) := by
    rw [hshown]
    exact List.mem_singleton.mpr rfl
  obtain ⟨⟨id, o⟩, ho, heq⟩ := List.mem_map.mp hmem
  injection heq with hid hms
  dsimp only at hid hms
  subst hid
  exact ⟨a, o, ha, (htrained.accounted _ o).mp ho, hms⟩

end Steps

end App

end Kareserve
