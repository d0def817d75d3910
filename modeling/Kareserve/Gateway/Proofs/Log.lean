/-
The log lines of the router process (Gateway/Log.lean), against what its
exchanges did.

A line is written with a release, of an exchange whose upstream was opened,
and of no other. What it says is what came from that upstream (`came`, read
off the steps of a run): all of its bytes, and the first failure, if there
was one. `Fits` says so of the locals of one generator in every phase it can
be in, and `Accounted` of the whole process.

# One exchange

`Fits` relates the locals of a generator to what has come for its request.
It is a relation at every await, not only at the end: the observation counts
the bytes that came so far, nothing has failed as long as there may be more
to come (`openPhases`), and the times noted are in order up to the clock. A
step keeps it (`Fits.step`), in the two phases that await the upstream by
what came (`Fits.chunk`, `Fits.reads`, `Fits.fails`) and in all others
because nothing is noted (`Fits.quiet`).

# The process

`Accounted` has `Fits` for every exchange with an observation, and nothing
come for every one without. A line is in the log exactly if its request has
an observation and its exchange has made both of its calls, which it does at
one step only. The first outputs in the log are therefore those the policy
was trained on, in the same order (`outputs_step`).
-/
import Kareserve.Gateway.Log
import Kareserve.Gateway.Proofs.Observing

namespace Kareserve

-- =========================================================== rounding

/-- Three digits are off by half a thousandth at most. -/
theorem abs_roundThousandths_sub_le (x : ℚ) :
    |roundThousandths x - x| ≤ 1 / 2000 := by
  have h := abs_le.mp (Rounding.abs_nearestEven_sub_le (x * 1000))
  unfold roundThousandths
  rw [abs_le]
  exact ⟨by linarith, by linarith⟩

/-- What came from an upstream at once, and what its await raised. -/
structure Came where
  bytes : Bytes := []
  failure : Option Outcome := none

/-- The outcome by what an await raised. -/
def Outcome.of : Raised → Outcome
  | .cancelled => .cancelled
  | _ => .error

namespace LoggedEvent

/-- What an event of an exchange brings from its upstream; its opening brings
nothing yet. -/
def came (loads : Bytes → Except LoadsError PyJson.Json) (e : LoggedEvent)
    (x : LiveExchange) (event : UpstreamEvent) : Option Came :=
  match x.phase, event with
  | .opening, .opened _ => some {}
  | .awaitingChunk, .chunk bytes =>
      match (x.note loads e.now event).2 with
      | .raised raised => some { bytes, failure := some (.of raised) }
      | _ => some { bytes }
  | .reading, .returned => some { bytes := e.content }
  | .awaitingChunk, .raised raised | .reading, .raised raised =>
      some { failure := some (.of raised) }
  | _, _ => none

end LoggedEvent

/-- The bytes that came. -/
def bytesOf (history : List Came) : ℕ :=
  (history.map fun came => came.bytes.length).sum

/-- The outcome of what came. -/
def outcomeOf (history : List Came) : Outcome :=
  (history.findSome? Came.failure).getD .completed

/-- What came for one request. -/
def cameFor (came : List (RequestId × Came)) (requestId : RequestId) :
    List Came :=
  came.filterMap fun c => if c.1 = requestId then some c.2 else none

/-- Bytes add up. -/
theorem bytesOf_concat (history : List Came) (came : Came) :
    bytesOf (history ++ [came]) = bytesOf history + came.bytes.length := by
  simp [bytesOf]

/-- Only the first failure counts. -/
theorem outcomeOf_concat {history : List Came}
    (h : history.findSome? Came.failure = none) (came : Came) :
    outcomeOf (history ++ [came]) = came.failure.getD .completed := by
  unfold outcomeOf
  rw [List.findSome?_append, h, Option.none_or]
  cases hfailure : came.failure <;> simp [hfailure]

/-- Where nothing has failed the outcome is still the first one. -/
theorem outcomeOf_unfailed {history : List Came}
    (h : history.findSome? Came.failure = none) :
    outcomeOf history = .completed := by
  unfold outcomeOf
  rw [h]
  rfl

/-- What came for a request, piece by piece. -/
theorem cameFor_append (came came' : List (RequestId × Came))
    (requestId : RequestId) :
    cameFor (came ++ came') requestId
      = cameFor came requestId ++ cameFor came' requestId :=
  List.filterMap_append

-- ========================================================= one exchange

/-- The times of an observation, up to another. -/
structure RequestObservation.InOrder (o : RequestObservation) (now : ℚ) :
    Prop where
  assigned : o.requestStartedAt ≤ o.assignmentCompletedAt
  opened : o.assignmentCompletedAt ≤ o.upstreamOpenedAt
  past : o.upstreamOpenedAt ≤ now
  output : ∀ first, o.firstOutputAt = some first →
    o.upstreamOpenedAt ≤ first ∧ first ≤ now

/-- Times in order stay so as the clock goes on. -/
theorem RequestObservation.InOrder.mono {o : RequestObservation} {now now' : ℚ}
    (h : o.InOrder now) (hle : now ≤ now') : o.InOrder now' :=
  ⟨h.assigned, h.opened, h.past.trans hle, fun first hfirst =>
    ⟨(h.output first hfirst).1, (h.output first hfirst).2.trans hle⟩⟩

/-- An exchange whose upstream is not open, or was never. -/
structure Unopened (x : LiveExchange) : Prop where
  phase : x.phase = .opening ∨ x.phase = .closingFailed ∨ x.phase = .finished
  output : x.firstOutputAt = none

/-- The phases in which there may be more to come. -/
def openPhases : List Phase := [.responding, .awaitingChunk, .yielded, .reading]

/-- What a generator has noted is what came. -/
structure Fits (now : ℚ) (history : List Came) (x : LiveExchange)
    (r : Relay) : Prop where
  phase : x.phase ≠ .opening ∧ x.phase ≠ .closingFailed
  opened : history ≠ []
  requestId : r.observation.requestId = x.completion.requestId
  nodeId : r.observation.nodeId = x.completion.assignment.node.nodeId
  openedAt : r.observation.upstreamOpenedAt = x.upstreamOpenedAt
  firstOutputAt : r.observation.firstOutputAt = x.firstOutputAt
  responseBytes : r.observation.responseBytes = bytesOf history
  outcome : r.outcome = outcomeOf history
  error : r.error.isSome ↔ r.outcome = .error
  unfailed : x.phase ∈ openPhases → history.findSome? Came.failure = none
  unread : x.phase = .reading → bytesOf history = 0
  inOrder : r.observation.InOrder now

section Exchange

variable {loads : Bytes → Except LoadsError PyJson.Json} {e : LoggedEvent}
  {x : LiveExchange} {event : UpstreamEvent} {next : Phase × Bool}
  {now : ℚ} {history : List Came} {r : Relay}

/-- What the detector makes of a chunk. -/
theorem note_chunk (loads : Bytes → Except LoadsError PyJson.Json)
    (x : LiveExchange) (now : ℚ) (bytes : Bytes) :
    (x.note loads now (.chunk bytes)).1.toExchange = x.toExchange ∧
      (x.note loads now (.chunk bytes)).1.upstreamOpenedAt
        = x.upstreamOpenedAt ∧
      ((x.note loads now (.chunk bytes)).1.firstOutputAt = x.firstOutputAt ∨
        (x.note loads now (.chunk bytes)).1.firstOutputAt = some now) ∧
      ((x.note loads now (.chunk bytes)).2 = .chunk ∨
        (x.note loads now (.chunk bytes)).2 = .raised .exception) := by
  refine ⟨x.note_toExchange loads now _, ?_⟩
  unfold LiveExchange.note
  dsimp only
  split
  next => exact ⟨rfl, .inl rfl, .inl rfl⟩
  next =>
    split
    · exact ⟨rfl, .inl rfl, .inr rfl⟩
    · exact ⟨rfl, .inr rfl, .inl rfl⟩
    · exact ⟨rfl, .inl rfl, .inl rfl⟩

/-- Nothing is noted, and nothing has come. -/
theorem Fits.goesOn (h : Fits now history x r) (hnow : now ≤ e.now)
    {phase : Phase} (hphase : phase ≠ .opening ∧ phase ≠ .closingFailed)
    (hopen : phase ∈ openPhases → x.phase ∈ openPhases)
    (hread : phase = .reading → x.phase = .reading) :
    Fits e.now history { x with phase } r where
  phase := hphase
  opened := h.opened
  requestId := h.requestId
  nodeId := h.nodeId
  openedAt := h.openedAt
  firstOutputAt := h.firstOutputAt
  responseBytes := h.responseBytes
  outcome := h.outcome
  error := h.error
  unfailed hmem := h.unfailed (hopen hmem)
  unread heq := h.unread (hread heq)
  inOrder := h.inOrder.mono hnow

/-- An await of the upstream has raised. -/
theorem Fits.fails (h : Fits now history x r) (hnow : now ≤ e.now)
    (hopen : x.phase ∈ openPhases) (raised : Raised) {phase : Phase}
    (hphase : phase = .streamClosing ∨ phase = .readClosing) :
    Fits e.now (history ++ [{ failure := some (.of raised) }])
      { x with phase } (e.failed r raised) := by
  have hunfailed := h.unfailed hopen
  -- the failure is noted beside the observation, not in it
  have hsame : (e.failed r raised).observation = r.observation := by
    cases raised <;> rfl
  refine ⟨?_, List.concat_ne_nil _ _, ?_, ?_, ?_, ?_, ?_, ?_, ?_, ?_, ?_, ?_⟩
  · obtain rfl | rfl := hphase <;> exact ⟨Phase.noConfusion, Phase.noConfusion⟩
  · rw [hsame]
    exact h.requestId
  · rw [hsame]
    exact h.nodeId
  · rw [hsame]
    exact h.openedAt
  · rw [hsame]
    exact h.firstOutputAt
  · rw [hsame, bytesOf_concat]
    exact h.responseBytes
  · rw [outcomeOf_concat hunfailed]
    cases raised <;> rfl
  -- nothing has failed before, so the text is there only if this failure has
  -- one; a cancellation has none
  · have herror := h.error
    rw [h.outcome, outcomeOf_unfailed hunfailed] at herror
    cases raised with
    | cancelled =>
        refine iff_of_false (fun hsome => ?_) Outcome.noConfusion
        exact Outcome.noConfusion (herror.mp hsome)
    | _ => exact iff_of_true rfl rfl
  · obtain rfl | rfl := hphase <;> simp [openPhases]
  · obtain rfl | rfl := hphase <;> exact Phase.noConfusion
  · rw [hsame]
    exact h.inOrder.mono hnow

/-- A chunk has come, and perhaps the detector has raised. -/
theorem Fits.chunk (h : Fits now history x r) (hnow : now ≤ e.now)
    (hphase : x.phase = .awaitingChunk) (bytes : Bytes) {phase : Phase}
    (hnext : phase = .yielded ∧
        (x.note loads e.now (.chunk bytes)).2 = .chunk ∨
      phase = .streamClosing ∧
        (x.note loads e.now (.chunk bytes)).2 = .raised .exception) :
    Fits e.now (history ++ (e.came loads x (.chunk bytes)).toList)
      { (x.note loads e.now (.chunk bytes)).1 with phase }
      (e.chunk r bytes (x.note loads e.now (.chunk bytes))) := by
  have hunfailed := h.unfailed (by rw [hphase]; simp [openPhases])
  have hcompleted := h.outcome.trans (outcomeOf_unfailed hunfailed)
  obtain ⟨hsame, hopened, houtput, -⟩ := note_chunk loads x e.now bytes
  have hcompletion := congrArg Exchange.completion hsame
  -- the bytes have come either way; that the detector raised is the failure
  have hcame : ∃ failure,
      e.came loads x (.chunk bytes) = some { bytes, failure } ∧
      (e.chunk r bytes (x.note loads e.now (.chunk bytes))).outcome
        = failure.getD .completed ∧
      ((e.chunk r bytes (x.note loads e.now (.chunk bytes))).error.isSome ↔
        (e.chunk r bytes (x.note loads e.now (.chunk bytes))).outcome
          = .error) ∧
      (failure = none ∨ phase = .streamClosing) := by
    unfold LoggedEvent.came LoggedEvent.chunk
    rw [hphase]
    dsimp only
    obtain ⟨-, hnoted⟩ | ⟨hclosing, hnoted⟩ := hnext
    · rw [hnoted]
      exact ⟨none, rfl, hcompleted, h.error, .inl rfl⟩
    · rw [hnoted]
      exact ⟨some .error, rfl, rfl, iff_of_true rfl rfl, .inr hclosing⟩
  -- bytes and first output are noted before the detector's failure is
  have hobservation :
      (e.chunk r bytes (x.note loads e.now (.chunk bytes))).observation
        = { r.observation with
            responseBytes := r.observation.responseBytes + bytes.length
            firstOutputAt :=
              (x.note loads e.now (.chunk bytes)).1.firstOutputAt } := by
    unfold LoggedEvent.chunk
    obtain ⟨-, hnoted⟩ | ⟨-, hnoted⟩ := hnext
    · rw [hnoted]
    · rw [hnoted]
      rfl
  have hyielded : phase = .yielded ∨ phase = .streamClosing :=
    hnext.imp And.left And.left
  obtain ⟨failure, hcame, houtcome, herror, hfailure⟩ := hcame
  rw [hcame, Option.toList_some]
  refine ⟨?_, List.concat_ne_nil _ _, ?_, ?_, ?_, ?_, ?_, ?_, herror,
    fun hmem => ?_, ?_, ?_⟩
  · obtain rfl | rfl := hyielded <;>
      exact ⟨Phase.noConfusion, Phase.noConfusion⟩
  · rw [hobservation]
    exact h.requestId.trans (congrArg Completion.requestId hcompletion.symm)
  · rw [hobservation]
    exact h.nodeId.trans
      (congrArg (·.assignment.node.nodeId) hcompletion.symm)
  · rw [hobservation]
    exact h.openedAt.trans hopened.symm
  · rw [hobservation]
  · rw [hobservation, bytesOf_concat, ← h.responseBytes]
  · rw [houtcome, outcomeOf_concat hunfailed]
  · obtain rfl | rfl := hfailure
    · rw [List.findSome?_append, hunfailed]
      rfl
    · simp [openPhases] at hmem
  · obtain rfl | rfl := hyielded <;> exact Phase.noConfusion
  · rw [hobservation]
    refine ⟨h.inOrder.assigned, h.inOrder.opened, h.inOrder.past.trans hnow,
      fun first hfirst => ?_⟩
    dsimp only at hfirst
    -- the first output is the one from before, or this chunk's, which is now
    obtain hbefore | hnow' := houtput
    · rw [hbefore, ← h.firstOutputAt] at hfirst
      exact (h.inOrder.mono hnow).output first hfirst
    · rw [hnow'] at hfirst
      injection hfirst with hfirst
      exact ⟨hfirst ▸ h.inOrder.past.trans hnow, hfirst ▸ le_refl _⟩

/-- The whole answer was read. -/
theorem Fits.reads (h : Fits now history x r) (hnow : now ≤ e.now)
    (hphase : x.phase = .reading) :
    Fits e.now (history ++ [{ bytes := e.content }])
      { x with phase := .readClosing }
      { r with observation :=
        { r.observation with responseBytes := e.content.length } } := by
  have hunfailed := h.unfailed (by rw [hphase]; simp [openPhases])
  refine ⟨⟨Phase.noConfusion, Phase.noConfusion⟩, List.concat_ne_nil _ _,
    h.requestId, h.nodeId, h.openedAt, h.firstOutputAt, ?_, ?_, h.error, ?_,
    Phase.noConfusion, ?_⟩
  · rw [bytesOf_concat, h.unread hphase, Nat.zero_add]
  · rw [outcomeOf_concat hunfailed]
    exact h.outcome.trans (outcomeOf_unfailed hunfailed)
  · simp [openPhases]
  · exact ⟨h.inOrder.assigned, h.inOrder.opened, h.inOrder.past.trans hnow,
      (h.inOrder.mono hnow).output⟩

/-- What one event of an exchange whose upstream was opened leaves: what is
noted fits what came, and a line is written with the release. -/
structure Fits.Steps (loads : Bytes → Except LoadsError PyJson.Json)
    (e : LoggedEvent) (history : List Came) (x : LiveExchange) (r : Relay)
    (received : Option Received) (event : UpstreamEvent)
    (next : Phase × Bool) (r' : Relay) : Prop where
  relay : e.relay x received (x.note loads e.now event) (some r) event = some r'
  fits : Fits e.now (history ++ (e.came loads x event).toList)
    { (x.note loads e.now event).1 with phase := next.1 } r'
  line : e.line x next.2 (some r') = if next.2 then
    some (r'.observation.result e.now r'.outcome r'.error) else none

/-- An event that is not noted. -/
theorem Fits.quiet (h : Fits now history x r) (hnow : now ≤ e.now)
    (received : Option Received)
    (hphase : next.1 ≠ .opening ∧ next.1 ≠ .closingFailed)
    (hopen : next.1 ∈ openPhases → x.phase ∈ openPhases)
    (hread : next.1 = .reading → x.phase = .reading)
    (hnote : (x.note loads e.now event).1 = x)
    (hrelay : e.relay x received (x.note loads e.now event) (some r) event
      = some r)
    (hcame : e.came loads x event = none)
    (hline : next.2 = true →
      x.phase = .streamClosing ∨ x.phase = .readClosing) :
    Fits.Steps loads e history x r received event next r := by
  refine ⟨hrelay, ?_, ?_⟩
  · rw [hcame, hnote, Option.toList_none, List.append_nil]
    exact h.goesOn hnow hphase hopen hread
  · unfold LoggedEvent.line
    cases hreleases : next.2 with
    | false =>
        rw [if_neg Bool.false_ne_true]
        split <;> first | rfl | contradiction
    | true =>
        obtain hclosing | hclosing := hline hreleases
        · rw [hclosing]
          rfl
        · rw [hclosing]
          rfl

/-- One event of an exchange whose upstream was opened, by its phase. Only in
the two phases that await the upstream (`awaitingChunk`, `reading`) does
anything come; in all others the event is quiet, and the line is written in
the two that close, with the release. -/
theorem Fits.step (h : Fits now history x r) (hnow : now ≤ e.now)
    (hnext : x.completion.step x.phase (x.note loads e.now event).2 = some next)
    (received : Option Received) :
    ∃ r', Fits.Steps loads e history x r received event next r' := by
  -- elsewhere a chunk is no event
  have hchunk : ∀ bytes, event = .chunk bytes → x.phase = .awaitingChunk := by
    rintro bytes rfl
    by_contra hne
    have hnote : x.note loads e.now (.chunk bytes) = (x, .chunk) :=
      if_pos (.inl hne)
    rw [hnote] at hnext
    cases hphase : x.phase with
    | awaitingChunk => exact hne hphase
    | _ =>
        rw [hphase] at hnext
        cases hnext
  cases hphase : x.phase with
  | opening => exact absurd hphase h.phase.1
  | closingFailed => exact absurd hphase h.phase.2
  | finished => exact absurd hphase (Completion.step_spec hnext).1
  | awaitingChunk =>
      have hopen : x.phase ∈ openPhases := by simp [openPhases, hphase]
      rw [hphase] at hnext
      cases event with
      | chunk bytes =>
          obtain ⟨-, -, -, hnoted⟩ := note_chunk loads x e.now bytes
          have hyields : next.1 = .yielded ∧
                (x.note loads e.now (.chunk bytes)).2 = .chunk ∨
              next.1 = .streamClosing ∧
                (x.note loads e.now (.chunk bytes)).2
                  = .raised .exception := by
            obtain hnoted | hnoted := hnoted
            · rw [hnoted] at hnext
              injection hnext with hnext
              exact .inl ⟨hnext ▸ rfl, hnoted⟩
            · rw [hnoted] at hnext
              injection hnext with hnext
              exact .inr ⟨hnext ▸ rfl, hnoted⟩
          have hreleases : next.2 = false := by
            obtain hnoted | hnoted := hnoted <;>
              (rw [hnoted] at hnext; injection hnext with hnext; rw [← hnext])
          refine ⟨_, rfl, h.chunk hnow hphase bytes hyields, ?_⟩
          simp [LoggedEvent.line, hphase, hreleases]
      | opened contentType => cases hnext
      | returned => cases hnext
      | ended =>
          injection hnext with hnext
          subst hnext
          exact ⟨r, h.quiet hnow received (by simp) (fun _ => hopen) (by simp)
            rfl rfl (by simp [LoggedEvent.came, hphase]) (by simp)⟩
      | raised raised =>
          injection hnext with hnext
          subst hnext
          refine ⟨e.failed r raised, ?_, ?_, ?_⟩
          · simp [LoggedEvent.relay, hphase]
          · simpa [LoggedEvent.came, LiveExchange.note, hphase] using
              h.fails hnow hopen raised (.inl rfl)
          · simp [LoggedEvent.line, hphase]
  | reading =>
      have hopen : x.phase ∈ openPhases := by simp [openPhases, hphase]
      rw [hphase] at hnext
      cases event with
      | chunk bytes =>
          rw [hchunk bytes rfl] at hphase
          cases hphase
      | opened contentType => cases hnext
      | ended => cases hnext
      | returned =>
          injection hnext with hnext
          subst hnext
          refine ⟨{ r with observation := { r.observation with
            responseBytes := e.content.length } }, ?_, ?_, ?_⟩
          · simp [LoggedEvent.relay, hphase]
          · simpa [LoggedEvent.came, LiveExchange.note, hphase] using
              h.reads hnow hphase
          · simp [LoggedEvent.line, hphase]
      | raised raised =>
          injection hnext with hnext
          subst hnext
          refine ⟨e.failed r raised, ?_, ?_, ?_⟩
          · simp [LoggedEvent.relay, hphase]
          · simpa [LoggedEvent.came, LiveExchange.note, hphase] using
              h.fails hnow hopen raised (.inr rfl)
          · simp [LoggedEvent.line, hphase]
  | _ =>
      rw [hphase] at hnext
      cases event with
      | chunk bytes =>
          rw [hchunk bytes rfl] at hphase
          cases hphase
      | opened contentType => cases hnext
      | ended => cases hnext
      | returned =>
          injection hnext with hnext
          subst hnext
          exact ⟨r, h.quiet hnow received (by simp) (by simp [openPhases, hphase])
            (by simp) rfl (by simp [LoggedEvent.relay, hphase])
            (by simp [LoggedEvent.came, hphase]) (by simp [hphase])⟩
      | raised raised =>
          injection hnext with hnext
          subst hnext
          exact ⟨r, h.quiet hnow received (by simp) (by simp [openPhases, hphase])
            (by simp) rfl (by simp [LoggedEvent.relay, hphase])
            (by simp [LoggedEvent.came, hphase]) (by simp [hphase])⟩

/-- The upstream is opened. -/
theorem Unopened.opens (h : Unopened x) {received : Received}
    (hreceived : received.requestStartedAt ≤ received.assignmentCompletedAt
      ∧ received.assignmentCompletedAt ≤ e.now) {phase : Phase}
    (hphase : phase = .responding ∨ phase = .finished ∨ phase = .reading)
    {contentType : Option String} :
    Fits e.now [{}] { (x.note loads e.now (.opened contentType)).1 with phase }
      (e.observe x received) where
  phase := by
    obtain rfl | rfl | rfl := hphase <;>
      exact ⟨Phase.noConfusion, Phase.noConfusion⟩
  opened := List.cons_ne_nil _ _
  requestId := rfl
  nodeId := rfl
  openedAt := rfl
  firstOutputAt := h.output.symm
  responseBytes := rfl
  outcome := rfl
  error := iff_of_false Bool.false_ne_true Outcome.noConfusion
  unfailed _ := rfl
  unread _ := rfl
  inOrder := ⟨hreceived.1, hreceived.2, le_refl _, fun first hfirst => by
    cases hfirst⟩

/-- One event of an exchange whose upstream was not opened: it is opened now,
or nothing is noted. -/
theorem Unopened.step (h : Unopened x)
    (hnext : x.completion.step x.phase (x.note loads e.now event).2 = some next)
    {received : Received}
    (hreceived : received.requestStartedAt ≤ received.assignmentCompletedAt
      ∧ received.assignmentCompletedAt ≤ e.now) :
    e.line x next.2 (e.relay x (some received) (x.note loads e.now event) none
        event) = none ∧
      (e.relay x (some received) (x.note loads e.now event) none event = none ∧
          e.came loads x event = none ∧
          Unopened { (x.note loads e.now event).1 with phase := next.1 } ∨
        ∃ r', e.relay x (some received) (x.note loads e.now event) none event
            = some r' ∧
          e.came loads x event = some {} ∧ next.2 = false ∧
          Fits e.now [{}]
            { (x.note loads e.now event).1 with phase := next.1 } r') := by
  -- awaiting the opening, closing after it failed, or at the end
  obtain hphase | hphase | hphase := h.phase
  · refine ⟨by simp [LoggedEvent.line, hphase], ?_⟩
    rw [hphase] at hnext
    cases event with
    | opened contentType =>
        -- to a stream, to a body, or at once to the end: in none of them is
        -- anything released
        have hopens : next.2 = false ∧ (next.1 = .responding ∨
            next.1 = .finished ∨ next.1 = .reading) := by
          simp only [LiveExchange.note, Completion.step] at hnext
          split at hnext
          · split at hnext <;> (injection hnext with hnext; simp [← hnext])
          · injection hnext with hnext
            simp [← hnext]
        -- the observation begins here, of what the handler kept
        refine .inr ⟨e.observe x received, ?_, ?_, hopens.1, ?_⟩
        · simp [LoggedEvent.relay, hphase]
        · simp [LoggedEvent.came, hphase]
        · exact h.opens hreceived hopens.2
    | raised raised =>
        refine .inl ⟨?_, ?_, ?_, h.output⟩
        · simp [LoggedEvent.relay, hphase]
        · simp [LoggedEvent.came, hphase]
        · cases raised with
          | clientError =>
              injection hnext with hnext
              exact .inr (.inl (hnext ▸ rfl))
          | _ =>
              injection hnext with hnext
              exact .inr (.inr (hnext ▸ rfl))
    | chunk bytes =>
        have hnote : x.note loads e.now (.chunk bytes) = (x, .chunk) :=
          if_pos (.inl (by simp [hphase]))
        rw [hnote] at hnext
        cases hnext
    | ended => cases hnext
    | returned => cases hnext
  -- no observation was begun, so the release has no line either
  · refine ⟨by simp [LoggedEvent.line, hphase], ?_⟩
    rw [hphase] at hnext
    cases event with
    | returned =>
        injection hnext with hnext
        refine .inl ⟨?_, ?_, .inr (.inr (hnext ▸ rfl)), h.output⟩
        · simp [LoggedEvent.relay, hphase]
        · simp [LoggedEvent.came, hphase]
    | raised raised =>
        injection hnext with hnext
        refine .inl ⟨?_, ?_, .inr (.inr (hnext ▸ rfl)), h.output⟩
        · simp [LoggedEvent.relay, hphase]
        · simp [LoggedEvent.came, hphase]
    | chunk bytes =>
        have hnote : x.note loads e.now (.chunk bytes) = (x, .chunk) :=
          if_pos (.inl (by simp [hphase]))
        rw [hnote] at hnext
        cases hnext
    | ended => cases hnext
    | opened contentType => cases hnext
  · exact absurd hphase (Completion.step_spec hnext).1

end Exchange

-- ============================================================ one step

namespace App

variable {a a' : App} {blake2b : List UInt8 → List UInt8}
  {decode : Bytes → Option RawMapEventBatch}
  {loads : Bytes → Except LoadsError PyJson.Json}
  {replayEndpoint : NodeId → Bool} {event : AppEvent}

/-- What an event that is none of an exchange leaves of the exchanges and of
the callers. -/
structure Aside (a : App) (event : AppEvent) (a' : App) : Prop where
  began : ∀ id x', a'.exchanges.get id = some x' →
    a.exchanges.get id = some x' ∨
      (x'.phase = .opening ∧ x'.firstOutputAt = none)
  same : ∀ id holds, (∀ x calls, holds x calls → x.phase ≠ .opening) →
    (a'.ExchangeAt id holds ↔ a.ExchangeAt id holds)
  callers : ∀ id caller', a'.requestPool.callers.get id = some caller' →
    (∃ caller, a.requestPool.callers.get id = some caller) ∨
      ∃ request handler, event = .request request handler ∧
        request.requestId = id

/-- The pool is given a request by its handler. -/
theorem poolEvent_assign {request : SchedulerRequest}
    (hpe : a.poolEvent blake2b event = some (.assign request)) :
    ∃ handler, event = .request request handler := by
  cases event with
  | request request' handler =>
      injection hpe with hpe
      injection hpe with hpe
      exact ⟨handler, by rw [hpe]⟩
  | lookupReturned found =>
      simp only [poolEvent] at hpe
      split at hpe
      next =>
        injection hpe with hpe
        exact absurd hpe (planEvent_ne_assign _ request)
      next => cases hpe
  | _ => cases hpe

/-- An event that is none of an exchange, by the part of the process it is one
of: the exchanges go on as they are, but that the return of an `assign` may
begin one, whose upstream is not open. -/
theorem step_aside (hbooks : Bookkept a) (hh : Handled a)
    (hstep : a.step blake2b decode loads replayEndpoint event = some a')
    (hother : ∀ id upstream now, event ≠ .upstream id upstream now) :
    Aside a event a' := by
  cases hpe : a.poolEvent blake2b event with
  | some pe =>
      refine ⟨fun id x' hx' => pool_exchanges hh hstep hpe hx',
        (hbooks.pool_step hh hstep hpe).2, fun id caller' hget => ?_⟩
      cases RequestPool.step_caller (step_pool hstep hpe).step hget with
      | same hsame => exact .inl ⟨_, hsame⟩
      | new request hassign hown _ =>
          subst hassign
          obtain ⟨handler, rfl⟩ := poolEvent_assign hpe
          exact .inr ⟨request, handler, rfl, hown⟩
      | cancelled caller _ hcaller _ => exact .inl ⟨_, hcaller⟩
      | resumed caller _ hcaller _ => exact .inl ⟨_, hcaller⟩
      | answered caller hcaller _ _ => exact .inl ⟨_, hcaller⟩
  | none =>
      cases step_own hstep hpe with
      | exchange id upstream now => exact absurd rfl (hother id upstream now)
      | listener => exact ⟨fun _ _ => .inl, fun _ _ _ => Iff.rfl,
          fun _ caller' hget => .inl ⟨caller', hget⟩⟩
      | poll => exact ⟨fun _ _ => .inl, fun _ _ _ => Iff.rfl,
          fun _ caller' hget => .inl ⟨caller', hget⟩⟩

end App

namespace Logged

variable {blake2b : List UInt8 → List UInt8}
  {decode : Bytes → Option RawMapEventBatch}
  {loads : Bytes → Except LoadsError PyJson.Json}
  {replayEndpoint : NodeId → Bool} {m m' : Logged} {e : LoggedEvent}
  {requestId : RequestId} {came : List (RequestId × Came)}

/-- What a step brings from an upstream. -/
def brought (loads : Bytes → Except LoadsError PyJson.Json) (m : Logged)
    (e : LoggedEvent) : Option (RequestId × Came) :=
  match e.event with
  | .upstream requestId event _ =>
      (m.app.exchanges.get requestId).bind fun x =>
        (e.came loads x event).map fun came => (requestId, came)
  | _ => none

/-- An exchange that has ended with its release. -/
def Released (x : LiveExchange) (calls : List RouteCall) : Prop :=
  x.phase = .finished ∧
    calls = [x.completion.reserveCall, x.completion.releaseCall]

/-- The log, and what is noted for it, after what came so far. -/
structure Accounted (came : List (RequestId × Came)) (m : Logged) : Prop where
  received : ∀ requestId caller,
    m.app.requestPool.callers.get requestId = some caller →
    ∃ r, m.received.get requestId = some r
  ordered : ∀ requestId r, m.received.get requestId = some r →
    r.requestStartedAt ≤ r.assignmentCompletedAt ∧
      r.assignmentCompletedAt ≤ m.clock
  relays : ∀ requestId r, m.relays.get requestId = some r →
    m.app.ExchangeAt requestId fun x _ =>
      Fits m.clock (cameFor came requestId) x r
  unopened : ∀ requestId, m.relays.get requestId = none →
    cameFor came requestId = [] ∧
      ∀ x, m.app.exchanges.get requestId = some x → Unopened x
  once : (m.log.map Prod.fst).Nodup
  logged : ∀ requestId, requestId ∈ m.log.map Prod.fst ↔
    (∃ r, m.relays.get requestId = some r) ∧
      m.app.ExchangeAt requestId Released
  lines : ∀ requestId result, (requestId, result) ∈ m.log →
    ∃ r now, m.relays.get requestId = some r ∧
      result = r.observation.result now r.outcome r.error ∧
      r.observation.InOrder now

/-- A step, taken apart. -/
theorem step_eq_some
    (hstep : m.step loads blake2b decode replayEndpoint e = some m') :
    m.clock ≤ e.now ∧ e.requestStartedAt ≤ e.now ∧
      ∃ app, m.app.step blake2b decode loads replayEndpoint e.seen = some app ∧
        m' = { m.note loads e with app, clock := e.now } := by
  unfold step at hstep
  split at hstep
  next => cases hstep
  next hclock =>
    rw [not_or, not_lt, not_lt] at hclock
    obtain ⟨app, happ, rfl⟩ := Option.map_eq_some_iff.mp hstep
    exact ⟨hclock.1, hclock.2, app, happ, rfl⟩

/-- What handlers keep stays, and is in order. -/
theorem get_received (hclock : m.clock ≤ e.now)
    (hstarted : e.requestStartedAt ≤ e.now) (h : m.Accounted came)
    {r : Received}
    (hget : (e.received m.received).get requestId = some r) :
    r.requestStartedAt ≤ r.assignmentCompletedAt ∧
      r.assignmentCompletedAt ≤ e.now := by
  have hbefore : ∀ r, m.received.get requestId = some r →
      r.requestStartedAt ≤ r.assignmentCompletedAt ∧
        r.assignmentCompletedAt ≤ e.now := fun r hr =>
    ⟨(h.ordered requestId r hr).1, (h.ordered requestId r hr).2.trans hclock⟩
  unfold LoggedEvent.received at hget
  split at hget
  · rw [PyDict.get_set] at hget
    split at hget
    · injection hget with hget
      rw [← hget]
      exact ⟨hstarted, le_refl _⟩
    · exact hbefore r hget
  · rw [PyDict.get_modify] at hget
    split at hget
    · obtain ⟨r₀, hr₀, rfl⟩ := Option.map_eq_some_iff.mp hget
      exact ⟨(hbefore r₀ hr₀).1.trans (hbefore r₀ hr₀).2, le_refl _⟩
    · exact hbefore r hget
  · exact hbefore r hget

/-- The process sees such an event as it is. -/
theorem seen_aside (hother : ∀ id event now, e.event ≠ .upstream id event now) :
    e.seen = e.event := by
  unfold LoggedEvent.seen
  cases hevent : e.event with
  | upstream id event now => exact absurd hevent (hother id event now)
  | _ => rfl

/-- An event that is none of an exchange is noted by its handler only. -/
theorem note_aside (hother : ∀ id event now, e.event ≠ .upstream id event now) :
    m.brought loads e = none ∧
      m.note loads e = { m with received := e.received m.received } := by
  unfold brought note
  cases hevent : e.event with
  | upstream id event now => exact absurd hevent (hother id event now)
  | _ => exact ⟨rfl, rfl⟩

/-- What an exchange needs of its handler is kept. -/
theorem exists_received {requestId : RequestId}
    (h : (∃ r, m.received.get requestId = some r) ∨
      ∃ request handler, e.event = .request request handler ∧
        request.requestId = requestId) :
    ∃ r, (e.received m.received).get requestId = some r := by
  unfold LoggedEvent.received
  obtain ⟨r, hr⟩ | ⟨request, handler, hevent, rfl⟩ := h
  · split
    · rw [PyDict.get_set]
      split
      · exact ⟨_, rfl⟩
      · exact ⟨r, hr⟩
    · rw [PyDict.get_modify]
      split
      · rw [hr]
        exact ⟨_, rfl⟩
      · exact ⟨r, hr⟩
    · exact ⟨r, hr⟩
  · rw [hevent]
    exact ⟨_, PyDict.get_set_self _ _ _⟩

/-- An event that is none of an exchange. -/
theorem Accounted.aside (h : m.Accounted came) (hbooks : App.Bookkept m.app)
    (hh : App.Handled m.app) {app : App}
    (happ : m.app.step blake2b decode loads replayEndpoint e.seen = some app)
    (hclock : m.clock ≤ e.now) (hstarted : e.requestStartedAt ≤ e.now)
    (hother : ∀ id event now, e.event ≠ .upstream id event now) :
    Accounted came
      { m with received := e.received m.received, app, clock := e.now } := by
  rw [seen_aside hother] at happ
  have haside := App.step_aside hbooks hh happ hother
  refine ⟨fun id caller hget => ?_, fun id r hr => ?_, fun id r hr => ?_,
    fun id hnone => ?_, h.once, fun id => ?_, h.lines⟩
  · refine exists_received ?_
    obtain ⟨caller', hcaller⟩ | hnew := haside.callers id caller hget
    · exact .inl (h.received id caller' hcaller)
    · exact .inr hnew
  · exact get_received hclock hstarted h hr
  · refine (haside.same id _ fun x calls hfits => hfits.phase.1).mpr ?_
    obtain ⟨x, hx, hfits⟩ := h.relays id r hr
    exact ⟨x, hx, { hfits with inOrder := hfits.inOrder.mono hclock }⟩
  · refine ⟨(h.unopened id hnone).1, fun x hx => ?_⟩
    obtain hbefore | ⟨hopening, hnone'⟩ := haside.began id x hx
    · exact (h.unopened id hnone).2 x hbefore
    · exact ⟨.inl hopening, hnone'⟩
  · rw [h.logged id]
    refine and_congr_right fun _ => (haside.same id _ ?_).symm
    rintro x calls ⟨hfinished, -⟩
    rw [hfinished]
    exact Phase.noConfusion

/-- What an event of an exchange leaves for its relay. -/
structure Noted (loads : Bytes → Except LoadsError PyJson.Json)
    (e : LoggedEvent) (history : List Came) (x : LiveExchange)
    (event : UpstreamEvent) (next : Phase × Bool) (relay relay' : Option Relay) :
    Prop where
  unopened : relay' = none → relay = none ∧ e.came loads x event = none ∧
    Unopened { (x.note loads e.now event).1 with phase := next.1 }
  fits : ∀ r, relay' = some r →
    Fits e.now (history ++ (e.came loads x event).toList)
      { (x.note loads e.now event).1 with phase := next.1 } r
  line : e.line x next.2 relay' = if next.2 then
    relay'.map fun r => r.observation.result e.now r.outcome r.error else none

/-- What a step of an exchange notes, for an exchange of the books: either its
upstream was opened before, and its locals fit what came (`Fits.step`), or it
was not, and there are none (`Unopened.step`). -/
theorem Accounted.noted (h : m.Accounted came) (hbooks : App.Bookkept m.app)
    {x : LiveExchange} {event : UpstreamEvent} {next : Phase × Bool}
    (hx : m.app.exchanges.get requestId = some x)
    (hnext : x.completion.step x.phase (x.note loads e.now event).2 = some next)
    (hclock : m.clock ≤ e.now) :
    Noted loads e (cameFor came requestId) x event next
      (m.relays.get requestId)
      (e.relay x (m.received.get requestId) (x.note loads e.now event)
        (m.relays.get requestId) event) := by
  obtain ⟨caller, hcaller, -⟩ := hbooks.caller requestId x hx
  obtain ⟨received, hreceived⟩ := h.received requestId caller hcaller
  have hordered := h.ordered requestId received hreceived
  rw [hreceived]
  cases hrelay : m.relays.get requestId with
  | none =>
      obtain ⟨hcame, hunopened⟩ := h.unopened requestId hrelay
      obtain ⟨hline, ⟨hnone, hno, hstill⟩ | ⟨r, hsome, hopens, hkeeps, hfits⟩⟩ :=
        (hunopened x hx).step hnext ⟨hordered.1, hordered.2.trans hclock⟩
      · refine ⟨fun _ => ⟨rfl, hno, hstill⟩, fun r hr => ?_, ?_⟩
        · rw [hnone] at hr
          cases hr
        · rw [hline, hnone]
          split <;> rfl
      · refine ⟨fun hnone => ?_, fun r' hr' => ?_, ?_⟩
        · rw [hsome] at hnone
          cases hnone
        · rw [hsome] at hr'
          injection hr' with hr'
          rw [← hr', hcame, hopens]
          exact hfits
        · rw [hline, hkeeps]
          rfl
  | some r =>
      obtain ⟨y, hy, hfits⟩ := h.relays requestId r hrelay
      rw [hx] at hy
      injection hy with hy
      subst hy
      obtain ⟨r', hr', hfits', hline⟩ := hfits.step hclock hnext (some received)
      rw [hr']
      refine ⟨fun hnone => ?_, fun r₁ hr₁ => ?_, hline⟩
      · cases hnone
      · injection hr₁ with hr₁
        exact hr₁ ▸ hfits'

/-- What is noted, with the release of the step spelled out. -/
theorem relayed_eq {x : LiveExchange} {event : UpstreamEvent}
    {next : Phase × Bool}
    (hnext : x.completion.step x.phase (x.note loads e.now event).2 = some next)
    {relay : Option Relay}
    (hrelay : e.relay x (m.received.get requestId) (x.note loads e.now event)
      (m.relays.get requestId) event = relay) :
    m.relayed loads e requestId event x =
      { m with
        relays := relay.elim m.relays (m.relays.set requestId)
        log := m.log ++ ((e.line x next.2 relay).map fun result =>
          (requestId, result)).toList } := by
  unfold relayed
  dsimp only
  rw [hnext, hrelay]
  rfl

/-- What an event brings is its own request's. -/
theorem cameFor_brought_self {c : Option Came} :
    cameFor (came ++ (c.map fun c => (requestId, c)).toList) requestId
      = cameFor came requestId ++ c.toList := by
  rw [cameFor_append]
  cases c <;> simp [cameFor]

/-- A request brings in nothing for another one. -/
theorem cameFor_brought_of_ne {c : Option Came} {id : RequestId}
    (hne : id ≠ requestId) :
    cameFor (came ++ (c.map fun c => (requestId, c)).toList) id
      = cameFor came id := by
  rw [cameFor_append]
  cases c <;> simp [cameFor, Ne.symm hne]

/-- An event of an exchange. -/
theorem Accounted.exchange (h : m.Accounted came)
    (hbooks : App.Bookkept m.app) {x : LiveExchange} {event : UpstreamEvent}
    {next : Phase × Bool} (hx : m.app.exchanges.get requestId = some x)
    (hnext : x.completion.step x.phase (x.note loads e.now event).2 = some next)
    (hclock : m.clock ≤ e.now) :
    Accounted (came ++ ((e.came loads x event).map fun c =>
        (requestId, c)).toList)
      { m.relayed loads e requestId event x with
        app := m.app.exchanged requestId (x.note loads e.now event).1 next
        clock := e.now } := by
  have hnoted := h.noted hbooks hx hnext hclock
  generalize hrelay : e.relay x (m.received.get requestId)
    (x.note loads e.now event) (m.relays.get requestId) event = relay at hnoted
  obtain ⟨hunopened, hfits, hline⟩ := hnoted
  rw [relayed_eq hnext hrelay]
  generalize e.line x next.2 relay = line at hline
  have hnote : (x.note loads e.now event).1.completion = x.completion :=
    congrArg Exchange.completion (x.note_toExchange loads e.now event)
  have hafter := hbooks.callsFor_exchanged hx hnote hnext
  obtain ⟨hunfinished, hspec⟩ := Completion.step_spec hnext
  generalize (x.note loads e.now event).1 = noted at *
  have hself : (m.app.exchanged requestId noted next).exchanges.get requestId
      = some { noted with phase := next.1 } := by
    rw [App.exchanged_exchanges]
    exact PyDict.get_set_self _ _ _
  have hrelays : ∀ id, (relay.elim m.relays (m.relays.set requestId)).get id
      = if id = requestId then relay else m.relays.get id := by
    intro id
    cases relay with
    | none =>
        rw [Option.elim_none]
        split
        next hid => rw [hid, (hunopened rfl).1]
        next => rfl
    | some r =>
        rw [Option.elim_some, PyDict.get_set]
  -- nothing was logged for it yet
  have hnew : requestId ∉ m.log.map Prod.fst := by
    intro hmem
    obtain ⟨-, y, hy, hfinished, -⟩ := (h.logged requestId).mp hmem
    rw [hx] at hy
    injection hy with hy
    exact hunfinished (hy ▸ hfinished)
  have hreleased : Released { noted with phase := next.1 }
        (callsFor (m.app.exchanged requestId noted next).calls requestId) ↔
      next.2 = true := by
    rw [hafter]
    constructor
    · rintro ⟨-, hcalls⟩
      by_contra hno
      rw [if_neg hno] at hcalls
      exact absurd (List.cons.inj hcalls).2.symm (List.cons_ne_nil _ _)
    · intro hreleases
      refine ⟨?_, ?_⟩
      · obtain ⟨hreleased, -⟩ | ⟨hlost, -⟩ | ⟨-, hnone, -⟩ := hspec
        · rw [hreleased]
        · rw [hlost]
        · rw [hnone] at hreleases
          cases hreleases
      · rw [if_pos hreleases, ← hnote]
  refine ⟨?_, ?_, ?_, ?_, ?_, ?_, ?_⟩
  · intro id caller hget
    dsimp only at hget
    rw [App.exchanged_requestPool] at hget
    exact h.received id caller hget
  · exact fun id r hr =>
      ⟨(h.ordered id r hr).1, (h.ordered id r hr).2.trans hclock⟩
  · intro id r hr
    dsimp only at hr ⊢
    rw [hrelays] at hr
    by_cases hid : id = requestId
    · subst hid
      rw [if_pos rfl] at hr
      rw [cameFor_brought_self]
      exact ⟨_, hself, hfits r hr⟩
    · rw [if_neg hid] at hr
      rw [cameFor_brought_of_ne hid]
      obtain ⟨y, hy, hbefore⟩ := h.relays id r hr
      refine (m.app.exchanged_exchangeAt noted next hid _).mpr ⟨y, hy, ?_⟩
      exact { hbefore with inOrder := hbefore.inOrder.mono hclock }
  · intro id hnone
    dsimp only at hnone ⊢
    rw [hrelays] at hnone
    by_cases hid : id = requestId
    · subst hid
      rw [if_pos rfl] at hnone
      obtain ⟨hbefore, hcame, hstill⟩ := hunopened hnone
      rw [cameFor_brought_self, hcame, (h.unopened id hbefore).1]
      refine ⟨rfl, fun y hy => ?_⟩
      rw [hself] at hy
      injection hy with hy
      exact hy ▸ hstill
    · rw [if_neg hid] at hnone
      rw [cameFor_brought_of_ne hid]
      refine ⟨(h.unopened id hnone).1, fun y hy => ?_⟩
      rw [App.exchanged_exchanges, PyDict.get_set_of_ne _ hid] at hy
      exact (h.unopened id hnone).2 y hy
  · dsimp only
    rw [List.map_append, List.nodup_append]
    refine ⟨h.once, ?_, ?_⟩
    · cases line <;> simp
    · rintro id hid id' hid' rfl
      cases line with
      | none => cases hid'
      | some result =>
          rw [List.mem_singleton.mp hid'] at hid
          exact hnew hid
  · intro id
    dsimp only
    rw [List.map_append, List.mem_append, hrelays]
    by_cases hid : id = requestId
    · subst hid
      rw [if_pos rfl, or_iff_right hnew, hline]
      constructor
      · intro hmem
        by_cases hreleases : next.2 = true
        · rw [if_pos hreleases] at hmem
          cases relay with
          | none => cases hmem
          | some r => exact ⟨⟨r, rfl⟩, _, hself, hreleased.mpr hreleases⟩
        · rw [if_neg hreleases] at hmem
          cases hmem
      · rintro ⟨⟨r, rfl⟩, y, hy, hy'⟩
        rw [hself] at hy
        injection hy with hy
        subst hy
        rw [if_pos (hreleased.mp hy')]
        simp
    · rw [if_neg hid, m.app.exchanged_exchangeAt noted next hid,
        ← h.logged id, or_iff_left]
      cases line with
      | none => exact List.not_mem_nil
      | some result => simp [hid]
  · intro id result hmem
    dsimp only at hmem ⊢
    rw [List.mem_append] at hmem
    obtain hmem | hmem := hmem
    · have hid : id ≠ requestId := by
        rintro rfl
        exact hnew (List.mem_map.mpr ⟨_, hmem, rfl⟩)
      obtain ⟨r, now, hr, hresult⟩ := h.lines id result hmem
      exact ⟨r, now, by rw [hrelays, if_neg hid, hr], hresult⟩
    · rw [hline, Option.mem_toList, Option.map_eq_some_iff] at hmem
      obtain ⟨result', hresult', heq⟩ := hmem
      injection heq with hid hresult
      subst hid hresult
      split at hresult'
      next =>
        obtain ⟨r, rfl, rfl⟩ := Option.map_eq_some_iff.mp hresult'
        exact ⟨r, e.now, by rw [hrelays, if_pos rfl], rfl,
          (hfits r rfl).inOrder⟩
      next => cases hresult'

/-- A step of an exchange, taken apart. -/
structure OfExchange (loads : Bytes → Except LoadsError PyJson.Json)
    (m : Logged) (e : LoggedEvent) (m' : Logged) where
  requestId : RequestId
  event : UpstreamEvent
  x : LiveExchange
  next : Phase × Bool
  seen : e.seen = .upstream requestId event e.now
  get : m.app.exchanges.get requestId = some x
  step : x.completion.step x.phase (x.note loads e.now event).2 = some next
  brought : m.brought loads e
    = (e.came loads x event).map fun c => (requestId, c)
  after : m' = { m.relayed loads e requestId event x with
    app := m.app.exchanged requestId (x.note loads e.now event).1 next
    clock := e.now }

/-- A step is one of an exchange, or is noted by a handler only. -/
theorem step_cases
    (hstep : m.step loads blake2b decode replayEndpoint e = some m') :
    Nonempty (OfExchange loads m e m') ∨
      (∀ id event now, e.event ≠ .upstream id event now) := by
  by_cases hupstream : ∃ id event now, e.event = .upstream id event now
  · obtain ⟨requestId, event, now, hevent⟩ := hupstream
    obtain ⟨-, -, app, happ, rfl⟩ := step_eq_some hstep
    have hseen : e.seen = .upstream requestId event e.now := by
      unfold LoggedEvent.seen
      rw [hevent]
    rw [hseen] at happ
    cases App.step_own happ rfl with
    | exchange id event' now' x next hx hnext =>
        refine .inl ⟨⟨requestId, event, x, next, hseen, hx, hnext, ?_, ?_⟩⟩
        · unfold brought
          rw [hevent]
          dsimp only
          rw [hx]
          rfl
        · unfold note
          rw [hevent]
          dsimp only
          rw [hx]
          rfl
  · exact .inr fun id event now hevent => hupstream ⟨id, event, now, hevent⟩

/-- One event. -/
theorem Accounted.step (h : m.Accounted came) (hbooks : App.Bookkept m.app)
    (hh : App.Handled m.app)
    (hstep : m.step loads blake2b decode replayEndpoint e = some m') :
    m'.Accounted (came ++ (m.brought loads e).toList) := by
  obtain ⟨hclock, hstarted, app, happ, heq⟩ := step_eq_some hstep
  obtain ⟨⟨requestId, event, x, next, -, hx, hnext, hbrought, hafter⟩⟩ | hother
    := step_cases hstep
  · rw [hbrought, hafter]
    exact h.exchange hbooks hx hnext hclock
  · have hnote : m.brought loads e = none ∧ m.note loads e = _ :=
      note_aside hother
    rw [heq, hnote.1, hnote.2, Option.toList_none, List.append_nil]
    exact h.aside hbooks hh happ hclock hstarted hother

-- ============================================================ learning

/-- The call of `observe_first_output` a step makes. -/
def observed (loads : Bytes → Except LoadsError PyJson.Json) (m : Logged)
    (e : LoggedEvent) : Option (RequestId × FirstOutput) :=
  m.app.observed loads e.seen

/-- The requests whose lines show a first output. -/
def outputs (log : List (RequestId × RouteResult)) : List RequestId :=
  log.filterMap fun line => line.2.firstOutputMs.map fun _ => line.1

/-- A step learns a first output where it logs one. -/
theorem outputs_step (h : m.Accounted came) (hbooks : App.Bookkept m.app)
    (hstep : m.step loads blake2b decode replayEndpoint e = some m') :
    outputs m'.log
      = outputs m.log ++ (m.observed loads e).toList.map Prod.fst := by
  obtain ⟨hclock, -, app, happ, heq⟩ := step_eq_some hstep
  obtain ⟨⟨requestId, event, x, next, hseen, hx, hnext, -, hafter⟩⟩ | hother
    := step_cases hstep
  · have hobserved : m.observed loads e = _ :=
      hseen ▸ App.observed_upstream hx hnext
    -- the line is written at the step that trains, which is the release
    obtain ⟨hunopened, hfits, hline⟩ := h.noted hbooks hx hnext hclock
    rw [hafter, relayed_eq hnext rfl, hobserved, hline]
    unfold outputs
    dsimp only
    rw [List.filterMap_append]
    congr 1
    generalize e.relay _ _ _ _ _ = relay at hunopened hfits ⊢
    cases hreleases : next.2 with
    | false => rfl
    | true =>
        rw [if_pos rfl, if_pos rfl]
        cases relay with
        | none =>
            have hnone : (x.note loads e.now event).1.firstOutputMs = none :=
              congrArg _ (hunopened rfl).2.2.output
            rw [hnone]
            rfl
        | some r =>
            -- the line's first output is the exchange's own
            have hsame : r.observation.firstOutputAt
                = (x.note loads e.now event).1.firstOutputAt :=
              (hfits r rfl).firstOutputAt
            unfold LiveExchange.firstOutputMs
            rw [← hsame]
            cases houtput : r.observation.firstOutputAt <;>
              simp [RequestObservation.result, elapsedMs, houtput]
  · have hnote : m.brought loads e = none ∧ m.note loads e = _ :=
      note_aside hother
    have hnone : m.observed loads e = none := by
      unfold observed App.observed
      rw [seen_aside hother]
      cases hevent : e.event with
      | upstream id event now => exact absurd hevent (hother id event now)
      | _ => rfl
    rw [heq, hnone, hnote.2, Option.toList_none, List.map_nil, List.append_nil]

-- ================================================================ runs

/-- What a line says of its exchange, by what came from its upstream. -/
structure Tells (history : List Came) (x : LiveExchange)
    (result : RouteResult) : Prop where
  requestId : result.requestId = x.completion.requestId
  nodeId : result.nodeId = x.completion.assignment.node.nodeId
  responseBytes : result.responseBytes = bytesOf history
  outcome : result.outcome = outcomeOf history
  error : result.error.isSome ↔ result.outcome = .error
  inOrder : ∃ assignment total, result.assignmentMs = some assignment ∧
    result.totalMs = some total ∧ assignment ≤ total ∧
    ∀ first, result.firstOutputMs = some first →
      assignment ≤ first ∧ first ≤ total

/-- A line is about what was learned, up to its rounding. -/
theorem Accounted.figures (h : m.Accounted came) {result : RouteResult}
    {o : FirstOutput} (hmem : (requestId, result) ∈ m.log)
    (hlearned : m.app.ExchangeAt requestId (App.Outputs o)) :
    ∃ assignment opening first, result.assignmentMs = some assignment ∧
      result.upstreamOpenMs = some opening ∧
      result.firstOutputMs = some first ∧
      |first - (assignment + opening + o.2)| ≤ 3 / 2000 := by
  obtain ⟨r, now, hr, rfl, hinOrder⟩ := h.lines requestId result hmem
  obtain ⟨x, hx, hfits⟩ := h.relays requestId r hr
  obtain ⟨y, hy, -, -, -, hms, -⟩ := hlearned
  rw [hx] at hy
  injection hy with hy
  subst hy
  obtain ⟨at_, hat, hms⟩ := Option.map_eq_some_iff.mp hms
  rw [← hfits.openedAt] at hms
  rw [← hfits.firstOutputAt] at hat
  obtain ⟨hafter, -⟩ := hinOrder.output at_ hat
  have hassigned := hinOrder.assigned
  have hopened := hinOrder.opened
  refine ⟨_, _, _, rfl, rfl, congrArg (elapsedMs _) hat, ?_⟩
  dsimp only
  rw [max_eq_right (by linarith), max_eq_right (by linarith),
    max_eq_right (by linarith)]
  have hfirst := abs_le.mp (abs_roundThousandths_sub_le
    ((at_ - r.observation.requestStartedAt) * 1000))
  have hassignment := abs_le.mp (abs_roundThousandths_sub_le
    ((r.observation.assignmentCompletedAt
      - r.observation.requestStartedAt) * 1000))
  have hopening := abs_le.mp (abs_roundThousandths_sub_le
    ((r.observation.upstreamOpenedAt
      - r.observation.assignmentCompletedAt) * 1000))
  rw [abs_le]
  exact ⟨by linarith, by linarith⟩

/-- What is true of the process and of its log in every state. -/
structure Sound (estimator : Option OnlineQueueTimeEstimator)
    (came : List (RequestId × Came)) (shown : List (RequestId × FirstOutput))
    (m : Logged) : Prop where
  books : App.Bookkept m.app
  handled : App.Handled m.app
  streams : ∀ id x, m.app.exchanges.get id = some x → App.Streams x
  trained : App.Trained estimator shown m.app
  accounted : m.Accounted came
  learned : outputs m.log = shown.map Prod.fst

/-- One step, for all of it: the books of the process, what the policy was
shown, and the log. -/
theorem Sound.step {estimator : Option OnlineQueueTimeEstimator}
    {shown : List (RequestId × FirstOutput)} (h : Sound estimator came shown m)
    (hstep : m.step loads blake2b decode replayEndpoint e = some m') :
    Sound estimator (came ++ (m.brought loads e).toList)
      (shown ++ (m.observed loads e).toList) m' := by
  obtain ⟨-, -, app, happ, heq⟩ := step_eq_some hstep
  have happ' : m.app.step blake2b decode loads replayEndpoint e.seen
      = some m'.app := by rw [happ, heq]
  obtain ⟨hbooks, hhandled, -⟩ := App.step_books h.books h.handled happ'
  refine ⟨hbooks, hhandled, App.step_streams h.handled h.streams happ',
    h.trained.step h.books h.handled h.streams happ',
    h.accounted.step h.books h.handled hstep, ?_⟩
  rw [outputs_step h.accounted h.books hstep, h.learned, List.map_append]

end Logged

end Kareserve
