/-
A gap in the live numbers and the replay that is to close it: when no
batch between the last applied one and `last_sequence` is missing.

# What is asked

`_listen` has applied batch `p` and receives batch `s > p + 1`. At every
await point from there to the end of the handling, a node that is still
healthy has applied every number in `(p, last_sequence]`
(`NeverMissing`, read over all answers of the replay socket).

# When it holds

`GapClosed` reads the answers in order. A frame above the last applied
number must be exactly the next one, and a reply that ends by END or by
an empty payload must have reached `s - 1`; anything that degrades the
node (an undecodable or short batch, a malformed frame, a timeout) ends
the obligation. The success test of `_request_replay` looks at the first
frame only, so neither a hole further on nor an early END is noticed:
`gap_closed_iff` says the node is never wrongly healthy exactly when the
answers themselves are closed.
-/
import Kareserve.Tracker.History

namespace Kareserve

-- ========================================================== the question

/-- What the replay socket brings: a reply, or none where the wait times
out or raises. -/
abbrev Answer := Option (List Bytes)

def Answer.event : Answer → NodeEvent
  | some frames => .frames frames
  | none => .replayError

/-- What the listener does with an answer. -/
def Answer.move (startSequence : ℤ) (firstSequence : Option ℤ)
    (resume : Resume) : Answer → Move × Control
  | some frames => receiveReply startSequence firstSequence resume frames
  | none => finishReplay resume false

section Decode

variable (decode : Bytes → Option RawMapEventBatch) (replayEndpoint : Bool)

/-- The numbers of the batches a list of events applies. -/
def Listener.appliedNumbers : Listener → List NodeEvent → List ℤ
  | _, [] => []
  | l, event :: events =>
      (l.applied decode replayEndpoint event).map Prod.fst
        ++ match l.step decode replayEndpoint event with
          | some l' => Listener.appliedNumbers l' events
          | none => []

/-- No number above `p`, up to the last sequence of a healthy entry, is
missing from `numbers`. -/
def NoneMissing (p : ℤ) (numbers : List ℤ) (e : NodeEntry) : Prop :=
  e.gpuCatalogStatus = .healthy → ∀ last, e.lastSequence = some last →
    ∀ q, p < q → q ≤ last → q ∈ numbers

/-- At `l`, where `numbers` have been applied since `p`, and after any
number of answers of the replay socket, none is missing. -/
def NeverMissing (p : ℤ) (numbers : List ℤ) (l : Listener)
    (answers : List Answer) : Prop :=
  ∀ heard left, answers = heard ++ left →
    ∀ l', Lts.run (Listener.step decode replayEndpoint) l
        (heard.map Answer.event) = some l' →
      NoneMissing p (numbers ++ l.appliedNumbers decode replayEndpoint
        (heard.map Answer.event)) l'.entry

-- ========================================================= the condition

/-- The answers to a replay request close the gap between the last applied
number and the live batch. -/
def GapClosed (sequence : ℤ) (payload : Bytes) : ℤ → List Answer → Prop
  | _, [] => True
  | _, none :: _ => True
  | last, some frames :: answers =>
      match parseReplyFrames frames with
      | none => True
      | some (sequenceBytes, body) =>
          let q := BigEndian.fromBytesSigned sequenceBytes
          if q = endSequence ∨ body = [] then
            sequence ≤ last + 1 ∨ degrades decode payload = true
          else if q ≤ last then GapClosed sequence payload last answers
          else degrades decode body = true
            ∨ (q = last + 1 ∧ GapClosed sequence payload q answers)

instance decidableGapClosed (sequence : ℤ) (payload : Bytes) :
    ∀ (last : ℤ) (answers : List Answer),
      Decidable (GapClosed decode sequence payload last answers)
  | _, [] => isTrue trivial
  | _, none :: _ => isTrue trivial
  | last, some frames :: answers =>
      match h : parseReplyFrames frames with
      | none => isTrue (by rw [GapClosed, h]; trivial)
      | some (sequenceBytes, body) =>
          let q := BigEndian.fromBytesSigned sequenceBytes
          have := decidableGapClosed sequence payload last answers
          have := decidableGapClosed sequence payload q answers
          decidable_of_iff
            (if q = endSequence ∨ body = [] then
              sequence ≤ last + 1 ∨ degrades decode payload = true
            else if q ≤ last then GapClosed decode sequence payload last answers
            else degrades decode body = true
              ∨ (q = last + 1 ∧ GapClosed decode sequence payload q answers))
            (by rw [GapClosed, h])

-- ======================================================= one answer more

variable {decode replayEndpoint}

theorem NeverMissing.here {p : ℤ} {numbers : List ℤ} {l : Listener}
    {answers : List Answer}
    (h : NeverMissing decode replayEndpoint p numbers l answers) :
    NoneMissing p numbers l.entry := by
  have hhere := h [] answers rfl l rfl
  simpa [Listener.appliedNumbers] using hhere

/-- Here, and wherever the next answer leads. -/
theorem neverMissing_cons {p : ℤ} {numbers : List ℤ} {l : Listener}
    {answer : Answer} {answers : List Answer} :
    NeverMissing decode replayEndpoint p numbers l (answer :: answers)
      ↔ NoneMissing p numbers l.entry
        ∧ ∀ l', l.step decode replayEndpoint answer.event = some l' →
          NeverMissing decode replayEndpoint p
            (numbers ++ (l.applied decode replayEndpoint answer.event).map
              Prod.fst) l' answers := by
  constructor
  · intro h
    refine ⟨h.here, ?_⟩
    · intro l' hstep heard left heq l'' hrun
      -- what is heard from `l'` is heard from `l` with the answer before it
      have hthere := h (answer :: heard) left (by rw [heq]; rfl) l'' (by
        rw [List.map_cons, Lts.run_cons, hstep, Option.bind_some]
        exact hrun)
      rw [List.map_cons, Listener.appliedNumbers, hstep] at hthere
      rw [List.append_assoc]
      exact hthere
  · intro h heard left heq l'' hrun
    cases heard with
    | nil =>
        rw [List.map_nil, Lts.run_nil] at hrun
        injection hrun with hrun
        subst hrun
        simpa [Listener.appliedNumbers] using h.1
    | cons answer' heard =>
        rw [List.cons_append] at heq
        injection heq with hanswer heq
        subst hanswer
        rw [List.map_cons] at hrun ⊢
        rcases Lts.run_cons_eq_some.mp hrun with ⟨l', hstep, hrest⟩
        have hthere := h.2 l' hstep heard left heq l'' hrest
        rw [List.append_assoc] at hthere
        rw [Listener.appliedNumbers, hstep]
        exact hthere

theorem neverMissing_nil {p : ℤ} {numbers : List ℤ} {l : Listener} :
    NeverMissing decode replayEndpoint p numbers l []
      ↔ NoneMissing p numbers l.entry := by
  constructor
  · intro h
    exact h.here
  · intro h heard left heq l' hrun
    have hheard : heard = [] := (List.append_eq_nil_iff.mp heq.symm).1
    subst hheard
    rw [List.map_nil, Lts.run_nil] at hrun
    injection hrun with hrun
    subst hrun
    simpa [Listener.appliedNumbers] using h

/-- A degraded node promises nothing. -/
theorem neverMissing_of_degraded {p : ℤ} {numbers : List ℤ} {l : Listener}
    (h : l.entry.gpuCatalogStatus = .degraded) (answers : List Answer) :
    NeverMissing decode replayEndpoint p numbers l answers := by
  intro heard left _ l' hrun hhealthy
  rw [Listener.run_degraded h hrun] at hhealthy
  cases hhealthy

/-- A listener that is not replaying hears no more answers. -/
theorem neverMissing_of_idle {p : ℤ} {numbers : List ℤ} {l : Listener}
    (hidle : ∀ answer : Answer, l.move replayEndpoint answer.event = none)
    (answers : List Answer) :
    NeverMissing decode replayEndpoint p numbers l answers
      ↔ NoneMissing p numbers l.entry := by
  cases answers with
  | nil => exact neverMissing_nil
  | cons answer answers =>
      rw [neverMissing_cons]
      have hstep : l.step decode replayEndpoint answer.event = none := by
        have hmove := hidle answer
        cases answer with
        | none => exact (congrArg (Option.map _) hmove : _)
        | some frames => exact (congrArg (Option.map _) hmove : _)
      rw [hstep]
      constructor
      · intro h
        exact h.1
      · intro h
        exact ⟨h, fun l' hl' => by cases hl'⟩

-- ============================================================ the replay

theorem step_answer (e : NodeEntry) (start : ℤ) (first : Option ℤ)
    (resume : Resume) (answer : Answer) :
    Listener.step decode replayEndpoint ⟨e, .replaying start first resume⟩
        answer.event
      = some ⟨e.act decode (answer.move start first resume).1,
          (answer.move start first resume).2⟩ := by
  cases answer <;> rfl

theorem applied_answer (e : NodeEntry) (start : ℤ) (first : Option ℤ)
    (resume : Resume) (answer : Answer) :
    Listener.applied decode replayEndpoint ⟨e, .replaying start first resume⟩
        answer.event
      = (e.restartIf (answer.move start first resume).1.reset).accepted decode
          (answer.move start first resume).1.batch := by
  cases answer <;> rfl

/-- An answer after which the node is degraded. -/
theorem neverMissing_of_spoiled {p start : ℤ} {first : Option ℤ}
    {resume : Resume} {numbers : List ℤ} {e : NodeEntry} {answer : Answer}
    (h : (e.act decode (answer.move start first resume).1).gpuCatalogStatus
      = .degraded)
    (hhere : NoneMissing p numbers e) (answers : List Answer) :
    NeverMissing decode replayEndpoint p numbers
      ⟨e, .replaying start first resume⟩ (answer :: answers) := by
  rw [neverMissing_cons]
  refine ⟨hhere, fun l' hl' => ?_⟩
  rw [step_answer] at hl'
  injection hl' with hl'
  subst hl'
  exact neverMissing_of_degraded h answers

/-- A reply that fails. -/
theorem neverMissing_of_failed {p start sequence : ℤ} {first : Option ℤ}
    {numbers : List ℤ} {e : NodeEntry} {payload : Bytes} {answer : Answer}
    (h : answer.move start first (.live sequence payload)
      = finishReplay (.live sequence payload) false)
    (hhere : NoneMissing p numbers e) (answers : List Answer) :
    NeverMissing decode replayEndpoint p numbers
      ⟨e, .replaying start first (.live sequence payload)⟩
      (answer :: answers) := by
  refine neverMissing_of_spoiled ?_ hhere answers
  rw [h, NodeEntry.act_status]
  rfl

-- ============================================= inside a complete reply

/-- A replay with nothing missing so far: `last` is the last applied
number, `numbers` are those applied since `p`, and the first frame, if
there was one, did not exceed the requested `p + 1`. -/
structure Covered (p : ℤ) (e : NodeEntry) (last : ℤ) (first : Option ℤ)
    (numbers : List ℤ) : Prop where
  healthy : e.gpuCatalogStatus = .healthy
  lastSequence : e.lastSequence = some last
  le_last : p ≤ last
  cover : ∀ q, p < q → q ≤ last → q ∈ numbers
  bound : ∀ q ∈ numbers, q ≤ last
  first_le : ∀ f, first = some f → f ≤ p + 1
  first_none : first = none → last = p

/-- A request has just been sent. -/
theorem covered_request {p : ℤ} {e : NodeEntry}
    (hhealthy : e.gpuCatalogStatus = .healthy)
    (hlast : e.lastSequence = some p) : Covered p e p none [] where
  healthy := hhealthy
  lastSequence := hlast
  le_last := Int.le_refl p
  cover := fun q hq hle => by omega
  bound := fun q hq => by cases hq
  first_le := fun f hf => by cases hf
  first_none := fun _ => rfl

section Covered

variable {p last : ℤ} {e : NodeEntry} {first : Option ℤ} {numbers : List ℤ}

theorem Covered.noneMissing (h : Covered p e last first numbers) :
    NoneMissing p numbers e := by
  intro _ last' hlast' q hq hle
  rw [h.lastSequence] at hlast'
  injection hlast' with hlast'
  exact h.cover q hq (by omega)

theorem Covered.isNewer_eq (h : Covered p e last first numbers) (q : ℤ) :
    e.isNewer q = decide (last < q) := by
  unfold NodeEntry.isNewer
  rw [h.lastSequence]
  show (!decide (q ≤ last)) = decide (last < q)
  by_cases hle : q ≤ last
  · rw [decide_eq_true hle, decide_eq_false (by omega)]
    rfl
  · rw [decide_eq_false hle, decide_eq_true (by omega)]
    rfl

/-- A reply that has been complete so far counts as complete. -/
theorem Covered.complete (h : Covered p e last first numbers) :
    replayComplete (p + 1) first = true := by
  cases first with
  | none => rfl
  | some f => exact decide_eq_true (h.first_le f rfl)

/-- The first frame is at most the next number. -/
theorem Covered.first_frame (h : Covered p e last first numbers) {q : ℤ}
    (hq : q ≤ last + 1) (f : ℤ) (hf : some (first.getD q) = some f) :
    f ≤ p + 1 := by
  injection hf with hf
  cases hfirst : first with
  | none =>
      have hlast := h.first_none hfirst
      rw [hfirst] at hf
      rw [← hf]
      show q ≤ p + 1
      omega
  | some f' =>
      rw [hfirst] at hf
      rw [← hf]
      exact h.first_le f' hfirst

/-- A duplicate frame changes nothing. -/
theorem Covered.duplicate (h : Covered p e last first numbers) {q : ℤ}
    (hq : q ≤ last) : Covered p e last (some (first.getD q)) numbers :=
  { h with
    first_le := h.first_frame (by omega)
    first_none := fun hnone => by cases hnone }

/-- What a newer batch that does not degrade the node does. -/
theorem Covered.apply (h : Covered p e last first numbers) {q : ℤ}
    (hq : last < q) {body : Bytes} (hquiet : degrades decode body = false) :
    e.accepted decode (some (q, body)) = [(q, body)]
      ∧ (e.act decode { batch := some (q, body) }).lastSequence = some q
      ∧ (e.act decode { batch := some (q, body) }).gpuCatalogStatus
        = .healthy := by
  have hnewer : e.isNewer q = true := by
    rw [h.isNewer_eq]
    exact decide_eq_true hq
  have haccept := NodeEntry.accepted_newer hnewer hquiet
  refine ⟨haccept, ?_, ?_⟩
  · rw [NodeEntry.act_lastSequence]
    show ((e.accepted decode (some (q, body))).getLast?.map Prod.fst).or
      e.lastSequence = some q
    rw [haccept]
    rfl
  · rw [NodeEntry.act_status]
    simpa [NodeEntry.spoiledBy, hquiet] using h.healthy

/-- The next frame extends the numbers. -/
theorem Covered.next (h : Covered p e last first numbers) {body : Bytes}
    (hquiet : degrades decode body = false) :
    Covered p (e.act decode { batch := some (last + 1, body) }) (last + 1)
      (some (first.getD (last + 1))) (numbers ++ [last + 1]) := by
  rcases h.apply (by omega : last < last + 1) hquiet with
    ⟨-, hlast, hhealthy⟩
  have hle := h.le_last
  refine ⟨hhealthy, hlast, by omega, fun q hq hqle => ?_, fun q hq => ?_,
    h.first_frame (Int.le_refl _), fun hnone => by cases hnone⟩
  · by_cases hnew : q = last + 1
    · exact List.mem_append_right _ (List.mem_singleton.mpr hnew)
    · exact List.mem_append_left _ (h.cover q hq (by omega))
  · rcases List.mem_append.mp hq with hq | hq
    · have hbound := h.bound q hq
      omega
    · rw [List.mem_singleton] at hq
      omega

/-- A frame beyond the next number leaves a hole at once. -/
theorem Covered.not_noneMissing_of_jump (h : Covered p e last first numbers)
    {q : ℤ} (hq : last + 1 < q) {body : Bytes}
    (hquiet : degrades decode body = false) :
    ¬ NoneMissing p (numbers ++ [q])
      (e.act decode { batch := some (q, body) }) := by
  intro hmissing
  rcases h.apply (by omega : last < q) hquiet with ⟨-, hlast, hhealthy⟩
  have hle := h.le_last
  have hmem := hmissing hhealthy q hlast (last + 1) (by omega) (by omega)
  rcases List.mem_append.mp hmem with hmem | hmem
  · have hbound := h.bound _ hmem
    omega
  · rw [List.mem_singleton] at hmem
    omega

/-- A newer batch that degrades the node. -/
theorem Covered.spoiled (h : Covered p e last first numbers) {q : ℤ}
    (hq : last < q) {body : Bytes} (hspoil : degrades decode body = true) :
    (e.act decode { batch := some (q, body) }).gpuCatalogStatus
      = .degraded := by
  rw [NodeEntry.act_status]
  have hnewer : e.isNewer q = true := by
    rw [h.isNewer_eq]
    exact decide_eq_true hq
  simp [NodeEntry.spoiledBy, hnewer, hspoil]

/-- The end of a complete reply: the live batch is applied next. -/
theorem Covered.noneMissing_live_iff (h : Covered p e last first numbers)
    {sequence : ℤ} {payload : Bytes} :
    NoneMissing p
        (numbers ++ (e.accepted decode (some (sequence, payload))).map Prod.fst)
        (e.act decode { batch := some (sequence, payload) })
      ↔ sequence ≤ last + 1 ∨ degrades decode payload = true := by
  by_cases hle : sequence ≤ last
  · have hold : e.isNewer sequence = false := by
      rw [h.isNewer_eq]
      exact decide_eq_false (by omega)
    rw [NodeEntry.act_duplicate hold, NodeEntry.accepted_duplicate hold,
      List.map_nil, List.append_nil]
    exact iff_of_true h.noneMissing (Or.inl (by omega))
  · cases hspoil : degrades decode payload with
    | true =>
        refine iff_of_true (fun hhealthy => ?_) (Or.inr rfl)
        rw [h.spoiled (by omega) hspoil] at hhealthy
        cases hhealthy
    | false =>
        rw [(h.apply (by omega : last < sequence) hspoil).1]
        constructor
        · intro hmissing
          refine Or.inl ?_
          by_contra hjump
          exact h.not_noneMissing_of_jump (by omega) hspoil hmissing
        · intro hnext
          have hseq : sequence = last + 1 := by
            rcases hnext with hnext | hnext
            · omega
            · cases hnext
          subst hseq
          exact (h.next hspoil).noneMissing

/-- A data frame, where the answers after it are decided by `GapClosed`. -/
theorem Covered.frame_iff {sequence : ℤ} {payload : Bytes}
    {answers : List Answer}
    (hrest : ∀ {e : NodeEntry} {last : ℤ} {first : Option ℤ}
      {numbers : List ℤ}, Covered p e last first numbers →
      (NeverMissing decode replayEndpoint p numbers
          ⟨e, .replaying (p + 1) first (.live sequence payload)⟩ answers
        ↔ GapClosed decode sequence payload last answers))
    (h : Covered p e last first numbers) (q : ℤ) (body : Bytes) :
    NeverMissing decode replayEndpoint p
        (numbers ++ (e.accepted decode (some (q, body))).map Prod.fst)
        ⟨e.act decode { batch := some (q, body) },
          .replaying (p + 1) (some (first.getD q)) (.live sequence payload)⟩
        answers
      ↔ if q ≤ last then GapClosed decode sequence payload last answers
        else degrades decode body = true
          ∨ (q = last + 1 ∧ GapClosed decode sequence payload q answers) := by
  by_cases hle : q ≤ last
  -- a frame that is known already is a duplicate
  · have hold : e.isNewer q = false := by
      rw [h.isNewer_eq]
      exact decide_eq_false (by omega)
    rw [if_pos hle, NodeEntry.act_duplicate hold,
      NodeEntry.accepted_duplicate hold, List.map_nil, List.append_nil]
    exact hrest (h.duplicate hle)
  · rw [if_neg hle]
    cases hspoil : degrades decode body with
    -- one that cannot be decoded degrades the node
    | true =>
        exact iff_of_true
          (neverMissing_of_degraded (h.spoiled (by omega) hspoil) answers)
          (Or.inl rfl)
    | false =>
        rw [(h.apply (by omega : last < q) hspoil).1]
        -- any other either goes on where the last one ended, or leaves out the
        -- one between
        by_cases hnext : q = last + 1
        · subst hnext
          rw [List.map_cons, List.map_nil, hrest (h.next hspoil)]
          simp
        · refine iff_of_false (fun hmissing => ?_) (by simp [hnext])
          exact h.not_noneMissing_of_jump (by omega) hspoil hmissing.here

end Covered

-- ============================================================== the reply

/-- A frame that does not parse ends the replay. -/
theorem Answer.move_unparsed {frames : List Bytes}
    (hparse : parseReplyFrames frames = none) (start : ℤ) (first : Option ℤ)
    (resume : Resume) :
    Answer.move start first resume (some frames) = finishReplay resume false := by
  unfold Answer.move receiveReply
  simp only [hparse]

theorem Answer.move_parsed {frames : List Bytes} {sequenceBytes body : Bytes}
    (hparse : parseReplyFrames frames = some (sequenceBytes, body))
    (start : ℤ) (first : Option ℤ) (resume : Resume) :
    Answer.move start first resume (some frames)
      = if BigEndian.fromBytesSigned sequenceBytes = endSequence ∨ body = [] then
          finishReplay resume (replayComplete start first)
        else
          ({ batch := some (BigEndian.fromBytesSigned sequenceBytes, body) },
            .replaying start
              (some (first.getD (BigEndian.fromBytesSigned sequenceBytes)))
              resume) := by
  unfold Answer.move receiveReply
  simp only [hparse]

/-- From inside a reply with nothing missing so far, nothing will be
missing exactly when the answers close the gap. -/
theorem neverMissing_replaying_iff {p sequence : ℤ} {payload : Bytes}
    (answers : List Answer) :
    ∀ {e : NodeEntry} {last : ℤ} {first : Option ℤ} {numbers : List ℤ},
      Covered p e last first numbers →
      (NeverMissing decode replayEndpoint p numbers
          ⟨e, .replaying (p + 1) first (.live sequence payload)⟩ answers
        ↔ GapClosed decode sequence payload last answers) := by
  induction answers with
  | nil =>
      intro e last first numbers h
      rw [neverMissing_nil]
      exact iff_of_true h.noneMissing trivial
  | cons answer answers ih =>
      intro e last first numbers h
      cases answer with
      -- a timeout fails the replay, and degrades the node
      | none =>
          exact iff_of_true (neverMissing_of_failed rfl h.noneMissing answers)
            trivial
      | some frames =>
          rw [GapClosed]
          cases hparse : parseReplyFrames frames with
          -- so do frames that cannot be read
          | none =>
              have hfail := Answer.move_unparsed hparse (p + 1) first
                (.live sequence payload)
              exact iff_of_true
                (neverMissing_of_failed hfail h.noneMissing answers) trivial
          | some reply =>
              obtain ⟨sequenceBytes, body⟩ := reply
              rw [neverMissing_cons, step_answer, applied_answer,
                Answer.move_parsed hparse]
              simp only [Option.some.injEq, forall_eq']
              generalize BigEndian.fromBytesSigned sequenceBytes = q
              rw [and_iff_right h.noneMissing]
              by_cases hend : q = endSequence ∨ body = []
              · -- the reply ends, and counts as complete
                rw [if_pos hend, if_pos hend, h.complete,
                  neverMissing_of_idle (fun answer => by cases answer <;> rfl)]
                exact h.noneMissing_live_iff
              · rw [if_neg hend, if_neg hend]
                exact Covered.frame_iff ih h q body

-- ============================================================== the gap

/-- When an incomplete replay is never taken for a complete one. A healthy
node with `last_sequence = p` receives batch `sequence > p + 1`. At every
await point up to the end of its handling a node that is still healthy
has applied every number above `p` up to its `last_sequence`, if and only
if there is no replay endpoint, or the start of the replay does not fit
the request, or the answers to it close the gap. -/
theorem gap_closed_iff (e : NodeEntry) (p : ℤ)
    (topic sequenceBytes payload : Bytes) (answers : List Answer)
    (hhealthy : e.gpuCatalogStatus = .healthy)
    (hlast : e.lastSequence = some p)
    (hgap : p + 1 < BigEndian.fromBytes sequenceBytes) :
    (∀ l, Listener.step decode replayEndpoint ⟨e, .receiving⟩
        (.parts [topic, sequenceBytes, payload]) = some l →
      NeverMissing decode replayEndpoint p
        ((Listener.applied decode replayEndpoint ⟨e, .receiving⟩
          (.parts [topic, sequenceBytes, payload])).map Prod.fst) l answers)
      ↔ (replayEndpoint = true → 0 ≤ p + 1 → p + 1 < 2 ^ 64 →
          GapClosed decode (BigEndian.fromBytes sequenceBytes) payload p
            answers) := by
  have hmove : Listener.move replayEndpoint ⟨e, .receiving⟩
      (.parts [topic, sequenceBytes, payload])
      = some (e.receiveBatch replayEndpoint
          (BigEndian.fromBytes sequenceBytes) payload) := rfl
  rw [Listener.step_of_move hmove]
  unfold Listener.applied
  rw [hmove, receiveBatch_gap hlast hgap]
  simp only [Option.some.injEq, forall_eq']
  -- without an endpoint, or with a start that does not fit in eight bytes, the
  -- node is degraded and misses nothing it shows
  by_cases hend : replayEndpoint = true
  · by_cases hrange : 0 ≤ p + 1 ∧ p + 1 < 2 ^ 64
    · rw [if_pos hend, if_pos hrange]
      have hiff := @neverMissing_replaying_iff decode replayEndpoint p
        (BigEndian.fromBytes sequenceBytes) payload answers _ _ _ _
        (covered_request hhealthy hlast)
      constructor
      · intro h _ _ _
        exact hiff.mp h
      · intro h
        exact hiff.mpr (h hend hrange.1 hrange.2)
    · rw [if_pos hend, if_neg hrange]
      refine iff_of_true (neverMissing_of_degraded rfl answers) ?_
      intro _ hlow hhigh
      exact absurd ⟨hlow, hhigh⟩ hrange
  · rw [if_neg hend]
    refine iff_of_true (neverMissing_of_degraded ?_ answers) fun h => absurd h hend
    rw [NodeEntry.act_status]
    rfl

end Decode

/-- A node that has applied batch 0, on the way to the two runs below. -/
def afterBatchZero : NodeEntry :=
  (NodeEntry.fresh { nodeId := "a", cacheDomainId := "d" }).applySequence
    oneBlockDecode 0 (oneBlockPayload 1 0xc0 1 2)

/-- One frame of a reply, as vLLM sends it to a DEALER socket. -/
def replyFrame (sequence : ℕ) (payload : Bytes) : Answer :=
  some [[], BigEndian.toBytes 8 sequence, payload]

/-- The END frame. -/
def endFrame : Answer := some [[], List.replicate 8 0xff, []]

/-- A reply with batches 1 and 2 closes the gap before batch 3. -/
theorem gap_closed_by_two :
    ∃ l, Listener.step oneBlockDecode true ⟨afterBatchZero, .receiving⟩
        (.parts [[], BigEndian.toBytes 8 3, oneBlockPayload 4 3 7 8]) = some l
      ∧ NeverMissing oneBlockDecode true 0
        ((Listener.applied oneBlockDecode true ⟨afterBatchZero, .receiving⟩
          (.parts [[], BigEndian.toBytes 8 3, oneBlockPayload 4 3 7 8])).map
            Prod.fst) l
        [replyFrame 1 (oneBlockPayload 2 1 3 4),
          replyFrame 2 (oneBlockPayload 3 2 5 6), endFrame] := by
  refine ⟨_, rfl, (gap_closed_iff afterBatchZero 0 _ _ _ _ (by decide) (by decide)
    (by decide)).mpr (fun _ _ _ => ?_) _ rfl⟩
  decide

/-- A reply with batch 1 and then batch 3 counts as complete: batch 2 is
missing and the node healthy. -/
theorem hole_taken_for_complete :
    ¬ ∀ l, Listener.step oneBlockDecode true ⟨afterBatchZero, .receiving⟩
        (.parts [[], BigEndian.toBytes 8 3, oneBlockPayload 4 3 7 8]) = some l →
      NeverMissing oneBlockDecode true 0
        ((Listener.applied oneBlockDecode true ⟨afterBatchZero, .receiving⟩
          (.parts [[], BigEndian.toBytes 8 3, oneBlockPayload 4 3 7 8])).map
            Prod.fst) l
        [replyFrame 1 (oneBlockPayload 2 1 3 4),
          replyFrame 3 (oneBlockPayload 4 3 7 8), endFrame] := by
  intro h
  have hend := h _ rfl [replyFrame 1 (oneBlockPayload 2 1 3 4),
    replyFrame 3 (oneBlockPayload 4 3 7 8), endFrame] [] rfl _ rfl (by decide)
    3 (by decide) 2 (by decide) (by decide)
  revert hend
  decide

end Kareserve
