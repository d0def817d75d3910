/-
The KV-event listener of one node (`kareserve/tracker.py`, `_listen`,
`_request_replay`, `_apply_sequence`) as a state machine, together with
everything else that writes to the node's entry.

# Where it can be interrupted

`_apply_sequence` never suspends, so the listener gives up control in two
places only: waiting for the SUB socket and waiting for the next reply of
a replay. `Control` records which, with the locals alive across the
await; between two awaits the listener makes one `Move`: it may drop the
catalog and the sequence, may mark the catalog degraded, and may hand one
batch to `_apply_sequence`, always in this order.

# Events

An event is what an await returns or raises (`parts`, `frames`,
`replayError`, `failure`, `cancel`), or what another task does to the
entry while the listener waits: a metrics page, a reservation, a release.
Route planning only reads.
-/
import Kareserve.Lib.Run
import Kareserve.Lib.BigEndian
import Kareserve.Tracker.Basic

namespace Kareserve

/-- `END_SEQUENCE`. -/
def endSequence : ℤ := -1

-- ================================================================ state

/-- Where a finished replay returns to: the start of `_listen`, or the
handling of the live batch that showed the gap. -/
inductive Resume where
  | initial
  | live (sequence : ℤ) (payload : Bytes)
  deriving DecidableEq

/-- The await the listener is suspended in. -/
inductive Control where
  | replaying (startSequence : ℤ) (firstSequence : Option ℤ) (resume : Resume)
  | receiving
  | stopped
  deriving DecidableEq

/-- A node's entry and its listener. -/
structure Listener where
  entry : NodeEntry
  control : Control

/-- The start of `_listen`: a first replay where there is an endpoint for
it. -/
def Listener.start (replayEndpoint : Bool) (entry : NodeEntry) : Listener :=
  ⟨entry, if replayEndpoint then .replaying 0 none .initial else .receiving⟩

/-- What happens to one node. -/
inductive NodeEvent where
  /-- The SUB socket delivered a message. -/
  | parts (parts : List Bytes)
  /-- The replay socket delivered a reply. -/
  | frames (frames : List Bytes)
  /-- The request or a reply timed out, or the socket raised `ZMQError`. -/
  | replayError
  /-- Any other exception. -/
  | failure
  /-- The task was cancelled. -/
  | cancel
  /-- A metrics page, by its process start samples. Its figures, the block
  size among them, are nothing a listener reads; the polls of
  Gateway/App.lean write them. -/
  | metrics (processStartSamples : List ℚ)
  | reserve (work : ℚ)
  | release (work : ℚ)
  deriving DecidableEq

-- ================================================================ moves

/-- What the listener does to the entry between two awaits. -/
structure Move where
  reset : Bool := false
  degrade : Bool := false
  batch : Option (ℤ × Bytes) := none
  deriving DecidableEq

/-- `sequence` is not a duplicate: the guard of `_apply_sequence`. -/
def NodeEntry.isNewer (e : NodeEntry) (sequence : ℤ) : Bool :=
  match e.lastSequence with
  | some previous => !decide (sequence ≤ previous)
  | none => true

/-- The restart `_listen` infers from a batch: number 0 after a positive
one. -/
def NodeEntry.sequenceRestarted (e : NodeEntry) (sequence : ℤ) : Bool :=
  match e.lastSequence with
  | some previous => decide (sequence = 0 ∧ 0 < previous)
  | none => false

/-- `_clear_gpu_catalog` and `last_sequence.pop`, where a restart was seen. -/
def NodeEntry.restartIf (e : NodeEntry) (restarted : Bool) : NodeEntry :=
  if restarted then e.restart else e

/-- The frames of a reply: an empty delimiter is dropped, then one of two
shapes is accepted. -/
def parseReplyFrames (frames : List Bytes) : Option (Bytes × Bytes) :=
  let frames := match frames with
    | [] :: rest => rest
    | frames => frames
  match frames with
  | [_, sequenceBytes, payload] => some (sequenceBytes, payload)
  | [sequenceBytes, payload] => some (sequenceBytes, payload)
  | _ => none

/-- What `_request_replay` returns when the reply ends. -/
def replayComplete (startSequence : ℤ) (firstSequence : Option ℤ) : Bool :=
  match firstSequence with
  | none => true
  | some first => decide (first ≤ startSequence)

/-- What follows `_request_replay` in `_listen`. -/
def finishReplay (resume : Resume) (replayOk : Bool) : Move × Control :=
  match resume with
  | .initial => ({ degrade := !replayOk }, .receiving)
  | .live sequence payload =>
      ({ degrade := !replayOk, batch := some (sequence, payload) }, .receiving)

/-- The body of the loop of `_request_replay`. -/
def receiveReply (startSequence : ℤ) (firstSequence : Option ℤ)
    (resume : Resume) (frames : List Bytes) : Move × Control :=
  match parseReplyFrames frames with
  | none => finishReplay resume false
  | some (sequenceBytes, payload) =>
      let sequence := BigEndian.fromBytesSigned sequenceBytes
      if sequence = endSequence ∨ payload = [] then
        finishReplay resume (replayComplete startSequence firstSequence)
      else
        ({ batch := some (sequence, payload) },
          .replaying startSequence (some (firstSequence.getD sequence)) resume)

/-- The body of the loop of `_listen` on a well-formed message, up to the
replay if there is one. `to_bytes(8)` raises outside 64 bits. -/
def NodeEntry.receiveBatch (e : NodeEntry) (replayEndpoint : Bool)
    (sequence : ℤ) (payload : Bytes) : Move × Control :=
  let restarted := e.sequenceRestarted sequence
  match (e.restartIf restarted).lastSequence with
  | some previous =>
      if previous + 1 < sequence then
        if replayEndpoint then
          if 0 ≤ previous + 1 ∧ previous + 1 < 2 ^ 64 then
            ({}, .replaying (previous + 1) none (.live sequence payload))
          else ({ degrade := true }, .stopped)
        else
          ({ degrade := true, batch := some (sequence, payload) }, .receiving)
      else ({ batch := some (sequence, payload) }, .receiving)
  | none =>
      ({ reset := restarted, degrade := decide (0 < sequence),
         batch := some (sequence, payload) }, .receiving)

/-- The body of the loop of `_listen`. -/
def NodeEntry.receiveParts (e : NodeEntry) (replayEndpoint : Bool)
    (parts : List Bytes) : Move × Control :=
  match parts with
  | [_, sequenceBytes, payload] =>
      e.receiveBatch replayEndpoint (BigEndian.fromBytes sequenceBytes) payload
  | _ => ({ degrade := true }, .receiving)

/-- What the listener does with an event, where it is waiting for one. The
first replay runs outside the `try` of `_listen`. -/
def Listener.move (replayEndpoint : Bool) (l : Listener) :
    NodeEvent → Option (Move × Control) := fun event =>
  match l.control, event with
  | .receiving, .parts parts => some (l.entry.receiveParts replayEndpoint parts)
  | .receiving, .failure => some ({ degrade := true }, .stopped)
  | .receiving, .cancel => some ({}, .stopped)
  | .replaying startSequence firstSequence resume, .frames frames =>
      some (receiveReply startSequence firstSequence resume frames)
  | .replaying _ _ resume, .replayError => some (finishReplay resume false)
  | .replaying _ _ .initial, .failure => some ({}, .stopped)
  | .replaying _ _ (.live _ _), .failure => some ({ degrade := true }, .stopped)
  | .replaying _ _ _, .cancel => some ({}, .stopped)
  | _, _ => none

-- ================================================================ steps

section Decode

variable (decode : Bytes → Option RawMapEventBatch) (replayEndpoint : Bool)

/-- `_apply_sequence`. -/
def NodeEntry.applySequence (e : NodeEntry) (sequence : ℤ) (payload : Bytes) :
    NodeEntry :=
  if e.isNewer sequence then
    let processed := e.processRawPayload decode payload
    if processed.2 then { processed.1 with lastSequence := some sequence }
    else processed.1
  else e

/-- A move, on the entry. -/
def NodeEntry.act (e : NodeEntry) (m : Move) : NodeEntry :=
  let e := e.restartIf m.reset
  let e := if m.degrade then e.degrade else e
  match m.batch with
  | some (sequence, payload) => e.applySequence decode sequence payload
  | none => e

/-- One event, where it can happen. -/
def Listener.step (l : Listener) (event : NodeEvent) : Option Listener :=
  match event with
  | .metrics samples =>
      some { l with entry := l.entry.updateProcessStart samples }
  | .reserve work =>
      some { l with entry := { l.entry with node := l.entry.node.reserve work } }
  | .release work =>
      some { l with entry := { l.entry with node := l.entry.node.release work } }
  | event =>
      (l.move replayEndpoint event).map fun mc => ⟨l.entry.act decode mc.1, mc.2⟩

end Decode

/-- What other tasks do is no move of the listener. -/
@[simp] theorem Listener.move_metrics (replayEndpoint : Bool) (l : Listener)
    (samples : List ℚ) : l.move replayEndpoint (.metrics samples) = none := by
  unfold move
  cases l.control <;> rfl

@[simp] theorem Listener.move_reserve (replayEndpoint : Bool) (l : Listener)
    (work : ℚ) : l.move replayEndpoint (.reserve work) = none := by
  unfold move
  cases l.control <;> rfl

@[simp] theorem Listener.move_release (replayEndpoint : Bool) (l : Listener)
    (work : ℚ) : l.move replayEndpoint (.release work) = none := by
  unfold move
  cases l.control <;> rfl

-- ============================================================== lemmas

@[simp] theorem NodeEntry.restartIf_true (e : NodeEntry) :
    e.restartIf true = e.restart := rfl

@[simp] theorem NodeEntry.restartIf_false (e : NodeEntry) :
    e.restartIf false = e := rfl

@[simp] theorem NodeEntry.restartIf_status (e : NodeEntry) (restarted : Bool) :
    (e.restartIf restarted).gpuCatalogStatus = e.gpuCatalogStatus := by
  cases restarted <;> rfl

@[simp] theorem NodeEntry.restartIf_node (e : NodeEntry) (restarted : Bool) :
    (e.restartIf restarted).node = e.node := by
  cases restarted <;> rfl

/-- A batch is newer if it is the first, or its number is above the last. -/
theorem NodeEntry.isNewer_iff (e : NodeEntry) (sequence : ℤ) :
    e.isNewer sequence = true
      ↔ ∀ previous, e.lastSequence = some previous → previous < sequence := by
  unfold isNewer
  cases e.lastSequence with
  | none => simp
  | some previous => simp

-- ================================================== what a batch causes

/-- A batch that finds no sequence. -/
theorem receiveBatch_none {e : NodeEntry} {replayEndpoint : Bool}
    (hlast : e.lastSequence = none) (sequence : ℤ) (payload : Bytes) :
    e.receiveBatch replayEndpoint sequence payload
      = ({ degrade := decide (0 < sequence),
           batch := some (sequence, payload) }, .receiving) := by
  have hrestarted : e.sequenceRestarted sequence = false := by
    unfold NodeEntry.sequenceRestarted
    rw [hlast]
  unfold NodeEntry.receiveBatch
  rw [hrestarted]
  simp only [NodeEntry.restartIf_false, hlast]

/-- A batch that is recognised as a restart. -/
theorem receiveBatch_restart {e : NodeEntry} {p : ℤ} {replayEndpoint : Bool}
    (hlast : e.lastSequence = some p) (hp : 0 < p) (payload : Bytes) :
    e.receiveBatch replayEndpoint 0 payload
      = ({ reset := true, batch := some (0, payload) }, .receiving) := by
  have hrestarted : e.sequenceRestarted 0 = true := by
    unfold NodeEntry.sequenceRestarted
    rw [hlast]
    exact decide_eq_true ⟨rfl, hp⟩
  unfold NodeEntry.receiveBatch
  rw [hrestarted]
  rfl

/-- A batch that continues the sequence or repeats part of it. -/
theorem receiveBatch_next {e : NodeEntry} {p sequence : ℤ}
    {replayEndpoint : Bool} (hlast : e.lastSequence = some p)
    (hrestart : ¬ (sequence = 0 ∧ 0 < p)) (hle : sequence ≤ p + 1)
    (payload : Bytes) :
    e.receiveBatch replayEndpoint sequence payload
      = ({ batch := some (sequence, payload) }, .receiving) := by
  have hrestarted : e.sequenceRestarted sequence = false := by
    unfold NodeEntry.sequenceRestarted
    rw [hlast]
    exact decide_eq_false hrestart
  have hgap : ¬ p + 1 < sequence := by omega
  unfold NodeEntry.receiveBatch
  rw [hrestarted]
  simp only [NodeEntry.restartIf_false, hlast, hgap, if_false]

/-- What `_listen` does with a batch that shows a gap. -/
theorem receiveBatch_gap {e : NodeEntry} {p sequence : ℤ}
    {replayEndpoint : Bool} (hlast : e.lastSequence = some p) (hgap : p + 1 < sequence)
    (payload : Bytes) :
    e.receiveBatch replayEndpoint sequence payload
      = if replayEndpoint then
          if 0 ≤ p + 1 ∧ p + 1 < 2 ^ 64 then
            ({}, .replaying (p + 1) none (.live sequence payload))
          else ({ degrade := true }, .stopped)
        else
          ({ degrade := true, batch := some (sequence, payload) },
            .receiving) := by
  have hrestarted : e.sequenceRestarted sequence = false := by
    unfold NodeEntry.sequenceRestarted
    rw [hlast]
    exact decide_eq_false (by omega)
  unfold NodeEntry.receiveBatch
  rw [hrestarted]
  simp only [NodeEntry.restartIf_false, hlast, hgap, if_true]

-- ======================================================= what a move does

section Decode

variable {decode : Bytes → Option RawMapEventBatch} {replayEndpoint : Bool}

/-- The batch of a move that gets applied: a newer one that decodes. -/
def NodeEntry.accepted (decode : Bytes → Option RawMapEventBatch)
    (e : NodeEntry) (batch : Option (ℤ × Bytes)) : List (ℤ × Bytes) :=
  batch.toList.filter fun b => e.isNewer b.1 && (decode b.2).isSome

/-- Whether the batch of a move degrades the catalog. -/
def NodeEntry.spoiledBy (decode : Bytes → Option RawMapEventBatch)
    (e : NodeEntry) (batch : Option (ℤ × Bytes)) : Bool :=
  batch.toList.any fun b => e.isNewer b.1 && degrades decode b.2

/-- The status after `_apply_sequence`. -/
theorem NodeEntry.applySequence_status (e : NodeEntry) (sequence : ℤ)
    (payload : Bytes) :
    (e.applySequence decode sequence payload).gpuCatalogStatus
      = if e.isNewer sequence && degrades decode payload then .degraded
        else e.gpuCatalogStatus := by
  unfold applySequence
  cases e.isNewer sequence with
  | false => rfl
  | true =>
      dsimp only
      rw [if_pos rfl, Bool.true_and, ← processRawPayload_status]
      split <;> rfl

/-- The catalog after `_apply_sequence`. -/
theorem NodeEntry.applySequence_catalog (e : NodeEntry) (sequence : ℤ)
    (payload : Bytes) :
    (e.applySequence decode sequence payload).catalog
      = if e.isNewer sequence then e.catalog.applyPayload decode payload
        else e.catalog := by
  unfold applySequence
  cases e.isNewer sequence with
  | false => rfl
  | true =>
      dsimp only
      rw [if_pos rfl, if_pos rfl, ← processRawPayload_catalog]
      split <;> rfl

/-- The sequence after `_apply_sequence`. -/
theorem NodeEntry.applySequence_lastSequence (e : NodeEntry) (sequence : ℤ)
    (payload : Bytes) :
    (e.applySequence decode sequence payload).lastSequence
      = if e.isNewer sequence && (decode payload).isSome then some sequence
        else e.lastSequence := by
  unfold applySequence
  cases e.isNewer sequence with
  | false => rfl
  | true =>
      dsimp only
      rw [if_pos rfl, processRawPayload_snd, Bool.true_and]
      split
      · rfl
      · exact processRawPayload_lastSequence e payload

/-- A batch changes nothing of a node but its block size. -/
theorem NodeEntry.applySequence_node (e : NodeEntry) (sequence : ℤ)
    (payload : Bytes) :
    e.node.Resized (e.applySequence decode sequence payload).node := by
  unfold applySequence
  split
  · dsimp only
    split <;> exact processRawPayload_node e payload
  · exact .refl _

/-- The entry a move's batch is applied to. -/
theorem NodeEntry.act_eq (e : NodeEntry) (m : Move) :
    e.act decode m
      = match m.batch with
        | some (sequence, payload) =>
            (if m.degrade then (e.restartIf m.reset).degrade
              else e.restartIf m.reset).applySequence decode sequence payload
        | none =>
            if m.degrade then (e.restartIf m.reset).degrade
              else e.restartIf m.reset := rfl

/-- A degraded node still counts. -/
theorem NodeEntry.isNewer_degrade (e : NodeEntry) (degraded : Bool)
    (sequence : ℤ) :
    (if degraded then e.degrade else e).isNewer sequence
      = e.isNewer sequence := by
  cases degraded <;> rfl

/-- The status after a move. -/
theorem NodeEntry.act_status (e : NodeEntry) (m : Move) :
    (e.act decode m).gpuCatalogStatus
      = if m.degrade || (e.restartIf m.reset).spoiledBy decode m.batch
        then .degraded else e.gpuCatalogStatus := by
  rw [act_eq]
  unfold spoiledBy
  cases m.batch with
  | none =>
      cases m.degrade with
      | false => simp
      | true => rfl
  | some batch =>
      dsimp only
      rw [applySequence_status, isNewer_degrade]
      cases m.degrade with
      | false => simp
      | true => simp [degrade]

/-- The catalog after a move. -/
theorem NodeEntry.act_catalog (e : NodeEntry) (m : Move) :
    (e.act decode m).catalog
      = ((e.restartIf m.reset).accepted decode m.batch).foldl
          (fun c b => c.applyPayload decode b.2) (e.restartIf m.reset).catalog := by
  rw [act_eq]
  unfold accepted
  cases m.batch with
  | none => cases m.degrade <;> rfl
  | some batch =>
      dsimp only
      rw [applySequence_catalog, isNewer_degrade]
      cases hnewer : (e.restartIf m.reset).isNewer batch.1 with
      | false => cases m.degrade <;> simp [hnewer, degrade]
      | true =>
          cases hdec : decode batch.2 with
          | none =>
              cases m.degrade <;>
                simp [hdec, degrade, GpuCatalog.applyPayload]
          | some events => cases m.degrade <;> simp [hnewer, hdec, degrade]

/-- The sequence after a move. -/
theorem NodeEntry.act_lastSequence (e : NodeEntry) (m : Move) :
    (e.act decode m).lastSequence
      = (((e.restartIf m.reset).accepted decode m.batch).getLast?.map
          Prod.fst).or (e.restartIf m.reset).lastSequence := by
  rw [act_eq]
  unfold accepted
  cases m.batch with
  | none => cases m.degrade <;> rfl
  | some batch =>
      dsimp only
      rw [applySequence_lastSequence, isNewer_degrade]
      cases haccept : (e.restartIf m.reset).isNewer batch.1
          && (decode batch.2).isSome with
      | false => cases m.degrade <;> simp [haccept, degrade]
      | true => simp [haccept]

/-- A move leaves all of the node but its block size. -/
theorem NodeEntry.act_node (e : NodeEntry) (m : Move) :
    e.node.Resized (e.act decode m).node := by
  have hentry : (if m.degrade then (e.restartIf m.reset).degrade
      else e.restartIf m.reset).node = e.node := by
    cases m.degrade with
    | false => exact restartIf_node e m.reset
    | true => exact restartIf_node e m.reset
  rw [act_eq]
  cases m.batch with
  | none =>
      rw [hentry]
      exact .refl _
  | some batch =>
      rw [← hentry]
      exact applySequence_node _ _ _

@[simp] theorem NodeEntry.act_processStart (e : NodeEntry) (m : Move) :
    (e.act decode m).node.processStartTimeSeconds
      = e.node.processStartTimeSeconds := by
  have hnode : e.node.Resized (e.act decode m).node := e.act_node m
  obtain ⟨size, hnode⟩ := hnode
  rw [hnode]

/-- A duplicate changes nothing. -/
theorem NodeEntry.act_duplicate {e : NodeEntry} {sequence : ℤ}
    (h : e.isNewer sequence = false) (payload : Bytes) :
    e.act decode { batch := some (sequence, payload) } = e := by
  show e.applySequence decode sequence payload = e
  unfold applySequence
  rw [h]
  rfl

/-- A batch that is not newer is not applied. -/
theorem NodeEntry.accepted_duplicate {e : NodeEntry} {sequence : ℤ}
    (h : e.isNewer sequence = false) (payload : Bytes) :
    e.accepted decode (some (sequence, payload)) = [] := by
  simp [accepted, h]

/-- A newer batch that does not degrade the catalog is applied. -/
theorem NodeEntry.accepted_newer {e : NodeEntry} {sequence : ℤ}
    (h : e.isNewer sequence = true) {payload : Bytes}
    (hquiet : degrades decode payload = false) :
    e.accepted decode (some (sequence, payload)) = [(sequence, payload)] := by
  have hdecodes : (decode payload).isSome = true := by
    unfold degrades at hquiet
    cases hd : decode payload with
    | none => simp [hd] at hquiet
    | some batch => rfl
  simp [accepted, h, hdecodes]

end Decode

end Kareserve
