/-
The history of a node's catalog: the batches applied since it was last
cleared, as a ghost value threaded along a run of the listener.

`Refines` is the abstract reading of an entry: the catalog is what
applying the history to the empty catalog leaves, `last_sequence` is the
number of its last batch, and the numbers increase, so no batch is in it
twice. Every event keeps it (`Refines.step`), whatever the sockets
deliver. What an event adds or clears is read off the listener's move.

The status only ever gets worse: an entry that is healthy after an event
was healthy before it, and neither the move nor the batch it applied
degraded it (`step_healthy`).
-/
import Kareserve.Tracker.Listen
import Kareserve.Tracker.Proofs.OpLog

namespace Kareserve

section Decode

variable (decode : Bytes → Option RawMapEventBatch) (replayEndpoint : Bool)

-- ======================================================== one event's part

/-- Whether an event clears the catalog and drops the sequence. -/
def Listener.restarts (l : Listener) (event : NodeEvent) : Bool :=
  match event with
  | .metrics samples => l.entry.startChanged samples
  | event => (l.move replayEndpoint event).any fun mc => mc.1.reset

/-- The batches an event applies: one or none. -/
def Listener.applied (l : Listener) (event : NodeEvent) : List (ℤ × Bytes) :=
  match l.move replayEndpoint event with
  | some mc => (l.entry.restartIf mc.1.reset).accepted decode mc.1.batch
  | none => []

/-- A history one event later. Batches may be recorded under a tag, their
number and payload or what the reader knows them by. -/
def Listener.record {α : Type*} (l : Listener) (event : NodeEvent)
    (tag : ℤ × Bytes → α) (history : List α) : List α :=
  (if l.restarts replayEndpoint event then [] else history)
    ++ (l.applied decode replayEndpoint event).map tag

end Decode

-- =========================================================== refinement

/-- The abstract reading of an entry by its history. -/
structure Refines (decode : Bytes → Option RawMapEventBatch) (e : NodeEntry)
    (history : List (ℤ × Bytes)) : Prop where
  catalog : e.catalog
    = GpuCatalog.empty.applyPayloads decode (history.map Prod.snd)
  lastSequence : e.lastSequence = history.getLast?.map Prod.fst
  increasing : history.Pairwise fun b b' => b.1 < b'.1

section Decode

variable {decode : Bytes → Option RawMapEventBatch} {replayEndpoint : Bool}

/-- A fresh entry has an empty history. -/
theorem refines_fresh (node : NodeState) :
    Refines decode (.fresh node) [] :=
  ⟨rfl, rfl, List.Pairwise.nil⟩

/-- Dropping catalog and sequence empties the history. -/
theorem Refines.restart {e : NodeEntry} : Refines decode e.restart [] :=
  ⟨rfl, rfl, List.Pairwise.nil⟩

theorem Refines.restartIf {e : NodeEntry} {history : List (ℤ × Bytes)}
    (h : Refines decode e history) (restarted : Bool) :
    Refines decode (e.restartIf restarted)
      (if restarted then [] else history) := by
  cases restarted with
  | false => exact h
  | true => exact .restart

/-- Every number of the history is at most the last one. -/
theorem Refines.le_last {e : NodeEntry} {history : List (ℤ × Bytes)}
    (h : Refines decode e history) {b : ℤ × Bytes} (hb : b ∈ history) :
    ∃ last, e.lastSequence = some last ∧ b.1 ≤ last := by
  rw [h.lastSequence]
  rcases List.eq_nil_or_concat history with hnil | ⟨earlier, last, heq⟩
  · rw [hnil] at hb
    cases hb
  · rw [List.concat_eq_append] at heq
    subst heq
    refine ⟨last.1, by simp, ?_⟩
    rcases List.mem_append.mp hb with hb | hb
    · have hpair := (List.pairwise_append.mp h.increasing).2.2 b hb last
        (List.mem_singleton.mpr rfl)
      omega
    · rw [List.mem_singleton] at hb
      rw [hb]

/-- A move extends the history by the batch it applies. -/
theorem Refines.act {e : NodeEntry} {history : List (ℤ × Bytes)}
    (h : Refines decode e history) (m : Move) :
    Refines decode (e.act decode m)
      ((if m.reset then [] else history)
        ++ (e.restartIf m.reset).accepted decode m.batch) := by
  have hr := h.restartIf m.reset
  refine ⟨?_, ?_, ?_⟩
  · rw [NodeEntry.act_catalog, hr.catalog, List.map_append,
      GpuCatalog.applyPayloads_append]
    show _ = List.foldl _ _ (List.map _ _)
    rw [List.foldl_map]
  · rw [NodeEntry.act_lastSequence, hr.lastSequence, List.getLast?_append]
    cases ((e.restartIf m.reset).accepted decode m.batch).getLast? <;> simp
  · rw [List.pairwise_append]
    refine ⟨hr.increasing, ?_, fun b hb b' hb' => ?_⟩
    · unfold NodeEntry.accepted
      cases m.batch with
      | none => exact List.Pairwise.nil
      | some batch =>
          exact (List.pairwise_singleton _ batch).sublist List.filter_sublist
    · -- an accepted batch is newer than all of the history
      rcases hr.le_last hb with ⟨last, hlast, hle⟩
      unfold NodeEntry.accepted at hb'
      have hnewer := (List.mem_filter.mp hb').2
      rw [Bool.and_eq_true] at hnewer
      have hlt := ((e.restartIf m.reset).isNewer_iff b'.1).mp hnewer.1 last hlast
      omega

/-- Updates of the load counters are invisible in the history. -/
theorem Refines.congr {e e' : NodeEntry} {history : List (ℤ × Bytes)}
    (h : Refines decode e history) (hcatalog : e'.catalog = e.catalog)
    (hlast : e'.lastSequence = e.lastSequence) : Refines decode e' history :=
  ⟨hcatalog.trans h.catalog, hlast.trans h.lastSequence, h.increasing⟩

theorem NodeEntry.updateProcessStart_catalog (e : NodeEntry)
    (samples : List ℚ) :
    (e.updateProcessStart samples).catalog
      = (e.restartIf (e.startChanged samples)).catalog := by
  unfold updateProcessStart restartIf startChanged
  cases samples.getLast? <;> rfl

theorem NodeEntry.updateProcessStart_lastSequence (e : NodeEntry)
    (samples : List ℚ) :
    (e.updateProcessStart samples).lastSequence
      = (e.restartIf (e.startChanged samples)).lastSequence := by
  unfold updateProcessStart restartIf startChanged
  cases samples.getLast? <;> rfl

theorem NodeEntry.updateProcessStart_status (e : NodeEntry)
    (samples : List ℚ) :
    (e.updateProcessStart samples).gpuCatalogStatus = e.gpuCatalogStatus := by
  unfold updateProcessStart
  cases samples.getLast? with
  | none => rfl
  | some processStart =>
      dsimp only
      split <;> rfl

theorem NodeEntry.updateProcessStart_processStart (e : NodeEntry)
    (samples : List ℚ) :
    (e.updateProcessStart samples).node.processStartTimeSeconds
      = samples.getLast?.or e.node.processStartTimeSeconds := by
  unfold updateProcessStart
  cases samples.getLast? <;> rfl

/-- An event the listener waits for is a move. -/
theorem Listener.step_of_move {l : Listener} {event : NodeEvent}
    {mc : Move × Control} (h : l.move replayEndpoint event = some mc) :
    l.step decode replayEndpoint event
      = some ⟨l.entry.act decode mc.1, mc.2⟩ := by
  cases event with
  | metrics samples => simp at h
  | reserve work => simp at h
  | release work => simp at h
  | _ => simp [step, h]

/-- What one event can do: a move, a metrics page, or a change of the load
counters. -/
theorem Listener.step_cases {l l' : Listener} {event : NodeEvent}
    (h : l.step decode replayEndpoint event = some l') :
    (∃ mc, l.move replayEndpoint event = some mc
        ∧ l' = ⟨l.entry.act decode mc.1, mc.2⟩
        ∧ l.restarts replayEndpoint event = mc.1.reset)
      ∨ (∃ samples, event = .metrics samples
        ∧ l' = { l with entry := l.entry.updateProcessStart samples })
      ∨ (∃ node : NodeState,
        node.processStartTimeSeconds = l.entry.node.processStartTimeSeconds
        ∧ l' = { l with entry := { l.entry with node := node } }
        ∧ l.restarts replayEndpoint event = false
        ∧ l.move replayEndpoint event = none) := by
  cases event with
  | metrics samples =>
      injection h with h
      exact Or.inr (Or.inl ⟨samples, rfl, h.symm⟩)
  | reserve work =>
      injection h with h
      exact Or.inr (Or.inr ⟨l.entry.node.reserve work, rfl, h.symm,
        by simp [restarts], l.move_reserve replayEndpoint work⟩)
  | release work =>
      injection h with h
      exact Or.inr (Or.inr ⟨l.entry.node.release work, rfl, h.symm,
        by simp [restarts], l.move_release replayEndpoint work⟩)
  | _ =>
      simp only [step, Option.map_eq_some_iff] at h
      rcases h with ⟨mc, hmc, h⟩
      exact Or.inl ⟨mc, hmc, h.symm, by simp [restarts, hmc]⟩

/-- Every event keeps the entry the reading of its history. -/
theorem Refines.step {l l' : Listener} {event : NodeEvent}
    {history : List (ℤ × Bytes)} (h : Refines decode l.entry history)
    (hstep : l.step decode replayEndpoint event = some l') :
    Refines decode l'.entry
      (l.record decode replayEndpoint event id history) := by
  unfold Listener.record Listener.applied
  rw [List.map_id]
  rcases Listener.step_cases hstep with
    ⟨mc, hmove, rfl, hreset⟩ | ⟨samples, rfl, rfl⟩ | ⟨node, -, rfl, hreset, hmove⟩
  · rw [hreset, hmove]
    exact h.act mc.1
  · rw [Listener.move_metrics]
    dsimp only
    rw [List.append_nil]
    exact (h.restartIf _).congr (l.entry.updateProcessStart_catalog samples)
      (l.entry.updateProcessStart_lastSequence samples)
  · rw [hreset, hmove]
    dsimp only
    rw [List.append_nil]
    exact h.congr rfl rfl

/-- A number above the whole history is newer. -/
theorem Refines.isNewer_of_lt {e : NodeEntry} {history : List (ℤ × Bytes)}
    (h : Refines decode e history) {n : ℤ} (hall : ∀ b ∈ history, b.1 < n) :
    e.isNewer n = true := by
  rw [NodeEntry.isNewer_iff, h.lastSequence]
  intro previous hprevious
  rw [Option.map_eq_some_iff] at hprevious
  rcases hprevious with ⟨b, hb, rfl⟩
  exact hall b (List.mem_of_getLast? hb)

/-- A number not above the whole history is a duplicate. -/
theorem Refines.not_isNewer {e : NodeEntry} {history : List (ℤ × Bytes)}
    (h : Refines decode e history) {b : ℤ × Bytes} (hb : b ∈ history) {n : ℤ}
    (hle : n ≤ b.1) : e.isNewer n = false := by
  rcases h.le_last hb with ⟨last, hlast, hble⟩
  rw [Bool.eq_false_iff]
  intro hnewer
  have hlt := (e.isNewer_iff n).mp hnewer last hlast
  omega

-- =============================================================== status

/-- An entry that is healthy after an event was healthy before, and
neither the move nor the batch it applied degraded it. -/
theorem Listener.step_healthy {l l' : Listener} {event : NodeEvent}
    (h : l.step decode replayEndpoint event = some l')
    (hhealthy : l'.entry.gpuCatalogStatus = .healthy) :
    l.entry.gpuCatalogStatus = .healthy
      ∧ ∀ mc, l.move replayEndpoint event = some mc →
        mc.1.degrade = false
        ∧ (l.entry.restartIf mc.1.reset).spoiledBy decode mc.1.batch = false := by
  rcases step_cases h with
    ⟨mc, hmove, rfl, -⟩ | ⟨samples, rfl, rfl⟩ | ⟨node, -, rfl, -, hmove⟩
  · dsimp only at hhealthy
    rw [NodeEntry.act_status] at hhealthy
    split at hhealthy
    case isTrue => cases hhealthy
    case isFalse hquiet =>
      rw [Bool.not_eq_true, Bool.or_eq_false_iff] at hquiet
      refine ⟨hhealthy, fun mc' hmc' => ?_⟩
      rw [hmove] at hmc'
      injection hmc' with hmc'
      exact hmc' ▸ hquiet
  · dsimp only at hhealthy
    rw [NodeEntry.updateProcessStart_status] at hhealthy
    refine ⟨hhealthy, fun mc hmc => ?_⟩
    rw [move_metrics] at hmc
    cases hmc
  · refine ⟨hhealthy, fun mc hmc => ?_⟩
    rw [hmove] at hmc
    cases hmc

/-- A move that leaves the node healthy did not degrade it, and recorded
its batch if that was newer. -/
theorem Listener.record_healthy {α : Type*} {l l' : Listener}
    {event : NodeEvent} {mc : Move × Control}
    (hmove : l.move replayEndpoint event = some mc)
    (hstep : l.step decode replayEndpoint event = some l')
    (hhealthy : l'.entry.gpuCatalogStatus = .healthy)
    (tag : ℤ × Bytes → α) (history : List α) :
    mc.1.degrade = false
      ∧ l.record decode replayEndpoint event tag history
        = (if mc.1.reset then [] else history)
          ++ (mc.1.batch.toList.filter fun b =>
            (l.entry.restartIf mc.1.reset).isNewer b.1).map tag := by
  rcases (step_healthy hstep hhealthy).2 mc hmove with ⟨hquiet, hspoil⟩
  refine ⟨hquiet, ?_⟩
  have hreset : l.restarts replayEndpoint event = mc.1.reset := by
    cases event with
    | metrics samples => simp at hmove
    | _ => simp [restarts, hmove]
  unfold record applied
  rw [hreset, hmove]
  congr 2
  unfold NodeEntry.accepted
  unfold NodeEntry.spoiledBy at hspoil
  refine List.filter_congr fun b hb => ?_
  rw [List.any_eq_false] at hspoil
  have hb' := hspoil b hb
  cases hnewer : (l.entry.restartIf mc.1.reset).isNewer b.1 with
  | false => rfl
  | true =>
      rw [hnewer, Bool.true_and] at hb'
      unfold degrades at hb'
      cases hd : decode b.2 with
      | none => simp [hd] at hb'
      | some batch => rfl

/-- Nothing restores the status: a degraded node stays degraded. -/
theorem Listener.run_degraded {l l' : Listener} {events : List NodeEvent}
    (h : l.entry.gpuCatalogStatus = .degraded)
    (hrun : Lts.run (Listener.step decode replayEndpoint) l events = some l') :
    l'.entry.gpuCatalogStatus = .degraded := by
  refine Lts.run_preserves (I := fun l : Listener =>
    l.entry.gpuCatalogStatus = .degraded) ?_ h hrun
  intro l₁ event l₂ h₁ hstep
  cases hstatus : l₂.entry.gpuCatalogStatus with
  | degraded => rfl
  | healthy =>
      have hbefore := (step_healthy hstep hstatus).1
      rw [h₁] at hbefore
      cases hbefore

end Decode

end Kareserve
