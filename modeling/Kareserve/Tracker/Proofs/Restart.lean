/-
The two restart detectors against each other.

vLLM restarts under a healthy node and every batch of the new process
arrives. The listener sees the restart in batch 0, the metrics poller in
the start time of its next page, and each clears the catalog without
knowing of the other.

# What goes wrong

A first page read before batch 0 does the listener's work for it: batch 0
then finds no sequence and starts the new catalog. A first page read
after batch 0 clears the new catalog instead, and the next batch finds no
sequence and a number above 0, which degrades the node for good. The two
orders agree only where nothing of the first batches was left in the
catalog and no further batch follows (`FirstPageHarmless`).
-/
import Kareserve.Tracker.Publisher

namespace Kareserve

-- =================================================== after the restart

/-- What reaches the router of the restarted process: its next batch, or a
metrics page, by the samples before the one that counts. -/
inductive Heard where
  | batch
  | page (earlierSamples : List ℚ)
  deriving DecidableEq

/-- The batches in one thing heard. -/
def Heard.batches : Heard → ℕ
  | .batch => 1
  | .page _ => 0

/-- The number of batches heard. -/
def delivered (heard : List Heard) : ℕ := (heard.map Heard.batches).sum

/-- One thing heard, after `k` batches. -/
def Heard.event (start : ℚ) (payload : ℕ → Bytes) (k : ℕ) : Heard → NodeEvent
  | .batch => .parts [[], BigEndian.toBytes 8 k, payload k]
  | .page earlierSamples => .metrics (earlierSamples ++ [start])

/-- What is heard as events of the node, after `k` batches. -/
def restartEvents (start : ℚ) (payload : ℕ → Bytes) :
    ℕ → List Heard → List NodeEvent
  | _, [] => []
  | k, m :: heard =>
      m.event start payload k
        :: restartEvents start payload (k + m.batches) heard

section Decode

variable (decode : Bytes → Option RawMapEventBatch) (replayEndpoint : Bool)
  (start : ℚ) (payload : ℕ → Bytes)

/-- The catalog the first `k` batches of the new process build. -/
def rebuilt (k : ℕ) : GpuCatalog :=
  GpuCatalog.empty.applyPayloads decode ((List.range k).map payload)

/-- After everything heard so far, from the first thing on, the node is
healthy and its catalog is what the delivered batches build. -/
def RestartFollowed (l : Listener) (k : ℕ) (moves : List Heard) : Prop :=
  ∀ heard left, moves = heard ++ left → heard ≠ [] →
    ∃ l', Lts.run (Listener.step decode replayEndpoint) l
        (restartEvents start payload k heard) = some l'
      ∧ l'.entry.gpuCatalogStatus = .healthy
      ∧ l'.entry.catalog = rebuilt decode payload (k + delivered heard)

/-- The first page, if there is one, comes before batch 0, or it has
nothing to clear and no batch follows it. -/
def FirstPageHarmless : ℕ → List Heard → Prop
  | _, [] => True
  | k, .batch :: moves => FirstPageHarmless (k + 1) moves
  | k, .page _ :: moves =>
      k = 0 ∨ (rebuilt decode payload k = .empty ∧ delivered moves = 0)

/-- Batches `k` to `k + n - 1` decode with complete token lists. -/
def Quiet (k n : ℕ) : Prop :=
  ∀ j, k ≤ j → j < k + n → degrades decode (payload j) = false

end Decode

section Decode

variable {decode : Bytes → Option RawMapEventBatch} {replayEndpoint : Bool}
  {start : ℚ} {payload : ℕ → Bytes}

theorem rebuilt_zero : rebuilt decode payload 0 = .empty := rfl

theorem rebuilt_succ (k : ℕ) :
    rebuilt decode payload (k + 1)
      = (rebuilt decode payload k).applyPayload decode (payload k) := by
  unfold rebuilt
  rw [List.range_succ, List.map_append]
  exact GpuCatalog.applyPayloads_concat _ _ _ _

/-- No batch has changed anything. -/
theorem quiet_zero (k : ℕ) : Quiet decode payload k 0 := by
  intro j hle hlt
  omega

/-- One batch more at the front. -/
theorem quiet_succ (k n : ℕ) :
    Quiet decode payload k (n + 1)
      ↔ degrades decode (payload k) = false
        ∧ Quiet decode payload (k + 1) n := by
  constructor
  · intro h
    exact ⟨h k (Nat.le_refl k) (by omega),
      fun j hle hlt => h j (by omega) (by omega)⟩
  · intro h j hle hlt
    rcases Nat.eq_or_lt_of_le hle with heq | hlt'
    · rw [← heq]
      exact h.1
    · exact h.2 j hlt' (by omega)

-- ============================================= the claim, move by move

/-- Nothing is heard, nothing is lost. -/
theorem restartFollowed_nil (l : Listener) (k : ℕ) :
    RestartFollowed decode replayEndpoint start payload l k [] := by
  intro heard left heq hne
  rcases List.append_eq_nil_iff.mp heq.symm with ⟨hheard, -⟩
  exact absurd hheard hne

/-- The next thing heard, then the rest. -/
theorem restartFollowed_cons {l l₁ : Listener} {k : ℕ} {m : Heard}
    (moves : List Heard)
    (hstep : l.step decode replayEndpoint (m.event start payload k)
      = some l₁) :
    RestartFollowed decode replayEndpoint start payload l k (m :: moves)
      ↔ l₁.entry.gpuCatalogStatus = .healthy
        ∧ l₁.entry.catalog = rebuilt decode payload (k + m.batches)
        ∧ RestartFollowed decode replayEndpoint start payload l₁
          (k + m.batches) moves := by
  -- whatever is heard after `m` is heard from the state `m` leads to
  have hrun : ∀ heard, Lts.run (Listener.step decode replayEndpoint) l
        (restartEvents start payload k (m :: heard))
      = Lts.run (Listener.step decode replayEndpoint) l₁
        (restartEvents start payload (k + m.batches) heard) := by
    intro heard
    rw [restartEvents, Lts.run_cons, hstep, Option.bind_some]
  have hcount : ∀ heard, k + delivered (m :: heard)
      = k + m.batches + delivered heard := by
    intro heard
    unfold delivered
    rw [List.map_cons, List.sum_cons, Nat.add_assoc]
  constructor
  · intro h
    obtain ⟨l', hl', hhealthy, hcatalog⟩ :=
      h [m] moves rfl (List.cons_ne_nil _ _)
    rw [hrun] at hl'
    injection hl' with hl'
    subst hl'
    refine ⟨hhealthy, hcatalog, fun heard left heq hne => ?_⟩
    rw [← hrun, ← hcount]
    exact h (m :: heard) left (by rw [heq]; rfl) (List.cons_ne_nil _ _)
  -- a state on the way is the one after `m`, or a later one
  · intro h heard left heq hne
    obtain ⟨hhealthy, hcatalog, hrest⟩ := h
    cases heard with
    | nil => exact absurd rfl hne
    | cons m' heard =>
        rw [List.cons_append] at heq
        injection heq with hm heq
        subst hm
        rw [hrun, hcount]
        by_cases hnil : heard = []
        · subst hnil
          exact ⟨l₁, rfl, hhealthy, hcatalog⟩
        · exact hrest heard left heq hnil

-- =============================================================== phases

/-- A node between two batches, `k` batches into a catalog of the new
process. `known` is the start time last seen. -/
structure Follows (decode : Bytes → Option RawMapEventBatch)
    (payload : ℕ → Bytes) (status : CatalogStatus) (known : ℚ) (k : ℕ)
    (l : Listener) : Prop where
  receiving : l.control = .receiving
  status : l.entry.gpuCatalogStatus = status
  catalog : l.entry.catalog = rebuilt decode payload k
  lastSequence : l.entry.lastSequence = if k = 0 then none else some (k - 1 : ℤ)
  processStart : l.entry.node.processStartTimeSeconds = some known

/-- A degraded node follows nothing. -/
theorem not_restartFollowed_degraded {l l₁ : Listener} {k : ℕ} {m : Heard}
    {moves : List Heard}
    (hstep : l.step decode replayEndpoint (m.event start payload k) = some l₁)
    (hdegraded : l₁.entry.gpuCatalogStatus = .degraded) :
    ¬ RestartFollowed decode replayEndpoint start payload l k (m :: moves) := by
  intro h
  have hhealthy := ((restartFollowed_cons moves hstep).mp h).1
  rw [hdegraded] at hhealthy
  cases hhealthy

variable (start) in
/-- Batch `k`, where the listener takes it to be batch `k` of the new
process. -/
theorem step_batch {l : Listener} {known : ℚ} {k : ℕ} (restarted : Bool)
    (hk : k < 2 ^ 64) (hreceiving : l.control = .receiving)
    (hstart : l.entry.node.processStartTimeSeconds = some known)
    (hmove : l.entry.receiveBatch replayEndpoint k (payload k)
      = ({ reset := restarted, batch := some ((k : ℤ), payload k) },
          .receiving))
    (hcatalog : (l.entry.restartIf restarted).catalog
      = rebuilt decode payload k)
    (hnewer : (l.entry.restartIf restarted).isNewer k = true) :
    ∃ l₁, l.step decode replayEndpoint (Heard.batch.event start payload k)
        = some l₁
      ∧ (degrades decode (payload k) = true →
        l₁.entry.gpuCatalogStatus = .degraded)
      ∧ (degrades decode (payload k) = false →
        Follows decode payload l.entry.gpuCatalogStatus known (k + 1) l₁) := by
  -- the eight bytes are the number again
  have hevent : l.move replayEndpoint (Heard.batch.event start payload k)
      = some ({ reset := restarted, batch := some ((k : ℤ), payload k) },
          .receiving) := by
    show l.move replayEndpoint (.parts [[], BigEndian.toBytes 8 k, payload k])
      = _
    unfold Listener.move
    rw [hreceiving]
    dsimp only [NodeEntry.receiveParts]
    rw [BigEndian.fromBytes_toBytes (by omega), hmove]
  refine ⟨_, Listener.step_of_move hevent, fun hbad => ?_, fun hquiet => ?_⟩
  · rw [NodeEntry.act_status]
    simp [NodeEntry.spoiledBy, hnewer, hbad]
  -- a batch that can be decoded is applied to what the earlier ones built
  · have haccepted := NodeEntry.accepted_newer hnewer hquiet
    refine ⟨rfl, ?_, ?_, ?_, ?_⟩
    · rw [NodeEntry.act_status]
      simp [NodeEntry.spoiledBy, hquiet]
    · rw [NodeEntry.act_catalog, haccepted, hcatalog]
      exact (rebuilt_succ k).symm
    · rw [NodeEntry.act_lastSequence, haccepted, if_neg (Nat.succ_ne_zero k)]
      simp
    · rw [NodeEntry.act_processStart]
      exact hstart

variable (replayEndpoint start) in
/-- The next batch of a process that is followed. -/
theorem Follows.batch {l : Listener} {status : CatalogStatus} {known : ℚ}
    {k : ℕ} (h : Follows decode payload status known k l) (hk : k < 2 ^ 64) :
    ∃ l₁, l.step decode replayEndpoint (Heard.batch.event start payload k)
        = some l₁
      ∧ (degrades decode (payload k) = true →
        l₁.entry.gpuCatalogStatus = .degraded)
      ∧ (degrades decode (payload k) = false →
        Follows decode payload status known (k + 1) l₁) := by
  have hlast := h.lastSequence
  rw [← h.status]
  refine step_batch start false hk h.receiving h.processStart ?_ h.catalog ?_
  · rcases Nat.eq_zero_or_pos k with hzero | hpos
    · subst hzero
      exact receiveBatch_none hlast _ _
    · rw [if_neg (by omega)] at hlast
      exact receiveBatch_next hlast (by omega) (by omega) _
  · rw [NodeEntry.restartIf_false, NodeEntry.isNewer_iff, hlast]
    intro previous hprevious
    split at hprevious
    · cases hprevious
    · injection hprevious with hprevious
      omega

variable (replayEndpoint start) in
/-- A later batch at a node whose new catalog a page has just cleared. -/
theorem Follows.late_batch {l : Listener} {status : CatalogStatus}
    {known : ℚ} {k : ℕ} (h : Follows decode payload status known 0 l)
    (hk : k < 2 ^ 64) (hpos : 0 < k) :
    ∃ l₁, l.step decode replayEndpoint (Heard.batch.event start payload k)
        = some l₁
      ∧ l₁.entry.gpuCatalogStatus = .degraded := by
  have hevent : l.move replayEndpoint (Heard.batch.event start payload k)
      = some ({ degrade := true, batch := some ((k : ℤ), payload k) },
          .receiving) := by
    show l.move replayEndpoint (.parts [[], BigEndian.toBytes 8 k, payload k])
      = _
    unfold Listener.move
    rw [h.receiving]
    dsimp only [NodeEntry.receiveParts]
    rw [BigEndian.fromBytes_toBytes (by omega),
      receiveBatch_none h.lastSequence,
      decide_eq_true (show (0 : ℤ) < k by omega)]
  refine ⟨_, Listener.step_of_move hevent, ?_⟩
  rw [NodeEntry.act_status]
  rfl

variable (replayEndpoint) in
/-- A page at a node that has seen the new start time. -/
theorem Follows.page {l : Listener} {status : CatalogStatus} {k : ℕ}
    (h : Follows decode payload status start k l) (k' : ℕ)
    (earlierSamples : List ℚ) :
    ∃ l₁, l.step decode replayEndpoint
        ((Heard.page earlierSamples).event start payload k') = some l₁
      ∧ Follows decode payload status start k l₁ := by
  have hsame : l.entry.startChanged (earlierSamples ++ [start]) = false := by
    unfold NodeEntry.startChanged
    rw [List.getLast?_concat, h.processStart]
    exact decide_eq_false fun hne => hne rfl
  refine ⟨_, rfl, h.receiving, ?_, ?_, ?_, ?_⟩
  · rw [← h.status]
    exact NodeEntry.updateProcessStart_status _ _
  · rw [← h.catalog]
    refine (NodeEntry.updateProcessStart_catalog _ _).trans ?_
    rw [hsame, NodeEntry.restartIf_false]
  · rw [← h.lastSequence]
    refine (NodeEntry.updateProcessStart_lastSequence _ _).trans ?_
    rw [hsame, NodeEntry.restartIf_false]
  · refine (NodeEntry.updateProcessStart_processStart _ _).trans ?_
    rw [List.getLast?_concat]
    rfl

variable (replayEndpoint) in
/-- The first page with the new start time clears whatever is there. -/
theorem step_firstPage {l : Listener} {known : ℚ}
    (hreceiving : l.control = .receiving)
    (hstart : l.entry.node.processStartTimeSeconds = some known)
    (hne : start ≠ known) (k : ℕ) (earlierSamples : List ℚ) :
    ∃ l₁, l.step decode replayEndpoint
        ((Heard.page earlierSamples).event start payload k) = some l₁
      ∧ Follows decode payload l.entry.gpuCatalogStatus start 0 l₁ := by
  have hchanged : l.entry.startChanged (earlierSamples ++ [start]) = true := by
    unfold NodeEntry.startChanged
    rw [List.getLast?_concat, hstart]
    exact decide_eq_true hne
  refine ⟨_, rfl, hreceiving, ?_, ?_, ?_, ?_⟩
  · exact NodeEntry.updateProcessStart_status _ _
  · refine (NodeEntry.updateProcessStart_catalog _ _).trans ?_
    rw [hchanged]
    rfl
  · refine (NodeEntry.updateProcessStart_lastSequence _ _).trans ?_
    rw [hchanged]
    rfl
  · refine (NodeEntry.updateProcessStart_processStart _ _).trans ?_
    rw [List.getLast?_concat]
    rfl

-- ================================================================ runs

theorem delivered_batch (moves : List Heard) :
    delivered (.batch :: moves) = delivered moves + 1 := by
  unfold delivered
  rw [List.map_cons, List.sum_cons, Nat.add_comm]
  rfl

theorem delivered_page (earlierSamples : List ℚ) (moves : List Heard) :
    delivered (.page earlierSamples :: moves) = delivered moves := by
  unfold delivered
  rw [List.map_cons, List.sum_cons]
  exact Nat.zero_add _

/-- After a step to a node that follows, the rest decides. -/
theorem Follows.restartFollowed_cons {l l₁ : Listener} {known : ℚ} {k : ℕ}
    {m : Heard} {moves : List Heard}
    (h : Follows decode payload .healthy known (k + m.batches) l₁)
    (hstep : l.step decode replayEndpoint (m.event start payload k) = some l₁) :
    RestartFollowed decode replayEndpoint start payload l k (m :: moves)
      ↔ RestartFollowed decode replayEndpoint start payload l₁
        (k + m.batches) moves := by
  rw [Kareserve.restartFollowed_cons moves hstep]
  constructor
  · intro hall
    exact hall.2.2
  · intro hrest
    exact ⟨h.status, h.catalog, hrest⟩

/-- Batch `k`, where what is heard after it asks for good batches and for
`P`. -/
theorem restartFollowed_batch {l : Listener} {known : ℚ} {k : ℕ}
    {moves : List Heard} {P : Prop}
    (hbatch : ∃ l₁, l.step decode replayEndpoint
        (Heard.batch.event start payload k) = some l₁
      ∧ (degrades decode (payload k) = true →
        l₁.entry.gpuCatalogStatus = .degraded)
      ∧ (degrades decode (payload k) = false →
        Follows decode payload .healthy known (k + 1) l₁))
    (hrest : ∀ l₁, Follows decode payload .healthy known (k + 1) l₁ →
      (RestartFollowed decode replayEndpoint start payload l₁ (k + 1) moves
        ↔ Quiet decode payload (k + 1) (delivered moves) ∧ P)) :
    RestartFollowed decode replayEndpoint start payload l k (.batch :: moves)
      ↔ Quiet decode payload k (delivered moves + 1) ∧ P := by
  rw [quiet_succ]
  obtain ⟨l₁, hstep, hbad, hgood⟩ := hbatch
  cases hdegrades : degrades decode (payload k) with
  | true =>
      exact iff_of_false
        (not_restartFollowed_degraded hstep (hbad hdegrades))
        fun hall => Bool.noConfusion hall.1.1
  | false =>
      have h₁ := hgood hdegrades
      have hcons : RestartFollowed decode replayEndpoint start payload l k
            (.batch :: moves)
          ↔ RestartFollowed decode replayEndpoint start payload l₁ (k + 1)
            moves :=
        Follows.restartFollowed_cons h₁ hstep
      rw [hcons, hrest l₁ h₁, and_iff_right rfl]

/-- Once the start time is known, pages change nothing: the node follows
exactly while the batches are good. -/
theorem restartFollowed_known {moves : List Heard} {k : ℕ} {l : Listener}
    (h : Follows decode payload .healthy start k l)
    (hcount : k + delivered moves ≤ 2 ^ 64) :
    RestartFollowed decode replayEndpoint start payload l k moves
      ↔ Quiet decode payload k (delivered moves) := by
  induction moves generalizing k l with
  | nil =>
      exact iff_of_true (restartFollowed_nil l k) (quiet_zero k)
  | cons m moves ih =>
      cases m with
      | page earlierSamples =>
          rw [delivered_page] at hcount ⊢
          obtain ⟨l₁, hstep, h₁⟩ := h.page replayEndpoint k earlierSamples
          exact (Follows.restartFollowed_cons h₁ hstep).trans (ih h₁ hcount)
      | batch =>
          rw [delivered_batch] at hcount ⊢
          refine (restartFollowed_batch (P := True)
            (h.batch replayEndpoint start (by omega)) fun l₁ h₁ => ?_).trans
              (and_iff_left trivial)
          exact (ih h₁ (by omega)).trans (and_iff_left trivial).symm

/-- After a late first page the node follows on exactly while no further
batch comes. -/
theorem restartFollowed_cleared {moves : List Heard} {k : ℕ} {l : Listener}
    (h : Follows decode payload .healthy start 0 l) (hpos : 0 < k)
    (hempty : rebuilt decode payload k = .empty)
    (hcount : k + delivered moves ≤ 2 ^ 64) :
    RestartFollowed decode replayEndpoint start payload l k moves
      ↔ delivered moves = 0 := by
  induction moves generalizing l with
  | nil => exact iff_of_true (restartFollowed_nil l k) rfl
  | cons m moves ih =>
      cases m with
      | page earlierSamples =>
          rw [delivered_page] at hcount ⊢
          obtain ⟨l₁, hstep, h₁⟩ := h.page replayEndpoint k earlierSamples
          rw [restartFollowed_cons moves hstep]
          show _ ∧ _ = rebuilt _ _ k ∧ RestartFollowed _ _ _ _ l₁ k moves ↔ _
          rw [ih h₁ hcount, hempty]
          exact ⟨fun hall => hall.2.2, fun hno => ⟨h₁.status, h₁.catalog, hno⟩⟩
      | batch =>
          rw [delivered_batch] at hcount ⊢
          obtain ⟨l₁, hstep, hdegraded⟩ := h.late_batch replayEndpoint start
            (by omega) hpos
          exact iff_of_false (not_restartFollowed_degraded hstep hdegraded)
            (Nat.succ_ne_zero _)

/-- From batch 0 on, before any page. -/
theorem restartFollowed_unknown {moves : List Heard} {known : ℚ} {k : ℕ}
    {l : Listener} (h : Follows decode payload .healthy known k l)
    (hpos : 0 < k) (hne : start ≠ known) (hcount : k + delivered moves ≤ 2 ^ 64) :
    RestartFollowed decode replayEndpoint start payload l k moves
      ↔ Quiet decode payload k (delivered moves)
        ∧ FirstPageHarmless decode payload k moves := by
  induction moves generalizing k l with
  | nil =>
      exact iff_of_true (restartFollowed_nil l k) ⟨quiet_zero k, trivial⟩
  | cons m moves ih =>
      cases m with
      | page earlierSamples =>
          rw [delivered_page] at hcount ⊢
          -- the first page clears whatever the batches have built; that is
          -- harmless where they built nothing and no more come
          obtain ⟨l₁, hstep, h₁⟩ := step_firstPage replayEndpoint h.receiving
            h.processStart hne k earlierSamples
          rw [h.status] at h₁
          rw [restartFollowed_cons moves hstep]
          show _ ∧ _ = rebuilt _ _ k ∧ RestartFollowed _ _ _ _ l₁ k moves
            ↔ _ ∧ (k = 0 ∨ _)
          rw [h₁.catalog, rebuilt_zero]
          constructor
          · intro hall
            obtain ⟨-, hempty, hrest⟩ := hall
            have hno := (restartFollowed_cleared h₁ hpos hempty.symm
              hcount).mp hrest
            refine ⟨?_, Or.inr ⟨hempty.symm, hno⟩⟩
            rw [hno]
            exact quiet_zero k
          · intro hall
            obtain ⟨-, hzero | ⟨hempty, hno⟩⟩ := hall
            · omega
            · exact ⟨h₁.status, hempty.symm,
                (restartFollowed_cleared h₁ hpos hempty hcount).mpr hno⟩
      | batch =>
          rw [delivered_batch] at hcount ⊢
          exact restartFollowed_batch
            (h.batch replayEndpoint start (by omega))
            fun l₁ h₁ => ih h₁ (by omega) (by omega)

end Decode

/-- The two restart detectors commute exactly where the first page is
harmless. From any healthy node that waits for a batch, with a positive
sequence and a known start time, whatever its catalog: after everything
heard of the restarted process the node is healthy and its catalog is
what the delivered batches build, if and only if these are good and the
first page with the new start time is read before batch 0, or not at all,
or where it has nothing to clear and no batch follows it. -/
theorem restart_detectors_commute_iff
    (decode : Bytes → Option RawMapEventBatch) (replayEndpoint : Bool)
    (payload : ℕ → Bytes) (start known : ℚ) (hne : start ≠ known) (last : ℤ)
    (hpos : 0 < last) (l : Listener) (hreceiving : l.control = .receiving)
    (hhealthy : l.entry.gpuCatalogStatus = .healthy)
    (hlast : l.entry.lastSequence = some last)
    (hknown : l.entry.node.processStartTimeSeconds = some known)
    (moves : List Heard) (hcount : delivered moves ≤ 2 ^ 64) :
    RestartFollowed decode replayEndpoint start payload l 0 moves
      ↔ (∀ k < delivered moves, degrades decode (payload k) = false)
        ∧ FirstPageHarmless decode payload 0 moves := by
  have hquiet : (∀ k < delivered moves, degrades decode (payload k) = false)
      ↔ Quiet decode payload 0 (delivered moves) := by
    unfold Quiet
    simp
  rw [hquiet]
  cases moves with
  | nil => exact iff_of_true (restartFollowed_nil l 0) ⟨quiet_zero 0, trivial⟩
  | cons m moves =>
      cases m with
      -- a page first: it clears the catalog before any batch, and every later
      -- page shows a start time that is known
      | page earlierSamples =>
          rw [delivered_page] at hcount ⊢
          obtain ⟨l₁, hstep, h₁⟩ := step_firstPage replayEndpoint hreceiving
            hknown hne 0 earlierSamples
          rw [hhealthy] at h₁
          have hcons : RestartFollowed decode replayEndpoint start payload l 0
                (.page earlierSamples :: moves)
              ↔ RestartFollowed decode replayEndpoint start payload l₁ 0
                moves :=
            Follows.restartFollowed_cons h₁ hstep
          rw [hcons, restartFollowed_known h₁ (by omega)]
          exact (and_iff_left (Or.inl rfl)).symm
      -- batch 0 first: its number tells of the restart, and a page still to
      -- come is the first with the new start time
      | batch =>
          rw [delivered_batch] at hcount ⊢
          refine restartFollowed_batch ?_ fun l₁ h₁ =>
            restartFollowed_unknown h₁ Nat.one_pos hne (by omega)
          rw [← hhealthy]
          exact step_batch start true (show 0 < 2 ^ 64 by omega) hreceiving
            hknown (receiveBatch_restart hlast hpos (payload 0)) rfl rfl

/-- Batches 0 and 1 of a process started at 1. -/
def firstLife : List NodeEvent :=
  [.metrics [1], .parts [[], BigEndian.toBytes 8 0, rootBlockBatch 0 0],
    .parts [[], BigEndian.toBytes 8 1, rootBlockBatch 0 1]]

/-- A page read before the first two batches of the next process. -/
theorem restart_page_first :
    ∃ l, Lts.run (Listener.step oneBlockDecode false)
        (.start false (.fresh { nodeId := "a", cacheDomainId := "d" }))
        firstLife = some l
      ∧ RestartFollowed oneBlockDecode false 2 (rootBlockBatch 1) l 0
        [.page [], .batch, .page [], .batch] := by
  have hrun : (Lts.run (Listener.step oneBlockDecode false)
      (.start false (.fresh { nodeId := "a", cacheDomainId := "d" }))
      firstLife).map (fun l => (l.control, l.entry.gpuCatalogStatus,
        l.entry.lastSequence, l.entry.node.processStartTimeSeconds))
      = some (.receiving, .healthy, some 1, some 1) := by decide
  obtain ⟨l, hl, hfacts⟩ := Option.map_eq_some_iff.mp hrun
  injection hfacts with hcontrol hfacts
  injection hfacts with hhealthy hfacts
  injection hfacts with hlast hknown
  refine ⟨l, hl, (restart_detectors_commute_iff oneBlockDecode false
    (rootBlockBatch 1) 2 1 (by norm_num) 1 Int.one_pos l hcontrol hhealthy hlast
    hknown [.page [], .batch, .page [], .batch] (by decide)).mpr ?_⟩
  exact ⟨by decide, Or.inl rfl⟩

/-- A page read between the first two batches of the next process. -/
theorem restart_page_between :
    ∃ l, Lts.run (Listener.step oneBlockDecode false)
        (.start false (.fresh { nodeId := "a", cacheDomainId := "d" }))
        firstLife = some l
      ∧ l.control = .receiving ∧ l.entry.gpuCatalogStatus = .healthy
      ∧ l.entry.lastSequence = some 1
      ∧ l.entry.node.processStartTimeSeconds = some 1
      ∧ ¬ RestartFollowed oneBlockDecode false 2 (rootBlockBatch 1) l 0
        [.batch, .page [], .batch] := by
  have hrun : (Lts.run (Listener.step oneBlockDecode false)
      (.start false (.fresh { nodeId := "a", cacheDomainId := "d" }))
      firstLife).map (fun l => (l.control, l.entry.gpuCatalogStatus,
        l.entry.lastSequence, l.entry.node.processStartTimeSeconds))
      = some (.receiving, .healthy, some 1, some 1) := by decide
  have hend : (Lts.run (Listener.step oneBlockDecode false)
      (.start false (.fresh { nodeId := "a", cacheDomainId := "d" }))
      (firstLife ++ restartEvents 2 (rootBlockBatch 1) 0
        [.batch, .page [], .batch])).map (fun l => l.entry.gpuCatalogStatus)
      = some .degraded := by decide
  obtain ⟨l, hl, hfacts⟩ := Option.map_eq_some_iff.mp hrun
  injection hfacts with hcontrol hfacts
  injection hfacts with hhealthy hfacts
  injection hfacts with hlast hknown
  refine ⟨l, hl, hcontrol, hhealthy, hlast, hknown, fun h => ?_⟩
  obtain ⟨l', hl', hhealthy', -⟩ :=
    h [.batch, .page [], .batch] [] rfl (List.cons_ne_nil _ _)
  rw [Lts.run_append, hl, Option.bind_some, hl', Option.map_some,
    hhealthy'] at hend
  cases hend

end Kareserve
