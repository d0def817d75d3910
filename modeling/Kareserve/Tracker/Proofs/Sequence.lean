/-
The sequence protocol: a healthy node has applied a whole prefix of one
generation, in order.

# The invariant

`Net.Wf` holds of every state, whatever the sockets deliver: the entry
is read by its history (`Refines`), and a live batch waiting for a replay
is the one last received.

`Net.Healthy` is what a healthy node adds. Waiting for a live batch, its
history is a prefix of one generation. Inside a replay it is a prefix up
to the requested start followed by what the reply has brought, which
need not join it: whether it does is what `replayComplete` decides at the
end.

# The condition

The listener learns of a new generation in two ways only, number 0 after
a positive number and a changed process start time. `Net.Unmixed` says
what it cannot see does not happen: a batch that is not recognised as a
restart and continues the sequence is of the generation the catalog
holds, as is the reply to a request it triggers, and the start time does
not change while a reply is being read. Conditioned steps keep
`Net.Healthy` (`healthy_step`); within one generation every step meets
the condition.
-/
import Kareserve.Tracker.Publisher

namespace Kareserve

section Batch

variable (batch : ℕ → ℕ → Bytes) (decode : Bytes → Option RawMapEventBatch)
variable (replayEndpoint : Bool)

-- ============================================================ invariants

/-- What holds of every state. -/
structure Net.Wf (s : Net) : Prop where
  refines : Refines decode s.listener.entry (s.history.map (numbered batch))
  pending : ∀ start first sequence payload,
    s.listener.control = .replaying start first (.live sequence payload) →
    ∃ b, s.received = some b ∧ (sequence, payload) = numbered batch b
  inRange : ∀ r, s.reply = some r → r.hi ≤ 2 ^ 63

/-- A prefix of one generation. -/
def PrefixOf (generation : ℕ) (history : List BatchId) : Prop :=
  ∃ k, history = segment generation 0 k

/-- What a healthy node's history is, inside a replay: the prefix before
the requested start, then what the reply has brought, from `head` on. -/
structure ReplayState (s : Net) (start : ℤ) (first : Option ℤ)
    (resume : Resume) (r : Reply) (k head : ℕ) : Prop where
  reply : s.reply = some r
  start : start = k
  le_head : k ≤ head
  le_next : head ≤ r.next
  history : s.history
    = segment r.generation 0 k ++ segment r.generation head r.next
  first : first = if head < r.next then some (head : ℤ) else none
  resume : match resume with
    | .initial => k = 0 ∧ s.received = none
    | .live _ _ => head < r.hi
      ∧ ∃ n, s.received = some (r.generation, n) ∧ n < r.hi

/-- What a healthy node adds. -/
def Net.HistoryInv (s : Net) : Prop :=
  match s.listener.control with
  | .receiving => ∃ generation, PrefixOf generation s.history
  | .replaying start first resume =>
      ∃ r k head, ReplayState s start first resume r k head
  | .stopped => True

/-- A healthy node holds an unbroken prefix of one generation. -/
def Net.Healthy (s : Net) : Prop :=
  s.listener.entry.gpuCatalogStatus = .healthy → s.HistoryInv

/-- The last live batch has been applied, and so has every batch of its
generation before it; nothing else has. -/
def Net.Caught (s : Net) : Prop :=
  ∀ generation number, s.received = some (generation, number) →
    ∃ k, number < k ∧ s.history = segment generation 0 k

-- ========================================================= the condition

/-- The steps a healthy node can tell generations apart by. A live batch
that is not recognised as a restart, and that the node does not degrade
at for want of a replay endpoint, is of the generation the history holds,
and so is the reply to the replay it triggers; no start time changes
while a reply is being read. -/
def Net.Unmixed (s : Net) (event : NetEvent) : Prop :=
  s.listener.entry.gpuCatalogStatus = .healthy →
    match event with
    | .live generation number window =>
        match s.listener.entry.lastSequence with
        | none => True
        | some p =>
            ¬ (number = 0 ∧ 0 < p) →
            number ≤ p + 1 ∨ replayEndpoint = true →
              (∀ b ∈ s.history, b.1 = generation)
              ∧ (p + 1 < number → window.generation = generation)
    | .metrics samples =>
        s.listener.control ≠ .receiving →
          s.listener.entry.startChanged samples = false
    | .answer => True
    | .timeout => True

instance (s : Net) : ∀ event, Decidable (s.Unmixed replayEndpoint event)
  | .live generation number window =>
      match h : s.listener.entry.lastSequence with
      | none => isTrue fun _ => by simp only [h]
      | some p => decidable_of_iff
          (s.listener.entry.gpuCatalogStatus = .healthy →
            ¬ (number = 0 ∧ 0 < p) →
            number ≤ p + 1 ∨ replayEndpoint = true →
              (∀ b ∈ s.history, b.1 = generation)
              ∧ (p + 1 < number → window.generation = generation))
          (by unfold Net.Unmixed; simp only [h])
  | .metrics _ => inferInstanceAs (Decidable (_ = _ → _ ≠ _ → _ = _))
  | .answer => isTrue fun _ => trivial
  | .timeout => isTrue fun _ => trivial

-- ======================================================= moves on events

variable {batch decode replayEndpoint}

/-- A step of the network, as the step of the listener it causes. -/
theorem Net.step_eq_some {s s' : Net} {event : NetEvent}
    (h : s.step batch decode replayEndpoint event = some s') :
    ∃ ev l, s.event batch event = some ev
      ∧ s.listener.step decode replayEndpoint ev = some l
      ∧ s' = { listener := l
               reply := s.nextReply l.control event
               received := s.nextReceived event
               history := s.listener.record decode replayEndpoint ev
                 (fun _ => s.tag event) s.history } := by
  unfold step at h
  rcases Option.bind_eq_some_iff.mp h with ⟨ev, hev, hmap⟩
  rcases Option.map_eq_some_iff.mp hmap with ⟨l, hl, hs⟩
  exact ⟨ev, l, hev, hl, hs.symm⟩

/-- A listener's step on an event of its own is a move. -/
theorem Listener.move_of_step {l l' : Listener} {ev : NodeEvent}
    (h : l.step decode replayEndpoint ev = some l')
    (hown : (∃ parts, ev = .parts parts) ∨ (∃ frames, ev = .frames frames)
      ∨ ev = .replayError) :
    ∃ mc, l.move replayEndpoint ev = some mc
      ∧ l' = ⟨l.entry.act decode mc.1, mc.2⟩ := by
  rcases step_cases h with
    ⟨mc, hmove, hl, -⟩ | ⟨samples, rfl, -⟩ | ⟨node, -, -, -, hmove⟩
  · exact ⟨mc, hmove, hl⟩
  · simp at hown
  · rcases hown with ⟨parts, rfl⟩ | ⟨frames, rfl⟩ | rfl <;>
      simp [step, hmove] at h

/-- A live batch that can be delivered. -/
theorem live_event {s : Net} {generation number : ℕ} {window : Window}
    {ev : NodeEvent}
    (h : s.event batch (.live generation number window) = some ev) :
    ev = .parts
        [[], BigEndian.toBytes 8 number, batch generation number]
      ∧ After s.received generation number ∧ number < 2 ^ 63
      ∧ window.Covers generation number := by
  simp only [Net.event] at h
  split at h
  case isTrue hguard =>
    injection h with h
    exact ⟨h.symm, hguard⟩
  case isFalse => cases h

/-- A live batch reaches a listener that waits for one. -/
theorem live_move {l l' : Listener} {generation number : ℕ}
    (hnumber : number < 2 ^ 63)
    (h : l.step decode replayEndpoint (.parts
      [[], BigEndian.toBytes 8 number, batch generation number]) = some l') :
    l.control = .receiving
      ∧ l.move replayEndpoint (.parts
          [[], BigEndian.toBytes 8 number, batch generation number])
        = some (l.entry.receiveBatch replayEndpoint number
            (batch generation number)) := by
  rcases Listener.move_of_step h (Or.inl ⟨_, rfl⟩) with ⟨mc, hmove, -⟩
  have hcontrol : l.control = .receiving := by
    unfold Listener.move at hmove
    cases hc : l.control with
    | receiving => rfl
    | replaying start first resume => simp [hc] at hmove
    | stopped => simp [hc] at hmove
  have hbytes : BigEndian.fromBytes (BigEndian.toBytes 8 number) = number :=
    BigEndian.fromBytes_toBytes (by norm_num at hnumber ⊢; omega)
  refine ⟨hcontrol, ?_⟩
  unfold Listener.move NodeEntry.receiveParts
  rw [hcontrol]
  dsimp only
  rw [hbytes]

/-- What the listener makes of the next frame of a reply. -/
theorem receiveReply_frames (hne : ∀ g n, batch g n ≠ []) {r : Reply}
    (hrange : r.hi ≤ 2 ^ 63) (start : ℤ) (first : Option ℤ)
    (resume : Resume) :
    receiveReply start first resume (r.frames batch)
      = if r.next < r.hi then
          ({ batch := some (numbered batch (r.generation, r.next)) },
            .replaying start (some (first.getD r.next)) resume)
        else finishReplay resume (replayComplete start first) := by
  unfold Reply.frames
  by_cases hnext : r.next < r.hi
  · rw [if_pos hnext, if_pos hnext]
    have hbytes : BigEndian.fromBytesSigned (BigEndian.toBytes 8 r.next)
        = r.next :=
      BigEndian.fromBytesSigned_toBytes (by norm_num at hrange ⊢; omega)
    have hdata : ¬ ((r.next : ℤ) = endSequence
        ∨ batch r.generation r.next = []) := by
      intro h
      rcases h with h | h
      · unfold endSequence at h
        omega
      · exact hne _ _ h
    unfold receiveReply parseReplyFrames
    dsimp only
    rw [hbytes, if_neg hdata]
    rfl
  · rw [if_neg hnext, if_neg hnext]
    unfold receiveReply parseReplyFrames
    dsimp only
    rw [if_pos (Or.inl (by decide))]

/-- A frame reaches a listener that waits for a reply. -/
theorem frames_move {l l' : Listener} {frames : List Bytes}
    (h : l.step decode replayEndpoint (.frames frames) = some l') :
    ∃ start first resume, l.control = .replaying start first resume
      ∧ l.move replayEndpoint (.frames frames)
        = some (receiveReply start first resume frames) := by
  rcases Listener.move_of_step h (Or.inr (Or.inl ⟨_, rfl⟩)) with ⟨mc, hmove, -⟩
  unfold Listener.move at hmove ⊢
  cases hc : l.control with
  | receiving => simp [hc] at hmove
  | replaying start first resume => exact ⟨start, first, resume, rfl, rfl⟩
  | stopped => simp [hc] at hmove

/-- A timeout comes in a replay, and ends it. -/
theorem timeout_move {l l' : Listener}
    (h : l.step decode replayEndpoint .replayError = some l') :
    ∃ start first resume, l.control = .replaying start first resume
      ∧ l.move replayEndpoint .replayError
        = some (finishReplay resume false) := by
  rcases Listener.move_of_step h (Or.inr (Or.inr rfl)) with ⟨mc, hmove, -⟩
  unfold Listener.move at hmove ⊢
  cases hc : l.control with
  | receiving => simp [hc] at hmove
  | replaying start first resume => exact ⟨start, first, resume, rfl, rfl⟩
  | stopped => simp [hc] at hmove

-- ======================================================== always true

/-- What is accepted was offered. -/
theorem NodeEntry.mem_accepted {e : NodeEntry} {offered : Option (ℤ × Bytes)}
    {b : ℤ × Bytes} (h : b ∈ e.accepted decode offered) : offered = some b := by
  unfold accepted at h
  have hmem := (List.mem_filter.mp h).1
  rwa [Option.mem_toList] at hmem

/-- A live batch is offered as it came. -/
theorem receiveBatch_batch {e : NodeEntry} {sequence : ℤ} {payload : Bytes}
    {b : ℤ × Bytes}
    (h : (e.receiveBatch replayEndpoint sequence payload).1.batch = some b) :
    b = (sequence, payload) := by
  unfold NodeEntry.receiveBatch at h
  dsimp only at h
  repeat' split at h
  all_goals simp at h
  all_goals exact h.symm

/-- Where a replay comes first, a live batch waits for its end. -/
theorem receiveBatch_resume {e : NodeEntry} {sequence : ℤ} {payload : Bytes}
    {start : ℤ} {first : Option ℤ} {resume : Resume}
    (h : (e.receiveBatch replayEndpoint sequence payload).2
      = .replaying start first resume) :
    resume = .live sequence payload := by
  unfold NodeEntry.receiveBatch at h
  dsimp only at h
  repeat' split at h
  all_goals simp at h
  exact h.2.2.symm

/-- After a replay the listener waits for live batches. -/
theorem finishReplay_control (resume : Resume) (replayOk : Bool) :
    (finishReplay resume replayOk).2 = .receiving := by
  cases resume <;> rfl

/-- What an event has the listener apply is the batch of its tag. -/
theorem Net.Wf.applied (hne : ∀ g n, batch g n ≠ []) {s : Net}
    (h : s.Wf batch decode) {event : NetEvent} {ev : NodeEvent}
    {l : Listener} (hev : s.event batch event = some ev)
    (hstep : s.listener.step decode replayEndpoint ev = some l) :
    ∀ b ∈ s.listener.applied decode replayEndpoint ev,
      b = numbered batch (s.tag event) := by
  -- the end of a reply hands over the pending batch
  have hfinish : ∀ start first resume ok b,
      s.listener.control = .replaying start first resume →
      (finishReplay resume ok).1.batch = some b →
      b = numbered batch (s.received.getD (0, 0)) := by
    intro start first resume ok b hcontrol hb
    cases resume with
    | initial => cases hb
    | live sequence payload =>
        injection hb with hb
        rcases h.pending _ _ _ _ hcontrol with ⟨b', hreceived, heq⟩
        rw [← hb, heq, hreceived]
        rfl
  intro b hb
  unfold Listener.applied at hb
  cases event with
  | live generation number window =>
      rcases live_event hev with ⟨rfl, -, hnumber, -⟩
      rw [(live_move hnumber hstep).2] at hb
      exact receiveBatch_batch (NodeEntry.mem_accepted hb)
  | answer =>
      unfold Net.event at hev
      rcases Option.map_eq_some_iff.mp hev with ⟨r, hr, rfl⟩
      rcases frames_move hstep with ⟨start, first, resume, hcontrol, hmove⟩
      rw [hmove, receiveReply_frames hne (h.inRange r hr)] at hb
      have hoffered := NodeEntry.mem_accepted hb
      unfold Net.tag
      rw [hr]
      dsimp only
      by_cases hnext : r.next < r.hi
      · rw [if_pos hnext] at hoffered ⊢
        injection hoffered with hoffered
        exact hoffered.symm
      · rw [if_neg hnext] at hoffered ⊢
        exact hfinish _ _ _ _ _ hcontrol hoffered
  | timeout =>
      injection hev with hev
      subst hev
      rcases timeout_move hstep with ⟨start, first, resume, hcontrol, hmove⟩
      rw [hmove] at hb
      exact hfinish _ _ _ _ _ hcontrol (NodeEntry.mem_accepted hb)
  | metrics samples =>
      injection hev with hev
      subst hev
      rw [Listener.move_metrics] at hb
      cases hb

/-- Recording under tags is recording the batches themselves. -/
theorem record_numbered {l : Listener} {ev : NodeEvent} {tag : BatchId}
    (h : ∀ b ∈ l.applied decode replayEndpoint ev, b = numbered batch tag)
    (history : List BatchId) :
    (l.record decode replayEndpoint ev (fun _ => tag) history).map
        (numbered batch)
      = l.record decode replayEndpoint ev id (history.map (numbered batch)) := by
  unfold Listener.record
  rw [List.map_append, List.map_map, List.map_id]
  congr 1
  · split <;> rfl
  · have hcongr : (l.applied decode replayEndpoint ev).map
        (numbered batch ∘ fun _ => tag)
        = (l.applied decode replayEndpoint ev).map id :=
      List.map_congr_left fun b hb => (h b hb).symm
    rw [hcongr, List.map_id]

/-- A batch that waits for a replay is the one just received, or was
waiting before. -/
theorem Net.Wf.pending_step (hne : ∀ g n, batch g n ≠ []) {s s' : Net}
    (h : s.Wf batch decode) {event : NetEvent}
    (hstep : s.step batch decode replayEndpoint event = some s') {start : ℤ}
    {first : Option ℤ} {sequence : ℤ} {payload : Bytes}
    (hcontrol : s'.listener.control
      = .replaying start first (.live sequence payload)) :
    ∃ b, s'.received = some b ∧ (sequence, payload) = numbered batch b := by
  rcases Net.step_eq_some hstep with ⟨ev, l, hev, hl, rfl⟩
  dsimp only at hcontrol ⊢
  cases event with
  | live generation number window =>
      rcases live_event hev with ⟨rfl, -, hnumber, -⟩
      have hmove := (live_move hnumber hl).2
      rw [Listener.step_of_move hmove] at hl
      injection hl with hl
      rw [← hl] at hcontrol
      -- a replay that begins now is begun by the batch just received
      have hresume := receiveBatch_resume hcontrol
      injection hresume with hseq hpayload
      exact ⟨_, rfl, by rw [hseq, hpayload]; rfl⟩
  | answer =>
      unfold Net.event at hev
      rcases Option.map_eq_some_iff.mp hev with ⟨r, hr, rfl⟩
      rcases frames_move hl with ⟨start', first', resume', hcontrol', hmove⟩
      rw [Listener.step_of_move hmove] at hl
      injection hl with hl
      -- a replay that goes on waits with the same batch, and one that ends
      -- with none
      rw [← hl, receiveReply_frames hne (h.inRange r hr)] at hcontrol
      split at hcontrol
      case isTrue =>
        injection hcontrol with hstart hfirst hresume
        rw [hresume] at hcontrol'
        exact h.pending _ _ _ _ hcontrol'
      case isFalse =>
        dsimp only at hcontrol
        rw [finishReplay_control] at hcontrol
        cases hcontrol
  | timeout =>
      injection hev with hev
      subst hev
      rcases timeout_move hl with ⟨start', first', resume', -, hmove⟩
      rw [Listener.step_of_move hmove] at hl
      injection hl with hl
      rw [← hl] at hcontrol
      dsimp only at hcontrol
      rw [finishReplay_control] at hcontrol
      cases hcontrol
  | metrics samples =>
      injection hev with hev
      subst hev
      injection hl with hl
      rw [← hl] at hcontrol
      exact h.pending _ _ _ _ hcontrol

/-- A reply stays within the numbers a frame can carry. -/
theorem Net.Wf.inRange_step {s s' : Net} (h : s.Wf batch decode)
    {event : NetEvent}
    (hstep : s.step batch decode replayEndpoint event = some s') {r : Reply}
    (hr : s'.reply = some r) : r.hi ≤ 2 ^ 63 := by
  rcases Net.step_eq_some hstep with ⟨ev, l, hev, -, rfl⟩
  dsimp only at hr
  cases event with
  | live generation number window =>
      rcases live_event hev with ⟨-, -, -, hcovers⟩
      unfold Net.nextReply at hr
      dsimp only at hr
      split at hr
      · injection hr with hr
        rw [← hr]
        exact hcovers.1
      · cases hr
  | answer =>
      rcases Option.map_eq_some_iff.mp hr with ⟨r', hr', rfl⟩
      exact h.inRange r' hr'
  | timeout => cases hr
  | metrics samples => exact h.inRange r hr

/-- Every event keeps a state well-formed. -/
theorem Net.Wf.step (hne : ∀ g n, batch g n ≠ []) {s s' : Net}
    (h : s.Wf batch decode) {event : NetEvent}
    (hstep : s.step batch decode replayEndpoint event = some s') :
    s'.Wf batch decode where
  refines := by
    rcases Net.step_eq_some hstep with ⟨ev, l, hev, hl, rfl⟩
    show Refines decode l.entry _
    rw [record_numbered (h.applied hne hev hl)]
    exact h.refines.step hl
  pending := fun _ _ _ _ hcontrol => h.pending_step hne hstep hcontrol
  inRange := fun _ hr => h.inRange_step hstep hr

-- ================================================== conditioned steps

/-- The sequence of an entry whose history is a prefix. -/
theorem Refines.lastSequence_prefix {e : NodeEntry} {generation k : ℕ}
    (h : Refines decode e ((segment generation 0 k).map (numbered batch))) :
    e.lastSequence = if k = 0 then none else some ((k : ℤ) - 1) := by
  rw [h.lastSequence, List.getLast?_map, getLast?_segment]
  cases k with
  | zero => rfl
  | succ k =>
      show some ((k : ℕ) : ℤ) = some (((k + 1 : ℕ) : ℤ) - 1)
      push_cast
      rw [add_sub_cancel_right]

theorem filter_newer {e : NodeEntry} {b : ℤ × Bytes} (h : e.isNewer b.1 = true) :
    ((some b).toList.filter fun b => e.isNewer b.1) = [b] := by
  simp [h]

theorem filter_duplicate {e : NodeEntry} {b : ℤ × Bytes}
    (h : e.isNewer b.1 = false) :
    ((some b).toList.filter fun b => e.isNewer b.1) = [] := by
  simp [h]

/-- A prefix that includes the batch just received. -/
theorem Net.caught_of_prefix {s : Net} {generation number k : ℕ}
    (hcontrol : s.listener.control = .receiving)
    (hreceived : s.received = some (generation, number)) (hk : number < k)
    (hhistory : s.history = segment generation 0 k) :
    s.HistoryInv ∧ (s.listener.control = .receiving → s.Caught) := by
  refine ⟨?_, fun _ g n h => ?_⟩
  · unfold HistoryInv
    rw [hcontrol]
    exact ⟨generation, k, hhistory⟩
  · rw [hreceived] at h
    injection h with h
    injection h with hg hn
    subst hg
    subst hn
    exact ⟨k, hk, hhistory⟩

/-- A batch that starts a history over. -/
theorem Net.caught_first {s : Net} {generation : ℕ}
    (hreceived : s.received = some (generation, 0))
    (hcontrol : s.listener.control = .receiving)
    (hhistory : s.history = [(generation, 0)]) :
    s.HistoryInv ∧ (s.listener.control = .receiving → s.Caught) :=
  Net.caught_of_prefix hcontrol hreceived Nat.zero_lt_one hhistory

/-- What an event that the listener moves on does to a state it leaves
healthy. -/
structure Net.Moved (s s' : Net) (event : NetEvent) (mc : Move × Control) :
    Prop where
  quiet : mc.1.degrade = false
  control : s'.listener.control = mc.2
  reply : s'.reply = s.nextReply mc.2 event
  received : s'.received = s.nextReceived event
  history : s'.history = (if mc.1.reset then [] else s.history)
    ++ (mc.1.batch.toList.filter fun b =>
      (s.listener.entry.restartIf mc.1.reset).isNewer b.1).map
        fun _ => s.tag event

theorem Net.moved {s s' : Net} {event : NetEvent} {ev : NodeEvent}
    {l : Listener} {mc : Move × Control}
    (hmove : s.listener.move replayEndpoint ev = some mc)
    (hl : s.listener.step decode replayEndpoint ev = some l)
    (hs : s' = { listener := l
                 reply := s.nextReply l.control event
                 received := s.nextReceived event
                 history := s.listener.record decode replayEndpoint ev
                   (fun _ => s.tag event) s.history })
    (hhealthy : s'.listener.entry.gpuCatalogStatus = .healthy) :
    s.Moved s' event mc := by
  subst hs
  rcases Listener.record_healthy hmove hl hhealthy (fun _ => s.tag event)
    s.history with ⟨hquiet, hrecord⟩
  rw [Listener.step_of_move hmove] at hl
  injection hl with hl
  have hcontrol : l.control = mc.2 := by rw [← hl]
  exact {
    quiet := hquiet
    control := hcontrol
    reply := congrArg (s.nextReply · event) hcontrol
    received := rfl
    history := hrecord }

section Live

variable {s s' : Net} {generation number : ℕ} {window : Window}

/-- No sequence yet: anything but batch 0 degrades. -/
theorem Net.Moved.live_none
    (h : s.Moved s' (.live generation number window)
      (s.listener.entry.receiveBatch replayEndpoint number
        (batch generation number)))
    (hlast : s.listener.entry.lastSequence = none)
    (hhistory : s.history = []) :
    s'.HistoryInv ∧ (s'.listener.control = .receiving → s'.Caught) := by
  rw [receiveBatch_none hlast] at h
  have hzero : number = 0 := by
    have hle := of_decide_eq_false h.quiet
    omega
  subst hzero
  have hnewer : s.listener.entry.isNewer ((0 : ℕ) : ℤ) = true := by
    unfold NodeEntry.isNewer
    rw [hlast]
  refine Net.caught_first h.received h.control ?_
  rw [h.history, NodeEntry.restartIf_false, filter_newer hnewer, hhistory]
  rfl

/-- A recognised restart starts the history over. -/
theorem Net.Moved.live_restart {p : ℤ}
    (h : s.Moved s' (.live generation 0 window)
      (s.listener.entry.receiveBatch replayEndpoint ((0 : ℕ) : ℤ)
        (batch generation 0)))
    (hlast : s.listener.entry.lastSequence = some p) (hp : 0 < p) :
    s'.HistoryInv ∧ (s'.listener.control = .receiving → s'.Caught) := by
  rw [Nat.cast_zero, receiveBatch_restart hlast hp] at h
  refine Net.caught_first h.received h.control ?_
  have hhistory := h.history
  rw [filter_newer (by rfl)] at hhistory
  exact hhistory

/-- A batch that continues the prefix or repeats part of it. -/
theorem Net.Moved.live_next {k : ℕ}
    (h : s.Moved s' (.live generation number window)
      (s.listener.entry.receiveBatch replayEndpoint number
        (batch generation number)))
    (hlast : s.listener.entry.lastSequence = some (k : ℤ))
    (hrestart : ¬ ((number : ℤ) = 0 ∧ 0 < (k : ℤ)))
    (hle : (number : ℤ) ≤ k + 1)
    (hhistory : s.history = segment generation 0 (k + 1)) :
    s'.HistoryInv ∧ (s'.listener.control = .receiving → s'.Caught) := by
  rw [receiveBatch_next hlast hrestart hle] at h
  have htag := h.history
  dsimp only at htag
  rw [NodeEntry.restartIf_false, if_neg Bool.false_ne_true, hhistory] at htag
  by_cases hnew : number = k + 1
  · subst hnew
    have hnewer : s.listener.entry.isNewer ((k + 1 : ℕ) : ℤ) = true := by
      rw [NodeEntry.isNewer_iff]
      intro previous hprevious
      rw [hlast] at hprevious
      injection hprevious with hprevious
      omega
    refine Net.caught_of_prefix h.control h.received (Nat.lt_succ_self _) ?_
    rw [htag, filter_newer hnewer]
    exact segment_concat (Nat.zero_le _)
  · have hold : s.listener.entry.isNewer (number : ℤ) = false := by
      unfold NodeEntry.isNewer
      rw [hlast]
      show (!decide ((number : ℤ) ≤ k)) = false
      rw [decide_eq_true (by omega)]
      rfl
    refine Net.caught_of_prefix h.control h.received
      (by omega : number < k + 1) ?_
    rw [htag, filter_duplicate hold]
    exact List.append_nil _

/-- A batch beyond a gap has the listener request a replay: the history is
the prefix before the requested start. -/
theorem Net.Moved.live_gap {k : ℕ}
    (h : s.Moved s' (.live generation number window)
      (s.listener.entry.receiveBatch true number (batch generation number)))
    (hlast : s.listener.entry.lastSequence = some (k : ℤ))
    (hgap : (k : ℤ) + 1 < number) (hnumber : number < 2 ^ 63)
    (hwindow : window.generation = generation)
    (hcovers : window.Covers generation number)
    (hhistory : s.history = segment generation 0 (k + 1)) :
    s'.HistoryInv ∧ (s'.listener.control = .receiving → s'.Caught) := by
  have hrange : 0 ≤ (k : ℤ) + 1 ∧ (k : ℤ) + 1 < 2 ^ 64 := by
    norm_num at hnumber ⊢
    omega
  rw [receiveBatch_gap hlast hgap, if_pos rfl, if_pos hrange] at h
  refine ⟨?_, fun hreceiving => ?_⟩
  -- the window reaches past the batch, so the reply ends behind the gap
  · rcases hcovers.2 hwindow with ⟨hlo, hhi⟩
    have htag := h.history
    dsimp only at htag
    rw [if_neg Bool.false_ne_true] at htag
    have hstart : ((k : ℤ) + 1).toNat = k + 1 := by omega
    have hnext : (window.reply ((k : ℤ) + 1)).next
        = max window.lo (k + 1) := by
      unfold Window.reply
      rw [hstart]
    unfold HistoryInv
    rw [h.control]
    refine ⟨window.reply ((k : ℤ) + 1), k + 1, max window.lo (k + 1), ?_⟩
    -- nothing of the reply has been applied yet
    exact {
      reply := h.reply
      start := by push_cast; rfl
      le_head := Nat.le_max_right _ _
      le_next := Nat.le_of_eq hnext.symm
      history := by
        rw [htag, hhistory, hnext, segment_self, List.append_nil]
        show segment generation 0 (k + 1) ++ [] = segment window.generation _ _
        rw [hwindow, List.append_nil]
      first := by
        rw [hnext, if_neg (Nat.lt_irrefl _)]
      resume := ⟨by
        show max window.lo (k + 1) < window.hi
        omega, number, by rw [h.received, ← hwindow]; rfl, hhi⟩ }
  · rw [h.control] at hreceiving
    cases hreceiving

/-- After a live batch. -/
theorem Net.live_healthy (hwf : s.Wf batch decode) (hinv : s.Healthy)
    (hok : s.Unmixed replayEndpoint (.live generation number window))
    (hstep : s.step batch decode replayEndpoint
      (.live generation number window) = some s')
    (hhealthy : s'.listener.entry.gpuCatalogStatus = .healthy) :
    s'.HistoryInv ∧ (s'.listener.control = .receiving → s'.Caught) := by
  rcases Net.step_eq_some hstep with ⟨ev, l, hev, hl, hs⟩
  rcases live_event hev with ⟨rfl, -, hnumber, hcovers⟩
  rcases live_move hnumber hl with ⟨hcontrol, hmove⟩
  have hmoved := Net.moved hmove hl hs hhealthy
  have hbefore : s.listener.entry.gpuCatalogStatus = .healthy := by
    subst hs
    exact (Listener.step_healthy hl hhealthy).1
  have hpre := hinv hbefore
  unfold HistoryInv at hpre
  rw [hcontrol] at hpre
  rcases hpre with ⟨g, k, hhistory⟩
  have hrefines := hwf.refines
  rw [hhistory] at hrefines
  have hlast := hrefines.lastSequence_prefix
  cases k with
  | zero => exact hmoved.live_none hlast hhistory
  | succ k =>
      rw [if_neg (Nat.succ_ne_zero k), Nat.cast_succ, add_sub_cancel_right]
        at hlast
      by_cases hrestart : (number : ℤ) = 0 ∧ 0 < (k : ℤ)
      · rcases hrestart with ⟨hzero, hk⟩
        have hzero : number = 0 := by omega
        subst hzero
        exact hmoved.live_restart hlast hk
      · -- not recognised as a restart: of the history's own generation
        have hown : number ≤ (k : ℤ) + 1 ∨ replayEndpoint = true →
            g = generation ∧ ((k : ℤ) + 1 < number →
              window.generation = generation) := by
          intro hcontinue
          have hmixed := hok hbefore
          rw [hlast] at hmixed
          rcases hmixed (by omega) hcontinue with ⟨hall, hwindow⟩
          refine ⟨hall (g, 0) ?_, hwindow⟩
          rw [hhistory]
          exact mem_segment.mpr ⟨rfl, Nat.le_refl 0, Nat.succ_pos k⟩
        by_cases hle : (number : ℤ) ≤ k + 1
        · rcases hown (Or.inl hle) with ⟨rfl, -⟩
          exact hmoved.live_next hlast hrestart hle hhistory
        · cases hend : replayEndpoint with
          | false =>
              -- a gap that nothing can fill degrades
              have hquiet := hmoved.quiet
              rw [receiveBatch_gap hlast (by omega), hend,
                if_neg Bool.false_ne_true] at hquiet
              cases hquiet
          | true =>
              rcases hown (Or.inr hend) with ⟨rfl, hwindow⟩
              rw [hend] at hmoved
              exact hmoved.live_gap hlast (by omega) hnumber
                (hwindow (by omega)) hcovers hhistory

end Live

/-- The next frame of a reply extends what the reply has brought. -/
theorem ReplayState.frame {s : Net} {start : ℤ} {first : Option ℤ}
    {resume : Resume} {r : Reply} {k head : ℕ}
    (h : ReplayState s start first resume r k head) {s' : Net}
    (hreply : s'.reply = some { r with next := r.next + 1 })
    (hreceived : s'.received = s.received)
    (hhistory : s'.history = s.history ++ [(r.generation, r.next)]) :
    ReplayState s' start (some (first.getD r.next)) resume
      { r with next := r.next + 1 } k head where
  reply := hreply
  start := h.start
  le_head := h.le_head
  le_next := Nat.le_succ_of_le h.le_next
  history := by
    rw [hhistory, h.history, List.append_assoc, segment_concat h.le_next]
  first := by
    have hle := h.le_next
    rw [if_pos (Nat.lt_succ_of_le hle), h.first]
    by_cases hlt : head < r.next
    · rw [if_pos hlt]
      rfl
    · have heq : head = r.next := by omega
      rw [if_neg hlt, heq]
      rfl
  resume := by
    rw [hreceived]
    exact h.resume

/-- Every batch of a replay's history is below the next frame. -/
theorem ReplayState.below_next {s : Net} {start : ℤ} {first : Option ℤ}
    {resume : Resume} {r : Reply} {k head : ℕ}
    (h : ReplayState s start first resume r k head) :
    ∀ b ∈ s.history.map (numbered batch), b.1 < (r.next : ℤ) := by
  intro b hb
  rcases List.mem_map.mp hb with ⟨b', hb', rfl⟩
  have hhead := h.le_head
  have hnext := h.le_next
  rw [h.history] at hb'
  show (b'.2 : ℤ) < r.next
  rcases List.mem_append.mp hb' with hb' | hb'
  · have hlt := (mem_segment.mp hb').2.2
    omega
  · have hlt := (mem_segment.mp hb').2.2
    omega

/-- A reply that is complete leaves a prefix: it brought nothing to a first
replay, or it joined the prefix before the request. -/
theorem ReplayState.complete {s : Net} {start : ℤ} {first : Option ℤ}
    {resume : Resume} {r : Reply} {k head : ℕ}
    (h : ReplayState s start first resume r k head) (hend : r.hi ≤ r.next)
    (hok : replayComplete start first = true) :
    (resume = .initial ∧ s.received = none ∧ s.history = [])
      ∨ s.history = segment r.generation 0 r.next := by
  have hhead := h.le_head
  have hnext := h.le_next
  have hfirst := h.first
  by_cases hlt : head < r.next
  · rw [if_pos hlt] at hfirst
    rw [hfirst, h.start] at hok
    have hle : (head : ℤ) ≤ k := of_decide_eq_true hok
    have heq : head = k := by omega
    refine Or.inr ?_
    rw [h.history, heq, segment_append (Nat.zero_le k) (by omega)]
  · have heq : head = r.next := by omega
    have hresume := h.resume
    cases resume with
    | initial =>
        refine Or.inl ⟨rfl, hresume.2, ?_⟩
        rw [h.history, hresume.1, heq, segment_self, segment_self]
        rfl
    | live sequence payload =>
        have hlt' := hresume.1
        omega

/-- A frame of a reply: newer than all of the history. -/
theorem ReplayState.frame_healthy {s s' : Net} {start : ℤ} {first : Option ℤ}
    {resume : Resume} {r : Reply} {k head : ℕ}
    (hreplay : ReplayState s start first resume r k head)
    (hwf : s.Wf batch decode) (hnext : r.next < r.hi)
    (h : s.Moved s' .answer
      ({ batch := some (numbered batch (r.generation, r.next)) },
        .replaying start (some (first.getD r.next)) resume)) :
    s'.HistoryInv ∧ (s'.listener.control = .receiving → s'.Caught) := by
  have htag : s.tag .answer = (r.generation, r.next) := by
    unfold Net.tag
    rw [hreplay.reply]
    dsimp only
    rw [if_pos hnext]
  have hnewer : s.listener.entry.isNewer (r.next : ℤ) = true :=
    hwf.refines.isNewer_of_lt hreplay.below_next
  have hhistory := h.history
  dsimp only at hhistory
  rw [if_neg Bool.false_ne_true, NodeEntry.restartIf_false,
    filter_newer hnewer, htag] at hhistory
  have hreply : s'.reply = some { r with next := r.next + 1 } := by
    rw [h.reply]
    show s.reply.map _ = _
    rw [hreplay.reply]
    rfl
  refine ⟨?_, fun hreceiving => ?_⟩
  · unfold Net.HistoryInv
    rw [h.control]
    exact ⟨{ r with next := r.next + 1 }, k, head,
      hreplay.frame hreply h.received hhistory⟩
  · rw [h.control] at hreceiving
    cases hreceiving

/-- A prefix, where no live batch has been received. -/
theorem Net.caught_before_live {s : Net} {generation k : ℕ}
    (hcontrol : s.listener.control = .receiving) (hreceived : s.received = none)
    (hhistory : s.history = segment generation 0 k) :
    s.HistoryInv ∧ (s.listener.control = .receiving → s.Caught) := by
  refine ⟨?_, fun _ g n h => ?_⟩
  · unfold HistoryInv
    rw [hcontrol]
    exact ⟨generation, k, hhistory⟩
  · rw [hreceived] at h
    cases h

/-- The end of a first replay. -/
theorem ReplayState.finish_initial {s s' : Net} {start : ℤ}
    {first : Option ℤ} {r : Reply} {k head : ℕ} {ok : Bool}
    (hreplay : ReplayState s start first .initial r k head)
    (hpre : s.history = [] ∨ s.history = segment r.generation 0 r.next)
    (h : s.Moved s' .answer (finishReplay .initial ok)) :
    s'.HistoryInv ∧ (s'.listener.control = .receiving → s'.Caught) := by
  have hreceived : s'.received = none := h.received.trans hreplay.resume.2
  have hhistory : s'.history = s.history :=
    h.history.trans (List.append_nil _)
  rcases hpre with hempty | hpre
  · have hnone : s'.history = segment 0 0 0 := hhistory.trans hempty
    exact Net.caught_before_live h.control hreceived hnone
  · exact Net.caught_before_live h.control hreceived (hhistory.trans hpre)

/-- The end of a replay for a live batch: the batch was part of it. -/
theorem ReplayState.finish_live {s s' : Net} {start sequence : ℤ}
    {first : Option ℤ} {payload : Bytes} {r : Reply} {k head : ℕ} {ok : Bool}
    (hreplay : ReplayState s start first (.live sequence payload) r k head)
    (hwf : s.Wf batch decode) (hend : r.hi ≤ r.next)
    (hcontrol : s.listener.control
      = .replaying start first (.live sequence payload))
    (hpre : s.history = segment r.generation 0 r.next)
    (h : s.Moved s' .answer (finishReplay (.live sequence payload) ok)) :
    s'.HistoryInv ∧ (s'.listener.control = .receiving → s'.Caught) := by
  rcases hreplay.resume with ⟨-, n, hreceived, hn⟩
  -- the batch that waits is the one received last, which the reply went past
  have hsequence : sequence = n := by
    rcases hwf.pending _ _ _ _ hcontrol with ⟨b, hb, heq⟩
    rw [hreceived] at hb
    injection hb with hb
    rw [← hb] at heq
    injection heq with hseq hpayload
  have hlast : numbered batch (r.generation, r.next - 1)
      ∈ s.history.map (numbered batch) := by
    refine List.mem_map_of_mem ?_
    rw [hpre]
    exact mem_segment.mpr ⟨rfl, Nat.zero_le _, by
      show r.next - 1 < r.next
      omega⟩
  -- so it is not newer than what the replay has applied
  have hold : s.listener.entry.isNewer sequence = false := by
    refine hwf.refines.not_isNewer hlast ?_
    show sequence ≤ ((r.next - 1 : ℕ) : ℤ)
    rw [hsequence]
    omega
  have hhistory := h.history
  unfold finishReplay at hhistory
  dsimp only at hhistory
  rw [if_neg Bool.false_ne_true, NodeEntry.restartIf_false,
    filter_duplicate hold, hpre, List.map_nil, List.append_nil] at hhistory
  exact Net.caught_of_prefix h.control (h.received.trans hreceived)
    (by omega : n < r.next) hhistory

/-- A replay whose end degrades nothing has passed the success test. -/
theorem finishReplay_quiet {resume : Resume} {ok : Bool}
    (h : (finishReplay resume ok).1.degrade = false) : ok = true := by
  cases resume <;> simpa [finishReplay] using h

/-- After a frame of a reply, or its END. -/
theorem Net.answer_healthy (hne : ∀ g n, batch g n ≠ []) {s s' : Net}
    (hwf : s.Wf batch decode) (hinv : s.Healthy)
    (hstep : s.step batch decode replayEndpoint .answer = some s')
    (hhealthy : s'.listener.entry.gpuCatalogStatus = .healthy) :
    s'.HistoryInv ∧ (s'.listener.control = .receiving → s'.Caught) := by
  rcases Net.step_eq_some hstep with ⟨ev, l, hev, hl, hs⟩
  rcases Option.map_eq_some_iff.mp hev with ⟨r, hr, rfl⟩
  rcases frames_move hl with ⟨start, first, resume, hcontrol, hmove⟩
  rw [receiveReply_frames hne (hwf.inRange r hr)] at hmove
  have hmoved := Net.moved hmove hl hs hhealthy
  have hreplay : s.HistoryInv := hinv (by
    subst hs
    exact (Listener.step_healthy hl hhealthy).1)
  unfold HistoryInv at hreplay
  rw [hcontrol] at hreplay
  rcases hreplay with ⟨r', k, head, hreplay⟩
  -- the reply on the way is the one that was requested
  have hsame : r' = r := by
    have hreply := hreplay.reply
    rw [hr] at hreply
    injection hreply with hreply
    exact hreply.symm
  subst hsame
  by_cases hnext : r'.next < r'.hi
  · rw [if_pos hnext] at hmoved
    exact hreplay.frame_healthy hwf hnext hmoved
  · rw [if_neg hnext] at hmoved
    have hend : r'.hi ≤ r'.next := Nat.le_of_not_lt hnext
    have hcomplete := hreplay.complete hend (finishReplay_quiet hmoved.quiet)
    -- at its end the history is the prefix that was published when it was
    -- answered, or the replay was the first one and had no batch at all
    cases resume with
    | initial =>
        exact hreplay.finish_initial
          (hcomplete.imp_left fun h => h.2.2) hmoved
    | live sequence payload =>
        rcases hcomplete with ⟨hresume, -⟩ | hpre
        · cases hresume
        · exact hreplay.finish_live hwf hend hcontrol hpre hmoved

/-- A replay that timed out degrades the node. -/
theorem Net.timeout_degraded {s s' : Net}
    (hstep : s.step batch decode replayEndpoint .timeout = some s') :
    s'.listener.entry.gpuCatalogStatus = .degraded := by
  rcases Net.step_eq_some hstep with ⟨ev, l, hev, hl, rfl⟩
  injection hev with hev
  subst hev
  rcases timeout_move hl with ⟨start, first, resume, -, hmove⟩
  rw [Listener.step_of_move hmove] at hl
  injection hl with hl
  dsimp only
  rw [← hl]
  dsimp only
  rw [NodeEntry.act_status]
  cases resume <;> rfl

/-- After a metrics page. -/
theorem Net.metrics_healthy {s s' : Net} (hinv : s.Healthy)
    {samples : List ℚ}
    (hok : s.Unmixed replayEndpoint (.metrics samples))
    (hstep : s.step batch decode replayEndpoint (.metrics samples) = some s')
    (hhealthy : s'.listener.entry.gpuCatalogStatus = .healthy) :
    s'.HistoryInv := by
  rcases Net.step_eq_some hstep with ⟨ev, l, hev, hl, rfl⟩
  injection hev with hev
  subst hev
  have hbefore := (Listener.step_healthy hl hhealthy).1
  have hold := hinv hbefore
  have hkeep := hok hbefore
  have hcontrol : l.control = s.listener.control := by
    injection hl with hl
    rw [← hl]
  -- a page applies nothing; if the start time has changed it clears what was
  -- applied
  have hrec : s.listener.record decode replayEndpoint (.metrics samples)
      (fun _ => s.tag (.metrics samples)) s.history
      = if s.listener.entry.startChanged samples then [] else s.history := by
    unfold Listener.record Listener.applied
    rw [Listener.move_metrics]
    exact List.append_nil _
  unfold HistoryInv at hold ⊢
  dsimp only
  rw [hcontrol, hrec]
  cases hc : s.listener.control with
  | receiving =>
      rw [hc] at hold
      rcases hold with ⟨g, k, hhistory⟩
      dsimp only
      split
      · exact ⟨g, 0, (segment_self g 0).symm⟩
      · exact ⟨g, k, hhistory⟩
  | replaying start first resume =>
      rw [hc] at hold
      rcases hold with ⟨r, k, head, hreplay⟩
      refine ⟨r, k, head, ?_⟩
      -- during a replay no page clears: that would mix generations
      rw [hkeep (by rw [hc]; simp), if_neg Bool.false_ne_true]
      exact { hreplay with }
  | stopped => trivial

/-- What a conditioned step leaves a healthy node with; and if it ends the
handling of a live batch, the node has caught up with it. -/
theorem Net.healthy_step (hne : ∀ g n, batch g n ≠ []) {s s' : Net}
    (hwf : s.Wf batch decode) (hinv : s.Healthy) {event : NetEvent}
    (hok : s.Unmixed replayEndpoint event)
    (hstep : s.step batch decode replayEndpoint event = some s')
    (hhealthy : s'.listener.entry.gpuCatalogStatus = .healthy) :
    s'.HistoryInv ∧ (s'.listener.control = .receiving →
      (∀ samples, event ≠ .metrics samples) → s'.Caught) := by
  cases event with
  | live generation number window =>
      rcases Net.live_healthy hwf hinv hok hstep hhealthy with ⟨hinv', hcaught⟩
      exact ⟨hinv', fun hreceiving _ => hcaught hreceiving⟩
  | answer =>
      rcases Net.answer_healthy hne hwf hinv hstep hhealthy with
        ⟨hinv', hcaught⟩
      exact ⟨hinv', fun hreceiving _ => hcaught hreceiving⟩
  | timeout =>
      rw [Net.timeout_degraded hstep] at hhealthy
      cases hhealthy
  | metrics samples =>
      exact ⟨Net.metrics_healthy hinv hok hstep hhealthy,
        fun _ hmetrics => absurd rfl (hmetrics samples)⟩

-- ==================================================== conditioned runs

/-- The network starts well formed -/
theorem Net.init_wf (node : NodeState) {window : Window}
    (hwindow : window.hi ≤ 2 ^ 63) :
    (Net.init replayEndpoint node window).Wf batch decode := by
  refine ⟨refines_fresh node, ?_, ?_⟩
  · intro start first sequence payload h
    cases replayEndpoint <;> cases h
  · intro r hr
    cases replayEndpoint with
    | false => cases hr
    | true =>
        injection hr with hr
        rw [← hr]
        exact hwindow

theorem Net.init_healthy (node : NodeState) (window : Window) :
    (Net.init replayEndpoint node window).Healthy := by
  intro _
  cases replayEndpoint with
  | false => exact ⟨0, 0, rfl⟩
  | true =>
      refine ⟨window.reply 0, 0, (window.reply 0).next, ?_⟩
      exact {
        reply := rfl
        start := rfl
        le_head := Nat.zero_le _
        le_next := Nat.le_refl _
        history := by rw [segment_self, segment_self]; rfl
        first := by rw [if_neg (Nat.lt_irrefl _)]
        resume := ⟨rfl, rfl⟩ }

/-- Every state of a conditioned run is well-formed and, while healthy,
holds a prefix. -/
theorem Net.run_healthy (hne : ∀ g n, batch g n ≠ []) {node : NodeState}
    {window : Window} (hwindow : window.hi ≤ 2 ^ 63) {events : List NetEvent}
    {s : Net}
    (hok : Lts.Along (Net.step batch decode replayEndpoint)
      (Net.Unmixed replayEndpoint) (Net.init replayEndpoint node window) events)
    (hrun : Lts.run (Net.step batch decode replayEndpoint)
      (Net.init replayEndpoint node window) events = some s) :
    s.Wf batch decode ∧ s.Healthy := by
  refine Lts.run_invariant (I := fun s : Net => s.Wf batch decode ∧ s.Healthy)
    ?_ ⟨Net.init_wf node hwindow, Net.init_healthy node window⟩ hok hrun
  intro s₁ event s₂ hinv hstepOk hstep
  exact ⟨hinv.1.step hne hstep, fun hhealthy =>
    (Net.healthy_step hne hinv.1 hinv.2 hstepOk hstep hhealthy).1⟩

/-- When the catalog never mixes two generations. In every run whose steps
all meet `Unmixed`, whenever the listener has finished with a live batch
and the node is healthy: the catalog is what its history leaves, all of
the history is of the generation of that batch, and no batch of that
generation up to it is missing. -/
theorem generations_never_mix (hne : ∀ g n, batch g n ≠ [])
    (node : NodeState) (window : Window) (hwindow : window.hi ≤ 2 ^ 63)
    (events : List NetEvent) (event : NetEvent) (s : Net)
    (hrun : Lts.run (Net.step batch decode replayEndpoint)
      (Net.init replayEndpoint node window) (events ++ [event]) = some s)
    (hok : Lts.Along (Net.step batch decode replayEndpoint)
      (Net.Unmixed replayEndpoint) (Net.init replayEndpoint node window)
      (events ++ [event]))
    (hlistener : ∀ samples, event ≠ .metrics samples)
    (hreceiving : s.listener.control = .receiving)
    (hhealthy : s.listener.entry.gpuCatalogStatus = .healthy)
    (generation number : ℕ)
    (hreceived : s.received = some (generation, number)) :
    s.listener.entry.catalog = GpuCatalog.empty.applyPayloads decode
        (s.history.map fun b => batch b.1 b.2)
      ∧ (∀ b ∈ s.history, b.1 = generation)
      ∧ ∀ m ≤ number, (generation, m) ∈ s.history := by
  rcases Lts.run_concat_eq_some.mp hrun with ⟨s₁, hrun₁, hstep⟩
  rcases (Lts.along_concat hrun₁).mp hok with ⟨hok₁, hstepOk⟩
  rcases Net.run_healthy hne hwindow hok₁ hrun₁ with ⟨hwf, hinv⟩
  rcases (Net.healthy_step hne hwf hinv hstepOk hstep hhealthy).2 hreceiving
    hlistener generation number hreceived with ⟨k, hk, hhistory⟩
  refine ⟨?_, fun b hb => ?_, fun m hm => ?_⟩
  · have hcatalog := (hwf.step hne hstep).refines.catalog
    rw [List.map_map] at hcatalog
    exact hcatalog
  · rw [hhistory] at hb
    exact (mem_segment.mp hb).1
  · rw [hhistory]
    exact mem_segment.mpr ⟨rfl, Nat.zero_le m, by
      show m < k
      omega⟩

/-- A restart that is seen: batch 0 of the next life arrives. -/
theorem generations_apart :
    ∃ s, Lts.run (Net.step rootBlockBatch oneBlockDecode false)
        (Net.init false { nodeId := "a", cacheDomainId := "d" } ⟨0, 0, 0⟩)
        ([.live 0 0 ⟨0, 0, 9⟩, .live 0 1 ⟨0, 0, 9⟩, .live 1 0 ⟨1, 0, 9⟩]
          ++ [.live 1 1 ⟨1, 0, 9⟩]) = some s
      ∧ s.received = some (1, 1) ∧ ∀ m ≤ 1, (1, m) ∈ s.history := by
  have hrun : (Lts.run (Net.step rootBlockBatch oneBlockDecode false)
      (Net.init false { nodeId := "a", cacheDomainId := "d" } ⟨0, 0, 0⟩)
      ([.live 0 0 ⟨0, 0, 9⟩, .live 0 1 ⟨0, 0, 9⟩, .live 1 0 ⟨1, 0, 9⟩]
        ++ [.live 1 1 ⟨1, 0, 9⟩])).map (fun s => (s.listener.control,
          s.listener.entry.gpuCatalogStatus, s.received))
      = some (.receiving, .healthy, some (1, 1)) := by decide
  rcases Option.map_eq_some_iff.mp hrun with ⟨s, hs, hfacts⟩
  injection hfacts with hcontrol hfacts
  injection hfacts with hhealthy hreceived
  exact ⟨s, hs, hreceived, (generations_never_mix
    (fun g n => oneBlockPayload_ne_nil _ _ _ _) _ ⟨0, 0, 0⟩ (by decide) _ _ s hs
    (by decide) (fun samples h => by cases h) hcontrol hhealthy 1 1
    hreceived).2.2⟩

/-- A restart that is not seen: the first two batches of the next life are
lost, and batch 2 continues the old numbers. -/
theorem generations_mixed :
    ∃ s, Lts.run (Net.step rootBlockBatch oneBlockDecode false)
        (Net.init false { nodeId := "a", cacheDomainId := "d" } ⟨0, 0, 0⟩)
        [.live 0 0 ⟨0, 0, 9⟩, .live 0 1 ⟨0, 0, 9⟩, .live 1 2 ⟨1, 0, 9⟩]
        = some s
      ∧ s.listener.control = .receiving
      ∧ s.listener.entry.gpuCatalogStatus = .healthy
      ∧ s.received = some (1, 2)
      ∧ ¬ ((∀ b ∈ s.history, b.1 = 1) ∧ ∀ m < 2, (1, m) ∈ s.history) := by
  have hrun : (Lts.run (Net.step rootBlockBatch oneBlockDecode false)
      (Net.init false { nodeId := "a", cacheDomainId := "d" } ⟨0, 0, 0⟩)
      [.live 0 0 ⟨0, 0, 9⟩, .live 0 1 ⟨0, 0, 9⟩, .live 1 2 ⟨1, 0, 9⟩]
      ).map (fun s => (s.listener.control, s.listener.entry.gpuCatalogStatus,
        s.received, s.history))
      = some (.receiving, .healthy, some (1, 2), [(0, 0), (0, 1), (1, 2)]) := by
    decide
  rcases Option.map_eq_some_iff.mp hrun with ⟨s, hs, hfacts⟩
  injection hfacts with hcontrol hfacts
  injection hfacts with hhealthy hfacts
  injection hfacts with hreceived hhistory
  refine ⟨s, hs, hcontrol, hhealthy, hreceived, ?_⟩
  rw [hhistory]
  decide

-- ======================================================= one generation

/-- An event of the one generation 0, of a process started at `start`. -/
def NetEvent.OneLife (start : ℚ) : NetEvent → Prop
  | .live generation _ window => generation = 0 ∧ window.generation = 0
  | .metrics samples => ∀ sample, samples.getLast? = some sample → sample = start
  | .answer => True
  | .timeout => True

/-- All a state knows is of the one generation. -/
structure Net.OneLife (start : ℚ) (s : Net) : Prop where
  history : ∀ b ∈ s.history, b.1 = 0
  reply : ∀ r, s.reply = some r → r.generation = 0
  received : ∀ b, s.received = some b → b.1 = 0
  start : ∀ known, s.listener.entry.node.processStartTimeSeconds = some known →
    known = start

/-- Within one life of the process every step meets the condition. -/
theorem Net.OneLife.unmixed {start : ℚ} {s : Net} (h : s.OneLife start)
    {event : NetEvent} (hevent : event.OneLife start) :
    s.Unmixed replayEndpoint event := by
  intro _
  cases event with
  | live generation number window =>
      rcases hevent with ⟨rfl, hwindow⟩
      dsimp only
      split
      · trivial
      · exact fun _ _ => ⟨h.history, fun _ => hwindow⟩
  | answer => trivial
  | timeout => trivial
  | metrics samples =>
      intro _
      unfold NodeEntry.startChanged
      cases hlast : samples.getLast? with
      | none => rfl
      | some sample =>
          cases hknown : s.listener.entry.node.processStartTimeSeconds with
          | none => rfl
          | some known =>
              dsimp only
              rw [hevent sample hlast, h.start known hknown]
              exact decide_eq_false fun hdiff => hdiff rfl

/-- In one life every page shows one start time. -/
theorem NetEvent.OneLife.metrics {start : ℚ} {s : Net} {event : NetEvent}
    (h : event.OneLife start) {samples : List ℚ}
    (hev : s.event batch event = some (.metrics samples)) :
    ∀ sample, samples.getLast? = some sample → sample = start := by
  cases event with
  | live generation number window =>
      cases (live_event hev).1
  | answer =>
      rcases Option.map_eq_some_iff.mp hev with ⟨r, -, hr⟩
      cases hr
  | timeout => cases hev
  | metrics samples' =>
      injection hev with hev
      injection hev with hev
      subst hev
      exact h

/-- In one life every batch is of one generation. -/
theorem Net.OneLife.tag {start : ℚ} {s : Net} (h : s.OneLife start)
    {event : NetEvent} (hevent : event.OneLife start) :
    (s.tag event).1 = 0 := by
  have hreceived : (s.received.getD (0, 0)).1 = 0 := by
    cases hr : s.received with
    | none => rfl
    | some b => exact h.received b hr
  cases event with
  | live generation number window => exact hevent.1
  | answer =>
      unfold Net.tag
      cases hr : s.reply with
      | none => rfl
      | some r =>
          dsimp only
          split
          · exact h.reply r hr
          · exact hreceived
  | timeout => exact hreceived
  | metrics samples => exact hreceived

/-- What is on the way stays of one generation as long as nothing restarts. -/
theorem Net.OneLife.step {start : ℚ} {s s' : Net} (h : s.OneLife start)
    {event : NetEvent} (hevent : event.OneLife start)
    (hstep : s.step batch decode replayEndpoint event = some s') :
    s'.OneLife start := by
  rcases Net.step_eq_some hstep with ⟨ev, l, hev, hl, rfl⟩
  refine ⟨?_, ?_, ?_, ?_⟩
  · intro b hb
    -- what is applied now was received now, with the generation of the event
    unfold Listener.record at hb
    rcases List.mem_append.mp hb with hb | hb
    · split at hb
      · cases hb
      · exact h.history b hb
    · rcases List.mem_map.mp hb with ⟨-, -, rfl⟩
      exact h.tag hevent
  · intro r hr
    cases event with
    | live generation number window =>
        dsimp only [Net.nextReply] at hr
        split at hr
        · injection hr with hr
          rw [← hr]
          exact hevent.2
        · cases hr
    | answer =>
        -- a reply goes on with what is left of it
        rcases Option.map_eq_some_iff.mp hr with ⟨r', hr', rfl⟩
        exact h.reply r' hr'
    | timeout => cases hr
    | metrics samples => exact h.reply r hr
  · intro b hb
    cases event with
    | live generation number window =>
        injection hb with hb
        rw [← hb]
        exact hevent.1
    | answer => exact h.received b hb
    | timeout => exact h.received b hb
    | metrics samples => exact h.received b hb
  · intro known hknown
    dsimp only at hknown
    rcases Listener.step_cases hl with
      ⟨mc, -, rfl, -⟩ | ⟨samples, rfl, rfl⟩ | ⟨node, hnode, rfl, -, -⟩
    -- only a page sets the start time
    · rw [NodeEntry.act_processStart] at hknown
      exact h.start known hknown
    · dsimp only at hknown
      rw [NodeEntry.updateProcessStart_processStart] at hknown
      cases hlast : samples.getLast? with
      | none =>
          rw [hlast] at hknown
          exact h.start known hknown
      | some sample =>
          rw [hlast] at hknown
          injection hknown with hknown
          rw [← hknown]
          exact hevent.metrics hev sample hlast
    · dsimp only at hknown
      rw [hnode] at hknown
      exact h.start known hknown

variable (replayEndpoint) in
theorem Net.init_oneLife {node : NodeState} {window : Window} {start : ℚ}
    (hnode : ∀ known, node.processStartTimeSeconds = some known →
      known = start) (hwindow : window.generation = 0) :
    (Net.init replayEndpoint node window).OneLife start := by
  refine ⟨fun b hb => (by cases hb), ?_, fun b hb => (by cases hb), hnode⟩
  intro r hr
  cases replayEndpoint with
  | false => cases hr
  | true =>
      injection hr with hr
      rw [← hr]
      exact hwindow

/-- The payloads of a prefix of a generation. -/
theorem map_segment (batch : ℕ → ℕ → Bytes) (generation k : ℕ) :
    ((segment generation 0 k).map (numbered batch)).map Prod.snd
      = (List.range k).map (batch generation) := by
  unfold segment
  rw [Nat.sub_zero, ← List.range_eq_range', List.map_map, List.map_map]
  rfl

theorem map_segment_zero (payload : ℕ → Bytes) (k : ℕ) :
    ((segment 0 0 k).map (numbered fun _ => payload)).map Prod.snd
      = (List.range k).map payload :=
  map_segment (fun _ => payload) 0 k

end Batch

/-- The sequence protocol refines the event log. Within one life of the
vLLM process, from a fresh node, whatever the SUB socket loses, however
much of the log a replay still finds and wherever it is cut short:
whenever the listener waits for a live batch and the node is healthy, its
catalog is what batches 0 to `last_sequence` leave, each applied once and
in order, and empty where there is no last sequence. -/
theorem sequence_refines_log (payload : ℕ → Bytes)
    (decode : Bytes → Option RawMapEventBatch) (replayEndpoint : Bool)
    (hne : ∀ n, payload n ≠ []) (node : NodeState) (start : ℚ)
    (hnode : ∀ known, node.processStartTimeSeconds = some known →
      known = start)
    (window : Window) (hwindow : window.generation = 0 ∧ window.hi ≤ 2 ^ 63)
    (events : List NetEvent) (hevents : ∀ event ∈ events, event.OneLife start)
    (s : Net)
    (hrun : Lts.run (Net.step (fun _ => payload) decode replayEndpoint)
      (Net.init replayEndpoint node window) events = some s)
    (hreceiving : s.listener.control = .receiving)
    (hhealthy : s.listener.entry.gpuCatalogStatus = .healthy) :
    (s.listener.entry.lastSequence = none
        ∧ s.listener.entry.catalog = .empty)
      ∨ ∃ n : ℕ, s.listener.entry.lastSequence = some (n : ℤ)
        ∧ s.listener.entry.catalog = GpuCatalog.empty.applyPayloads decode
          ((List.range (n + 1)).map payload) := by
  have hne' : ∀ g n, (fun _ : ℕ => payload) g n ≠ [] := fun _ n => hne n
  have hinit := Net.init_oneLife replayEndpoint hnode hwindow.1
  have hstep : ∀ s₁ event s₂, s₁.OneLife start → event.OneLife start →
      Net.step (fun _ => payload) decode replayEndpoint s₁ event = some s₂ →
      s₂.OneLife start := fun s₁ event s₂ h hevent hs => h.step hevent hs
  -- in one life no page and no reply is of another generation, so the run is
  -- one in which generations are not mixed
  have hok : Lts.Along (Net.step (fun _ => payload) decode replayEndpoint)
      (Net.Unmixed replayEndpoint) (Net.init replayEndpoint node window)
      events :=
    Lts.Along.imp_of_invariant hstep (fun s₁ event h hevent => h.unmixed hevent)
      hinit (Lts.along_of_forall hevents _)
  have hlife := Lts.run_invariant hstep hinit (Lts.along_of_forall hevents _)
    hrun
  rcases Net.run_healthy hne' hwindow.2 hok hrun with ⟨hwf, hinv⟩
  -- so a healthy node that is not replaying holds a prefix of one generation
  have hpre := hinv hhealthy
  unfold Net.HistoryInv at hpre
  rw [hreceiving] at hpre
  rcases hpre with ⟨g, k, hhistory⟩
  have hrefines := hwf.refines
  rw [hhistory] at hrefines
  have hlast := hrefines.lastSequence_prefix
  cases k with
  | zero => exact Or.inl ⟨hlast, hrefines.catalog⟩
  | succ k =>
      -- whose generation is the only one there is
      have hg : g = 0 := by
        refine hlife.history (g, 0) ?_
        rw [hhistory]
        exact mem_segment.mpr ⟨rfl, Nat.le_refl 0, Nat.succ_pos k⟩
      subst hg
      refine Or.inr ⟨k, ?_, ?_⟩
      · rw [hlast, if_neg (Nat.succ_ne_zero k)]
        congr 1
        push_cast
        exact add_sub_cancel_right _ _
      · rw [hrefines.catalog, map_segment_zero]

/-- A first replay of batches 0 and 1, then a gap up to batch 3 that a
replay closes, running on to batch 4. -/
theorem sequence_refines_log_gap :
    ∃ s, Lts.run (Net.step (fun _ => rootBlockBatch 0) oneBlockDecode true)
        (Net.init true { nodeId := "a", cacheDomainId := "d" } ⟨0, 0, 2⟩)
        [.answer, .answer, .answer, .live 0 3 ⟨0, 1, 5⟩, .answer, .answer,
          .answer, .answer] = some s
      ∧ s.listener.entry.lastSequence = some 4
      ∧ s.listener.entry.catalog = GpuCatalog.empty.applyPayloads
        oneBlockDecode ((List.range 5).map (rootBlockBatch 0)) := by
  have hrun : (Lts.run
      (Net.step (fun _ => rootBlockBatch 0) oneBlockDecode true)
      (Net.init true { nodeId := "a", cacheDomainId := "d" } ⟨0, 0, 2⟩)
      [.answer, .answer, .answer, .live 0 3 ⟨0, 1, 5⟩, .answer, .answer,
        .answer, .answer]).map (fun s => (s.listener.control,
          s.listener.entry.gpuCatalogStatus, s.listener.entry.lastSequence))
      = some (.receiving, .healthy, some 4) := by decide
  rcases Option.map_eq_some_iff.mp hrun with ⟨s, hs, hfacts⟩
  injection hfacts with hcontrol hfacts
  injection hfacts with hhealthy hlast
  refine ⟨s, hs, hlast, ?_⟩
  rcases sequence_refines_log (rootBlockBatch 0) oneBlockDecode true
    (fun n => oneBlockPayload_ne_nil _ _ _ _)
    { nodeId := "a", cacheDomainId := "d" } 0 (by simp) ⟨0, 0, 2⟩ (by decide)
    _ (by simp [NetEvent.OneLife]) s hs hcontrol hhealthy
    with ⟨hnone, -⟩ | ⟨n, hsome, hcatalog⟩
  · rw [hlast] at hnone
    cases hnone
  · rw [hlast] at hsome
    injection hsome with hn
    have hn : n = 4 := by omega
    subst hn
    exact hcatalog

end Kareserve
