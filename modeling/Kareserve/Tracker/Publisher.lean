/-
One vLLM publisher and the listener that follows it.

# What the sockets deliver

`batch g n` is the payload of batch `n` of generation `g`: a generation
is one life of the vLLM process, and each numbers its batches from 0. The
SUB socket delivers them in order and may lose any of them. A replay is
answered from a retained window of one generation: the batches from the
requested start on, in order, then END, or a timeout at any point.
Between these, metrics pages may be read.

# Ghosts

`received` is the last live batch, `history` the batches applied since
the catalog was last cleared (Tracker/History.lean), by generation and
number. Neither is read by any guard on what the listener does.
-/
import Kareserve.Tracker.History

namespace Kareserve

/-- A batch, by generation and number. -/
abbrev BatchId := ℕ × ℕ

/-- What a replay endpoint retains: batches `lo` to `hi - 1`. -/
structure Window where
  generation : ℕ
  lo : ℕ
  hi : ℕ
  deriving DecidableEq

/-- What is left of a reply: batches `next` to `hi - 1`, then END. -/
structure Reply where
  generation : ℕ
  next : ℕ
  hi : ℕ
  deriving DecidableEq

structure Net where
  listener : Listener
  reply : Option Reply
  received : Option BatchId
  history : List BatchId

inductive NetEvent where
  /-- The SUB socket delivers a batch; if the listener answers it with a
  replay request, the window is what serves it. -/
  | live (generation number : ℕ) (window : Window)
  /-- The next frame of the reply, or END. -/
  | answer
  | timeout
  | metrics (processStartSamples : List ℚ)
  deriving DecidableEq

/-- Generations are delivered one after another, each in order. -/
def After (received : Option BatchId) (generation number : ℕ) : Prop :=
  match received with
  | none => True
  | some (g, n) => g < generation ∨ (g = generation ∧ n < number)

instance (received : Option BatchId) (generation number : ℕ) :
    Decidable (After received generation number) :=
  match received with
  | none => isTrue trivial
  | some (_, _) => inferInstanceAs (Decidable (_ ∨ _))

/-- A window of the batch's own generation is not empty and ends after the
batch: it holds what has been published. -/
def Window.Covers (w : Window) (generation number : ℕ) : Prop :=
  w.hi ≤ 2 ^ 63 ∧ (w.generation = generation → w.lo < w.hi ∧ number < w.hi)

instance (w : Window) (generation number : ℕ) :
    Decidable (w.Covers generation number) :=
  inferInstanceAs (Decidable (_ ∧ _))

/-- The reply a window gives to a request. -/
def Window.reply (w : Window) (start : ℤ) : Reply :=
  ⟨w.generation, max w.lo start.toNat, w.hi⟩

section Batch

variable (batch : ℕ → ℕ → Bytes)

/-- A frame of a reply, as it reaches a DEALER socket. -/
def Reply.frames (r : Reply) : List Bytes :=
  if r.next < r.hi then
    [[], BigEndian.toBytes 8 r.next, batch r.generation r.next]
  else [[], List.replicate 8 0xff, []]

/-- A batch as the listener sees it. -/
def numbered (b : BatchId) : ℤ × Bytes := (b.2, batch b.1 b.2)

/-- What the listener sees of an event, where the event can happen. -/
def Net.event (s : Net) : NetEvent → Option NodeEvent
  | .live generation number window =>
      if After s.received generation number ∧ number < 2 ^ 63
          ∧ window.Covers generation number then
        some (.parts [[], BigEndian.toBytes 8 number, batch generation number])
      else none
  | .answer => s.reply.map fun r => .frames (r.frames batch)
  | .timeout => some .replayError
  | .metrics samples => some (.metrics samples)

/-- The batch that an event has the listener apply, if it applies one. -/
def Net.tag (s : Net) : NetEvent → BatchId
  | .live generation number _ => (generation, number)
  | .answer =>
      match s.reply with
      | some r =>
          if r.next < r.hi then (r.generation, r.next)
          else s.received.getD (0, 0)
      | none => (0, 0)
  | _ => s.received.getD (0, 0)

/-- What is left of the reply after an event. -/
def Net.nextReply (s : Net) (control : Control) : NetEvent → Option Reply
  | .live _ _ window =>
      match control with
      | .replaying start _ _ => some (window.reply start)
      | _ => none
  | .answer => s.reply.map fun r => { r with next := r.next + 1 }
  | .timeout => none
  | .metrics _ => s.reply

def Net.nextReceived (s : Net) : NetEvent → Option BatchId
  | .live generation number _ => some (generation, number)
  | _ => s.received

variable (decode : Bytes → Option RawMapEventBatch) (replayEndpoint : Bool)

/-- One event. -/
def Net.step (s : Net) (event : NetEvent) : Option Net :=
  (s.event batch event).bind fun ev =>
    (s.listener.step decode replayEndpoint ev).map fun l =>
      { listener := l
        reply := s.nextReply l.control event
        received := s.nextReceived event
        history := s.listener.record decode replayEndpoint ev
          (fun _ => s.tag event) s.history }

end Batch

/-- A listener just started on a fresh node; the window serves the first
replay. -/
def Net.init (replayEndpoint : Bool) (node : NodeState) (window : Window) :
    Net where
  listener := .start replayEndpoint (.fresh node)
  reply := if replayEndpoint then some (window.reply 0) else none
  received := none
  history := []

/-- A publisher for concrete runs: batch `n` of generation `g` stores one
root block, of tokens `g` and `n`. -/
def rootBlockBatch (generation number : ℕ) : Bytes :=
  oneBlockPayload (UInt8.ofNat (16 * generation + number)) 0xc0
    (UInt8.ofNat generation) (UInt8.ofNat number)

-- ============================================================== segments

/-- Batches `lo` to `hi - 1` of a generation. -/
def segment (generation lo hi : ℕ) : List BatchId :=
  (List.range' lo (hi - lo)).map fun n => (generation, n)

theorem mem_segment {generation lo hi : ℕ} {b : BatchId} :
    b ∈ segment generation lo hi
      ↔ b.1 = generation ∧ lo ≤ b.2 ∧ b.2 < hi := by
  unfold segment
  rw [List.mem_map]
  constructor
  · intro h
    rcases h with ⟨n, hn, rfl⟩
    rw [List.mem_range'_1] at hn
    exact ⟨rfl, hn.1, by omega⟩
  · intro h
    rcases h with ⟨hg, hlo, hhi⟩
    refine ⟨b.2, ?_, by rw [← hg]⟩
    rw [List.mem_range'_1]
    omega

/-- A prefix names its length, and its generation if it is not empty. -/
theorem segment_inj {generation generation' k k' : ℕ}
    (h : segment generation 0 k = segment generation' 0 k') :
    k = k' ∧ (k = 0 ∨ generation = generation') := by
  have hlength := congrArg List.length h
  unfold segment at hlength
  rw [List.length_map, List.length_map, List.length_range',
    List.length_range'] at hlength
  refine ⟨hlength, ?_⟩
  by_cases hk : k = 0
  · exact .inl hk
  · have hmem : (generation, 0) ∈ segment generation' 0 k' := by
      rw [← h]
      exact mem_segment.mpr ⟨rfl, Nat.le_refl 0, Nat.pos_of_ne_zero hk⟩
    exact .inr (mem_segment.mp hmem).1

@[simp] theorem segment_self (generation lo : ℕ) :
    segment generation lo lo = [] := by
  simp [segment]

/-- One batch more. -/
theorem segment_concat {generation lo hi : ℕ} (h : lo ≤ hi) :
    segment generation lo hi ++ [(generation, hi)]
      = segment generation lo (hi + 1) := by
  unfold segment
  have hlen : hi + 1 - lo = (hi - lo) + 1 := by omega
  have hlast : hi = lo + 1 * (hi - lo) := by omega
  rw [hlen, List.range'_concat, List.map_append, ← hlast]
  rfl

/-- Two segments in a row. -/
theorem segment_append {generation lo mid hi : ℕ} (h : lo ≤ mid)
    (h' : mid ≤ hi) :
    segment generation lo mid ++ segment generation mid hi
      = segment generation lo hi := by
  unfold segment
  have hlen : hi - lo = (mid - lo) + (hi - mid) := by omega
  have hmid : mid = lo + 1 * (mid - lo) := by omega
  rw [← List.map_append, hlen, ← List.range'_append, ← hmid]

/-- The last batch of a segment from 0. -/
theorem getLast?_segment (generation k : ℕ) :
    (segment generation 0 k).getLast?
      = if k = 0 then none else some (generation, k - 1) := by
  cases k with
  | zero => rfl
  | succ k =>
      rw [← segment_concat (Nat.zero_le k), List.getLast?_append]
      rfl

end Kareserve
