/-
A degraded node after a restart of its vLLM.

The catalog recovers: once the restart is seen and the new batches
arrive, it is exactly what they build (`catalog_rebuilt`), whatever the
status. The status does not: no branch of the listener writes `HEALTHY`
back, so route planning never reads the rebuilt catalog
(`degraded_never_recovers`). The status of a cache domain, in contrast,
is written both ways by each lookup.

So the two disagree for good: what `get_routing_states` reports of the node
is `DEGRADED`, and what the catalog holds is right.
-/
import Kareserve.Tracker.System
import Kareserve.Tracker.Proofs.Restart

namespace Kareserve

-- =================================================== the catalog recovers

section Decode

variable {decode : Bytes → Option RawMapEventBatch} {replayEndpoint : Bool}
  {start : ℚ} {payload : ℕ → Bytes}

variable (replayEndpoint start) in
/-- Good batches in a row. -/
theorem Follows.batches {l : Listener} {status : CatalogStatus} {known : ℚ}
    {k : ℕ} (h : Follows decode payload status known k l) (n : ℕ)
    (hquiet : Quiet decode payload k n) (hcount : k + n ≤ 2 ^ 64) :
    ∃ l', Lts.run (Listener.step decode replayEndpoint) l
        (restartEvents start payload k (List.replicate n .batch)) = some l'
      ∧ Follows decode payload status known (k + n) l' := by
  induction n generalizing l k with
  | zero => exact ⟨l, rfl, h⟩
  | succ n ih =>
      rw [quiet_succ] at hquiet
      obtain ⟨l₁, hstep, -, hgood⟩ := h.batch replayEndpoint start (by omega)
      obtain ⟨l', hrun, h'⟩ := ih (hgood hquiet.1) hquiet.2 (by omega)
      refine ⟨l', ?_, ?_⟩
      · rw [List.replicate_succ, restartEvents, Lts.run_cons, hstep,
          Option.bind_some]
        exact hrun
      · rw [Nat.add_comm n, ← Nat.add_assoc]
        exact h'

/-- A restart that is seen, in batch 0 or in a page before it, rebuilds
the catalog from the new batches and leaves the status as it was. -/
theorem catalog_rebuilt {l : Listener} {known : ℚ}
    (hreceiving : l.control = .receiving)
    (hknown : l.entry.node.processStartTimeSeconds = some known)
    (pages : List Heard)
    (hseen : (pages = [] ∧ ∃ last, l.entry.lastSequence = some last ∧ 0 < last)
      ∨ (start ≠ known ∧ ∃ earlierSamples, pages = [.page earlierSamples]))
    (n : ℕ) (hquiet : Quiet decode payload 0 (n + 1))
    (hcount : n + 1 ≤ 2 ^ 64) :
    ∃ l', Lts.run (Listener.step decode replayEndpoint) l
        (restartEvents start payload 0
          (pages ++ List.replicate (n + 1) .batch)) = some l'
      ∧ l'.entry.gpuCatalogStatus = l.entry.gpuCatalogStatus
      ∧ l'.entry.catalog = rebuilt decode payload (n + 1) := by
  obtain ⟨rfl, last, hlast, hpos⟩ | ⟨hne, earlierSamples, rfl⟩ := hseen
  · rw [quiet_succ] at hquiet
    -- batch 0 tells of the restart
    obtain ⟨l₁, hstep, -, hgood⟩ := step_batch start true
      (show 0 < 2 ^ 64 by omega) hreceiving hknown
      (receiveBatch_restart hlast hpos _) rfl rfl
    obtain ⟨l', hrun, h'⟩ := (hgood hquiet.1).batches replayEndpoint start n
      hquiet.2 (by omega)
    refine ⟨l', ?_, h'.status, ?_⟩
    · rw [List.nil_append, List.replicate_succ, restartEvents, Lts.run_cons,
        hstep, Option.bind_some]
      exact hrun
    · rw [h'.catalog, Nat.zero_add, Nat.add_comm]
  -- the page does, and batch 0 is then like any other
  · obtain ⟨l₁, hstep, h₁⟩ := step_firstPage replayEndpoint hreceiving hknown hne
      0 earlierSamples
    obtain ⟨l', hrun, h'⟩ := h₁.batches replayEndpoint start (n + 1) hquiet
      (by omega)
    refine ⟨l', ?_, h'.status, ?_⟩
    · rw [List.singleton_append, restartEvents, Lts.run_cons, hstep,
        Option.bind_some]
      exact hrun
    · rw [h'.catalog, Nat.zero_add]

end Decode

-- ================================================ the status does not

/-- The node is healthy again and route planning is given the prefixes of
the catalog `built`. -/
def KareserveTracker.Recovered (t : KareserveTracker) (nodeId : NodeId)
    (built : GpuCatalog) : Prop :=
  (∃ e, t.entries.get nodeId = some e ∧ e.gpuCatalogStatus = .healthy)
  ∧ ∀ request defaultBlockSize externalMatches, ∃ byNode candidate,
    (t.buildRouteCandidates [request] defaultBlockSize externalMatches).get
        request.requestId = some byNode
      ∧ byNode.get nodeId = some candidate
      ∧ candidate.prefixMatch.gpuPrefixTokens
        = built.longestPrefix request.promptTokens

section Decode

variable {decode : Bytes → Option RawMapEventBatch}
  {replayEndpoint : NodeId → Bool}

/-- A degraded node is degraded at the end of every run of the system. -/
theorem System.run_degraded {s s' : System} {events : List SystemEvent}
    (hrun : Lts.run (System.step decode replayEndpoint) s events = some s')
    {nodeId : NodeId} {e : NodeEntry}
    (he : s.tracker.entries.get nodeId = some e)
    (hdegraded : e.gpuCatalogStatus = .degraded) :
    ∃ e', s'.tracker.entries.get nodeId = some e'
      ∧ e'.gpuCatalogStatus = .degraded := by
  have hl : s.listener nodeId = some ⟨e, s.control nodeId⟩ := by
    unfold System.listener
    rw [he]
    rfl
  obtain ⟨l', hl', hnode⟩ := System.run_node hrun hl
  obtain ⟨e', he', heq⟩ := Option.map_eq_some_iff.mp hl'
  have hstatus := Listener.run_degraded hdegraded hnode
  rw [← heq] at hstatus
  exact ⟨e', he', hstatus⟩

end Decode

/-- A degraded node never recovers: whatever happens to the system from
then on, restarts and their batches included, the node is not healthy and
every candidate of it has GPU prefix 0. -/
theorem degraded_never_recovers (decode : Bytes → Option RawMapEventBatch)
    (replayEndpoint : NodeId → Bool) (s s' : System) (nodeId : NodeId)
    (e : NodeEntry) (he : s.tracker.entries.get nodeId = some e)
    (hdegraded : e.gpuCatalogStatus = .degraded) (events : List SystemEvent)
    (hrun : Lts.run (System.step decode replayEndpoint) s events = some s') :
    (∀ built, ¬ s'.tracker.Recovered nodeId built)
    ∧ ∀ requests defaultBlockSize externalMatches requestId byNode,
      (s'.tracker.buildRouteCandidates requests defaultBlockSize
          externalMatches).get requestId = some byNode →
        ∃ candidate, byNode.get nodeId = some candidate
          ∧ candidate.prefixMatch.gpuPrefixTokens = 0 := by
  obtain ⟨e', he', hstatus⟩ := System.run_degraded hrun he hdegraded
  refine ⟨fun built hrecovered => ?_, ?_⟩
  · obtain ⟨⟨e'', he'', hhealthy⟩, -⟩ := hrecovered
    rw [he'] at he''
    injection he'' with he''
    rw [← he'', hstatus] at hhealthy
    cases hhealthy
  · intro requests defaultBlockSize externalMatches requestId byNode hget
    obtain ⟨request, -, -, candidate, hcandidate, hgpu⟩ :=
      KareserveTracker.buildRouteCandidates_gpuPrefix he' hget
    refine ⟨candidate, hcandidate, ?_⟩
    rw [hgpu, if_neg (by rw [hstatus]; exact CatalogStatus.noConfusion)]

/-- The life of a node up to a message of two frames. -/
def malformedLife : List SystemEvent :=
  (firstLife ++ [NodeEvent.parts [[], []]]).map (.node "a")

/-- Batches 0 and 1 of the next life. -/
def nextLife : List SystemEvent :=
  (restartEvents 2 (rootBlockBatch 1) 0 [.batch, .batch]).map (.node "a")

/-- A malformed message, then a restart. -/
theorem degraded_after_restart :
    ∃ s s', Lts.run (System.step oneBlockDecode fun _ => false)
        (.init (fun _ => false) [{ nodeId := "a", cacheDomainId := "d" }])
        malformedLife = some s
      ∧ Lts.run (System.step oneBlockDecode fun _ => false) s nextLife
        = some s'
      ∧ ∀ built, ¬ s'.tracker.Recovered "a" built := by
  have hrun : (Lts.run (System.step oneBlockDecode fun _ => false)
      (.init (fun _ => false) [{ nodeId := "a", cacheDomainId := "d" }])
      malformedLife).map (fun s =>
        ((s.tracker.entries.get "a").map (·.gpuCatalogStatus),
          (Lts.run (System.step oneBlockDecode fun _ => false) s
            nextLife).isSome))
      = some (some .degraded, true) := by decide
  obtain ⟨s, hs, hfacts⟩ := Option.map_eq_some_iff.mp hrun
  injection hfacts with hstatus hnext
  obtain ⟨e, he, hdegraded⟩ := Option.map_eq_some_iff.mp hstatus
  obtain ⟨s', hs'⟩ := Option.isSome_iff_exists.mp hnext
  exact ⟨s, s', hs, hs', (degraded_never_recovers oneBlockDecode
    (fun _ => false) s s' "a" e he hdegraded nextLife hs').1⟩

/-- The restart was seen and every batch of the new process arrived: the
catalog holds their blocks, and the node is degraded. -/
theorem restart_leaves_degraded :
    ∃ s, Lts.run (System.step oneBlockDecode fun _ => false)
        (.init (fun _ => false) [{ nodeId := "a", cacheDomainId := "d" }])
        (malformedLife ++ nextLife) = some s
      ∧ (s.tracker.entries.get "a").map (·.gpuCatalogStatus) = some .degraded
      ∧ (s.tracker.entries.get "a").map (·.lastSequence) = some (some 1)
      ∧ (s.tracker.entries.get "a").map (·.catalog.longestPrefix [1, 0])
        = some 2
      ∧ ∀ built, ¬ s.tracker.Recovered "a" built := by
  have hrun : (Lts.run (System.step oneBlockDecode fun _ => false)
      (.init (fun _ => false) [{ nodeId := "a", cacheDomainId := "d" }])
      (malformedLife ++ nextLife)).map (fun s =>
        ((s.tracker.entries.get "a").map (·.gpuCatalogStatus),
          (s.tracker.entries.get "a").map (·.lastSequence),
          (s.tracker.entries.get "a").map (·.catalog.longestPrefix [1, 0])))
      = some (some .degraded, some (some 1), some 2) := by decide
  obtain ⟨s, hs, hfacts⟩ := Option.map_eq_some_iff.mp hrun
  injection hfacts with hstatus hfacts
  injection hfacts with hlast hmatch
  refine ⟨s, hs, hstatus, hlast, hmatch, fun built hrecovered => ?_⟩
  obtain ⟨⟨e, he, hhealthy⟩, -⟩ := hrecovered
  rw [he, Option.map_some, hhealthy] at hstatus
  cases hstatus

end Kareserve
