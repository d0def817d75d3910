/-
The polls of the router process are what `poll_metrics` does with texts.

Gateway/App.lean has a poll as any figures that are found on a node's page
(`PollFigures`), so that its theorems do not depend on how a page is read.
Here a poll is read off the text (Tracker/Metrics.lean): whatever a node
answers, what `poll_metrics` leaves of it is what some figures leave
(`pollNode_tells`), also where an exception ends the update halfway. A round
over all nodes is therefore a run of polls (`poll_round_is_polls`), and what
holds of every run of the router process holds of one that reads its pages.

Rationals stand for finite floats only: a page whose cache usage or process
start time is a NaN or an infinity is not one of these polls.
-/
import Kareserve.Gateway.Proofs.Occupancy
import Kareserve.Gateway.Startup
import Kareserve.Tracker.Proofs.Apply

namespace Kareserve

open PyJson (Exc)

-- =========================================================== one node

/-- A polled node has what its entry has. -/
structure PolledNode.Tells (node : PolledNode) (e : NodeEntry) : Prop
    extends node.Shows e where
  runningRequests : node.runningRequests = e.node.runningRequests
  waitingRequests : node.waitingRequests = e.node.waitingRequests
  kvCacheUsage : node.kvCacheUsage = e.node.kvCacheUsage.map .finite
  gpuTotalBlocks : node.gpuTotalBlocks = e.node.gpuTotalBlocks
  gpuBlockSize : node.gpuBlockSize = e.node.gpuBlockSize
  metricsStatus : node.metricsStatus = e.node.metricsStatus

/-- The figures of a page that are kept as floats are finite. -/
structure FiniteFigures (metricsText : List Char) : Prop where
  processStart : ∀ x, readProcessStart metricsText = .ok (some x) →
    ∃ q, x = .finite q
  kvCacheUsage : ∀ x,
    readMetric metricsText "vllm:kv_cache_usage_perc" .max .ok = .ok (some x) →
      ∃ q, x = .finite q

-- ========================================================= figures found

/-- A node with these figures. -/
def PolledNode.found (node : PolledNode) (f : PollFigures) : PolledNode :=
  { node with
    runningRequests := f.runningRequests.or node.runningRequests
    waitingRequests := f.waitingRequests.or node.waitingRequests
    kvCacheUsage := (f.kvCacheUsage.map .finite).or node.kvCacheUsage
    gpuTotalBlocks := f.gpuTotalBlocks.or node.gpuTotalBlocks
    gpuBlockSize := f.gpuBlockSize.or node.gpuBlockSize
    metricsStatus := f.metricsStatus.getD node.metricsStatus }

/-- Figures found after others. -/
def PollFigures.thenFound (f g : PollFigures) : PollFigures where
  runningRequests := g.runningRequests.or f.runningRequests
  waitingRequests := g.waitingRequests.or f.waitingRequests
  kvCacheUsage := g.kvCacheUsage.or f.kvCacheUsage
  gpuTotalBlocks := g.gpuTotalBlocks.or f.gpuTotalBlocks
  gpuBlockSize := g.gpuBlockSize.or f.gpuBlockSize
  metricsStatus := g.metricsStatus.or f.metricsStatus

theorem NodeState.store_store (node : NodeState) (f g : PollFigures) :
    (node.store f).store g = node.store (f.thenFound g) := by
  unfold store PollFigures.thenFound
  simp only [Option.or_assoc]
  cases g.metricsStatus <;> rfl

/-- Figures are found on a node as on its entry. -/
theorem PolledNode.Tells.found {node : PolledNode} {e : NodeEntry}
    (h : node.Tells e) (f : PollFigures) :
    (node.found f).Tells { e with node := e.node.store f } where
  catalog := h.catalog
  lastSequence := h.lastSequence
  processStart := h.processStart
  runningRequests := congrArg f.runningRequests.or h.runningRequests
  waitingRequests := congrArg f.waitingRequests.or h.waitingRequests
  kvCacheUsage := by
    show (f.kvCacheUsage.map .finite).or node.kvCacheUsage
      = (f.kvCacheUsage.or e.node.kvCacheUsage).map .finite
    rw [h.kvCacheUsage]
    cases f.kvCacheUsage <;> rfl
  gpuTotalBlocks := congrArg f.gpuTotalBlocks.or h.gpuTotalBlocks
  gpuBlockSize := congrArg f.gpuBlockSize.or h.gpuBlockSize
  metricsStatus := congrArg f.metricsStatus.getD h.metricsStatus

/-- What no entry has. -/
theorem PolledNode.Tells.other {node : PolledNode} {e : NodeEntry}
    (h : node.Tells e) (queries hits : PyJson.Float) (updatedAt : Option ℚ) :
    PolledNode.Tells { node with
      lmcacheQueries := queries
      lmcacheHits := hits
      metricsUpdatedAt := updatedAt } e :=
  ⟨⟨h.catalog, h.lastSequence, h.processStart⟩, h.runningRequests,
    h.waitingRequests, h.kvCacheUsage, h.gpuTotalBlocks, h.gpuBlockSize,
    h.metricsStatus⟩

namespace NodeEntry

/-- What some poll leaves of an entry. -/
def PolledTo (e : NodeEntry) (node : PolledNode) : Prop :=
  ∃ processStartSamples f, node.Tells (e.poll processStartSamples f)

variable {e : NodeEntry} {node : PolledNode}

theorem PolledTo.found (h : e.PolledTo node) (g : PollFigures) :
    e.PolledTo (node.found g) := by
  obtain ⟨starts, f, htells⟩ := h
  refine ⟨starts, f.thenFound g, ?_⟩
  have hfound := htells.found g
  unfold poll at hfound ⊢
  dsimp only at hfound ⊢
  rwa [NodeState.store_store] at hfound

theorem PolledTo.other (h : e.PolledTo node) (queries hits : PyJson.Float)
    (updatedAt : Option ℚ) :
    e.PolledTo { node with
      lmcacheQueries := queries
      lmcacheHits := hits
      metricsUpdatedAt := updatedAt } := by
  obtain ⟨starts, f, htells⟩ := h
  exact ⟨starts, f, htells.other queries hits updatedAt⟩

end NodeEntry

-- =============================================================== a page

section Page

variable {e : NodeEntry} {node : PolledNode} {metricsText : List Char}

/-- A process start time that is found. -/
theorem PolledNode.Tells.storeProcessStart (h : node.Tells e) (start : ℚ) :
    (node.storeProcessStart (.finite start)).Tells
      (e.updateProcessStart [start]) := by
  -- a page with nothing else on it
  have hshows : PolledNode.Shows _ (e.updateProcessStart [start]) :=
    h.toShows.applied (r := ⟨some (.finite start), none, none, none, none, none,
      []⟩) rfl 0
  have hentry : (e.updateProcessStart [start]).node
      = { e.node with processStartTimeSeconds := some start } := by
    unfold NodeEntry.updateProcessStart
    dsimp only [List.getLast?_singleton]
    split <;> rfl
  have hnode : ∃ catalog last, node.storeProcessStart (.finite start)
      = { node with
          processStartTimeSeconds := some (.finite start)
          catalog := catalog
          lastSequence := last } := by
    unfold PolledNode.storeProcessStart
    dsimp only
    split <;> exact ⟨_, _, rfl⟩
  obtain ⟨catalog, last, hnode⟩ := hnode
  refine ⟨⟨hshows.catalog, hshows.lastSequence, hshows.processStart⟩, ?_, ?_,
    ?_, ?_, ?_, ?_⟩
  · rw [hnode, hentry]
    exact h.runningRequests
  · rw [hnode, hentry]
    exact h.waitingRequests
  · rw [hnode, hentry]
    exact h.kvCacheUsage
  · rw [hnode, hentry]
    exact h.gpuTotalBlocks
  · rw [hnode, hentry]
    exact h.gpuBlockSize
  · rw [hnode, hentry]
    exact h.metricsStatus

/-- The process start time, found or not, or not read. -/
theorem updateProcessStart_polledTo (h : node.Tells e)
    (hfinite : FiniteFigures metricsText) :
    e.PolledTo (updateProcessStart metricsText node).1 := by
  have hsame : e.PolledTo node := ⟨[], {}, h⟩
  unfold updateProcessStart
  cases hlast : (findall processStartPattern metricsText).getLast? with
  | none => exact hsame
  | some sample =>
      dsimp only
      cases hfloat : float sample with
      | error error => exact hsame
      | ok start =>
          have hread : readProcessStart metricsText = .ok (some start) := by
            unfold readProcessStart
            rw [hlast]
            dsimp only
            rw [hfloat]
            rfl
          obtain ⟨q, rfl⟩ := hfinite.processStart start hread
          exact ⟨[q], {}, h.storeProcessStart q⟩

/-- The metrics of a page. -/
theorem updateMetric_keeps (hfinite : FiniteFigures metricsText)
    {spec : MetricField × String × Reducer} (hspec : spec ∈ metricSpecs) :
    Stmt.Keeps e.PolledTo (updateMetric metricsText spec) := by
  refine Stmt.Keeps.eval fun value hvalue => ?_
  cases value with
  | none => exact .assign fun _ h => h
  | some value =>
      simp only [metricSpecs, List.mem_cons, List.not_mem_nil, or_false] at hspec
      obtain rfl | rfl | rfl | rfl | rfl := hspec
      · exact .eval fun n _ => .assign fun node h =>
          h.found { runningRequests := some n }
      · exact .eval fun n _ => .assign fun node h =>
          h.found { waitingRequests := some n }
      · obtain ⟨q, rfl⟩ := hfinite.kvCacheUsage value (by
          unfold readMetric
          rw [hvalue]
          rfl)
        exact .assign fun node h => h.found { kvCacheUsage := some q }
      · exact .assign fun node h => h.other value _ _
      · exact .assign fun node h => h.other _ value _

/-- The config samples. -/
theorem updateConfig_keeps (digits : DecimalDigits) :
    Stmt.Keeps e.PolledTo (updateConfig digits metricsText) := by
  refine .withLocal (.seq (.forEach fun labels _ => ?_) (.assign ?_))
  · refine .seq (.eval fun blocks _ => .assign fun state h => h)
      (.eval fun blockSize _ => .assign fun state h => ?_)
    exact h.found { gpuBlockSize := blockSize.map (↑) }
  · intro state h
    dsimp only [PolledNode.storeTotalBlocks]
    split
    · exact h.found { gpuTotalBlocks := some (state.2 : ℤ) }
    · exact h

/-- An update that an exception may end. -/
theorem updateMetricsText_polledTo (h : node.Tells e)
    (hfinite : FiniteFigures metricsText) (digits : DecimalDigits) (now : ℚ) :
    e.PolledTo (updateMetricsText digits metricsText now node).1 := by
  unfold updateMetricsText
  refine Stmt.Keeps.after ?_ (updateProcessStart_polledTo h hfinite)
  refine .seq (.forEach fun spec hspec => updateMetric_keeps hfinite hspec)
    (.seq (updateConfig_keeps digits) (.assign fun node h => ?_))
  exact (h.found { metricsStatus := some .available }).other _ _ (some now)

end Page

-- =========================================================== the answers

/-- The figures of a page that was read. -/
def Reading.figures (r : Reading) : PollFigures where
  runningRequests := r.runningRequests
  waitingRequests := r.waitingRequests
  kvCacheUsage := r.kvCacheUsage.bind finite
  gpuTotalBlocks :=
    if 0 < r.totalBlocks then some (r.totalBlocks : ℤ) else none
  gpuBlockSize := r.blockSize.map (↑)
  metricsStatus := some .available

/-- What a poll finds at a node, by its answer; a page that cannot be read
ends the polling. -/
def MetricsResponse.finds (digits : DecimalDigits) :
    MetricsResponse → Option (List ℚ × PollFigures)
  | .page metricsText =>
      match readPage digits metricsText with
      | .ok r => some ((r.processStart.bind finite).toList, r.figures)
      | .error _ => none
  | _ => some ([], { metricsStatus := some .unavailable })

section Answers

variable {e : NodeEntry} {node : PolledNode}

/-- A page that is applied is a poll that finds its figures. -/
theorem PolledNode.Tells.applied (h : node.Tells e) {r : Reading} (now : ℚ)
    (hstart : ∀ x, r.processStart = some x → ∃ q, x = .finite q)
    (husage : ∀ x, r.kvCacheUsage = some x → ∃ q, x = .finite q) :
    (node.applied r now).Tells
      (e.poll (r.processStart.bind finite).toList r.figures) := by
  have hstarted : (r.processStart.elim node fun start =>
      node.storeProcessStart start).Tells
      (e.updateProcessStart (r.processStart.bind finite).toList) := by
    cases hread : r.processStart with
    | none => exact h
    | some x =>
        obtain ⟨q, rfl⟩ := hstart x hread
        exact h.storeProcessStart q
  have hfigure : r.kvCacheUsage
      = (r.kvCacheUsage.bind finite).map .finite := by
    cases hread : r.kvCacheUsage with
    | none => rfl
    | some x =>
        obtain ⟨q, rfl⟩ := husage x hread
        rfl
  unfold PolledNode.applied
  generalize (r.processStart.elim node fun start =>
    node.storeProcessStart start) = started at hstarted ⊢
  have hfound := (hstarted.found r.figures).other
    (r.lmcacheQueries.getD started.lmcacheQueries)
    (r.lmcacheHits.getD started.lmcacheHits) (some now)
  refine (congrArg (PolledNode.Tells · _) ?_).mp hfound
  unfold PolledNode.found Reading.figures PolledNode.storeTotalBlocks
  dsimp only
  rw [← hfigure]
  split <;> rfl

/-- No exception of a page is handled, so it leaves what its update leaves. -/
theorem pollNode_page_left (digits : DecimalDigits) (now : ℚ)
    (metricsText : List Char) (node : PolledNode) :
    (pollNode digits now (.page metricsText) node).1
      = (updateMetricsText digits metricsText now node).1 := by
  unfold pollNode Stmt.tryExcept Stmt.mapError
  dsimp only
  cases (updateMetricsText digits metricsText now node).2 <;> rfl

/-- Whatever a node answers, what is left of it is what a poll leaves, and
what that has found is what the answer says. -/
theorem pollNode_tells (h : node.Tells e) (digits : DecimalDigits) (now : ℚ)
    {response : MetricsResponse}
    (hfinite : ∀ metricsText, response = .page metricsText →
      FiniteFigures metricsText) :
    ∃ processStartSamples f,
      (∀ found, response.finds digits = some found →
        found = (processStartSamples, f)) ∧
      (pollNode digits now response node).1.Tells
        (e.poll processStartSamples f) := by
  -- no page: the node is marked, and keeps its figures
  have hunavailable : ({ node with metricsStatus := .unavailable } :
      PolledNode).Tells (e.poll [] { metricsStatus := some .unavailable }) :=
    h.found { metricsStatus := some .unavailable }
  cases response with
  | otherStatus =>
      exact ⟨_, _, fun found hfound => (Option.some.inj hfound).symm,
        hunavailable⟩
  | clientError =>
      exact ⟨_, _, fun found hfound => (Option.some.inj hfound).symm,
        hunavailable⟩
  | timeoutError =>
      exact ⟨_, _, fun found hfound => (Option.some.inj hfound).symm,
        hunavailable⟩
  | page metricsText =>
      have hpage := hfinite metricsText rfl
      rw [pollNode_page_left]
      unfold MetricsResponse.finds
      dsimp only
      cases hread : readPage digits metricsText with
      -- a page that is read is stored as a whole
      | ok r =>
          have hof := readPage_eq_ok_iff.mp hread
          rw [updateMetricsText_of_read hread]
          exact ⟨_, _, fun found hfound => (Option.some.inj hfound).symm,
            h.applied now
              (fun x hx => hpage.processStart x (hx ▸ hof.processStart))
              fun x hx => hpage.kvCacheUsage x (hx ▸ hof.kvCacheUsage)⟩
      -- one that is not, up to the figure that could not be converted
      | error error =>
          obtain ⟨starts, f, htells⟩ :=
            updateMetricsText_polledTo h hpage digits now
          exact ⟨starts, f, fun found hfound => (by cases hfound), htells⟩

end Answers

-- ============================================================== a round

/-- Every node has its entry and has what it has. -/
def KareserveTracker.ToldBy (t : KareserveTracker)
    (nodes : PyDict NodeId PolledNode) : Prop :=
  ∀ nodeId, Option.Rel PolledNode.Tells (nodes.get nodeId)
    (t.entries.get nodeId)

/-- The poll of a node that was asked: it has found what the answer says, and
of a page that cannot be read some of it. -/
def IsPoll (digits : DecimalDigits) (response : NodeId × MetricsResponse)
    (event : AppEvent) : Prop :=
  ∃ processStartSamples f, event = .poll response.1 processStartSamples f ∧
    ∀ found, response.2.finds digits = some found →
      found = (processStartSamples, f)

namespace App

variable {a : App} {nodes : PyDict NodeId PolledNode}

/-- One node's answer. -/
theorem poll_of_response (h : a.tracker.ToldBy nodes)
    (digits : DecimalDigits) (now : ℚ) (response : NodeId × MetricsResponse)
    (hfinite : ∀ metricsText, response.2 = .page metricsText →
      FiniteFigures metricsText) :
    ∃ processStartSamples f,
      (∀ found, response.2.finds digits = some found →
        found = (processStartSamples, f)) ∧
      (a.onTracker (·.onNode response.1
        (·.poll processStartSamples f))).tracker.ToldBy
        (onPolledNode response.1 (pollNode digits now response.2) nodes).1 := by
  have hnode := h response.1
  unfold onPolledNode
  cases hget : nodes.get response.1 with
  | none =>
      -- a node that is not known
      rw [hget] at hnode
      obtain ⟨⟨starts, f⟩, hfound⟩ : ∃ found : List ℚ × PollFigures,
          ∀ found', response.2.finds digits = some found' → found' = found := by
        cases response.2.finds digits with
        | none => exact ⟨([], {}), fun found hfound => by cases hfound⟩
        | some found => exact ⟨found, fun _ h => (Option.some.inj h).symm⟩
      refine ⟨starts, f, hfound, fun nodeId => ?_⟩
      show Option.Rel _ (nodes.get nodeId) ((a.tracker.onNode _ _).entries.get _)
      rw [KareserveTracker.onNode_get]
      split
      next heq =>
        subst heq
        rw [hget]
        cases hentry : a.tracker.entries.get response.1 with
        | none => exact .none
        | some e =>
            rw [hentry] at hnode
            cases hnode
      next => exact h nodeId
  | some node =>
      rw [hget] at hnode
      cases hentry : a.tracker.entries.get response.1 with
      | none =>
          rw [hentry] at hnode
          cases hnode
      | some e =>
          rw [hentry] at hnode
          cases hnode with
          | some htells =>
              obtain ⟨starts, f, hfound, hpolled⟩ :=
                pollNode_tells htells digits now hfinite
              refine ⟨starts, f, hfound, fun nodeId => ?_⟩
              show Option.Rel _ ((nodes.set _ _).get nodeId)
                ((a.tracker.onNode _ _).entries.get _)
              rw [KareserveTracker.onNode_get, PyDict.get_set]
              split
              next heq =>
                rw [heq, hentry]
                exact .some hpolled
              next => exact h nodeId

/-- A round of `poll_metrics` is a run of polls. In any state of the router
process, whatever the nodes answer that are asked, with finite figures: the
round, to its end or to the exception that ends it, leaves what the polls of
the nodes asked so far leave, in their order; all nodes have been asked if
there is no exception. -/
theorem poll_round_is_polls (blake2b : List UInt8 → List UInt8)
    (decode : Bytes → Option RawMapEventBatch)
    (loads : Bytes → Except LoadsError PyJson.Json)
    (replayEndpoint : NodeId → Bool) (digits : DecimalDigits) (now : ℚ)
    (responses : List (NodeId × MetricsResponse))
    (hfinite : ∀ response ∈ responses, ∀ metricsText,
      response.2 = .page metricsText → FiniteFigures metricsText)
    (a : App) (nodes : PyDict NodeId PolledNode)
    (htold : a.tracker.ToldBy nodes) :
    ∃ asked events a',
      List.Forall₂ (IsPoll digits) (responses.take asked) events ∧
      Lts.run (step blake2b decode loads replayEndpoint) a events = some a' ∧
      a'.tracker.ToldBy (pollRound digits now responses nodes).1 ∧
      ((pollRound digits now responses nodes).2 = none →
        asked = responses.length) := by
  induction responses generalizing a nodes with
  | nil => exact ⟨0, [], a, .nil, rfl, htold, fun _ => rfl⟩
  | cons response responses ih =>
      obtain ⟨starts, f, hfound, hfirst⟩ := poll_of_response htold digits now response
        (hfinite response (List.mem_cons_self ..))
      -- a round is one node's poll, then the rest of the round
      have hround : pollRound digits now (response :: responses)
          = (onPolledNode response.1 (pollNode digits now response.2)).seq
            (pollRound digits now responses) := rfl
      rw [hround]
      unfold Stmt.seq
      cases hasked : onPolledNode response.1 (pollNode digits now response.2)
        nodes with
      | mk nodes₁ raised =>
          rw [hasked] at hfirst
          cases raised with
          -- an exception ends the round, and what was stored before it is a
          -- poll's
          | some error =>
              refine ⟨1, [_], _, .cons ⟨starts, f, rfl, hfound⟩ .nil, rfl, hfirst,
                fun hnone => ?_⟩
              cases hnone
          | none =>
              obtain ⟨asked, events, a', hpolls, hrun, htold', hall⟩ := ih
                (fun r hr => hfinite r (List.mem_cons_of_mem _ hr)) _ nodes₁
                hfirst
              exact ⟨asked + 1, _ :: events, a',
                .cons ⟨starts, f, rfl, hfound⟩ hpolls, hrun, htold',
                fun hnone => congrArg (· + 1) (hall hnone)⟩

/-- A page with a count and a usage. -/
def onePage : List Char :=
  "vllm:num_requests_running 3\nvllm:kv_cache_usage_perc 0.5\n".toList

/-- A node answers with a page, and then not in time. -/
theorem poll_round_is_polls_one_page :
    ∃ events a' e, List.Forall₂ (IsPoll .asciiOnly)
        [("a", .page onePage), ("a", .timeoutError)] events ∧
      Lts.run (step id (fun _ => none) (fun _ => .error .jsonDecodeError)
        fun _ => false) oneNodeRouter events = some a' ∧
      a'.tracker.entries.get "a" = some e ∧
      e.node.runningRequests = some 3 ∧ e.node.kvCacheUsage = some (1 / 2) ∧
      e.node.metricsStatus = .unavailable := by
  have hpage : FiniteFigures onePage := by
    refine ⟨fun x hx => ?_, fun x hx => ?_⟩
    · rw [show readProcessStart onePage = .ok none from rfl] at hx
      cases hx
    · have husage : readMetric onePage "vllm:kv_cache_usage_perc" .max .ok
          = .ok (some (.finite (1 / 2))) := by decide +kernel
      rw [husage] at hx
      injection hx with hx
      exact ⟨_, (Option.some.inj hx).symm⟩
  have htold : oneNodeRouter.tracker.ToldBy (.ofList [("a", {})]) := by
    intro nodeId
    by_cases hid : nodeId = "a"
    · rw [hid]
      exact .some ⟨⟨rfl, rfl, rfl⟩, rfl, rfl, rfl, rfl, rfl, rfl⟩
    · have hnone : ∀ {α : Type} (v : α),
          (PyDict.ofList [("a", v)]).get nodeId = none := fun v =>
        (PyDict.get_set_of_ne .empty hid v).trans rfl
      show Option.Rel _ _ ((PyDict.ofList [("a", _)]).get nodeId)
      rw [hnone, hnone]
      exact .none
  obtain ⟨asked, events, a', hpolls, hrun, htold', hall⟩ :=
    poll_round_is_polls id (fun _ => none) (fun _ => .error .jsonDecodeError)
      (fun _ => false) .asciiOnly 0
      [("a", .page onePage), ("a", .timeoutError)]
      (by
        intro response hresponse metricsText htext
        obtain rfl | rfl : response = ("a", .page onePage) ∨
            response = ("a", .timeoutError) := by simpa using hresponse
        · injection htext with htext
          exact htext ▸ hpage
        · cases htext)
      oneNodeRouter (.ofList [("a", {})]) htold
  have hleft : ((pollRound .asciiOnly 0
      [("a", .page onePage), ("a", .timeoutError)] (.ofList [("a", {})])).1.get
        "a").map (fun n => (n.runningRequests, n.kvCacheUsage, n.metricsStatus))
      = some (some 3, some (.finite (1 / 2)), .unavailable) := by decide +kernel
  obtain ⟨node, hnode, hfigures⟩ := Option.map_eq_some_iff.mp hleft
  injection hfigures with hrunning hfigures
  injection hfigures with husage hstatus
  rw [hall (by decide +kernel), List.take_length] at hpolls
  have htells := htold' "a"
  rw [hnode] at htells
  cases hentry : a'.tracker.entries.get "a" with
  | none =>
      rw [hentry] at htells
      cases htells
  | some e =>
      rw [hentry] at htells
      cases htells with
      | some htells =>
          have husage' := htells.kvCacheUsage
          rw [husage] at husage'
          obtain ⟨q, hq, hhalf⟩ := Option.map_eq_some_iff.mp husage'.symm
          injection hhalf with hhalf
          exact ⟨events, a', e, hpolls, hrun, hentry,
            htells.runningRequests.symm.trans hrunning, hq.trans (hhalf ▸ rfl),
            htells.metricsStatus.symm.trans hstatus⟩

end App

end Kareserve
