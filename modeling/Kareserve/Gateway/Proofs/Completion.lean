/-
What becomes of the reservation an exchange is given.

The release stands in three places: the handler of `HTTPException` around
`open_upstream`, and the finally blocks of the two readers, in each after
an await of `session.close`. An exchange that ends on any other way out
(`KeepsReservation` lists the steps that take one) leaves its
reservation, and nothing releases it later. The log of an exchange is
therefore its reservation, followed by its release where it ended well
(`ExchangesInv`), and many exchanges together make a legal history of the
load counters (`exists_holding`): these return to zero when all have ended
well.

The invariant says of each exchange which of its two calls have been made,
by its phase alone, and a step is framed: it touches the calls and the phase
of its own exchange (`Frame`). So a leak, once there, stays, and a run has
one exactly if one of its steps makes one.
-/
import Kareserve.Gateway.Completion

namespace Kareserve

-- ========================================================= one exchange

/-- The step does not end the exchange past its release: `session.post`
returns, or raises what `open_upstream` catches; a streaming response can
be built and its start is sent; `session.close` returns. -/
def Completion.keeps (c : Completion) : Phase → ExchangeEvent → Bool
  | .opening, .opened contentType => !c.stream || c.encodes contentType
  | .opening, .raised raised => decide (raised = .clientError)
  | .closingFailed, .raised _ => false
  | .responding, .raised _ => false
  | .streamClosing, .raised _ => false
  | .readClosing, .raised _ => false
  | _, _ => true

/-- A step ends the exchange with a release, ends it without one, or does
neither. -/
theorem Completion.step_spec {c : Completion} {phase : Phase}
    {event : ExchangeEvent} {next : Phase × Bool}
    (h : c.step phase event = some next) :
    phase ≠ .finished
      ∧ (next = (.finished, true) ∧ c.keeps phase event = true
        ∨ next = (.finished, false) ∧ c.keeps phase event = false
        ∨ next.1 ≠ .finished ∧ next.2 = false
          ∧ c.keeps phase event = true) := by
  cases phase with
  | opening =>
      refine ⟨Phase.noConfusion, ?_⟩
      cases event with
      -- a content type that cannot be encoded loses the reservation, in a
      -- stream only: the response is built before its body
      | opened contentType =>
          simp only [step, keeps] at h ⊢
          cases hstream : c.stream with
          | false =>
              rw [hstream] at h
              injection h with h
              subst h
              exact Or.inr (Or.inr ⟨Phase.noConfusion, rfl, rfl⟩)
          | true =>
              rw [hstream, if_pos rfl] at h
              split at h
              case isTrue hencodes =>
                injection h with h
                subst h
                exact Or.inr (Or.inr ⟨Phase.noConfusion, rfl, hencodes⟩)
              case isFalse hencodes =>
                injection h with h
                subst h
                exact Or.inr (Or.inl ⟨rfl, Bool.eq_false_iff.mpr hencodes⟩)
      -- so does whatever is raised by the opening but a `ClientError`
      | raised raised =>
          cases raised with
          | clientError =>
              injection h with h
              subst h
              exact Or.inr (Or.inr ⟨Phase.noConfusion, rfl, rfl⟩)
          | _ =>
              injection h with h
              subst h
              exact Or.inr (Or.inl ⟨rfl, rfl⟩)
      | _ => cases h
  | finished => cases event <;> cases h
  | _ =>
      refine ⟨Phase.noConfusion, ?_⟩
      cases event <;> cases h <;> simp [keeps]

-- ======================================================== many exchanges

namespace Exchanges

def KeepsReservation (s : Exchanges) : ExchangesEvent → Prop
  | .exchange routeId event =>
      ∀ x ∈ s.exchanges.get routeId, x.completion.keeps x.phase event = true
  | .assigned _ _ => True

instance (s : Exchanges) :
    ∀ event : ExchangesEvent, Decidable (s.KeepsReservation event)
  | .exchange routeId _ =>
      inferInstanceAs (Decidable (∀ x ∈ s.exchanges.get routeId, _))
  | .assigned _ _ => isTrue trivial

/-- The log of every exchange is its reservation, followed by its release
in some that are over. -/
structure ExchangesInv (s : Exchanges) : Prop where
  unknown : ∀ routeId, s.exchanges.get routeId = none →
    callsFor s.calls routeId = []
  known : ∀ routeId x, s.exchanges.get routeId = some x →
    callsFor s.calls routeId = [x.completion.reserveCall]
      ∨ (x.phase = .finished ∧ callsFor s.calls routeId
        = [x.completion.reserveCall, x.completion.releaseCall])

/-- An exchange is over and has not released its reservation. -/
def LeaksAt (s : Exchanges) (routeId : RequestId) : Prop :=
  ∃ x, s.exchanges.get routeId = some x ∧ x.phase = .finished
    ∧ callsFor s.calls routeId = [x.completion.reserveCall]

def Leaks (s : Exchanges) : Prop := ∃ routeId, s.LeaksAt routeId

theorem init_inv : ExchangesInv init :=
  ⟨fun routeId _ => rfl, fun routeId x hget => by cases hget⟩

variable {s s' : Exchanges}

/-- `s'` is `s` but for one exchange and its calls. -/
structure Frame (s s' : Exchanges) (routeId : RequestId) : Prop where
  get : ∀ id, id ≠ routeId → s'.exchanges.get id = s.exchanges.get id
  calls : ∀ id, id ≠ routeId → callsFor s'.calls id = callsFor s.calls id

theorem Frame.inv {routeId : RequestId} {x : Exchange} (hframe : Frame s s' routeId)
    (h : ExchangesInv s) (hget : s'.exchanges.get routeId = some x)
    (hknown : callsFor s'.calls routeId = [x.completion.reserveCall]
      ∨ (x.phase = .finished ∧ callsFor s'.calls routeId
        = [x.completion.reserveCall, x.completion.releaseCall])) :
    ExchangesInv s' := by
  refine ⟨fun id hnone => ?_, fun id y hy => ?_⟩
  · by_cases hid : id = routeId
    · rw [hid, hget] at hnone
      cases hnone
    · rw [hframe.get id hid] at hnone
      rw [hframe.calls id hid]
      exact h.unknown id hnone
  · by_cases hid : id = routeId
    · rw [hid, hget] at hy
      injection hy with hy
      subst hy
      rw [hid]
      exact hknown
    · rw [hframe.get id hid] at hy
      rw [hframe.calls id hid]
      exact h.known id y hy

theorem Frame.leaks_iff {routeId : RequestId} {caused : Prop}
    (hframe : Frame s s' routeId)
    (hself : s'.LeaksAt routeId ↔ s.LeaksAt routeId ∨ caused) :
    s'.Leaks ↔ s.Leaks ∨ caused := by
  have hother : ∀ id, id ≠ routeId → (s'.LeaksAt id ↔ s.LeaksAt id) := by
    intro id hid
    unfold LeaksAt
    rw [hframe.get id hid, hframe.calls id hid]
  constructor
  · intro h
    obtain ⟨id, hleaks⟩ := h
    by_cases hid : id = routeId
    · rw [hid] at hleaks
      exact (hself.mp hleaks).imp (fun hold => ⟨routeId, hold⟩)
        fun hcaused => hcaused
    · exact Or.inl ⟨id, (hother id hid).mp hleaks⟩
  · intro h
    obtain ⟨id, hleaks⟩ | hcaused := h
    · by_cases hid : id = routeId
      · rw [hid] at hleaks
        exact ⟨routeId, hself.mpr (Or.inl hleaks)⟩
      · exact ⟨id, (hother id hid).mpr hleaks⟩
    · exact ⟨routeId, hself.mpr (Or.inr hcaused)⟩

/-- A new exchange comes with its reservation. -/
theorem ExchangesInv.assigned {routeId : RequestId} {completion : Completion}
    (h : ExchangesInv s)
    (hstep : s.step (.assigned routeId completion) = some s') :
    ExchangesInv s' ∧ (s'.Leaks ↔ s.Leaks ∨ False) := by
  simp only [step] at hstep
  split at hstep
  case isFalse => cases hstep
  case isTrue hfresh =>
    injection hstep with hstep
    subst hstep
    rw [Option.isNone_iff_eq_none] at hfresh
    have hcalls := callsFor_concat_self s.calls routeId completion.reserveCall
    rw [h.unknown routeId hfresh, List.nil_append] at hcalls
    have hget : (s.exchanges.set routeId ⟨completion, .opening⟩).get routeId
        = some ⟨completion, .opening⟩ := PyDict.get_set_self _ _ _
    have hframe : Frame s
        { exchanges := s.exchanges.set routeId ⟨completion, .opening⟩
          calls := s.calls ++ [(routeId, completion.reserveCall)] } routeId :=
      ⟨fun id hne => PyDict.get_set_of_ne _ hne _,
        fun id hne => callsFor_concat_of_ne s.calls hne _⟩
    refine ⟨hframe.inv h hget (Or.inl hcalls), hframe.leaks_iff ?_⟩
    refine iff_of_false (fun hleaks => ?_) fun hor => ?_
    · obtain ⟨x, hx, hfinished, -⟩ := hleaks
      rw [hget] at hx
      injection hx with hx
      rw [← hx] at hfinished
      cases hfinished
    · obtain ⟨x, hx, -⟩ | hfalse := hor
      · rw [hfresh] at hx
        cases hx
      · exact hfalse

/-- A step of one exchange. -/
theorem ExchangesInv.exchange {routeId : RequestId} {event : ExchangeEvent}
    (h : ExchangesInv s)
    (hstep : s.step (.exchange routeId event) = some s') :
    ExchangesInv s'
      ∧ (s'.Leaks ↔ s.Leaks ∨ ¬ s.KeepsReservation (.exchange routeId event)) := by
  obtain ⟨x, hx, hstep⟩ := Option.bind_eq_some_iff.mp hstep
  obtain ⟨next, hnext, hstep⟩ := Option.map_eq_some_iff.mp hstep
  obtain ⟨hphase, hspec⟩ := Completion.step_spec hnext
  -- an exchange that is not over has its reservation only
  have hbefore : callsFor s.calls routeId = [x.completion.reserveCall] :=
    (h.known routeId x hx).resolve_right fun hfinished => hphase hfinished.1
  have hnotBefore : ¬ s.LeaksAt routeId := by
    intro hleaks
    obtain ⟨y, hy, hfinished, -⟩ := hleaks
    rw [hx] at hy
    injection hy with hy
    exact hphase (hy ▸ hfinished)
  have hkeeps : s.KeepsReservation (.exchange routeId event)
      ↔ x.completion.keeps x.phase event = true := by
    show (∀ y ∈ s.exchanges.get routeId, _) ↔ _
    rw [hx]
    exact ⟨fun hall => hall x rfl, fun hkeep y hy => by
      injection hy with hy
      exact hy ▸ hkeep⟩
  have hget : s'.exchanges.get routeId = some { x with phase := next.1 } := by
    rw [← hstep]
    exact PyDict.get_set_self _ _ _
  have hcalls : callsFor s'.calls routeId = x.completion.reserveCall
      :: if next.2 then [x.completion.releaseCall] else [] := by
    rw [← hstep]
    refine (callsFor_append _ _ _).trans ?_
    rw [hbefore]
    cases next.2 <;> simp [callsFor]
  have hframe : Frame s s' routeId := by
    rw [← hstep]
    refine ⟨fun id hne => PyDict.get_set_of_ne _ hne _, fun id hne => ?_⟩
    refine (callsFor_append _ _ _).trans ?_
    cases next.2 <;> simp [callsFor, Ne.symm hne]
  obtain ⟨hreleased, hkeep⟩ | ⟨hlost, hkeep⟩ | ⟨hgoes, hnone, hkeep⟩ := hspec
  · rw [hreleased] at hget hcalls
    refine ⟨hframe.inv h hget (Or.inr ⟨rfl, hcalls⟩), hframe.leaks_iff ?_⟩
    refine iff_of_false (fun hleaks => ?_) fun hor => ?_
    · obtain ⟨y, hy, -, hone⟩ := hleaks
      rw [hcalls] at hone
      exact List.cons_ne_nil _ _ (List.cons.inj hone).2
    · exact hor.elim hnotBefore fun hbad => hbad (hkeeps.mpr hkeep)
  · rw [hlost] at hget hcalls
    refine ⟨hframe.inv h hget (Or.inl hcalls), hframe.leaks_iff ?_⟩
    refine iff_of_true ⟨_, hget, rfl, hcalls⟩ (Or.inr fun hok => ?_)
    rw [hkeeps.mp hok] at hkeep
    cases hkeep
  · rw [hnone] at hcalls
    refine ⟨hframe.inv h hget (Or.inl hcalls), hframe.leaks_iff ?_⟩
    refine iff_of_false (fun hleaks => ?_) fun hor => ?_
    · obtain ⟨y, hy, hfinished, -⟩ := hleaks
      rw [hget] at hy
      injection hy with hy
      rw [← hy] at hfinished
      exact hgoes hfinished
    · exact hor.elim hnotBefore fun hbad => hbad (hkeeps.mpr hkeep)

/-- One event: the invariant stays, and a reservation is left behind
exactly by a step that does not keep it. -/
theorem step_inv {event : ExchangesEvent} (h : ExchangesInv s)
    (hstep : s.step event = some s') :
    ExchangesInv s'
      ∧ (s'.Leaks ↔ s.Leaks ∨ ¬ s.KeepsReservation event) := by
  cases event with
  | assigned routeId completion =>
      obtain ⟨hinv, hleaks⟩ := h.assigned hstep
      exact ⟨hinv, hleaks.trans (or_congr_right
        ⟨False.elim, fun hbad => hbad trivial⟩)⟩
  | exchange routeId event => exact h.exchange hstep

-- ================================================================ runs

/-- Where no exchange leaks and all are over, every request's log is
complete. -/
theorem ExchangesInv.idle (h : ExchangesInv s) (hnone : ¬ s.Leaks)
    (hfinished : ∀ routeId x, s.exchanges.get routeId = some x → x.phase = .finished)
    {initialNodes : List NodeState} (hidle : ∀ node ∈ initialNodes, node.Idle)
    {nodeId : NodeId} {e : NodeEntry}
    (he : (s.tracker initialNodes).entries.get nodeId = some e) :
    e.node.Idle := by
  have hticket : ∀ routeId, OneTicket (callsFor s.calls routeId) := by
    intro routeId
    cases hget : s.exchanges.get routeId with
    | none => exact Or.inl (h.unknown routeId hget)
    | some x =>
        obtain hone | ⟨-, htwo⟩ := h.known routeId x hget
        · exact Or.inr ⟨_, _, Or.inl hone⟩
        · exact Or.inr ⟨_, _, Or.inr htwo⟩
  obtain ⟨out, -, hrun, hmem⟩ := exists_holding hticket
  have hout : out = 0 := by
    rw [Multiset.eq_zero_iff_forall_notMem]
    intro ⟨routeId, nodeId, work⟩ hin
    have hone := (hmem routeId nodeId work).mp hin
    cases hget : s.exchanges.get routeId with
    | none =>
        rw [h.unknown routeId hget] at hone
        cases hone
    | some x =>
        obtain hone' | ⟨-, htwo⟩ := h.known routeId x hget
        · exact hnone ⟨routeId, x, hget, hfinished routeId x hget, hone'⟩
        · rw [htwo] at hone
          exact List.cons_ne_nil _ _ (List.cons.inj hone).2
  rw [hout, Multiset.map_zero] at hrun
  unfold tracker at he
  rw [KareserveTracker.init_eq_withLoad hidle,
    KareserveTracker.runCalls_eq_withLoad _ hrun] at he
  exact KareserveTracker.withLoad_zero_idle he

/-- Every reservation is released exactly once, in exactly the runs whose
steps all keep it. From idle nodes, after any interleaving of any number
of exchanges: every exchange that is over has made one reservation and,
after it, one release with the same node and work, and when all are over
every node's counters are zero again. -/
theorem released_exactly_once_iff (initialNodes : List NodeState)
    (hidle : ∀ node ∈ initialNodes, node.Idle) (events : List ExchangesEvent)
    (s : Exchanges) (hrun : Lts.run step init events = some s) :
    ((∀ routeId x, s.exchanges.get routeId = some x → x.phase = .finished →
        callsFor s.calls routeId
          = [x.completion.reserveCall, x.completion.releaseCall])
      ∧ ((∀ routeId x, s.exchanges.get routeId = some x → x.phase = .finished) →
        ∀ nodeId e, (s.tracker initialNodes).entries.get nodeId = some e →
          e.node.Idle))
      ↔ Lts.Along step KeepsReservation init events := by
  obtain ⟨hinv, hleaks⟩ := Lts.run_iff_along (I := ExchangesInv)
    (fun _ _ _ h hstep => step_inv h hstep) init_inv hrun
  have hinit : ¬ init.Leaks := by
    intro h
    obtain ⟨routeId, x, hget, -⟩ := h
    cases hget
  have halong : Lts.Along step KeepsReservation init events ↔ ¬ s.Leaks := by
    rw [hleaks, not_or, not_not]
    exact ⟨fun hall => ⟨hinit, hall⟩, fun hall => hall.2⟩
  rw [halong]
  constructor
  · intro h hbad
    obtain ⟨routeId, x, hget, hfinished, hone⟩ := hbad
    rw [h.1 routeId x hget hfinished] at hone
    exact List.cons_ne_nil _ _ (List.cons.inj hone).2
  · intro hnone
    refine ⟨fun routeId x hget hfinished => ?_, fun hall nodeId e he =>
      hinv.idle hnone hall hidle he⟩
    obtain hone | ⟨-, htwo⟩ := hinv.known routeId x hget
    · exact absurd ⟨routeId, x, hget, hfinished, hone⟩ hnone
    · exact htwo

/-- A completion assigned to node `a`, for concrete runs. -/
def completionOnA (requestId : String) (stream : Bool) (inflightWork : ℚ) :
    Completion where
  requestId
  stream
  policy := "round_robin"
  estimatedCostUnit := "ms"
  assignment := ⟨assignmentOnA requestId inflightWork, 1⟩
  times := ⟨0, 0⟩

/-- A stream whose client leaves, and a request whose upstream is down. -/
def twoRequests : List ExchangesEvent :=
  [.assigned "r" (completionOnA "1" true 3),
    .assigned "q" (completionOnA "2" false 5),
    .exchange "r" (.opened none), .exchange "q" (.raised .clientError),
    .exchange "r" .returned, .exchange "r" .chunk, .exchange "q" .returned,
    .exchange "r" (.raised .cancelled), .exchange "r" .returned]

theorem released_exactly_once_two_requests :
    ∃ s, Lts.run step init twoRequests = some s
      ∧ callsFor s.calls "r" = [.reserve "a" 3, .release "a" 3]
      ∧ callsFor s.calls "q" = [.reserve "a" 5, .release "a" 5]
      ∧ ∀ x, s.exchanges.get "r" = some x → callsFor s.calls "r"
        = [x.completion.reserveCall, x.completion.releaseCall] := by
  have hrun : (Lts.run step init twoRequests).map (fun s =>
        ((s.exchanges.get "r").map (·.phase), callsFor s.calls "r",
          callsFor s.calls "q"))
      = some (some .finished, [.reserve "a" 3, .release "a" 3],
        [.reserve "a" 5, .release "a" 5]) := by decide +kernel
  obtain ⟨s, hs, hfacts⟩ := Option.map_eq_some_iff.mp hrun
  injection hfacts with hfinished hfacts
  injection hfacts with hr hq
  refine ⟨s, hs, hr, hq, fun x hx => ?_⟩
  rw [hx] at hfinished
  injection hfinished with hfinished
  exact ((released_exactly_once_iff [{ nodeId := "a", cacheDomainId := "d" }]
    (by decide) twoRequests s hs).mpr (by decide +kernel)).1 "r" x hx hfinished

/-- A streaming request whose id has no latin-1 encoding: upstream opens,
the response cannot be built, and the body generator never starts. -/
theorem reservation_left_behind :
    ∃ s x, Lts.run step init
        [.assigned "r" (completionOnA "请求" true 3),
          .exchange "r" (.opened (some "text/event-stream"))] = some s
      ∧ s.exchanges.get "r" = some x ∧ x.phase = .finished
      ∧ s.calls = [("r", .reserve "a" 3)]
      ∧ callsFor s.calls "r"
        ≠ [x.completion.reserveCall, x.completion.releaseCall] := by
  have hrun : (Lts.run step init
      [.assigned "r" (completionOnA "请求" true 3),
        .exchange "r" (.opened (some "text/event-stream"))]).map (fun s =>
          ((s.exchanges.get "r").map (·.phase), s.calls))
      = some (some .finished, [("r", .reserve "a" 3)]) := by decide +kernel
  obtain ⟨s, hs, hfacts⟩ := Option.map_eq_some_iff.mp hrun
  injection hfacts with hfinished hcalls
  obtain ⟨x, hx, hphase⟩ := Option.map_eq_some_iff.mp hfinished
  refine ⟨s, x, hs, hx, hphase, hcalls, fun htwo => ?_⟩
  rw [hcalls] at htwo
  exact List.cons_ne_nil _ _ (List.cons.inj htwo).2.symm

end Exchanges

end Kareserve
