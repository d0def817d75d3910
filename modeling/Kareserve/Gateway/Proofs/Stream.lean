/-
First-output detection against the whole stream.

# The specification

`sseEvents` reads the events off the ended lines of the stream, each with
the place of the newline that ends it; it knows of no chunks and no
buffers.

# The invariant

Between two chunks the buffer is the open end of what was fed so far, and
the event data are those of its ended lines since the last event. So
feeding a chunk goes through exactly the events whose newline is in it
(`drain_reads`), and a run of chunks goes through the events of the
stream in order (`feedAll_reads`), however it is cut.

# Where it fails

It goes through them until one has output, or until `json.loads` raises
what `sse_data_has_output` does not catch: `detects_iff`.
-/
import Kareserve.Gateway.Stream
import Kareserve.Lib.Lines

namespace Kareserve

-- ========================================================== the events

/-- An event of a stream: its data lines, joined, and the place of the
newline that ends it. -/
structure SseEvent where
  data : Bytes
  newline : ℕ
  deriving DecidableEq

/-- What an ended line does to the data lines of the open event, and the
data of the event it ends. -/
def readLine (eventData : List Bytes) (line : Bytes) :
    List Bytes × Option Bytes :=
  let line := rstripCr line
  if ascii "data:" <+: line then (eventData ++ [lstrip (line.drop 5)], none)
  else if line = [] then ([], some (joinLines eventData))
  else (eventData, none)

/-- The events that ended lines end, the first of which starts at
`offset`. -/
def eventsOfLines : List Bytes → ℕ → List Bytes → List SseEvent
  | _, _, [] => []
  | eventData, offset, line :: lines =>
      ((readLine eventData line).2.map fun data =>
          (⟨data, offset + line.length⟩ : SseEvent)).toList
        ++ eventsOfLines (readLine eventData line).1
          (offset + line.length + 1) lines

/-- The events of a stream. -/
def sseEvents (stream : Bytes) : List SseEvent :=
  eventsOfLines [] 0 (Lines.lines newlineByte stream)

/-- The data lines left open by ended lines. -/
def openData (eventData : List Bytes) (lines : List Bytes) : List Bytes :=
  lines.foldl (fun eventData line => (readLine eventData line).1) eventData

theorem eventsOfLines_append (lines lines' : List Bytes)
    (eventData : List Bytes) (offset : ℕ) :
    eventsOfLines eventData offset (lines ++ lines')
      = eventsOfLines eventData offset lines
        ++ eventsOfLines (openData eventData lines)
          (offset + Lines.extent lines) lines' := by
  induction lines generalizing eventData offset with
  | nil => rfl
  | cons line lines ih =>
      rw [List.cons_append, eventsOfLines, eventsOfLines, ih,
        List.append_assoc, Lines.extent_cons]
      have hoffset : offset + line.length + 1 + Lines.extent lines
          = offset + (line.length + 1 + Lines.extent lines) := by omega
      rw [hoffset]
      rfl

/-- An event ends with one of its lines. -/
theorem newline_lt {lines eventData : List Bytes} {offset : ℕ}
    {event : SseEvent} (h : event ∈ eventsOfLines eventData offset lines) :
    event.newline < offset + Lines.extent lines := by
  induction lines generalizing eventData offset with
  | nil => cases h
  | cons line lines ih =>
      rw [Lines.extent_cons]
      rw [eventsOfLines, List.mem_append] at h
      rcases h with h | h
      · rw [Option.mem_toList, Option.map_eq_some_iff] at h
        obtain ⟨data, -, rfl⟩ := h
        show offset + line.length < _
        omega
      · have hlt := ih h
        omega

/-- No line ends before the first one. -/
theorem le_newline {line : Bytes} {lines eventData : List Bytes} {offset : ℕ}
    {event : SseEvent}
    (h : event ∈ eventsOfLines eventData offset (line :: lines)) :
    offset + line.length ≤ event.newline := by
  induction lines generalizing eventData offset line with
  | nil =>
      rw [eventsOfLines, eventsOfLines, List.append_nil, Option.mem_toList,
        Option.map_eq_some_iff] at h
      obtain ⟨data, -, rfl⟩ := h
      exact Nat.le_refl _
  | cons next lines ih =>
      rw [eventsOfLines, List.mem_append] at h
      rcases h with h | h
      · rw [Option.mem_toList, Option.map_eq_some_iff] at h
        obtain ⟨data, -, rfl⟩ := h
        exact Nat.le_refl _
      · have hle := ih h
        omega

-- ======================================================= the first output

section Loads

variable (loads : Bytes → Except LoadsError PyJson.Json)

/-- Going through events up to the first with output. -/
def firstOutput : List SseEvent → Except LoadsError (Option SseEvent)
  | [] => .ok none
  | event :: events =>
      match sseDataHasOutput loads event.data with
      | .error e => .error e
      | .ok true => .ok (some event)
      | .ok false => firstOutput events

theorem firstOutput_append (events events' : List SseEvent) :
    firstOutput loads (events ++ events')
      = match firstOutput loads events with
        | .ok none => firstOutput loads events'
        | found => found := by
  induction events with
  | nil => rfl
  | cons event events ih =>
      rw [List.cons_append, firstOutput, firstOutput]
      cases sseDataHasOutput loads event.data with
      | error e => rfl
      | ok hasOutput =>
          cases hasOutput with
          | true => rfl
          | false => exact ih

theorem mem_of_firstOutput {events : List SseEvent} {event : SseEvent}
    (h : firstOutput loads events = .ok (some event)) : event ∈ events := by
  induction events with
  | nil => cases h
  | cons event' events ih =>
      rw [firstOutput] at h
      cases hout : sseDataHasOutput loads event'.data with
      | error e =>
          rw [hout] at h
          cases h
      | ok hasOutput =>
          rw [hout] at h
          cases hasOutput with
          | true =>
              injection h with h
              injection h with h
              exact h ▸ List.mem_cons_self ..
          | false => exact List.mem_cons_of_mem _ (ih h)

-- ============================================================== one chunk

/-- What comes of feeding, from what is found in the events it goes
through and the state it leaves if there is nothing. -/
def Reads (left : SSEOutputDetector) :
    Except LoadsError (Option SseEvent) →
    Except LoadsError (SSEOutputDetector × Bool) → Prop
  | .error e, fed => fed = .error e
  | .ok (some _), fed => ∃ d, fed = .ok (d, true)
  | .ok none, fed => fed = .ok (left, false)

/-- The state after ended lines. -/
def SSEOutputDetector.after (d : SSEOutputDetector) : SSEOutputDetector where
  lineBuffer := Lines.rest newlineByte d.lineBuffer
  eventData := openData d.eventData (Lines.lines newlineByte d.lineBuffer)

/-- How the loop of `feed` goes on after a line, from what the event the
line ended has. -/
def SSEOutputDetector.goOn (fuel : ℕ) (next : SSEOutputDetector) :
    Option (Except LoadsError Bool) →
    Except LoadsError (SSEOutputDetector × Bool)
  | some (.error e) => .error e
  | some (.ok true) => .ok (next, true)
  | _ => next.drain loads fuel

/-- A pass of the loop reads a line. -/
theorem SSEOutputDetector.drain_line {d : SSEOutputDetector} {i : ℕ}
    (hidx : d.lineBuffer.idxOf? newlineByte = some i) (fuel : ℕ) :
    let line := readLine d.eventData (d.lineBuffer.take i)
    d.drain loads (fuel + 1)
      = goOn loads fuel ⟨d.lineBuffer.drop (i + 1), line.1⟩
        (line.2.map (sseDataHasOutput loads)) := by
  intro line
  rw [drain, hidx]
  dsimp only
  split
  · rename_i hdata
    have hline : line = _ := if_pos hdata
    rw [hline]
    rfl
  · rename_i hdata
    split
    · rename_i hempty
      have hline : line = _ := (if_neg hdata).trans (if_pos hempty)
      rw [hline, Option.map_some]
      cases sseDataHasOutput loads (joinLines d.eventData) with
      | error e => rfl
      | ok hasOutput => cases hasOutput <;> rfl
    · rename_i hempty
      have hline : line = _ := (if_neg hdata).trans (if_neg hempty)
      rw [hline]
      rfl

/-- The loop of `feed` goes through the events that the lines of its buffer
end. -/
theorem drain_reads {fuel : ℕ} {d : SSEOutputDetector}
    (hfuel : d.lineBuffer.length ≤ fuel) (offset : ℕ) :
    Reads d.after
      (firstOutput loads (eventsOfLines d.eventData offset
        (Lines.lines newlineByte d.lineBuffer)))
      (d.drain loads fuel) := by
  induction fuel generalizing d offset with
  -- the fuel is the length of the buffer, and every line takes at least its
  -- newline
  | zero =>
      have hnil : d.lineBuffer = [] :=
        List.length_eq_zero_iff.mp (Nat.le_zero.mp hfuel)
      obtain ⟨lineBuffer, eventData⟩ := d
      subst hnil
      rfl
  | succ fuel ih =>
      cases hidx : d.lineBuffer.idxOf? newlineByte with
      -- no whole line is left
      | none =>
          have hsplit := Lines.split_of_idxOf_eq_none hidx
          have hafter : d.after = d := by
            unfold SSEOutputDetector.after Lines.lines Lines.rest
            rw [hsplit]
            rfl
          unfold Lines.lines
          rw [hsplit, hafter, SSEOutputDetector.drain, hidx]
          rfl
      -- the first line is read, and the rest is a shorter buffer
      | some i =>
          have hsplit := Lines.split_of_idxOf hidx
          obtain ⟨hlt, -⟩ := List.idxOf?_eq_some_iff.mp hidx
          have hlen : (d.lineBuffer.take i).length = i := by
            rw [List.length_take]
            omega
          rw [SSEOutputDetector.drain_line loads hidx]
          unfold Lines.lines
          rw [hsplit]
          dsimp only
          rw [eventsOfLines]
          generalize hline : readLine d.eventData (d.lineBuffer.take i) = line
          have hnext := ih (d := ⟨d.lineBuffer.drop (i + 1), line.1⟩) (by
            rw [List.length_drop]
            omega) (offset + (d.lineBuffer.take i).length + 1)
          have hafter : d.after = SSEOutputDetector.after
              ⟨d.lineBuffer.drop (i + 1), line.1⟩ := by
            unfold SSEOutputDetector.after
            unfold Lines.lines Lines.rest
            rw [hsplit, ← hline]
            rfl
          rw [hafter]
          obtain ⟨eventData, ended⟩ := line
          -- an event has ended with an empty line, or has not
          cases ended with
          | none => exact hnext
          | some data =>
              show Reads _ (firstOutput loads (_ :: _)) _
              rw [firstOutput]
              dsimp only [Option.map_some]
              cases sseDataHasOutput loads data with
              | error e => rfl
              | ok hasOutput =>
                  cases hasOutput with
                  | true => exact ⟨_, rfl⟩
                  | false => exact hnext

-- ============================================================= the chunks

/-- Where the first output is found, from what the stream has: in the chunk
with the newline, the first chunk starting at `start`. -/
def Finds (start : ℕ) (chunks : List Bytes) :
    Except LoadsError (Option SseEvent) →
    Except LoadsError (Option ℕ) → Prop
  | .error e, fed => fed = .error e
  | .ok none, fed => fed = .ok none
  | .ok (some event), fed => ∃ k, fed = .ok (some k)
      ∧ start + (chunks.take k).flatten.length ≤ event.newline
      ∧ event.newline < start + (chunks.take (k + 1)).flatten.length

/-- One more chunk in front. -/
theorem Finds.cons {start : ℕ} {chunk : Bytes} {chunks : List Bytes}
    {found : Except LoadsError (Option SseEvent)}
    {d d' : SSEOutputDetector} (hfeed : d.feed loads chunk = .ok (d', false))
    (h : Finds (start + chunk.length) chunks found (d'.feedAll loads chunks)) :
    Finds start (chunk :: chunks) found (d.feedAll loads (chunk :: chunks)) := by
  rw [SSEOutputDetector.feedAll, hfeed]
  dsimp only
  cases found with
  | error e =>
      rw [show d'.feedAll loads chunks = .error e from h]
      rfl
  | ok event =>
      cases event with
      | none =>
          rw [show d'.feedAll loads chunks = .ok none from h]
          rfl
      | some event =>
          obtain ⟨k, hk, hle, hlt⟩ := h
          rw [hk]
          refine ⟨k + 1, rfl, ?_, ?_⟩
          · rw [List.take_succ_cons, List.flatten_cons, List.length_append]
            omega
          · rw [List.take_succ_cons, List.flatten_cons, List.length_append]
            omega

/-- An event whose newline is in the chunk in front. -/
theorem Finds.here {chunk : Bytes} {chunks : List Bytes}
    {d d' : SSEOutputDetector} {offset : ℕ} {event : SseEvent}
    (hopen : newlineByte ∉ d.lineBuffer)
    (hmem : event ∈ eventsOfLines d.eventData offset
      (Lines.lines newlineByte (d.lineBuffer ++ chunk)))
    (hfeed : d.feed loads chunk = .ok (d', true)) :
    Finds (offset + d.lineBuffer.length) (chunk :: chunks) (.ok (some event))
      (d.feedAll loads (chunk :: chunks)) := by
  have hlength : Lines.extent (Lines.lines newlineByte (d.lineBuffer ++ chunk))
      + (Lines.rest newlineByte (d.lineBuffer ++ chunk)).length
      = (d.lineBuffer ++ chunk).length := Lines.extent_add_length_rest _
  rw [List.length_append] at hlength
  have hlt := newline_lt hmem
  refine ⟨0, ?_, ?_, ?_⟩
  · rw [SSEOutputDetector.feedAll, hfeed]
  · cases hlines : Lines.lines newlineByte (d.lineBuffer ++ chunk) with
    | nil =>
        rw [hlines] at hmem
        cases hmem
    | cons line lines =>
        -- the open end is part of the line that ends it
        have hle := Lines.length_le_of_lines_append hopen hlines
        rw [hlines] at hmem
        have hge := le_newline hmem
        rw [List.take_zero, List.flatten_nil, List.length_nil]
        omega
  · rw [List.take_succ_cons, List.take_zero, List.flatten_singleton]
    omega

/-- Feeding chunks goes through the events of their stream. -/
theorem feedAll_reads (chunks : List Bytes) {d : SSEOutputDetector}
    (hopen : newlineByte ∉ d.lineBuffer) (offset : ℕ) :
    Finds (offset + d.lineBuffer.length) chunks
      (firstOutput loads (eventsOfLines d.eventData offset
        (Lines.lines newlineByte (d.lineBuffer ++ chunks.flatten))))
      (d.feedAll loads chunks) := by
  induction chunks generalizing d offset with
  | nil =>
      rw [List.flatten_nil, List.append_nil, Lines.lines_of_not_mem hopen]
      rfl
  | cons chunk chunks ih =>
      -- the buffer with the chunk is read up to its last newline; what is left
      -- open is where the next chunk goes on
      have hdrain := drain_reads loads
        (d := ⟨d.lineBuffer ++ chunk, d.eventData⟩) (Nat.le_refl _) offset
      have hlength : Lines.extent (Lines.lines newlineByte
            (d.lineBuffer ++ chunk))
          + (Lines.rest newlineByte (d.lineBuffer ++ chunk)).length
          = (d.lineBuffer ++ chunk).length := Lines.extent_add_length_rest _
      rw [List.length_append] at hlength
      rw [List.flatten_cons, ← List.append_assoc, Lines.lines_append,
        eventsOfLines_append, firstOutput_append]
      cases hfirst : firstOutput loads (eventsOfLines d.eventData offset
          (Lines.lines newlineByte (d.lineBuffer ++ chunk))) with
      -- the first event that is not quiet is in this chunk, and ends the
      -- stream
      | error e =>
          rw [hfirst] at hdrain
          have hfeed : d.feed loads chunk = .error e := hdrain
          show d.feedAll loads (chunk :: chunks) = .error e
          rw [SSEOutputDetector.feedAll, hfeed]
      | ok found =>
          rw [hfirst] at hdrain
          cases found with
          | some event =>
              obtain ⟨d', hfeed⟩ := hdrain
              exact Finds.here loads hopen (mem_of_firstOutput loads hfirst) hfeed
          | none =>
              have hfeed : d.feed loads chunk = .ok (SSEOutputDetector.after
                ⟨d.lineBuffer ++ chunk, d.eventData⟩, false) := hdrain
              refine Finds.cons loads hfeed ?_
              have hrest := ih (d := SSEOutputDetector.after
                ⟨d.lineBuffer ++ chunk, d.eventData⟩)
                (Lines.not_mem_rest (d.lineBuffer ++ chunk))
                (offset + Lines.extent (Lines.lines newlineByte
                  (d.lineBuffer ++ chunk)))
              have hstart : offset + Lines.extent (Lines.lines newlineByte
                    (d.lineBuffer ++ chunk))
                  + (SSEOutputDetector.after
                    ⟨d.lineBuffer ++ chunk, d.eventData⟩).lineBuffer.length
                  = offset + d.lineBuffer.length + chunk.length := by
                show _ + (Lines.rest newlineByte
                  (d.lineBuffer ++ chunk)).length = _
                omega
              rw [hstart] at hrest
              exact hrest

-- ======================================================= the detection

/-- `json.loads` raises nothing on the data of an event but what
`sse_data_has_output` catches. -/
def SseEvent.Read (event : SseEvent) : Prop :=
  event.data ≠ [] → event.data ≠ ascii "[DONE]" →
    ∀ error, loads event.data = .error error → error.caught = true

/-- The data of an event have output. -/
def SseEvent.hasOutput (event : SseEvent) : Bool :=
  match sseDataHasOutput loads event.data with
  | .ok hasOutput => hasOutput
  | .error _ => false

theorem SseEvent.read_iff (event : SseEvent) :
    event.Read loads
      ↔ sseDataHasOutput loads event.data = .ok (event.hasOutput loads) := by
  unfold Read hasOutput
  cases hout : sseDataHasOutput loads event.data with
  | ok hasOutput =>
      refine iff_of_true ?_ rfl
      intro hne hdone error herror
      by_contra hcaught
      rw [sseDataHasOutput, if_neg (not_or.mpr ⟨hne, hdone⟩), herror] at hout
      dsimp only at hout
      rw [if_neg hcaught] at hout
      cases hout
  | error e =>
      refine iff_of_false ?_ fun h => by cases h
      intro h
      unfold sseDataHasOutput at hout
      split at hout
      · cases hout
      · rename_i hdata
        rw [not_or] at hdata
        split at hout
        · rename_i error herror
          rw [if_pos (h hdata.1 hdata.2 error herror)] at hout
          cases hout
        · split at hout <;> cases hout

theorem SseEvent.exists_error {event : SseEvent} (h : ¬ event.Read loads) :
    ∃ error, sseDataHasOutput loads event.data = .error error := by
  rw [read_iff] at h
  unfold hasOutput at h
  cases hout : sseDataHasOutput loads event.data with
  | error error => exact ⟨error, rfl⟩
  | ok hasOutput =>
      rw [hout] at h
      exact absurd rfl h

/-- With nothing raised, the first output is found. -/
theorem firstOutput_eq_find {events : List SseEvent}
    (h : ∀ event ∈ events.takeWhile fun event => !event.hasOutput loads,
      event.Read loads) :
    firstOutput loads events
      = .ok (events.find? fun event => event.hasOutput loads) := by
  induction events with
  | nil => rfl
  | cons event events ih =>
      rw [firstOutput, List.find?_cons]
      cases hout : event.hasOutput loads with
      | true =>
          have hread : sseDataHasOutput loads event.data = .ok true := by
            unfold SseEvent.hasOutput at hout
            split at hout
            · rename_i hok
              rw [hok, hout]
            · cases hout
          rw [hread]
      | false =>
          rw [List.takeWhile_cons, hout] at h
          have hread := (event.read_iff loads).mp
            (h event (List.mem_cons_self ..))
          rw [hread, hout]
          exact ih fun event' hmem => h event' (List.mem_cons_of_mem _ hmem)

/-- With something raised before it, it is not. -/
theorem firstOutput_raises {events : List SseEvent} {event : SseEvent}
    (hmem : event ∈ events.takeWhile fun event => !event.hasOutput loads)
    (hraises : ¬ event.Read loads) :
    ∃ error, firstOutput loads events = .error error := by
  induction events with
  | nil => cases hmem
  | cons event' events ih =>
      rw [List.takeWhile_cons] at hmem
      rw [firstOutput]
      by_cases hread : event'.Read loads
      · rw [(event'.read_iff loads).mp hread]
        cases hout : event'.hasOutput loads with
        | true =>
            rw [hout] at hmem
            cases hmem
        | false =>
            rw [hout] at hmem
            rcases List.mem_cons.mp hmem with heq | hmem
            · exact absurd (heq ▸ hread) hraises
            · exact ih hmem
      · obtain ⟨error, herror⟩ := SseEvent.exists_error loads hread
        exact ⟨error, by rw [herror]⟩

/-- The detector finds the first output of the stream in the chunk that
ends it, and finds nothing if there is none. -/
def Detects (chunks : List Bytes) : Prop :=
  match (sseEvents chunks.flatten).find? fun event => event.hasOutput loads with
  | none => SSEOutputDetector.feedAll loads {} chunks = .ok none
  | some event =>
      ∃ k, SSEOutputDetector.feedAll loads {} chunks = .ok (some k)
        ∧ (chunks.take k).flatten.length ≤ event.newline
        ∧ event.newline < (chunks.take (k + 1)).flatten.length

theorem feedAll_finds (chunks : List Bytes) :
    Finds 0 chunks (firstOutput loads (sseEvents chunks.flatten))
      (SSEOutputDetector.feedAll loads {} chunks) :=
  feedAll_reads loads chunks (d := {}) List.not_mem_nil 0

/-- An exception that is not caught ends the detection. -/
theorem not_detects_of_raises {chunks : List Bytes} {event : SseEvent}
    (hmem : event ∈ (sseEvents chunks.flatten).takeWhile
      fun event => !event.hasOutput loads)
    (hraises : ¬ event.Read loads) : ¬ Detects loads chunks := by
  intro h
  have hfinds := feedAll_finds loads chunks
  obtain ⟨error, herror⟩ := firstOutput_raises loads hmem hraises
  rw [herror] at hfinds
  have hfed : SSEOutputDetector.feedAll loads {} chunks = .error error := hfinds
  unfold Detects at h
  rw [hfed] at h
  split at h
  · cases h
  · obtain ⟨k, hk, -⟩ := h
    cases hk

/-- However a stream is cut, its first output is detected exactly in the
chunk that ends it, if and only if on the events before it (on all of
them, if there is none) `json.loads` raises nothing that is not
caught. -/
theorem detects_iff (chunks : List Bytes) :
    Detects loads chunks
      ↔ ∀ event ∈ (sseEvents chunks.flatten).takeWhile
          fun event => !event.hasOutput loads, event.Read loads := by
  constructor
  · intro h event hmem
    by_contra hraises
    exact not_detects_of_raises loads hmem hraises h
  · intro h
    have hfinds := feedAll_finds loads chunks
    rw [firstOutput_eq_find loads h] at hfinds
    unfold Detects
    split
    · rename_i hnone
      rw [hnone] at hfinds
      exact hfinds
    · rename_i event hevent
      rw [hevent] at hfinds
      obtain ⟨k, hk, hle, hlt⟩ := hfinds
      refine ⟨k, hk, ?_, ?_⟩
      · simpa using hle
      · simpa using hlt

end Loads

-- ============================================================== too long

/-- The digits of a number. -/
def ones (n : ℕ) : Bytes := List.replicate (n + 1) 0x31

/-- The first event of a stream that starts with a number. -/
theorem sseEvents_ones (n : ℕ) (stream : Bytes) :
    sseEvents (ascii "data: " ++ ones n ++ newlineByte :: newlineByte :: stream)
      = ⟨ones n, n + 8⟩
        :: eventsOfLines [] (n + 9) (Lines.lines newlineByte stream) := by
  have hascii : ascii "data: " = ascii "data:" ++ [0x20] := by decide
  have hopen : newlineByte ∉ ascii "data: " ++ ones n := by
    unfold ones
    rw [List.mem_append, List.mem_replicate, not_or]
    exact ⟨by decide, fun h => absurd h.2 (by decide)⟩
  -- the two lines of the event: its data, and the empty one that ends it
  have hlines : Lines.lines newlineByte
      (ascii "data: " ++ ones n ++ newlineByte :: newlineByte :: stream)
      = (ascii "data: " ++ ones n) :: [] :: Lines.lines newlineByte stream := by
    unfold Lines.lines
    rw [Lines.split_first hopen]
    unfold Lines.lines
    rw [Lines.split_cons_sep]
    rfl
  have hstrip : rstripCr (ascii "data: " ++ ones n)
      = ascii "data: " ++ ones n := by
    refine List.rdropWhile_eq_self_iff.mpr fun hne => ?_
    rw [List.getLast_append_of_ne_nil hne (List.cons_ne_nil _ _)]
    unfold ones
    rw [List.getLast_replicate]
    decide
  -- the data is what follows the colon and its space
  have hdata : readLine [] (ascii "data: " ++ ones n) = ([ones n], none) := by
    unfold readLine
    dsimp only
    rw [hstrip, hascii, List.append_assoc, if_pos (List.prefix_append _ _),
      List.drop_left' (by decide)]
    unfold ones lstrip
    rw [List.replicate_succ, List.singleton_append,
      List.dropWhile_cons_of_pos (by decide),
      List.dropWhile_cons_of_neg (by decide)]
    rfl
  have hend : readLine [ones n] [] = ([], some (ones n)) := by
    unfold readLine joinLines
    dsimp only
    rw [if_neg (by decide), if_pos (by decide)]
    simp
  have hlength : (ascii "data: " ++ ones n).length = n + 7 := by
    rw [List.length_append]
    unfold ones
    rw [List.length_replicate]
    show 6 + (n + 1) = n + 7
    omega
  unfold sseEvents
  rw [hlines, eventsOfLines, hdata, eventsOfLines, hend, hlength]
  simp

/-- An event with output. -/
def outputData : Bytes := ascii "\x7b\"choices\":[\x7b\"text\":\"a\"\x7d]\x7d"

/-- `json.loads` on numbers and on `outputData`. -/
def loadsNumbers (data : Bytes) : Except LoadsError PyJson.Json :=
  if data.all fun b => 0x30 ≤ b ∧ b ≤ 0x39 then
    if 4300 < data.length then .error .valueError
    else .ok (.int (data.foldl (fun n b => 10 * n + (b.toNat - 48)) 0))
  else if data = outputData then
    .ok (.dict [("choices", .list [.dict [("text", .string "a")]])])
  else .error .jsonDecodeError

/-- An event with a number of 4301 digits, and one with output. -/
def longNumberChunks : List Bytes :=
  [ascii "data: " ++ ones 4300 ++ newlineByte :: newlineByte :: [],
    ascii "data: " ++ outputData ++ newlineByte :: newlineByte :: []]

/-- The number raises, and the output is not seen. -/
theorem long_number_raises : ¬ Detects loadsNumbers longNumberChunks := by
  have hflatten : longNumberChunks.flatten
      = ascii "data: " ++ ones 4300 ++ newlineByte :: newlineByte
        :: (ascii "data: " ++ outputData ++ [newlineByte, newlineByte]) := by
    simp only [longNumberChunks, List.flatten_cons, List.flatten_nil,
      List.append_assoc, List.cons_append, List.nil_append, List.append_nil]
  have hlength : (ones 4300).length = 4301 := List.length_replicate
  have hdigits : (ones 4300).all (fun b => 0x30 ≤ b ∧ b ≤ 0x39) = true := by
    unfold ones
    rw [List.all_replicate]
    decide
  have hloads : loadsNumbers (ones 4300) = .error .valueError := by
    unfold loadsNumbers
    rw [if_pos hdigits, if_pos (by omega)]
  have hraises : ¬ SseEvent.Read loadsNumbers ⟨ones 4300, 4308⟩ := by
    intro hread
    have hcaught := hread (List.cons_ne_nil _ _) (fun hdone => by
      have hlen := congrArg List.length hdone
      rw [hlength] at hlen
      cases hlen) .valueError hloads
    cases hcaught
  obtain ⟨error, herror⟩ := SseEvent.exists_error loadsNumbers hraises
  refine not_detects_of_raises loadsNumbers ?_ hraises
  rw [hflatten, sseEvents_ones, List.takeWhile_cons_of_pos]
  · exact List.mem_cons_self ..
  · unfold SseEvent.hasOutput
    rw [herror]
    rfl

end Kareserve
