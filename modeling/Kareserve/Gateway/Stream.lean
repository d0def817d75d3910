/-
Detection of the first output of a streamed response
(`kareserve/observability.py`, `sse_data_has_output` and
`SSEOutputDetector`).

# The reader

`feed` gets the chunks as they come in, takes whole lines off its buffer
and collects the data lines of an event until an empty line ends it. It
returns at the first event with output and leaves the rest in the buffer.

# Parameters

`loads` is `json.loads` on bytes. Of its exceptions
`sse_data_has_output` catches two; any other one leaves `feed`, and with
it `stream_upstream`.
-/
import Kareserve.Lib.PyJson
import Kareserve.Tracker.Catalog
import Mathlib.Data.List.DropRight

namespace Kareserve

open PyJson (Json)

-- ============================================================= one event

/-- What `json.loads` raises on bytes. -/
inductive LoadsError where
  | unicodeDecodeError
  | jsonDecodeError
  /-- An integer of more digits than Python converts. -/
  | valueError
  | recursionError
  deriving DecidableEq

/-- The `except` clause of `sse_data_has_output`. -/
def LoadsError.caught : LoadsError → Bool
  | .unicodeDecodeError | .jsonDecodeError => true
  | .valueError | .recursionError => false

/-- `isinstance(x, str) and x`. -/
def isText : Json → Bool
  | .string s => decide (s ≠ "")
  | _ => false

/-- The body of the loop over the choices. -/
def choiceHasOutput (choice : Json) : Bool :=
  isText (choice.field "text" .null)
    || isText ((choice.field "delta" .null).field "content" .null)

/-- Bytes of ASCII text. -/
def ascii (s : String) : Bytes := s.toList.map fun c => UInt8.ofNat c.toNat

section Loads

variable (loads : Bytes → Except LoadsError Json)

/-- `sse_data_has_output`. -/
def sseDataHasOutput (data : Bytes) : Except LoadsError Bool :=
  if data = [] ∨ data = ascii "[DONE]" then .ok false
  else
    match loads data with
    | .error e => if e.caught then .ok false else .error e
    | .ok payload =>
        match payload.field "choices" .null with
        | .list choices => .ok (choices.any choiceHasOutput)
        | _ => .ok false

end Loads

-- ============================================================ the detector

/-- `b"\n"`. -/
def newlineByte : UInt8 := 0x0a

/-- `line.rstrip(b"\r")`. -/
def rstripCr (line : Bytes) : Bytes := line.rdropWhile (· = 0x0d)

/-- `data.lstrip()`, of the six ASCII blanks. -/
def lstrip (data : Bytes) : Bytes :=
  data.dropWhile fun b => b = 0x20 ∨ 0x09 ≤ b ∧ b ≤ 0x0d

/-- `b"\n".join(event_data)`. -/
def joinLines (eventData : List Bytes) : Bytes :=
  [newlineByte].intercalate eventData

structure SSEOutputDetector where
  lineBuffer : Bytes := []
  eventData : List Bytes := []
  deriving DecidableEq

namespace SSEOutputDetector

variable (loads : Bytes → Except LoadsError Json)

/-- The loop of `feed`. The fuel is the length of the buffer, of which
each pass takes a newline at least. -/
def drain : ℕ → SSEOutputDetector →
    Except LoadsError (SSEOutputDetector × Bool)
  | 0, d => .ok (d, false)
  | fuel + 1, d =>
      match d.lineBuffer.idxOf? newlineByte with
      | none => .ok (d, false)
      | some newline =>
          let line := rstripCr (d.lineBuffer.take newline)
          let lineBuffer := d.lineBuffer.drop (newline + 1)
          if ascii "data:" <+: line then
            drain fuel ⟨lineBuffer, d.eventData ++ [lstrip (line.drop 5)]⟩
          else if line = [] then
            match sseDataHasOutput loads (joinLines d.eventData) with
            | .error e => .error e
            | .ok true => .ok (⟨lineBuffer, []⟩, true)
            | .ok false => drain fuel ⟨lineBuffer, []⟩
          else drain fuel ⟨lineBuffer, d.eventData⟩

/-- `feed`. -/
def feed (d : SSEOutputDetector) (chunk : Bytes) :
    Except LoadsError (SSEOutputDetector × Bool) :=
  let lineBuffer := d.lineBuffer ++ chunk
  drain loads lineBuffer.length ⟨lineBuffer, d.eventData⟩

/-- The loop of `stream_upstream`, as far as it feeds the detector: the
number of the chunk of the first `True`. -/
def feedAll (d : SSEOutputDetector) : List Bytes →
    Except LoadsError (Option ℕ)
  | [] => .ok none
  | chunk :: chunks =>
      match d.feed loads chunk with
      | .error e => .error e
      | .ok (_, true) => .ok (some 0)
      | .ok (d, false) =>
          match feedAll d chunks with
          | .error e => .error e
          | .ok found => .ok (found.map (· + 1))

end SSEOutputDetector

end Kareserve
