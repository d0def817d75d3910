/-
A request before it is routed: `LocalRequestTokenizer`
(`kareserve/tokenizer.py`), and `handle_completion` (`kareserve/server.py`)
up to its await of `assign`.

# The library

`TokenizerLibrary` is the tokenizer of the `transformers` library. A chat
template is a program that runs in the router, so what matters of
`_encode_chat` is the call it makes: `ChatCall` is that call once Python
has bound its arguments. A keyword that is given twice, or is no text, is a
`TypeError` and no call.

# The body

A body is untrusted JSON. `dict` takes it from a sequence of pairs as well
as from an object, and so does `chat_template_kwargs`.

# What is raised

Of an exception that is no `HTTPException` only that it is one is kept: the
client is told of an internal error. A detail is `none` where its text is
Python's or the library's.
-/
import Kareserve.Gateway.App

namespace Kareserve

open PyJson (Json Exc Builtins HashKey)

-- ========================================================= the tokenizer

/-- What `encode_request` raises. -/
inductive EncodeError where
  | typeError (message : Option String)
  | valueError (message : Option String)
  /-- An exception of the library that is neither. -/
  | other
  deriving DecidableEq

/-- An exception of a built-in operation. -/
def EncodeError.ofBuiltin : Exc → EncodeError
  | .typeError => .typeError none
  | .valueError => .valueError none
  | .attributeError | .overflowError => .other

/-- A call of `apply_chat_template`, which is always made with
`tokenize=False`. -/
structure ChatCall where
  messages : List Json
  chatTemplate : Json
  addGenerationPrompt : Bool
  continueFinalMessage : Bool
  keywords : PyDict String Json

/-- The tokenizer of the library. -/
structure TokenizerLibrary where
  /-- `encode`, by its argument and `add_special_tokens`. -/
  encode : Json → Bool → Except EncodeError (List Token)
  applyChatTemplate : ChatCall → Except EncodeError Json

/-- `LocalRequestTokenizer`, beside its library. -/
structure LocalRequestTokenizer where
  maxModelLen : ℤ
  chatTemplate : Option String
  allowRequestChatTemplate : Bool

/-- The arguments of `apply_chat_template` that are given by name. -/
def namedArguments : List String :=
  ["chat_template", "add_generation_prompt", "continue_final_message",
    "tokenize"]

/-- `**kwargs`, beside the named arguments. -/
def passKeywords (kwargs : PyDict HashKey Json) :
    Except Exc (PyDict String Json) := do
  let keywords ← kwargs.items.mapM fun p =>
    match p.1 with
    | .string name =>
        if name ∈ namedArguments then throw .typeError else return (name, p.2)
    | _ => throw .typeError
  return .ofList keywords

/-- A member of a body. -/
def bodyGet (body : List (String × Json)) (name : String) (default : Json) :
    Json :=
  (Json.member body name).getD default

/-- `dict(body.get("chat_template_kwargs") or {})`. -/
def configuredKwargs (body : List (String × Json)) :
    Except Exc (PyDict HashKey Json) :=
  let configured := bodyGet body "chat_template_kwargs" .null
  if configured.truthy then configured.toDict else .ok .empty

/-- What is left of the configured keywords, and the tools. -/
def withTools (body : List (String × Json)) (kwargs : PyDict HashKey Json) :
    PyDict HashKey Json :=
  let kwargs := kwargs.erase (.string "add_generation_prompt")
  let kwargs := kwargs.erase (.string "continue_final_message")
  match bodyGet body "tools" .null with
  | .null => kwargs
  | tools => kwargs.set (.string "tools") tools

/-- `kwargs`. -/
def chatKwargs (body : List (String × Json)) :
    Except Exc (PyDict HashKey Json) :=
  (configuredKwargs body).map (withTools body)

namespace LocalRequestTokenizer

/-- `__init__`, with the text at `chat_template_path`. -/
def init (maxModelLen : ℤ) (chatTemplate : Option String)
    (allowRequestChatTemplate : Bool) : LocalRequestTokenizer where
  maxModelLen := max 1 maxModelLen
  chatTemplate
  allowRequestChatTemplate

variable (t : LocalRequestTokenizer) (library : TokenizerLibrary)

/-- `self.chat_template`. -/
def ownTemplate : Json := (t.chatTemplate.map .string).getD .null

/-- `chat_template`, unless it is disabled. -/
def templateOf (body : List (String × Json)) : Except EncodeError Json :=
  match bodyGet body "chat_template" .null with
  | .null => .ok t.ownTemplate
  | template =>
      if t.allowRequestChatTemplate then
        .ok (if template.truthy then template else t.ownTemplate)
      else
        .error (.valueError
          (some "Request-specific chat_template is disabled"))

/-- `_encode_chat`. -/
def encodeChat (body : List (String × Json)) :
    Except EncodeError (List Token) := do
  match bodyGet body "messages" .null with
  | .list messages =>
      let chatTemplate ← t.templateOf body
      let kwargs ← (chatKwargs body).mapError .ofBuiltin
      let keywords ← (passKeywords kwargs).mapError .ofBuiltin
      let rendered ← library.applyChatTemplate {
        messages
        chatTemplate
        addGenerationPrompt :=
          (bodyGet body "add_generation_prompt" (.bool true)).truthy
        continueFinalMessage :=
          (bodyGet body "continue_final_message" (.bool false)).truthy
        keywords }
      library.encode rendered
        (bodyGet body "add_special_tokens" (.bool false)).truthy
  | _ => throw (.typeError (some "Chat messages must be a list"))

/-- `_encode_completion`. -/
def encodeCompletion (body : List (String × Json)) :
    Except EncodeError (List Token) :=
  match bodyGet body "prompt" .null with
  | .string prompt =>
      library.encode (.string prompt)
        (bodyGet body "add_special_tokens" (.bool true)).truthy
  | _ => .error (.typeError (some "Completion prompt must be a string"))

/-- `encode_request`. -/
def encodeRequest (body : List (String × Json)) :
    Except EncodeError (List Token) :=
  if (Json.member body "messages").isSome then t.encodeChat library body
  else if (Json.member body "prompt").isSome then
    encodeCompletion library body
  else .error (.valueError (some "Request must contain messages or prompt"))

end LocalRequestTokenizer

-- ============================================================ the handler

/-- What a handler raises. -/
inductive HandlerError where
  | http (status : ℕ) (detail : Option String)
  | internal
  deriving DecidableEq

/-- A request as it comes in, with the two ids that may be drawn for it. -/
structure CompletionRequest where
  /-- What `raw_request.json()` returns, where it does. -/
  body : Option Json
  requestIdHeader : Option String
  routeUuid : String
  requestUuid : String

/-- `parse_json_request`. -/
def parseJsonRequest (body : Option Json) :
    Except HandlerError (List (String × Json)) :=
  match body with
  | none => .error (.http 400 (some "Invalid JSON payload"))
  | some (.dict members) => .ok members
  | some _ => .error (.http 400 (some "JSON payload must be an object"))

/-- The `except` clause around `encode_request`. -/
def EncodeError.answer : EncodeError → HandlerError
  | .typeError message | .valueError message => .http 400 message
  | .other => .internal

/-- `configured_output`. -/
def configuredOutput (body : List (String × Json))
    (expectedOutputTokens : ℤ) : Json :=
  match bodyGet body "max_tokens" .null with
  | .null => bodyGet body "max_completion_tokens" (.int expectedOutputTokens)
  | configured => configured

section Handler

variable (b : Builtins) (t : LocalRequestTokenizer)
  (library : TokenizerLibrary) (expectedOutputTokens : ℤ)

/-- `request_id`. -/
def CompletionRequest.requestId (r : CompletionRequest)
    (body : List (String × Json)) : String :=
  let given := bodyGet body "request_id" .null
  if given.truthy then given.toStr b
  else
    match r.requestIdHeader.filter fun value => value ≠ "" with
    | some value => value
    | none => "kareserve-" ++ r.requestUuid

/-- `handle_completion`, up to its await of `assign`: the request it hands
to the pool, and what it keeps. -/
def beforeAssign (r : CompletionRequest) :
    Except HandlerError (SchedulerRequest × Handler) := do
  let body ← parseJsonRequest r.body
  let promptTokens ← (t.encodeRequest library body).mapError EncodeError.answer
  let limit ← ((configuredOutput body expectedOutputTokens).toInt b).mapError
    fun _ => HandlerError.internal
  return (
    { requestId := "route-" ++ r.routeUuid
      promptTokens
      maxTokens := max 0 limit },
    { requestId := r.requestId b body
      stream := (bodyGet body "stream" (.bool false)).truthy })

end Handler

end Kareserve
