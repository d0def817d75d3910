/-
What a request can do before it is routed (Gateway/Front.lean).

The body of a request is untrusted, and some of it reaches a program: the
keywords of `apply_chat_template` come from `chat_template_kwargs`. The
calls that are made are confined (`Confined`), and what the library would
do with any other call cannot be told from the outside
(`calls_confined`).

What is answered before routing is one of three (`beforeAssign_answers`):
the request goes on to the pool, it is a bad request, or it is an internal
error. The last is for an output limit that is no number, and a `null` in
`max_completion_tokens` is no number, while one in `max_tokens` is as good
as nothing.
-/
import Kareserve.Gateway.Front

namespace Kareserve

open PyJson (Json Exc Builtins HashKey)

-- ============================================================== the calls

/-- A call no request has had its way with: the named arguments are the
router's own, and the template is unless requests may bring theirs. -/
structure LocalRequestTokenizer.Confined (t : LocalRequestTokenizer)
    (call : ChatCall) : Prop where
  named : ∀ name ∈ namedArguments, call.keywords.get name = none
  template : t.allowRequestChatTemplate = false →
    call.chatTemplate = t.ownTemplate

/-- A keyword is passed once, and under a text. -/
theorem mem_of_passKeywords {kwargs : PyDict HashKey Json}
    {keywords : PyDict String Json} (h : passKeywords kwargs = .ok keywords)
    {name : String} {value : Json} (hget : keywords.get name = some value) :
    (HashKey.string name, value) ∈ kwargs.items ∧ name ∉ namedArguments := by
  unfold passKeywords at h
  obtain ⟨passed, hpassed, h⟩ := Fault.exists_of_bind h
  injection h with h
  rw [← h] at hget
  obtain ⟨p, hp, hread⟩ :=
    Fault.exists_of_mem_mapM hpassed (PyDict.mem_of_get_ofList hget)
  obtain ⟨key, value'⟩ := p
  cases key with
  | string name' =>
      dsimp only at hread
      split at hread
      case isTrue => cases hread
      case isFalse hnamed =>
        injection hread with hread
        injection hread with hname hvalue
        subst hname hvalue
        exact ⟨hp, hnamed⟩
  | _ => cases hread

/-- No named argument is among the keywords of a call. -/
theorem named_of_passKeywords {kwargs : PyDict HashKey Json}
    {keywords : PyDict String Json}
    (h : (passKeywords kwargs).mapError EncodeError.ofBuiltin = .ok keywords) :
    ∀ name ∈ namedArguments, keywords.get name = none := by
  intro name hname
  cases hpassed : passKeywords kwargs with
  | error exc =>
      rw [hpassed] at h
      cases h
  | ok passed =>
      rw [hpassed] at h
      injection h with h
      subst h
      by_contra hsome
      obtain ⟨value, hget⟩ := Option.ne_none_iff_exists'.mp hsome
      exact (mem_of_passKeywords hpassed hget).2 hname

namespace LocalRequestTokenizer

variable {t : LocalRequestTokenizer} {body : List (String × Json)}

/-- Where requests may not bring a template, the one used is the router's. -/
theorem eq_ownTemplate_of_templateOf {template : Json}
    (h : t.templateOf body = .ok template)
    (hdisabled : t.allowRequestChatTemplate = false) :
    template = t.ownTemplate := by
  unfold templateOf at h
  split at h
  · injection h with h
    exact h.symm
  · rw [hdisabled, if_neg Bool.false_ne_true] at h
    cases h

variable {library library' : TokenizerLibrary}

/-- A prompt does not depend on calls that are never made. -/
theorem encodeRequest_congr (hencode : library.encode = library'.encode)
    (hcalls : ∀ call, t.Confined call →
      library.applyChatTemplate call = library'.applyChatTemplate call)
    (body : List (String × Json)) :
    t.encodeRequest library body = t.encodeRequest library' body := by
  unfold encodeRequest
  split
  case isTrue =>
    unfold encodeChat
    split
    · refine Fault.bind_congr fun template htemplate => ?_
      refine Fault.bind_congr fun kwargs _ => ?_
      refine Fault.bind_congr fun keywords hkeywords => ?_
      have hconfined : ∀ messages generation continued, t.Confined
          ⟨messages, template, generation, continued, keywords⟩ :=
        fun messages generation continued =>
          ⟨named_of_passKeywords hkeywords,
            eq_ownTemplate_of_templateOf htemplate⟩
      rw [hcalls _ (hconfined _ _ _), hencode]
    · rfl
  case isFalse =>
    unfold encodeCompletion
    rw [hencode]

end LocalRequestTokenizer

/-- No request reaches the template library past the router's own
arguments. Two libraries that agree on the calls with the router's own named
arguments, and with its own template unless requests may bring theirs,
cannot be told apart by any request, whatever its body: nothing a body
holds, in `chat_template_kwargs` or elsewhere, makes another call. -/
theorem calls_confined (b : Builtins) (t : LocalRequestTokenizer)
    (library library' : TokenizerLibrary)
    (hencode : library.encode = library'.encode)
    (hcalls : ∀ call, t.Confined call →
      library.applyChatTemplate call = library'.applyChatTemplate call)
    (expectedOutputTokens : ℤ) (r : CompletionRequest) :
    beforeAssign b t library expectedOutputTokens r
      = beforeAssign b t library' expectedOutputTokens r := by
  unfold beforeAssign
  refine Fault.bind_congr fun body _ => ?_
  rw [LocalRequestTokenizer.encodeRequest_congr hencode hcalls]

/-- A library that renders the template it is given, and one that knows only
the router's own, on a request that brings one. -/
theorem calls_confined_one_request :
    let t : LocalRequestTokenizer := .init 2048 (some "own") false
    let encode : Json → Bool → Except EncodeError (List Token) := fun text _ =>
      match text with
      | .string s => .ok [(s.length : ℤ)]
      | _ => .error .other
    let r : CompletionRequest :=
      { body := some (.dict [("messages", .list []),
          ("chat_template_kwargs",
            .list [.list [.string "chat_template", .string "{{ x }}"]])])
        requestIdHeader := none
        routeUuid := "0"
        requestUuid := "1" }
    beforeAssign ⟨fun _ => none, fun _ => ""⟩ t
        ⟨encode, fun call => .ok call.chatTemplate⟩ 16 r
      = beforeAssign ⟨fun _ => none, fun _ => ""⟩ t
        ⟨encode, fun _ => .ok (.string "own")⟩ 16 r := by
  apply calls_confined
  · rfl
  · intro call hconfined
    show Except.ok call.chatTemplate = _
    rw [hconfined.template rfl]
    rfl

-- ============================================================ the answers

/-- `chat_template_kwargs` that can be passed on. -/
def KeywordsSound (configured : Json) : Prop :=
  configured.truthy = false ∨ ∃ entries, configured.ReadsAs entries ∧
    ∀ p ∈ entries, p.1 ≠ "chat_template" ∧ p.1 ≠ "tokenize"

/-- A body the router itself has nothing against. -/
def LocalRequestTokenizer.Sound (t : LocalRequestTokenizer)
    (body : List (String × Json)) : Prop :=
  if (Json.member body "messages").isSome then
    (∃ messages, bodyGet body "messages" .null = .list messages) ∧
    (t.allowRequestChatTemplate ∨ bodyGet body "chat_template" .null = .null) ∧
    KeywordsSound (bodyGet body "chat_template_kwargs" .null)
  else ∃ prompt, Json.member body "prompt" = some (.string prompt)

/-- What `int` takes. -/
def IsNumber (b : Builtins) : Json → Prop
  | .bool _ | .int _ | .float (.finite _) => True
  | .string s => (b.parseInt s).isSome
  | _ => False

/-- The library raises nothing at the calls that a body makes: one of
`encode` for a prompt, and one for the chat that its template renders. -/
structure LocalRequestTokenizer.Served (t : LocalRequestTokenizer)
    (library : TokenizerLibrary) (body : List (String × Json)) : Prop where
  prompt : Json.member body "messages" = none →
    ∀ prompt, bodyGet body "prompt" .null = .string prompt →
      ∃ tokens, library.encode (.string prompt)
        (bodyGet body "add_special_tokens" (.bool true)).truthy = .ok tokens
  chat : ∀ messages, bodyGet body "messages" .null = .list messages →
    ∀ chatTemplate, t.templateOf body = .ok chatTemplate →
    ∀ kwargs keywords, chatKwargs body = .ok kwargs →
      passKeywords kwargs = .ok keywords →
      ∃ rendered, library.applyChatTemplate {
          messages
          chatTemplate
          addGenerationPrompt :=
            (bodyGet body "add_generation_prompt" (.bool true)).truthy
          continueFinalMessage :=
            (bodyGet body "continue_final_message" (.bool false)).truthy
          keywords } = .ok rendered ∧
        ∃ tokens, library.encode rendered
          (bodyGet body "add_special_tokens" (.bool false)).truthy = .ok tokens

/-- `int` takes just these. -/
theorem isNumber_iff {b : Builtins} {x : Json} :
    IsNumber b x ↔ ∃ n, x.toInt b = .ok n := by
  rw [(Json.toInt_failsFirst b x).ok_iff]
  cases x with
  | float value => cases value <;> simp [IsNumber, Json.toIntFaults]
  | string s =>
      simp only [IsNumber, Json.toIntFaults]
      cases (b.parseInt s).isSome <;> simp
  | _ => simp [IsNumber, Json.toIntFaults]

/-- Which keywords are passed. -/
theorem passKeywords_ok_iff {kwargs : PyDict HashKey Json} :
    (∃ keywords, passKeywords kwargs = .ok keywords)
      ↔ ∀ key ∈ kwargs.keys, ∃ name, key = .string name
        ∧ name ∉ namedArguments := by
  unfold passKeywords
  rw [Fault.bind_ok_iff]
  have hok : ∀ passed : List (String × Json),
      ∃ keywords, (pure (PyDict.ofList passed) : Except Exc _) = .ok keywords :=
    fun passed => ⟨_, rfl⟩
  simp only [hok, and_true, Fault.mapM_ok_iff]
  unfold PyDict.keys
  simp only [List.forall_mem_map]
  refine forall₂_congr fun p _ => ?_
  obtain ⟨key, value⟩ := p
  cases key with
  | string name =>
      by_cases hname : name ∈ namedArguments
      · simp [hname, throw, throwThe, MonadExceptOf.throw]
      · simp [hname, pure, Except.pure]
  | _ => simp [throw, throwThe, MonadExceptOf.throw]

/-- The keys of `kwargs`. -/
theorem mem_keys_withTools {body : List (String × Json)}
    {kwargs : PyDict HashKey Json} (key : HashKey) :
    key ∈ (withTools body kwargs).keys
      ↔ (key ∈ kwargs.keys ∧ key ≠ .string "add_generation_prompt"
          ∧ key ≠ .string "continue_final_message")
        ∨ (key = .string "tools" ∧ bodyGet body "tools" .null ≠ .null) := by
  have herased : ∀ key, key ∈ ((kwargs.erase
        (.string "add_generation_prompt")).erase
          (.string "continue_final_message")).keys
      ↔ key ∈ kwargs.keys ∧ key ≠ .string "add_generation_prompt"
        ∧ key ≠ .string "continue_final_message" := by
    intro key
    simp only [PyDict.mem_keys_iff, PyDict.get_erase]
    by_cases hcontinue : key = .string "continue_final_message"
    · simp [hcontinue]
    · by_cases hgeneration : key = .string "add_generation_prompt"
      · simp [hgeneration]
      · simp [hcontinue, hgeneration]
  unfold withTools
  dsimp only
  split
  next htools =>
    rw [herased]
    simp [htools]
  next tools htools =>
    rw [PyDict.mem_keys_iff]
    simp only [PyDict.get_set]
    by_cases hkey : key = .string "tools"
    · simp only [hkey, if_true, true_and]
      exact iff_of_true ⟨_, rfl⟩ (Or.inr htools)
    · simp only [hkey, if_false, false_and, or_false]
      rw [← PyDict.mem_keys_iff, herased]

/-- Which keywords of a body are passed. -/
theorem keywords_ok_iff {body : List (String × Json)} :
    (∃ kwargs keywords, chatKwargs body = .ok kwargs
        ∧ passKeywords kwargs = .ok keywords)
      ↔ KeywordsSound (bodyGet body "chat_template_kwargs" .null) := by
  -- two of the names given are overwritten by the call, so a body may have
  -- them; the other two would be given twice
  have hpassed : ∀ kwargs : PyDict HashKey Json,
      (∃ keywords, passKeywords (withTools body kwargs) = .ok keywords)
        ↔ ∀ key ∈ kwargs.keys, ∃ name, key = .string name
          ∧ (name ≠ "chat_template" ∧ name ≠ "tokenize") := by
    intro kwargs
    rw [passKeywords_ok_iff]
    simp only [mem_keys_withTools, namedArguments, List.mem_cons,
      List.not_mem_nil, or_false, not_or]
    constructor
    · intro h key hkey
      by_cases hgeneration : key = .string "add_generation_prompt"
      · exact ⟨_, hgeneration, by decide⟩
      by_cases hcontinue : key = .string "continue_final_message"
      · exact ⟨_, hcontinue, by decide⟩
      obtain ⟨name, hname, hnot⟩ := h key (Or.inl ⟨hkey, hgeneration, hcontinue⟩)
      exact ⟨name, hname, hnot.1, hnot.2.2.2⟩
    · rintro h key (⟨hkey, hgeneration, hcontinue⟩ | ⟨rfl, -⟩)
      · obtain ⟨name, rfl, htemplate, htokenize⟩ := h key hkey
        refine ⟨name, rfl, htemplate, ?_, ?_, htokenize⟩
        · rintro rfl
          exact hgeneration rfl
        · rintro rfl
          exact hcontinue rfl
      · exact ⟨"tools", rfl, by decide⟩
  -- what is passed is what is configured, with the tools added
  have hread : (∃ kwargs keywords, chatKwargs body = .ok kwargs
        ∧ passKeywords kwargs = .ok keywords)
      ↔ ∃ kwargs, configuredKwargs body = .ok kwargs
        ∧ ∃ keywords, passKeywords (withTools body kwargs) = .ok keywords := by
    unfold chatKwargs
    cases configuredKwargs body with
    | error exc => simp [Except.map]
    | ok kwargs => simp [Except.map]
  rw [hread]
  simp only [hpassed]
  unfold configuredKwargs KeywordsSound
  dsimp only
  -- no keywords at all is an empty dict
  by_cases htruthy : (bodyGet body "chat_template_kwargs" .null).truthy = true
  · rw [if_pos htruthy, Json.toDict_texts_iff]
    simp [htruthy]
  · rw [if_neg htruthy]
    refine iff_of_true ⟨.empty, rfl, fun key hkey => by cases hkey⟩ (Or.inl ?_)
    exact Bool.eq_false_iff.mpr htruthy

/-- What `dict` raises is a `TypeError` or a `ValueError`, which the handler
answers with 400. -/
theorem chatKwargs_error {body : List (String × Json)} {exc : Exc}
    (h : chatKwargs body = .error exc) :
    exc = .typeError ∨ exc = .valueError := by
  unfold chatKwargs at h
  cases hconfigured : configuredKwargs body with
  | ok kwargs =>
      rw [hconfigured] at h
      cases h
  | error exc' =>
      rw [hconfigured] at h
      injection h with h
      subst h
      unfold configuredKwargs at hconfigured
      dsimp only at hconfigured
      split at hconfigured
      · exact Json.toDict_error hconfigured
      · cases hconfigured

/-- A keyword that cannot be passed is a `TypeError`. -/
theorem passKeywords_error {kwargs : PyDict HashKey Json} {exc : Exc}
    (h : passKeywords kwargs = .error exc) : exc = .typeError := by
  rcases Fault.error_of_bind h with h | ⟨passed, -, h⟩
  · obtain ⟨⟨key, value⟩, -, h⟩ := Fault.error_of_mapM h
    cases key with
    | string name =>
        dsimp only at h
        split at h
        · injection h with h
          exact h.symm
        · cases h
    | _ =>
        injection h with h
        exact h.symm
  · cases h

/-- Both are among what the handler catches. -/
theorem ofBuiltin_ne_other {exc : Exc}
    (h : exc = .typeError ∨ exc = .valueError) :
    EncodeError.ofBuiltin exc ≠ .other := by
  rcases h with rfl | rfl <;> exact EncodeError.noConfusion

namespace LocalRequestTokenizer

variable {t : LocalRequestTokenizer} {library : TokenizerLibrary}
  {body : List (String × Json)}

/-- A sound body has tokens, where the library raises nothing at its
calls. -/
theorem encodeRequest_of_sound (hserved : t.Served library body)
    (h : t.Sound body) :
    ∃ tokens, t.encodeRequest library body = .ok tokens := by
  unfold Sound at h
  unfold encodeRequest
  split at h
  case isTrue hmessages =>
    obtain ⟨⟨messages, hlist⟩, htemplate, hkeywords⟩ := h
    obtain ⟨kwargs, keywords, hkwargs, hpassed⟩ := keywords_ok_iff.mpr hkeywords
    have hallowed : ∃ template, t.templateOf body = .ok template := by
      unfold templateOf
      split
      · exact ⟨_, rfl⟩
      · next hnone =>
        rw [if_pos (htemplate.resolve_right hnone)]
        exact ⟨_, rfl⟩
    obtain ⟨template, hread⟩ := hallowed
    rw [if_pos hmessages]
    unfold encodeChat
    rw [hlist, hkwargs]
    dsimp only
    rw [Fault.bind_ok hread]
    show ∃ tokens, ((passKeywords kwargs).mapError _ >>= _) = .ok tokens
    rw [hpassed]
    show ∃ tokens, (library.applyChatTemplate _ >>= _) = .ok tokens
    -- the only calls are those of this request, which are answered
    obtain ⟨rendered, hrendered, htokens⟩ :=
      hserved.chat messages hlist template hread kwargs keywords hkwargs hpassed
    rw [Fault.bind_ok hrendered]
    exact htokens
  case isFalse hmessages =>
    obtain ⟨prompt, hprompt⟩ := h
    rw [if_neg hmessages, if_pos (by rw [hprompt]; rfl)]
    have hget : bodyGet body "prompt" .null = .string prompt := by
      unfold bodyGet
      rw [hprompt]
      rfl
    unfold encodeCompletion
    rw [hget]
    exact hserved.prompt (Option.not_isSome_iff_eq_none.mp hmessages) prompt hget

/-- Any other body is refused before the library is asked. -/
theorem encodeRequest_of_not_sound (h : ¬ t.Sound body) :
    ∃ error, t.encodeRequest library body = .error error ∧ error ≠ .other := by
  unfold Sound at h
  unfold encodeRequest
  split at h
  case isTrue hmessages =>
    rw [if_pos hmessages]
    unfold encodeChat
    split
    next messages hlist =>
      -- a template that may not be given is refused first
      cases htemplate : t.templateOf body with
      | error error =>
          refine ⟨error, rfl, ?_⟩
          unfold templateOf at htemplate
          split at htemplate
          · cases htemplate
          · split at htemplate
            · cases htemplate
            · injection htemplate with herror
              rw [← herror]
              exact EncodeError.noConfusion
      | ok template =>
          -- the template passes, so what is not sound is the keywords
          have hallowed : t.allowRequestChatTemplate
              ∨ bodyGet body "chat_template" .null = .null := by
            unfold templateOf at htemplate
            split at htemplate
            next hnull => exact Or.inr hnull
            next =>
              split at htemplate
              next hallow => exact Or.inl hallow
              next => cases htemplate
          have hkeywords : ¬ KeywordsSound
              (bodyGet body "chat_template_kwargs" .null) :=
            fun hkeywords => h ⟨⟨messages, hlist⟩, hallowed, hkeywords⟩
          rw [← keywords_ok_iff, not_exists] at hkeywords
          cases hkwargs : chatKwargs body with
          | error exc =>
              exact ⟨.ofBuiltin exc, rfl, ofBuiltin_ne_other
                (chatKwargs_error hkwargs)⟩
          | ok kwargs =>
              cases hpassed : passKeywords kwargs with
              | error exc =>
                  refine ⟨.ofBuiltin exc, ?_, ofBuiltin_ne_other
                    (Or.inl (passKeywords_error hpassed))⟩
                  show ((passKeywords kwargs).mapError _ >>= _) = _
                  rw [hpassed]
                  rfl
              | ok keywords =>
                  exact absurd ⟨keywords, hkwargs, hpassed⟩ (hkeywords kwargs)
    next hnone => exact ⟨_, rfl, EncodeError.noConfusion⟩
  case isFalse hmessages =>
    rw [if_neg hmessages]
    split
    · unfold encodeCompletion
      split
      next prompt hprompt =>
        refine absurd ⟨prompt, ?_⟩ h
        unfold bodyGet at hprompt
        cases hmember : Json.member body "prompt" with
        | none =>
            rw [hmember] at hprompt
            cases hprompt
        | some value =>
            rw [hmember] at hprompt
            exact congrArg some hprompt
      next => exact ⟨_, rfl, EncodeError.noConfusion⟩
    · exact ⟨_, rfl, EncodeError.noConfusion⟩

end LocalRequestTokenizer

section Answers

variable {b : Builtins} {t : LocalRequestTokenizer}
  {library : TokenizerLibrary} {expectedOutputTokens : ℤ}
  {r : CompletionRequest} {body : List (String × Json)}

/-- A body that is not sound is a bad request, whatever the library does. -/
theorem beforeAssign_of_not_sound
    (h : ¬ ∃ body, r.body = some (.dict body) ∧ t.Sound body) :
    ∃ detail, beforeAssign b t library expectedOutputTokens r
      = .error (.http 400 detail) := by
  unfold beforeAssign
  cases hbody : r.body with
  | none => exact ⟨_, rfl⟩
  | some json =>
      cases json with
      | dict body =>
          have hsound : ¬ t.Sound body := fun hsound => h ⟨body, hbody, hsound⟩
          obtain ⟨error, herror, hother⟩ : ∃ error,
              t.encodeRequest library body = .error error ∧ _ :=
            LocalRequestTokenizer.encodeRequest_of_not_sound hsound
          show ∃ detail, ((t.encodeRequest library body).mapError
            EncodeError.answer >>= _) = Except.error (HandlerError.http 400 detail)
          rw [herror]
          cases error with
          | typeError message => exact ⟨message, rfl⟩
          | valueError message => exact ⟨message, rfl⟩
          | other => exact absurd rfl hother
      | _ => exact ⟨_, rfl⟩

/-- A sound one has tokens, and then its output limit decides. -/
theorem beforeAssign_of_sound (hserved : t.Served library body)
    (hbody : r.body = some (.dict body)) (hsound : t.Sound body) :
    ∃ tokens, beforeAssign b t library expectedOutputTokens r
      = (((configuredOutput body expectedOutputTokens).toInt b).mapError
          fun _ => HandlerError.internal).map fun limit =>
        ({ requestId := "route-" ++ r.routeUuid
           promptTokens := tokens
           maxTokens := max 0 limit },
          { requestId := r.requestId b body
            stream := (bodyGet body "stream" (.bool false)).truthy }) := by
  obtain ⟨tokens, htokens⟩ :=
    LocalRequestTokenizer.encodeRequest_of_sound hserved hsound
  refine ⟨tokens, ?_⟩
  unfold beforeAssign
  rw [hbody]
  show ((t.encodeRequest library body).mapError _ >>= _) = _
  rw [htokens]
  rfl

end Answers

/-- What a request is answered before it is routed, where the library raises
nothing at the calls this very request makes. It goes on to the pool with a
limit that is not negative, or is a bad request, or an internal error, and
its body alone says which: it is a bad request unless the body is sound, and
of the others an internal error unless the output limit is a number. -/
theorem beforeAssign_answers (b : Builtins) (t : LocalRequestTokenizer)
    (library : TokenizerLibrary) (expectedOutputTokens : ℤ)
    (r : CompletionRequest)
    (hserved : ∀ body, r.body = some (.dict body) → t.Served library body) :
    ((∃ accepted, beforeAssign b t library expectedOutputTokens r = .ok accepted
        ∧ 0 ≤ accepted.1.maxTokens)
      ↔ ∃ body, r.body = some (.dict body) ∧ t.Sound body
        ∧ IsNumber b (configuredOutput body expectedOutputTokens)) ∧
    ((∃ detail, beforeAssign b t library expectedOutputTokens r
        = .error (.http 400 detail))
      ↔ ¬ ∃ body, r.body = some (.dict body) ∧ t.Sound body) ∧
    (beforeAssign b t library expectedOutputTokens r = .error .internal
      ↔ ∃ body, r.body = some (.dict body) ∧ t.Sound body
        ∧ ¬ IsNumber b (configuredOutput body expectedOutputTokens)) := by
  by_cases hsound : ∃ body, r.body = some (.dict body) ∧ t.Sound body
  · obtain ⟨body, hbody, hsound⟩ := hsound
    -- the request has one body, so what is said of some body is said of it
    have hunique : ∀ {P : List (String × Json) → Prop},
        (∃ body, r.body = some (.dict body) ∧ t.Sound body ∧ P body) ↔ P body := by
      intro P
      constructor
      · rintro ⟨body', hbody', -, hP⟩
        rw [hbody] at hbody'
        injection hbody' with hbody'
        injection hbody' with hbody'
        rw [hbody']
        exact hP
      · exact fun hP => ⟨body, hbody, hsound, hP⟩
    obtain ⟨tokens, hanswer⟩ : ∃ _, beforeAssign b t library
        expectedOutputTokens r = _ :=
      beforeAssign_of_sound (hserved body hbody) hbody hsound
    rw [hunique, hunique, isNumber_iff, hanswer]
    cases (configuredOutput body expectedOutputTokens).toInt b with
    | ok limit =>
        refine ⟨iff_of_true ⟨_, rfl, le_max_left _ _⟩ ⟨limit, rfl⟩, ?_, ?_⟩
        · refine iff_of_false (fun ⟨detail, h⟩ => by cases h) fun h => ?_
          exact h ⟨body, hbody, hsound⟩
        · exact iff_of_false (fun h => by cases h) fun h => h ⟨limit, rfl⟩
    | error exc =>
        refine ⟨iff_of_false (fun ⟨accepted, h, _⟩ => by cases h)
          (fun ⟨limit, h⟩ => by cases h), ?_, ?_⟩
        · refine iff_of_false (fun ⟨detail, h⟩ => by cases h) fun h => ?_
          exact h ⟨body, hbody, hsound⟩
        · exact iff_of_true rfl fun ⟨limit, h⟩ => by cases h
  -- a body that is not sound is refused before anything else is looked at
  · obtain ⟨detail, hanswer⟩ : ∃ detail, beforeAssign b t library
        expectedOutputTokens r = .error (.http 400 detail) :=
      beforeAssign_of_not_sound hsound
    rw [hanswer]
    refine ⟨iff_of_false (fun ⟨accepted, h, _⟩ => by cases h) ?_, ?_, ?_⟩
    · exact fun ⟨body, hbody, h, _⟩ => hsound ⟨body, hbody, h⟩
    · exact iff_of_true ⟨detail, rfl⟩ hsound
    · refine iff_of_false (fun h => by cases h) ?_
      exact fun ⟨body, hbody, h, _⟩ => hsound ⟨body, hbody, h⟩

/-- A `null` for a limit in a member that is not asked for one. The prompt has
tokens, and a chat would have none. -/
theorem beforeAssign_answers_null_limit :
    beforeAssign ⟨fun _ => none, fun _ => ""⟩ (.init 2048 none false)
      ⟨fun _ _ => .ok [2, 102], fun _ => .error .other⟩ 16
      { body := some (.dict
          [("prompt", .string "a"), ("max_completion_tokens", .null)])
        requestIdHeader := none
        routeUuid := "0"
        requestUuid := "1" } = .error .internal := by
  refine (beforeAssign_answers _ _ _ 16 _ fun body hbody => ?_).2.2.mpr
    ⟨_, rfl, ⟨"a", rfl⟩, id⟩
  injection hbody with hbody
  injection hbody with hbody
  subst hbody
  constructor
  · exact fun _ _ _ => ⟨_, rfl⟩
  · intro messages hmessages
    cases hmessages

end Kareserve
