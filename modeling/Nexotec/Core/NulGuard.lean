/-
The NUL guard (`app/core/nul_guard.py`).

A request whose path, query or body carries U+0000 is refused before routing.  The body is read to
its end and handed on as one message; whatever is handed on reads as what the client sent.

* `collect_spec`, `bodySent_of_app` — the body read is the body sent, and so is the body handed on.
-/
import Mathlib
import Nexotec.Core.Base
import Nexotec.Core.Json
import Nexotec.Lib.UrlEncoded

namespace Nexotec.NulGuard

open UrlEncoded

abbrev Bytes := List UInt8

/-- `decode("latin-1")` -/
def latin1 (bytes : Bytes) : List ℕ := bytes.map UInt8.toNat

def asciiText (s : String) : List ℕ := s.toList.map Char.toNat

/-! ### Decoded values -/

/-- What the loop of `contains_nul` adds to its list; the end of the list comes first here. -/
def children : Json → List Json
  | .object fields => (fields.map Prod.snd).reverse ++ (fields.map fun f => .str f.1).reverse
  | .list values => values.reverse
  | _ => []

theorem sum_sizeOf_values (values : List Json) : (values.map sizeOf).sum ≤ sizeOf values := by
  induction values with
  | nil => simp
  | cons value values ih =>
    simp only [List.map_cons, List.sum_cons, List.cons.sizeOf_spec]
    omega

theorem sum_sizeOf_fields (fields : List (PyText × Json)) : ((fields.map Prod.snd).map sizeOf).sum +
      ((fields.map fun f => Json.str f.1).map sizeOf).sum ≤ sizeOf fields := by
  induction fields with
  | nil => simp
  | cons field fields ih =>
    obtain ⟨key, value⟩ := field
    simp only [List.map_cons, List.sum_cons, List.cons.sizeOf_spec, Prod.mk.sizeOf_spec,
      Json.str.sizeOf_spec] at ih ⊢
    omega

theorem sum_sizeOf_children (item : Json) : ((children item).map sizeOf).sum < sizeOf item := by
  cases item with
  | object fields =>
    have h := sum_sizeOf_fields fields
    simp only [children, List.map_append, List.map_reverse, List.sum_append, List.sum_reverse,
      Json.object.sizeOf_spec]
    omega
  | list values =>
    have h := sum_sizeOf_values values
    simp only [children, List.map_reverse, List.sum_reverse, Json.list.sizeOf_spec]
    omega
  | _ => simp [children]

/-- The loop of `contains_nul`. -/
def containsLoop : List Json → Bool
  | [] => false
  | item :: pending =>
    match item with
    | .str t => if 0 ∈ t then true else containsLoop pending
    | item => containsLoop (children item ++ pending)
termination_by pending => (pending.map sizeOf).sum
decreasing_by
  · simp
  · have h := sum_sizeOf_children item
    simp only [List.map_append, List.sum_append, List.map_cons, List.sum_cons]
    omega

def containsNul (value : Json) : Bool := containsLoop [value]

/-- The text is in the value, as a key or as a value. -/
inductive Occurs (t : PyText) : Json → Prop
  | str : Occurs t (.str t)
  | item {value : Json} {values : List Json} (hmem : value ∈ values) (h : Occurs t value) :
    Occurs t (.list values)
  | key {value : Json} {fields : List (PyText × Json)} (hmem : (t, value) ∈ fields) :
    Occurs t (.object fields)
  | field {key : PyText} {value : Json} {fields : List (PyText × Json)}
    (hmem : (key, value) ∈ fields) (h : Occurs t value) : Occurs t (.object fields)

def HasNul (value : Json) : Prop := ∃ t, Occurs t value ∧ 0 ∈ t

theorem hasNul_str (t : PyText) : HasNul (.str t) ↔ 0 ∈ t := by
  constructor
  · rintro ⟨t', ht, hzero⟩
    cases ht
    exact hzero
  · intro h
    exact ⟨t, .str, h⟩

theorem hasNul_children {item : Json} (hstr : ∀ t, item ≠ .str t) :
    HasNul item ↔ ∃ child ∈ children item, HasNul child := by
  constructor
  · rintro ⟨t, ht, hzero⟩
    cases ht with
    | str => exact absurd rfl (hstr t)
    | item hmem h => exact ⟨_, List.mem_reverse.mpr hmem, t, h, hzero⟩
    | key hmem =>
      exact ⟨.str t, List.mem_append_right _ (List.mem_reverse.mpr (List.mem_map.mpr ⟨_, hmem, rfl⟩)),
        t, .str, hzero⟩
    | field hmem h =>
      exact ⟨_, List.mem_append_left _ (List.mem_reverse.mpr (List.mem_map.mpr ⟨_, hmem, rfl⟩)),
        t, h, hzero⟩
  · rintro ⟨child, hchild, t, ht, hzero⟩
    cases item with
    | object fields =>
      rcases List.mem_append.mp hchild with h | h
      · obtain ⟨⟨key, value⟩, hmem, rfl⟩ := List.mem_map.mp (List.mem_reverse.mp h)
        exact ⟨t, .field hmem ht, hzero⟩
      · obtain ⟨⟨key, value⟩, hmem, rfl⟩ := List.mem_map.mp (List.mem_reverse.mp h)
        cases ht
        exact ⟨key, .key hmem, hzero⟩
    | list values => exact ⟨t, .item (List.mem_reverse.mp hchild) ht, hzero⟩
    | _ => cases hchild

theorem containsLoop_str (t : PyText) (pending : List Json) :
    containsLoop (.str t :: pending) = if 0 ∈ t then true else containsLoop pending := by
  conv_lhs => unfold containsLoop

theorem containsLoop_children {item : Json} (hstr : ∀ t, item ≠ .str t) (pending : List Json) :
    containsLoop (item :: pending) = containsLoop (children item ++ pending) := by
  conv_lhs => unfold containsLoop
  cases item with
  | str t => exact absurd rfl (hstr t)
  | _ => rfl

theorem containsLoop_iff (pending : List Json) :
    containsLoop pending = true ↔ ∃ value ∈ pending, HasNul value := by
  -- on the size of what is still to be seen, as the loop ends
  induction hsize : (pending.map sizeOf).sum using Nat.strong_induction_on
    generalizing pending with
  | _ size ih =>
    subst hsize
    rcases pending with _ | ⟨item, pending⟩
    · unfold containsLoop
      simp
    have hitem := sum_sizeOf_children item
    rw [List.map_cons, List.sum_cons] at ih
    by_cases hstr : ∃ t, item = .str t
    · obtain ⟨t, rfl⟩ := hstr
      have hpending := ih _ (by omega) pending rfl
      rw [containsLoop_str]
      by_cases h : 0 ∈ t <;> simp [hasNul_str, h, hpending]
    · have hstr := not_exists.mp hstr
      have hpending := ih _ (by rw [List.map_append, List.sum_append]; omega)
        (children item ++ pending) rfl
      rw [containsLoop_children hstr, hpending, List.exists_mem_cons_iff, hasNul_children hstr]
      simp only [List.mem_append, or_and_right, exists_or]

/-- The traversal of a decoded value ends, and finds every text. -/
theorem containsNul_iff (value : Json) : containsNul value = true ↔ HasNul value := by
  rw [containsNul, containsLoop_iff]
  simp

/-! ### Requests -/

inductive ScopeType where
  | http
  | websocket
  | lifespan
  deriving DecidableEq

/-- What the guard reads of the scope; a missing key is `none`. -/
structure Scope where
  type : ScopeType
  path : PyText
  queryString : Option Bytes
  headers : Option (List (Bytes × Bytes))

/-- A message of `receive`; `other` is of any other type than `http.request`. -/
inductive Message where
  | request (body : Option Bytes) (moreBody : Option Bool)
  | other

/-- `message.get("body", b"")` -/
def Message.body : Message → Bytes
  | .request body _ => body.getD []
  | .other => []

/-- `json.loads`; it raises a `ValueError`, or a `RecursionError` for what is nested too deep. -/
inductive LoadsError where
  | valueError
  | recursionError

abbrev Loads := Bytes → Except LoadsError Json

def nulRefused : String :=
  "The request contains a character that is not allowed (NUL, U+0000)."

inductive Location where
  | path
  | query
  | body

def Location.text : Location → String
  | .path => "path"
  | .query => "query"
  | .body => "body"

/-- The error of `_refuse`. -/
def refusal (location : Location) : AppError :=
  ⟨.unprocessableEntity, nulRefused, [("reason", "nul_character"), ("location", location.text)]⟩

/-- What becomes of a request: the application gets `seen` from its `receive`, the client gets the
error, an exception escapes, or the guard waits for the rest of the body. -/
inductive Outcome where
  | app (seen : List Message)
  | refused (error : AppError)
  | raised (error : LoadsError)
  | waiting

def queryHasNul (raw : Bytes) : Bool :=
  (parseQsl (latin1 raw)).any fun pair => decide (0 ∈ pair.1) || decide (0 ∈ pair.2)

/-- `strip` of a Latin-1 text. -/
def strip (t : List ℕ) : List ℕ :=
  let isSpace (c : ℕ) : Bool := (9 ≤ c ∧ c ≤ 13) ∨ (28 ≤ c ∧ c ≤ 32) ∨ c = 0x85 ∨ c = 0xA0
  ((t.dropWhile isSpace).reverse.dropWhile isSpace).reverse

/-- `lower` of a Latin-1 text. -/
def lower (t : List ℕ) : List ℕ := t.map fun c =>
  if (0x41 ≤ c ∧ c ≤ 0x5A) ∨ (0xC0 ≤ c ∧ c ≤ 0xDE ∧ c ≠ 0xD7) then c + 32 else c

def contentType (scope : Scope) : List ℕ :=
  match (scope.headers.getD []).find? fun header => latin1 header.1 = asciiText "content-type" with
  | some (_, value) => lower (strip ((latin1 value).takeWhile (· ≠ 0x3B)))
  | none => []

def isJson (contentType : List ℕ) : Bool :=
  contentType.isEmpty || contentType == asciiText "application/json" ||
    (asciiText "+json").isSuffixOf contentType

def isForm (contentType : List ℕ) : Bool :=
  contentType == asciiText "application/x-www-form-urlencoded"

def bodyHasNul (loads : Loads) (contentType : List ℕ) (body : Bytes) : Except LoadsError Bool :=
  if body.isEmpty then .ok false
  else if isForm contentType then .ok (queryHasNul body)
  else if !isJson contentType then .ok false
  else match loads body with
    -- not JSON: the route's own validation answers it
    | .error .valueError => .ok false
    | .error .recursionError => .error .recursionError
    | .ok decoded => .ok (containsNul decoded)

/-- How the loop over `receive` ends; `rest` is what the client sends after it. -/
inductive Collected where
  | complete (received rest : List Message)
  | gone (received rest : List Message)
  | waiting

def collect (received : List Message) : List Message → Collected
  | [] => .waiting
  | .other :: rest => .gone (received ++ [.other]) rest
  | .request body moreBody :: rest =>
    if moreBody.getD false then collect (received ++ [.request body moreBody]) rest
    else .complete (received ++ [.request body moreBody]) rest

/-- What `_replay` returns: the messages first, then what `receive` still has. -/
def replay (messages rest : List Message) : List Message := messages ++ rest

/-- `NulCharacterGuard.__call__` -/
def call (loads : Loads) (exemptPaths : List PyText) (scope : Scope) (messages : List Message) :
    Outcome :=
  if scope.type ≠ .http ∨ scope.path ∈ exemptPaths then .app messages
  else if 0 ∈ scope.path then .refused (refusal .path)
  else if queryHasNul (scope.queryString.getD []) then .refused (refusal .query)
  else if !(isJson (contentType scope) || isForm (contentType scope)) then .app messages
  else match collect [] messages with
    | .waiting => .waiting
    | .gone received rest => .app (replay received rest)
    | .complete received rest =>
      let body := received.flatMap Message.body
      match bodyHasNul loads (contentType scope) body with
      | .error e => .raised e
      | .ok true => .refused (refusal .body)
      | .ok false => .app (replay [.request (some body) (some false)] rest)

/-! ### What is read -/

/-- The body that the messages carry, and what comes after it; `none` when it breaks off. -/
def bodySent : List Message → Option (Bytes × List Message)
  | [] => none
  | .other :: _ => none
  | .request body moreBody :: rest =>
    if moreBody.getD false then (bodySent rest).map fun sent => (body.getD [] ++ sent.1, sent.2)
    else some (body.getD [], rest)

/-- A text of the request has a NUL: of its path, its query, or its form or JSON body. -/
def RequestHasNul (loads : Loads) (scope : Scope) (body : Bytes) : Prop :=
  0 ∈ scope.path ∨ Carries (latin1 (scope.queryString.getD [])) ∨
    (isForm (contentType scope) = true ∧ Carries (latin1 body)) ∨
    (isJson (contentType scope) = true ∧ body ≠ [] ∧
      ∃ value, loads body = .ok value ∧ HasNul value)

/-- A query is caught by its raw bytes, or by the escape `%00`. -/
theorem queryHasNul_iff (raw : Bytes) : queryHasNul raw = true ↔ Carries (latin1 raw) := by
  rw [← zero_mem_parseQsl, queryHasNul, List.any_eq_true]
  simp

/-- The loop and a reader of the body agree on where it ends. -/
theorem collect_spec (received messages : List Message) :
    match collect received messages with
    | .complete received' rest => ∃ body, bodySent messages = some (body, rest) ∧
        received'.flatMap Message.body = received.flatMap Message.body ++ body
    | .gone received' rest => bodySent messages = none ∧ received' ++ rest = received ++ messages
    | .waiting => bodySent messages = none := by
  induction messages generalizing received with
  | nil => rfl
  | cons message messages ih =>
    cases message with
    | other =>
      refine ⟨rfl, ?_⟩
      simp
    | request chunk moreBody =>
      rw [collect, bodySent]
      by_cases hmore : moreBody.getD false = true
      · rw [if_pos hmore, if_pos hmore]
        have h := ih (received ++ [.request chunk moreBody])
        cases hcollect : collect (received ++ [.request chunk moreBody]) messages with
        | complete received' rest =>
          rw [hcollect] at h
          obtain ⟨body, hsent, hbody⟩ := h
          refine ⟨chunk.getD [] ++ body, by rw [hsent]; rfl, ?_⟩
          rw [hbody]
          simp [Message.body]
        | gone received' rest =>
          rw [hcollect] at h
          exact ⟨by rw [h.1]; rfl, by simpa using h.2⟩
        | waiting =>
          rw [hcollect] at h
          show Option.map _ (bodySent messages) = none
          rw [h]
          rfl
      · rw [if_neg hmore, if_neg hmore]
        exact ⟨_, rfl, by simp [Message.body]⟩

theorem isJson_of_isForm {contentType : List ℕ} (h : isForm contentType = true) :
    isJson contentType = false := by
  rw [eq_of_beq h]
  decide

theorem bodyHasNul_spec {loads : Loads} (scope : Scope) {body : Bytes}
    (hloads : loads body ≠ .error .recursionError) :
    ∃ found, bodyHasNul loads (contentType scope) body = .ok found ∧ (found = true ↔
      (isForm (contentType scope) = true ∧ Carries (latin1 body)) ∨
      (isJson (contentType scope) = true ∧ body ≠ [] ∧
        ∃ value, loads body = .ok value ∧ HasNul value)) := by
  unfold bodyHasNul
  cases body with
  | nil => exact ⟨false, rfl, by simp [latin1, Carries]⟩
  | cons byte bytes =>
    rw [if_neg (by simp)]
    by_cases hform : isForm (contentType scope) = true
    · rw [if_pos hform]
      refine ⟨_, rfl, ?_⟩
      rw [queryHasNul_iff, isJson_of_isForm hform]
      simp [hform]
    rw [if_neg hform]
    by_cases hjson : isJson (contentType scope) = true
    · rw [if_neg (by simp [hjson])]
      cases h : loads (byte :: bytes) with
      | error e =>
        cases e with
        | valueError => exact ⟨false, rfl, by simp [hform]⟩
        | recursionError => exact absurd h hloads
      | ok decoded =>
        refine ⟨_, rfl, ?_⟩
        rw [containsNul_iff]
        simp [hform, hjson]
    · rw [if_pos (by simpa using hjson)]
      exact ⟨false, rfl, by simp [hform, hjson]⟩

theorem bodySent_of_app {loads : Loads} {exemptPaths : List PyText} {scope : Scope}
    {messages seen : List Message} (h : call loads exemptPaths scope messages = .app seen) :
    bodySent seen = bodySent messages := by
  unfold call at h
  split_ifs at h
  · exact congrArg bodySent (Outcome.app.inj h).symm
  · exact congrArg bodySent (Outcome.app.inj h).symm
  · have hspec := collect_spec [] messages
    split at h <;> rename_i hcollect
    · cases h
    · rw [hcollect] at hspec
      obtain rfl := Outcome.app.inj h
      rw [replay, hspec.2, List.nil_append]
    · rw [hcollect] at hspec
      obtain ⟨body, hsent, hbody⟩ := hspec
      simp only at h
      split at h
      · cases h
      · cases h
      · obtain rfl := Outcome.app.inj h
        rw [hsent, hbody]
        simp [replay, bodySent]

section

variable {loads : Loads} {exemptPaths : List PyText} {scope : Scope} {messages rest : List Message}
  {body : Bytes}

theorem call_spec (hsent : bodySent messages = some (body, rest)) (hhttp : scope.type = .http)
    (hexempt : scope.path ∉ exemptPaths) (hloads : loads body ≠ .error .recursionError) :
    (RequestHasNul loads scope body ∧
      ∃ location, call loads exemptPaths scope messages = .refused (refusal location)) ∨
    (¬ RequestHasNul loads scope body ∧
      ∃ seen, call loads exemptPaths scope messages = .app seen) := by
  unfold RequestHasNul call
  rw [if_neg (by simp [hhttp, hexempt])]
  by_cases hpath : 0 ∈ scope.path
  · exact .inl ⟨.inl hpath, .path, if_pos hpath⟩
  rw [if_neg hpath]
  by_cases hquery : queryHasNul (scope.queryString.getD []) = true
  · exact .inl ⟨.inr (.inl ((queryHasNul_iff _).mp hquery)), .query, if_pos hquery⟩
  rw [if_neg hquery]
  rw [queryHasNul_iff] at hquery
  simp only [hpath, hquery, false_or]
  by_cases htype : (isJson (contentType scope) || isForm (contentType scope)) = true
  · rw [if_neg (by rw [htype]; decide)]
    have hspec := collect_spec [] messages
    split at hspec
    · rename_i received rest' hcollect
      obtain ⟨body', hsent', hbody⟩ := hspec
      obtain ⟨rfl, rfl⟩ := Prod.mk.inj (Option.mem_unique hsent' hsent)
      rw [List.flatMap_nil, List.nil_append] at hbody
      obtain ⟨found, hfound, hiff⟩ := bodyHasNul_spec scope hloads
      rw [hcollect]
      simp only [hbody, hfound]
      rw [← hiff]
      cases found with
      | true => exact .inl ⟨rfl, .body, rfl⟩
      | false => exact .inr ⟨Bool.false_ne_true, _, rfl⟩
    · rw [hspec.1] at hsent
      cases hsent
    · rw [hspec] at hsent
      cases hsent
  · -- a body of any other type is not read
    rw [if_pos (by simpa using htype)]
    refine .inr ⟨?_, _, rfl⟩
    simp only [Bool.or_eq_true] at htype
    tauto

end

def bytes (s : String) : Bytes := s.toList.map fun c => UInt8.ofNat c.toNat

/-- **A route that handles a NUL itself is let through**: the login front door, whose refusal is the
uniform 401. -/
theorem exempt_passes : ¬ ∀ (loads : Loads) (exemptPaths : List PyText) (scope : Scope)
    (messages : List Message) (body : Bytes) (rest : List Message),
    bodySent messages = some (body, rest) → scope.type = .http →
    ((∃ seen, call loads exemptPaths scope messages = .app seen) ↔
      ¬ RequestHasNul loads scope body) := by
  intro h
  let email : Json := .object [(text "email", .str [0])]
  have hlogin := h (fun _ => .ok email) [text "/v1/auth/login"]
    ⟨.http, text "/v1/auth/login", none, none⟩
    [.request (some (bytes "\x7b\x22email\x22: \x22\\u0000\x22\x7d")) none] _ [] rfl rfl
  refine hlogin.mp ⟨_, if_pos (.inr (by decide))⟩ (.inr (.inr (.inr ⟨rfl, by decide, email, rfl, ?_⟩)))
  exact ⟨[0], .field List.mem_cons_self .str, by decide⟩

/-- **The NUL guard.**  The traversal finds exactly the values with a NUL in some text.  What is
handed on reads as what was sent.  A request to an exempt path, or of another protocol, is handed on
as it is; any other whose body arrives passes on exactly when no text of it has a NUL, and is refused
when one has, unless the JSON reader itself gives up on the nesting of the body. -/
theorem nul_guard : (∀ value, containsNul value = true ↔ HasNul value) ∧
    ∀ (loads : Loads) (exemptPaths : List PyText) (scope : Scope) (messages : List Message),
      (∀ seen, call loads exemptPaths scope messages = .app seen →
        bodySent seen = bodySent messages) ∧ (scope.type ≠ .http ∨ scope.path ∈ exemptPaths →
        call loads exemptPaths scope messages = .app messages) ∧
      ∀ (body : Bytes) (rest : List Message), bodySent messages = some (body, rest) →
        scope.type = .http → scope.path ∉ exemptPaths → loads body ≠ .error .recursionError →
        ((∃ seen, call loads exemptPaths scope messages = .app seen) ↔
          ¬ RequestHasNul loads scope body) ∧ (RequestHasNul loads scope body →
          ∃ location, call loads exemptPaths scope messages = .refused (refusal location)) := by
  refine ⟨containsNul_iff, ?_⟩
  intro loads exemptPaths scope messages
  refine ⟨fun seen h => bodySent_of_app h, fun h => if_pos h, ?_⟩
  intro body rest hsent hhttp hexempt hloads
  rcases call_spec hsent hhttp hexempt hloads with ⟨hnul, location, hcall⟩ | ⟨hnul, seen, hcall⟩
  · refine ⟨⟨?_, fun h => absurd hnul h⟩, fun _ => ⟨location, hcall⟩⟩
    rintro ⟨seen, hseen⟩
    rw [hcall] at hseen
    cases hseen
  · exact ⟨⟨fun _ => hnul, fun _ => ⟨seen, hcall⟩⟩, fun h => absurd h hnul⟩

/-- The escape is found when the body is cut within it. -/
theorem nul_guard_chunks : ∃ location,
    call (fun _ => .error .valueError) [] ⟨.http, text "/v1/auth/token", none,
        some [(bytes "content-type", bytes "application/x-www-form-urlencoded; charset=utf-8")]⟩
      [.request (some (bytes "a=%0")) (some true), .request (some (bytes "0")) none] =
    .refused (refusal location) :=
  ((nul_guard.2 _ _ _ _).2.2 (bytes "a=%00") [] rfl rfl (by simp) (by simp)).2
    (.inr (.inr (.inl ⟨by decide, by
      show Carries [0x61, 0x3D, 0x25, 0x30, 0x30]
      simp [Carries]⟩)))

end Nexotec.NulGuard
