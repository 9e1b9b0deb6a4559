import Automation.Platform.Client
import Automation.Proofs.Text.Split
import Automation.Proofs.Validation.Field
import Mathlib.Data.List.TakeWhile

/-!
# What the answers of the platform mean

A call ends well when it is answered with a status that reports no error and, unless it removes
labels, with a body that is what the call expects. Every other end is an error of the platform,
which has the status of the answer, if there was one. Statuses of success, and errors of the client
or of the server, are judged as such; a status that is neither, such as a redirect, passes for
success.

## Main definitions

* `Platform.Call.Understands` — the reply that a call takes a response for.
* `Platform.Call.Judges` — how a call ends with an exchange.

## Main statements

* `Platform.Call.accept_eq_ok_iff` — a response is accepted as the reply that it is understood as.
* `Platform.Call.namesProtocol_of_request` — requests say by which protocol they go out.
* `Platform.Call.judges_conclude` — calls are judged by the status and the body of their answers.
* `Platform.Call.conclude_redirected` — a redirect passes for the removal of labels.
-/

namespace Automation

/-! ## Where requests go -/

namespace Url

variable {scheme authority path : List Char} {query? fragment? : Option (List Char)} {url : Url}

/-- A name is the name of a scheme if it ends neither itself nor an authority. -/
def PlainScheme (scheme : List Char) : Prop := ∀ c ∈ scheme, c ≠ ':' ∧ c ≠ '/'

/-- No other character than itself has a sign that is no letter as its lower case. -/
theorem eq_of_toLower_eq {c d : Char} (hd : d.val < 'a'.val) (h : c.toLower = d) : c = d := by
  unfold Char.toLower at h
  split at h
  · rename_i hupper
    -- the lower case of a capital letter is not below `a`
    have hval : c.val + ('a'.val - 'A'.val) = d.val := congrArg Char.val h
    rw [← hval] at hd
    simp only [UInt32.lt_iff_toNat_lt, UInt32.le_iff_toNat_le, ge_iff_le, UInt32.toNat_add]
      at hd hupper
    have hletters : 'A'.val.toNat = 65 ∧ 'Z'.val.toNat = 90 ∧ 'a'.val.toNat = 97 ∧
        ('a'.val - 'A'.val).toNat = 32 := by decide
    omega
  · exact h

theorem PlainScheme.map_toLower (hplain : PlainScheme scheme) :
    PlainScheme (scheme.map Char.toLower) := by
  intro d hd
  obtain ⟨c, hc, rfl⟩ := List.mem_map.mp hd
  constructor
  · intro hcolon
    exact (hplain c hc).1 (eq_of_toLower_eq (by decide) hcolon)
  · intro hslash
    exact (hplain c hc).2 (eq_of_toLower_eq (by decide) hslash)

theorem plainScheme_takeScheme (cs : List Char) : PlainScheme (takeScheme cs).1 := by
  have hname : PlainScheme
      (cs.takeWhile fun c => c.isAlphanum || c = '+' || c = '.' || c = '-') := by
    intro c hc
    have hallowed := List.mem_takeWhile_imp hc
    constructor <;> rintro rfl <;> revert hallowed <;> decide
  have hnone : PlainScheme [] := List.forall_mem_nil _
  fun_cases takeScheme cs with
  | case1 | case3 | case4 => exact hnone
  | case2 => exact hname

theorem scheme_of_ofParts (h : ofParts scheme authority path query? fragment? = .ok url) :
    url.scheme = String.ofList (scheme.map Char.toLower) := by
  simp only [ofParts, bind, bind_eq_ok_iff] at h
  obtain ⟨userinfo, -, host, -, port?, -, h⟩ := h
  split at h
  · cases h
  split at h
  · cases h
  split at h
  · cases h
  · simp only [bind_eq_ok_iff] at h
    obtain ⟨path, -, query?, -, fragment?, -, h⟩ := h
    obtain rfl := Except.ok.inj h
    rfl

theorem plainScheme_of_ofParts (hplain : PlainScheme scheme)
    (h : ofParts scheme authority path query? fragment? = .ok url) :
    PlainScheme url.scheme.toList := by
  rw [scheme_of_ofParts h, String.toList_ofList]
  exact hplain.map_toLower

theorem plainScheme_of_read {text : String} (h : read text = .ok url) :
    PlainScheme url.scheme.toList := by
  unfold read at h
  dsimp only at h
  split at h
  · cases h
  split at h
  · cases h
  · exact plainScheme_of_ofParts (plainScheme_takeScheme _) h

theorem plainScheme_of_asBase {base : Url} (hplain : PlainScheme url.scheme.toList)
    (h : url.asBase = .ok base) : PlainScheme base.scheme.toList := by
  unfold asBase at h
  split at h
  · obtain rfl := Except.ok.inj h
    exact hplain
  · exact plainScheme_of_ofParts hplain h

/-- A text that starts with a slash is no absolute URL. -/
theorem scheme_of_read {text : String} {rest : List Char} (htext : text.toList = '/' :: rest)
    (h : read text = .ok url) : url.scheme = "" := by
  simp only [read, htext] at h
  split at h
  · cases h
  split at h
  · cases h
  · have hscheme : takeScheme ('/' :: rest) = ([], '/' :: rest) := rfl
    rw [hscheme] at h
    exact scheme_of_ofParts h

theorem scheme_of_resolve {base reference : Url} (hreference : reference.scheme = "")
    (h : base.resolve reference = .ok url) :
    url.scheme = String.ofList (base.scheme.toList.map Char.toLower) := by
  have habsolute : reference.isAbsolute = false := by simp [isAbsolute, hreference]
  rw [resolve, habsolute] at h
  exact scheme_of_ofParts h

/-- A URL with a scheme names the protocol that it is reached by. -/
theorem namesProtocol_of_scheme (hscheme : url.scheme ≠ "")
    (hplain : PlainScheme url.scheme.toList) : url.namesProtocol = true := by
  have htext : ∃ rest, ({ url with fragment? := none } : Url).text.toList =
      url.scheme.toList ++ ':' :: rest := by
    simp only [text, if_neg hscheme, String.toList_append, List.append_assoc]
    exact ⟨_, rfl⟩
  obtain ⟨rest, htext⟩ := htext
  have hname : (url.scheme.toList ++ ':' :: rest).takeWhile (fun c => c != ':' && c != '/') =
      url.scheme.toList := by
    rw [List.takeWhile_append_of_pos (by simpa [PlainScheme] using hplain),
      List.takeWhile_cons_of_neg (by decide), List.append_nil]
  have hnonempty : url.scheme.toList ≠ [] := by simpa using hscheme
  simp [namesProtocol, htext, hname, hnonempty]

end Url

namespace Platform

variable {apiUrl token accountId : String} {account : Account}

/-- The base of an account is what its URL says, so its scheme is the name of one. -/
theorem Account.plainScheme_of_ofTexts (h : Account.ofTexts apiUrl token accountId = .ok account) :
    Url.PlainScheme account.base.scheme.toList := by
  simp only [ofTexts, bind, bind_eq_ok_iff, mapError_eq_ok_iff] at h
  obtain ⟨url, hurl, base, hbase, _, -, h⟩ := h
  obtain rfl := Except.ok.inj h
  exact Url.plainScheme_of_asBase (Url.plainScheme_of_read hurl) hbase

namespace Call

variable {conversation : Json} {call : Call} {request : HttpRequest} {path : String}

/-- The requests of an account go where its base is. -/
theorem scheme_of_request (h : call.request account conversation = .ok (request, path)) :
    request.url.scheme = String.ofList (account.base.scheme.toList.map Char.toLower) := by
  simp only [Call.request, bind, bind_eq_ok_iff, mapError_eq_ok_iff] at h
  obtain ⟨_, -, path', hpath, reference, hreference, url, hurl, _, -, _, -, h⟩ := h
  -- the path starts with a slash, so it cannot lead away from the base
  have hslash : ∃ rest, path'.toList = '/' :: rest := by
    unfold conversationPath at hpath
    dsimp only at hpath
    split at hpath
    · cases hpath
    · obtain rfl := Except.ok.inj hpath
      simp only [String.toList_append, List.append_assoc]
      exact ⟨_, rfl⟩
  obtain ⟨rest, hslash⟩ := hslash
  obtain ⟨rfl, -⟩ := Prod.mk.inj (Except.ok.inj h)
  exact Url.scheme_of_resolve (Url.scheme_of_read hslash hreference) hurl

/-- Requests of an account whose URL has a scheme say by which protocol they go out. -/
theorem namesProtocol_of_request (haccount : Account.ofTexts apiUrl token accountId = .ok account)
    (hbase : account.base.scheme ≠ "")
    (h : call.request account conversation = .ok (request, path)) :
    request.url.namesProtocol = true := by
  have hscheme := scheme_of_request h
  refine Url.namesProtocol_of_scheme ?_ ?_
  · simpa [hscheme] using hbase
  · rw [hscheme, String.toList_ofList]
    exact (Account.plainScheme_of_ofTexts haccount).map_toLower

end Call

end Platform

/-! ## What responses are understood as -/

/-- The body of a response is the text of a JSON value that is read as the given one. -/
def HttpResponse.Carries {α : Type} (response : HttpResponse) (read : Json → Validated α) (a : α) :
    Prop :=
  ∃ text value, Json.decode? response.body = some text ∧ Json.readChars text.toList = .ok value ∧
    read value = .ok a

/-- The status of a response is one of those from a first to a last one. -/
def HttpResponse.StatusIn (response : HttpResponse) (first last : Int) : Prop :=
  first ≤ response.status ∧ response.status ≤ last

/-- The status of the response that an exchange ends with, if it ends with one. -/
def Exchange.status? : Exchange → Option Int
  | .answered response => some response.status
  | .broken _ => none

/-- The details of an error tell its status. -/
theorem PlatformError.lookup_status {e : PlatformError} {status : Int}
    (h : e.status? = some status) : e.details.lookup "status" = some (.ofInt status) := by
  rw [details, h]
  simp [Json.Members.lookup_set]

namespace Platform.Call

variable {conversation : Json} {call : Call} {record : String} {response : HttpResponse}
  {reply : Reply} {failure : Failure} {α : Type} {a : α} {read : Json → Validated α}

/-- The reply that a call takes a response for: a message or a conversation, which the body has to
be, or nothing at all when labels were removed. -/
def Understands (call : Call) (response : HttpResponse) (reply : Reply) : Prop :=
  match call with
  | .sendMessage .. => ∃ answer, response.Carries MessageResponse.ofJson answer ∧
      Reply.message answer = reply
  | .update _ | .addLabels _ | .fetch =>
    ∃ answer, response.Carries ConversationResponse.ofJson answer ∧
      Reply.conversation answer = reply
  | .removeLabels _ => Reply.nothing = reply

theorem readBody_eq_ok_iff :
    call.readBody response record read = .ok a ↔ response.Carries read a := by
  unfold readBody HttpResponse.Carries
  cases Json.decode? response.body with
  | none => simp
  | some text =>
    cases hvalue : Json.readChars text.toList with
    | error fault => simp [hvalue]
    | ok value => cases hread : read value <;> simp [hvalue, hread]

/-- A body that is not what a call expects is an error with the status of the response. -/
theorem exists_of_readBody_eq_error (h : call.readBody response record read = .error failure) :
    ∃ detail, failure = call.invalidBody response detail := by
  unfold readBody at h
  split at h
  · exact ⟨_, (Except.error.inj h).symm⟩
  split at h
  · exact ⟨_, (Except.error.inj h).symm⟩
  split at h
  · exact ⟨_, (Except.error.inj h).symm⟩
  · cases h

theorem readConversation_fst {remark? : ConversationResponse → Option String} :
    (call.readConversation response remark?).1 =
      (call.readBody response "ConversationResponse" ConversationResponse.ofJson).map
        .conversation := by
  unfold readConversation
  split <;> simp_all [Except.map]

theorem accept_sendMessage_fst {content isPrivate : Json} {kind : MessageKind} :
    ((sendMessage content kind isPrivate).accept conversation response).1 =
      ((sendMessage content kind isPrivate).readBody response "MessageResponse"
        MessageResponse.ofJson).map .message := by
  unfold accept
  dsimp only
  split <;> simp_all [Except.map]

/-- A response that reports no error is accepted as what the call takes it for. -/
theorem accept_eq_ok_iff :
    (call.accept conversation response).1 = .ok reply ↔ call.Understands response reply := by
  cases call with
  | sendMessage content kind isPrivate =>
    rw [accept_sendMessage_fst, map_eq_ok_iff]
    exact exists_congr fun _ => and_congr_left' readBody_eq_ok_iff
  | update _ | addLabels _ | fetch =>
    rw [accept, readConversation_fst, map_eq_ok_iff]
    exact exists_congr fun _ => and_congr_left' readBody_eq_ok_iff
  | removeLabels labels => exact ⟨Except.ok.inj, congrArg Except.ok⟩

/-- A response that is not accepted has a body that the call cannot read. -/
theorem exists_of_accept_eq_error (h : (call.accept conversation response).1 = .error failure) :
    ∃ detail, failure = call.invalidBody response detail := by
  cases call with
  | sendMessage content kind isPrivate =>
    rw [accept_sendMessage_fst, map_eq_error_iff] at h
    exact exists_of_readBody_eq_error h
  | update _ | addLabels _ | fetch =>
    rw [accept, readConversation_fst, map_eq_error_iff] at h
    exact exists_of_readBody_eq_error h
  | removeLabels labels => cases h

/-- How a call ends with an exchange: well if the answer reports no error and the call understands
it, and otherwise with an error of the platform that has the status of the answer. -/
structure Judges (call : Call) (exchange : Exchange) (result : Except Failure Reply) : Prop where
  /-- A call returns what it understands a response as, and only a status of error forbids it. -/
  returns_iff : ∀ reply, result = .ok reply ↔ ∃ response, exchange = .answered response ∧
    ¬ response.StatusIn 400 599 ∧ call.Understands response reply
  /-- Every other end is an error of the platform, which tells the status, if there was one. -/
  raises : ∀ failure, result = .error failure → ∃ e, failure = .platform e ∧
    e.status? = exchange.status? ∧
    ∀ status ∈ exchange.status?, e.details.lookup "status" = some (.ofInt status)
  /-- Answers with a status of success or of error are judged by it. -/
  succeeds_iff : ∀ response, exchange = .answered response →
    response.StatusIn 200 299 ∨ response.StatusIn 400 599 →
    ((∃ reply, result = .ok reply) ↔
      response.StatusIn 200 299 ∧ ∃ reply, call.Understands response reply)

variable {apiUrl token accountId : String} {account : Account} {request : HttpRequest}
  {path : String} {exchange : Exchange}

theorem isError_iff : response.isError = true ↔ response.StatusIn 400 599 := by
  simp [HttpResponse.isError, HttpResponse.StatusIn]

theorem conclude_eq_ok_iff (hprotocol : request.url.namesProtocol = true) :
    (call.conclude conversation request path exchange).1 = .ok reply ↔
      ∃ response, exchange = .answered response ∧ ¬ response.StatusIn 400 599 ∧
        call.Understands response reply := by
  cases exchange with
  | broken message => simp [conclude]
  | answered response =>
    simp only [conclude, hprotocol, Bool.not_true, Bool.false_eq_true, if_false,
      Exchange.answered.injEq, exists_eq_left', ← isError_iff]
    cases response.isError with
    | true => simp
    | false => simpa using accept_eq_ok_iff

theorem exists_of_conclude_eq_error (hprotocol : request.url.namesProtocol = true)
    (h : (call.conclude conversation request path exchange).1 = .error failure) :
    ∃ e, failure = .platform e ∧ e.status? = exchange.status? := by
  cases exchange with
  | broken message => exact ⟨_, (Except.error.inj h).symm, rfl⟩
  | answered response =>
    simp only [conclude, hprotocol, Bool.not_true, Bool.false_eq_true, if_false] at h
    split at h
    · exact ⟨_, (Except.error.inj h).symm, rfl⟩
    · obtain ⟨detail, rfl⟩ := exists_of_accept_eq_error h
      exact ⟨_, rfl, rfl⟩

/-- The calls of an account that is reached by a protocol are judged by the statuses and the bodies
of the answers. A status that is neither of success nor of error does not stand in the way. -/
theorem judges_conclude (haccount : Account.ofTexts apiUrl token accountId = .ok account)
    (hbase : account.base.scheme ≠ "")
    (hrequest : call.request account conversation = .ok (request, path)) (exchange : Exchange) :
    call.Judges exchange (call.conclude conversation request path exchange).1 := by
  have hprotocol := namesProtocol_of_request haccount hbase hrequest
  refine ⟨fun reply => conclude_eq_ok_iff hprotocol, fun failure h => ?_, ?_⟩
  · obtain ⟨e, rfl, hstatus⟩ := exists_of_conclude_eq_error hprotocol h
    refine ⟨e, rfl, hstatus, fun status hmem => ?_⟩
    exact PlatformError.lookup_status (hstatus.trans hmem)
  · rintro response rfl hstatus
    simp only [conclude_eq_ok_iff hprotocol, Exchange.answered.injEq, exists_eq_left',
      exists_and_left]
    refine and_congr_left' ?_
    -- among these statuses, those of no error are those of success
    simp only [HttpResponse.StatusIn] at hstatus ⊢
    omega

/-! ### A redirect -/

/-- An account of the platform. -/
def chatAccount : Account :=
  ⟨⟨"https", "", "chat.example.com", none, "/api/v1/accounts/1/", none, none⟩, "token"⟩

/-- The request that takes a label off a conversation of the account. -/
def unlabelRequest : HttpRequest where
  method := "DELETE"
  url := ⟨"https", "", "chat.example.com", none,
    "/api/v1/accounts/1/conversations/456/labels", none, none⟩
  token? := some "token"
  contentType? := some "application/json"
  body? := some (.obj [("labels", .arr [.str "spam"])])

theorem ofTexts_chatAccount :
    Account.ofTexts "https://chat.example.com" "token" "1" = .ok chatAccount := by
  simp only [Account.ofTexts, Url.read, Url.asBase, Url.withTarget, Url.ofParts, Url.normalHost,
    Url.resolvedPath, Web.isFourNumbers, Text.splitOn_slash, Text.splitOn_dot]
  rfl

theorem request_detach : (detach ["spam"]).request chatAccount (.ofInt 456) =
    .ok (unlabelRequest, "/conversations/456/labels") := by
  simp only [Call.request, Url.read, Url.resolve, Url.withTarget, Url.ofParts, Url.normalHost,
    Url.resolvedPath, Web.isFourNumbers, Text.splitOn_slash, Text.splitOn_dot]
  rfl

/-- The labels of a conversation that is gone cannot be removed. -/
theorem judges_conclude_notFound :
    Account.ofTexts "https://chat.example.com" "token" "1" = .ok chatAccount ∧
      chatAccount.base.scheme ≠ "" ∧
      (detach ["spam"]).request chatAccount (.ofInt 456) =
        .ok (unlabelRequest, "/conversations/456/labels") ∧
      (detach ["spam"]).Judges (.answered ⟨404, ""⟩)
        ((detach ["spam"]).conclude (.ofInt 456) unlabelRequest "/conversations/456/labels"
          (.answered ⟨404, ""⟩)).1 :=
  have hbase : chatAccount.base.scheme ≠ "" := by decide
  ⟨ofTexts_chatAccount, hbase, request_detach,
    judges_conclude ofTexts_chatAccount hbase request_detach (.answered ⟨404, ""⟩)⟩

/-- A redirect is no success, but labels count as removed when it is all that removing them is
answered with. -/
theorem conclude_redirected :
    ¬ HttpResponse.StatusIn ⟨302, ""⟩ 200 299 ∧
      (detach ["spam"]).request chatAccount (.ofInt 456) =
        .ok (unlabelRequest, "/conversations/456/labels") ∧
      ((detach ["spam"]).conclude (.ofInt 456) unlabelRequest "/conversations/456/labels"
        (.answered ⟨302, ""⟩)).1 = .ok .nothing :=
  ⟨fun h => absurd h.2 (by decide), request_detach, by decide +kernel⟩

end Platform.Call

end Automation
