import Automation.Proofs.Sync.Implementation

/-!
# Lists of actions

An action asks for at most one call: that of the handler its kind has, or the one that its kind maps
to, unless its parameters are missing or make no sense. A task that executes a list of actions alone
makes the calls of one action after another. Which these are depends on nothing but the action, the
conversation and how the calls of the action itself end.

## Main definitions

* `Action.outbound?` — the call that an action maps to.
* `attemptsMade` — how often a retried call is attempted.
* `Action.calls`, `Action.callsOfAll` — the calls of an action, and those of a list of actions.

## Main statements

* `Action.outbound?_eq` — the intent of an action is the call that it maps to, if there is one.
* `isLeast_attemptsMade` — a call is attempted until its first success, up to the limit.
* `Engine.reaches_proceedActions` — the actions that are left make their calls, one after another.
* `Solo.acts_start` — a task alone makes the calls of its list of actions and ends normally.
-/

namespace Automation

/-! ## The calls of an action -/

/-- The request of a call to the outside, about a conversation by way of a client. -/
def Outbound.request (client : Client) (conversation : Json) : Outbound → Request
  | .platform call => .call client conversation call
  | .webhook url payload => .deliver url payload

/-- The call that an action of a kind maps to. There is none when a label, a URL or the attributes
are missing or count as false, when the attributes are no object, when the agent is missing, empty or
no integer, and for an update of the contact. -/
def Action.outbound? (action : Action) : ActionKind → Option Outbound
  | .sendMessage => some (.platform (.send (Platform.content (action.param "content"))))
  | .addLabel =>
    let label := action.param "label"
    if label.isTruthy then some (.platform (.attach [label.plainText])) else none
  | .updateAttributes =>
    match action.param "attributes" with
    | .obj (first :: rest) => some (.platform (.writeAttributes (first :: rest)))
    | .obj [] | .null | .bool _ | .num _ | .str _ | .arr _ => none
  | .assignAgent =>
    let agent := action.param "agent_id"
    if agent = .null ∨ agent = .str "" then none
    else (agentNumber agent).toOption.map fun number => .platform (.assign number)
  | .triggerWebhook =>
    let url := action.param "url"
    let payload := action.param "payload"
    if url.isTruthy then
      some (.webhook url.plainText (if payload.isTruthy then payload else .obj []))
    else none
  | .updateContact => none

/-- How often a call is attempted when at most `limit` attempts are allowed: until its first
success, or as often as allowed. -/
def attemptsMade : Nat → (Nat → Option Failure) → Nat
  | 0, _ => 0
  | limit + 1, outcome =>
    match outcome 1 with
    | none => 1
    | some _ => attemptsMade limit (fun n => outcome (n + 1)) + 1

/-- The calls that an action makes when its calls end as given, the first of them as number one. A
handler is called once, whatever comes of it. -/
def Action.calls (limit : Nat) (handlers : List ActionKind) (client : Client) (conversation : Json)
    (outcome : Nat → Option Failure) (action : Action) : List Request :=
  match action.kind? with
  | none => []
  | some kind =>
    if kind ∈ handlers then [.handle client conversation kind action]
    else
      match action.outbound? kind with
      | none => []
      | some outbound =>
        List.replicate (attemptsMade limit outcome) (outbound.request client conversation)

/-- The calls that a list of actions makes: those of the first action, and behind them those of the
others, whose outcomes follow upon its own. -/
def Action.callsOfAll (limit : Nat) (handlers : List ActionKind) (client : Client)
    (conversation : Json) : (Nat → Option Failure) → List Action → List Request
  | _, [] => []
  | outcome, action :: rest =>
    let own := action.calls limit handlers client conversation outcome
    own ++ callsOfAll limit handlers client conversation (fun n => outcome (own.length + n)) rest

theorem Engine.outboundRequest_eq (acting : Acting) (outbound : Outbound) :
    outboundRequest acting outbound = outbound.request acting.client acting.conversation := by
  cases outbound <;> rfl

/-- What an action intends is the call that it maps to, if there is one. -/
theorem Action.outbound?_eq (conversation : Json) (action : Action) (kind : ActionKind) :
    action.outbound? kind =
      match action.intent conversation kind with
      | .call outbound => some outbound
      | .nothing _ | .impossible _ => none := by
  cases kind with
  | sendMessage | updateContact => rfl
  | addLabel | triggerWebhook =>
    simp only [outbound?, intent, lacking]
    split <;> rfl
  | updateAttributes =>
    simp only [outbound?, intent]
    cases hparam : action.param "attributes" with
    | obj members => cases members <;> rfl
    | null => rfl
    | bool _ | num _ | str _ | arr _ =>
      -- no object: the intent is empty or impossible, as the value counts as false or true
      simp only [attributesOf, calling, lacking]
      by_cases htruthy : (action.param "attributes").isTruthy = true
      · rw [hparam] at htruthy
        simp only [htruthy, if_true]
      · rw [hparam] at htruthy
        simp only [htruthy, Bool.false_eq_true, if_false]
  | assignAgent =>
    simp only [outbound?, intent, lacking]
    split
    · rfl
    · cases agentNumber (action.param "agent_id") <;> rfl

/-- A call is attempted until its first success, up to the limit. -/
theorem isLeast_attemptsMade {limit : Nat} (hpos : 0 < limit) (outcome : Nat → Option Failure) :
    IsLeast {attempt | 0 < attempt ∧ (outcome attempt = none ∨ limit ≤ attempt)}
      (attemptsMade limit outcome) := by
  induction limit generalizing outcome with
  | zero => cases hpos
  | succ limit ih =>
    cases hfirst : outcome 1 with
    | none =>
      simp only [attemptsMade, hfirst]
      exact ⟨⟨Nat.one_pos, .inl hfirst⟩, fun attempt h => h.1⟩
    | some failure =>
      simp only [attemptsMade, hfirst]
      by_cases hlimit : limit = 0
      · subst hlimit
        exact ⟨⟨Nat.one_pos, .inr le_rfl⟩, fun attempt h => h.1⟩
      obtain ⟨⟨hattempts, hsettled⟩, hlower⟩ := ih (Nat.pos_of_ne_zero hlimit)
        fun n => outcome (n + 1)
      refine ⟨⟨Nat.succ_pos _, hsettled.imp_right Nat.succ_le_succ⟩, ?_⟩
      rintro attempt ⟨hattempt, hsettles⟩
      -- the first attempt settles nothing, so the attempt is one of those behind it
      obtain ⟨earlier, rfl⟩ := Nat.exists_eq_add_of_le' hattempt
      have hearlier : 0 < earlier := by
        rcases Nat.eq_zero_or_pos earlier with rfl | h
        · simp only [hfirst, reduceCtorEq, false_or] at hsettles
          omega
        · exact h
      have hle := hlower ⟨hearlier, hsettles.imp_right Nat.le_of_succ_le_succ⟩
      omega

/-- How often a call is attempted depends on the outcomes of these attempts only. -/
theorem attemptsMade_congr {limit : Nat} {outcome other : Nat → Option Failure}
    (h : ∀ n, 0 < n → n ≤ attemptsMade limit outcome → outcome n = other n) :
    attemptsMade limit other = attemptsMade limit outcome := by
  induction limit generalizing outcome other with
  | zero => rfl
  | succ limit ih =>
    have hone : outcome 1 = other 1 := by
      apply h 1 Nat.one_pos
      simp only [attemptsMade]
      split <;> omega
    cases hfirst : outcome 1 with
    | none => simp only [attemptsMade, ← hone, hfirst]
    | some failure =>
      simp only [attemptsMade, hfirst] at h
      simp only [attemptsMade, ← hone, hfirst]
      rw [ih fun n hpos hle => h (n + 1) n.succ_pos (Nat.succ_le_succ hle)]

/-- The calls of an action depend on the outcomes of these calls only. -/
theorem Action.calls_congr {limit : Nat} {handlers : List ActionKind} {client : Client}
    {conversation : Json} {action : Action} {outcome other : Nat → Option Failure}
    (h : ∀ n, 0 < n → n ≤ (action.calls limit handlers client conversation outcome).length →
      outcome n = other n) :
    action.calls limit handlers client conversation other =
      action.calls limit handlers client conversation outcome := by
  simp only [calls] at h ⊢
  cases hkind : action.kind? with
  | none => rfl
  | some kind =>
    by_cases hhandled : kind ∈ handlers
    · simp only [hhandled, if_true]
    · cases houtbound : action.outbound? kind with
      | none => simp only [hhandled, if_false, houtbound]
      | some outbound =>
        simp only [hkind, hhandled, if_false, houtbound, List.length_replicate] at h ⊢
        rw [attemptsMade_congr h]

/-! ## The run of a list of actions -/

namespace Engine

open Solo

variable {world : World} {engine : Engine} {backoff : Backoff} {limit : Nat}

theorem retries_acting (engine : Engine) (acting : Acting) (action : Action)
    (outbound : Outbound) :
    engine.Retries world.setup (.acting acting action outbound)
      (outbound.request acting.client acting.conversation) fun failure? =>
        (proceedActions world.setup.retry engine acting acting.actions).after
          (failure?.toList.map (failedActionEntry action)) := by
  intro retrying answer
  rcases hstep : retrying.step world.setup.retry answer with ⟨step, entries⟩
  refine ⟨entries, ?_⟩
  simp only [resume, hstep, outboundRequest_eq]

theorem settles_iff (hlimit : world.setup.retry.maxAttempts.value = .int limit)
    (made attempt : Nat) :
    world.Settles made attempt ↔ world.outcome (made + attempt) = none ∨ limit ≤ attempt := by
  rw [World.Settles, RetryOptions.isLast_iff hlimit, Int.ofNat_le]

/-- The actions that are left make their calls, one after another, whatever becomes of each; then
the task ends normally, and the engine is as it was. -/
theorem reaches_proceedActions (hcomputes : world.setup.retry.Computes)
    (hfirst : Backoff.first world.setup.retry = .ok backoff)
    (hlimit : world.setup.retry.maxAttempts.value = .int limit) (hpos : 0 < limit)
    (acting : Acting) (actions : List Action) (calls : List Request) :
    Reaches world (ofTurn (proceedActions world.setup.retry engine acting actions) calls)
      (ofTurn (engine.finish (.ok .acted))
        (calls ++ Action.callsOfAll limit engine.handlers acting.client acting.conversation
          (fun n => world.outcome (calls.length + n)) actions)) := by
  induction actions generalizing acting calls with
  | nil =>
    simp only [proceedActions, Action.callsOfAll, List.append_nil]
    exact .refl _
  | cons action rest ih =>
    let left : Acting := { acting with actions := rest }
    -- what follows when the action has made calls of its own
    have hnext : ∀ own : List Request,
        Reaches world (ofTurn (proceedActions world.setup.retry engine left rest) (calls ++ own))
          (ofTurn (engine.finish (.ok .acted))
            (calls ++ (own ++ Action.callsOfAll limit engine.handlers acting.client
              acting.conversation (fun n => world.outcome (calls.length + (own.length + n)))
              rest))) := by
      intro own
      have hrest := ih left (calls ++ own)
      simpa only [List.length_append, add_assoc, List.append_assoc] using hrest
    simp only [Action.callsOfAll, Action.calls, proceedActions]
    cases hkind : action.kind? with
    | none => simpa using ih acting calls
    | some kind =>
      by_cases hhandled : kind ∈ engine.handlers
      · have hcontains : engine.handlers.contains kind = true := by simpa using hhandled
        simp only [hcontains, hhandled, if_true, ofTurn_after]
        refine .trans (.single (step_wait_of_isCall rfl)) ?_
        simp only [resume, ofTurn_after]
        exact hnext _
      · have hcontains : engine.handlers.contains kind = false := by simpa using hhandled
        simp only [hcontains, Bool.false_eq_true, hhandled, if_false, ofTurn_after]
        rw [Action.outbound?_eq acting.conversation]
        cases hintent : action.intent acting.conversation kind with
        | nothing remark => simpa using ih acting calls
        | impossible failure => simpa using ih acting calls
        | call outbound =>
          let made := attemptsMade limit fun n => world.outcome (calls.length + n)
          have hleast : IsLeast {attempt | 0 < attempt ∧ world.Settles calls.length attempt}
              made := by
            simp only [settles_iff hlimit]
            exact isLeast_attemptsMade hpos _
          have hcall : (outbound.request acting.client acting.conversation).isCall = true := by
            cases outbound <;> rfl
          have hretried := (retries_acting engine left action outbound).reaches_of_isLeast hcall
            hcomputes hfirst hleast
          rw [ofTurn_after] at hretried
          simp only [hfirst, outboundRequest_eq]
          exact hretried.trans (hnext _)

end Engine

/-- A task alone makes the calls of its list of actions, one action after another, and ends normally,
whatever the script of its calls: for a tenant whose client can be had, with any handlers, and with
delays that can be computed. At no time it has made other calls, and the calls of an action are
decided by the outcomes of these calls alone. -/
theorem Solo.acts_start {world : World} {engine : Engine} {tenantId : String} {conversation : Json}
    {actions : List Action} {limit : Nat} (hresolves : world.Resolves engine tenantId)
    (hcomputes : world.setup.retry.Computes)
    (hlimit : world.setup.retry.maxAttempts.value = .int limit) (hpos : 0 < limit) :
    let start := Solo.start world engine (.actions tenantId conversation actions)
    let client := world.client engine tenantId
    let calls :=
      Action.callsOfAll limit engine.handlers client conversation world.outcome actions
    (∃ last, start.Reaches world last ∧ last.calls = calls ∧
      last.load.tasks = [.reached (.finished (.ok .acted))]) ∧
    (∀ n, ((Solo.step world)^[n] start).calls <+: calls) ∧
    ∀ (action : Action) (outcome other : Nat → Option Failure),
      (∀ n, 0 < n →
        n ≤ (action.calls limit engine.handlers client conversation outcome).length →
        outcome n = other n) →
      action.calls limit engine.handlers client conversation other =
        action.calls limit engine.handlers client conversation outcome := by
  intro start client calls
  obtain ⟨backoff, hfirst⟩ := hcomputes.first
  obtain ⟨pool, created, hreaches⟩ :=
    @Solo.start_reaches_pooled world engine (.actions tenantId conversation actions) hresolves
  let pooled : Engine := { engine with pool, created }
  have hacts := @Engine.reaches_proceedActions world pooled backoff limit hcomputes hfirst hlimit
    hpos ⟨tenantId, conversation, client, actions⟩ actions []
  simp only [List.length_nil, Nat.zero_add, List.nil_append] at hacts
  let last := ofTurn (pooled.finish (.ok .acted)) calls
  have hlast : start.Reaches world last := hreaches.trans hacts
  exact ⟨⟨last, hlast, rfl, rfl⟩, fun n => hlast.isPrefix_calls rfl n,
    fun action outcome other h => Action.calls_congr h⟩

/-- Actions with every kind of end: an unknown type, a label that takes three attempts, attributes
that are no object, a handler, an agent that is no integer, a message that is never sent, a webhook
and an agent. -/
def onboarding : List Action := [
  ⟨"teleport", []⟩,
  ⟨"add_label", [("label", .str "vip")]⟩,
  ⟨"update_attributes", [("attributes", .str "gold")]⟩,
  ⟨"update_contact", []⟩,
  ⟨"assign_agent", [("agent_id", .str "12x")]⟩,
  ⟨"send_message", [("content", .str "Hi!")]⟩,
  ⟨"trigger_webhook", [("url", .str "https://hooks.example/new")]⟩,
  ⟨"assign_agent", [("agent_id", .str " 7 ")]⟩]

/-- The handler fails as well, and is not called again. -/
theorem Solo.acts_start_onboarding :
    let world := World.failing [1, 2, 4, 5, 6, 7]
    let engine := Engine.initial.register .updateContact
    let client : Client := ⟨1, "acme", default⟩
    let call := Request.call client (.ofInt 42)
    ∃ last, (Solo.start world engine (.actions "acme" (.ofInt 42) onboarding)).Reaches world last ∧
      last.calls = [call (.attach ["vip"]), call (.attach ["vip"]), call (.attach ["vip"]),
        .handle client (.ofInt 42) .updateContact ⟨"update_contact", []⟩,
        call (.send "Hi!"), call (.send "Hi!"), call (.send "Hi!"),
        .deliver "https://hooks.example/new" (.obj []), call (.assign 7)] ∧
      last.load.tasks = [.reached (.finished (.ok .acted))] :=
  (@Solo.acts_start (.failing [1, 2, 4, 5, 6, 7]) (Engine.initial.register .updateContact) "acme"
    (.ofInt 42) onboarding 3 (.inr rfl) RetryOptions.computes_standard rfl (by decide)).1

end Automation
