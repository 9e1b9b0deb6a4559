import Automation.Platform.Client
import Automation.Service
import Automation.Webhook

/-!
# Scripts of the outside world

What the outside does during a simulation: how the calls of the messaging platform end, one after
another, or how the exchanges of messages over HTTP do. A call can be held up until a gate opens.

## Main definitions

* `Outcome` — how one call of the platform ends.
* `Script` — the outcomes to come.
* `Script.takeOutcome`, `Script.takeExchange` — the next outcome.
* `Contact` — a contact with the outside, as it is recorded.
-/

namespace Automation.Simulation

/-- How a call of the platform ends. -/
inductive Outcome where
  | succeeds
  | fails (message : String)
  | rejects (message : String) (status? : Option Int)
  | waits (gate : String) (next : Outcome)
  deriving DecidableEq, Repr, Inhabited

/-- The names of the two ways out over HTTP. -/
inductive Channel where
  | platform
  | webhook
  deriving DecidableEq, Repr

/-- The outcomes to come: for each kind of call and each channel those in a row, and the one that
follows when they are used up. -/
structure Script where
  outcomes : List (String × List Outcome)
  lastOutcomes : List (String × Outcome)
  exchanges : List (Channel × List Exchange)
  lastExchanges : List (Channel × Exchange)
  deriving DecidableEq, Repr

/-- The first element under a key, and the queues without it. -/
def takeFirst? {κ α : Type} [DecidableEq κ] (key : κ) :
    List (κ × List α) → Option (α × List (κ × List α))
  | [] => none
  | (k, queue) :: rest =>
    if k = key then
      match queue with
      | [] => none
      | first :: others => some (first, (k, others) :: rest)
    else (takeFirst? key rest).map fun (first, queues) => (first, (k, queue) :: queues)

/-- The response to everything that the script says nothing about. -/
def standardResponse : HttpResponse :=
  .json 200 (.obj [("id", .ofNat 1), ("status", .str "open"), ("message_type", .ofNat 1)])

namespace Script

/-- The script in which everything succeeds. -/
def plain : Script := ⟨[], [], [], []⟩

/-- The outcome of the next call of a kind. -/
def takeOutcome (name : String) (script : Script) : Outcome × Script :=
  match takeFirst? name script.outcomes with
  | some (outcome, outcomes) => (outcome, { script with outcomes })
  | none => ((script.lastOutcomes.lookup name).getD .succeeds, script)

/-- The end of the next exchange on a channel. -/
def takeExchange (channel : Channel) (script : Script) : Exchange × Script :=
  match takeFirst? channel script.exchanges with
  | some (exchange, exchanges) => (exchange, { script with exchanges })
  | none => ((script.lastExchanges.lookup channel).getD (.answered standardResponse), script)

end Script

/-- The name of a kind of call. -/
def callName : Platform.Call → String
  | .sendMessage .. => "send_message"
  | .update _ => "update_conversation"
  | .addLabels _ => "add_labels"
  | .removeLabels _ => "remove_labels"
  | .fetch => "get_conversation"

/-- A contact with the outside. -/
inductive Contact where
  | called (client : Client) (conversation : Json) (call : Platform.Call)
  | closed (client : Client)
  | sent (channel : Channel) (request : HttpRequest)
  | handled (kind : ActionKind) (client : Client) (conversation : Json) (action : Action)
  deriving DecidableEq, Repr

end Automation.Simulation
