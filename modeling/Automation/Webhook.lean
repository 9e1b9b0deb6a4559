import Automation.Failure
import Automation.Log

/-!
# Webhooks

A webhook is a URL that takes a JSON payload by POST; only a status of success counts as
delivered.

## Main definitions

* `Webhook.request` — the request that delivers a payload.
* `Webhook.conclude` — what the end of the exchange means.
-/

namespace Automation.Webhook

/-- The request that delivers a payload. -/
def request (url : String) (payload : Json) : Except Failure HttpRequest := do
  let reference ← (Url.read url).mapError .badUrl
  let target ← (Url.emptyBase.resolve reference).mapError .badUrl
  Failure.checkBody payload
  let _ ← target.hostHeader.mapError Failure.badHost
  return ⟨"POST", target, none, some "application/json", some payload⟩

/-- What the end of the exchange means for a delivery, and the report on it. -/
def conclude (url : String) (request : HttpRequest) :
    Exchange → Except Failure Unit × List LogEntry
  | .broken message => (.error (.webhookUnreachable message), [])
  | .answered response =>
    if !request.url.namesProtocol then (.error (.unknownProtocol request.url.shortText), [])
    else if response.isSuccess then
      (.ok (), [.info "sync_engine"
        s!"Webhook delivered: url={url} status={response.status}"])
    else (.error (.webhookStatus response.status request.url.text), [])

end Automation.Webhook
