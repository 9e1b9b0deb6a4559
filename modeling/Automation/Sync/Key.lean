import Automation.Json.Display

/-!
# Message keys

The key under which a persisted message of a conversation is sent at most once.

## Main definitions

* `messageKey` — the key of a message.
-/

namespace Automation

/-- The key of a message: its tenant, the text of its conversation and its key in the plan. -/
def messageKey (tenantId : String) (conversation : Json) (persistKey : String) : String :=
  tenantId ++ ":" ++ conversation.plainText ++ ":" ++ persistKey

end Automation
