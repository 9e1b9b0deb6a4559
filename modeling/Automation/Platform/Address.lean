import Automation.Json.Display
import Automation.Json.Writer
import Automation.Text.Percent

/-!
# Addresses and contents of platform calls

A conversation is addressed by a path with its id as one segment, and a persisted value is sent as
a text.

## Main definitions

* `Platform.conversationPath` — the path of a conversation's resource.
* `Platform.content` — the text that a persisted value is sent as.
-/

namespace Automation.Platform

/-- An id that leaves no segment, or one that a path would swallow. -/
structure InvalidConversation where
  id : Json
  deriving DecidableEq, Repr

/-- The message about an id that addresses no conversation. -/
def InvalidConversation.message (e : InvalidConversation) : String :=
  "Invalid conversation id: " ++ e.id.display

/-- The path of a conversation's resource: the id is always a single segment. -/
def conversationPath (id : Json) (suffix : String) : Except InvalidConversation String :=
  let segment := Text.segment id.plainText
  if segment = "" ∨ segment = "." ∨ segment = ".." then .error ⟨id⟩
  else .ok ("/conversations/" ++ segment ++ suffix)

/-- The text that a value is sent as: nothing for `null`, a text as it is, JSON text otherwise. -/
def content : Json → String
  | .null => ""
  | .str s => s
  | value => value.write .spaced

end Automation.Platform
