import Automation.File
import Automation.Json.Reader
import Automation.Settings
import Automation.Tenant.Basic
import Automation.Validation.Report

/-!
# The tenant of the settings

The service starts with one tenant, which its settings describe. Its policies come from a file
that holds a JSON array, when the settings name one.

## Main definitions

* `PolicyFileFault` — why a file of policies cannot be used.
* `Policy.ofFile` — the policies of a file.
* `Tenant.ofSettings` — the tenant that settings describe.
-/

namespace Automation

open Validation

/-- Why a file of policies cannot be used. -/
inductive PolicyFileFault where
  | file (fault : FileFault)
  | unreadable (fault : Json.ReadFault)
  | notAnArray (path : String)
  | invalid (issues : List Issue)
  deriving DecidableEq, Repr

/-- The message about a file that cannot be used. -/
def PolicyFileFault.message : PolicyFileFault → String
  | .file fault => fault.message
  | .unreadable fault => fault.message ""
  | .notAnArray path => "Policies file must contain a JSON array: " ++ path
  | .invalid issues => report "Policy" issues

/-- The policies of documents; the first document that is refused is the only one reported. -/
def Policy.ofDocuments : List Json → Validated (List Policy)
  | [] => .ok []
  | document :: rest => do
    let policy ← Policy.ofJson document
    let policies ← Policy.ofDocuments rest
    return policy :: policies

/-- The policies of a file. -/
def Policy.ofFile (files : Files) (path : String) : Except PolicyFileFault (List Policy) :=
  match files.read (DiskPath.ofText path) with
  | .error fault => .error (.file fault)
  | .ok text =>
    match Json.read text with
    | .error fault => .error (.unreadable fault)
    | .ok (.arr documents) => (Policy.ofDocuments documents).mapError .invalid
    | .ok _ => .error (.notAnArray path)

/-- The tenant that settings describe, given the files that can be read. -/
def Tenant.ofSettings (files : Files) (settings : Settings) :
    Except PolicyFileFault Tenant := do
  let policies ← match settings.policiesFile? with
    | none | some "" => .ok []
    | some path => Policy.ofFile files path
  let id ← (nonEmptyText (.str settings.tenantId)).mapError fun issues =>
    PolicyFileFault.invalid (issues.map (·.under (.field "id")))
  return ⟨id, settings.tenantName,
    ⟨settings.platformUrl, settings.platformToken, settings.platformAccount⟩, policies⟩

end Automation
