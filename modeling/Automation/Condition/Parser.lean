import Automation.Condition.Basic
import Automation.Json.Display

/-!
# Reading condition documents

The documents are `{"var": path}`, a comparison of two operands, and `and` or `or` of a list of
documents; anything else is refused, at whatever depth it stands. No depth is too great, as none is
for the reader of JSON text. Documents may refer to conditions that exist already: a function tells
which values do.

## Main definitions

* `Condition.ParseFault`, `Condition.ParseError` — why a document is refused, and its message.
* `Condition.ofDocumentWith` — the condition of a document with references.
* `Condition.ofDocument` — the condition of a document.
-/

namespace Automation.Condition

/-- Why a document spells no condition. -/
inductive ParseFault where
  | notAnObject
  | notOneOperator
  | pathNotText
  | operandNotLiteral
  | notTwoOperands (operator : String)
  | notAList (operator : String)
  | unknownOperator (operator : String)
  deriving DecidableEq, Repr

/-- The message of a fault. -/
def ParseFault.message : ParseFault → String
  | .notAnObject => "Condition must be an object"
  | .notOneOperator => "Condition must have exactly one operator"
  | .pathNotText => "'var' expects a dot-separated path string"
  | .operandNotLiteral => "Comparison operands must be literals or \x7b'var': path\x7d"
  | .notTwoOperands operator => "'" ++ operator ++ "' expects two operands"
  | .notAList operator => "'" ++ operator ++ "' expects a list of conditions"
  | .unknownOperator operator => "Unknown condition operator: " ++ operator

/-- A fault and the part of the document that has it. -/
structure ParseError where
  fault : ParseFault
  document : Json
  deriving DecidableEq, Repr

/-- The most characters of a faulty document that a report shows. -/
def excerptLength : Nat := 200

/-- The start of the faulty document as a report shows it; an empty document is not shown. -/
def ParseError.excerpt? (showing : Json → String) (e : ParseError) : Option String :=
  if e.document = .null then none
  else some (String.ofList ((showing e.document).toList.take excerptLength))

/-- A path: a text, or a list of one text. -/
def readPath (value document : Json) : Except ParseError String :=
  match value with
  | .str path => .ok path
  | .arr [.str path] => .ok path
  | _ => .error ⟨.pathNotText, document⟩

/-- An operand: a path document, or a literal that is no object. -/
def readOperand (built? : Json → Option Condition) (value document : Json) :
    Except ParseError Operand :=
  match built? value with
  | some (.truthy path) => .ok (.path path)
  | some _ => .ok (.literal value)
  | none =>
    match value with
    | .obj [("var", path)] => (readPath path document).map .path
    | .obj _ => .error ⟨.operandNotLiteral, document⟩
    | _ => .ok (.literal value)

/-- The operands of a comparison. -/
def readComparison (built? : Json → Option Condition) (comparison : Comparison)
    (args document : Json) : Except ParseError Condition :=
  match args with
  | .arr [left, right] => do
    let left ← readOperand built? left document
    let right ← readOperand built? right document
    .ok (.compare comparison left right)
  | _ => .error ⟨.notTwoOperands comparison.symbol, document⟩

mutual
/-- The condition that a document spells, where `built?` tells which values refer to conditions
that exist already. -/
def ofDocumentWith (built? : Json → Option Condition) (document : Json) :
    Except ParseError Condition :=
  match built? document with
  | some condition => .ok condition
  | none =>
    match document with
    | .obj [(operator, args)] =>
      if operator = "var" then (readPath args document).map .truthy
      else
        match Comparison.ofSymbol? operator with
        | some comparison => readComparison built? comparison args document
        | none =>
          if operator = "and" then
            match args with
            | .arr documents => (ofDocumentsWith built? documents).map .all
            | _ => .error ⟨.notAList operator, document⟩
          else if operator = "or" then
            match args with
            | .arr documents => (ofDocumentsWith built? documents).map .any
            | _ => .error ⟨.notAList operator, document⟩
          else .error ⟨.unknownOperator operator, document⟩
    | .obj _ => .error ⟨.notOneOperator, document⟩
    | _ => .error ⟨.notAnObject, document⟩

/-- The conditions that the documents of a group spell; the first fault counts. -/
def ofDocumentsWith (built? : Json → Option Condition) (documents : List Json) :
    Except ParseError (List Condition) :=
  match documents with
  | [] => .ok []
  | document :: rest =>
    match ofDocumentWith built? document with
    | .error fault => .error fault
    | .ok condition =>
      match ofDocumentsWith built? rest with
      | .error fault => .error fault
      | .ok conditions => .ok (condition :: conditions)
end

/-- The condition that a document spells. -/
def ofDocument (document : Json) : Except ParseError Condition :=
  ofDocumentWith (fun _ => none) document

end Automation.Condition
