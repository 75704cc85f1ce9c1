import Transparency.Template.Printed

/-! Text templates: fixed text, printed variables, choices, and parts taken from other files. -/
namespace Transparency.Template
open Json (Value)

/-- A piece of a template. Lines are counted from one in the file that holds the piece. -/
inductive Piece
  /-- Text that stands in the output as it is. -/
  | text (content : String)
  /-- The printed value of a variable. -/
  | print (name : String) (line : Nat)
  /-- One of two bodies, by a test of a variable. -/
  | choose (name : String) (line : Nat) (yes no : List Piece)
  /-- The text of another template. -/
  | part (name : String) (line : Nat)

/-- Why a template yields no text. -/
inductive Failure
  /-- There is no template of this name. -/
  | unknown (name : String)
  /-- A variable without a value was printed or tested. -/
  | undefined (template : String) (line : Nat)
  /-- A part could not be rendered. -/
  | brokenPart (file template : String) (line : Nat)
  /-- There is no such part. -/
  | missingPart (name template : String) (line : Nat)
  /-- Parts stand in parts too deep. -/
  | tooDeep (template : String) (line : Nat)
  deriving DecidableEq, Repr

namespace Failure

/-- A place in a template, as messages give it. -/
def place (template : String) (line : Nat) : String :=
  " (in " ++ template ++ ":" ++ Text.decimal line ++ ")"

/-- The name of the kind of failure. -/
def name : Failure → String
  | unknown _ => "TemplateNotFound"
  | undefined _ _ => "UndefinedError"
  | brokenPart _ _ _ => "BadInclude"
  | missingPart _ _ _ => "TemplateNotFound"
  | tooDeep _ _ => "InvalidOperation"

/-- The message of a failure. -/
def message : Failure → String
  | unknown name => "template not found: template " ++ Text.quoted name ++ " does not exist"
  | undefined template line => "undefined value" ++ place template line
  | brokenPart file template line =>
    "could not render include: error in \"" ++ file ++ "\"" ++ place template line
  | missingPart name template line =>
    "template not found: tried to include non-existing template " ++ Text.quoted name ++
      place template line
  | tooDeep template line => "invalid operation: recursion limit exceeded" ++ place template line

end Failure

/-- The value of a variable, which must be defined. -/
def lookup (scope : String → Option Value) (template name : String) (line : Nat) :
    Except Failure Value :=
  match scope name with
  | some value => .ok value
  | none => .error (.undefined template line)

section
variable (scope : String → Option Value) (parts : String → Nat → Except Failure String)
  (template : String)

mutual

/-- The text of a piece of the named template, for the variables in scope; `parts` is what the parts
on its lines come to. -/
def Piece.render : Piece → Except Failure String
  | .text content => .ok content
  | .print name line => (lookup scope template name line).map Value.printed
  | .choose name line yes no =>
    match lookup scope template name line with
    | .error failure => .error failure
    | .ok value => if value.isTruthy then renderAll yes else renderAll no
  | .part name line => parts name line

/-- The text of pieces in a row. -/
def renderAll : List Piece → Except Failure String
  | [] => .ok ""
  | piece :: rest =>
    match piece.render with
    | .error failure => .error failure
    | .ok first =>
      match renderAll rest with
      | .error failure => .error failure
      | .ok second => .ok (first ++ second)

end

end

end Transparency.Template
