import Transparency.Hash.Xxh3
import Transparency.Log
import Transparency.Template.Library

/-! Shader programs, and the line that is logged for each rendered template. -/
namespace Transparency.Shader

/-- A shader program. -/
structure Program where
  name : String
  code : String
  deriving DecidableEq, Repr

namespace Program

/-- The hash of the code, which stands for the program in the pipeline cache. -/
def hash (program : Program) : Hash.Digest := Hash.xxh3 program.code.toUTF8

/-- Renders a template into a program. -/
def compile (name : String) (scope : String → Option Json.Value) :
    Except Template.Failure Program :=
  (Template.render name scope).map fun code => ⟨name, code⟩

/-- The line that is logged when a template was rendered. -/
def logLine (program : Program) : LogLine where
  level := .debug
  text := "Rendered shader template " ++ program.name ++ " (" ++
    Text.decimal program.code.utf8ByteSize ++ " bytes)"

end Program

end Transparency.Shader
