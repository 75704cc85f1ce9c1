import Transparency.Settings.Basic
import Transparency.Text.Blank

/-! Settings taken from the environment of the program. -/
namespace Transparency.Settings

/-- The variable that switches transparency off. -/
def enableVariable : String := "MYTH_ENABLE_OIT"

/-- The values that switch transparency off. -/
def offValues : List String := ["0", "false", "off", "no"]

/-- Whether a value leaves transparency on: all do but the listed ones, in any case of ASCII letters
and with white space around them. -/
def readsAsEnabled (value : String) : Bool :=
  !offValues.contains (String.ofList ((Text.trim value.toList).map Char.toLower))

/-- The settings for the value of the variable, if it is set. -/
def ofVariable (value : Option String) : Settings :=
  match value with
  | none => {}
  | some value => { enabled := readsAsEnabled value }

/-- The settings for the bytes of the variable; bytes that are not UTF-8 count as unset. -/
def ofVariableBytes (bytes : ByteArray) : Settings := ofVariable (String.fromUTF8? bytes)

end Transparency.Settings
