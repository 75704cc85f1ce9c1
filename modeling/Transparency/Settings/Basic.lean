import Transparency.Text.Decimal

/-! The settings of the transparency tasks. -/
namespace Transparency

/-- The width and height assumed where nothing tells the size of the screen. -/
def fallbackScreenSize : Int32 := 2048

/-- What a user may set. -/
structure Settings where
  /-- Whether transparency is resolved at all. -/
  enabled : Bool := true
  /-- Width and height assumed where no target tells the size of the screen. -/
  fallbackSize : Int32 := fallbackScreenSize
  deriving DecidableEq, Repr

namespace Settings

/-- The word for a truth value. -/
def flagText (b : Bool) : String := if b then "true" else "false"

/-- The settings as they are shown to a developer. -/
def debugText (settings : Settings) : String :=
  "OitSettings \x7b enabled: " ++ flagText settings.enabled ++ ", fallback_screen_size: " ++
    Text.decimal settings.fallbackSize.toInt ++ " \x7d"

/-- The settings as a JSON document. -/
def toDocument (settings : Settings) : String :=
  "\x7b\"enabled\":" ++ flagText settings.enabled ++ ",\"fallback_screen_size\":" ++
    Text.decimal settings.fallbackSize.toInt ++ "\x7d"

end Settings

end Transparency
