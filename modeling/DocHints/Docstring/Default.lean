import DocHints.Failure

/-!
# Defaults

How the default value of a parameter is added to the field of its type.  The
setting is a style by name; any other setting is either switched off or of no
use.
-/

namespace DocHints.Docstring

inductive DefaultsSetting where
  | style (name : String)
  | other (on : Bool)
  deriving DecidableEq, Repr, Inhabited

namespace DefaultsSetting

def isOn : DefaultsSetting → Bool
  | .style name => !name.isEmpty
  | .other on => on

def name (setting : DefaultsSetting) : Except Failure String :=
  match setting with
  | .style name => .ok name
  | .other _ => .error (.missingAttribute "the setting" "startswith")

def isAfter (setting : DefaultsSetting) : Except Failure Bool := do
  return Text.endsWith "after" (← setting.name)

end DefaultsSetting

def literalText (v : Value) : String :=
  "``" ++ Text.replaceAll "\\" "\\\\" v.text ++ "``"

/-- The text that tells a default; a parameter without one has none. -/
def formatDefault (setting : DefaultsSetting) (default : Option Value)
    (annotated : Bool) : Except Failure (Option String) :=
  match default with
  | none => .ok none
  | some v =>
    let inBraces := " (default: " ++ literalText v ++ ")"
    if annotated then do
      if Text.startsWith "braces" (← setting.name) then return some inBraces
      return some (", default: " ++ literalText v)
    else if setting == .style "braces-after" then .ok (some inBraces)
    else .ok (some ("default: " ++ literalText v))

end DocHints.Docstring
