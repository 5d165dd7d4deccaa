import DocHints.Docstring.Default
import DocHints.Value.Equal

/-!
# Checking the settings

The settings that only take certain values are checked before any docstring is edited.
-/

namespace DocHints

def allowedDefaults : List Value :=
  [.none, .str "comma", .str "braces", .str "braces-after", .bool false]

inductive FormatterSetting where
  | absent
  | callable
  | other (v : Value)
  deriving Repr, Inhabited

inductive SettingFault where
  | incomparableDefaults
  | unknownDefaults (given : Value)
  | unusableFormatter (given : Value)
  deriving Repr

def SettingFault.failure : SettingFault → Failure
  | .incomparableDefaults => .misuse "unhashable type"
  | .unknownDefaults given =>
    .badValue ("typehints_defaults needs to be one of "
      ++ (Value.tuple (allowedDefaults.take 4)).text ++ ", not " ++ given.text)
  | .unusableFormatter given =>
    .badValue ("typehints_formatter needs to be callable or `None`, not "
      ++ given.plainText)

def checkSettings (defaults : Value) (formatter : FormatterSetting) :
    Except SettingFault Unit :=
  if !defaults.hashable then .error .incomparableDefaults
  else if !allowedDefaults.any (Value.equal defaults) then
    .error (.unknownDefaults defaults)
  else
    match formatter with
    | .other v => .error (.unusableFormatter v)
    | _ => .ok ()

end DocHints
