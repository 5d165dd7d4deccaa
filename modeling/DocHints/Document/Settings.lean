import DocHints.Annotation.Options
import DocHints.Docstring.ParamField

/-!
# Settings of the documentation

What the user chooses about docstrings and signatures, and what is known about
the documentation as a whole.
-/

namespace DocHints.Document

abbrev Kind := String

structure Settings where
  /--
  How types are rendered; the documented objects and the current module are
  filled in later.
  -/
  render : RenderOptions
  /-- How the fields of parameters are made. -/
  fields : Docstring.FieldOptions
  documentResult : Bool := true
  /-- Document the result also where it is `None`. -/
  documentNone : Bool := true
  /-- Give the type of the result in a field of its own. -/
  resultField : Bool := true
  documentOverloads : Bool := true
  /-- Show the types of parameters in signatures. -/
  signatureTypes : Bool := false
  /-- Show the type of the result in signatures. -/
  signatureResult : Bool := false
  /-- Names that are documented under another name. -/
  typeAliases : List (String × String) := []
  /-- Modules that are replaced by stand-ins where they are imported. -/
  replaced : List String := []
  /--
  The documented objects with their kinds; `none` if there is no documentation
  around.
  -/
  objects : Option (List (String × String)) := none
  /-- What the given aliases stand for. -/
  aliases : List (String × Value) := []
  deriving Inhabited

structure Subject where
  kind : Kind
  /-- The name under which it is documented. -/
  name : String
  value : Value
  deriving Inhabited

def Subject.home (subject : Subject) : String :=
  match Text.splitLast? "." subject.name with
  | some (home, _) => home
  | none => ""

end DocHints.Document
