import DocHints.Docstring.Position
import DocHints.Signature.Basic
import DocHints.Text.Cut

/-!
# Overloads

The overloads of a function are listed at the top of its docstring, unless a
line of the docstring forbids it.
-/

namespace DocHints.Docstring

def isNoOverloads (line : String) : Bool :=
  Text.trim line == ":no-overloads:"

/-- Removes the first line that forbids overloads; `none` if there is none. -/
def withoutNoOverloads? (lines : Lines) : Option Lines :=
  (lines.findIdx? isNoOverloads).map lines.eraseIdx

def overloadLine (typeText : Value → Except Failure String) (overload : Signature) :
    Except Failure String := do
  let params ← overload.params.mapM fun param =>
    match param.hint with
    | some hint => do return "**" ++ param.name ++ "** (" ++ (← typeText hint) ++ ")"
    | none => pure ("**" ++ param.name ++ "**")
  let result ← match overload.result with
    | some hint => do pure (" → " ++ (← typeText hint))
    | none => pure ""
  return "   * " ++ Text.join ", " params ++ result

def overloadLines (typeText : Value → Except Failure String)
    (overloads : List Signature) : Except Failure Lines := do
  return ":Overloads:" :: (← overloads.mapM (overloadLine typeText)) ++ [""]

end DocHints.Docstring
