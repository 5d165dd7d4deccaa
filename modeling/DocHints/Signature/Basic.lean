import DocHints.Source.Tree
import DocHints.Value.Basic

/-!
# Signatures

The parameters of something that can be called, in order, and its result.
-/

namespace DocHints

open Source (ParamKind)

structure SignatureParam where
  name : String
  kind : ParamKind
  hint : Option Value
  default : Option Value
  deriving Repr, Inhabited

structure Signature where
  params : List SignatureParam
  result : Option Value
  deriving Repr, Inhabited

namespace Signature

def isPositional (param : SignatureParam) : Bool :=
  param.kind == .positionalOnly || param.kind == .standard

/--
What is left to give when the first argument is bound: a positional parameter is
gone, a variadic one stays.
-/
def bound (signature : Signature) : Option Signature :=
  match signature.params with
  | [] => none
  | first :: rest =>
    if isPositional first then some { signature with params := rest }
    else if first.kind == .variadic then some signature
    else none

end Signature

end DocHints
