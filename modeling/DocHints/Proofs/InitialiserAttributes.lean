import DocHints.Proofs.ModuleSteps
import DocHints.Proofs.RoleOrder

/-!
# The attributes that an initialiser declares

An initialiser declares attributes by annotated assignments to its receiver.
Only the statements directly in its body count, and the last of them for an
attribute gives the type.  The receiver is taken to be the first parameter that
is not positional only, so the first parameter of all where the signature has no
such mark.  A receiver that is positional only is passed over: the attributes
are then those of another parameter, or of the name `self` if there is none.
-/

namespace DocHints.Hints

open Program
open Source (Stmt Expr FunctionHead Parameter readModule)

/-! ## Annotations of attributes -/

section Fold

variable {receiver field : String} {hint : Expr} {stmt : Stmt} {rest : List Stmt}

end Fold

/-! ## The initialiser and its receiver -/

section Hints

variable {engine : Engine} {c : ClassRef} {w w' : World} {source : String}

end Hints

end DocHints.Hints
