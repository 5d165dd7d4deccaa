/-!
# Blocks

The top level of a marked-up text is a list of blocks.  A block has a tag that
tells its kind, the line it is said to begin on where that is known, and, if it
is a list of fields, their names.
-/

namespace DocHints.Rest

structure Block where
  tag : String
  line : Option Nat
  fields : List String
  deriving DecidableEq, Repr, Inhabited

end DocHints.Rest
