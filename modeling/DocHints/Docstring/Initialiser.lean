import DocHints.Text.Cut

/-!
# Initialisers

The initialiser of a class is documented with the class, or as a method of its own.
-/

namespace DocHints

def isInitialiserName (name : String) : Bool :=
  Text.endsWith ".__init__" name

def isDataclassInit (name what qualname : String) : Bool :=
  (what == "method" && isInitialiserName name)
    || (what == "class" && isInitialiserName qualname)

end DocHints
