import DocHints.Annotation.Describe

/-!
# Facts about annotations

What an annotation tells besides its rendering: whether it is a generator, and
the description that its metadata give.
-/

namespace DocHints.Value

def isGeneratorClass (c : ClassRef) : Bool :=
  c.origin == .library && c.module == "collections.abc" &&
    ["Generator", "Iterator", "AsyncGenerator", "AsyncIterator"].contains c.qualname

def isGeneratorForm (f : Form) : Bool :=
  ["Generator", "Iterator", "AsyncGenerator", "AsyncIterator"].contains f.name

/-- Generators and iterators, of either vocabulary, with or without arguments. -/
def isGenerator : Value → Bool
  | .cls c => isGeneratorClass c
  | .indexed c _ => isGeneratorClass c
  | .form f => isGeneratorForm f
  | .applied (.form f) _ => isGeneratorForm f
  | .annotated (.cls c) _ => isGeneratorClass c
  | _ => false

def description? : Value → Option String
  | .annotated _ metadata =>
    metadata.findSome? fun item =>
      match item with
      | .doc text => some text
      | _ => Option.none
  | _ => Option.none

def qualname? : Value → Option String
  | .cls c => some c.qualname
  | .routine _ _ qualname => some qualname
  | .form f => some f.name
  | .applied head args => some ((Value.applied head args).documentedName "")
  | .indexed c _ => some c.qualname
  | .union members => some (if isOptional members then "Optional" else "Union")
  | .literal _ => some "Literal"
  | .annotated _ _ => some "Annotated"
  | .newType _ name _ => some name
  | .instanceOf owner attributes =>
    (Value.instanceOf owner attributes).textAttribute? "__qualname__"
  | .object h =>
    match h.kind with
    | .function => some h.qualname
    | .method => some h.qualname
    | _ => Option.none
  | _ => Option.none

end DocHints.Value
