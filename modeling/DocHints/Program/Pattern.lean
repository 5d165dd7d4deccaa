import DocHints.Program.Evaluate
import DocHints.Program.LibraryCall

/-!
# Fitting patterns

A pattern does not fit a value, or it gives names to some of its parts.
-/

namespace DocHints.Program

open Source (Expr Pattern)

abbrev Fit := Option Names

def World.ownerOf? (w : World) (v : Value) : Option ClassRef :=
  match w.object? v, classOf v with
  | some (.instanceOf owner _), _ => some owner
  | _, .cls c => some c
  | _, _ => none

def World.isInstance (w : World) (v : Value) (c : ClassRef) : Bool :=
  c == objectClass || ((w.ownerOf? v).map w.lineage).any (·.contains c)
    || (v matches .bool _) && c == ⟨"builtins", "int", .library, true⟩

/-- The classes whose instances stand for themselves in their only field by position. -/
def selfFitting : List String :=
  ["bool", "bytearray", "bytes", "dict", "float", "frozenset", "int", "list", "set",
    "str", "tuple"]

/--
The attributes behind the fields by position of a class; `none` is the instance
itself.
-/
def positionFields (engine : Engine) (c : ClassRef) : Run (List (Option String)) := do
  match ← getAttribute? engine (.cls c) "__match_args__" with
  | some (.tuple items) => return (slotNames (.tuple items)).map some
  | some _ => throw (.misuse (c.name ++ ".__match_args__ must be a tuple"))
  | none =>
    let w ← get
    let fitting :=
      (w.lineage c).any fun d => d.module == "builtins" && selfFitting.contains d.name
    return if fitting then [none] else []

/--
The attributes behind the fields of a pattern, of which those by position come
first.
-/
def fieldAttributes (engine : Engine) (c : ClassRef)
    (fields : List (Option String × Pattern)) : Run (List (Option String)) := do
  let (placed, named) := fields.partition (·.1.isNone)
  let positions ← if placed.isEmpty then pure [] else positionFields engine c
  if positions.length < placed.length then
    throw (.misuse (c.name ++ "() accepts " ++ toString positions.length
      ++ " positional sub-patterns (" ++ toString placed.length ++ " given)"))
  return positions.take placed.length ++ named.map (·.1)

def fieldPart? (engine : Engine) (v : Value) : Option String → Run (Option Value)
  | some name => getAttribute? engine v name
  | none => return some v

mutual

def fit (engine : Engine) (scope : Scope) : Pattern → Value → Run Fit
  | .value e, v => do
    return if Value.equal v (← engine.evaluate scope e) then some [] else none
  | .singleton c, v => return if isSame v (constantValue c) then some [] else none
  | .capture name, v => return some (name.toList.map (·, v))
  | .others name, v => return some (name.toList.map (·, v))
  | .bound pattern name, v =>
    do return (← fit engine scope pattern v).map (· ++ [(name, v)])
  | .oneOf patterns, v => fitAny engine scope patterns v
  | .sequence patterns, v =>
    match v with
    | .list items => fitItems engine scope patterns items
    | .tuple items => fitItems engine scope patterns items
    | _ => return none
  | .mapping entries rest, v =>
    match v with
    | .dict held => fitEntries engine scope entries rest held
    | _ => return none
  | .instanceOf cls fields, v => do
    match ← engine.evaluate scope cls with
    | .cls c =>
      if (← get).isInstance v c then
        fitFields engine scope fields (← fieldAttributes engine c fields) v
      else return none
    | _ => throw (.misuse "called match pattern must be a class")

def fitAny (engine : Engine) (scope : Scope) : List Pattern → Value → Run Fit
  | [], _ => return none
  | pattern :: rest, v => do
    match ← fit engine scope pattern v with
    | some names => return some names
    | none => fitAny engine scope rest v

def fitItems (engine : Engine) (scope : Scope) : List Pattern → List Value → Run Fit
  | [], items => return if items.isEmpty then some [] else none
  | .others name :: rest, items => do
    let taken := items.length - rest.length
    let names := name.toList.map (·, Value.list (items.take taken))
    return (← fitItems engine scope rest (items.drop taken)).map (names ++ ·)
  | _ :: _, [] => return none
  | pattern :: rest, item :: items => do
    match ← fit engine scope pattern item with
    | some names => return (← fitItems engine scope rest items).map (names ++ ·)
    | none => return none

/-- The entries of a mapping; the name of the rest gets those that no key takes. -/
def fitEntries (engine : Engine) (scope : Scope) :
    List (Expr × Pattern) → Option String → List (Value × Value) → Run Fit
  | [], name, held => return some (name.toList.map (·, Value.dict held))
  | (key, pattern) :: rest, name, held => do
    let key ← engine.evaluate scope key
    match held.find? fun entry => Value.equal entry.1 key with
    | none => return none
    | some (_, part) =>
      match ← fit engine scope pattern part with
      | some names =>
        let left := held.filter fun entry => !Value.equal entry.1 key
        return (← fitEntries engine scope rest name left).map (names ++ ·)
      | none => return none

def fitFields (engine : Engine) (scope : Scope) :
    List (Option String × Pattern) → List (Option String) → Value → Run Fit
  | (_, pattern) :: rest, name :: names, v => do
    match ← fieldPart? engine v name with
    | none => return none
    | some part =>
      match ← fit engine scope pattern part with
      | some given => return (← fitFields engine scope rest names v).map (given ++ ·)
      | none => return none
  | _, _, _ => return some []

end

end DocHints.Program
