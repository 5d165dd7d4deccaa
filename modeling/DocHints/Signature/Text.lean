import DocHints.Annotation.Describe
import DocHints.Signature.Basic

/-!
# The text of a signature

A signature in one line: the parameters with their annotations and defaults, a
slash after those that are given by position only, a star before those that are
given by name only, and the result behind an arrow.
-/

namespace DocHints

/-! ## Defaults -/

namespace Value

def keyOrder? (a b : Value) : Option Ordering :=
  match a, b with
  | .str s, .str t => some (compareOfLessAndEq s t)
  | _, _ =>
    match a.integer?, b.integer? with
    | some m, some n => some (compare m n)
    | _, _ => Option.none

def comparable : List Value → Bool
  | [] => true
  | key :: rest =>
    rest.all (fun other => (keyOrder? key other).isSome) && comparable rest

def isAddressDigit (c : Char) : Bool :=
  ('0' ≤ c && c ≤ '9') || ('a' ≤ c && c ≤ 'f') || ('A' ≤ c && c ≤ 'F')

def afterAddress? (chars : List Char) : Option (List Char) :=
  match Text.dropStart? " at 0x".toList chars with
  | Option.none => Option.none
  | some rest =>
    let digits := rest.takeWhile isAddressDigit
    let after := rest.drop digits.length
    if 8 ≤ digits.length && digits.length ≤ 16 && after.head? == some '>' then
      some after
    else Option.none

def withoutAddresses : Nat → List Char → List Char
  | 0, chars => chars
  | _, [] => []
  | fuel + 1, c :: rest =>
    match afterAddress? (c :: rest) with
    | some after => withoutAddresses fuel after
    | Option.none => c :: withoutAddresses fuel rest

def tidy (text : String) : String :=
  Text.replaceAll "\n" " " (String.ofList (withoutAddresses text.length text.toList))

/--
The keys of a dictionary in order: by value if they can be compared, else by
their texts.
-/
def sortEntries (keys : List Value) (entries : List (Value × String × String)) :
    List (Value × String × String) :=
  if comparable keys then
    entries.mergeSort fun a b => keyOrder? a.1 b.1 != some .gt
  else entries.mergeSort fun a b => a.2.1 ≤ b.2.1

mutual

def defaultText : Value → String
  | .dict entries =>
    let texts := sortEntries (entries.map (·.1)) (defaultEntries entries)
    "\x7b" ++ Text.join ", " (texts.map fun entry => entry.2.1 ++ ": " ++ entry.2.2)
      ++ "\x7d"
  | .member owner name _ => owner.name ++ "." ++ name
  | .tuple items =>
    match defaultTexts items with
    | [item] => "(" ++ item ++ ",)"
    | texts => "(" ++ Text.join ", " texts ++ ")"
  | .list items => "[" ++ Text.join ", " (defaultTexts items) ++ "]"
  | v => tidy v.text

def defaultTexts : List Value → List String
  | [] => []
  | item :: rest => defaultText item :: defaultTexts rest

def defaultEntries : List (Value × Value) → List (Value × String × String)
  | [] => []
  | (key, item) :: rest =>
    (key, defaultText key, defaultText item) :: defaultEntries rest

end

/-! ## Annotations -/

def isVacant : Value → Bool
  | .bool b => !b
  | .int n => n == 0
  | .float x => x.isZero
  | .bytes content => content.isEmpty
  | .list items => items.isEmpty
  | .tuple items => items.isEmpty
  | .dict entries => entries.isEmpty
  | _ => false

def unquoted (text : String) : String :=
  if Text.startsWith "'" text && Text.endsWith "'" text then
    String.ofList (text.toList.drop 1).dropLast
  else text

/-- Classes of the interpreter that tell a module in which they cannot be found. -/
def signaturePath? (c : ClassRef) : Option String :=
  if c.origin != .library then Option.none
  else if c.module == "_contextvars" then some ("contextvars." ++ c.qualname)
  else if c.module == "_struct" then some ("struct." ++ c.qualname)
  else
    match c.module, c.qualname with
    | "builtins", "NoneType" => Option.none
    | "builtins", "ellipsis" => Option.none
    | "builtins", "NotImplementedType" => Option.none
    | "builtins", "function" => some "types.LambdaType"
    | "builtins", _ => (Library.interpreterName? (.cls c)).map ("types." ++ ·)
    | _, _ => Option.none

def isTypingVariable : Value → Bool
  | .typeVar v _ _ => v.module == "typing"
  | _ => false

def isLiteral : Value → Bool
  | .literal _ => true
  | _ => false

/-- A member of a literal; a member of an enumeration is shown by its class. -/
def literalMemberText (short : Bool) : Value → String
  | .member owner name _ =>
    if short || owner.module == "builtins" then owner.qualname ++ "." ++ name
    else owner.module ++ "." ++ owner.qualname ++ "." ++ name
  | v => v.text

def literalMembersText (short : Bool) (values : List Value) : String :=
  "[" ++ Text.join ", " (values.map (literalMemberText short)) ++ "]"

def literalValues (members : List Value) : List Value :=
  distinct sameLiteral (members.flatMap fun member =>
    match member with
    | .literal values => values
    | _ => [])

def argumentsText (callable : Bool) (args : List Value) (texts : List String) :
    String :=
  if args.isEmpty then ""
  else if callable then
    "[[" ++ Text.join ", " texts.dropLast ++ "], " ++ texts.getLastD "" ++ "]"
  else if args.all isTypingVariable then ""
  else "[" ++ Text.join ", " texts ++ "]"

mutual

/--
An annotation as a signature shows it; `short` marks names that show their last
part only.
-/
def signatureText (short : Bool) (v : Value) : String :=
  let mark := if short then "~" else ""
  match v with
  | .none => "None"
  | .ellipsis => "..."
  | .str s => unquoted s
  | .typeVar x _ _ =>
    if short && x.module == "typing" then x.name else mark ++ x.module ++ "." ++ x.name
  | .newType home name _ => mark ++ home ++ "." ++ name
  | .cls c =>
    if c == noneClass then "None"
    else
      match signaturePath? c with
      | some path => mark ++ path
      | Option.none =>
        if c.module == "builtins" then c.qualname
        else mark ++ c.module ++ "." ++ c.qualname
  | .routine _ home qualname =>
    if home == "builtins" then qualname else mark ++ home ++ "." ++ qualname
  | .form f => mark ++ f.path
  | .applied (.form f) args =>
    mark ++ f.path ++ argumentsText (f.name == "Callable") args
      (signatureTexts short args)
  | .applied head args =>
    mark ++ (head.home?.getD "") ++ "." ++ (Value.applied head []).documentedName ""
      ++ argumentsText false args (signatureTexts short args)
  | .indexed c args =>
    if c.module == "builtins" then
      if args.isEmpty then v.text
      else c.qualname ++ "[" ++ Text.join ", " (signatureTexts short args) ++ "]"
    else
      mark ++ c.module ++ "." ++ c.qualname
        ++ argumentsText (c.qualname == "Callable") args (signatureTexts short args)
  | .union members =>
    if !isOptional members && members.all isLiteral then
      mark ++ "typing.Literal" ++ literalMembersText short (literalValues members)
    else Text.join " | " (signatureTexts short members)
  | .bars members => Text.join " | " (signatureTexts short members)
  | .literal values => mark ++ "typing.Literal" ++ literalMembersText short values
  | .annotated base _ => signatureText short base
  | .forwardRef text => text
  | .aliasName name _ => name
  | .typeAlias a => a.name
  | .instanceOf owner attributes =>
    let self := Value.instanceOf owner attributes
    match self.textAttribute? "__qualname__" with
    | some name => mark ++ (self.home?.getD owner.module) ++ "." ++ name
    | Option.none => self.text
  | .object h =>
    match h.kind with
    | .function => mark ++ h.module ++ "." ++ h.qualname
    | .method => mark ++ h.module ++ "." ++ h.qualname
    | _ => v.text
  | _ => v.text

def signatureTexts (short : Bool) : List Value → List String
  | [] => []
  | v :: rest => signatureText short v :: signatureTexts short rest

end

end Value

/-! ## The whole line -/

namespace Signature

open Source (ParamKind)

def stars : ParamKind → String
  | .variadic => "*"
  | .keywords => "**"
  | _ => ""

def paramText (short : Bool) (param : SignatureParam) : String :=
  let head := stars param.kind ++ param.name
  match param.hint, param.default with
  | none, none => head
  | none, some default => head ++ "=" ++ default.defaultText
  | some hint, none => head ++ ": " ++ hint.signatureText short
  | some hint, some default =>
    head ++ ": " ++ hint.signatureText short ++ " = " ++ default.defaultText

/--
The parameters with the marks between their kinds; `last` is the kind before
them.
-/
def paramTexts (short : Bool) : Option ParamKind → List SignatureParam → List String
  | last, [] => if last == some .positionalOnly then ["/"] else []
  | last, param :: rest =>
    let slash :=
      if last == some .positionalOnly && param.kind != .positionalOnly then ["/"]
      else []
    let star :=
      if param.kind == .keywordOnly
          && (last == none || last == some .positionalOnly || last == some .standard)
      then ["*"] else []
    slash ++ star ++ paramText short param :: paramTexts short (some param.kind) rest

def text (short showResult : Bool) (signature : Signature) : String :=
  let params := "(" ++ Text.join ", " (paramTexts short none signature.params) ++ ")"
  match signature.result with
  | some result =>
    if showResult then params ++ " -> " ++ result.signatureText short else params
  | none => params

end Signature

end DocHints
