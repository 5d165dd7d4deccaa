import DocHints.Text.Cut

/-!
# The type role

A rendered type is wrapped in a role of its own, so that a style sheet can
address it.  Its markup is escaped inside the role and unescaped when the role
is read.
-/

namespace DocHints.Markup

/--
The characters that could be read as markup: all ASCII punctuation but the full
stop.
-/
def isMarkupSign (c : Char) : Bool :=
  let n := c.toNat
  (33 ≤ n && n ≤ 47 && n != 46) || (58 ≤ n && n ≤ 64) || (91 ≤ n && n ≤ 96)
    || (123 ≤ n && n ≤ 126)

def escapeSigns (chars : List Char) : List Char :=
  chars.flatMap fun c => if isMarkupSign c then ['\\', c] else [c]

/-- A full stop is escaped only where it opens the text. -/
def escapeChars (chars : List Char) : List Char :=
  match escapeSigns chars with
  | '.' :: rest => '\\' :: '.' :: rest
  | escaped => escaped

def escape (s : String) : String :=
  String.ofList (escapeChars s.toList)

/-- A backslash gives way to the character after it, unless that is a space. -/
def unescapeChars : List Char → List Char
  | [] => []
  | [c] => [c]
  | c :: d :: rest =>
    if c = '\\' && d != ' ' then d :: unescapeChars rest
    else c :: unescapeChars (d :: rest)

def unescape (s : String) : String :=
  String.ofList (unescapeChars (s.toList.filter (· != '\x00')))

def typeRole (rendered : String) : String :=
  ":sphinx_autodoc_typehints_type:`" ++ escape rendered ++ "`"

end DocHints.Markup
