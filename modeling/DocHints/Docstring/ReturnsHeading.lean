import DocHints.Docstring.Position
import DocHints.Text.Cut

/-!
# The heading of a result

A heading `Returns` with an underline is followed by a description.  A colon on
a line of its own below the underline keeps the first line of the description
from being read as a type.
-/

namespace DocHints.Docstring

def isReturnsHeading (line : String) : Bool :=
  let title := Text.trimMark ':' line.toLower
  title == "return" || title == "returns"

def isUnderline (line : String) : Bool :=
  match (Text.trim line).toList with
  | [] => false
  | c :: rest => "=-~_*+#".toList.contains c && rest.all (· == c)

/--
Inserts the colon below the first heading that has an underline and a line after
it.
-/
def closeReturnsHeading : Lines → Lines
  | line :: underline :: next :: rest =>
    if isReturnsHeading line && isUnderline underline then
      line :: underline :: ":" :: next :: rest
    else line :: closeReturnsHeading (underline :: next :: rest)
  | lines => lines

end DocHints.Docstring
