import DocHints.Text.Lines

/-!
# Guarded blocks

Imports that only a type checker needs stand under a guard at the margin of a
module.  A guarded block goes on to the next line that has something at its
margin.
-/

namespace DocHints.Hints

def afterGuard? (line : List Char) : Option (List Char) :=
  match Text.dropStart? "if typing.TYPE_CHECKING:".toList line with
  | some rest => some rest
  | none => Text.dropStart? "if TYPE_CHECKING:".toList line

/--
Divides a text before the first line feed that has a character other than a
blank behind it; `none` if there is no such place.
-/
def cutAtMargin? : List Char → Option (List Char × List Char)
  | [] => none
  | '\n' :: rest =>
    match rest with
    | [] => none
    | c :: _ =>
      if Text.isBlank c then (cutAtMargin? rest).map fun halves =>
        ('\n' :: halves.1, halves.2)
      else some ([], '\n' :: rest)
  | c :: rest => (cutAtMargin? rest).map fun halves => (c :: halves.1, halves.2)

/--
The bodies of the guarded blocks in order; the text counts its own line feeds as
`fuel`.
-/
def guardedBodiesFrom : Nat → List Char → List (List Char)
  | 0, _ => []
  | _, [] => []
  | fuel + 1, c :: rest =>
    if c = '\n' then
      match afterGuard? rest with
      | none => guardedBodiesFrom fuel rest
      | some after =>
        match cutAtMargin? (after.dropWhile (· != '\n')) with
        | some (body, others) => body :: guardedBodiesFrom fuel others
        | none => guardedBodiesFrom fuel rest
    else guardedBodiesFrom fuel rest

def guardedBlocks (source : String) : List String :=
  let chars := source.toList
  (guardedBodiesFrom (chars.length + 1) chars).map fun body =>
    Text.dedent (String.ofList body)

end DocHints.Hints
