import DocHints.Docstring.Position
import DocHints.Text.Cut

/-!
# Sections

A docstring may list its parameters, results and errors in sections, each under
a header of its own.  An entry is a line indented by four blanks, with its name
in bold and an optional type, or with a type alone; its description is indented
by eight spaces.  Sections are converted to fields.
-/

namespace DocHints.Docstring

inductive Section where
  | parameters
  | otherParameters
  | returns
  | raises
  | yields
  deriving DecidableEq, Repr, Inhabited

def Section.ofLine? (line : String) : Option Section :=
  match Text.trim line with
  | ":Parameters:" => some .parameters
  | ":Other Parameters:" => some .otherParameters
  | ":Returns:" => some .returns
  | ":Raises:" => some .raises
  | ":Yields:" => some .yields
  | _ => none

/-- An entry of a section; `stop` is the index of the first line after it. -/
structure Entry where
  name : String
  type : String
  description : Lines
  stop : Nat
  deriving DecidableEq, Repr, Inhabited

/-! ## Headers of entries -/

/-- What follows an indentation of exactly four blanks. -/
def afterMargin? (line : List Char) : Option (List Char) :=
  if 4 ≤ line.length && (line.take 4).all Text.isBlank then some (line.drop 4) else none

def lineBody? (chars : List Char) : Option (List Char) :=
  let body := if chars.getLast? = some '\n' then chars.dropLast else chars
  if body.contains '\n' then none else some body

/-- The type after a name: nothing, or a colon and a text of at least one character. -/
def typePart? (chars : List Char) : Option (List Char) :=
  match lineBody? chars with
  | some [] => some []
  | _ =>
    match chars.dropWhile Text.isBlank with
    | ':' :: rest =>
      let trimmed := rest.dropWhile Text.isBlank
      match lineBody? trimmed with
      | some (c :: more) => some (c :: more)
      | some [] =>
        -- The blanks themselves are the type where nothing else is left.
        match (rest.filter (· != '\n')).getLast? with
        | some c => if trimmed.isEmpty then some [c] else none
        | none => none
      | none => none
    | _ => none

/-- The shortest bold name whose closing mark is followed by a type part. -/
def boldName? : List Char → List Char → Option (List Char × List Char)
  | _, [] => none
  | name, c :: rest =>
    let closed :=
      match name, Text.dropStart? ['*', '*'] (c :: rest) with
      | _ :: _, some after => (typePart? after).map (name.reverse, ·)
      | _, _ => none
    match closed with
    | some found => some found
    | none => if c = '\n' then none else boldName? (c :: name) rest

def entryHead? (line : String) : Option (String × String) :=
  match afterMargin? line.toList with
  | none => none
  | some rest =>
    let bold :=
      match Text.dropStart? ['*', '*'] rest with
      | some body => boldName? [] body
      | none => none
    match bold with
    | some (name, type) => some (String.ofList name, String.ofList type)
    | none =>
      match rest with
      | [] => none
      | c :: more =>
        match lineBody? more with
        | some (d :: body) =>
          if Text.isBlank c then none
          else some ("", Text.trim (String.ofList (c :: d :: body)))
        | _ => none

/-! ## Entries -/

def isDescription (line : String) : Bool :=
  Text.startsWith "        " line && !Text.isVacant line

/--
The entries that begin at a line of the given index, up to the next header or
other text.
-/
def entriesFrom (index : Nat) (lines : Lines) : List Entry :=
  match lines with
  | [] => []
  | line :: rest =>
    if (Section.ofLine? line).isSome then []
    else if Text.isVacant line then entriesFrom (index + 1) rest
    else
      match entryHead? line with
      | none => []
      | some (name, type) =>
        let description := rest.takeWhile isDescription
        let stop := index + 1 + description.length
        let others := rest.dropWhile isDescription
        ⟨name, type, description.map Text.trim, stop⟩ :: entriesFrom stop others
termination_by lines.length
decreasing_by
  · simp
  · have := (List.dropWhile_sublist isDescription (l := rest)).length_le
    simp only [List.length_cons]
    omega

def entriesAt (lines : Lines) (start : Nat) : List Entry :=
  entriesFrom start (lines.drop start)

/-! ## Fields -/

namespace Entry

def text (entry : Entry) : String :=
  Text.join " " entry.description

def paramFields (entry : Entry) : Lines :=
  Text.trimEnd (":param " ++ entry.name ++ ": " ++ entry.text) ::
    (if entry.type.isEmpty then [] else [":type " ++ entry.name ++ ": " ++ entry.type])

def listItem (entry : Entry) : String :=
  let label := if entry.name.isEmpty then "" else "**" ++ entry.name ++ "**"
  let type := if entry.type.isEmpty then "" else " (" ++ entry.type ++ ")"
  Text.trimEnd ("   * " ++ label ++ type ++ " -- " ++ entry.text)

def raisesField (entry : Entry) : String :=
  let error := if entry.name.isEmpty then entry.type else entry.name
  Text.trimEnd (":raises " ++ error ++ ": " ++ entry.text)

end Entry

def resultFields (field : String) (entries : List Entry) : Lines :=
  match entries with
  | [entry] => if entry.text.isEmpty then [] else [field ++ " " ++ entry.text]
  | _ => field :: entries.map Entry.listItem

def Section.fields (section_ : Section) (entries : List Entry) : Lines :=
  match section_ with
  | .parameters => entries.flatMap Entry.paramFields
  | .otherParameters => entries.flatMap Entry.paramFields
  | .returns => resultFields ":returns:" entries
  | .raises => entries.map Entry.raisesField
  | .yields => resultFields ":Yields:" entries

/-- One vacant line after a header belongs to it. -/
def skipVacant : Lines → Lines
  | [] => []
  | line :: rest => if Text.isVacant line then rest else line :: rest

def convertSections (lines : Lines) : Lines :=
  match lines with
  | [] => []
  | line :: rest =>
    match Section.ofLine? line with
    | none => line :: convertSections rest
    | some section_ =>
      let body := skipVacant rest
      let entries := entriesFrom 0 body
      let stop := ((entries.getLast?).map Entry.stop).getD 0
      section_.fields entries ++ convertSections (body.drop stop)
termination_by lines.length
decreasing_by
  · simp
  · have : (skipVacant rest).length ≤ rest.length := by
      cases rest with
      | nil => simp [skipVacant]
      | cons head tail => simp only [skipVacant]; split <;> simp
    simp only [List.length_drop, List.length_cons]
    omega

def hasSections (lines : Lines) : Bool :=
  lines.any fun line => (Section.ofLine? line).isSome

end DocHints.Docstring
