import DocHints.Proofs.Sections

/-!
# Sections of parameters

A section of parameters is written entry by entry: the name in bold and the
type, the lines of the description below, and an empty line.  The conversion
reads it back exactly and gives the fields of its entries, whatever stands
before the section, and goes on with the text after it.
-/

namespace DocHints.Docstring

structure ParamHead where
  name : String
  type : String
  name_some : name ≠ ""
  name_line : '\n' ∉ name.toList
  name_plain : Text.contains "**" name = false
  type_line : '\n' ∉ type.toList
  type_flush : ∀ c, type.toList.head? = some c → Text.isBlank c = false

namespace ParamHead

def headLine (param : ParamHead) : String :=
  "    **" ++ param.name ++ "**" ++
    (if param.type.isEmpty then "" else " : " ++ param.type)

def fieldsWith (param : ParamHead) (description : Lines) : Lines :=
  Text.trimEnd (":param " ++ param.name ++ ": " ++ Text.join " " description) ::
    (if param.type.isEmpty then [] else [":type " ++ param.name ++ ": " ++ param.type])

end ParamHead

structure WrittenParam extends ParamHead where
  description : Lines
  description_some : ∀ line ∈ description, Text.isVacant line = false
  description_tidy : ∀ line ∈ description, Text.trim line = line

namespace WrittenParam

def descriptionLines (param : WrittenParam) : Lines :=
  param.description.map ("        " ++ ·)

def lines (param : WrittenParam) : Lines :=
  param.headLine :: param.descriptionLines ++ [""]

def fields (param : WrittenParam) : Lines :=
  param.fieldsWith param.description

end WrittenParam

/-! ## The head of an entry -/

theorem lineBody?_of_line {chars : List Char} (line : '\n' ∉ chars) :
    lineBody? chars = some chars := by
  have last : chars.getLast? ≠ some '\n' := fun last => line (List.mem_of_getLast? last)
  simp [lineBody?, last, line]

theorem typePart?_of_type {type : List Char} (some_type : type ≠ [])
    (line : '\n' ∉ type) (flush : ∀ c, type.head? = some c → Text.isBlank c = false) :
    typePart? (' ' :: ':' :: ' ' :: type) = some type := by
  have body : lineBody? (' ' :: ':' :: ' ' :: type) =
      some (' ' :: ':' :: ' ' :: type) :=
    lineBody?_of_line (by simp [line])
  have blank : Text.isBlank ' ' = true := by decide
  have colon : Text.isBlank ':' = false := by decide
  cases type with
  | nil => exact absurd rfl some_type
  | cons c more =>
      have solid : Text.isBlank c = false := flush c rfl
      simp only [typePart?, body, List.dropWhile_cons, blank, colon, solid, if_true,
        Bool.false_eq_true, if_false, lineBody?_of_line line]

theorem typePart?_asterisk (rest : List Char) : typePart? ('*' :: rest) = none := by
  have some_body : lineBody? ('*' :: rest) ≠ some [] := by
    cases rest with
    | nil => decide
    | cons c more =>
        by_cases last : (c :: more).getLast? = some '\n' <;> simp [lineBody?, last]
  have solid : Text.isBlank '*' = false := by decide
  unfold typePart?
  split
  · rename_i empty
    exact absurd empty some_body
  · simp only [List.dropWhile_cons, solid, Bool.false_eq_true, if_false]
    rfl

theorem boldName?_closed {name rest type : List Char} (read : List Char)
    (some_name : read ++ name ≠ []) (line : '\n' ∉ name)
    (plain : Text.cut? ['*', '*'] name = none) (part : typePart? rest = some type) :
    boldName? read (name ++ '*' :: '*' :: rest) =
      some (read.reverse ++ name, type) := by
  induction name generalizing read with
  | nil =>
      cases read with
      | nil => exact absurd rfl some_name
      | cons d read => simp [boldName?, Text.dropStart?, part]
  | cons c name ih =>
      have differs : c ≠ '\n' := fun same => line (same ▸ List.mem_cons_self)
      have line' : '\n' ∉ name := fun inside => line (List.mem_cons_of_mem _ inside)
      obtain ⟨unmarked, plain'⟩ : Text.dropStart? ['*', '*'] (c :: name) = none ∧
          Text.cut? ['*', '*'] name = none := by
        unfold Text.cut? at plain
        split at plain
        · cases plain
        · rename_i unmarked
          exact ⟨unmarked, Option.map_eq_none_iff.mp plain⟩
      -- The mark may begin in the name only where its second half is the first
      -- of the closing mark.
      have unclosed : ∀ after, Text.dropStart? ['*', '*']
          (c :: (name ++ '*' :: '*' :: rest)) =
          some after → typePart? after = none := by
        intro after marked
        obtain ⟨rfl, opens⟩ := List.cons.inj (Text.dropStart?_eq_some_iff.mp marked)
        cases name with
        | nil =>
            cases opens
            exact typePart?_asterisk rest
        | cons d name =>
            obtain ⟨rfl, -⟩ := List.cons.inj opens
            simp [Text.dropStart?] at unmarked
      have later := ih (c :: read) (by simp) line' plain'
      rw [List.cons_append]
      unfold boldName?
      cases marked : Text.dropStart? ['*', '*'] (c :: (name ++ '*' :: '*' :: rest)) with
      | none => cases read <;> simp [differs, later]
      | some after => cases read <;> simp [unclosed after marked, differs, later]

namespace ParamHead

variable (param : ParamHead)

theorem headLine_chars :
    ∃ rest, param.headLine.toList = [' ', ' ', ' ', ' '] ++ '*' :: '*' :: rest ∧
      rest = param.name.toList ++ '*' :: '*' ::
        (if param.type.isEmpty then []
          else ' ' :: ':' :: ' ' :: param.type.toList) := by
  refine ⟨_, ?_, rfl⟩
  unfold headLine
  split <;> simp

theorem entryHead?_headLine :
    entryHead? param.headLine = some (param.name, param.type) := by
  obtain ⟨rest, chars, rest_eq⟩ := param.headLine_chars
  have margin : afterMargin? param.headLine.toList = some ('*' :: '*' :: rest) := by
    rw [chars]
    rfl
  have part : typePart? (if param.type.isEmpty then [] else
      ' ' :: ':' :: ' ' :: param.type.toList) = some param.type.toList := by
    split
    · rename_i empty
      rw [String.isEmpty_iff.mp empty]
      rfl
    · rename_i some_type
      exact typePart?_of_type (by simpa using some_type) param.type_line
        param.type_flush
  have plain : Text.cut? ['*', '*'] param.name.toList = none := by
    simpa [Text.contains] using param.name_plain
  have bold :=
    boldName?_closed [] (by simpa using param.name_some) param.name_line plain part
  rw [← rest_eq] at bold
  have marked : Text.dropStart? ['*', '*'] ('*' :: '*' :: rest) = some rest := by
    simp [Text.dropStart?]
  simp [entryHead?, margin, marked, bold]

theorem headLine_content : Text.isVacant param.headLine = false := by
  obtain ⟨rest, chars, -⟩ := param.headLine_chars
  rw [Text.isVacant, chars]
  rfl

theorem headLine_no_header : Section.ofLine? param.headLine = none := by
  obtain ⟨rest, chars, -⟩ := param.headLine_chars
  have solid : Text.isBlank '*' = false := by decide
  obtain ⟨more, trimmed⟩ := Text.dropEndsWhile_append [] rest solid solid
  have opening : (Text.trim param.headLine).toList = '*' :: '*' :: more := by
    rw [Text.trim, String.toList_ofList, chars, Text.dropEndsWhile_gap (by decide)]
    exact trimmed
  exact ofLine?_of_trim opening (.inl (by decide))

theorem paramFields_eq (description : Lines) (stop : Nat) :
    (Entry.mk param.name param.type description stop).paramFields =
      param.fieldsWith description := rfl

end ParamHead

/-! ## Entries -/

theorem entriesFrom_empty_line (index : Nat) (rest : Lines) :
    entriesFrom index ("" :: rest) = entriesFrom (index + 1) rest := by
  have no_header : Section.ofLine? "" = none := by decide
  have vacant : Text.isVacant "" = true := by decide
  rw [entriesFrom]
  simp [no_header, vacant]

def EndsDescription (rest : Lines) : Prop :=
  ∀ line, rest.head? = some line → isDescription line = false

theorem entriesFrom_entry {line name type : String} {description rest : Lines}
    (no_header : Section.ofLine? line = none) (content : Text.isVacant line = false)
    (head : entryHead? line = some (name, type))
    (described : ∀ line ∈ description, isDescription line = true)
    (ends : EndsDescription rest) (index : Nat) :
    entriesFrom index (line :: (description ++ rest)) =
      ⟨name, type, description.map Text.trim, index + 1 + description.length⟩ ::
        entriesFrom (index + 1 + description.length) rest := by
  have none_taken : rest.takeWhile isDescription = [] := by
    cases rest with
    | nil => rfl
    | cons next others => simp [ends next rfl]
  have taken : (description ++ rest).takeWhile isDescription = description := by
    rw [List.takeWhile_append_of_pos described, none_taken, List.append_nil]
  have left : (description ++ rest).dropWhile isDescription = rest := by
    have whole :=
      List.takeWhile_append_dropWhile (p := isDescription) (l := description ++ rest)
    rw [taken] at whole
    exact List.append_cancel_left whole
  rw [entriesFrom]
  simp [no_header, content, head, taken, left]

namespace WrittenParam

variable (param : WrittenParam)

theorem description_read {line : String} (inside : line ∈ param.description) :
    isDescription ("        " ++ line) = true ∧
      Text.trim ("        " ++ line) = line := by
  have content : Text.isVacant ("        " ++ line) = false := by
    have blank : Text.isBlank ' ' = true := by decide
    simpa [Text.isVacant, blank] using param.description_some line inside
  have starts : Text.startsWith "        " ("        " ++ line) = true :=
    Text.startsWith_iff.mpr ⟨line.toList, String.toList_append ..⟩
  refine ⟨by simp [isDescription, content, starts], ?_⟩
  have tidy := param.description_tidy line inside
  rw [Text.trim] at tidy ⊢
  rw [String.toList_append, Text.dropEndsWhile_gap (by decide), tidy]

theorem isDescription_of_mem {line : String} (inside : line ∈ param.descriptionLines) :
    isDescription line = true := by
  obtain ⟨text, described, rfl⟩ := List.mem_map.mp inside
  exact (param.description_read described).1

theorem map_trim_descriptionLines :
    param.descriptionLines.map Text.trim = param.description := by
  rw [descriptionLines, List.map_map]
  exact (List.map_congr_left fun line inside => (param.description_read inside).2).trans
    (List.map_id _)

/-- An entry is read as it is written; it stops before its empty line. -/
theorem entriesFrom_lines (index : Nat) (rest : Lines) :
    entriesFrom index (param.lines ++ rest) =
      ⟨param.name, param.type, param.description,
        index + 1 + param.description.length⟩ ::
        entriesFrom (index + param.lines.length) rest := by
  have length : param.descriptionLines.length = param.description.length :=
    List.length_map _
  have next : index + 1 + param.description.length + 1 =
      index + param.lines.length := by
    simp [lines, length]
    omega
  have split : param.lines ++ rest =
      param.headLine :: (param.descriptionLines ++ "" :: rest) := by
    simp [lines]
  have ends : EndsDescription ("" :: rest) := by
    rintro line ⟨⟩
    decide
  rw [split, entriesFrom_entry param.headLine_no_header param.headLine_content
    param.entryHead?_headLine (fun line inside =>
      param.isDescription_of_mem inside) ends,
    param.map_trim_descriptionLines, length, entriesFrom_empty_line, next]

end WrittenParam

/-! ## Sections -/

def Unindented (line : String) : Prop :=
  ∃ c rest, line.toList = c :: rest ∧ Text.isBlank c = false

section

variable {after : Lines} (ends : ∀ line, after.head? = some line → Unindented line)

include ends

theorem entriesFrom_unindented (index : Nat) : entriesFrom index after = [] := by
  cases after with
  | nil => rw [entriesFrom]
  | cons line rest =>
      obtain ⟨c, more, chars, solid⟩ := ends line rfl
      have content : Text.isVacant line = false := by simp [Text.isVacant, chars, solid]
      rw [entriesFrom]
      simp [content, entryHead?_of_flush chars solid]

theorem entriesFrom_params (params : List WrittenParam) (index : Nat) :
    (entriesFrom index (params.flatMap WrittenParam.lines ++ after)).flatMap
      Entry.paramFields = params.flatMap WrittenParam.fields := by
  induction params generalizing index with
  | nil => simp [entriesFrom_unindented ends]
  | cons param params ih =>
      rw [List.flatMap_cons, List.append_assoc, param.entriesFrom_lines,
        List.flatMap_cons, param.paramFields_eq, ih, List.flatMap_cons,
        WrittenParam.fields]

theorem entriesFrom_last_stop {params : List WrittenParam} (some_param : params ≠ [])
    (index : Nat) :
    ∃ front, params.flatMap WrittenParam.lines = front ++ [""] ∧
      (entriesFrom index (params.flatMap WrittenParam.lines ++ after)).getLast?.map
        Entry.stop = some (index + front.length) := by
  induction params generalizing index with
  | nil => exact absurd rfl some_param
  | cons param params ih =>
      rw [List.flatMap_cons, List.append_assoc, param.entriesFrom_lines]
      cases params with
      | nil =>
          refine ⟨param.headLine :: param.descriptionLines,
            by simp [WrittenParam.lines], ?_⟩
          simp [entriesFrom_unindented ends, WrittenParam.descriptionLines]
          omega
      | cons next params =>
          obtain ⟨front, split, stop⟩ := ih (by simp) (index + param.lines.length)
          obtain ⟨last, found, stop⟩ := Option.map_eq_some_iff.mp stop
          refine ⟨param.lines ++ front, by rw [split, List.append_assoc], ?_⟩
          rw [List.getLast?_cons, found]
          simp [stop, Nat.add_assoc]

end

theorem convertSections_append {before : Lines}
    (plain : ∀ line ∈ before, Section.ofLine? line = none) (rest : Lines) :
    convertSections (before ++ rest) = before ++ convertSections rest := by
  induction before with
  | nil => rfl
  | cons line before ih =>
      obtain ⟨no_header, plain⟩ := List.forall_mem_cons.mp plain
      rw [List.cons_append, convertSections]
      simp only [no_header, ih plain, List.cons_append]

/--
A section of parameters becomes the fields of its entries and the empty line at
its end, between the lines before it, which stay, and what the lines after it
become.
-/
theorem convertSections_params {before after : Lines} {params : List WrittenParam}
    (plain : ∀ line ∈ before, Section.ofLine? line = none) (some_param : params ≠ [])
    (ends : ∀ line, after.head? = some line → Unindented line) :
    convertSections
      (before ++ [":Parameters:", ""] ++ params.flatMap WrittenParam.lines ++ after) =
      before ++ params.flatMap WrittenParam.fields ++ [""] ++
        convertSections after := by
  have header : Section.ofLine? ":Parameters:" = some .parameters := by decide
  have vacant : Text.isVacant "" = true := by decide
  have shape : before ++ [":Parameters:", ""] ++
      params.flatMap WrittenParam.lines ++ after =
      before ++ ":Parameters:" :: "" ::
        (params.flatMap WrittenParam.lines ++ after) := by
    simp
  obtain ⟨front, split, stop⟩ := entriesFrom_last_stop ends some_param 0
  have left : (params.flatMap WrittenParam.lines ++ after).drop (0 + front.length) =
      "" :: after := by
    rw [split, List.append_assoc]
    simp
  have no_header : ∀ line ∈ [""], Section.ofLine? line = none := by decide
  have empty : convertSections ("" :: after) = "" :: convertSections after :=
    convertSections_append no_header after
  rw [shape, convertSections_append plain, convertSections]
  simp only [header, skipVacant, vacant, if_true, stop, Option.getD_some, left, empty,
    Section.fields, entriesFrom_params ends]
  simp

def starredParam : WrittenParam where
  name := "a*"
  type := "int ** : x"
  description := ["one", "two"]
  name_some := by decide
  name_line := by decide
  name_plain := by decide
  type_line := by decide
  type_flush := by
    rintro c ⟨⟩
    decide
  description_some := by decide
  description_tidy := by decide

def bareParam : WrittenParam where
  name := "b"
  type := ""
  description := []
  name_some := by decide
  name_line := by decide
  name_plain := by decide
  type_line := by decide
  type_flush := by
    rintro c ⟨⟩
  description_some := by decide
  description_tidy := by decide

theorem convertSections_params_starred :
    convertSections ["Text.", ":Parameters:", "", "    **a*** : int ** : x",
        "        one", "        two", "", "    **b**", "", "Tail."] =
      ["Text.", ":param a*: one two", ":type a*: int ** : x", ":param b:", "",
        "Tail."] := by
  have plain : ∀ line ∈ ["Text."], Section.ofLine? line = none := by decide
  have tail : ∀ line ∈ ["Tail."], Section.ofLine? line = none := by decide
  have ends : ∀ line, ["Tail."].head? = some line → Unindented line := by
    rintro line ⟨⟩
    exact ⟨'T', _, rfl, by decide⟩
  have converted :=
    convertSections_params plain (List.cons_ne_nil starredParam [bareParam]) ends
  have kept : convertSections ["Tail."] = ["Tail."] := by
    simpa [convertSections] using convertSections_append tail []
  rw [kept] at converted
  exact converted.trans (by decide)

end DocHints.Docstring
