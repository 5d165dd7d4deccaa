import DocHints.Proofs.ParamParagraphs
import Mathlib.Data.List.TakeWhile

/-!
# Sections of types

Results and errors are listed by their types, without names.  The head of such
an entry is read only if its text has two characters or more, so a section is
read up to the first type that is written with a single one, and is read to its
end exactly if it has none.
-/

namespace DocHints

theorem Text.length_dropEndsWhile_le (p : Char → Bool) (chars : List Char) :
    (dropEndsWhile p chars).length ≤ chars.length := by
  have front := (List.dropWhile_sublist p (l := chars)).length_le
  have back := (List.dropWhile_sublist p (l := (chars.dropWhile p).reverse)).length_le
  rw [List.length_reverse] at back
  simp only [dropEndsWhile, dropEndWhile, dropStartWhile, List.length_reverse]
  omega

end DocHints

namespace DocHints.Docstring

/-! ## Heads in bold -/

/-- A name in bold, alone or with a colon and a type behind it. -/
def BoldForm (text : List Char) : Prop :=
  ∃ name rest, name ≠ [] ∧ text = '*' :: '*' :: (name ++ '*' :: '*' :: rest) ∧
    (rest = [] ∨ ∃ gap type, gap.all Text.isBlank = true ∧ type ≠ [] ∧
      rest = gap ++ ':' :: type)

theorem typePart?_eq_some {chars type : List Char} (line : '\n' ∉ chars)
    (read : typePart? chars = some type) :
    chars = [] ∨ ∃ gap rest, gap.all Text.isBlank = true ∧ rest ≠ [] ∧
      chars = gap ++ ':' :: rest := by
  have body : lineBody? chars = some chars := lineBody?_of_line line
  cases chars with
  | nil => exact .inl rfl
  | cons c more =>
      right
      have split : c :: more = (c :: more).takeWhile Text.isBlank ++
          (c :: more).dropWhile Text.isBlank := List.takeWhile_append_dropWhile.symm
      simp only [typePart?, body] at read
      split at read
      · rename_i rest solid
        refine ⟨(c :: more).takeWhile Text.isBlank, rest, List.all_takeWhile, ?_,
          solid ▸ split⟩
        rintro rfl
        cases read
      · cases read

theorem boldName?_eq_some {read chars name type : List Char} (line : '\n' ∉ chars)
    (found : boldName? read chars = some (name, type)) :
    ∃ inner rest, read.reverse ++ inner ≠ [] ∧ chars = inner ++ '*' :: '*' :: rest ∧
      typePart? rest = some type := by
  induction chars generalizing read with
  | nil => cases found
  | cons c chars ih =>
      obtain ⟨differs, line'⟩ : c ≠ '\n' ∧ '\n' ∉ chars := by
        simpa [eq_comm] using line
      simp only [boldName?] at found
      split at found
      · -- The mark stands here and closes the name.
        rename_i closed
        cases found
        split at closed
        · rename_i marked
          obtain ⟨part, found, same⟩ := Option.map_eq_some_iff.mp closed
          have shape := Text.dropStart?_eq_some_iff.mp marked
          cases same
          exact ⟨[], _, by simp, shape, found⟩
        · cases closed
      · rw [if_neg differs] at found
        obtain ⟨inner, rest, some_name, split, part⟩ := ih line' found
        exact ⟨c :: inner, rest, by simp, by rw [split]; rfl, part⟩

theorem boldForm_of_boldName? {chars name type : List Char} (line : '\n' ∉ chars)
    (found : boldName? [] chars = some (name, type)) :
    BoldForm ('*' :: '*' :: chars) := by
  obtain ⟨inner, rest, some_name, rfl, part⟩ := boldName?_eq_some line found
  have rest_line : '\n' ∉ rest := fun inside => line (by simp [inside])
  exact ⟨inner, rest, by simpa using some_name, rfl, typePart?_eq_some rest_line part⟩

/-! ## Entries -/

structure WrittenType where
  text : String
  description : Lines
  closing : Lines
  text_some : text ≠ ""
  text_line : '\n' ∉ text.toList
  text_tidy : Text.trim text = text
  text_plain : ¬ BoldForm text.toList
  text_no_header : Section.ofLine? text = none
  description_indented : ∀ line ∈ description, isDescription line = true
  closing_some : closing ≠ []
  closing_vacant : ∀ line ∈ closing, Text.isVacant line = true

namespace WrittenType

def headLine (type : WrittenType) : String :=
  "    " ++ type.text

def lines (type : WrittenType) : Lines :=
  type.headLine :: (type.description ++ type.closing)

def isLong (type : WrittenType) : Bool :=
  1 < type.text.length

def entry (type : WrittenType) (index : Nat) : Entry :=
  ⟨"", type.text, type.description.map Text.trim, index + 1 + type.description.length⟩

def entries (index : Nat) : List WrittenType → List Entry
  | [] => []
  | type :: types => type.entry index :: entries (index + type.lines.length) types

theorem length_entries (types : List WrittenType) (index : Nat) :
    (entries index types).length = types.length := by
  induction types generalizing index with
  | nil => rfl
  | cons type types ih => simp [entries, ih]

variable (type : WrittenType)

theorem headLine_chars :
    type.headLine.toList = [' ', ' ', ' ', ' '] ++ type.text.toList := by
  simp [headLine]

theorem exists_text :
    ∃ c more, type.text.toList = c :: more ∧ Text.isBlank c = false := by
  cases chars : type.text.toList with
  | nil => exact absurd (by simpa using chars) type.text_some
  | cons c more =>
      refine ⟨c, more, rfl, ?_⟩
      have tidy := congrArg String.toList type.text_tidy
      rw [Text.trim, String.toList_ofList, chars] at tidy
      cases blank : Text.isBlank c with
      | false => rfl
      | true =>
          -- A blank at the start would be dropped, and the text would be
          -- shorter than it is.
          have all : [c].all Text.isBlank = true := by simp [blank]
          have dropped := Text.dropEndsWhile_gap all more
          rw [List.singleton_append, tidy] at dropped
          have shorter := Text.length_dropEndsWhile_le Text.isBlank more
          rw [← dropped, List.length_cons] at shorter
          omega

theorem headLine_content : Text.isVacant type.headLine = false := by
  obtain ⟨c, more, chars, solid⟩ := type.exists_text
  simp [Text.isVacant, type.headLine_chars, chars, solid]

theorem headLine_no_header : Section.ofLine? type.headLine = none := by
  have trimmed : Text.trim type.headLine = Text.trim type.text := by
    rw [Text.trim, type.headLine_chars, Text.dropEndsWhile_gap (by decide)]
    rfl
  have no_header := type.text_no_header
  rw [Section.ofLine?] at no_header ⊢
  rwa [trimmed]

theorem entryHead?_headLine :
    entryHead? type.headLine = if type.isLong then some ("", type.text) else none := by
  obtain ⟨c, more, chars, solid⟩ := type.exists_text
  have margin : afterMargin? type.headLine.toList = some (c :: more) := by
    rw [type.headLine_chars, chars]
    rfl
  have unbold : ∀ body, Text.dropStart? ['*', '*'] (c :: more) = some body →
      boldName? [] body = none := by
    intro body marked
    have shape : c :: more = '*' :: '*' :: body := Text.dropStart?_eq_some_iff.mp marked
    have line : '\n' ∉ body :=
      fun inside => type.text_line (by simp [chars, shape, inside])
    cases bold : boldName? [] body with
    | none => rfl
    | some found =>
        have form : BoldForm type.text.toList := by
          rw [chars, shape]
          exact boldForm_of_boldName? line bold
        exact absurd form type.text_plain
  have body : lineBody? more = some more :=
    lineBody?_of_line fun inside => type.text_line (by simp [chars, inside])
  have whole : Text.trim (String.ofList (c :: more)) = type.text := by
    rw [← chars, String.ofList_toList, type.text_tidy]
  have length : type.text.length = more.length + 1 := by
    rw [← String.length_toList, chars, List.length_cons]
  cases more with
  | nil =>
      have unmarked : Text.dropStart? ['*', '*'] [c] = none := by simp [Text.dropStart?]
      simp only [entryHead?, margin, unmarked, body, isLong, length]
      rfl
  | cons d more =>
      cases marked : Text.dropStart? ['*', '*'] (c :: d :: more) with
      | none =>
          simp only [entryHead?, margin, marked, body, isLong, length, solid,
            whole]; simp
      | some opened =>
          simp only [entryHead?, margin, marked, unbold opened marked, body, isLong,
            length, solid, whole]
          simp

theorem closing_endsDescription (rest : Lines) :
    EndsDescription (type.closing ++ rest) := by
  cases closing : type.closing with
  | nil => exact absurd closing type.closing_some
  | cons first others =>
      rintro line ⟨⟩
      exact isDescription_of_vacant (type.closing_vacant first (by simp [closing]))

theorem entriesFrom_of_long (long : type.isLong = true) (index : Nat) (rest : Lines) :
    entriesFrom index (type.lines ++ rest) =
      type.entry index :: entriesFrom (index + type.lines.length) rest := by
  have head : entryHead? type.headLine = some ("", type.text) := by
    rw [type.entryHead?_headLine, if_pos long]
  have shape : type.lines ++ rest =
      type.headLine :: (type.description ++ (type.closing ++ rest)) := by
    simp [lines]
  have next : index + 1 + type.description.length + type.closing.length =
      index + type.lines.length := by
    simp [lines]
    omega
  rw [shape, entriesFrom_entry type.headLine_no_header type.headLine_content head
    type.description_indented (type.closing_endsDescription rest),
    entriesFrom_vacant type.closing_vacant, next, entry]

theorem entriesFrom_of_short (short : type.isLong = false) (index : Nat)
    (rest : Lines) : entriesFrom index (type.lines ++ rest) = [] := by
  have head : entryHead? type.headLine = none := by
    rw [type.entryHead?_headLine, short]
    rfl
  rw [lines, List.cons_append, entriesFrom]
  simp [type.headLine_no_header, type.headLine_content, head]

end WrittenType

/-! ## Sections -/

/--
The section is over: the text ends, a header opens another section, or a line
has content and fewer blanks before it than an entry.
-/
def EndsSection (after : Lines) : Prop :=
  ∀ line, after.head? = some line →
    (Section.ofLine? line).isSome = true ∨
      (Text.isVacant line = false ∧ Text.indent line < 4)

theorem entryHead?_of_indent {line : String} (shallow : Text.indent line < 4) :
    entryHead? line = none := by
  have no_margin : afterMargin? line.toList = none := by
    apply if_neg
    intro margin
    obtain ⟨long, blanks⟩ := Bool.and_eq_true_iff.mp margin
    -- Four blanks at the start would all be counted as indentation.
    have counted : (line.toList.take 4 ++ line.toList.drop 4).takeWhile Text.isBlank =
        line.toList.take 4 ++ (line.toList.drop 4).takeWhile Text.isBlank :=
      List.takeWhile_append_of_pos (List.all_eq_true.mp blanks)
    rw [List.take_append_drop] at counted
    have four : (line.toList.take 4).length = 4 :=
      List.length_take_of_le (of_decide_eq_true long)
    rw [Text.indent, counted, List.length_append, four] at shallow
    omega
  simp [entryHead?, no_margin]

theorem EndsSection.entriesFrom {after : Lines} (ends : EndsSection after)
    (index : Nat) : entriesFrom index after = [] := by
  cases after with
  | nil => rw [Docstring.entriesFrom]
  | cons line rest =>
      rw [Docstring.entriesFrom]
      rcases ends line rfl with header | ⟨content, shallow⟩
      · rw [if_pos header]
      · simp [content, entryHead?_of_indent shallow]

theorem entriesFrom_types {after : Lines} (ends : EndsSection after)
    (types : List WrittenType) (index : Nat) :
    entriesFrom index (types.flatMap WrittenType.lines ++ after) =
      WrittenType.entries index (types.takeWhile WrittenType.isLong) := by
  induction types generalizing index with
  | nil => exact ends.entriesFrom index
  | cons type types ih =>
      rw [List.flatMap_cons, List.append_assoc]
      cases long : type.isLong with
      | true =>
          rw [type.entriesFrom_of_long long, ih]
          simp [long, WrittenType.entries]
      | false =>
          rw [type.entriesFrom_of_short long]
          simp [long, WrittenType.entries]

theorem entries_takeWhile_iff (types : List WrittenType) (index : Nat) :
    WrittenType.entries index (types.takeWhile WrittenType.isLong) =
        WrittenType.entries index types ↔ ∀ type ∈ types, 1 < type.text.length := by
  have long_iff : (∀ type ∈ types, type.isLong = true) ↔
      ∀ type ∈ types, 1 < type.text.length := by
    simp [WrittenType.isLong]
  rw [← long_iff]
  constructor
  · intro same
    have lengths := congrArg List.length same
    rw [WrittenType.length_entries, WrittenType.length_entries] at lengths
    exact List.takeWhile_eq_self_iff.mp
      ((List.takeWhile_prefix WrittenType.isLong).eq_of_length lengths)
  · intro long
    rw [List.takeWhile_eq_self_iff.mpr long]

/--
A section of types gives the entries of its types up to the first one that is
written with a single character, each without a name and with its description;
so all are read exactly if there is none.
-/
theorem entriesAt_types {gap after : Lines} (before : Lines) (types : List WrittenType)
    (vacant : ∀ line ∈ gap, Text.isVacant line = true) (ends : EndsSection after) :
    let lines := before ++ gap ++ types.flatMap WrittenType.lines ++ after
    let start := before.length + gap.length
    entriesAt lines before.length =
        WrittenType.entries start (types.takeWhile fun type => 1 < type.text.length) ∧
      (entriesAt lines before.length = WrittenType.entries start types ↔
        ∀ type ∈ types, 1 < type.text.length) := by
  intro lines start
  have shape : lines.drop before.length =
      gap ++ (types.flatMap WrittenType.lines ++ after) := by
    simp [lines]
  have read : entriesAt lines before.length =
      WrittenType.entries start (types.takeWhile WrittenType.isLong) := by
    rw [entriesAt, shape, entriesFrom_vacant vacant, entriesFrom_types ends]
  exact ⟨read, read ▸ entries_takeWhile_iff types start⟩

theorem empty_line_some : [""] ≠ ([] : Lines) := by
  decide

theorem empty_line_vacant : ∀ line ∈ [""], Text.isVacant line = true := by
  decide

def valueError : WrittenType where
  text := "ValueError"
  description := ["        If x is", "          negative."]
  closing := [""]
  text_some := by decide
  text_line := by decide
  text_tidy := by decide
  text_plain := by
    rintro ⟨name, rest, -, chars, -⟩
    simp at chars
  text_no_header := by decide
  description_indented := by decide
  closing_some := empty_line_some
  closing_vacant := empty_line_vacant

def unclosedBold : WrittenType where
  text := "**kwargs"
  description := []
  closing := ["", " "]
  text_some := by decide
  text_line := by decide
  text_tidy := by decide
  text_plain := by
    rintro ⟨name, rest, -, chars, -⟩
    have inside : '*' ∈ "kwargs".toList := by
      rw [show "kwargs".toList = name ++ '*' :: '*' :: rest by simpa using chars]
      simp
    exact absurd inside (by decide)
  text_no_header := by decide
  description_indented := by decide
  closing_some := by decide
  closing_vacant := by decide

def typeVariable : WrittenType where
  text := "T"
  description := ["        Of any kind."]
  closing := [""]
  text_some := by decide
  text_line := by decide
  text_tidy := by decide
  text_plain := by
    rintro ⟨name, rest, -, chars, -⟩
    simp at chars
  text_no_header := by decide
  description_indented := by decide
  closing_some := empty_line_some
  closing_vacant := empty_line_vacant

theorem entriesAt_types_mixed :
    entriesAt ["Sum.", ":Raises:", "", "    ValueError", "        If x is",
        "          negative.", "", "    **kwargs", "", " ", "    T",
        "        Of any kind.", "", "    ValueError", "        If x is",
        "          negative.", "", "  Tail."] 2 =
      [⟨"", "ValueError", ["If x is", "negative."], 6⟩, ⟨"", "**kwargs", [], 8⟩] := by
  have ends : EndsSection ["  Tail."] := by
    rintro line ⟨⟩
    exact .inr (by decide)
  have read := entriesAt_types ["Sum.", ":Raises:"]
    [valueError, unclosedBold, typeVariable, valueError] empty_line_vacant ends
  exact read.1.trans (by decide)

/-- A type of a single character is not read, nor is the one below it. -/
theorem single_character_ends_section :
    entriesAt [":Raises:", "", "    T", "        Of any kind.", "", "    ValueError",
        "        If x is", "          negative.", ""] 2 = [] ∧
      WrittenType.entries 2 [typeVariable, valueError] =
        [⟨"", "T", ["Of any kind."], 4⟩,
          ⟨"", "ValueError", ["If x is", "negative."], 8⟩] := by
  have ends : EndsSection [] := by
    intro line first
    cases first
  exact ⟨entriesFrom_types ends [typeVariable, valueError] 2, by decide⟩

end DocHints.Docstring
