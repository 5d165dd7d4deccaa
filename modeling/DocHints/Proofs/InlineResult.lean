import DocHints.Proofs.ResultPlacement

/-!
# A result told in its description

A type that gets no field of its own is written into the first line that
describes the result, between the mark of the line and its text.  The text is
taken from the first space of the line on, so it stays whole if a space opens
it.  Of a text that begins right behind the mark the first word is lost, and of
a line without a space only the last character is left.  That character is the
colon of the mark where the description begins on the next line.
-/

namespace DocHints.Docstring

/-! ## The line that describes the result -/

def resultMarks : List String :=
  [":return:", ":returns:"]

/--
The first line that describes the result, in a docstring without a field for its
type.
-/
structure FirstDescription (lines before : Lines) (mark text : String)
    (after : Lines) : Prop where
  lines_eq : lines = before ++ (mark ++ text) :: after
  is_mark : mark ∈ resultMarks
  unseen : ∀ line ∈ before, isReturnLine line = false
  no_field : ∀ line ∈ lines, Text.startsWith ":rtype:" line = false

section FirstDescription

variable {lines before after : Lines} {mark text line : String}

theorem isReturnLine_iff :
    isReturnLine line = true ↔ ∃ mark ∈ resultMarks, ∃ text, line = mark ++ text := by
  have opening : ∀ mark, Text.startsWith mark line = true ↔
      ∃ text, line = mark ++ text := by
    intro mark
    rw [Text.startsWith_iff]
    constructor
    · rintro ⟨rest, split⟩
      exact ⟨String.ofList rest, String.toList_inj.mp (by simp [split])⟩
    · rintro ⟨text, rfl⟩
      exact ⟨text.toList, by simp⟩
  simp [isReturnLine, resultMarks, opening]

theorem FirstDescription.returnPlace
    (first : FirstDescription lines before mark text after)
    (blocksOf : Lines → Except Failure (List Rest.Block)) :
    returnPlace blocksOf lines = .ok (lines, vacatedPlace before) := by
  have none_found : lines.findIdx? (Text.startsWith ":rtype:") = none :=
    List.findIdx?_eq_none_iff.mpr first.no_field
  have describes : isReturnLine (mark ++ text) = true :=
    isReturnLine_iff.mpr ⟨mark, first.is_mark, text, rfl⟩
  have found : lines.findIdx? isReturnLine = some before.length :=
    findIdx?_eq_some_append.mpr ⟨before, _, after, first.lines_eq, rfl, describes,
      first.unseen⟩
  simp only [Docstring.returnPlace, none_found, found, vacatedPlace]

end FirstDescription

/-! ## The text that is kept -/

section Kept

variable {line : String}

theorem fromFirstSpace_of_space {front kept : List Char}
    (split : line.toList = front ++ ' ' :: kept) (solid : ' ' ∉ front) :
    (fromFirstSpace line).toList = ' ' :: kept := by
  have passed : ∀ c ∈ front, (c != ' ') = true := by
    intro c inside
    simpa using ne_of_mem_of_not_mem inside solid
  have tail : line.toList.dropWhile (· != ' ') = ' ' :: kept := by
    rw [split, List.dropWhile_append_of_pos passed]
    rfl
  simp [fromFirstSpace, tail]

theorem fromFirstSpace_of_solid (solid : ' ' ∉ line.toList) :
    (fromFirstSpace line).toList = line.toList.getLast?.toList := by
  have tail : line.toList.dropWhile (· != ' ') = [] := by
    rw [← List.append_nil line.toList, List.dropWhile_append_of_pos]
    · rfl
    · intro c inside
      simpa using ne_of_mem_of_not_mem inside solid
  simp only [fromFirstSpace, tail]
  obtain none_there | ⟨front, last, split⟩ := List.eq_nil_or_concat line.toList
  · simp [none_there]
  · simp [split]

variable {mark text : String}

theorem solid_of_mem_resultMarks (is_mark : mark ∈ resultMarks) :
    ' ' ∉ mark.toList := by
  have solid : ∀ mark ∈ resultMarks, ' ' ∉ mark.toList := by decide
  exact solid mark is_mark

theorem fromFirstSpace_eq_iff (is_mark : mark ∈ resultMarks) :
    fromFirstSpace (mark ++ text) = text ↔
      Text.startsWith " " text = true ∨ text.toList.length = 1 := by
  have solid_mark := solid_of_mem_resultMarks is_mark
  rw [← String.toList_inj, Text.startsWith_iff]
  by_cases spaced : ' ' ∈ text.toList
  · obtain ⟨lost, kept, split, solid⟩ := List.eq_append_cons_of_mem spaced
    have whole : (mark ++ text).toList = (mark.toList ++ lost) ++ ' ' :: kept := by
      simp [split]
    rw [fromFirstSpace_of_space whole (by simp [solid_mark, solid]), split]
    cases lost with
    | nil => simp
    | cons c lost =>
        have other : c ≠ ' ' := by
          rintro rfl
          simp at solid
        simp [other, Ne.symm other]
  · have closed : ¬ ∃ rest, text.toList = " ".toList ++ rest := by
      rintro ⟨rest, split⟩
      simp [split] at spaced
    rw [fromFirstSpace_of_solid (by simp [solid_mark, spaced]), or_iff_right closed]
    obtain none_there | ⟨front, last, split⟩ := List.eq_nil_or_concat text.toList
    · have some_mark : mark.toList ≠ [] := by
        have nonempty : ∀ mark ∈ resultMarks, mark.toList ≠ [] := by decide
        exact nonempty mark is_mark
      simp [none_there, some_mark]
    · simp [split, List.concat_eq_append]

/--
A result told inline is written into the first line that describes it, and no
other line changes; an empty line may part it from content above.  The text of
the line is kept from its first space on, and of a text without one the last
character of the line is left.  So the text stays whole only if a space opens it
or it is a single character, and a line of the mark alone leaves its colon as
the text.
-/
theorem description_kept_iff (blocksOf : Lines → Except Failure (List Rest.Block))
    {lines before after : Lines} (first : FirstDescription lines before mark text after)
    (undashed : Text.contains " -- " (mark ++ text) = false) (type : String) :
    ∃ place told, returnPlace blocksOf lines = .ok (lines, place) ∧
      injectReturn lines type place false =
        .ok (before ++ partingLine before ++
          (":return: " ++ type ++ " --" ++ told) :: after) ∧
      (told = text ↔ Text.startsWith " " text = true ∨ text.toList.length = 1) ∧
      (∀ lost kept, text = lost ++ " " ++ kept → ' ' ∉ lost.toList →
        told = " " ++ kept) ∧
      (' ' ∉ text.toList → told.toList = (mark ++ text).toList.getLast?.toList) := by
  have solid_mark := solid_of_mem_resultMarks first.is_mark
  refine ⟨vacatedPlace before, fromFirstSpace (mark ++ text),
    first.returnPlace blocksOf, ?_, fromFirstSpace_eq_iff first.is_mark, ?_, ?_⟩
  · rw [first.lines_eq, injectReturn_inline, inlineBelow, undashed]
    rfl
  · rintro lost kept rfl solid
    have whole : (mark ++ (lost ++ " " ++ kept)).toList =
        (mark.toList ++ lost.toList) ++ ' ' :: kept.toList := by simp
    apply String.toList_inj.mp
    rw [fromFirstSpace_of_space whole (by simp [solid_mark, solid])]
    simp
  · intro solid
    exact fromFirstSpace_of_solid (by simp [solid_mark, solid])

theorem description_kept_iff_bare :
    FirstDescription ["Text.", ":returns:", "    It."] ["Text."] ":returns:" ""
      ["    It."] ∧
      Text.contains " -- " (":returns:" ++ "") = false ∧
      ∃ place told, returnPlace (fun _ => .ok []) ["Text.", ":returns:", "    It."] =
          .ok (["Text.", ":returns:", "    It."], place) ∧
        injectReturn ["Text.", ":returns:", "    It."] "T" place false =
          .ok ["Text.", "", ":return: " ++ "T" ++ " --" ++ told, "    It."] ∧
        told ≠ "" := by
  have first : FirstDescription ["Text.", ":returns:", "    It."] ["Text."]
      ":returns:" "" ["    It."] := by
    refine ⟨rfl, by decide, by decide, by decide⟩
  have undashed : Text.contains " -- " (":returns:" ++ "") = false := by decide
  obtain ⟨place, told, placed, done, whole_iff, -, -⟩ :=
    description_kept_iff (fun _ => .ok []) first undashed "T"
  refine ⟨first, undashed, place, told, placed, done, ?_⟩
  exact fun whole => absurd (whole_iff.mp whole) (by decide)

end Kept

end DocHints.Docstring

namespace DocHints.Document

open Docstring

/--
A description that begins below its mark gets the colon of the mark in front of
it.
-/
theorem colon_told_for_bare_mark :
    givesNoneWith false [":returns:", "    the result"] =
        .ok ⟨.fields, [":return: " ++ Markup.typeRole ":py:obj:`None`" ++ " --:",
          "    the result"]⟩ ∧
      givesNoneWith false [":Returns:", "", "    **a** : int", "        First.", "",
          "    **b** : int", "        Second."] =
        .ok ⟨.sections true, [":return: " ++ Markup.typeRole ":py:obj:`None`" ++ " --:",
          "   * **a** (int) -- First.", "   * **b** (int) -- Second."]⟩ := by
  simp only [givesNoneWith_eq]
  exact ⟨eq_ok_of_toOption (by decide +kernel), eq_ok_of_toOption (by decide +kernel)⟩

end DocHints.Document
