import DocHints.Document.Docstring
import DocHints.Proofs.ParamEdits
import DocHints.Proofs.Sections
import Mathlib.Data.List.TakeWhile

/-!
# Sections of yielded values

A docstring is divided into the lines outside its sections and the sections with
what they take in.  Whether it tells what a generator yields is asked before and
after the sections are converted.  The conversion never adds such a line.  It
drops a section of a single value without a description and takes lines into the
fields of other sections, and the answer stays the same exactly if a line that
tells it is left, or none was there.
-/

namespace DocHints

theorem Text.dropEndWhile_append {p : Char → Bool} {last : Char}
    (stops : p last = false) (front rest : List Char) :
    ∃ more, dropEndWhile p (front ++ last :: rest) = front ++ last :: more := by
  refine ⟨(rest.reverse.dropWhile p).reverse, ?_⟩
  rw [dropEndWhile, List.reverse_append, List.reverse_cons, List.append_assoc,
    List.singleton_append, (span_stops stops _ _).2]
  simp

theorem Text.exists_dropEndWhile (p : Char → Bool) (chars : List Char) :
    ∃ more, chars = dropEndWhile p chars ++ more := by
  refine ⟨(chars.reverse.takeWhile p).reverse, ?_⟩
  rw [dropEndWhile, ← List.reverse_append, List.takeWhile_append_dropWhile,
    List.reverse_reverse]

theorem Text.isVacant_of_trim {s : String} (nothing : trim s = "") :
    isVacant s = true := by
  have back : ∀ c ∈ s.toList.dropWhile isBlank, isBlank c = true := by
    have reversed : (s.toList.dropWhile isBlank).reverse.dropWhile isBlank = [] := by
      simpa [trim, dropEndsWhile, dropEndWhile, dropStartWhile] using nothing
    intro c inside
    exact List.dropWhile_eq_nil_iff.mp reversed c (List.mem_reverse.mpr inside)
  apply List.all_eq_true.mpr
  intro c inside
  rw [← List.takeWhile_append_dropWhile (p := isBlank) (l := s.toList)] at inside
  rcases List.mem_append.mp inside with front | rest
  · exact List.all_eq_true.mp List.all_takeWhile c front
  · exact back c rest

end DocHints

namespace DocHints.Docstring

/-! ## Parts of a docstring -/

/--
A line outside the sections, or a section with the lines below its header that
it takes in.
-/
inductive Part where
  | line (text : String)
  | listed (section_ : Section) (header : String) (taken : Lines) (entries : List Entry)

namespace Part

def lines : Part → Lines
  | line text => [text]
  | listed _ header taken _ => header :: taken

def fields : Part → Lines
  | line text => [text]
  | listed section_ _ _ entries => section_.fields entries

/--
Whether a part still tells after the conversion what a generator yields: as a
line outside the sections, or as a section for it that has no entry, several, or
one with a description.
-/
def showsYields : Part → Bool
  | line text => isYieldsLine text
  | listed .yields _ _ [entry] => !entry.description.isEmpty
  | listed .yields _ _ _ => true
  | listed _ _ _ _ => false

end Part

theorem skipVacant_suffix (lines : Lines) : skipVacant lines <:+ lines := by
  cases lines with
  | nil => exact List.suffix_refl _
  | cons line rest =>
      simp only [skipVacant]
      split
      · exact List.suffix_cons line rest
      · exact List.suffix_refl _

def parts (lines : Lines) : List Part :=
  match lines with
  | [] => []
  | line :: rest =>
    match Section.ofLine? line with
    | none => .line line :: parts rest
    | some section_ =>
      let entries := entriesFrom 0 (skipVacant rest)
      let left := (skipVacant rest).drop (((entries.getLast?).map Entry.stop).getD 0)
      .listed section_ line (rest.take (rest.length - left.length)) entries ::
        parts left
termination_by lines.length
decreasing_by
  · simp
  · have shorter := (skipVacant_suffix rest).length_le
    simp only [List.length_drop, List.length_cons]
    omega

theorem flatMap_lines_parts (lines : Lines) :
    (parts lines).flatMap Part.lines = lines := by
  fun_induction parts lines with
  | case1 => rfl
  | case2 line rest no_header ih => simp [Part.lines, ih]
  | case3 line rest section_ header entries left ih =>
      have suffix : left <:+ rest :=
        (List.drop_suffix _ _).trans (skipVacant_suffix rest)
      have split : rest.take (rest.length - left.length) ++ left = rest := by
        have tail := List.suffix_iff_eq_drop.mp suffix
        exact (congrArg (rest.take (rest.length - left.length) ++ ·) tail).trans
          (List.take_append_drop _ _)
      rw [List.flatMap_cons, ih, Part.lines, List.cons_append, split]

theorem flatMap_fields_parts (lines : Lines) :
    (parts lines).flatMap Part.fields = convertSections lines := by
  fun_induction parts lines with
  | case1 => rw [convertSections]; rfl
  | case2 line rest no_header ih => simp [convertSections, no_header, Part.fields, ih]
  | case3 line rest section_ header entries left ih =>
      rw [List.flatMap_cons, ih, convertSections]
      simp only [header]
      rfl

/-! ## Lines that tell what is yielded -/

theorem isYieldsLine_of_mark {mark line : String} {rest : List Char}
    (listed : mark ∈ [":Yields:", ":yields:", ":yield:"])
    (chars : (Text.trimStart line).toList = mark.toList ++ rest) :
    isYieldsLine line = true :=
  List.any_eq_true.mpr ⟨mark, listed, Text.startsWith_iff.mpr ⟨rest, chars⟩⟩

def otherMarks : List String :=
  [":param", ":type", ":returns:", ":raises", "   *"]

theorem isYieldsLine_of_otherMark {mark line : String} (listed : mark ∈ otherMarks)
    (starts : Text.startsWith mark line = true) : isYieldsLine line = false := by
  obtain ⟨rest, chars⟩ := Text.startsWith_iff.mp starts
  have colon : Text.isBlank ':' = false := by decide
  have space : Text.isBlank ' ' = true := by decide
  have star : Text.isBlank '*' = false := by decide
  simp only [otherMarks, List.mem_cons, List.not_mem_nil, or_false] at listed
  rcases listed with rfl | rfl | rfl | rfl | rfl <;>
    simp [isYieldsLine, Text.startsWith, Text.trimStart, Text.dropStartWhile, chars,
      colon, space, star, Text.dropStart?]

theorem isYieldsLine_of_header {line : String}
    (header : Section.ofLine? line = some .yields) : isYieldsLine line = true := by
  have trimmed : Text.trim line = ":Yields:" := by
    unfold Section.ofLine? at header
    split at header <;> first | assumption | cases header
  obtain ⟨more, split⟩ :=
    Text.exists_dropEndWhile Text.isBlank (Text.dropStartWhile Text.isBlank line.toList)
  have whole : Text.dropEndWhile Text.isBlank
      (Text.dropStartWhile Text.isBlank line.toList) = ":Yields:".toList := by
    rw [← trimmed, Text.trim, String.toList_ofList, Text.dropEndsWhile]
  have listed : ":Yields:" ∈ [":Yields:", ":yields:", ":yield:"] := by decide
  have chars : (Text.trimStart line).toList = ":Yields:".toList ++ more := by
    rw [Text.trimStart, String.toList_ofList, ← whole]
    exact split
  exact isYieldsLine_of_mark listed chars

/-! ## Fields of entries -/

theorem startsWith_trimEnd {mark line : String} {front : List Char} {last : Char}
    (mark_chars : mark.toList = front ++ [last]) (solid : Text.isBlank last = false)
    (starts : Text.startsWith mark line = true) :
    Text.startsWith mark (Text.trimEnd line) = true := by
  obtain ⟨rest, chars⟩ := Text.startsWith_iff.mp starts
  rw [mark_chars, List.append_assoc, List.singleton_append] at chars
  obtain ⟨more, trimmed⟩ := Text.dropEndWhile_append solid front rest
  refine Text.startsWith_iff.mpr ⟨more, ?_⟩
  rw [Text.trimEnd, String.toList_ofList, chars, trimmed, mark_chars, List.append_assoc,
    List.singleton_append]

namespace Entry

variable (entry : Entry)

theorem isYieldsLine_paramFields :
    ∀ line ∈ entry.paramFields, isYieldsLine line = false := by
  have mark_chars : ":param".toList = [':', 'p', 'a', 'r', 'a'] ++ ['m'] := rfl
  have described : Text.startsWith ":param" ":param " = true := by decide
  have typed : Text.startsWith ":type" ":type " = true := by decide
  intro line inside
  rcases List.mem_cons.mp inside with rfl | inside
  · refine isYieldsLine_of_otherMark (by decide)
      (startsWith_trimEnd mark_chars (by decide) ?_)
    exact startsWith_trans _ (startsWith_trans _ (startsWith_trans _ described))
  · split at inside
    · cases inside
    · obtain rfl := List.mem_singleton.mp inside
      have starts := startsWith_trans entry.type (startsWith_trans ": "
        (startsWith_trans entry.name typed))
      exact isYieldsLine_of_otherMark (by decide) starts

theorem isYieldsLine_raisesField : isYieldsLine entry.raisesField = false := by
  have mark_chars : ":raises".toList = [':', 'r', 'a', 'i', 's', 'e'] ++ ['s'] := rfl
  have raised : Text.startsWith ":raises" ":raises " = true := by decide
  refine isYieldsLine_of_otherMark (by decide)
    (startsWith_trimEnd mark_chars (by decide) ?_)
  exact startsWith_trans _ (startsWith_trans _ (startsWith_trans _ raised))

theorem isYieldsLine_listItem : isYieldsLine entry.listItem = false := by
  have mark_chars : "   *".toList = [' ', ' ', ' '] ++ ['*'] := rfl
  have itemised : Text.startsWith "   *" "   * " = true := by decide
  refine isYieldsLine_of_otherMark (by decide)
    (startsWith_trimEnd mark_chars (by decide) ?_)
  exact startsWith_trans _
    (startsWith_trans _ (startsWith_trans _ (startsWith_trans _ itemised)))

end Entry

theorem hasYields_eq_false {lines : Lines}
    (untold : ∀ line ∈ lines, isYieldsLine line = false) :
    hasYields lines = false :=
  List.any_eq_false.mpr fun line inside => Bool.eq_false_iff.mp (untold line inside)

theorem hasYields_returns (entries : List Entry) :
    hasYields (resultFields ":returns:" entries) = false := by
  have returned : Text.startsWith ":returns:" ":returns:" = true := by decide
  apply hasYields_eq_false
  intro line inside
  unfold resultFields at inside
  split at inside
  · split at inside
    · cases inside
    · obtain rfl := List.mem_singleton.mp inside
      exact isYieldsLine_of_otherMark (by decide)
        (startsWith_trans _ (startsWith_trans " " returned))
  · rcases List.mem_cons.mp inside with rfl | inside
    · exact isYieldsLine_of_otherMark (by decide) returned
    · obtain ⟨entry, -, rfl⟩ := List.mem_map.mp inside
      exact entry.isYieldsLine_listItem

theorem text_isEmpty {entry : Entry} (told : ∀ line ∈ entry.description, line ≠ "") :
    entry.text.isEmpty = entry.description.isEmpty := by
  cases lines : entry.description with
  | nil => simp [Entry.text, lines, Text.join]
  | cons first others =>
      have some_line : first ≠ "" := told first (by simp [lines])
      cases others with
      | nil =>
          simp [Entry.text, lines, Text.join, String.intercalate_singleton, some_line]
      | cons next others =>
          simp [Entry.text, lines, Text.join, String.intercalate_cons_cons, some_line]

theorem hasYields_yields {entries : List Entry}
    (told : ∀ entry ∈ entries, ∀ line ∈ entry.description, line ≠ "") (header : String)
    (taken : Lines) :
    hasYields (resultFields ":Yields:" entries) =
      (Part.listed .yields header taken entries).showsYields := by
  have field : ∀ rest, isYieldsLine (":Yields:" ++ rest) = true := by
    intro rest
    simp [isYieldsLine, Text.startsWith, Text.trimStart, Text.dropStartWhile,
      (by decide : Text.isBlank ':' = false), Text.dropStart?]
  cases entries with
  | nil => exact List.any_eq_true.mpr ⟨":Yields:", by simp [resultFields], field ""⟩
  | cons entry rest =>
      cases rest with
      | nil =>
          have empty := text_isEmpty (told entry (by simp))
          simp only [resultFields, empty, Part.showsYields]
          cases entry.description.isEmpty with
          | true => rfl
          | false =>
              have shown := field (" " ++ entry.text)
              rw [← String.append_assoc] at shown
              exact List.any_eq_true.mpr ⟨_, List.mem_singleton_self _, shown⟩
      | cons second others =>
          exact List.any_eq_true.mpr ⟨":Yields:", by simp [resultFields], field ""⟩

theorem hasYields_fields (section_ : Section) {entries : List Entry}
    (told : ∀ entry ∈ entries, ∀ line ∈ entry.description, line ≠ "") (header : String)
    (taken : Lines) :
    hasYields (section_.fields entries) =
      (Part.listed section_ header taken entries).showsYields := by
  have params : hasYields (entries.flatMap Entry.paramFields) = false := by
    apply hasYields_eq_false
    intro line inside
    obtain ⟨entry, -, inside⟩ := List.mem_flatMap.mp inside
    exact entry.isYieldsLine_paramFields line inside
  cases section_ with
  | parameters => exact params
  | otherParameters => exact params
  | returns => exact hasYields_returns entries
  | raises =>
      apply hasYields_eq_false
      intro line inside
      obtain ⟨entry, -, rfl⟩ := List.mem_map.mp inside
      exact entry.isYieldsLine_raisesField
  | yields => exact hasYields_yields told header taken

/-! ## The conversion -/

theorem description_told (index : Nat) (lines : Lines) :
    ∀ entry ∈ entriesFrom index lines, ∀ line ∈ entry.description, line ≠ "" := by
  fun_induction entriesFrom index lines with
  | case1 => simp
  | case2 => simp
  | case3 index line rest no_header vacant ih => exact ih
  | case4 => simp
  | case5 index line rest no_header content name type head description stop others ih =>
      intro entry inside
      rcases List.mem_cons.mp inside with rfl | inside
      · rintro told inside rfl
        obtain ⟨raw, taken, trimmed⟩ := List.mem_map.mp inside
        have described : isDescription raw = true :=
          List.all_eq_true.mp List.all_takeWhile raw taken
        rw [isDescription, Text.isVacant_of_trim trimmed] at described
        simp at described
      · exact ih entry inside

theorem hasYields_convertSections (lines : Lines) :
    hasYields (convertSections lines) = (parts lines).any Part.showsYields := by
  rw [← flatMap_fields_parts]
  fun_induction parts lines with
  | case1 => rfl
  | case2 line rest no_header ih =>
      rw [List.flatMap_cons, hasYields, List.any_append]
      simp only [hasYields] at ih
      simp [Part.fields, ih, Part.showsYields]
  | case3 line rest section_ header entries left ih =>
      have fields :=
        hasYields_fields section_ (description_told 0 (skipVacant rest)) line
          (rest.take (rest.length - left.length))
      simp only [hasYields] at ih fields
      rw [List.flatMap_cons, hasYields, List.any_append, ih, List.any_cons]
      exact congrArg (· || _) fields

theorem hasYields_of_showsYields {lines : Lines} :
    ∀ part ∈ parts lines, part.showsYields = true → hasYields part.lines = true := by
  fun_induction parts lines with
  | case1 => simp
  | case2 line rest no_header ih =>
      intro part inside shown
      rcases List.mem_cons.mp inside with rfl | inside
      · exact List.any_eq_true.mpr ⟨line, List.mem_singleton_self line, shown⟩
      · exact ih part inside shown
  | case3 line rest section_ header entries left ih =>
      intro part inside shown
      rcases List.mem_cons.mp inside with rfl | inside
      · cases section_ with
        | yields => simp [hasYields, Part.lines, isYieldsLine_of_header header]
        | _ => cases shown
      · exact ih part inside shown

theorem hasYields_of_convertSections {lines : Lines}
    (told : hasYields (convertSections lines) = true) : hasYields lines = true := by
  rw [hasYields_convertSections] at told
  obtain ⟨part, inside, shown⟩ := List.any_eq_true.mp told
  obtain ⟨line, listed, yields⟩ :=
    List.any_eq_true.mp (hasYields_of_showsYields part inside shown)
  rw [← flatMap_lines_parts lines]
  exact List.any_eq_true.mpr ⟨line, List.mem_flatMap.mpr ⟨part, inside, listed⟩, yields⟩

/--
A docstring is divided into its parts, and the conversion converts them one by
one.  It tells what a generator yields after the conversion only if it told so
before, and the answers are the same exactly if none of its lines tells it or
one of its parts still does; then the result of a value is part of its
documentation either way or not at all.
-/
theorem yields_kept_iff (lines : Lines) :
    (parts lines).flatMap Part.lines = lines ∧
      (parts lines).flatMap Part.fields = convertSections lines ∧
      (hasYields (convertSections lines) = true → hasYields lines = true) ∧
      (hasYields (convertSections lines) = hasYields lines ↔
        hasYields lines = false ∨ ∃ part ∈ parts lines, part.showsYields = true) ∧
      (hasYields lines = false ∨ (∃ part ∈ parts lines, part.showsYields = true) →
        ∀ w settings subject hint,
          Document.documentsResult w settings subject hint (convertSections lines) =
            Document.documentsResult w settings subject hint lines) := by
  have same_iff : hasYields (convertSections lines) = hasYields lines ↔
      hasYields lines = false ∨ ∃ part ∈ parts lines, part.showsYields = true := by
    rw [← List.any_eq_true, ← hasYields_convertSections]
    cases after : hasYields (convertSections lines) with
    | true => simp [hasYields_of_convertSections after]
    | false => cases hasYields lines <;> simp
  refine ⟨flatMap_lines_parts lines, flatMap_fields_parts lines,
    hasYields_of_convertSections, same_iff, ?_⟩
  intro kept w settings subject hint
  simp only [Document.documentsResult, same_iff.mpr kept]

def mixedYields : Lines :=
  ["Sum.", ":Yields:", "", "    int", "", ":Raises:", "    OSError",
    "        :yield: nothing", "", "  :Yields:  ", "    **a**", "    **b** : str"]

theorem yields_kept_iff_mixed :
    convertSections mixedYields =
        ["Sum.", "", ":raises OSError: :yield: nothing", "", ":Yields:",
          "   * **a** --", "   * **b** (str) --"] ∧
      ∀ w settings subject hint,
        Document.documentsResult w settings subject hint (convertSections mixedYields) =
          Document.documentsResult w settings subject hint mixedYields := by
  have kept : (parts mixedYields).any Part.showsYields = true := by decide +kernel
  exact ⟨by decide +kernel,
    (yields_kept_iff mixedYields).2.2.2.2 (.inr (List.any_eq_true.mp kept))⟩

/-- A section of a single value without a description is gone after the conversion. -/
theorem undescribed_yields_dropped :
    hasYields [":Yields:", "", "    int"] = true ∧
      hasYields (convertSections [":Yields:", "", "    int"]) = false := by
  decide +kernel

end DocHints.Docstring
