import DocHints.Proofs.ParamSections

/-!
# Descriptions of several paragraphs

The description of a parameter may go on after a vacant line.  Such a paragraph
ends the reading of the section: it opens no entry, so the parameters below it
are not reached, and it stays in the text with all that follows.  So a section
is read to its end exactly if only its last parameter has further paragraphs.
-/

namespace DocHints.Docstring

structure Paragraph where
  gap : Lines
  text : Lines
  gap_some : gap ≠ []
  gap_vacant : ∀ line ∈ gap, Text.isVacant line = true
  text_some : text ≠ []
  text_indented : ∀ line ∈ text, isDescription line = true

def Paragraph.lines (paragraph : Paragraph) : Lines :=
  paragraph.gap ++ paragraph.text

structure DescribedParam extends ParamHead where
  opening : Lines
  further : List Paragraph
  closing : Lines
  opening_indented : ∀ line ∈ opening, isDescription line = true
  closing_vacant : ∀ line ∈ closing, Text.isVacant line = true

namespace DescribedParam

def tail (param : DescribedParam) : Lines :=
  param.further.flatMap Paragraph.lines ++ param.closing

def lines (param : DescribedParam) : Lines :=
  param.headLine :: param.opening ++ param.tail

def fields (param : DescribedParam) : Lines :=
  param.fieldsWith (param.opening.map Text.trim)

/-- The parameters up to the first one with further paragraphs. -/
def reached : List DescribedParam → List DescribedParam
  | [] => []
  | param :: params => param :: (if param.further.isEmpty then reached params else [])

/-- The lines below the opening paragraph of the last parameter that is reached. -/
def unread : List DescribedParam → Lines
  | [] => []
  | param :: params =>
    if param.further.isEmpty && !params.isEmpty then unread params
    else param.tail ++ params.flatMap lines

end DescribedParam

/-! ## Lines that open no entry -/

theorem isDescription_of_vacant {line : String} (vacant : Text.isVacant line = true) :
    isDescription line = false := by
  simp [isDescription, vacant]

theorem ofLine?_of_vacant {line : String} (vacant : Text.isVacant line = true) :
    Section.ofLine? line = none := by
  have trimmed : Text.trim line = "" := by
    have nothing := Text.dropEndsWhile_gap vacant []
    rw [List.append_nil] at nothing
    rw [Text.trim, nothing]
    rfl
  simp [Section.ofLine?, trimmed]

theorem entryHead?_of_description {line : String}
    (described : isDescription line = true) : entryHead? line = none := by
  obtain ⟨starts, -⟩ := Bool.and_eq_true_iff.mp described
  obtain ⟨rest, chars⟩ := Text.startsWith_iff.mp starts
  have margin : afterMargin? line.toList = some (' ' :: ' ' :: ' ' :: ' ' :: rest) := by
    rw [chars]
    rfl
  have blank : Text.isBlank ' ' = true := by decide
  have unmarked : Text.dropStart? ['*', '*'] (' ' :: ' ' :: ' ' :: ' ' :: rest) =
      none := by
    simp [Text.dropStart?]
  simp only [entryHead?, margin, unmarked, blank, if_true]
  split <;> rfl

theorem entriesFrom_vacant {gap : Lines}
    (vacant : ∀ line ∈ gap, Text.isVacant line = true) (index : Nat) (rest : Lines) :
    entriesFrom index (gap ++ rest) = entriesFrom (index + gap.length) rest := by
  induction gap generalizing index with
  | nil => rfl
  | cons line gap ih =>
      obtain ⟨first, vacant⟩ := List.forall_mem_cons.mp vacant
      rw [List.cons_append, entriesFrom]
      simp [ofLine?_of_vacant first, first, ih vacant, Nat.add_assoc, Nat.add_comm 1]

theorem entriesFrom_description {line : String} (described : isDescription line = true)
    (index : Nat) (rest : Lines) : entriesFrom index (line :: rest) = [] := by
  obtain ⟨-, content⟩ := Bool.and_eq_true_iff.mp described
  rw [entriesFrom]
  split
  · rfl
  · rw [Bool.not_eq_true'] at content
    simp [content, entryHead?_of_description described]

theorem Paragraph.entriesFrom_lines (paragraph : Paragraph) (index : Nat)
    (rest : Lines) : entriesFrom index (paragraph.lines ++ rest) = [] := by
  rw [lines, List.append_assoc, entriesFrom_vacant paragraph.gap_vacant]
  cases text : paragraph.text with
  | nil => exact absurd text paragraph.text_some
  | cons line others =>
      exact entriesFrom_description (paragraph.text_indented line (by simp [text])) _ _

/-! ## Parameters -/

theorem ParamHead.headLine_no_description (param : ParamHead) :
    isDescription param.headLine = false := by
  obtain ⟨rest, chars, -⟩ := param.headLine_chars
  have shallow : Text.startsWith "        " param.headLine = false := by
    apply Bool.eq_false_iff.mpr
    intro starts
    obtain ⟨more, split⟩ := Text.startsWith_iff.mp starts
    rw [chars] at split
    simp at split
  simp [isDescription, shallow]

theorem EndsDescription.append {gap rest : Lines}
    (vacant : ∀ line ∈ gap, Text.isVacant line = true)
    (ends : EndsDescription rest) : EndsDescription (gap ++ rest) := by
  cases gap with
  | nil => exact ends
  | cons first gap =>
      rintro line ⟨⟩
      exact isDescription_of_vacant (vacant first (by simp))

namespace DescribedParam

variable {param : DescribedParam} {rest : Lines}

theorem tail_endsDescription (param : DescribedParam) (ends : EndsDescription rest) :
    EndsDescription (param.tail ++ rest) := by
  cases further : param.further with
  | nil => simpa [tail, further] using EndsDescription.append param.closing_vacant ends
  | cons paragraph others =>
      cases gap : paragraph.gap with
      | nil => exact absurd gap paragraph.gap_some
      | cons first gap' =>
          have opening : (param.tail ++ rest).head? = some first := by
            simp [tail, further, Paragraph.lines, gap]
          intro line first_line
          obtain rfl := Option.some.inj (opening.symm.trans first_line)
          exact isDescription_of_vacant (paragraph.gap_vacant first (by simp [gap]))

theorem entriesFrom_lines (param : DescribedParam) (ends : EndsDescription rest)
    (index : Nat) : entriesFrom index (param.lines ++ rest) =
      ⟨param.name, param.type, param.opening.map Text.trim,
        index + 1 + param.opening.length⟩ ::
        entriesFrom (index + 1 + param.opening.length) (param.tail ++ rest) := by
  have shape : param.lines ++ rest =
      param.headLine :: (param.opening ++ (param.tail ++ rest)) := by
    simp [lines]
  rw [shape, entriesFrom_entry param.headLine_no_header param.headLine_content
    param.entryHead?_headLine param.opening_indented (param.tail_endsDescription ends)]

theorem entriesFrom_tail_of_short (short : param.further = []) (index : Nat) :
    entriesFrom index (param.tail ++ rest) =
      entriesFrom (index + param.tail.length) rest := by
  simp only [tail, short, List.flatMap_nil, List.nil_append]
  exact entriesFrom_vacant param.closing_vacant index rest

theorem entriesFrom_tail_of_long (long : param.further ≠ []) (index : Nat) :
    entriesFrom index (param.tail ++ rest) = [] := by
  cases further : param.further with
  | nil => exact absurd further long
  | cons paragraph others =>
      rw [tail, further, List.flatMap_cons, List.append_assoc, List.append_assoc]
      exact paragraph.entriesFrom_lines index _

theorem lines_endsDescription (params : List DescribedParam)
    (ends : EndsDescription rest) :
    EndsDescription (params.flatMap lines ++ rest) := by
  cases params with
  | nil => exact ends
  | cons param params =>
      rintro line ⟨⟩
      exact param.headLine_no_description

/-! ## Sections -/

variable {after : Lines}

theorem entriesFrom_tail_eq_nil
    (ends : ∀ line, after.head? = some line → Unindented line)
    {params : List DescribedParam}
    (stops : (param.further.isEmpty && !params.isEmpty) = false) (index : Nat) :
    entriesFrom index (param.tail ++ (params.flatMap lines ++ after)) = [] := by
  by_cases short : param.further = []
  · have last : params = [] := by simpa [short] using stops
    rw [entriesFrom_tail_of_short short, last]
    exact entriesFrom_unindented ends _
  · exact entriesFrom_tail_of_long short index

theorem reached_of_stops {params : List DescribedParam}
    (stops : (param.further.isEmpty && !params.isEmpty) = false) :
    reached (param :: params) = [param] := by
  by_cases short : param.further = []
  · have last : params = [] := by simpa [short] using stops
    simp [reached, last]
  · simp [reached, short]

theorem entriesFrom_params (ends : ∀ line, after.head? = some line → Unindented line)
    {params : List DescribedParam} (some_param : params ≠ []) (index : Nat) :
    (entriesFrom index (params.flatMap lines ++ after)).flatMap Entry.paramFields =
        (reached params).flatMap fields ∧
      ∃ front, params.flatMap lines = front ++ unread params ∧
        (entriesFrom index (params.flatMap lines ++ after)).getLast?.map Entry.stop =
          some (index + front.length) := by
  have closed : EndsDescription after := by
    intro line first
    obtain ⟨c, more, chars, solid⟩ := ends line first
    exact isDescription_of_flush chars solid
  induction params generalizing index with
  | nil => exact absurd rfl some_param
  | cons param params ih =>
      have read := param.entriesFrom_lines (lines_endsDescription params closed) index
      rw [List.flatMap_cons, List.append_assoc, read]
      cases goes_on : param.further.isEmpty && !params.isEmpty with
      | false =>
          rw [entriesFrom_tail_eq_nil ends goes_on]
          refine ⟨?_, param.headLine :: param.opening, ?_, ?_⟩
          · rw [reached_of_stops goes_on, List.flatMap_singleton,
              List.flatMap_singleton, param.paramFields_eq, fields]
          · simp [unread, goes_on, lines]
          · simp
            omega
      | true =>
          obtain ⟨short, more⟩ := Bool.and_eq_true_iff.mp goes_on
          rw [entriesFrom_tail_of_short (List.isEmpty_iff.mp short)]
          obtain ⟨fields_read, front, split, stop⟩ :=
            ih (by simpa using more)
              (index + 1 + param.opening.length + param.tail.length)
          refine ⟨?_, param.lines ++ front, ?_, ?_⟩
          · rw [List.flatMap_cons, fields_read, param.paramFields_eq]
            simp [reached, short, fields]
          · simp [unread, goes_on, split]
          · obtain ⟨last, found, stop⟩ := Option.map_eq_some_iff.mp stop
            rw [List.getLast?_cons, found]
            simp [stop, lines]
            omega

theorem reached_eq_self_iff (params : List DescribedParam) :
    reached params = params ↔ ∀ param ∈ params.dropLast, param.further = [] := by
  induction params with
  | nil => simp [reached]
  | cons param params ih =>
      cases params with
      | nil => simp [reached]
      | cons next params =>
          by_cases short : param.further = []
          · simp [reached, short] at ih ⊢
            exact ih
          · simp [reached, short]

end DescribedParam

theorem convertSections_header {gap after : Lines} {header : String}
    {params : List DescribedParam} (opens : Section.ofLine? header = some .parameters)
    (vacant : ∀ line ∈ gap, Text.isVacant line = true) (some_param : params ≠ [])
    (ends : ∀ line, after.head? = some line → Unindented line) :
    convertSections
      (header :: (gap ++ (params.flatMap DescribedParam.lines ++ after))) =
      (DescribedParam.reached params).flatMap DescribedParam.fields ++
        convertSections (DescribedParam.unread params ++ after) := by
  obtain ⟨gap', vacant', skipped⟩ : ∃ gap', (∀ line ∈ gap', Text.isVacant line = true) ∧
      skipVacant (gap ++ (params.flatMap DescribedParam.lines ++ after)) =
        gap' ++ (params.flatMap DescribedParam.lines ++ after) := by
    cases gap with
    | cons first gap =>
        obtain ⟨first_vacant, vacant⟩ := List.forall_mem_cons.mp vacant
        exact ⟨gap, vacant, by simp [skipVacant, first_vacant]⟩
    | nil =>
        refine ⟨[], vacant, ?_⟩
        cases params with
        | nil => exact absurd rfl some_param
        | cons param params =>
            simp [DescribedParam.lines, skipVacant, param.headLine_content]
  obtain ⟨fields_read, front, split, stop⟩ :=
    DescribedParam.entriesFrom_params ends some_param gap'.length
  have left : (gap' ++ (params.flatMap DescribedParam.lines ++ after)).drop
      (gap'.length + front.length) = DescribedParam.unread params ++ after := by
    rw [split, List.append_assoc, ← List.append_assoc, ← List.length_append]
    exact List.drop_left
  have entries : entriesFrom 0
      (gap' ++ (params.flatMap DescribedParam.lines ++ after)) =
      entriesFrom gap'.length (params.flatMap DescribedParam.lines ++ after) := by
    rw [entriesFrom_vacant vacant', Nat.zero_add]
  rw [convertSections]
  simp only [opens, skipped, entries, stop, Option.getD_some, left, Section.fields,
    fields_read]

/--
A section of parameters becomes the fields of the parameters that are reached,
and the conversion goes on with the lines below the opening paragraph of the
last of them.  All parameters are reached exactly if none but the last one has
further paragraphs.
-/
theorem convertSections_paragraphs {before gap after : Lines} {header : String}
    {params : List DescribedParam}
    (plain : ∀ line ∈ before, Section.ofLine? line = none)
    (opens : Section.ofLine? header = some .parameters)
    (vacant : ∀ line ∈ gap, Text.isVacant line = true) (some_param : params ≠ [])
    (ends : ∀ line, after.head? = some line → Unindented line) :
    convertSections
      (before ++ header :: gap ++ params.flatMap DescribedParam.lines ++ after) =
        before ++ (DescribedParam.reached params).flatMap DescribedParam.fields ++
          convertSections (DescribedParam.unread params ++ after) ∧
      ((∀ line ∈ DescribedParam.unread params, Section.ofLine? line = none) →
        convertSections (DescribedParam.unread params ++ after) =
          DescribedParam.unread params ++ convertSections after) ∧
      (DescribedParam.reached params = params ↔
        ∀ param ∈ params.dropLast, param.further = []) := by
  refine ⟨?_, fun unread_plain => convertSections_append unread_plain after,
    DescribedParam.reached_eq_self_iff params⟩
  have shape : before ++ header :: gap ++ params.flatMap DescribedParam.lines ++ after =
      before ++ header :: (gap ++ (params.flatMap DescribedParam.lines ++ after)) := by
    simp
  rw [shape, convertSections_append plain,
    convertSections_header opens vacant some_param ends, List.append_assoc]

def twoParagraphs : DescribedParam where
  name := "x"
  type := "int"
  opening := ["        First."]
  further := [⟨[""], ["          Second."], by decide, by decide, by decide, by decide⟩]
  closing := [""]
  name_some := by decide
  name_line := by decide
  name_plain := by decide
  type_line := by decide
  type_flush := by
    rintro c ⟨⟩
    decide
  opening_indented := by decide
  closing_vacant := by decide

def oneParagraph : DescribedParam where
  toParamHead := bareParam.toParamHead
  opening := ["        Text."]
  further := []
  closing := []
  opening_indented := by decide
  closing_vacant := by decide

theorem convertSections_paragraphs_between :
    convertSections ["Text.", ":Parameters:", "    **b**", "        Text.",
        "    **x** : int", "        First.", "", "          Second.", "",
        "    **b**", "        Text.", "Tail."] =
      ["Text.", ":param b: Text.", ":param x: First.", ":type x: int", "",
        "          Second.", "", "    **b**", "        Text.", "Tail."] := by
  have plain : ∀ line ∈ ["Text."], Section.ofLine? line = none := by decide
  have opens : Section.ofLine? ":Parameters:" = some .parameters := by decide
  have vacant : ∀ line ∈ ([] : Lines), Text.isVacant line = true := by decide
  have tail : ∀ line ∈ ["Tail."], Section.ofLine? line = none := by decide
  have ends : ∀ line, ["Tail."].head? = some line → Unindented line := by
    rintro line ⟨⟩
    exact ⟨'T', _, rfl, by decide⟩
  obtain ⟨converted, left, -⟩ := convertSections_paragraphs plain opens vacant
    (List.cons_ne_nil oneParagraph [twoParagraphs, oneParagraph]) ends
  have kept : convertSections ["Tail."] = ["Tail."] := by
    simpa [convertSections] using convertSections_append tail []
  rw [left (by decide), kept] at converted
  exact converted.trans (by decide)

/-- The parameter below a second paragraph gets no field. -/
theorem second_paragraph_hides_params :
    convertSections [":Parameters:", "", "    **x** : int", "        First.", "",
        "          Second.", "", "    **b**", "        Text."] =
      [":param x: First.", ":type x: int", "", "          Second.", "", "    **b**",
        "        Text."] := by
  have opens : Section.ofLine? ":Parameters:" = some .parameters := by decide
  have vacant : ∀ line ∈ [""], Text.isVacant line = true := by decide
  have ends : ∀ line, ([] : Lines).head? = some line → Unindented line := nofun
  have converted := convertSections_header opens vacant
    (List.cons_ne_nil twoParagraphs [oneParagraph]) ends
  have kept : convertSections
      (DescribedParam.unread [twoParagraphs, oneParagraph] ++ []) =
      DescribedParam.unread [twoParagraphs, oneParagraph] ++ [] := by
    rw [convertSections_append (by decide)]
    simp [convertSections]
  rw [kept] at converted
  exact converted.trans (by decide)

end DocHints.Docstring
