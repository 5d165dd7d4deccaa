import DocHints.Proofs.DefaultPlacement
import DocHints.Proofs.ResultBounds
import DocHints.Proofs.Sections

/-!
# The marks of parameter fields

Seven marks open a field for a parameter where the place of the result is looked
for, and only four of them where the line of a parameter is looked for.  A field
with one of the four is found under its name and stays so while other parameters
are given their types, so that its parameter gets no second field.  A field with
one of the other three is never found: if all parameters are documented, a
parameter that has no other field gets a second one at the end.
-/

namespace DocHints.Docstring

open Text (isBlank)

/-! ## The fields -/

def paramField (mark name description : String) : String :=
  ":" ++ mark ++ name ++ ": " ++ description

def foundMarks : List String :=
  paramKeywords.map (· ++ " ")

/--
The word of a mark: solid, and opened as neither a section nor a field of a type
is.
-/
structure MarkWord (word : String) : Prop where
  opens : ∃ c rest, word.toList = c :: rest ∧ c ∉ ['P', 'O', 'R', 'Y'] ∧ c ≠ 't'
  solid : ∀ c ∈ word.toList, isBlank c = false ∧ c ≠ ':' ∧ c ≠ '\\'

theorem exists_markWord {mark : String} (is_mark : mark ∈ paramFieldMarks) :
    ∃ word, mark = word ++ " " ∧ MarkWord word := by
  have words : paramFieldMarks = ["param", "parameter", "arg", "argument",
      "keyword", "kwarg", "kwparam"].map (· ++ " ") := by decide
  have letters : ∀ word ∈ ["param", "parameter", "arg", "argument", "keyword",
      "kwarg", "kwparam"],
        word.toList.head?.any (fun c =>
          !(['P', 'O', 'R', 'Y'].contains c) && c != 't') = true ∧
        word.toList.all (fun c => !isBlank c && c != ':' && c != '\\') = true := by
          decide
  rw [words] at is_mark
  obtain ⟨word, known, rfl⟩ := List.mem_map.mp is_mark
  obtain ⟨opens, solid⟩ := letters word known
  refine ⟨word, rfl, ?_, fun c inside => ?_⟩
  · cases chars : word.toList with
    | nil => simp [chars] at opens
    | cons c rest => exact ⟨c, rest, rfl, by simpa [chars] using opens⟩
  · simpa [and_assoc] using List.all_eq_true.mp solid c inside

theorem mem_foundMarks {word : String} :
    word ++ " " ∈ foundMarks ↔ word ∈ paramKeywords := by
  simp only [foundMarks, List.mem_map]
  constructor
  · rintro ⟨keyword, known, same⟩
    have chars := congrArg String.toList same
    rw [String.toList_append, String.toList_append, List.append_left_inj] at chars
    exact String.toList_inj.mp chars ▸ known
  · exact fun known => ⟨word, known, rfl⟩

section Field

variable {mark word name : String} (description : String)

theorem toList_paramField : (paramField mark name description).toList =
    ':' :: ((mark ++ name).toList ++ ':' :: ' ' :: description.toList) := by
  simp [paramField]

theorem paramField_append (more : String) :
    paramField mark name description ++ more =
      paramField mark name (description ++ more) :=
  String.append_assoc

theorem isContinuation_paramField :
    isContinuation (paramField mark name description) = false :=
  isContinuation_of_colon (by rw [toList_paramField]; rfl)

theorem keywordAndArgument?_paramField (is_word : MarkWord word)
    (plain : PlainName name) :
    keywordAndArgument? (paramField (word ++ " ") name description) =
      some (word, some name) := by
  have nonempty : word ≠ "" := by
    rintro rfl
    obtain ⟨c, rest, chars, -, -⟩ := is_word.opens
    cases chars
  have read := keywordAndArgument?_field (" " ++ description) nonempty
    (fun c inside => ⟨(is_word.solid c inside).1, (is_word.solid c inside).2.1⟩)
      plain.nonempty
    (fun c first => (plain.solid c (List.mem_of_mem_head? first)).1)
    (fun inside => (plain.solid _ inside).2.2 rfl)
  have same : paramField (word ++ " ") name description =
      ":" ++ word ++ " " ++ name ++ ":" ++ (" " ++ description) :=
    String.toList_inj.mp (by simp [paramField])
  rw [same, read]

theorem not_typeField_paramField (is_mark : mark ∈ paramFieldMarks)
    (documented : String) :
    Text.startsWith (typeField documented) (paramField mark name description) =
      false := by
  obtain ⟨word, rfl, is_word⟩ := exists_markWord is_mark
  obtain ⟨c, letters, chars, -, no_type⟩ := is_word.opens
  refine Bool.eq_false_iff.mpr fun starts => no_type ?_
  obtain ⟨rest, split⟩ := Text.startsWith_iff.mp starts
  rw [toList_paramField, toList_typeField] at split
  simp only [String.toList_append, chars, List.cons_append] at split
  exact (List.cons.inj (List.cons.inj split).2).1

theorem namesParam_plain {other : String} (plain : PlainName name) :
    namesParam name other = true ↔ other = name := by
  have escaping : ∀ mark ∈ starMarks, mark = "" ∨ '\\' ∈ mark.toList := by decide
  rw [namesParam_iff]
  constructor
  · rintro ⟨front, mark, is_mark, chars, ends⟩
    obtain rfl | ⟨front', rfl⟩ := ends
    · cases escaping mark is_mark with
      | inl empty =>
          subst empty
          exact (String.toList_inj.mp (by simpa using chars)).symm
      | inr inside => exact absurd (chars ▸ by simp [inside]) plain.unescaped
    · have blank : isBlank ' ' = false := (plain.solid ' ' (chars ▸ by simp)).1
      exact absurd blank (by decide)
  · rintro rfl
    exact ⟨[], "", by decide, by simp, .inl rfl⟩

theorem isParamLine_paramField {other : String} (is_mark : mark ∈ paramFieldMarks)
    (plain : PlainName name) :
    isParamLine (paramField mark name description) other = true ↔
      mark ∈ foundMarks ∧ other = name := by
  obtain ⟨word, rfl, is_word⟩ := exists_markWord is_mark
  rw [isParamLine_iff, keywordAndArgument?_paramField description is_word plain,
    mem_foundMarks]
  constructor
  · rintro ⟨keyword, argument, read, known, names⟩
    cases read
    exact ⟨known, (namesParam_plain plain).mp names⟩
  · rintro ⟨known, rfl⟩
    exact ⟨word, other, rfl, known, (namesParam_plain plain).mpr rfl⟩

theorem documents_paramField {other : String} (is_mark : mark ∈ paramFieldMarks)
    (plain : PlainName name) (plain' : PlainName other) :
    Documents other (paramField mark name description) ↔
      mark ∈ foundMarks ∧ other = name := by
  constructor
  · rintro ⟨spelled, spelling, is_param⟩
    obtain ⟨found, rfl⟩ :=
      (isParamLine_paramField description is_mark plain).mp is_param
    exact ⟨found, spelling.unique plain' plain .plain⟩
  · rintro ⟨found, rfl⟩
    exact ⟨other, .plain,
      (isParamLine_paramField description is_mark plain).mpr ⟨found, rfl⟩⟩

end Field

/-! ## The list of fields -/

section List

open Rest (Block)

end List

/-! ## Lines that stay -/

theorem mem_insertLine {lines : Lines} {own : String} (inside : own ∈ lines)
    (position : Int) (field : String) : own ∈ insertLine lines position field := by
  rw [← List.take_append_drop (insertPlace lines.length position) lines,
    List.mem_append] at inside
  unfold insertLine
  rw [List.mem_append, List.mem_cons]
  exact inside.imp_right .inr

theorem appendDefault_extends {lines result : Lines} {own text : String}
    {position : Int} (inside : own ∈ lines)
    (done : appendDefault lines position text = .ok result) :
    ∃ more, own ++ more ∈ result := by
  obtain ⟨last, -, done⟩ := bind_eq_ok.mp done
  obtain ⟨line, read, done⟩ := bind_eq_ok.mp done
  unfold lineAt at read
  unfold setLine at done
  cases place : place? lines.length last with
  | none => simp [place] at done
  | some index =>
      simp only [place, Option.bind_some] at read
      simp only [place, Except.ok.injEq] at done
      subst done
      cases at_index : lines[index]? with
      | none => simp [at_index] at read
      | some line' =>
          simp only [at_index, Except.ok.injEq] at read
          subst read
          obtain ⟨before, after, rfl, rfl⟩ : ∃ before after,
              lines = before ++ line' :: after ∧ before.length = index := by
            obtain ⟨bound, get⟩ := List.getElem?_eq_some_iff.mp at_index
            refine ⟨lines.take index, lines.drop (index + 1), ?_, ?_⟩
            · rw [← get, List.getElem_cons_drop, List.take_append_drop]
            · rw [List.length_take]
              omega
          rw [List.set_append_right _ _ (Nat.le_refl _), Nat.sub_self,
            List.set_cons_zero]
          obtain stands | rfl | stands : own ∈ before ∨ own = line' ∨ own ∈ after := by
            simpa using inside
          · exact ⟨"", by simp [stands]⟩
          · exact ⟨text, by simp⟩
          · exact ⟨"", by simp [stands]⟩

section Step

variable {typeText : Value → Except Failure String} {options : FieldOptions}
  {hints : Annotations} {lines result : Lines} {own documented : String}
  {hint default : Option Value} {index : Nat}

theorem insertTypeField_extends {field : String} {annotated : Bool}
    (inside : own ∈ lines)
    (done : insertTypeField options lines index field default annotated = .ok result) :
    ∃ more, own ++ more ∈ result := by
  have unchanged : own ++ "" ∈ lines := by rwa [String.append_empty]
  unfold insertTypeField at done
  cases on : options.defaults.isOn with
  | false =>
      simp only [on, Bool.not_false, if_true] at done
      cases done
      exact ⟨"", mem_insertLine unchanged _ _⟩
  | true =>
      simp only [on, Bool.not_true, Bool.false_eq_true, if_false] at done
      obtain ⟨text?, -, done⟩ := bind_eq_ok.mp done
      cases text? with
      | none =>
          cases done
          exact ⟨"", mem_insertLine unchanged _ _⟩
      | some text =>
          obtain ⟨after, -, done⟩ := bind_eq_ok.mp done
          cases after with
          | true =>
              obtain ⟨lines', appended, done⟩ := bind_eq_ok.mp done
              cases done
              obtain ⟨more, inside'⟩ := appendDefault_extends inside appended
              exact ⟨more, mem_insertLine inside' _ _⟩
          | false =>
              cases done
              exact ⟨"", mem_insertLine unchanged _ _⟩

theorem giveType_extends (inside : own ∈ lines) (flush : isContinuation own = false)
    (no_type : Text.startsWith (typeField documented) own = false)
    (done : giveType typeText options lines documented index hint default =
      .ok result) :
    ∃ more, own ++ more ∈ result := by
  cases existing : existingType? lines documented with
  | none =>
      rw [giveType_of_free (.inr existing)] at done
      obtain ⟨line, -, done⟩ := bind_eq_ok.mp done
      exact insertTypeField_extends inside done
  | some type =>
      cases hint with
      | none =>
          rw [giveType_of_free (.inl rfl)] at done
          obtain ⟨line, -, done⟩ := bind_eq_ok.mp done
          exact insertTypeField_extends inside done
      | some hint =>
          obtain ⟨front, block, below, stands⟩ := exists_existingType existing
          rw [giveType_of_existing stands] at done
          obtain ⟨line, -, done⟩ := bind_eq_ok.mp done
          refine insertTypeField_extends ?_ done
          obtain ⟨rfl, -, ⟨first, more, rfl, is_type, indented⟩, -⟩ := stands
          -- The block that is removed has a type and lines that continue it.
          have elsewhere : own ∉ first :: more := by
            rw [List.mem_cons, not_or]
            refine ⟨?_, fun continues => ?_⟩
            · rintro rfl
              rw [no_type] at is_type
              cases is_type
            · rw [indented own continues] at flush
              cases flush
          simp only [List.mem_append] at inside ⊢
          exact inside.imp_right fun stands => stands.resolve_left elsewhere

theorem inFields_withLines (draft : Draft) (lines : Lines) :
    (draft.inFields.withLines lines).inFields = draft.inFields.withLines lines := by
  obtain ⟨layout, lines'⟩ := draft
  cases layout with
  | fields => rfl
  | sections converted => cases converted <;> rfl

end Step

section Run

variable {typeText : Value → Except Failure String} {options : FieldOptions}
  {hints : Annotations} {mark name description : String}

/--
The lines have a field for a parameter, whose description may have grown at its
end.
-/
def HasField (mark name description : String) (lines : Lines) : Prop :=
  ∃ more, paramField mark name (description ++ more) ∈ lines

theorem HasField.giveType {lines result : Lines} {documented : String}
    {hint default : Option Value} {index : Nat} (is_mark : mark ∈ paramFieldMarks)
    (has : HasField mark name description lines)
    (done : Docstring.giveType typeText options lines documented index hint
      default = .ok result) :
    HasField mark name description result := by
  obtain ⟨more, inside⟩ := has
  obtain ⟨text, inside'⟩ := giveType_extends inside (isContinuation_paramField _)
    (not_typeField_paramField _ is_mark documented) done
  rw [paramField_append, String.append_assoc] at inside'
  exact ⟨more ++ text, inside'⟩

theorem HasField.injectParam {draft draft' : Draft} {argument : Argument}
    (is_mark : mark ∈ paramFieldMarks) (plain : PlainName name)
    (plain' : PlainName argument.name) (differs : argument.name ≠ name)
    (has : HasField mark name description draft.inFields.lines)
    (done : Docstring.injectParam typeText options hints draft argument = .ok draft') :
    HasField mark name description draft'.inFields.lines := by
  obtain ⟨rfl, -⟩ | ⟨spot, result, -, ready, given, rfl⟩ :=
    injectParam_cases plain' done
  · have converted : draft.inFields.inFields = draft.inFields :=
      inFields_withLines draft _
    rwa [converted]
  · rw [inFields_withLines]
    obtain ⟨more, inside⟩ := has
    refine HasField.giveType is_mark ⟨more, ready.mem_lines ?_ inside⟩ given
    -- The line that is made ready belongs to the other parameter, so it is not
    -- the field.
    rintro line owns rfl
    cases owns with
    | param spelling is_param =>
        exact differs
          ((documents_paramField _ is_mark plain plain').mp ⟨_, spelling, is_param⟩).2
    | type named is_type =>
        rw [not_typeField_paramField _ is_mark] at is_type
        cases is_type

end Run

/-! ## With a line and without -/

section Turn

variable (typeText : Value → Except Failure String) {options : FieldOptions}
  {hints : Annotations} {draft : Draft} {argument : Argument}

end Turn

end DocHints.Docstring
