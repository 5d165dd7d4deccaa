import DocHints.Proofs.ParamLines

/-!
# Inline types

A line that documents a parameter may give its type between the keyword and the
name.  Where a space stands before the name, the line is written anew without
that type.  The description after the field is kept as it is.  What stands
before the field is not: the new line always begins with the field.
-/

namespace DocHints.Docstring

open Text (isBlank)

/-! ## The blank before a name -/

theorem eq_of_last_blank {front front' rest rest' : List Char} {c c' : Char}
    (blank : isBlank c = true) (blank' : isBlank c' = true)
    (solid : ∀ d ∈ rest, isBlank d = false) (solid' : ∀ d ∈ rest', isBlank d = false)
    (same : front ++ c :: rest = front' ++ c' :: rest') :
    front = front' ∧ c = c' ∧ rest = rest' := by
  rcases List.append_eq_append_iff.mp same with ⟨more, rfl, tail⟩ | ⟨more, rfl, tail⟩
  · cases more with
    | nil => simpa using tail
    | cons d more =>
        obtain ⟨rfl, rfl⟩ : c = d ∧ rest = more ++ c' :: rest' := by simpa using tail
        have clash := solid c' (by simp)
        rw [blank'] at clash
        cases clash
  · cases more with
    | nil => simpa [eq_comm] using tail
    | cons d more =>
        obtain ⟨rfl, rfl⟩ : c' = d ∧ rest' = more ++ c :: rest := by simpa using tail
        have clash := solid' c (by simp)
        rw [blank] at clash
        cases clash

theorem solid_of_mem_starMarks {mark : String} (is_mark : mark ∈ starMarks) :
    ∀ c ∈ mark.toList, isBlank c = false := by
  have solid : mark.toList.all (fun c => !isBlank c) = true := by
    simp only [starMarks, List.mem_cons, List.not_mem_nil, or_false] at is_mark
    obtain rfl | rfl | rfl | rfl := is_mark <;> decide
  intro c inside
  simpa using List.all_eq_true.mp solid c inside

/--
The head of a field for a parameter: the keyword, an inline type or nothing, and
after a space the name with its mark.
-/
structure SpacedHead (name : String) (head gap : List Char) (keyword : String)
    (between : List Char) (mark : String) : Prop where
  head_eq : head =
    gap ++ (keyword.toList ++ (between ++ ' ' :: (mark.toList ++ name.toList)))
  is_keyword : keyword ∈ paramKeywords
  is_mark : mark ∈ starMarks
  gap_blank : ∀ c ∈ gap, isBlank c = true
  between_opens : ∀ c, between.head? = some c → isBlank c = true

theorem SpacedHead.endsWith {name keyword mark : String} {head gap between : List Char}
    (spaced : SpacedHead name head gap keyword between mark) :
    Text.endsWith (" " ++ mark ++ name) (String.ofList head) = true :=
  Text.endsWith_iff.mpr ⟨gap ++ (keyword.toList ++ between), by simp [spaced.head_eq]⟩

theorem front_of_argument {head gap word gap' argument front rest : List Char}
    (split : WordSplit head gap word gap' argument) (nonempty : argument ≠ [])
    (argument_eq : argument = front ++ rest)
    (ends : front = [] ∨ ∃ front', front = front' ++ [' ']) :
    ∃ between c, gap' ++ front = between ++ [c] ∧ isBlank c = true ∧
      head = (gap ++ (word ++ between)) ++ c :: rest ∧
      ∀ d, between.head? = some d → isBlank d = true := by
  have some_gap : gap' ≠ [] := split.gap_ne nonempty
  have opens : ∀ d, (gap' ++ front).head? = some d → isBlank d = true := by
    intro d first
    cases gap' with
    | nil => exact absurd rfl some_gap
    | cons e gap' =>
        cases first
        exact split.gap_blank' _ List.mem_cons_self
  have last : ∃ between c, gap' ++ front = between ++ [c] ∧ isBlank c = true := by
    obtain rfl | ⟨front', rfl⟩ := ends
    · obtain ⟨between, c, rfl⟩ := (List.eq_nil_or_concat gap').resolve_left some_gap
      exact ⟨between, c, by simp, split.gap_blank' c (by simp)⟩
    · exact ⟨gap' ++ front', ' ', by simp, by decide⟩
  obtain ⟨between, c, between_eq, blank⟩ := last
  refine ⟨between, c, between_eq, blank, ?_, ?_⟩
  · calc head = gap ++ (word ++ ((gap' ++ front) ++ rest)) := by
          rw [split.chars_eq, argument_eq]
          simp
      _ = (gap ++ (word ++ between)) ++ c :: rest := by
          rw [between_eq]
          simp
  · intro d first
    apply opens
    rw [between_eq, List.head?_append, first]
    rfl

theorem spacedHead_of_endsWith {name keyword argument mark : String}
    {head gap gap' : List Char}
    (split : WordSplit head gap keyword.toList gap' argument.toList)
    (nonempty : argument ≠ "") (is_keyword : keyword ∈ paramKeywords)
    (names : namesParam argument name = true) (is_mark : mark ∈ starMarks)
    (ends : Text.endsWith (" " ++ mark ++ name) (String.ofList head) = true) :
    ∃ between, SpacedHead name head gap keyword between mark := by
  obtain ⟨front, mark', is_mark', argument_eq, front_ends⟩ := namesParam_iff.mp names
  obtain ⟨between, c, -, blank, head_eq, opens⟩ :=
    front_of_argument split (by simpa using nonempty) argument_eq front_ends
  obtain ⟨front', head_eq'⟩ := Text.endsWith_iff.mp ends
  have heads : ((gap ++ (keyword.toList ++ between)) ++ c :: mark'.toList) ++
      name.toList = (front' ++ ' ' :: mark.toList) ++ name.toList := by
    rw [String.toList_ofList, head_eq] at head_eq'
    simpa using head_eq'
  -- No mark has a blank, so both spellings of the head agree on the blank before it.
  obtain ⟨-, rfl, marks⟩ :=
    eq_of_last_blank blank (by decide) (solid_of_mem_starMarks is_mark')
      (solid_of_mem_starMarks is_mark) ((List.append_left_inj _).mp heads)
  refine ⟨between, ?_, is_keyword, is_mark, split.gap_blank, opens⟩
  rw [head_eq, marks]
  simp

/-! ## The line written anew -/

theorem fieldParts?_field {keyword mark name : String}
    {head gap between after : List Char}
    (spaced : SpacedHead name head gap keyword between mark) (closed : ':' ∉ head) :
    fieldParts? (":" ++ keyword ++ " " ++ mark ++ name ++ ":" ++
      String.ofList after).toList =
      some ⟨[], (keyword ++ " " ++ mark ++ name).toList, after⟩ := by
  refine fieldParts?_eq_some.mpr ⟨by simp, by simp, ?_⟩
  rw [spaced.head_eq] at closed
  simp only [String.toList_append, List.mem_append, List.mem_cons, not_or] at closed ⊢
  exact ⟨⟨⟨closed.2.1, by decide⟩, closed.2.2.2.2.1⟩, closed.2.2.2.2.2⟩

theorem column_zero_iff {line : String} {parts : FieldParts}
    (found : fieldParts? line.toList = some parts) :
    line.toList.head? = some ':' ↔ parts.before = [] := by
  obtain ⟨shape, unseen, -⟩ := fieldParts?_eq_some.mp found
  rw [shape]
  cases before_eq : parts.before with
  | nil => simp
  | cons c before =>
      rw [before_eq] at unseen
      have differs : c ≠ ':' := fun same => unseen (by simp [same])
      simp [differs]

theorem withoutInlineType_of_isParamLine {line name : String}
    (is_param : isParamLine line name = true) :
    ∃ parts, fieldParts? line.toList = some parts ∧
      ((∀ gap keyword between mark,
        ¬ SpacedHead name parts.head gap keyword between mark) ∧
          withoutInlineType line name = .ok none ∨
        ∃ gap keyword between mark,
          SpacedHead name parts.head gap keyword between mark ∧
          withoutInlineType line name = .ok (some
            (":" ++ keyword ++ " " ++ mark ++ name ++ ":" ++
              String.ofList parts.after))) := by
  obtain ⟨parts, gap, keyword, gap', argument, shape⟩ := exists_paramParts is_param
  refine ⟨parts, shape.found, ?_⟩
  rw [shape.withoutInlineType]
  cases marked : starMarks.find? fun mark =>
      Text.endsWith (" " ++ mark ++ name) (String.ofList parts.head) with
  | none =>
      refine .inl ⟨fun gap keyword between mark spaced => ?_, rfl⟩
      exact List.find?_eq_none.mp marked mark spaced.is_mark spaced.endsWith
  | some mark =>
      have ends : Text.endsWith (" " ++ mark ++ name) (String.ofList parts.head) =
          true :=
        (List.find?_eq_some_iff_append.mp marked).1
      obtain ⟨between, spaced⟩ := spacedHead_of_endsWith shape.split shape.nonempty
        shape.is_keyword shape.names (List.mem_of_find?_eq_some marked) ends
      exact .inr ⟨gap, keyword, between, mark, spaced, rfl⟩

theorem dropInlineType_of_stripped {above below : Lines} {line name stripped : String}
    (dropped : withoutInlineType line name = .ok (some stripped))
    (nonempty : stripped ≠ "") :
    dropInlineType (above ++ line :: below) name above.length =
      .ok (above ++ stripped :: below) := by
  have line_at : (above ++ line :: below).getD above.length "" = line := by simp
  refine bind_eq_ok.mpr ⟨some stripped, by rw [line_at, dropped], ?_⟩
  simp [nonempty, pure, Except.pure]

/--
Dropping an inline type from the line of a parameter: without a space before the
name nothing changes.  With one, the keyword, the name and the description stay,
and the field moves to the start of the line.  So what stands before the field
is kept only if the line begins with the field.
-/
theorem inline_type_dropped {line name : String}
    (is_param : isParamLine line name = true) (above below : Lines) :
    ∃ parts, fieldParts? line.toList = some parts ∧
      (parts.before = [] ↔ line.toList.head? = some ':') ∧
      ((∀ gap keyword between mark,
        ¬ SpacedHead name parts.head gap keyword between mark) ∧
          dropInlineType (above ++ line :: below) name above.length =
            .ok (above ++ line :: below) ∨
        ∃ gap keyword between mark changed,
          SpacedHead name parts.head gap keyword between mark ∧
          dropInlineType (above ++ line :: below) name above.length =
            .ok (above ++ changed :: below) ∧
          fieldParts? changed.toList =
            some ⟨[], (keyword ++ " " ++ mark ++ name).toList, parts.after⟩) := by
  have line_at : (above ++ line :: below).getD above.length "" = line := by simp
  obtain ⟨parts, found, outcome⟩ := withoutInlineType_of_isParamLine is_param
  have closed := (fieldParts?_eq_some.mp found).2.2
  refine ⟨parts, found, (column_zero_iff found).symm, ?_⟩
  obtain ⟨unspaced, kept⟩ | ⟨gap, keyword, between, mark, spaced, dropped⟩ := outcome
  · exact .inl ⟨unspaced, bind_eq_ok.mpr ⟨none, by rw [line_at, kept], rfl⟩⟩
  · refine .inr ⟨gap, keyword, between, mark, _, spaced,
      dropInlineType_of_stripped dropped ?_, fieldParts?_field spaced closed⟩
    intro empty
    simpa using congrArg String.toList empty

/-- An inline type of several words, and a description with a colon. -/
theorem inline_type_dropped_words :
    isParamLine ":param list of int x: the x: here" "x" = true ∧
      dropInlineType ["Text.", ":param list of int x: the x: here"] "x" 1 =
        .ok ["Text.", ":param x: the x: here"] ∧
      ∃ parts, fieldParts? ":param list of int x: the x: here".toList = some parts ∧
        (parts.before = [] ↔ ":param list of int x: the x: here".toList.head? =
          some ':') ∧
        ((∀ gap keyword between mark,
          ¬ SpacedHead "x" parts.head gap keyword between mark) ∧
            dropInlineType ["Text.", ":param list of int x: the x: here"] "x" 1 =
              .ok ["Text.", ":param list of int x: the x: here"] ∨
          ∃ gap keyword between mark changed,
            SpacedHead "x" parts.head gap keyword between mark ∧
            dropInlineType ["Text.", ":param list of int x: the x: here"] "x" 1 =
              .ok ["Text.", changed] ∧
            fieldParts? changed.toList =
              some ⟨[], (keyword ++ " " ++ mark ++ "x").toList, parts.after⟩) := by
  have is_param : isParamLine ":param list of int x: the x: here" "x" = true := by
    decide +kernel
  exact ⟨is_param, eq_ok_of_toOption (by decide +kernel),
    inline_type_dropped is_param ["Text."] []⟩

/--
A sentence and an indented example become fields, without the word and the
indentation.
-/
theorem prose_becomes_field :
    isParamLine "Note: param int x: see below" "x" = true ∧
      dropInlineType ["Note: param int x: see below"] "x" 0 =
        .ok [":param x: see below"] ∧
      isParamLine "    :param x: an example" "x" = true ∧
      dropInlineType ["    :param x: an example"] "x" 0 =
        .ok [":param x: an example"] :=
  ⟨by decide +kernel, eq_ok_of_toOption (by decide +kernel), by decide +kernel,
    eq_ok_of_toOption (by decide +kernel)⟩

end DocHints.Docstring
