import DocHints.Proofs.FieldLines

/-!
# The lines of a parameter

A line belongs to a parameter if it documents it or gives its type.  No line
belongs to two parameters.  When a parameter is processed its line may be
changed, to escape a trailing underscore or to drop an inline type; it stays the
line of that parameter, and the name read from it is the name under which the
type is given.
-/

namespace DocHints.Docstring

open Text (isBlank)

/-! ## Whose line it is -/

structure DocumentedAs (name documented : String) : Prop where
  closed : ':' ∉ documented.toList
  spelled : ∃ spelled, Spelling name spelled ∧ namesParam documented spelled = true

inductive Belongs (name line : String) : Prop
  | param {spelled : String} (spelling : Spelling name spelled)
      (is_param : isParamLine line spelled = true)
  | type {documented : String} (named : DocumentedAs name documented)
      (is_type : Text.startsWith (typeField documented) line = true)

def Documents (name line : String) : Prop :=
  ∃ spelled, Spelling name spelled ∧ isParamLine line spelled = true

theorem Documents.belongs {name line : String} (documents : Documents name line) :
    Belongs name line := by
  obtain ⟨spelled, spelling, is_param⟩ := documents
  exact .param spelling is_param

theorem not_documents_typeField {name documented line : String}
    (is_type : Text.startsWith (typeField documented) line = true) :
    ¬ Documents name line := by
  rintro ⟨spelled, -, is_param⟩
  rw [isParamLine_of_typeField is_type] at is_param
  cases is_param

theorem DocumentedAs.unique {first second documented : String} (plain : PlainName first)
    (plain' : PlainName second) (named : DocumentedAs first documented)
    (named' : DocumentedAs second documented) : first = second := by
  obtain ⟨-, spelled, spelling, names⟩ := named
  obtain ⟨-, spelled', spelling', names'⟩ := named'
  have same : spelled = spelled' :=
    namesParam_unique (spelling.fieldName plain) (spelling'.fieldName plain') names
      names'
  subst same
  exact spelling.unique plain plain' spelling'

theorem Belongs.unique {first second line : String} (plain : PlainName first)
    (plain' : PlainName second) (owns : Belongs first line)
    (owns' : Belongs second line) : first = second := by
  cases owns with
  | param spelling is_param =>
      cases owns' with
      | param spelling' is_param' =>
          have same :=
            isParamLine_unique (spelling.fieldName plain) (spelling'.fieldName plain')
              is_param is_param'
          subst same
          exact spelling.unique plain plain' spelling'
      | type named is_type =>
          rw [isParamLine_of_typeField is_type] at is_param
          cases is_param
  | type named is_type =>
      cases owns' with
      | param spelling is_param =>
          rw [isParamLine_of_typeField is_type] at is_param
          cases is_param
      | type named' is_type' =>
          have same := typeField_unique named.closed named'.closed is_type is_type'
          subst same
          exact named.unique plain plain' named'

theorem documentedAs_argument {name spelled line : String}
    (spelling : Spelling name spelled) (is_param : isParamLine line spelled = true) :
    ∃ documented, argumentOf? line = some documented ∧ documented ≠ "" ∧
      DocumentedAs name documented := by
  obtain ⟨keyword, argument, read, -, names⟩ := isParamLine_iff.mp is_param
  obtain ⟨before, head, after, gap, gap', -, -, unseen, nonempty, split⟩ :=
    keywordAndArgument?_eq_some.mp read
  refine ⟨argument, argumentOf?_eq_some.mpr ⟨keyword, read⟩, nonempty, ?_, spelled,
    spelling, names⟩
  intro inside
  apply unseen
  rw [split.chars_eq]
  simp [inside]

/-! ## Fields that are written -/

theorem keywordAndArgument?_param {keyword mark name : String} (rest : String)
    (is_keyword : keyword ∈ paramKeywords) (is_mark : mark ∈ starMarks)
    (field : FieldName name) :
    keywordAndArgument? (":" ++ keyword ++ " " ++ mark ++ name ++ ":" ++ rest) =
      some (keyword, some (mark ++ name)) := by
  have letters : keyword ≠ "" ∧
      keyword.toList.all (fun c => !isBlank c && c != ':') = true := by
    simp only [paramKeywords, List.mem_cons, List.not_mem_nil, or_false] at is_keyword
    obtain rfl | rfl | rfl | rfl := is_keyword <;> decide
  have signs : mark.toList.all (fun c => !isBlank c && c != ':') = true := by
    simp only [starMarks, List.mem_cons, List.not_mem_nil, or_false] at is_mark
    obtain rfl | rfl | rfl | rfl := is_mark <;> decide
  have of_all : ∀ chars : List Char, chars.all (fun c => !isBlank c && c != ':') =
      true →
      ∀ c ∈ chars, isBlank c = false ∧ c ≠ ':' := by
    intro chars all c inside
    simpa using List.all_eq_true.mp all c inside
  have solid : ∀ c ∈ (mark ++ name).toList, isBlank c = false ∧ c ≠ ':' := by
    intro c inside
    rw [String.toList_append, List.mem_append] at inside
    cases inside with
    | inl inside => exact of_all _ signs c inside
    | inr inside => exact ⟨(field.solid c inside).1, (field.solid c inside).2.2⟩
  have nonempty : mark ++ name ≠ "" := by
    intro empty
    have chars := congrArg String.toList empty
    simp only [String.toList_append, List.append_eq_nil_iff, String.toList_empty,
      String.toList_eq_nil_iff] at chars
    exact field.nonempty chars.2
  have read := keywordAndArgument?_field rest letters.1 (of_all _ letters.2) nonempty
    (fun c first => (solid c (List.mem_of_mem_head? first)).1)
      (fun inside => (solid _ inside).2 rfl)
  rw [← String.append_assoc] at read
  exact read

theorem isParamLine_field {keyword mark name : String} (rest : String)
    (is_keyword : keyword ∈ paramKeywords) (is_mark : mark ∈ starMarks)
    (field : FieldName name) :
    isParamLine (":" ++ keyword ++ " " ++ mark ++ name ++ ":" ++ rest) name = true :=
  isParamLine_iff.mpr ⟨keyword, mark ++ name,
    keywordAndArgument?_param rest is_keyword is_mark field, is_keyword,
    namesParam_iff.mpr ⟨[], mark, is_mark, by simp, .inl rfl⟩⟩

theorem isContinuation_of_colon {line : String} (opens : line.toList.head? = some ':') :
    isContinuation line = false := by
  obtain ⟨rest, split⟩ := List.head?_eq_some_iff.mp opens
  simp only [isContinuation, split]
  decide

theorem typeField_flush {documented field : String}
    (is_type : Text.startsWith (typeField documented) field = true) :
    isContinuation field = false := by
  obtain ⟨rest, split⟩ := Text.startsWith_iff.mp is_type
  exact isContinuation_of_colon (by simp [split, toList_typeField])

structure ParamParts (line name : String) (parts : FieldParts) (gap : List Char)
    (keyword : String) (gap' : List Char) (argument : String) : Prop where
  found : fieldParts? line.toList = some parts
  split : WordSplit parts.head gap keyword.toList gap' argument.toList
  is_keyword : keyword ∈ paramKeywords
  nonempty : argument ≠ ""
  names : namesParam argument name = true

theorem exists_paramParts {line name : String}
    (is_param : isParamLine line name = true) :
    ∃ parts gap keyword gap' argument,
      ParamParts line name parts gap keyword gap' argument := by
  obtain ⟨keyword, argument, read, is_keyword, names⟩ := isParamLine_iff.mp is_param
  obtain ⟨before, head, after, gap, gap', shape, unseen, unseen', nonempty, split⟩ :=
    keywordAndArgument?_eq_some.mp read
  have found : fieldParts? line.toList = some ⟨before, head, after⟩ :=
    fieldParts?_eq_some.mpr ⟨shape, unseen, unseen'⟩
  exact ⟨_, gap, keyword, gap', argument, found, split, is_keyword, nonempty, names⟩

theorem ParamParts.withoutInlineType {line other keyword argument : String}
    {parts : FieldParts} {gap gap' : List Char}
    (shape : ParamParts line other parts gap keyword gap' argument) (name : String) :
    withoutInlineType line name =
      .ok ((starMarks.find? fun mark =>
        Text.endsWith (" " ++ mark ++ name) (String.ofList parts.head)).map fun mark =>
          ":" ++ keyword ++ " " ++ mark ++ name ++ ":" ++
            String.ofList parts.after) := by
  simp only [Docstring.withoutInlineType, shape.found, firstWord?_of_split shape.split,
    String.ofList_toList]
  split
  · rename_i unmarked
    rw [unmarked]
    rfl
  · rename_i mark marked
    rw [marked]
    rfl

theorem isParamLine_withoutInlineType {line stripped name other : String}
    (field : FieldName name) (is_param : isParamLine line other = true)
    (dropped : withoutInlineType line name = .ok (some stripped)) :
    isParamLine stripped name = true ∧ isContinuation stripped = false := by
  obtain ⟨parts, gap, keyword, gap', argument, shape⟩ := exists_paramParts is_param
  rw [shape.withoutInlineType] at dropped
  obtain ⟨mark, marked, rfl⟩ := Option.map_eq_some_iff.mp (Except.ok.inj dropped)
  refine ⟨isParamLine_field _ shape.is_keyword (List.mem_of_find?_eq_some marked)
    field, ?_⟩
  exact isContinuation_of_colon (by simp)

/-! ## Trailing underscores -/

theorem replaceFirst_cases (mark other line : String) :
    replaceFirst mark other line = line ∨
      ∃ before after, line.toList = before ++ (mark.toList ++ after) ∧
        (replaceFirst mark other line).toList = before ++ (other.toList ++ after) := by
  unfold replaceFirst Text.splitFirst?
  cases found : Text.cut? mark.toList line.toList with
  | none => exact .inl rfl
  | some halves =>
      refine .inr ⟨halves.1, halves.2, ?_, by simp⟩
      simpa using Text.cut?_eq_some found

theorem WordSplit.changeEnd {chars gap word gap' front name other : List Char}
    (split : WordSplit chars gap word gap' (front ++ name)) (nonempty : name ≠ [])
    (solid : ∀ c ∈ other, isBlank c = false) :
    WordSplit (gap ++ (word ++ (gap' ++ (front ++ other)))) gap word gap'
      (front ++ other) where
  chars_eq := rfl
  gap_blank := split.gap_blank
  word_ne := split.word_ne
  word_solid := split.word_solid
  gap_blank' := split.gap_blank'
  gap_ne := fun _ => split.gap_ne (by simp [nonempty])
  rest_solid := by
    intro c first
    cases front with
    | nil => exact solid c (List.mem_of_mem_head? first)
    | cons d front => exact split.rest_solid c (by simpa using first)

theorem keywordAndArgument?_changeName
    {line changed keyword argument name other : String} {before front after : List Char}
    (read : keywordAndArgument? line = some (keyword, some argument))
    (names : namesParam argument name = true) (nonempty : name ≠ "")
    (field : FieldName other)
    (line_eq : line.toList = before ++ ':' ::
      (front ++ ' ' :: name.toList ++ ':' :: after)) (changed_eq :
      changed.toList = before ++ ':' :: (front ++ ' ' :: other.toList ++ ':' :: after))
    (unseen : ':' ∉ before) (unseen' : ':' ∉ front ++ ' ' :: name.toList) :
    ∃ argument', keywordAndArgument? changed = some (keyword, some argument') ∧
      namesParam argument' other = true := by
  obtain ⟨before', head, after', gap, gap', shape, clear, clear', -, split⟩ :=
    keywordAndArgument?_eq_some.mp read
  obtain ⟨rfl, tail⟩ := Text.eq_of_first_place unseen clear (line_eq ▸ shape)
  obtain ⟨rfl, rfl⟩ := Text.eq_of_first_place unseen' clear' tail
  obtain ⟨inner, mark, is_mark, argument_eq, ends⟩ := namesParam_iff.mp names
  have fronts : gap ++ keyword.toList ++ gap' ++ inner ++ mark.toList =
      front ++ [' '] := by
    apply (List.append_left_inj name.toList).mp
    have chars_eq := split.chars_eq
    rw [argument_eq] at chars_eq
    simpa using chars_eq.symm
  -- The name stands after a blank space, so no star marks it.
  have unmarked : mark.toList = [] := by
    simp only [starMarks, List.mem_cons, List.not_mem_nil, or_false] at is_mark
    obtain rfl | rfl | rfl | rfl := is_mark
    · rfl
    all_goals
      have last := congrArg List.getLast? fronts
      simp at last
  rw [unmarked, List.append_nil] at fronts
  rw [unmarked, List.nil_append] at argument_eq
  rw [argument_eq] at split
  have solid : ∀ c ∈ other.toList, isBlank c = false :=
    fun c inside => (field.solid c inside).1
  have split' := split.changeEnd (by simpa using nonempty) solid
  refine ⟨String.ofList (inner ++ other.toList), keywordAndArgument?_eq_some.mpr
    ⟨before, front ++ ' ' :: other.toList, after, gap, gap', changed_eq, unseen, ?_,
      ?_, ?_⟩, ?_⟩
  · intro inside
    simp only [List.mem_append, List.mem_cons] at inside unseen'
    obtain inside | inside | inside := inside
    · exact unseen' (.inl inside)
    · cases inside
    · exact (field.solid _ inside).2.2 rfl
  · intro empty
    have chars := congrArg String.toList empty
    simp [field.nonempty] at chars
  · have heads : front ++ ' ' :: other.toList =
        gap ++ (keyword.toList ++ (gap' ++ (inner ++ other.toList))) := by
      calc front ++ ' ' :: other.toList = (front ++ [' ']) ++ other.toList := by simp
        _ = gap ++ (keyword.toList ++ (gap' ++ (inner ++ other.toList))) := by
          simp [← fronts]
    rw [heads, String.toList_ofList]
    exact split'
  · exact namesParam_iff.mpr ⟨inner, "", by simp [starMarks], by simp, ends⟩

theorem isParamLine_of_head {line changed name : String}
    {before before' head after after' : List Char}
    (is_param : isParamLine line name = true)
    (line_eq : line.toList = before ++ ':' :: (head ++ ':' :: after))
    (changed_eq : changed.toList = before' ++ ':' :: (head ++ ':' :: after'))
    (unseen : ':' ∉ before) (unseen' : ':' ∉ before') (unseen'' : ':' ∉ head) :
    isParamLine changed name = true := by
  obtain ⟨keyword, argument, read, is_keyword, names⟩ := isParamLine_iff.mp is_param
  obtain ⟨front, head', back, gap, gap', shape, clear, clear', nonempty, split⟩ :=
    keywordAndArgument?_eq_some.mp read
  obtain ⟨rfl, tail⟩ := Text.eq_of_first_place unseen clear (line_eq ▸ shape)
  obtain ⟨rfl, rfl⟩ := Text.eq_of_first_place unseen'' clear' tail
  refine isParamLine_iff.mpr ⟨keyword, argument, ?_, is_keyword, names⟩
  exact keywordAndArgument?_eq_some.mpr
    ⟨before', head, after', gap, gap', changed_eq, unseen', unseen'', nonempty, split⟩

/--
A line whose name is escaped where it first stands before a colon keeps its
parameter.
-/
theorem isParamLine_escaped {line name : String} (plain : PlainName name)
    (trailing : Text.endsWith "_" name = true)
    (is_param : isParamLine line name = true) : ∃ spelled, Spelling name spelled ∧
      isParamLine (replaceFirst (" " ++ name ++ ":")
        (" " ++ escapedName name ++ ":") line)
        spelled = true := by
  obtain same | ⟨before, after, line_eq, changed_eq⟩ :=
    replaceFirst_cases (" " ++ name ++ ":") (" " ++ escapedName name ++ ":") line
  · exact ⟨name, .plain, by rw [same]; exact is_param⟩
  · have field := (Spelling.escaped trailing).fieldName plain
    generalize replaceFirst _ _ line = changed at changed_eq ⊢
    have closed : ':' ∉ ' ' :: name.toList := by
      simp only [List.mem_cons, not_or]
      exact ⟨by decide, fun inside => (plain.solid _ inside).2.2 rfl⟩
    have closed' : ':' ∉ ' ' :: (escapedName name).toList := by
      simp only [List.mem_cons, not_or]
      exact ⟨by decide, fun inside => (field.solid _ inside).2.2 rfl⟩
    obtain ⟨keyword, argument, read, is_keyword, names⟩ := isParamLine_iff.mp is_param
    obtain ⟨front, head, back, -, -, shape, unseen, unseen', -⟩ :=
      keywordAndArgument?_eq_some.mp read
    have line_eq' : line.toList = (before ++ ' ' :: name.toList) ++ ':' :: after := by
      simpa using line_eq
    by_cases first : ':' ∈ before
    · obtain ⟨before₁, before₂, rfl, unseen₁⟩ := List.eq_append_cons_of_mem first
      by_cases second : ':' ∈ before₂
      · -- The name that is escaped stands in the description.
        obtain ⟨head', before₃, rfl, unseen₂⟩ := List.eq_append_cons_of_mem second
        exact ⟨name, .plain, isParamLine_of_head is_param (by simpa using line_eq)
          (by simpa using changed_eq) unseen₁ unseen₁ unseen₂⟩
      · -- The name that is escaped ends the head.
        have clear : ':' ∉ before₂ ++ ' ' :: name.toList := by
          simp only [List.mem_append, not_or]
          exact ⟨second, closed⟩
        obtain ⟨argument', read', names'⟩ := keywordAndArgument?_changeName read names
          plain.nonempty field (by simpa using line_eq) (by simpa using changed_eq)
            unseen₁ clear
        exact ⟨escapedName name, .escaped trailing,
          isParamLine_iff.mpr ⟨keyword, argument', read', is_keyword, names'⟩⟩
    · -- The name that is escaped stands before the field.
      have clear : ':' ∉ before ++ ' ' :: name.toList := by
        simp only [List.mem_append, not_or]
        exact ⟨first, closed⟩
      have clear' : ':' ∉ before ++ ' ' :: (escapedName name).toList := by
        simp only [List.mem_append, not_or]
        exact ⟨first, closed'⟩
      obtain ⟨-, rfl⟩ := Text.eq_of_first_place clear unseen (line_eq' ▸ shape)
      have changed_eq' : changed.toList =
          (before ++ ' ' :: (escapedName name).toList) ++ ':' ::
            (head ++ ':' :: back) := by
        simpa using changed_eq
      exact ⟨name, .plain,
        isParamLine_of_head is_param shape changed_eq' unseen clear' unseen'⟩

theorem isContinuation_replaceFirst {name other : String} (line : String) :
    isContinuation (replaceFirst (" " ++ name ++ ":") (" " ++ other ++ ":") line) =
      isContinuation line := by
  obtain same | ⟨before, after, line_eq, changed_eq⟩ :=
    replaceFirst_cases (" " ++ name ++ ":") (" " ++ other ++ ":") line
  · rw [same]
  · simp only [isContinuation, line_eq, changed_eq, String.toList_append]
    cases before with
    | nil => rfl
    | cons c before => rfl

theorem escapedName_ne (name : String) (trailing : Text.endsWith "_" name = true) :
    escapedName name ≠ name := by
  intro same
  have lengths := congrArg (fun s : String => s.toList.length) same
  have chars := toList_of_endsWith_underscore trailing
  have shorter := congrArg List.length chars
  simp only [toList_escapedName, List.length_append, List.length_cons,
    List.length_nil] at *
  omega

/-! ## The line that is found -/

theorem findIdx?_eq_some_append {p : String → Bool} {lines : Lines} {index : Nat} :
    lines.findIdx? p = some index ↔
      ∃ before line after, lines = before ++ line :: after ∧ index = before.length ∧
        p line = true ∧ ∀ earlier ∈ before, p earlier = false := by
  induction lines generalizing index with
  | nil => simp
  | cons first lines ih =>
      rw [List.findIdx?_cons]
      cases holds : p first with
      | true =>
          simp only [if_true, Option.some.injEq]
          constructor
          · rintro rfl
            exact ⟨[], first, lines, rfl, rfl, holds, by simp⟩
          · rintro ⟨before, line, after, split, rfl, -, unseen⟩
            cases before with
            | nil => rfl
            | cons line' before =>
                cases split
                rw [unseen _ List.mem_cons_self] at holds
                cases holds
      | false =>
          simp only [Bool.false_eq_true, if_false, Option.map_eq_some_iff, ih]
          constructor
          · rintro ⟨index, ⟨before, line, after, rfl, rfl, found, unseen⟩, rfl⟩
            exact ⟨first :: before, line, after, rfl, rfl, found,
              by simpa [holds] using unseen⟩
          · rintro ⟨before, line, after, split, rfl, found, unseen⟩
            cases before with
            | nil =>
                cases split
                rw [holds] at found
                cases found
            | cons line' before =>
                cases split
                exact ⟨before.length, ⟨before, line, after, rfl, rfl, found,
                  fun earlier inside =>
                    unseen earlier (List.mem_cons_of_mem _ inside)⟩, rfl⟩

theorem findParam?_eq_some {lines : Lines} {name : String} {index : Nat} :
    findParam? lines name = some index ↔
      ∃ before line after, lines = before ++ line :: after ∧ index = before.length ∧
        isParamLine line name = true ∧
          ∀ earlier ∈ before, isParamLine earlier name = false :=
  findIdx?_eq_some_append

theorem findParam?_eq_none {lines : Lines} {name : String} :
    findParam? lines name = none ↔ ∀ line ∈ lines, isParamLine line name = false := by
  simp [findParam?]

/--
Where the line of a parameter must stand to be found under a spelling: behind no
other line of that spelling, and with the plain spelling only if no line has the
escaped one.
-/
structure Foremost (name spelled : String) (before after : Lines) : Prop where
  spelling : Spelling name spelled
  first : ∀ earlier ∈ before, isParamLine earlier spelled = false
  preferred : Text.endsWith "_" name = true → spelled = name →
    ∀ other ∈ before ++ after, isParamLine other (escapedName name) = false

def LineOf (name : String) (before : Lines) (line : String) (after : Lines) : Prop :=
  ∃ spelled, Foremost name spelled before after ∧ isParamLine line spelled = true

theorem LineOf.documents {name own : String} {before after : Lines}
    (line_of : LineOf name before own after) : Documents name own := by
  obtain ⟨spelled, foremost, is_param⟩ := line_of
  exact ⟨spelled, foremost.spelling, is_param⟩

theorem locateParam_place (lines : Lines) (name : String) :
    (locateParam lines name).2.2 =
      if Text.endsWith "_" name then
        (findParam? lines (escapedName name)).or (findParam? lines name)
      else findParam? lines name := by
  unfold locateParam findUnderscored
  cases Text.endsWith "_" name with
  | false => rfl
  | true =>
      simp only [if_true]
      cases findParam? lines (escapedName name) with
      | some index => rfl
      | none =>
          cases findParam? lines name with
          | none => rfl
          | some index =>
              simp only [Option.none_or]
              split <;> rfl

theorem LineOf.place {name line : String} {before after : Lines}
    (plain : PlainName name) (line_of : LineOf name before line after) :
    (locateParam (before ++ line :: after) name).2.2 = some before.length := by
  obtain ⟨spelled, ⟨spelling, first, preferred⟩, is_param⟩ := line_of
  have found : findParam? (before ++ line :: after) spelled = some before.length :=
    findParam?_eq_some.mpr ⟨before, line, after, rfl, rfl, is_param, first⟩
  rw [locateParam_place]
  cases spelling with
  | escaped trailing => simp [trailing, found]
  | plain =>
      cases trailing : Text.endsWith "_" name with
      | false => simpa using found
      | true =>
          have unescaped : isParamLine line (escapedName name) = false := by
            apply Bool.eq_false_iff.mpr
            intro is_escaped
            exact escapedName_ne name trailing (isParamLine_unique
              ((Spelling.escaped trailing).fieldName plain) plain.toFieldName
                is_escaped is_param)
          have missing : findParam? (before ++ line :: after) (escapedName name) =
              none := by
            apply findParam?_eq_none.mpr
            intro other inside
            simp only [List.mem_append, List.mem_cons] at inside
            obtain inside | rfl | inside := inside
            · exact preferred trailing rfl other (List.mem_append_left _ inside)
            · exact unescaped
            · exact preferred trailing rfl other (List.mem_append_right _ inside)
          simp [missing, found]

theorem Foremost.of_unescaped {name spelled line : String} {before after : Lines}
    (missing : ∀ other ∈ before ++ line :: after,
      isParamLine other (escapedName name) = false)
    (first : ∀ earlier ∈ before, isParamLine earlier name = false)
    (spelling : Spelling name spelled) : Foremost name spelled before after := by
  have around : ∀ other ∈ before ++ after, isParamLine other (escapedName name) =
      false := by
    intro other inside
    apply missing
    simp only [List.mem_append, List.mem_cons] at inside ⊢
    exact inside.imp_right .inr
  cases spelling with
  | plain => exact ⟨.plain, first, fun _ _ => around⟩
  | escaped trailing =>
      exact ⟨.escaped trailing,
        fun earlier inside => around _ (List.mem_append_left _ inside),
        fun _ same => absurd same (escapedName_ne name trailing)⟩

theorem findUnderscored_eq_some {lines lines' : Lines} {name spelled : String}
    {index : Nat} (plain : PlainName name) (trailing : Text.endsWith "_" name = true)
    (located : findUnderscored lines name = (lines', spelled, some index)) :
    ∃ before line changed after, lines = before ++ line :: after ∧
      lines' = before ++ changed :: after ∧ index = before.length ∧
      LineOf name before line after ∧ LineOf name before changed after ∧
      Foremost name spelled before after ∧
        isContinuation changed = isContinuation line := by
  unfold findUnderscored at located
  cases escaped : findParam? lines (escapedName name) with
  | some place =>
      simp only [escaped, Prod.mk.injEq, Option.some.injEq] at located
      obtain ⟨rfl, rfl, rfl⟩ := located
      obtain ⟨before, line, after, rfl, rfl, is_param, first⟩ :=
        findParam?_eq_some.mp escaped
      have foremost : Foremost name (escapedName name) before after :=
        ⟨.escaped trailing, first,
          fun _ same => absurd same (escapedName_ne name trailing)⟩
      exact ⟨before, line, line, after, rfl, rfl, rfl, ⟨_, foremost, is_param⟩,
        ⟨_, foremost, is_param⟩, foremost, rfl⟩
  | none =>
      cases found : findParam? lines name with
      | none => simp [escaped, found] at located
      | some place =>
          simp only [escaped, found] at located
          obtain ⟨before, line, after, rfl, rfl, is_param, first⟩ :=
            findParam?_eq_some.mp found
          have foremost : ∀ {spelled}, Spelling name spelled →
              Foremost name spelled before after :=
            Foremost.of_unescaped (findParam?_eq_none.mp escaped) first
          have line_of : LineOf name before line after := ⟨_, foremost .plain, is_param⟩
          have line_at : (before ++ line :: after).getD before.length "" =
              line := by simp
          rw [line_at] at located
          split at located
          · cases located
            exact ⟨before, line, line, after, rfl, rfl, rfl, line_of, line_of,
              foremost .plain, rfl⟩
          · cases located
            obtain ⟨spelled, spelling, is_param'⟩ :=
              isParamLine_escaped plain trailing is_param
            exact ⟨before, line, _, after, rfl, by simp, rfl, line_of,
              ⟨spelled, foremost spelling, is_param'⟩, foremost (.escaped trailing),
              isContinuation_replaceFirst line⟩

/--
What is found of a parameter; the line may be changed to escape a trailing
underscore.
-/
theorem locateParam_eq_some {lines lines' : Lines} {name spelled : String} {index : Nat}
    (plain : PlainName name)
    (located : locateParam lines name = (lines', spelled, some index)) :
    ∃ before line changed after, lines = before ++ line :: after ∧
      lines' = before ++ changed :: after ∧ index = before.length ∧
      LineOf name before line after ∧ LineOf name before changed after ∧
      Foremost name spelled before after ∧
        isContinuation changed = isContinuation line := by
  unfold locateParam at located
  cases trailing : Text.endsWith "_" name with
  | true =>
      rw [if_pos trailing] at located
      exact findUnderscored_eq_some plain trailing located
  | false =>
      simp only [trailing, Bool.false_eq_true, if_false, Prod.mk.injEq] at located
      obtain ⟨rfl, rfl, found⟩ := located
      obtain ⟨before, line, after, rfl, rfl, is_param, first⟩ :=
        findParam?_eq_some.mp found
      have foremost : Foremost name name before after :=
        ⟨.plain, first, fun ends => by rw [trailing] at ends; cases ends⟩
      exact ⟨before, line, line, after, rfl, rfl, rfl, ⟨name, foremost, is_param⟩,
        ⟨name, foremost, is_param⟩, foremost, rfl⟩

theorem locateParam_eq_none {lines lines' : Lines} {name spelled : String}
    (located : locateParam lines name = (lines', spelled, none)) :
    lines' = lines ∧ Foremost name spelled lines [] := by
  unfold locateParam at located
  cases trailing : Text.endsWith "_" name with
  | false =>
      simp only [trailing, Bool.false_eq_true, if_false, Prod.mk.injEq] at located
      obtain ⟨rfl, rfl, missing⟩ := located
      exact ⟨rfl, .plain, findParam?_eq_none.mp missing,
        fun ends => by rw [trailing] at ends; cases ends⟩
  | true =>
      simp only [trailing, if_true, findUnderscored] at located
      cases escaped : findParam? lines (escapedName name) with
      | some place => simp [escaped] at located
      | none =>
          cases found : findParam? lines name with
          | some place =>
              simp only [escaped, found] at located
              split at located <;> cases located
          | none =>
              simp only [escaped, found, Prod.mk.injEq, and_true] at located
              obtain ⟨rfl, rfl⟩ := located
              exact ⟨rfl, .escaped trailing, findParam?_eq_none.mp escaped,
                fun _ same => absurd same (escapedName_ne name trailing)⟩

/-! ## The line made ready -/

theorem bind_eq_ok {α β : Type} {action : Except Failure α}
    {next : α → Except Failure β} {result : β} :
    (action >>= next) = .ok result ↔
      ∃ value, action = .ok value ∧ next value = .ok result := by
  cases action with
  | error failure => simp [bind, Except.bind]
  | ok value => simp [bind, Except.bind]

theorem map_eq_ok {α β : Type} {action : Except Failure α} {change : α → β}
    {result : β} :
    action.map change = .ok result ↔
      ∃ value, action = .ok value ∧ change value = result := by
  cases action with
  | error failure => simp [Except.map]
  | ok value => simp [Except.map]

theorem map_eq_error {α β : Type} {action : Except Failure α} {change : α → β}
    {failure : Failure} :
    action.map change = .error failure ↔ action = .error failure := by
  cases action with
  | error failure' => simp [Except.map]
  | ok value => simp [Except.map]

theorem eq_ok_of_toOption {α : Type} {action : Except Failure α} {value : α}
    (result : action.toOption = some value) : action = .ok value := by
  cases action with
  | error failure => cases result
  | ok other =>
      cases result
      rfl

/-- The line of a parameter among the others, and the name that it documents. -/
structure Spot where
  before : Lines
  own : String
  after : Lines
  documented : String

namespace Spot

def lines (spot : Spot) : Lines :=
  spot.before ++ spot.own :: spot.after

/--
The spot of a parameter: its line would be found there, and the name is read
from it.
-/
structure Of (spot : Spot) (name : String) : Prop where
  line_of : LineOf name spot.before spot.own spot.after
  argument : argumentOf? spot.own = some spot.documented

end Spot

theorem LineOf.spot {name own : String} {before after : Lines}
    (line_of : LineOf name before own after) (other : String) :
    Spot.Of ⟨before, own, after, documentedName own other⟩ name := by
  obtain ⟨spelled, foremost, is_param⟩ := line_of
  obtain ⟨argument, read, nonempty, -⟩ :=
    documentedAs_argument foremost.spelling is_param
  refine ⟨⟨spelled, foremost, is_param⟩, ?_⟩
  simp [documentedName, read, nonempty]

theorem Spot.Of.documentedAs {spot : Spot} {name : String} (of : spot.Of name) :
    DocumentedAs name spot.documented := by
  obtain ⟨⟨spelled, foremost, is_param⟩, argument⟩ := of
  obtain ⟨documented, read, -, named⟩ :=
    documentedAs_argument foremost.spelling is_param
  rw [argument] at read
  cases read
  exact named

theorem dropInlineType_spec {before after ready : Lines} {line name spelled : String}
    (plain : PlainName name) (foremost : Foremost name spelled before after)
    (line_of : LineOf name before line after)
    (dropped : dropInlineType (before ++ line :: after) spelled before.length =
      .ok ready) :
    ∃ own, ready = before ++ own :: after ∧ LineOf name before own after ∧
      (isContinuation own = true → isContinuation line = true) := by
  have line_at : (before ++ line :: after).getD before.length "" = line := by simp
  unfold dropInlineType at dropped
  rw [line_at] at dropped
  obtain ⟨stripped?, strip, kept⟩ := bind_eq_ok.mp dropped
  cases stripped? with
  | none =>
      cases kept
      exact ⟨line, rfl, line_of, id⟩
  | some stripped =>
      have is_param := line_of.choose_spec.2
      obtain ⟨is_param', flush⟩ :=
        isParamLine_withoutInlineType (foremost.spelling.fieldName plain) is_param strip
      cases kept
      split
      · exact ⟨line, rfl, line_of, id⟩
      · refine ⟨stripped, by simp, ⟨spelled, foremost, is_param'⟩, ?_⟩
        rw [flush]
        exact fun indented => by cases indented

theorem settleParam_of_found {lines lines' : Lines} {name spelled : String}
    {index : Nat} (located : locateParam lines name = (lines', spelled, some index))
    (hinted : Bool) : settleParam lines name hinted =
      (if hinted then dropInlineType lines' spelled index else .ok lines').map
        fun ready =>
        (ready, documentedName (ready.getD index "") spelled, some index) := by
  unfold settleParam
  rw [located]
  cases hinted with
  | false => rfl
  | true =>
      simp only [if_true]
      cases dropInlineType lines' spelled index <;> rfl

theorem settleParam_of_missing {lines lines' : Lines} {name spelled : String}
    (located : locateParam lines name = (lines', spelled, none)) (hinted : Bool) :
    settleParam lines name hinted = .ok (lines', spelled, none) := by
  unfold settleParam
  rw [located]

theorem settleParam_place {lines ready : Lines} {name documented : String}
    {hinted : Bool} {place : Option Nat}
    (settled : settleParam lines name hinted = .ok (ready, documented, place)) :
    (locateParam lines name).2.2 = place := by
  rcases located : locateParam lines name with ⟨lines', spelled, place'⟩
  cases place' with
  | none =>
      rw [settleParam_of_missing located] at settled
      cases settled
      rfl
  | some index =>
      rw [settleParam_of_found located] at settled
      obtain ⟨ready', -, done⟩ := map_eq_ok.mp settled
      cases done
      rfl

theorem exists_settleParam {lines : Lines} {name : String} {index : Nat}
    (plain : PlainName name) (found : (locateParam lines name).2.2 = some index)
    (hinted : Bool) :
    ∃ ready documented, settleParam lines name hinted =
      .ok (ready, documented, some index) := by
  rcases located : locateParam lines name with ⟨lines', spelled, place⟩
  rw [located] at found
  cases found
  obtain ⟨before, line, changed, after, -, rfl, rfl, -, ⟨other, -, is_param⟩, -, -⟩ :=
    locateParam_eq_some plain located
  have ready : ∃ ready, (if hinted then
      dropInlineType (before ++ changed :: after) spelled before.length
        else .ok (before ++ changed :: after)) = .ok ready := by
    cases hinted with
    | false => exact ⟨_, rfl⟩
    | true =>
        have line_at : (before ++ changed :: after).getD before.length "" =
            changed := by simp
        obtain ⟨parts, gap, keyword, gap', argument, shape⟩ :=
          exists_paramParts is_param
        simp only [if_true, dropInlineType, line_at, shape.withoutInlineType]
        cases starMarks.find? fun mark =>
          Text.endsWith (" " ++ mark ++ spelled) (String.ofList parts.head)
            <;> exact ⟨_, rfl⟩
  obtain ⟨ready, done⟩ := ready
  rw [settleParam_of_found located]
  exact ⟨ready, _, map_eq_ok.mpr ⟨ready, done, rfl⟩⟩

/--
A parameter that has a line: what stands there before and after the line is made
ready.
-/
theorem settleParam_eq_some {lines ready : Lines} {name documented : String}
    {hinted : Bool} {index : Nat} (plain : PlainName name)
    (settled : settleParam lines name hinted = .ok (ready, documented, some index)) :
    ∃ (spot : Spot) (line : String), spot.Of name ∧ ready = spot.lines ∧
      documented = spot.documented ∧ index = spot.before.length ∧
      lines = spot.before ++ line :: spot.after ∧
        LineOf name spot.before line spot.after ∧
      (isContinuation spot.own = true → isContinuation line = true) := by
  have place := settleParam_place settled
  rcases located : locateParam lines name with ⟨lines', spelled, place'⟩
  rw [located] at place
  cases place
  obtain ⟨before, line, changed, after, rfl, rfl, rfl, line_of, line_of', foremost,
      indented⟩ :=
    locateParam_eq_some plain located
  rw [settleParam_of_found located] at settled
  obtain ⟨ready', stripped, done⟩ := map_eq_ok.mp settled
  cases done
  have own_of : ∃ own, ready = before ++ own :: after ∧ LineOf name before own after ∧
      (isContinuation own = true → isContinuation changed = true) := by
    cases hinted with
    | true => exact dropInlineType_spec plain foremost line_of' stripped
    | false =>
        cases stripped
        exact ⟨changed, rfl, line_of', id⟩
  obtain ⟨own, rfl, own_of, indented'⟩ := own_of
  refine ⟨⟨before, own, after, documentedName own spelled⟩, line,
    own_of.spot spelled, rfl, ?_, rfl, rfl, line_of, fun is => indented ▸ indented' is⟩
  simp

theorem settleParam_eq_none {lines ready : Lines} {name documented : String}
    {hinted : Bool}
    (settled : settleParam lines name hinted = .ok (ready, documented, none)) :
    ready = lines ∧ Foremost name documented lines [] := by
  have place := settleParam_place settled
  rcases located : locateParam lines name with ⟨lines', spelled, place'⟩
  rw [located] at place
  cases place
  rw [settleParam_of_missing located] at settled
  cases settled
  exact locateParam_eq_none located

end DocHints.Docstring
