import DocHints.Docstring.ParamField
import DocHints.Proofs.Cutting
import DocHints.Text.Word

/-!
# Field lines

How a field line is read: `:keyword argument: description`.  A line documents at
most one parameter, because the name that ends its argument is told from what
stands before it, and a line that gives a type documents none.
-/

namespace DocHints.Docstring

open Text (isBlank)

/-! ## The parts of a field -/

theorem fieldParts?_eq_some {line : List Char} {parts : FieldParts} :
    fieldParts? line = some parts ↔
      line = parts.before ++ ':' :: (parts.head ++ ':' :: parts.after) ∧
        ':' ∉ parts.before ∧ ':' ∉ parts.head := by
  obtain ⟨before, head, after⟩ := parts
  simp only [fieldParts?]
  constructor
  · intro found
    split at found
    · cases found
    · rename_i front rest first
      split at found
      · cases found
      · rename_i head' after' second
        cases found
        obtain ⟨rfl, unseen⟩ := Text.cut?_singleton.mp first
        obtain ⟨rfl, unseen'⟩ := Text.cut?_singleton.mp second
        exact ⟨rfl, unseen, unseen'⟩
  · rintro ⟨rfl, unseen, unseen'⟩
    rw [Text.cut?_singleton.mpr ⟨rfl, unseen⟩]
    simp only
    rw [Text.cut?_singleton.mpr ⟨rfl, unseen'⟩]

/-- A text divided after its first word: blanks, the word, blanks, and the rest. -/
structure WordSplit (chars gap word gap' rest : List Char) : Prop where
  chars_eq : chars = gap ++ (word ++ (gap' ++ rest))
  gap_blank : ∀ c ∈ gap, isBlank c = true
  word_ne : word ≠ []
  word_solid : ∀ c ∈ word, isBlank c = false
  gap_blank' : ∀ c ∈ gap', isBlank c = true
  gap_ne : rest ≠ [] → gap' ≠ []
  rest_solid : ∀ c, rest.head? = some c → isBlank c = false

theorem dropWhile_blank_append {gap rest : List Char}
    (blank : ∀ c ∈ gap, isBlank c = true)
    (solid : ∀ c, rest.head? = some c → isBlank c = false) :
    (gap ++ rest).dropWhile isBlank = rest := by
  rw [List.dropWhile_append_of_pos blank]
  cases rest with
  | nil => rfl
  | cons c rest =>
      have stop := solid c rfl
      simp [stop]

theorem firstWord?_of_split {chars gap word gap' rest : List Char}
    (split : WordSplit chars gap word gap' rest) :
    firstWord? chars = some (word, rest) := by
  obtain ⟨rfl, blank, some_word, solid, blank', some_gap, rest_solid⟩ := split
  have opens : ∀ c, (word ++ (gap' ++ rest)).head? = some c → isBlank c = false := by
    intro c first
    cases word with
    | nil => exact absurd rfl some_word
    | cons d word =>
        cases first
        exact solid _ List.mem_cons_self
  have taken : (word ++ (gap' ++ rest)).takeWhile (fun c => !isBlank c) = word := by
    rw [List.takeWhile_append_of_pos (by simpa using solid)]
    cases gap' with
    | nil =>
        have none_left : rest = [] :=
          Classical.byContradiction fun left => some_gap left rfl
        simp [none_left]
    | cons c gap' => simp [blank' c List.mem_cons_self]
  have nonempty : (word ++ (gap' ++ rest)).isEmpty = false := by simp [some_word]
  simp only [firstWord?, dropWhile_blank_append blank opens, nonempty, taken,
    Bool.false_eq_true, if_false, List.drop_left,
    dropWhile_blank_append blank' rest_solid]

theorem head?_dropWhile {p : Char → Bool} {chars : List Char} {c : Char}
    (first : (chars.dropWhile p).head? = some c) : p c = false := by
  have none_before := List.head?_dropWhile_not p chars
  simpa [first] using none_before

theorem mem_takeWhile {p : Char → Bool} {chars : List Char} :
    ∀ c ∈ chars.takeWhile p, p c = true :=
  List.all_eq_true.mp List.all_takeWhile

theorem split_of_firstWord? {chars word rest : List Char}
    (found : firstWord? chars = some (word, rest)) :
    ∃ gap gap', WordSplit chars gap word gap' rest := by
  simp only [firstWord?] at found
  split at found
  · cases found
  · rename_i nonempty
    cases found
    generalize text_eq : chars.dropWhile isBlank = text at nonempty ⊢
    have parts : text.takeWhile (fun c => !isBlank c) ++
        text.dropWhile (fun c => !isBlank c) =
        text := List.takeWhile_append_dropWhile
    have tail_eq : text.drop (text.takeWhile fun c => !isBlank c).length =
        text.dropWhile fun c => !isBlank c := by
      have dropped :=
        congrArg (List.drop (text.takeWhile fun c => !isBlank c).length) parts
      rw [List.drop_left] at dropped
      exact dropped.symm
    rw [tail_eq]
    generalize tail_def : text.dropWhile (fun c => !isBlank c) = tail at parts
    refine ⟨chars.takeWhile isBlank, tail.takeWhile isBlank, ?_, mem_takeWhile, ?_, ?_,
      mem_takeWhile, ?_, fun c first => head?_dropWhile first⟩
    · rw [List.takeWhile_append_dropWhile, parts, ← text_eq,
        List.takeWhile_append_dropWhile]
    · -- The text opens with a character of its first word.
      cases text with
      | nil => exact absurd rfl nonempty
      | cons c text =>
          have solid : isBlank c = false := head?_dropWhile (by rw [text_eq]; rfl)
          simp [solid]
    · intro c inside
      simpa using mem_takeWhile c inside
    · intro left
      cases tail with
      | nil => exact absurd rfl left
      | cons c tail =>
          have solid : (!isBlank c) = false := head?_dropWhile (by rw [tail_def]; rfl)
          have blank : isBlank c = true := by simpa using solid
          simp [blank]

/-! ## Keyword and argument -/

theorem keywordAndArgument?_eq_some {line keyword argument : String} :
    keywordAndArgument? line = some (keyword, some argument) ↔
      ∃ before head after gap gap', line.toList =
        before ++ ':' :: (head ++ ':' :: after) ∧
        ':' ∉ before ∧ ':' ∉ head ∧ argument ≠ "" ∧
        WordSplit head gap keyword.toList gap' argument.toList := by
  unfold keywordAndArgument?
  constructor
  · intro read
    split at read
    · cases read
    · rename_i parts found
      obtain ⟨shape, unseen, unseen'⟩ := fieldParts?_eq_some.mp found
      split at read
      · cases read
      · cases read
      · rename_i word rest some_rest first
        cases read
        obtain ⟨gap, gap', split⟩ := split_of_firstWord? first
        refine ⟨parts.before, parts.head, parts.after, gap, gap', shape, unseen,
          unseen', ?_, ?_⟩
        · intro empty
          exact some_rest (by simpa using empty)
        · simpa using split
  · rintro ⟨before, head, after, gap, gap', shape, unseen, unseen', some_argument,
      split⟩
    have parts : fieldParts? line.toList = some ⟨before, head, after⟩ :=
      fieldParts?_eq_some.mpr ⟨shape, unseen, unseen'⟩
    obtain ⟨c, rest, spelled⟩ :=
      List.exists_cons_of_ne_nil (show argument.toList ≠
        [] by simpa using some_argument)
    simp only [parts, firstWord?_of_split split, spelled]
    simp [← spelled]

theorem keywordAndArgument?_field {keyword argument : String} (rest : String)
    (some_keyword : keyword ≠ "")
    (solid : ∀ c ∈ keyword.toList, isBlank c = false ∧ c ≠ ':')
    (some_argument : argument ≠ "")
    (opens : ∀ c, argument.toList.head? = some c → isBlank c = false)
    (closed : ':' ∉ argument.toList) :
    keywordAndArgument? (":" ++ keyword ++ " " ++ argument ++ ":" ++ rest) =
      some (keyword, some argument) := by
  rw [keywordAndArgument?_eq_some]
  refine ⟨[], keyword.toList ++ ' ' :: argument.toList, rest.toList, [], [' '], ?_,
    ?_, ?_, some_argument, ?_⟩
  · simp
  · simp
  · simp only [List.mem_append, List.mem_cons, not_or]
    exact ⟨fun inside => (solid _ inside).2 rfl, by decide, closed⟩
  · have blank : isBlank ' ' = true := by decide
    exact ⟨by simp,
      by simp, by simpa using some_keyword, fun c inside => (solid c inside).1, by
        simpa using blank, by simp, opens⟩

theorem argumentOf?_eq_some {line argument : String} :
    argumentOf? line = some argument ↔
      ∃ keyword, keywordAndArgument? line = some (keyword, some argument) := by
  unfold argumentOf?
  constructor
  · intro read
    split at read
    · rename_i keyword argument' found
      cases read
      exact ⟨keyword, found⟩
    · cases read
  · rintro ⟨keyword, found⟩
    simp [found]

theorem isParamLine_iff {line name : String} :
    isParamLine line name = true ↔
      ∃ keyword argument, keywordAndArgument? line = some (keyword, some argument) ∧
        keyword ∈ paramKeywords ∧ namesParam argument name = true := by
  unfold isParamLine
  constructor
  · intro is_param
    split at is_param
    · rename_i keyword argument found
      simp only [Bool.and_eq_true, List.contains_iff_mem] at is_param
      exact ⟨keyword, argument, found, is_param⟩
    · cases is_param
  · rintro ⟨keyword, argument, found, is_keyword, names⟩
    simp [found, is_keyword, names]

/-! ## Names -/

/--
A name that can stand at the end of a field's argument and be told from what is
before it.
-/
structure FieldName (name : String) : Prop where
  nonempty : name ≠ ""
  solid : ∀ c ∈ name.toList, isBlank c = false ∧ c ≠ '*' ∧ c ≠ ':'

/-- A name as parameters have it: besides, without the sign that escapes others. -/
structure PlainName (name : String) : Prop extends FieldName name where
  unescaped : '\\' ∉ name.toList

theorem isBlank_of_isWord {c : Char} (word : Text.isWord c = true) :
    isBlank c = false := by
  have codes : ∀ code ∈ Text.blankRanges.flatMap fun range =>
      List.range' range.1 (range.2 + 1 - range.1), Text.isWord (Char.ofNat code) =
        false := by
    decide +kernel
  apply Bool.eq_false_iff.mpr
  intro blank
  simp only [isBlank, Text.inRanges, List.any_eq_true, Bool.and_eq_true,
    decide_eq_true_eq] at blank
  obtain ⟨range, in_ranges, low, high⟩ := blank
  have other := codes c.toNat
    (List.mem_flatMap.mpr ⟨range, in_ranges, List.mem_range'_1.mpr ⟨low, by omega⟩⟩)
  rw [Char.ofNat_toNat, word] at other
  cases other

theorem PlainName.of_isIdentifier {name : String}
    (identifier : Text.isIdentifier name = true) : PlainName name := by
  have words : name ≠ "" ∧ ∀ c ∈ name.toList, Text.isWord c = true := by
    unfold Text.isIdentifier at identifier
    split at identifier
    · cases identifier
    · rename_i c rest spelled
      simp only [Bool.and_eq_true, List.all_eq_true] at identifier
      refine ⟨fun empty => by simp [empty] at spelled, ?_⟩
      rw [spelled]
      simpa using ⟨identifier.1.1, identifier.2⟩
  have differs : ∀ c ∈ name.toList, ∀ sign, Text.isWord sign = false → c ≠ sign := by
    rintro c inside sign unword rfl
    rw [words.2 c inside] at unword
    cases unword
  refine ⟨⟨words.1, fun c inside => ⟨isBlank_of_isWord (words.2 c inside), ?_, ?_⟩⟩, ?_⟩
  · exact differs c inside '*' (by decide)
  · exact differs c inside ':' (by decide)
  · exact fun inside => differs _ inside '\\' (by decide) rfl

inductive Spelling (name : String) : String → Prop
  | plain : Spelling name name
  | escaped (trailing : Text.endsWith "_" name = true) : Spelling name
    (escapedName name)

theorem toList_escapedName (name : String) :
    (escapedName name).toList = name.toList.dropLast ++ ['\\', '_'] := by
  simp [escapedName]

theorem toList_of_endsWith_underscore {name : String}
    (trailing : Text.endsWith "_" name = true) :
    name.toList = name.toList.dropLast ++ ['_'] := by
  obtain ⟨front, split⟩ := Text.endsWith_iff.mp trailing
  rw [split]
  simp

theorem Spelling.fieldName {name spelled : String} (plain : PlainName name)
    (spelling : Spelling name spelled) : FieldName spelled := by
  cases spelling with
  | plain => exact plain.toFieldName
  | escaped trailing =>
      refine ⟨fun empty => ?_, fun c inside => ?_⟩
      · simpa [toList_escapedName] using congrArg String.toList empty
      · rw [toList_escapedName, List.mem_append] at inside
        cases inside with
        | inl inside => exact plain.solid c (List.dropLast_subset _ inside)
        | inr inside =>
            simp only [List.mem_cons, List.not_mem_nil, or_false] at inside
            obtain rfl | rfl := inside <;> decide

theorem Spelling.unique {first second spelled : String} (plain : PlainName first)
    (plain' : PlainName second) (spelling : Spelling first spelled)
    (spelling' : Spelling second spelled) : first = second := by
  cases spelling with
  | plain =>
      cases spelling' with
      | plain => rfl
      | escaped trailing =>
          exact absurd (by simp [toList_escapedName]) plain.unescaped
  | escaped trailing =>
      generalize same : escapedName first = spelled at spelling'
      cases spelling' with
      | plain => exact absurd (by simp [← same, toList_escapedName]) plain'.unescaped
      | escaped trailing' =>
          have chars := congrArg String.toList same
          rw [toList_escapedName, toList_escapedName, List.append_left_inj] at chars
          apply String.toList_inj.mp
          rw [toList_of_endsWith_underscore trailing,
            toList_of_endsWith_underscore trailing', chars]

theorem namesParam_iff {argument name : String} :
    namesParam argument name = true ↔
      ∃ front mark, mark ∈ starMarks ∧
        argument.toList = front ++ (mark.toList ++ name.toList) ∧
        (front = [] ∨ ∃ front', front = front' ++ [' ']) := by
  simp only [namesParam, Bool.or_eq_true, List.any_eq_true, beq_iff_eq,
    Text.endsWith_iff]
  constructor
  · rintro (⟨mark, is_mark, rfl⟩ | ⟨mark, is_mark, front, split⟩)
    · exact ⟨[], mark, is_mark, by simp, .inl rfl⟩
    · exact ⟨front ++ [' '], mark, is_mark, by simpa using split, .inr ⟨front, rfl⟩⟩
  · rintro ⟨front, mark, is_mark, split, rfl | ⟨front', rfl⟩⟩
    · exact .inl ⟨mark, is_mark, String.toList_inj.mp (by simpa using split)⟩
    · exact .inr ⟨mark, is_mark, front', by simpa using split⟩

theorem front_of_namesParam {argument name : String}
    (names : namesParam argument name = true) :
    ∃ front, argument.toList = front ++ name.toList ∧
      (front = [] ∨ ∃ front' c, front = front' ++ [c] ∧ (c = ' ' ∨ c = '*')) := by
  obtain ⟨front, mark, is_mark, split, ends⟩ := namesParam_iff.mp names
  refine ⟨front ++ mark.toList, by simpa using split, ?_⟩
  simp only [starMarks, List.mem_cons, List.not_mem_nil, or_false] at is_mark
  obtain rfl | rfl | rfl | rfl := is_mark
  · obtain rfl | ⟨front', rfl⟩ := ends
    · exact .inl rfl
    · exact .inr ⟨front', ' ', by simp, .inl rfl⟩
  · exact .inr ⟨front ++ ['\\'], '*', by simp, .inr rfl⟩
  · exact .inr ⟨front ++ ['\\', '*'], '*', by simp, .inr rfl⟩
  · exact .inr ⟨front ++ ['\\', '*', '\\'], '*', by simp, .inr rfl⟩

theorem FieldName.eq_nil_of_front {name : String} (field : FieldName name)
    {front opening rest : List Char} (opens : name.toList = opening ++ rest)
    (ends : front ++ opening = [] ∨
      ∃ front' c, front ++ opening = front' ++ [c] ∧
        (c = ' ' ∨ c = '*')) : opening = [] := by
  obtain empty | ⟨front', c, last, sign⟩ := ends
  · exact (List.append_eq_nil_iff.mp empty).2
  · rcases List.eq_nil_or_concat opening with rfl | ⟨opening', d, rfl⟩
    · rfl
    · rw [List.concat_eq_append, ← List.append_assoc] at last
      have same : [d] = [c] := List.append_inj_right' last rfl
      cases same
      have inside : c ∈ name.toList := by simp [opens]
      have solid := field.solid c inside
      obtain rfl | rfl := sign
      · exact absurd solid.1 (by decide)
      · exact absurd rfl solid.2.1

theorem namesParam_unique {argument first second : String} (field : FieldName first)
    (field' : FieldName second) (names : namesParam argument first = true)
    (names' : namesParam argument second = true) : first = second := by
  obtain ⟨front, split, ends⟩ := front_of_namesParam names
  obtain ⟨front', split', ends'⟩ := front_of_namesParam names'
  rw [split] at split'
  rcases List.append_eq_append_iff.mp split'
      with ⟨opening, rfl, opens⟩ | ⟨opening, rfl, opens⟩
  · cases field.eq_nil_of_front opens ends'
    exact String.toList_inj.mp opens
  · cases field'.eq_nil_of_front opens ends
    exact String.toList_inj.mp opens.symm

theorem isParamLine_unique {line first second : String} (field : FieldName first)
    (field' : FieldName second) (is_param : isParamLine line first = true)
    (is_param' : isParamLine line second = true) : first = second := by
  obtain ⟨keyword, argument, read, -, names⟩ := isParamLine_iff.mp is_param
  obtain ⟨keyword', argument', read', -, names'⟩ := isParamLine_iff.mp is_param'
  rw [read] at read'
  cases read'
  exact namesParam_unique field field' names names'

/-! ## Fields of types -/

theorem toList_typeField (name : String) :
    (typeField name).toList = ':' :: 't' :: 'y' :: 'p' :: 'e' :: ' ' ::
      (name.toList ++ [':', ' ']) := by
  simp [typeField]

theorem firstWord?_type (rest : List Char) :
    firstWord? ('t' :: 'y' :: 'p' :: 'e' :: ' ' :: rest) =
      some ("type".toList, rest.dropWhile isBlank) := by
  have blank : isBlank ' ' = true := by decide
  have t : isBlank 't' = false := by decide
  have y : isBlank 'y' = false := by decide
  have p : isBlank 'p' = false := by decide
  have e : isBlank 'e' = false := by decide
  simp [firstWord?, blank, t, y, p, e]

theorem head_of_opening {line : String} (opening rest : List Char)
    {before head after : List Char} (opens : line.toList = ':' :: (opening ++ rest))
    (shape : line.toList = before ++ ':' :: (head ++ ':' :: after))
    (unseen : ':' ∉ before) (solid : ':' ∉ opening) :
    before = [] ∧ ∃ more, head = opening ++ more := by
  obtain ⟨rfl, same⟩ :=
    Text.eq_of_first_place (by simp) unseen (opens ▸ shape : [] ++ _ = _)
  exact ⟨rfl, Text.front_of_place solid same⟩

theorem keyword_of_type {line keyword argument : String}
    (is_type : Text.startsWith ":type " line = true)
    (read : keywordAndArgument? line = some (keyword, some argument)) :
    keyword = "type" := by
  obtain ⟨before, head, after, gap, gap', shape, unseen, -, -, split⟩ :=
    keywordAndArgument?_eq_some.mp read
  obtain ⟨rest, opens⟩ := Text.startsWith_iff.mp is_type
  obtain ⟨-, more, rfl⟩ :=
    head_of_opening ['t', 'y', 'p', 'e', ' '] rest opens shape unseen (by decide)
  have first := firstWord?_of_split split
  rw [show ['t', 'y', 'p', 'e', ' '] ++ more =
    't' :: 'y' :: 'p' :: 'e' :: ' ' :: more from rfl,
    firstWord?_type, Option.some.injEq, Prod.mk.injEq] at first
  exact String.toList_inj.mp first.1.symm

theorem isParamLine_of_type {line : String}
    (is_type : Text.startsWith ":type " line = true) (other : String) :
    isParamLine line other = false := by
  apply Bool.eq_false_iff.mpr
  intro is_param
  obtain ⟨keyword, argument, read, is_keyword, -⟩ := isParamLine_iff.mp is_param
  rw [keyword_of_type is_type read] at is_keyword
  exact absurd is_keyword (by decide)

theorem isParamLine_of_typeField {line name other : String}
    (is_type : Text.startsWith (typeField name) line = true) :
    isParamLine line other = false := by
  obtain ⟨rest, opens⟩ := Text.startsWith_iff.mp is_type
  apply isParamLine_of_type
  exact Text.startsWith_iff.mpr ⟨name.toList ++ [':', ' '] ++ rest,
    by simp [opens, toList_typeField]⟩

theorem typeField_unique {line first second : String} (closed : ':' ∉ first.toList)
    (closed' : ':' ∉ second.toList)
    (is_type : Text.startsWith (typeField first) line = true)
    (is_type' : Text.startsWith (typeField second) line = true) : first = second := by
  obtain ⟨rest, split⟩ := Text.startsWith_iff.mp is_type
  obtain ⟨rest', split'⟩ := Text.startsWith_iff.mp is_type'
  rw [split, toList_typeField, toList_typeField] at split'
  simp only [List.cons_append, List.append_assoc, List.cons.injEq, true_and,
    List.nil_append] at split'
  exact String.toList_inj.mp (Text.eq_of_first_place closed closed' split').1

end DocHints.Docstring
