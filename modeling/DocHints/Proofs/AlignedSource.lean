import DocHints.Hints.TypeComment
import DocHints.Proofs.Cutting

/-!
# Aligned sources

The source of a definition is aligned before it is read: every line gets at
least the margin of the first line that opens a definition.  Nothing but margins
changes, and what is aligned stays as it is.  The margin of the definition is
then the longest one that the lines share, so that taking the shared margin away
puts the definition at the start of its line.
-/

namespace DocHints

namespace Text

/-! ## Lines -/

theorem unbroken_of_mem_linesOf {s line : String} (inside : line ∈ linesOf s) :
    '\n' ∉ line.toList :=
  not_mem_of_mem_splitAll rfl inside

theorem unlines_linesOf (s : String) : unlines (linesOf s) = s :=
  join_splitAll rfl s

theorem linesOf_unlines_map (s : String) {change : String → String}
    (unbroken : ∀ line, '\n' ∉ line.toList → '\n' ∉ (change line).toList) :
    linesOf (unlines ((linesOf s).map change)) = (linesOf s).map change := by
  have some_line : linesOf s ≠ [] := splitAll_ne_nil "\n" s
  apply splitAll_join rfl (by simpa using some_line)
  intro changed inside
  obtain ⟨line, own, rfl⟩ := List.mem_map.mp inside
  exact unbroken line (unbroken_of_mem_linesOf own)

/-! ## Shared margins -/

theorem prefix_commonStart_iff {front left right : List Char} :
    front <+: commonStart left right ↔ front <+: left ∧ front <+: right := by
  fun_induction commonStart left right generalizing front with
  | case1 c left right ih =>
      cases front with
      | nil => simp
      | cons d front =>
          simp only [List.cons_prefix_cons, ih]
          grind
  | case2 c left d right differs =>
      cases front with
      | nil => simp
      | cons e front => grind
  | case3 left right short =>
      cases front with
      | nil => simp
      | cons c front =>
          cases left with
          | nil => simp
          | cons d left =>
              cases right with
              | nil => simp
              | cons e right => exact (short d left e right rfl rfl).elim

theorem prefix_foldl_commonStart_iff {front first : List Char}
    {margins : List (List Char)} : front <+: margins.foldl commonStart first ↔
      front <+: first ∧ ∀ margin ∈ margins, front <+: margin := by
  induction margins generalizing first with
  | nil => simp
  | cons margin margins ih =>
      rw [List.foldl_cons, ih, prefix_commonStart_iff]
      simp [and_assoc]

/-- The shared margin is the longest one that opens every line with content. -/
theorem prefix_sharedMargin_iff {front : List Char} {lines : List String}
    {line : String} (inside : line ∈ lines) (told : line ≠ "") :
    front <+: sharedMargin lines ↔
      ∀ line ∈ lines, line ≠ "" → front <+: marginOf line := by
  have known :
      marginOf line ∈ (lines.filter fun line => !line.isEmpty).map marginOf := by
    apply List.mem_map_of_mem
    simpa using ⟨inside, told⟩
  have all_margins : (∀ margin ∈ (lines.filter fun line => !line.isEmpty).map marginOf,
      front <+: margin) ↔ ∀ line ∈ lines, line ≠ "" → front <+: marginOf line := by
    rw [List.forall_mem_map]
    simp
  rw [← all_margins, sharedMargin]
  cases margins : (lines.filter fun line => !line.isEmpty).map marginOf with
  | nil =>
      rw [margins] at known
      cases known
  | cons first rest => simp [prefix_foldl_commonStart_iff]

theorem sharedMargin_eq_marginOf {lines : List String} {line : String}
    (inside : line ∈ lines) (told : line ≠ "")
    (least : ∀ other ∈ lines, other ≠ "" → marginOf line <+: marginOf other) :
    sharedMargin lines = marginOf line := by
  have shorter : sharedMargin lines <+: marginOf line :=
    (prefix_sharedMargin_iff inside told).mp (List.prefix_refl _) line inside told
  have longer : marginOf line <+: sharedMargin lines :=
    (prefix_sharedMargin_iff inside told).mpr least
  exact shorter.eq_of_length_le longer.length_le

def withoutMargin (margin : List Char) (line : String) : String :=
  ((dropStart? margin line.toList).map String.ofList).getD line

theorem withoutMargin_append (margin : List Char) (rest : String) :
    withoutMargin margin (String.ofList margin ++ rest) = rest := by
  have dropped : dropStart? margin (margin ++ rest.toList) = some rest.toList :=
    dropStart?_eq_some_iff.mpr rfl
  simp [withoutMargin, dropped]

theorem unbroken_withoutMargin (margin : List Char) {line : String}
    (unbroken : '\n' ∉ line.toList) :
    '\n' ∉ (withoutMargin margin line).toList := by
  cases dropped : dropStart? margin line.toList with
  | none => simpa [withoutMargin, dropped] using unbroken
  | some rest =>
      rw [dropStart?_eq_some_iff.mp dropped, List.mem_append, not_or] at unbroken
      simpa [withoutMargin, dropped] using unbroken.2

theorem linesOf_dedent (s : String) :
    linesOf (dedent s) =
      (linesOf s).map fun line =>
        withoutMargin (sharedMargin ((linesOf s).map emptyIfMarginOnly))
          (emptyIfMarginOnly line) := by
  have opened : dedent s = unlines ((linesOf s).map fun line =>
      withoutMargin (sharedMargin ((linesOf s).map emptyIfMarginOnly))
        (emptyIfMarginOnly line)) := by
    rw [dedent, List.map_map]
    congr 2
    funext line
    rw [Function.comp_apply, withoutMargin]
    cases dropStart? _ _ <;> rfl
  rw [opened]
  apply linesOf_unlines_map
  intro line unbroken
  apply unbroken_withoutMargin
  rw [emptyIfMarginOnly]
  split
  · simp
  · exact unbroken

end Text

namespace Hints

/-! ## Margins -/

theorem withMargin_eq (margin line : String) :
    withMargin margin line =
      if Text.startsWith margin line then line else margin ++ line := by
  cases dropped : Text.dropStart? margin.toList line.toList with
  | none => simp [withMargin, Text.afterStart?, Text.startsWith, dropped]
  | some rest =>
      have own : margin ++ String.ofList rest = line := by
        simp [← String.toList_inj, Text.dropStart?_eq_some_iff.mp dropped]
      simp [withMargin, Text.afterStart?, Text.startsWith, dropped, own]

theorem startsWith_withMargin (margin line : String) :
    Text.startsWith margin (withMargin margin line) = true := by
  rw [withMargin_eq]
  split
  · assumption
  · exact Text.startsWith_iff.mpr ⟨line.toList, String.toList_append⟩

theorem withMargin_of_startsWith {margin line : String}
    (opens : Text.startsWith margin line = true) :
    withMargin margin line = line := by
  rw [withMargin_eq, if_pos opens]

theorem blanksOf_append_trimStart (line : String) :
    blanksOf line ++ Text.trimStart line = line := by
  simp [blanksOf, Text.trimStart, Text.dropStartWhile, ← String.toList_inj]

theorem toList_eq_blanksOf_append (line : String) :
    line.toList = (blanksOf line).toList ++ (Text.trimStart line).toList := by
  rw [← String.toList_append, blanksOf_append_trimStart]

theorem startsWith_blanksOf (line : String) :
    Text.startsWith (blanksOf line) line = true :=
  Text.startsWith_iff.mpr ⟨_, toList_eq_blanksOf_append line⟩

theorem isBlank_of_mem_blanksOf {line : String} {c : Char}
    (inside : c ∈ (blanksOf line).toList) : Text.isBlank c = true := by
  rw [blanksOf, String.toList_ofList] at inside
  exact List.all_eq_true.mp List.all_takeWhile c inside

theorem trimStart_withMargin (definition line : String) :
    Text.trimStart (withMargin (blanksOf definition) line) = Text.trimStart line := by
  rw [withMargin_eq]
  split
  · rfl
  · have dropped : ((blanksOf definition).toList ++ line.toList).dropWhile
        Text.isBlank = line.toList.dropWhile Text.isBlank :=
      List.dropWhile_append_of_pos fun c inside => isBlank_of_mem_blanksOf inside
    rw [Text.trimStart, Text.dropStartWhile, String.toList_append, dropped]
    rfl

theorem isDefinitionLine_withMargin (definition line : String) :
    isDefinitionLine (withMargin (blanksOf definition) line) =
      isDefinitionLine line := by
  rw [isDefinitionLine, trimStart_withMargin, isDefinitionLine]

/-! ## Aligned lines -/

theorem unbroken_withMargin {margin : String} (unbroken : '\n' ∉ margin.toList)
    (line : String) (unbroken_line : '\n' ∉ line.toList) :
    '\n' ∉ (withMargin margin line).toList := by
  rw [withMargin_eq]
  split
  · exact unbroken_line
  · simp [unbroken, unbroken_line]

theorem alignSource_of_undefined {source : String}
    (none_found : (Text.linesOf source).find? isDefinitionLine = none) :
    alignSource source = source := by
  simp [alignSource, none_found]

section

variable {source definition : String}
  (found : (Text.linesOf source).find? isDefinitionLine = some definition)

include found

theorem linesOf_alignSource :
    Text.linesOf (alignSource source) =
      (Text.linesOf source).map (withMargin (blanksOf definition)) := by
  have unbroken : '\n' ∉ (blanksOf definition).toList := by
    intro inside
    apply Text.unbroken_of_mem_linesOf (List.mem_of_find?_eq_some found)
    rw [toList_eq_blanksOf_append]
    exact List.mem_append_left _ inside
  simp only [alignSource, found]
  exact Text.linesOf_unlines_map source (unbroken_withMargin unbroken)

theorem startsWith_of_mem_alignSource {line : String}
    (inside : line ∈ Text.linesOf (alignSource source)) :
    Text.startsWith (blanksOf definition) line = true := by
  rw [linesOf_alignSource found] at inside
  obtain ⟨own, -, rfl⟩ := List.mem_map.mp inside
  exact startsWith_withMargin _ own

theorem find?_alignSource :
    (Text.linesOf (alignSource source)).find? isDefinitionLine = some definition := by
  have same : isDefinitionLine ∘ withMargin (blanksOf definition) =
      isDefinitionLine := by
    funext line
    rw [Function.comp_apply, isDefinitionLine_withMargin]
  rw [linesOf_alignSource found, List.find?_map, same, found, Option.map_some,
    withMargin_of_startsWith (startsWith_blanksOf definition)]

end

theorem alignSource_alignSource (source : String) :
    alignSource (alignSource source) = alignSource source := by
  cases found : (Text.linesOf source).find? isDefinitionLine with
  | none =>
      rw [alignSource_of_undefined found, alignSource_of_undefined found]
  | some definition =>
      -- The second time the same definition is found, and every line opens with
      -- its margin.
      have kept : (Text.linesOf (alignSource source)).map
          (withMargin (blanksOf definition)) =
          Text.linesOf (alignSource source) := by
        rw [List.map_congr_left (g := id), List.map_id]
        intro line inside
        exact withMargin_of_startsWith (startsWith_of_mem_alignSource found inside)
      rw [← Text.unlines_linesOf (alignSource (alignSource source)),
        linesOf_alignSource (find?_alignSource found), kept, Text.unlines_linesOf]

theorem trimStart_alignSource (source : String) :
    (Text.linesOf (alignSource source)).map Text.trimStart =
      (Text.linesOf source).map Text.trimStart := by
  cases found : (Text.linesOf source).find? isDefinitionLine with
  | none => rw [alignSource_of_undefined found]
  | some definition =>
      rw [linesOf_alignSource found, List.map_map]
      exact List.map_congr_left fun line _ => trimStart_withMargin definition line

/-! ## The margin of a definition -/

theorem isBlank_of_isMargin {c : Char} (margin : Text.isMargin c = true) :
    Text.isBlank c = true := by
  rw [Text.isMargin, Bool.or_eq_true, beq_iff_eq, beq_iff_eq] at margin
  rcases margin with rfl | rfl <;> decide

theorem head_trimStart (line : String) :
    ∀ c ∈ (Text.trimStart line).toList.head?, Text.isMargin c = false := by
  intro c first
  rw [Text.trimStart, String.toList_ofList, Text.dropStartWhile] at first
  have stopped := List.head?_dropWhile_not Text.isBlank line.toList
  rw [first] at stopped
  apply Bool.eq_false_iff.mpr
  intro margin
  simp [isBlank_of_isMargin margin] at stopped

theorem prefix_marginOf {margin line : String}
    (spaced : ∀ c ∈ margin.toList, Text.isMargin c = true)
    (opens : Text.startsWith margin line = true) :
    margin.toList <+: Text.marginOf line := by
  obtain ⟨rest, split⟩ := Text.startsWith_iff.mp opens
  rw [Text.marginOf, split, List.takeWhile_append_of_pos spaced]
  exact List.prefix_append _ _

theorem emptyIfMarginOnly_definition {definition : String}
    (opens : isDefinitionLine definition = true) :
    Text.emptyIfMarginOnly definition = definition := by
  have content : ∃ c ∈ (Text.trimStart definition).toList, Text.isMargin c = false := by
    cases chars : (Text.trimStart definition).toList with
    | nil =>
        rw [isDefinitionLine, String.toList_eq_nil_iff.mp chars] at opens
        exact absurd opens (by decide)
    | cons c rest =>
        exact ⟨c, by simp, head_trimStart definition c (by rw [chars]; rfl)⟩
  obtain ⟨c, inside, other⟩ := content
  apply if_neg
  intro only
  have own : c ∈ definition.toList := by
    rw [toList_eq_blanksOf_append]
    exact List.mem_append_right _ inside
  have margin := List.all_eq_true.mp only c own
  rw [other] at margin
  cases margin

section

variable {definition : String}
  (spaced : ∀ c ∈ (blanksOf definition).toList, Text.isMargin c = true)

include spaced

theorem marginOf_eq_blanksOf :
    Text.marginOf definition = (blanksOf definition).toList := by
  have stops : (Text.trimStart definition).toList.takeWhile Text.isMargin = [] := by
    cases chars : (Text.trimStart definition).toList with
    | nil => rfl
    | cons c rest =>
        have first := head_trimStart definition c (by rw [chars]; rfl)
        rw [List.takeWhile_cons_of_neg (by simp [first])]
  rw [Text.marginOf, toList_eq_blanksOf_append, List.takeWhile_append_of_pos spaced,
    stops, List.append_nil]

theorem sharedMargin_eq_blanksOf {s : String} (inside : definition ∈ Text.linesOf s)
    (opens : isDefinitionLine definition = true)
    (aligned : ∀ line ∈ Text.linesOf s, Text.startsWith (blanksOf definition) line =
      true) :
    Text.sharedMargin ((Text.linesOf s).map Text.emptyIfMarginOnly) =
      (blanksOf definition).toList := by
  have told : definition ≠ "" := by
    rintro rfl
    exact absurd opens (by decide)
  have known : definition ∈ (Text.linesOf s).map Text.emptyIfMarginOnly :=
    List.mem_map.mpr ⟨definition, inside, emptyIfMarginOnly_definition opens⟩
  rw [← marginOf_eq_blanksOf spaced]
  apply Text.sharedMargin_eq_marginOf known told
  intro other among content
  obtain ⟨line, own, rfl⟩ := List.mem_map.mp among
  have kept : Text.emptyIfMarginOnly line = line :=
    if_neg fun only => content (if_pos only)
  rw [marginOf_eq_blanksOf spaced, kept]
  exact prefix_marginOf spaced (aligned line own)

end

/--
Aligning a source twice is aligning it once, and changes no line behind its
margin.  Every line opens with the margin of the first definition; if that is
made of spaces and tabs, taking the shared margin away leaves the definition
without any.
-/
theorem alignSource_definition (source : String) :
    alignSource (alignSource source) = alignSource source ∧
    (Text.linesOf (alignSource source)).length = (Text.linesOf source).length ∧
    (Text.linesOf (alignSource source)).map Text.trimStart =
      (Text.linesOf source).map Text.trimStart ∧
    ∀ before definition after, Text.linesOf source = before ++ definition :: after →
      (∀ line ∈ before, isDefinitionLine line = false) →
        isDefinitionLine definition = true →
      (∀ line ∈ Text.linesOf (alignSource source),
        Text.startsWith (blanksOf definition) line = true) ∧
      ((∀ c ∈ (blanksOf definition).toList, Text.isMargin c = true) →
        (Text.linesOf (Text.dedent (alignSource source)))[before.length]? =
          some (Text.trimStart definition)) := by
  have trimmed := trimStart_alignSource source
  have length := congrArg List.length trimmed
  rw [List.length_map, List.length_map] at length
  refine ⟨alignSource_alignSource source, length, trimmed, ?_⟩
  intro before definition after split unopened opens
  have found : (Text.linesOf source).find? isDefinitionLine = some definition := by
    rw [List.find?_eq_some_iff_append]
    exact ⟨opens, before, after, split,
      fun line inside => by simp [unopened line inside]⟩
  have aligned : ∀ line ∈ Text.linesOf (alignSource source),
      Text.startsWith (blanksOf definition) line = true :=
    fun line => startsWith_of_mem_alignSource found
  refine ⟨aligned, ?_⟩
  intro spaced
  have place : (Text.linesOf (alignSource source))[before.length]? =
      some definition := by
    rw [linesOf_alignSource found, split, List.getElem?_map]
    simp [withMargin_of_startsWith (startsWith_blanksOf definition)]
  have shared :=
    sharedMargin_eq_blanksOf spaced (List.mem_of_getElem? place) opens aligned
  rw [Text.linesOf_dedent, List.getElem?_map, place, Option.map_some, shared,
    emptyIfMarginOnly_definition opens]
  have parts :=
    Text.withoutMargin_append (blanksOf definition).toList (Text.trimStart definition)
  rw [String.ofList_toList, blanksOf_append_trimStart] at parts
  rw [parts]

def decoratedSource : String :=
  "  @check(\ntext)\n\n  async def run(\nself):\n\tpass"

theorem alignSource_definition_decorated :
    alignSource (alignSource decoratedSource) = alignSource decoratedSource ∧
    (∀ line ∈ Text.linesOf (alignSource decoratedSource),
      Text.startsWith "  " line = true) ∧
    (Text.linesOf (Text.dedent (alignSource decoratedSource)))[3]? =
      some "async def run(" := by
  obtain ⟨again, -, -, opened⟩ := alignSource_definition decoratedSource
  have lines : Text.linesOf decoratedSource =
      ["  @check(", "text)", ""] ++ "  async def run(" :: ["self):", "\tpass"] := by
    decide
  obtain ⟨aligned, column⟩ := opened _ _ _ lines (by decide) (by decide)
  exact ⟨again, aligned, column (List.all_eq_true.mp (by decide))⟩

end Hints

end DocHints
