import DocHints.Proofs.DefaultPlacement
import DocHints.Proofs.ResultPlacement

/-!
# Fields that give way

A type that is known takes the place of a type that stands in the docstring.
The old field is a line and the indented lines that directly follow it; the new
one is a line with the type and no more.

The old type of a parameter is sought by the very name that its line documents,
with a colon and a space behind it.  So a type that begins on the next line is
not found, nor one under the other spelling of a trailing underscore, and it
stays beside the new one.  Of the old type of a result only the first line is
taken out, and the lines that continued it continue the new one.
-/

namespace DocHints.Docstring

/-! ## The only field of a kind -/

/--
The only field of a kind among the lines, with the indented lines that directly
follow it.
-/
structure OnlyField (opens : String → Bool) (lines before : Lines) (line : String)
    (more after : Lines) : Prop where
  lines_eq : lines = before ++ line :: (more ++ after)
  is_field : opens line = true
  others : ∀ other ∈ before ++ (more ++ after), opens other = false
  continues : ∀ other ∈ more, isContinuation other = true
  whole : ∀ other, after.head? = some other → isContinuation other = false

section OnlyField

variable {opens : String → Bool}
  {lines before before' more more' after after' : Lines} {line line' : String}

theorem eq_of_first_line (split : before ++ line :: after = before' ++ line' :: after')
    (is_field : opens line = true) (is_field' : opens line' = true)
    (unseen : ∀ other ∈ before, opens other = false)
    (unseen' : ∀ other ∈ before', opens other = false) :
    before = before' ∧ line = line' ∧ after = after' := by
  induction before generalizing before' with
  | nil =>
      cases before' with
      | nil => simpa using split
      | cons first before' =>
          obtain ⟨rfl, -⟩ := List.cons.inj split
          simp [is_field] at unseen'
  | cons first before ih =>
      cases before' with
      | nil =>
          obtain ⟨rfl, -⟩ := List.cons.inj split
          simp [is_field'] at unseen
      | cons first' before' =>
          simp only [List.cons_append, List.cons.injEq] at split
          simp only [List.forall_mem_cons] at unseen unseen'
          obtain ⟨rfl, rest⟩ := ih split.2 unseen.2 unseen'.2
          exact ⟨by rw [split.1], rest⟩

theorem OnlyField.unique (only : OnlyField opens lines before line more after)
    (only' : OnlyField opens lines before' line' more' after') :
    before = before' ∧ more ++ after = more' ++ after' := by
  have split := only.lines_eq.symm.trans only'.lines_eq
  have same := eq_of_first_line split only.is_field only'.is_field
    (fun other inside => only.others other (List.mem_append_left _ inside))
    (fun other inside => only'.others other (List.mem_append_left _ inside))
  exact ⟨same.1, same.2.2⟩

theorem OnlyField.continued_iff (only : OnlyField opens lines before line more after) :
    (∃ before' after', OnlyField opens lines before' line [] after') ↔ more = [] := by
  constructor
  · rintro ⟨before', after', bare⟩
    have rest := (only.unique bare).2
    cases more with
    | nil => rfl
    | cons first more =>
        rw [List.nil_append] at rest
        have flush := bare.whole first (by simp [← rest])
        rw [only.continues first List.mem_cons_self] at flush
        cases flush
  · rintro rfl
    exact ⟨before, after, only⟩

end OnlyField

/-! ## The field of the result -/

theorem startsWith_rtype (type : String) :
    Text.startsWith ":rtype:" (":rtype: " ++ type) = true :=
  startsWith_trans type (by decide)

theorem partingLine_plain (before : Lines) :
    ∀ other ∈ partingLine before, Text.startsWith ":rtype:" other = false := by
  unfold partingLine
  split
  · simp only [List.mem_singleton, forall_eq]
    decide
  · simp

/--
The field of the result that stands in the docstring gives its place to the new
one, and leaves it all the lines that continued it.  So the new one has the type
and no more only if there were none.
-/
theorem result_field_keeps_continuation
    (blocksOf : Lines → Except Failure (List Rest.Block))
    {lines before more after : Lines} {line : String}
    (only : OnlyField (Text.startsWith ":rtype:") lines before line more after)
    (type : String) :
    ∃ vacated place result, returnPlace blocksOf lines = .ok (vacated, place) ∧
      injectReturn vacated type place true = .ok result ∧
      OnlyField (Text.startsWith ":rtype:") result (before ++ partingLine before)
        (":rtype: " ++ type) more after ∧
      ((∃ before' after',
        OnlyField (Text.startsWith ":rtype:") result before' (":rtype: " ++ type) []
          after') ↔ more = []) := by
  have inside : line ∈ lines := by simp [only.lines_eq]
  obtain ⟨before', field, rest, first, placed⟩ :=
    returnPlace_of_field blocksOf inside only.is_field
  obtain ⟨rfl, -, rfl⟩ := eq_of_first_line (first.lines_eq.symm.trans only.lines_eq)
    first.is_field only.is_field first.unseen
    (fun other inside => only.others other (List.mem_append_left _ inside))
  have replaced : OnlyField (Text.startsWith ":rtype:")
      (before' ++ partingLine before' ++ (":rtype: " ++ type) :: (more ++ after))
      (before' ++ partingLine before') (":rtype: " ++ type) more after := by
    refine ⟨rfl, startsWith_rtype type, ?_, only.continues, only.whole⟩
    intro other inside
    rw [List.append_assoc, List.mem_append, List.mem_append] at inside
    rcases inside with above | parting | below
    · exact only.others other (List.mem_append_left _ above)
    · exact partingLine_plain before' other parting
    · exact only.others other (List.mem_append_right _ below)
  exact ⟨_, _, _, placed, injectReturn_own before' (more ++ after) type, replaced,
    replaced.continued_iff⟩

def wrappedResult : Lines :=
  ["Text.", ":rtype: list of", "    int", "", "More."]

theorem result_field_keeps_continuation_wrapped :
    OnlyField (Text.startsWith ":rtype:") wrappedResult ["Text."] ":rtype: list of"
      ["    int"] ["", "More."] ∧
      ∃ vacated place result, returnPlace (fun _ => .ok []) wrappedResult =
        .ok (vacated, place) ∧
        injectReturn vacated "T" place true = .ok result ∧
        OnlyField (Text.startsWith ":rtype:") result
          (["Text."] ++ partingLine ["Text."])
          (":rtype: " ++ "T") ["    int"] ["", "More."] := by
  have only : OnlyField (Text.startsWith ":rtype:") wrappedResult ["Text."]
      ":rtype: list of" ["    int"] ["", "More."] := by
    refine ⟨rfl, by decide, by decide, by decide, ?_⟩
    rintro other first
    cases first
    decide
  obtain ⟨vacated, place, result, placed, done, kept, -⟩ :=
    result_field_keeps_continuation (fun _ => .ok []) only "T"
  exact ⟨only, vacated, place, result, placed, done, kept⟩

/-! ## The type of a parameter -/

/--
A documented name with its trailing underscore, if it has one, spelled in the
other way.
-/
def respelled (documented : String) : String :=
  if Text.endsWith "\\_" documented then
    String.ofList documented.toList.dropLast.dropLast ++ "_"
  else if Text.endsWith "_" documented then escapedName documented
  else documented

def isTypeLine (documented line : String) : Bool :=
  [documented, respelled documented].any fun name =>
    Text.startsWith (":type " ++ name ++ ":") line

section TypeLines

variable {documented line : String}

theorem startsWith_type (is_type : isTypeLine documented line = true) :
    Text.startsWith ":type " line = true := by
  obtain ⟨name, -, opens⟩ := List.any_eq_true.mp is_type
  obtain ⟨rest, split⟩ := Text.startsWith_iff.mp opens
  exact Text.startsWith_iff.mpr ⟨name.toList ++ ':' :: rest, by simp [split]⟩

theorem isTypeLine_of_isParamLine {name : String}
    (is_param : isParamLine line name = true) :
    isTypeLine documented line = false := by
  apply Bool.eq_false_iff.mpr
  intro is_type
  rw [isParamLine_of_type (startsWith_type is_type) name] at is_param
  cases is_param

theorem isTypeLine_of_typeField
    (is_field : Text.startsWith (typeField documented) line = true) :
    isTypeLine documented line = true := by
  obtain ⟨rest, split⟩ := Text.startsWith_iff.mp is_field
  apply List.any_eq_true.mpr
  refine ⟨documented, by simp, Text.startsWith_iff.mpr ⟨' ' :: rest, ?_⟩⟩
  simp [split, toList_typeField]

theorem isTypeLine_typeField (documented text : String) :
    isTypeLine documented (typeField documented ++ text) = true :=
  isTypeLine_of_typeField (startsWith_append _ text)

end TypeLines

def typeLines (documented : String) (lines : Lines) : Lines :=
  lines.filter (isTypeLine documented)

section Replaced

variable {typeText : Value → Except Failure String} {options : FieldOptions}
  {hints : Annotations} {documented text : String}
  {lines before after front block below : Lines} {line own : String}

theorem typeLines_eq_nil :
    typeLines documented lines = [] ↔
      ∀ line ∈ lines, isTypeLine documented line = false := by
  simp [typeLines]

theorem typeLines_around (line_plain : isTypeLine documented line = false)
    (own_plain : isTypeLine documented own = false) :
    typeLines documented (before ++ line :: after) =
      typeLines documented (before ++ own :: after) := by
  simp [typeLines, line_plain, own_plain]

/--
The lines hold one type for a parameter, the given text, and no line continues
it.
-/
def HoldsOnlyType (documented text : String) (lines : Lines) : Prop :=
  ∃ before after, OnlyField (isTypeLine documented) lines before
    (typeField documented ++ text) [] after

theorem holdsOnlyType_iff :
    HoldsOnlyType documented text (front ++ (typeField documented ++ text) :: below) ↔
      typeLines documented (front ++ below) = [] ∧
        ∀ other, below.head? = some other → isContinuation other = false := by
  have is_field := isTypeLine_typeField documented text
  constructor
  · rintro ⟨before, after, only⟩
    have alone : typeLines documented (before ++ after) = [] :=
      typeLines_eq_nil.mpr only.others
    have none_else : typeLines documented (front ++ below) = [] := by
      have types := congrArg (typeLines documented) only.lines_eq
      have lengths := congrArg List.length types
      apply List.length_eq_zero_iff.mp
      simp only [typeLines, List.filter_append, List.filter_cons_of_pos is_field,
        List.length_append, List.length_cons, List.append_eq_nil_iff,
        List.nil_append] at alone lengths ⊢
      simp only [alone, List.length_nil] at lengths
      omega
    have unseen := typeLines_eq_nil.mp none_else
    have same := eq_of_first_line only.lines_eq is_field is_field
      (fun other inside => unseen other (List.mem_append_left _ inside))
      (fun other inside => only.others other (List.mem_append_left _ inside))
    refine ⟨none_else, ?_⟩
    rw [same.2.2]
    exact only.whole
  · rintro ⟨none_else, flush⟩
    exact ⟨front, below, rfl, is_field, typeLines_eq_nil.mp none_else, by simp, flush⟩

theorem insertTypeField_off (off : options.defaults.isOn = false) (lines : Lines)
    (index : Nat) (field : String) (default : Option Value) (annotated : Bool) :
    insertTypeField options lines index field default annotated =
      .ok (insertLine lines index field) := by
  simp [insertTypeField, off]
  rfl

theorem giveType_replaces {type : Value} {default : Option Value} {index : Nat}
    (off : options.defaults.isOn = false) (rendered : typeText type = .ok text)
    (stands : ExistingType documented lines front block below) :
    giveType typeText options lines documented index (some type) default =
      .ok (front ++ (typeField documented ++ text) :: below) := by
  rw [giveType_of_existing stands, typeLine, rendered]
  change insertTypeField options _ _ _ _ _ = _
  rw [insertTypeField_off off, insertLine_at]

theorem giveType_above {type : Value} {default : Option Value}
    (off : options.defaults.isOn = false) (rendered : typeText type = .ok text)
    (missing : existingType? (before ++ after) documented = none) :
    giveType typeText options (before ++ after) documented before.length (some type)
      default = .ok (before ++ (typeField documented ++ text) :: after) := by
  rw [giveType_of_free (.inr missing), typeLine, rendered]
  change insertTypeField options _ _ _ _ _ = _
  rw [insertTypeField_off off, insertLine_at]

theorem holdsOnlyType_of_existing
    (stands : ExistingType documented lines front block below)
    (single : (typeLines documented lines).length ≤ 1) :
    HoldsOnlyType documented text (front ++ (typeField documented ++ text) :: below) ∧
      ∃ old, typeLines documented lines = [old] ∧
        Text.startsWith (typeField documented) old = true := by
  obtain ⟨rfl, -, ⟨old, more, rfl, is_field, -⟩, whole⟩ := stands
  have is_type := isTypeLine_of_typeField is_field
  have parts : typeLines documented (front ++ (old :: more ++ below)) =
      typeLines documented front ++ old :: (typeLines documented more ++
        typeLines documented below) := by
    simp [typeLines, is_type]
  simp only [parts, List.length_append, List.length_cons] at single
  have above : typeLines documented front = [] := List.length_eq_zero_iff.mp (by omega)
  have within : typeLines documented more = [] := List.length_eq_zero_iff.mp (by omega)
  have under : typeLines documented below = [] := List.length_eq_zero_iff.mp (by omega)
  constructor
  · refine holdsOnlyType_iff.mpr ⟨?_, whole⟩
    simpa [typeLines] using And.intro above under
  · exact ⟨old, by rw [parts, above, within, under]; rfl, is_field⟩

theorem holdsOnlyType_above_iff
    (missing : existingType? (before ++ own :: after) documented = none) :
    HoldsOnlyType documented text
      (before ++ (typeField documented ++ text) :: own :: after) ↔
      (∀ old ∈ typeLines documented (before ++ own :: after),
        Text.startsWith (typeField documented) old = true) ∧
      (isContinuation own = true →
        typeLines documented (before ++ own :: after) ≠ []) := by
  have unfound : (∀ old ∈ typeLines documented (before ++ own :: after),
      Text.startsWith (typeField documented) old = true) ↔
        typeLines documented (before ++ own :: after) = [] := by
    constructor
    · intro all_found
      apply List.eq_nil_iff_forall_not_mem.mpr
      intro old is_type
      exact List.find?_eq_none.mp missing old (List.mem_filter.mp is_type).1
        (all_found old is_type)
    · intro empty
      simp [empty]
  rw [holdsOnlyType_iff, unfound]
  apply and_congr_right
  intro empty
  simp [empty]

/--
A parameter with a line and a hint gets the hint as its type, in the place of
the old type if that is found, and else above the line.  If the docstring has at
most one type for it, the hint is the only one that is left, with no line that
continues it, exactly if the old type is found by the name that the line
documents, a colon and a space; and, where there is no old type, if the line of
the parameter is not indented.
-/
theorem old_type_gone_iff {draft : Draft} {argument : Argument} {type : Value}
    {index : Nat} (off : options.defaults.isOn = false)
    (plain : PlainName argument.name)
    (hinted : hint? hints argument.name = some type)
    (rendered : typeText type = .ok text)
    (found : (locateParam draft.inFields.lines argument.name).2.2 = some index) :
    ∃ (spot : Spot) (line : String), spot.Of argument.name ∧
      index = spot.before.length ∧
      draft.inFields.lines = spot.before ++ line :: spot.after ∧
      settleParam draft.inFields.lines argument.name true =
        .ok (spot.lines, spot.documented, some index) ∧
      ∃ result, injectParam typeText options hints draft argument =
          .ok (draft.inFields.withLines result) ∧
        (∀ front block below,
          ExistingType spot.documented spot.lines front block below →
          result = front ++ (typeField spot.documented ++ text) :: below) ∧
        (existingType? spot.lines spot.documented = none →
          result = spot.before ++ (typeField spot.documented ++ text) :: spot.own ::
            spot.after) ∧
        ((typeLines spot.documented draft.inFields.lines).length ≤ 1 →
          (HoldsOnlyType spot.documented text result ↔
            (∀ old ∈ typeLines spot.documented draft.inFields.lines,
              Text.startsWith (typeField spot.documented) old = true) ∧
            (isContinuation spot.own = true →
              typeLines spot.documented draft.inFields.lines ≠ []))) := by
  obtain ⟨ready, documented, settled⟩ := exists_settleParam plain found true
  obtain ⟨spot, line, of, rfl, rfl, rfl, lines_eq, ⟨spelled, -, is_param⟩, -⟩ :=
    settleParam_eq_some plain settled
  obtain ⟨spelled', -, is_param'⟩ := of.line_of
  -- The line of the parameter opens no type, before and after it is made ready.
  have types : typeLines spot.documented draft.inFields.lines =
      typeLines spot.documented spot.lines := by
    rw [lines_eq]
    exact typeLines_around (isTypeLine_of_isParamLine is_param)
      (isTypeLine_of_isParamLine is_param')
  have given : injectParam typeText options hints draft argument =
      (giveType typeText options spot.lines spot.documented spot.before.length
        (some type) argument.default).map draft.inFields.withLines := by
    have settled' : settleParam draft.inFields.lines argument.name
        (hint? hints argument.name).isSome =
          .ok (spot.lines, spot.documented, some spot.before.length) := by
      rw [hinted]
      exact settled
    rw [injectParam_of_settled typeText options settled', hinted]
  refine ⟨spot, line, of, rfl, lines_eq, settled, ?_⟩
  rw [types, given]
  cases existing : existingType? spot.lines spot.documented with
  | some first =>
      obtain ⟨front, block, below, stands⟩ := exists_existingType existing
      refine ⟨_, by rw [giveType_replaces off rendered stands]; rfl, ?_, nofun, ?_⟩
      · intro front' block' below' stands'
        have done : giveType typeText options spot.lines spot.documented 0
            (some type) none =
            .ok (front' ++ (typeField spot.documented ++ text) :: below') :=
          giveType_replaces off rendered stands'
        rw [giveType_replaces off rendered stands] at done
        exact Except.ok.inj done
      · intro single
        obtain ⟨replaced, old, types, is_field⟩ :=
          holdsOnlyType_of_existing stands single
        rw [types]
        exact iff_of_true replaced ⟨by simpa using is_field, by simp⟩
  | none =>
      refine ⟨_, by rw [Spot.lines,
        giveType_above off rendered existing]; rfl, ?_, fun _ => rfl, fun _ =>
          holdsOnlyType_above_iff existing⟩
      intro front block below stands
      obtain ⟨old, exists_type, -⟩ := stands.removed
      rw [existing] at exists_type
      cases exists_type

end Replaced

end DocHints.Docstring

namespace DocHints.Document

open Docstring

def wrappedType : Lines :=
  [":type x: list of", "    int", ":param x: it"]

theorem old_type_gone_iff_wrapped :
    typeLines "x" wrappedType = [":type x: list of"] ∧
      ∃ result, injectParam (roleText {}) ⟨false, .other false⟩ (noneHints ["x"])
          (Draft.ofLines wrappedType) ⟨"x", none⟩ =
            .ok ((Draft.ofLines wrappedType).inFields.withLines result) ∧
        HoldsOnlyType "x" (Markup.typeRole ":py:obj:`None`") result := by
  have types : typeLines "x" wrappedType = [":type x: list of"] := by decide
  have in_fields : (Draft.ofLines wrappedType).inFields.lines = wrappedType := by
    decide +kernel
  have settled : settleParam wrappedType "x" true = .ok (wrappedType, "x", some 2) :=
    eq_ok_of_toOption (by decide +kernel)
  have off : (⟨false, .other false⟩ : FieldOptions).defaults.isOn = false := rfl
  have hinted : hint? (noneHints ["x"]) (⟨"x", none⟩ : Argument).name =
      some .noneType := rfl
  have found : (locateParam (Draft.ofLines wrappedType).inFields.lines
      (⟨"x", none⟩ : Argument).name).2.2 = some 2 := by decide +kernel
  obtain ⟨spot, -, -, -, -, settled', result, done, -, -, only_iff⟩ :=
    old_type_gone_iff off (.of_isIdentifier (by decide +kernel)) hinted
      roleText_noneType found
  rw [in_fields] at settled' only_iff
  have documented : spot.documented = "x" := by
    have same := settled.symm.trans settled'
    simp only [Except.ok.injEq, Prod.mk.injEq] at same
    exact same.2.1.symm
  rw [documented, types] at only_iff
  refine ⟨types, result, done,
    (only_iff (by decide)).mpr ⟨by decide, fun _ => by decide⟩⟩

/--
A type that begins on the next line, and one under a name that is escaped where
it is documented, stay beside the new type.
-/
theorem old_type_stays :
    typeLines "x" [":param x: d", ":type x:", "    int"] = [":type x:"] ∧
      injectParams (roleText {}) ⟨false, .other false⟩ (noneHints ["x"])
          (Draft.ofLines [":param x: d", ":type x:", "    int"]) [⟨"x", none⟩] =
        .ok ⟨.fields,
          [":type x: " ++ Markup.typeRole ":py:obj:`None`", ":param x: d",
            ":type x:", "    int"]⟩ ∧
      typeLines "x\\_" [":param x_: d", ":type x_: int"] = [":type x_: int"] ∧
      injectParams (roleText {}) ⟨false, .other false⟩ (noneHints ["x_"])
          (Draft.ofLines [":param x_: d", ":type x_: int"]) [⟨"x_", none⟩] =
        .ok ⟨.fields,
          [":type x\\_: " ++ Markup.typeRole ":py:obj:`None`", ":param x\\_: d",
            ":type x_: int"]⟩ := by
  rw [injectParams_noneHints, injectParams_noneHints]
  exact ⟨by decide, eq_ok_of_toOption (by decide +kernel), by decide,
    eq_ok_of_toOption (by decide +kernel)⟩

/-- The second line of an old field for the result continues the new one. -/
theorem result_continuation_stays :
    givesNoneWith true [":rtype: list of", "    int"] =
        .ok ⟨.fields, [":rtype: " ++ Markup.typeRole ":py:obj:`None`", "    int"]⟩ ∧
      isContinuation "    int" = true := by
  rw [givesNoneWith_eq]
  exact ⟨eq_ok_of_toOption (by decide +kernel), by decide⟩

end DocHints.Document
