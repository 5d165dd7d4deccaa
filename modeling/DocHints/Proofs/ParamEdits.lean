import DocHints.Proofs.ParamLines

/-!
# What giving a type does to the lines

Giving a parameter its type changes the lines in two places.  The line of the
parameter is made ready where it is found, or is new at the end.  Then the field
with the type goes above that line, or takes the place of an existing field
together with the lines that continue it.  `Edit` says this once for a single
parameter; the run over all parameters is a chain of edits.
-/

namespace DocHints.Docstring

/-! ## Reading and changing one line -/

theorem place?_at (before after : Lines) (line : String) :
    place? (before ++ line :: after).length before.length = some before.length := by
  have inside : (before.length : Int) < (before ++ line :: after).length := by
    simp only [List.length_append, List.length_cons]
    omega
  have front : ¬ (before.length : Int) < 0 := by omega
  simp only [place?, if_neg front, inside]
  simp

theorem lineAt_at (before after : Lines) (line : String) :
    lineAt (before ++ line :: after) before.length = .ok line := by
  unfold lineAt
  rw [place?_at]
  simp

theorem setLine_at (before after : Lines) (line changed : String) :
    setLine (before ++ line :: after) before.length changed =
      .ok (before ++ changed :: after) := by
  unfold setLine
  rw [place?_at]
  simp

theorem lineAt_past (lines : Lines) :
    lineAt lines lines.length = .error outOfRange := by
  have front : ¬ (lines.length : Int) < 0 := by omega
  have past : place? lines.length lines.length = none := by
    simp only [place?, if_neg front]
    simp
  simp [lineAt, past]

/-! ## Insertions and removals -/

theorem insertLine_at (before after : Lines) (line : String) :
    insertLine (before ++ after) before.length line = before ++ line :: after := by
  have place : insertPlace (before ++ after).length (before.length : Int) =
      before.length := by
    simp only [insertPlace, List.length_append]
    omega
  simp only [insertLine, place, List.take_left, List.drop_left]

/-- An existing field of a type, with the lines that continue it. -/
def IsTypeBlock (documented : String) (block : Lines) : Prop :=
  ∃ first more, block = first :: more ∧
    Text.startsWith (typeField documented) first = true ∧
    ∀ line ∈ more, isContinuation line = true

structure ExistingType (documented : String) (lines front block below : Lines) :
    Prop where
  lines_eq : lines = front ++ (block ++ below)
  unseen : ∀ line ∈ front, Text.startsWith (typeField documented) line = false
  is_block : IsTypeBlock documented block
  whole : ∀ line, below.head? = some line → isContinuation line = false

theorem exists_existingType {lines : Lines} {documented existing : String}
    (exists_type : existingType? lines documented = some existing) :
    ∃ front block below, ExistingType documented lines front block below := by
  obtain ⟨is_type, front, behind, rfl, unseen⟩ :=
    List.find?_eq_some_iff_append.mp exists_type
  refine ⟨front, existing :: behind.takeWhile isContinuation,
    behind.dropWhile isContinuation, ?_, ?_,
    ⟨existing, _, rfl, is_type, List.all_eq_true.mp List.all_takeWhile⟩, ?_⟩
  · simp
  · simpa using unseen
  · intro line first
    have stop := List.head?_dropWhile_not isContinuation behind
    simpa [first] using stop

theorem ExistingType.removed {lines front block below : Lines} {documented : String}
    (stands : ExistingType documented lines front block below) :
    ∃ existing, existingType? lines documented = some existing ∧
      removeType lines existing = .ok (front ++ below, front.length) := by
  obtain ⟨rfl, unseen, ⟨existing, more, rfl, is_type, indented⟩, whole⟩ := stands
  have place : (front ++ (existing :: more ++ below)).findIdx? (· == existing) =
      some front.length := by
    refine findIdx?_eq_some_append.mpr ⟨front, existing, more ++ below, rfl, rfl,
      by simp, ?_⟩
    intro line inside
    apply beq_eq_false_iff_ne.mpr
    rintro rfl
    have absent := unseen _ inside
    rw [is_type] at absent
    cases absent
  have rest : (more ++ below).dropWhile isContinuation = below := by
    rw [List.dropWhile_append_of_pos indented]
    cases below with
    | nil => rfl
    | cons line below =>
        have stop := whole line rfl
        simp [stop]
  refine ⟨existing,
    List.find?_eq_some_iff_append.mpr ⟨is_type, front, more ++ below, rfl, ?_⟩, ?_⟩
  · simpa using unseen
  · simp only [removeType, place]
    simp [rest]

theorem removeType_existing {lines : Lines} {documented existing : String}
    (exists_type : existingType? lines documented = some existing) :
    ∃ front block rest, lines = front ++ (block ++ rest) ∧
      IsTypeBlock documented block ∧
      removeType lines existing = .ok (front ++ rest, front.length) := by
  obtain ⟨front, block, below, stands⟩ := exists_existingType exists_type
  obtain ⟨first, found, removed⟩ := stands.removed
  rw [exists_type] at found
  cases found
  exact ⟨front, block, below, stands.lines_eq, stands.is_block, removed⟩

theorem isAfter_ne_true {setting : DefaultsSetting}
    (usual : setting = .other false ∨ setting = .style "comma" ∨
      setting = .style "braces") :
    setting.isAfter ≠ .ok true := by
  intro is_after
  obtain rfl | rfl | rfl := usual
  · cases is_after
  · exact absurd (Except.ok.inj is_after) (by decide)
  · exact absurd (Except.ok.inj is_after) (by decide)

theorem insertTypeField_eq_ok {options : FieldOptions} {lines result : Lines}
    {index : Nat} {field : String} {default : Option Value} {annotated : Bool}
    (beside : options.defaults.isAfter ≠ .ok true)
    (done : insertTypeField options lines index field default annotated = .ok result) :
    ∃ extra, result = insertLine lines index (field ++ extra) ∧
      (options.defaults.isOn = false → extra = "") := by
  unfold insertTypeField at done
  cases on : options.defaults.isOn with
  | false =>
      simp only [on, Bool.not_false, if_true] at done
      cases done
      exact ⟨"", by simp, fun _ => rfl⟩
  | true =>
      simp only [on, Bool.not_true, Bool.false_eq_true, if_false] at done
      obtain ⟨text?, -, done⟩ := bind_eq_ok.mp done
      cases text? with
      | none =>
          cases done
          exact ⟨"", by simp, fun _ => rfl⟩
      | some text =>
          obtain ⟨after, is_after, done⟩ := bind_eq_ok.mp done
          cases after with
          | true => exact absurd is_after beside
          | false =>
              cases done
              exact ⟨text, rfl, fun off => by cases off⟩

/-! ## One parameter -/

section Edit

variable (typeText : Value → Except Failure String) (options : FieldOptions)

/--
The field that gives a parameter its type: without defaults, the rendered hint
and no more.
-/
def GivesType (hint : Option Value) (documented field : String) : Prop :=
  Text.startsWith (typeField documented) field = true ∧
    ∀ type, hint = some type → options.defaults.isOn = false →
      ∃ text, typeText type = .ok text ∧ field = typeField documented ++ text

inductive Spot.Ready (spot : Spot) (name : String) (hinted : Bool)
    (lines : Lines) : Prop
  | found (line : String)
      (settled : settleParam lines name hinted =
        .ok (spot.lines, spot.documented, some spot.before.length))
      (lines_eq : lines = spot.before ++ line :: spot.after)
      (line_of : LineOf name spot.before line spot.after)
      (indented : isContinuation spot.own = true → isContinuation line = true)
  | added (settled : settleParam lines name hinted = .ok (lines, spot.documented, none))
      (before_eq : spot.before = lines) (after_eq : spot.after = [])
      (flush : isContinuation spot.own = false)

/-- What giving one parameter its type does to the lines. -/
inductive Edit (name : String) (hint : Option Value) (lines : Lines) : Lines → Prop
  | skip (missing : (locateParam lines name).2.2 = none) : Edit name hint lines lines
  | insert (spot : Spot) (field : String) (of : spot.Of name)
      (ready : spot.Ready name hint.isSome lines)
      (gives : GivesType typeText options hint spot.documented field) :
      Edit name hint lines (spot.before ++ field :: spot.own :: spot.after)
  | replace (spot : Spot) (field : String) (front block rest : Lines)
      (of : spot.Of name) (ready : spot.Ready name hint.isSome lines)
      (gives : GivesType typeText options hint spot.documented field)
      (hinted : hint.isSome = true) (split : spot.lines = front ++ (block ++ rest))
      (is_block : IsTypeBlock spot.documented block) :
      Edit name hint lines (front ++ field :: rest)

end Edit

variable {typeText : Value → Except Failure String} {options : FieldOptions}

theorem startsWith_append (front rest : String) :
    Text.startsWith front (front ++ rest) = true :=
  Text.startsWith_iff.mpr ⟨rest.toList, by simp⟩

theorem startsWith_trans {mark line : String} (extra : String)
    (opens : Text.startsWith mark line = true) :
    Text.startsWith mark (line ++ extra) = true := by
  obtain ⟨rest, split⟩ := Text.startsWith_iff.mp opens
  exact Text.startsWith_iff.mpr ⟨rest ++ extra.toList, by simp [split]⟩

theorem givesType_text {type : Value} {documented text extra : String}
    (rendered : typeText type = .ok text)
    (bare : options.defaults.isOn = false → extra = "") :
    GivesType typeText options (some type) documented
      (typeField documented ++ text ++ extra) := by
  refine ⟨startsWith_trans extra (startsWith_append _ text), fun type' same off => ?_⟩
  cases same
  exact ⟨text, rendered, by simp [bare off]⟩

/-- The type of a parameter goes above its line, or in the place of an existing type. -/
theorem giveType_eq_ok {before after result : Lines} {documented : String}
    {hint default : Option Value} (beside : options.defaults.isAfter ≠ .ok true)
    (done : giveType typeText options (before ++ after) documented before.length
      hint default = .ok result) :
    ∃ field, GivesType typeText options hint documented field ∧
      (result = before ++ field :: after ∨
        hint.isSome = true ∧ ∃ front block rest, before ++ after =
          front ++ (block ++ rest) ∧
          IsTypeBlock documented block ∧ result = front ++ field :: rest) := by
  unfold giveType at done
  cases hint with
  | none =>
      obtain ⟨extra, rfl, -⟩ := insertTypeField_eq_ok beside done
      refine ⟨_, ⟨startsWith_trans extra ?_, fun type none_type => by cases none_type⟩,
        .inl (insertLine_at before after _)⟩
      cases found : existingType? (before ++ after) documented with
      | none => exact Text.startsWith_iff.mpr ⟨[], by simp⟩
      | some existing => exact List.find?_some found
  | some type =>
      simp only at done
      cases found : existingType? (before ++ after) documented with
      | none =>
          simp only [found, pure_bind] at done
          obtain ⟨text, rendered, done⟩ := bind_eq_ok.mp done
          obtain ⟨extra, rfl, bare⟩ := insertTypeField_eq_ok beside done
          exact ⟨_, givesType_text rendered bare, .inl (insertLine_at before after _)⟩
      | some existing =>
          obtain ⟨front, block, rest, split, is_block, removed⟩ :=
            removeType_existing found
          simp only [found, removed] at done
          obtain ⟨⟨lines', place⟩, same, done⟩ := bind_eq_ok.mp done
          cases same
          obtain ⟨text, rendered, done⟩ := bind_eq_ok.mp done
          obtain ⟨extra, rfl, bare⟩ := insertTypeField_eq_ok beside done
          exact ⟨_, givesType_text rendered bare,
            .inr ⟨rfl, front, block, rest, split, is_block, insertLine_at front rest _⟩⟩

theorem documentParam_eq_some {lines lines' : Lines} {name spelled : String}
    {hint : Option Value} {place : Nat} (plain : PlainName name)
    (foremost : Foremost name spelled lines [])
    (added : documentParam options lines spelled hint = (lines', some place)) :
    ∃ own, lines' = lines ++ [own] ∧ place = lines.length ∧ isContinuation own = false ∧
      Spot.Of ⟨lines, own, [], spelled⟩ name := by
  have field := foremost.spelling.fieldName plain
  have spot_of : ∀ own rest, own =
      ":" ++ "param" ++ " " ++ "" ++ spelled ++ ":" ++ rest →
      isContinuation own = false ∧ Spot.Of ⟨lines, own, [], spelled⟩ name := by
    rintro own rest rfl
    refine ⟨isContinuation_of_colon (by simp), ⟨spelled, foremost,
      isParamLine_field rest (by decide) (by decide) field⟩, ?_⟩
    have read : keywordAndArgument?
        (":" ++ "param" ++ " " ++ "" ++ spelled ++ ":" ++ rest) =
        some ("param", some ("" ++ spelled)) :=
      keywordAndArgument?_param rest (by decide) (by decide) field
    rw [String.empty_append] at read
    exact argumentOf?_eq_some.mpr ⟨"param", read⟩
  unfold documentParam at added
  split at added
  · rename_i text described
    cases added
    exact ⟨_, rfl, rfl, spot_of _ (" " ++ text) (String.toList_inj.mp (by simp))⟩
  · split at added
    · cases added
      exact ⟨_, rfl, rfl, spot_of _ "" (String.toList_inj.mp (by simp))⟩
    · cases added

theorem documentParam_eq_none {lines lines' : Lines} {spelled : String}
    {hint : Option Value}
    (skipped : documentParam options lines spelled hint = (lines', none)) :
    lines' = lines := by
  unfold documentParam at skipped
  split at skipped
  · cases skipped
  · split at skipped
    · cases skipped
    · cases skipped
      rfl

theorem edit_of_giveType {spot : Spot} {name : String} {hint default : Option Value}
    {lines result : Lines} (beside : options.defaults.isAfter ≠ .ok true)
    (of : spot.Of name) (ready : spot.Ready name hint.isSome lines)
    (done : giveType typeText options spot.lines spot.documented spot.before.length
      hint default =
      .ok result) : Edit typeText options name hint lines result := by
  obtain ⟨field, gives, rfl | ⟨hinted, front, block, rest, split, is_block, rfl⟩⟩ :=
    giveType_eq_ok beside done
  · exact .insert spot field of ready gives
  · exact .replace spot field front block rest of ready gives hinted split is_block

variable {hints : Annotations}

/--
A parameter is skipped, or it gets its type at the spot of its line, which is
found or new.
-/
theorem injectParam_cases {draft draft' : Draft} {argument : Argument}
    (plain : PlainName argument.name)
    (done : injectParam typeText options hints draft argument = .ok draft') :
    (draft' = draft.inFields ∧
      (locateParam draft.inFields.lines argument.name).2.2 = none) ∨
      ∃ (spot : Spot) (result : Lines), spot.Of argument.name ∧
        spot.Ready argument.name (hint? hints argument.name).isSome
          draft.inFields.lines ∧
        giveType typeText options spot.lines spot.documented spot.before.length
          (hint? hints argument.name) argument.default = .ok result ∧
        draft' = draft.inFields.withLines result := by
  unfold injectParam at done
  obtain ⟨⟨ready, documented, found⟩, settled, done⟩ := bind_eq_ok.mp done
  cases found with
  | some index =>
      obtain ⟨result, given, done⟩ := bind_eq_ok.mp done
      cases done
      obtain ⟨spot, line, of, rfl, rfl, rfl, lines_eq, line_of, indented⟩ :=
        settleParam_eq_some plain settled
      exact .inr ⟨spot, result, of, .found line settled lines_eq line_of indented,
        given, rfl⟩
  | none =>
      obtain ⟨rfl, foremost⟩ := settleParam_eq_none settled
      simp only at done
      rcases added : documentParam options draft.inFields.lines documented
        (hint? hints argument.name) with ⟨lines', place⟩
      rw [added] at done
      cases place with
      | none =>
          cases done
          cases documentParam_eq_none added
          exact .inl ⟨rfl, settleParam_place settled⟩
      | some place =>
          obtain ⟨result, given, done⟩ := bind_eq_ok.mp done
          cases done
          obtain ⟨own, rfl, rfl, flush, of⟩ :=
            documentParam_eq_some plain foremost added
          exact .inr ⟨_, result, of, .added settled rfl rfl flush, given, rfl⟩

theorem injectParam_eq_ok {draft draft' : Draft} {argument : Argument}
    (beside : options.defaults.isAfter ≠ .ok true) (plain : PlainName argument.name)
    (fields : draft.layout = .fields)
    (done : injectParam typeText options hints draft argument = .ok draft') :
    draft'.layout = .fields ∧
      Edit typeText options argument.name (hint? hints argument.name) draft.lines
        draft'.lines := by
  have in_fields : draft.inFields = draft := by simp [Draft.inFields, fields]
  have outcome := injectParam_cases plain done
  rw [in_fields] at outcome
  obtain ⟨rfl, missing⟩ | ⟨spot, result, of, ready, given, rfl⟩ := outcome
  · exact ⟨fields, .skip missing⟩
  · exact ⟨fields, edit_of_giveType beside of ready given⟩

/-! ## All parameters -/

/--
The parameters of a signature as the language has them: identifiers, each used
once.
-/
structure WellNamed (arguments : List Argument) : Prop where
  plain : ∀ argument ∈ arguments, PlainName argument.name
  distinct : arguments.Pairwise fun first second => first.name ≠ second.name

theorem WellNamed.of_identifiers {arguments : List Argument}
    (identifiers : ∀ argument ∈ arguments, Text.isIdentifier argument.name = true)
    (distinct : arguments.Pairwise fun first second => first.name ≠ second.name) :
    WellNamed arguments :=
  ⟨fun argument inside => .of_isIdentifier (identifiers argument inside), distinct⟩

theorem WellNamed.left {earlier later : List Argument}
    (named : WellNamed (earlier ++ later)) : WellNamed earlier where
  plain := fun argument inside => named.plain argument (List.mem_append_left _ inside)
  distinct := (List.pairwise_append.mp named.distinct).1

theorem layout_ofLines {lines : Lines} (no_sections : hasSections lines = false) :
    (Draft.ofLines lines).layout = .fields := by
  simp [Draft.ofLines, Layout.detect, no_sections]

theorem injectParams_append (draft : Draft) (earlier later : List Argument) :
    injectParams typeText options hints draft (earlier ++ later) =
      injectParams typeText options hints draft earlier >>= fun draft' =>
        injectParams typeText options hints draft' later :=
  List.foldlM_append

theorem injectParams_congr {typeText' : Value → Except Failure String} {draft : Draft}
    {arguments : List Argument}
    (same : ∀ entry ∈ hints, typeText entry.2 = typeText' entry.2) :
    injectParams typeText options hints draft arguments =
      injectParams typeText' options hints draft arguments := by
  have step : injectParam typeText options hints =
      injectParam typeText' options hints := by
    funext draft argument
    unfold injectParam giveType
    cases hinted : hint? hints argument.name with
    | none => rfl
    | some type =>
        have known : typeText type = typeText' type := by
          unfold hint? at hinted
          split at hinted
          · rename_i name type' found
            split at hinted
            · cases hinted
            · cases hinted
              exact same _ (List.mem_of_find?_eq_some found)
          · cases hinted
        simp only [known]
  unfold injectParams
  rw [step]

section Visited

variable (typeText options hints)

/--
A parameter is given its type in a draft: the one that its predecessors have
left.
-/
def Visited (draft : Draft) (arguments : List Argument) (argument : Argument)
    (draft' : Draft) : Prop :=
  ∃ earlier later, arguments = earlier ++ argument :: later ∧
    injectParams typeText options hints draft earlier = .ok draft'

end Visited

/--
What holds at the start, and is kept whenever a parameter is given its type,
holds at the end.  The invariant may speak of the parameters that have been
visited.
-/
theorem injectParams_induction {motive : List Argument → Draft → Prop}
    {draft final : Draft} {arguments : List Argument} (start : motive [] draft)
    (step : ∀ earlier argument later draft' draft'', arguments =
      earlier ++ argument :: later →
      injectParams typeText options hints draft earlier = .ok draft' →
        motive earlier draft' →
      injectParam typeText options hints draft' argument = .ok draft'' →
      motive (earlier ++ [argument]) draft'')
    (done : injectParams typeText options hints draft arguments = .ok final) :
    motive arguments final := by
  -- Induct on the parameters still to come; the visited ones stay in the statement.
  suffices from_any : ∀ later earlier draft', arguments = earlier ++ later →
      injectParams typeText options hints draft earlier = .ok draft' →
        motive earlier draft' →
      injectParams typeText options hints draft' later = .ok final →
        motive arguments final from
    from_any arguments [] draft rfl rfl start done
  intro later
  induction later with
  | nil =>
      rintro earlier draft' rfl - holds done
      cases done
      simpa using holds
  | cons argument later ih =>
      intro earlier draft' split visited holds done
      obtain ⟨draft'', given, done⟩ := bind_eq_ok.mp done
      refine ih (earlier ++ [argument]) draft'' (by simp [split]) ?_
        (step earlier argument later draft' draft'' split visited holds given) done
      rw [injectParams_append]
      refine bind_eq_ok.mpr ⟨draft', visited, bind_eq_ok.mpr ⟨draft'', given, rfl⟩⟩

/--
The same for a draft laid out in fields: it stays so, and every parameter makes
an edit.
-/
theorem injectParams_edits {motive : List Argument → Lines → Prop} {draft final : Draft}
    {arguments : List Argument} (beside : options.defaults.isAfter ≠ .ok true)
    (plain : ∀ argument ∈ arguments, PlainName argument.name)
    (fields : draft.layout = .fields) (start : motive [] draft.lines)
    (step : ∀ earlier argument later draft' lines', arguments =
      earlier ++ argument :: later →
      injectParams typeText options hints draft earlier = .ok draft' →
        motive earlier draft'.lines →
      Edit typeText options argument.name (hint? hints argument.name) draft'.lines
        lines' →
      motive (earlier ++ [argument]) lines')
    (done : injectParams typeText options hints draft arguments = .ok final) :
    final.layout = .fields ∧ motive arguments final.lines := by
  refine injectParams_induction
    (motive := fun earlier draft' => draft'.layout = .fields ∧
    motive earlier draft'.lines) ⟨fields, start⟩ ?_ done
  rintro earlier argument later draft' draft'' split visited ⟨fields', holds⟩ given
  obtain ⟨fields'', edit⟩ :=
    injectParam_eq_ok beside (plain argument (by simp [split])) fields' given
  exact ⟨fields'',
    step earlier argument later draft' draft''.lines split visited holds edit⟩

end DocHints.Docstring
