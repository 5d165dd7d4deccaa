import DocHints.Proofs.TypePlacement

/-!
# Defaults at the ends of descriptions

A default that goes to the end of a description is appended to a field: to the
last of its lines that has content.  The field is sought below the place where
the type goes.  That is the field of the parameter, unless an existing type
gives way: then it is whatever stands below that type, and a docstring may end
there.
-/

namespace DocHints.Docstring

/-! ## The end of a field -/

section FieldEnd

variable (blank indented : String → Bool)

/-- A part of a field, its last line with content, and the blank lines after that. -/
structure FieldPart (first : String) (seen body : Lines) (last : String)
    (blanks : Lines) : Prop where
  split : first :: seen = body ++ last :: blanks
  continues : ∀ line ∈ seen, blank line = true ∨ indented line = true
  content : body = [] ∨ blank last = false
  blank_after : ∀ line ∈ blanks, blank line = true

/-- The last line with content of the field that begins with `first`. -/
structure FieldEnd (first : String) (after body : Lines) (last : String)
    (blanks rest : Lines) : Prop where
  part : ∃ seen, after = seen ++ rest ∧
    FieldPart blank indented first seen body last blanks
  stops : ∀ line, rest.head? = some line → blank line = false ∧ indented line = false

end FieldEnd

section Scan

variable {blank indented : String → Bool} {first last line : String}
  {seen body blanks : Lines}

theorem FieldPart.start (blank indented : String → Bool) (first : String) :
    FieldPart blank indented first [] [] first [] where
  split := rfl
  continues := by simp
  content := .inl rfl
  blank_after := by simp

theorem forall_mem_concat {P : String → Prop} {lines : Lines}
    (all : ∀ line ∈ lines, P line) (also : P line) :
    ∀ other ∈ lines ++ [line], P other := by
  intro other inside
  simp only [List.mem_append, List.mem_cons, List.not_mem_nil, or_false] at inside
  obtain within | rfl := inside
  · exact all other within
  · exact also

theorem FieldPart.blank_line
    (part : FieldPart blank indented first seen body last blanks)
    (is_blank : blank line = true) :
    FieldPart blank indented first (seen ++ [line]) body last (blanks ++ [line]) where
  split := by
    rw [← List.cons_append, part.split]
    simp
  continues := forall_mem_concat part.continues (.inl is_blank)
  content := part.content
  blank_after := forall_mem_concat part.blank_after is_blank

theorem FieldPart.indented_line
    (part : FieldPart blank indented first seen body last blanks)
    (is_indented : indented line = true) (has_content : blank line = false) :
    FieldPart blank indented first (seen ++ [line]) (body ++ last :: blanks) line
      [] where
  split := by
    rw [← List.cons_append, part.split]
  continues := forall_mem_concat part.continues (.inr is_indented)
  content := .inr has_content
  blank_after := by simp

theorem fieldEnd_cons {front rest : Lines} {found : Int} {fuel : Nat} :
    fieldEnd (front ++ line :: rest) front.length found (fuel + 1) =
      if line.isEmpty then
        fieldEnd (front ++ line :: rest) (front ++ [line]).length found fuel
      else if Text.startsWith " " line then
        fieldEnd (front ++ line :: rest) (front ++ [line]).length front.length fuel
      else .ok found := by
  have inside : (front.length : Int) < (front ++ line :: rest).length := by
    simp only [List.length_append, List.length_cons]
    omega
  have next : ((front ++ [line]).length : Int) = (front.length : Int) + 1 := by simp
  simp only [fieldEnd, if_pos inside, lineAt_at, next]

theorem fieldEnd_from (before : Lines) {rest : Lines}
    (part : FieldPart String.isEmpty (Text.startsWith " ") first seen body last blanks)
    {fuel : Nat} (enough : rest.length ≤ fuel) :
    ∃ body' last' blanks' rest',
      FieldEnd String.isEmpty (Text.startsWith " ") first (seen ++ rest) body' last'
        blanks' rest' ∧
      fieldEnd (before ++ (first :: seen) ++ rest) (before ++ first :: seen).length
        (before ++ body).length fuel = .ok ((before ++ body').length : Int) := by
  -- Induct on the lines still to be seen; the part that is scanned grows line by line.
  induction rest generalizing seen body last blanks fuel with
  | nil =>
      refine ⟨body, last, blanks, [], ⟨⟨seen, rfl, part⟩, by simp⟩, ?_⟩
      cases fuel with
      | zero => rfl
      | succ fuel => simp [fieldEnd]
  | cons line rest ih =>
      cases fuel with
      | zero => simp at enough
      | succ fuel =>
          have enough' : rest.length ≤ fuel := by simpa using enough
          rw [fieldEnd_cons]
          have regroup : before ++ first :: seen ++ line :: rest =
              before ++ first :: (seen ++ [line]) ++ rest := by simp
          have grown : before ++ first :: seen ++ [line] =
              before ++ first :: (seen ++ [line]) := by
            simp
          rw [regroup, grown]
          cases is_blank : line.isEmpty with
          | true =>
              obtain ⟨body', last', blanks', rest', ends, found⟩ :=
                ih (part.blank_line is_blank) enough'
              exact ⟨body', last', blanks', rest',
                by simpa using ends, by simpa using found⟩
          | false =>
              cases is_indented : Text.startsWith " " line with
              | true =>
                  obtain ⟨body', last', blanks', rest', ends, found⟩ :=
                    ih (part.indented_line is_indented is_blank) enough'
                  refine ⟨body', last', blanks', rest', by simpa using ends, ?_⟩
                  rw [part.split]
                  simpa using found
              | false =>
                  refine ⟨body, last, blanks, line :: rest, ⟨⟨seen, rfl, part⟩, ?_⟩,
                    by simp⟩
                  rintro other first_other
                  cases first_other
                  exact ⟨is_blank, is_indented⟩

end Scan

/-- A text is appended to the field that begins with `first`, where the field ends. -/
def AppendedTo (blank indented : String → Bool) (text first : String)
    (after result : Lines) : Prop :=
  ∃ body last blanks rest, FieldEnd blank indented first after body last blanks rest ∧
    result = body ++ (last ++ text) :: (blanks ++ rest)

/--
A line that has content if it is not empty, and that is indented by a space if
at all.
-/
def Spaced (line : String) : Prop :=
  Text.isVacant line = line.isEmpty ∧ isContinuation line = Text.startsWith " " line

theorem FieldPart.of_spaced {first last : String} {seen body blanks : Lines}
    (part : FieldPart String.isEmpty (Text.startsWith " ") first seen body last blanks)
    (spaced : ∀ line ∈ seen, Spaced line) :
    FieldPart Text.isVacant isContinuation first seen body last blanks := by
  -- All lines of the part but the first are among those seen.
  have within : body = [] ∧ seen = blanks ∨
      ∃ body', seen = body' ++ last :: blanks := by
    have split := part.split
    cases body with
    | nil => exact .inl ⟨rfl, (List.cons.inj split).2⟩
    | cons line body => exact .inr ⟨body, (List.cons.inj split).2⟩
  refine ⟨part.split, fun line inside => ?_, ?_, fun line inside => ?_⟩
  · rw [(spaced line inside).1, (spaced line inside).2]
    exact part.continues line inside
  · obtain ⟨alone, -⟩ | ⟨body', seen_eq⟩ := within
    · exact .inl alone
    · rw [(spaced last (by simp [seen_eq])).1]
      exact part.content
  · have seen_line : line ∈ seen := by
      obtain ⟨-, rfl⟩ | ⟨body', rfl⟩ := within
      · exact inside
      · simp [inside]
    rw [(spaced line seen_line).1]
    exact part.blank_after line inside

theorem AppendedTo.of_spaced {text first : String} {after result : Lines}
    (appended : AppendedTo String.isEmpty (Text.startsWith " ") text first after result)
    (spaced : ∀ line ∈ after, Spaced line) :
    AppendedTo Text.isVacant isContinuation text first after result := by
  obtain ⟨body, last, blanks, rest, ⟨⟨seen, rfl, part⟩, stops⟩, rfl⟩ := appended
  refine ⟨body, last, blanks, rest, ⟨⟨seen, rfl, part.of_spaced fun line inside =>
    spaced line (List.mem_append_left _ inside)⟩, fun line first => ?_⟩, rfl⟩
  have rest_line := spaced line (List.mem_append_right _ (List.mem_of_mem_head? first))
  rw [rest_line.1, rest_line.2]
  exact stops line first

theorem appendDefault_at (before after : Lines) (first text : String) :
    ∃ ended, AppendedTo String.isEmpty (Text.startsWith " ") text first after ended ∧
      appendDefault (before ++ first :: after) before.length text =
        .ok (before ++ ended) := by
  have fuel : after.length ≤
      (((before ++ first :: after).length : Int) - (before.length : Int)).toNat := by
    simp only [List.length_append, List.length_cons]
    omega
  obtain ⟨body, last, blanks, rest, ends, found⟩ := fieldEnd_from before
    (FieldPart.start String.isEmpty (Text.startsWith " ") first) fuel
  rw [List.nil_append] at ends
  refine ⟨_, ⟨body, last, blanks, rest, ends, rfl⟩, ?_⟩
  obtain ⟨⟨seen, rfl, part⟩, -⟩ := ends
  have split : before ++ first :: (seen ++ rest) =
      (before ++ body) ++ last :: (blanks ++ rest) := by
    rw [← List.cons_append, part.split]
    simp
  have found' : fieldEnd (before ++ first :: (seen ++ rest)) ((before.length : Int) + 1)
      before.length
        (((before ++ first ::
          (seen ++ rest)).length : Int) - (before.length : Int)).toNat =
        .ok ((before ++ body).length : Int) := by
    simpa using found
  refine bind_eq_ok.mpr ⟨_, found', ?_⟩
  rw [split, lineAt_at]
  refine (setLine_at _ _ _ _).trans ?_
  simp

theorem appendDefault_past (lines : Lines) (text : String) :
    appendDefault lines lines.length text = .error outOfRange := by
  have ends : fieldEnd lines ((lines.length : Int) + 1) lines.length
      ((lines.length : Int) - lines.length).toNat = .ok (lines.length : Int) := by
    simp [fieldEnd]
  calc appendDefault lines lines.length text
      = fieldEnd lines ((lines.length : Int) + 1) lines.length
          ((lines.length : Int) - lines.length).toNat >>= fun last =>
            lineAt lines last >>= fun line => setLine lines last (line ++ text) := rfl
    _ = lineAt lines lines.length >>= fun line =>
      setLine lines lines.length (line ++ text) := by
        rw [ends]
        rfl
    _ = .error outOfRange := by
        rw [lineAt_past]
        rfl

/-! ## The default of a parameter -/

def defaultNote (v : Value) : String :=
  " (default: " ++ literalText v ++ ")"

def typeLine (typeText : Value → Except Failure String) (documented : String)
    (existing : Option String) : Option Value → Except Failure String
  | none => .ok (existing.getD (typeField documented))
  | some type => (typeText type).map (typeField documented ++ ·)

section Default

variable {typeText : Value → Except Failure String} {options : FieldOptions}
  {hints : Annotations} {lines : Lines} {documented : String} {v : Value}

theorem insertTypeField_after {index : Nat} {field : String} {annotated : Bool}
    (style : options.defaults = .style "braces-after") :
    insertTypeField options lines index field (some v) annotated =
      (appendDefault lines index (defaultNote v)).map fun lines' =>
        insertLine lines' index field := by
  have is_after : options.defaults.isAfter = .ok true := by
    rw [style]
    rfl
  have told : formatDefault options.defaults (some v) annotated =
      .ok (some (defaultNote v)) := by
    rw [style]
    cases annotated <;> rfl
  have on : options.defaults.isOn = true := by
    rw [style]
    rfl
  unfold insertTypeField
  simp only [on, told, is_after]
  change (appendDefault lines index (defaultNote v) >>= fun lines' =>
    .ok (insertLine lines' index field)) = _
  cases appendDefault lines index (defaultNote v) <;> rfl

theorem giveType_of_free {index : Nat} {hint default : Option Value}
    (free : hint = none ∨ existingType? lines documented = none) :
    giveType typeText options lines documented index hint default =
      typeLine typeText documented (existingType? lines documented) hint >>=
        fun field =>
        insertTypeField options lines index field default
          (hint.isSome || (existingType? lines documented).isSome) := by
  unfold giveType
  cases hint with
  | none => rfl
  | some type =>
      have missing := free.resolve_left (by simp)
      simp only [missing, typeLine]
      cases typeText type <;> rfl

theorem giveType_of_existing {front block below : Lines} {index : Nat} {type : Value}
    {default : Option Value}
    (stands : ExistingType documented lines front block below) :
    giveType typeText options lines documented index (some type) default =
      typeLine typeText documented none (some type) >>= fun field =>
        insertTypeField options (front ++ below) front.length field default true := by
  obtain ⟨existing, found, removed⟩ := stands.removed
  unfold giveType
  simp only [found, removed, typeLine]
  cases typeText type <;> rfl

theorem injectParam_of_settled (typeText : Value → Except Failure String)
    (options : FieldOptions) {draft : Draft} {argument : Argument} {ready : Lines}
    {index : Nat}
    (settled : settleParam draft.inFields.lines argument.name
      (hint? hints argument.name).isSome = .ok (ready, documented, some index)) :
    injectParam typeText options hints draft argument =
      (giveType typeText options ready documented index (hint? hints argument.name)
        argument.default).map draft.inFields.withLines := by
  unfold injectParam
  simp only [settled]
  change (giveType typeText options ready documented index (hint? hints argument.name)
    argument.default >>= fun lines => .ok (draft.inFields.withLines lines)) = _
  cases giveType typeText options ready documented index (hint? hints argument.name)
    argument.default <;> rfl

theorem insertTypeField_above (style : options.defaults = .style "braces-after")
    (front after : Lines) (first : String) :
    ∃ ended, AppendedTo String.isEmpty (Text.startsWith " ") (defaultNote v) first
      after ended ∧
      ∀ field annotated, insertTypeField options (front ++ first :: after)
        front.length field (some v) annotated = .ok (front ++ field :: ended) := by
  obtain ⟨ended, appended, done⟩ := appendDefault_at front after first (defaultNote v)
  refine ⟨ended, appended, fun field annotated => ?_⟩
  rw [insertTypeField_after style, done]
  exact congrArg Except.ok (insertLine_at front ended field)

theorem insertTypeField_past (style : options.defaults = .style "braces-after")
    (front : Lines) (field : String) (annotated : Bool) :
    insertTypeField options (front ++ []) front.length field (some v) annotated =
      .error outOfRange := by
  rw [insertTypeField_after style, List.append_nil, appendDefault_past]
  rfl

end Default

section Placed

variable (typeText : Value → Except Failure String) (options : FieldOptions)
  (hints : Annotations)

/-- What becomes of the default of a parameter whose line stands at a spot. -/
inductive DefaultPlaced (draft : Draft) (argument : Argument) (v : Value)
    (spot : Spot) : Prop
  /-- No type gives way: the default ends the field of the parameter. -/
  | own (ended : Lines)
      (free : hint? hints argument.name = none ∨
        existingType? spot.lines spot.documented = none)
      (appended : AppendedTo String.isEmpty (Text.startsWith " ") (defaultNote v)
        spot.own spot.after ended)
      (appended_text : (∀ line ∈ spot.after, Spaced line) →
        AppendedTo Text.isVacant isContinuation (defaultNote v) spot.own spot.after
          ended)
      (done : injectParam typeText options hints draft argument =
        (typeLine typeText spot.documented (existingType? spot.lines spot.documented)
          (hint? hints argument.name)).map fun field =>
            draft.inFields.withLines (spot.before ++ field :: ended))
  /-- A type gives way: the default ends whatever begins below that type. -/
  | below (type : Value) (front block : Lines) (first : String) (after ended : Lines)
      (hinted : hint? hints argument.name = some type)
      (stands : ExistingType spot.documented spot.lines front block (first :: after))
      (appended : AppendedTo String.isEmpty (Text.startsWith " ") (defaultNote v)
        first after ended)
      (done : injectParam typeText options hints draft argument =
        (typeText type).map fun text =>
          draft.inFields.withLines
            (front ++ (typeField spot.documented ++ text) :: ended))
  /-- A type gives way with nothing below it: there is no line for the default. -/
  | nowhere (type : Value) (front block : Lines)
      (hinted : hint? hints argument.name = some type)
      (stands : ExistingType spot.documented spot.lines front block [])
      (failed : injectParam typeText options hints draft argument =
        typeText type >>= fun _ => .error outOfRange)

variable {typeText options hints} {draft : Draft} {argument : Argument} {v : Value}
  {spot : Spot}

theorem defaultPlaced_of_free (style : options.defaults = .style "braces-after")
    (free : hint? hints argument.name = none ∨
      existingType? spot.lines spot.documented = none)
    (given : injectParam typeText options hints draft argument =
      (giveType typeText options spot.lines spot.documented spot.before.length
        (hint? hints argument.name) (some v)).map draft.inFields.withLines) :
    DefaultPlaced typeText options hints draft argument v spot := by
  obtain ⟨ended, appended, done⟩ :=
    insertTypeField_above (v := v) style spot.before spot.after spot.own
  refine .own ended free appended appended.of_spaced ?_
  rw [given, giveType_of_free free, Spot.lines]
  simp only [done]
  cases typeLine typeText spot.documented _ (hint? hints argument.name) <;> rfl

theorem defaultPlaced_of_existing {type : Value} {front block below : Lines}
    (style : options.defaults = .style "braces-after")
    (hinted : hint? hints argument.name = some type)
    (stands : ExistingType spot.documented spot.lines front block below)
    (given : injectParam typeText options hints draft argument =
      (giveType typeText options spot.lines spot.documented spot.before.length
        (hint? hints argument.name) (some v)).map draft.inFields.withLines) :
    DefaultPlaced typeText options hints draft argument v spot := by
  rw [hinted, giveType_of_existing stands] at given
  cases below with
  | nil =>
      refine .nowhere type front block hinted stands ?_
      rw [given]
      simp only [insertTypeField_past style, typeLine]
      cases typeText type <;> rfl
  | cons first after =>
      obtain ⟨ended, appended, done⟩ :=
        insertTypeField_above (v := v) style front after first
      refine .below type front block first after ended hinted stands appended ?_
      rw [given]
      simp only [done, typeLine]
      cases typeText type <;> rfl

/--
The default of a documented parameter goes to the end of its own field, unless
an existing type gives way; then it goes to the end of what begins below that
type, or nowhere.
-/
theorem injectParam_appends_default {index : Nat}
    (style : options.defaults = .style "braces-after") (plain : PlainName argument.name)
    (has_default : argument.default = some v)
    (found : (locateParam draft.inFields.lines argument.name).2.2 = some index) :
    ∃ (spot : Spot) (line : String), spot.Of argument.name ∧
      index = spot.before.length ∧
      draft.inFields.lines = spot.before ++ line :: spot.after ∧
      settleParam draft.inFields.lines argument.name
        (hint? hints argument.name).isSome =
        .ok (spot.lines, spot.documented, some index) ∧
      DefaultPlaced typeText options hints draft argument v spot := by
  obtain ⟨ready, documented, settled⟩ :=
    exists_settleParam plain found (hint? hints argument.name).isSome
  obtain ⟨spot, line, of, rfl, rfl, rfl, lines_eq, -, -⟩ :=
    settleParam_eq_some plain settled
  refine ⟨spot, line, of, rfl, lines_eq, settled, ?_⟩
  have given := injectParam_of_settled typeText options settled
  rw [has_default] at given
  cases hinted : hint? hints argument.name with
  | none => exact defaultPlaced_of_free style (.inl hinted) given
  | some type =>
      cases existing : existingType? spot.lines spot.documented with
      | none => exact defaultPlaced_of_free style (.inr existing) given
      | some existing' =>
          obtain ⟨front, block, below, stands⟩ := exists_existingType existing
          exact defaultPlaced_of_existing style hinted stands given

end Placed

end DocHints.Docstring

namespace DocHints.Document

open Docstring

def afterOptions : FieldOptions :=
  ⟨false, .style "braces-after"⟩

def wrappedLines : Lines :=
  [":param int x: a", "    b", "", ":param y: c"]

theorem injectParam_appends_default_wrapped :
    injectParams (roleText {}) afterOptions (noneHints ["x"])
      (Draft.ofLines wrappedLines) [⟨"x", some (.int 1)⟩] =
      .ok ⟨.fields, [":type x: " ++ Markup.typeRole ":py:obj:`None`", ":param x: a",
        "    b (default: ``1``)", "", ":param y: c"]⟩ ∧
    ∃ (spot : Spot) (line : String), spot.Of "x" ∧ 0 = spot.before.length ∧
      (Draft.ofLines wrappedLines).inFields.lines = spot.before ++ line :: spot.after ∧
      settleParam (Draft.ofLines wrappedLines).inFields.lines "x"
        (hint? (noneHints ["x"]) "x").isSome =
          .ok (spot.lines, spot.documented, some 0) ∧
      DefaultPlaced (roleText {}) afterOptions (noneHints ["x"])
        (Draft.ofLines wrappedLines)
        ⟨"x", some (.int 1)⟩ (.int 1) spot := by
  have has_default : (⟨"x", some (.int 1)⟩ : Argument).default = some (.int 1) := rfl
  have found : (locateParam (Draft.ofLines wrappedLines).inFields.lines "x").2.2 =
      some 0 := by
    decide +kernel
  refine ⟨?_, injectParam_appends_default rfl (.of_isIdentifier (by decide +kernel))
    has_default found⟩
  rw [injectParams_noneHints]
  exact eq_ok_of_toOption (by decide +kernel)

/--
The type that gives way is the last line, or stands above another parameter:
there is no line for the default, or it goes to the other parameter.
-/
theorem default_misplaced :
    (locateParam [":param x: d", ":type x: int"] "x").2.2 = some 0 ∧
      injectParams (roleText {}) afterOptions (noneHints ["x"])
          (Draft.ofLines [":param x: d", ":type x: int"]) [⟨"x", some (.int 1)⟩] =
        .error outOfRange ∧
      (locateParam [":type x: int", ":param y: e", ":param x: d"] "x").2.2 = some 2 ∧
      injectParams (roleText {}) afterOptions (noneHints ["x"])
          (Draft.ofLines [":type x: int", ":param y: e", ":param x: d"])
          [⟨"x", some (.int 1)⟩] =
        .ok ⟨.fields, [":type x: " ++ Markup.typeRole ":py:obj:`None`",
          ":param y: e (default: ``1``)", ":param x: d"]⟩ := by
  rw [injectParams_noneHints, injectParams_noneHints]
  exact ⟨by decide +kernel, rfl,
    by decide +kernel, eq_ok_of_toOption (by decide +kernel)⟩

end DocHints.Document
