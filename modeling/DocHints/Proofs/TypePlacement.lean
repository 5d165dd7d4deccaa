import DocHints.Document.Docstring
import DocHints.Proofs.ParamEdits
import DocHints.Proofs.Rendering

/-!
# Types reach their parameters

A parameter with a hint and a line gets a field with its type, under the name
that its line documents.  The parameters that come later leave that field alone.
They leave the line alone too, with one exception: an indented line that follows
the field of another type continues that field, and goes with it.
-/

namespace DocHints.Docstring

/-! ## What a splice leaves -/

theorem line_in_part {left right before after : Lines} {line : String}
    (split : left ++ right = before ++ line :: after) :
    (∃ more, left = before ++ line :: more ∧ after = more ++ right) ∨
      ∃ more, before = left ++ more ∧ right = more ++ line :: after := by
  rcases List.append_eq_append_iff.mp split with ⟨more, rfl, tail⟩ | ⟨more, rfl, tail⟩
  · exact .inr ⟨more, rfl, tail⟩
  · cases more with
    | nil => exact .inr ⟨[], by simp, tail.symm⟩
    | cons first more =>
        cases tail
        exact .inl ⟨more, rfl, rfl⟩

theorem stands_or_removed {front removed rest before after : Lines} {line : String}
    (split : front ++ (removed ++ rest) = before ++ line :: after) (added : Lines) :
    (∃ before' after', front ++ (added ++ rest) = before' ++ line :: after' ∧
      (∀ other ∈ before', other ∈ before ∨ other ∈ added) ∧
      ∀ other ∈ after', other ∈ after ∨ other ∈ added) ∨
    ∃ inner outer, removed = inner ++ line :: outer ∧ before = front ++ inner ∧
      after = outer ++ rest := by
  obtain ⟨more, rfl, rfl⟩ | ⟨more, rfl, tail⟩ := line_in_part split
  · refine .inl ⟨before, more ++ (added ++ rest),
      by simp, fun other inside => .inl inside, ?_⟩
    intro other inside
    simp only [List.mem_append] at inside ⊢
    grind
  · obtain ⟨outer, rfl, rfl⟩ | ⟨more', rfl, rfl⟩ := line_in_part tail
    · exact .inr ⟨more, outer, rfl, rfl, rfl⟩
    · refine .inl ⟨front ++ (added ++ more'), after,
        by simp, ?_, fun other inside => .inl inside⟩
      intro other inside
      simp only [List.mem_append] at inside ⊢
      grind

/-! ## The line of a parameter -/

def HasLine (lines : Lines) (name own : String) : Prop :=
  ∃ before after, lines = before ++ own :: after ∧ LineOf name before own after

theorem LineOf.around {name own : String} {before after before' after' : Lines}
    (line_of : LineOf name before own after)
    (front : ∀ other ∈ before', other ∈ before ∨ ¬ Documents name other)
    (back : ∀ other ∈ after', other ∈ after ∨ ¬ Documents name other) :
    LineOf name before' own after' := by
  obtain ⟨spelled, ⟨spelling, first, preferred⟩, is_param⟩ := line_of
  refine ⟨spelled, ⟨spelling, ?_, ?_⟩, is_param⟩
  · intro other inside
    obtain known | undocumented := front other inside
    · exact first other known
    · exact Bool.eq_false_iff.mpr fun is_param' =>
        undocumented ⟨spelled, spelling, is_param'⟩
  · intro trailing same other inside
    have around : other ∈ before ++ after ∨ ¬ Documents name other := by
      rw [List.mem_append] at inside ⊢
      cases inside with
      | inl inside => exact (front other inside).imp_left .inl
      | inr inside => exact (back other inside).imp_left .inr
    obtain known | undocumented := around
    · exact preferred trailing same other known
    · exact Bool.eq_false_iff.mpr fun is_param' =>
        undocumented ⟨_, .escaped trailing, is_param'⟩

theorem HasLine.place {lines : Lines} {name own : String} (plain : PlainName name)
    (has : HasLine lines name own) :
    ∃ place, (locateParam lines name).2.2 = some place ∧ lines[place]? = some own := by
  obtain ⟨before, after, rfl, line_of⟩ := has
  exact ⟨before.length, line_of.place plain, by simp⟩

theorem HasLine.splice {front removed rest added : Lines} {name own : String}
    (has : HasLine (front ++ (removed ++ rest)) name own)
    (undocumented : ∀ other ∈ added, ¬ Documents name other) :
    HasLine (front ++ (added ++ rest)) name own ∨
      ∃ inner outer, removed = inner ++ own :: outer ∧
        LineOf name (front ++ inner) own (outer ++ rest) := by
  obtain ⟨before, after, split, line_of⟩ := has
  obtain ⟨before', after', split', front_from,
      back_from⟩ | ⟨inner, outer, removed_eq, rfl, rfl⟩ :=
    stands_or_removed split added
  · exact .inl ⟨before', after', split', line_of.around
      (fun other inside => (front_from other inside).imp_right (undocumented other))
      (fun other inside => (back_from other inside).imp_right (undocumented other))⟩
  · exact .inr ⟨inner, outer, removed_eq, line_of⟩

/--
The line of a parameter is among those that continue an existing type, and is
found there: an indented line.
-/
def Swallowed (name own documented : String) (lines : Lines) : Prop :=
  ∃ front inner outer rest, lines = front ++ (inner ++ own :: outer ++ rest) ∧
    IsTypeBlock documented (inner ++ own :: outer) ∧ isContinuation own = true ∧
    (locateParam lines name).2.2 = some (front ++ inner).length

theorem IsTypeBlock.indented_of_documents {documented name line : String}
    {block : Lines} (is_block : IsTypeBlock documented block)
    (documents : Documents name line) (inside : line ∈ block) :
    isContinuation line = true := by
  obtain ⟨first, more, rfl, is_type, indented⟩ := is_block
  cases inside with
  | head => exact absurd documents (not_documents_typeField is_type)
  | tail _ inside => exact indented line inside

theorem HasLine.splice_field {front removed rest : Lines}
    {name own documented field : String}
    (has : HasLine (front ++ (removed ++ rest)) name own)
    (is_type : Text.startsWith (typeField documented) field = true) :
    HasLine (front ++ field :: rest) name own ∨
      ∃ inner outer, removed = inner ++ own :: outer ∧
        LineOf name (front ++ inner) own (outer ++ rest) := by
  have undocumented : ∀ line ∈ [field], ¬ Documents name line := by
    intro line inside
    obtain rfl : line = field := by simpa using inside
    exact not_documents_typeField is_type
  exact has.splice undocumented

theorem HasLine.insert {before after : Lines} {name own documented field : String}
    (has : HasLine (before ++ after) name own)
    (is_type : Text.startsWith (typeField documented) field = true) :
    HasLine (before ++ field :: after) name own := by
  have has' : HasLine (before ++ ([] ++ after)) name own := has
  obtain stands | ⟨inner, outer, nothing, -⟩ := has'.splice_field is_type
  · exact stands
  · simp at nothing

section Edits

variable {typeText : Value → Except Failure String} {options : FieldOptions}
  {name other : String} {hint : Option Value} {lines lines' : Lines}

theorem HasLine.ready {own : String} {spot : Spot} {hinted : Bool}
    (plain : PlainName name) (plain' : PlainName other) (differs : other ≠ name)
    (of : spot.Of other) (ready : spot.Ready other hinted lines)
    (has : HasLine lines name own) : HasLine spot.lines name own := by
  have undocumented : ∀ line ∈ [spot.own], ¬ Documents name line := by
    intro line inside documents
    obtain rfl : line = spot.own := by simpa using inside
    exact differs
      (Belongs.unique plain' plain of.line_of.documents.belongs documents.belongs)
  cases ready with
  | found line settled lines_eq line_of indented =>
      have has' : HasLine (spot.before ++ ([line] ++ spot.after)) name own :=
        lines_eq ▸ has
      obtain stands | ⟨inner, outer, removed_eq, own_of⟩ := has'.splice undocumented
      · exact stands
      · -- The only line taken out is the line of the other parameter.
        obtain rfl : own = line := by
          have inside : own ∈ [line] := by simp [removed_eq]
          simpa using inside
        exact absurd
          (Belongs.unique plain' plain line_of.documents.belongs
            own_of.documents.belongs)
          differs
  | added settled before_eq after_eq flush =>
      have has' : HasLine (spot.before ++ ([] ++ [])) name own := by
        simpa [before_eq] using has
      obtain stands | ⟨inner, outer, removed_eq, -⟩ := has'.splice undocumented
      · simpa [Spot.lines, after_eq] using stands
      · simp at removed_eq

theorem Spot.Ready.block_settled {spot : Spot} {hinted : Bool} {documented : String}
    {front block rest : Lines} (of : spot.Of other)
    (ready : spot.Ready other hinted lines)
    (split : spot.lines = front ++ (block ++ rest))
    (is_block : IsTypeBlock documented block) :
    ∃ place rest', settleParam lines other hinted =
        .ok (front ++ (block ++ rest'), spot.documented, place) ∧
      ∀ line ∈ rest', line ∈ rest := by
  cases ready with
  | found line settled lines_eq line_of indented =>
      rw [split] at settled
      exact ⟨_, rest, settled, fun _ => id⟩
  | added settled before_eq after_eq flush =>
      have split' : (front ++ block) ++ rest = lines ++ spot.own :: [] := by
        rw [List.append_assoc, ← split, Spot.lines, before_eq, after_eq]
      obtain ⟨more, front_eq, nothing⟩ | ⟨rest', rfl, rest_eq⟩ := line_in_part split'
      · -- The line at the end would close the block, but it is neither a type nor indented.
        have closes : spot.own ∈ block := by
          obtain ⟨rfl, rfl⟩ : more = [] ∧ rest = [] := by simpa using nothing.symm
          rcases List.eq_nil_or_concat block with rfl | ⟨init, last, rfl⟩
          · obtain ⟨first, others, empty, -, -⟩ := is_block
            cases empty
          · rw [List.concat_eq_append, ← List.append_assoc] at front_eq
            have same : [last] = [spot.own] := List.append_inj_right' front_eq rfl
            cases same
            simp
        rw [is_block.indented_of_documents of.line_of.documents closes] at flush
        cases flush
      · refine ⟨none, rest', by simpa using settled, fun line inside => ?_⟩
        simp [rest_eq, inside]

/--
The type of a parameter with a hint takes the place of an existing one, and
swallows the line of a parameter.
-/
def Swallows (other : String) (hint : Option Value) (lines : Lines)
    (name own : String) : Prop :=
  hint.isSome = true ∧ ∃ ready documented place,
    settleParam lines other true = .ok (ready, documented, place) ∧
      Swallowed name own documented ready

theorem HasLine.replace {own field : String} {spot : Spot} {front block rest : Lines}
    (plain : PlainName name) (of : spot.Of other)
    (ready : spot.Ready other hint.isSome lines) (hinted : hint.isSome = true)
    (split : spot.lines = front ++ (block ++ rest))
    (is_block : IsTypeBlock spot.documented block)
    (is_type : Text.startsWith (typeField spot.documented) field = true)
    (has : HasLine spot.lines name own) :
    HasLine (front ++ field :: rest) name own ∨ Swallows other hint lines name own := by
  rw [split] at has
  obtain stands | ⟨inner, outer, rfl, line_of⟩ := has.splice_field is_type
  · exact .inl stands
  · rw [hinted] at ready
    obtain ⟨place, rest', settled, within⟩ := ready.block_settled of split is_block
    have line_of' : LineOf name (front ++ inner) own (outer ++ rest') := by
      refine line_of.around (fun _ => .inl) fun line inside => .inl ?_
      rw [List.mem_append] at inside ⊢
      exact inside.imp_right (within line)
    have found := line_of'.place plain
    refine .inr ⟨hinted, _, _, place, settled, front, inner, outer, rest', rfl,
      is_block, is_block.indented_of_documents line_of.documents (by simp), ?_⟩
    simpa using found

/--
The edit for another parameter leaves the line of this one, unless it swallows
it.
-/
theorem Edit.keeps_line {own : String} (plain : PlainName name)
    (plain' : PlainName other) (differs : other ≠ name)
    (edit : Edit typeText options other hint lines lines')
    (has : HasLine lines name own) :
    HasLine lines' name own ∨ Swallows other hint lines name own := by
  cases edit with
  | skip missing => exact .inl has
  | insert spot field of ready gives =>
      exact .inl ((has.ready plain plain' differs of ready).insert gives.1)
  | replace spot field front block rest of ready gives hinted split is_block =>
      exact (has.ready plain plain' differs of ready).replace plain of ready hinted
        split is_block gives.1

theorem Spot.Ready.mem_lines {field : String} {spot : Spot} {hinted : Bool}
    (ready : spot.Ready other hinted lines)
    (foreign : ∀ line, Belongs other line → field ≠ line) (inside : field ∈ lines) :
    field ∈ spot.lines := by
  cases ready with
  | found line settled lines_eq line_of indented =>
      have apart := foreign line line_of.documents.belongs
      simp only [lines_eq, Spot.lines, List.mem_append, List.mem_cons, apart,
        false_or] at inside ⊢
      exact inside.imp_right .inr
  | added settled before_eq after_eq flush => simp [Spot.lines, before_eq, inside]

theorem Edit.keeps_field {field : String} (plain : PlainName name)
    (plain' : PlainName other) (differs : other ≠ name)
    (edit : Edit typeText options other hint lines lines')
    (owns : Belongs name field) (flush : isContinuation field = false)
    (inside : field ∈ lines) : field ∈ lines' := by
  have foreign : ∀ line, Belongs other line → field ≠ line := by
    rintro line owns' rfl
    exact differs (Belongs.unique plain' plain owns' owns)
  cases edit with
  | skip missing => exact inside
  | insert spot line of ready gives =>
      have inside' := ready.mem_lines foreign inside
      simp only [Spot.lines, List.mem_append, List.mem_cons] at inside' ⊢
      exact inside'.imp_right .inr
  | replace spot line front block rest of ready gives hinted split is_block =>
      have inside' := ready.mem_lines foreign inside
      rw [split] at inside'
      obtain ⟨first, more, rfl, is_type, indented⟩ := is_block
      have apart := foreign first (.type of.documentedAs is_type)
      have apart' : field ∉ more := by
        intro within
        rw [indented field within] at flush
        cases flush
      simp only [List.mem_append, List.mem_cons, apart, apart', false_or] at inside' ⊢
      exact inside'.imp_right .inr

theorem Spot.Ready.settled_at {spot : Spot} {hinted : Bool} {index : Nat}
    (ready : spot.Ready name hinted lines)
    (found : (locateParam lines name).2.2 = some index) :
    index = spot.before.length ∧
      settleParam lines name hinted =
        .ok (spot.lines, spot.documented, some index) := by
  cases ready with
  | found line settled lines_eq line_of indented =>
      have place := settleParam_place settled
      rw [found, Option.some.injEq] at place
      exact ⟨place, place ▸ settled⟩
  | added settled before_eq after_eq flush =>
      have place := settleParam_place settled
      rw [found] at place
      cases place

/--
A parameter that has a line gets its field, and keeps its line unless it
swallows it itself.
-/
theorem Edit.own {index : Nat} (plain : PlainName name)
    (edit : Edit typeText options name hint lines lines')
    (found : (locateParam lines name).2.2 = some index) :
    ∃ (spot : Spot) (field : String), spot.Of name ∧ index = spot.before.length ∧
      settleParam lines name hint.isSome =
        .ok (spot.lines, spot.documented, some index) ∧
      GivesType typeText options hint spot.documented field ∧ field ∈ lines' ∧
      (HasLine lines' name spot.own ∨ Swallows name hint lines name spot.own) := by
  cases edit with
  | skip missing =>
      rw [missing] at found
      cases found
  | insert spot field of ready gives =>
      obtain ⟨place, settled⟩ := ready.settled_at found
      have has : HasLine spot.lines name spot.own := ⟨_, _, rfl, of.line_of⟩
      exact ⟨spot, field, of, place, settled, gives, by simp, .inl (has.insert gives.1)⟩
  | replace spot field front block rest of ready gives hinted split is_block =>
      obtain ⟨place, settled⟩ := ready.settled_at found
      have has : HasLine spot.lines name spot.own := ⟨_, _, rfl, of.line_of⟩
      exact ⟨spot, field, of, place, settled, gives, by simp,
        has.replace plain of ready hinted split is_block gives.1⟩

end Edits

/-! ## The whole run -/

section Run

variable {typeText : Value → Except Failure String} {options : FieldOptions}
  {hints : Annotations} {draft draft' final : Draft} {arguments : List Argument}

theorem isAfter_ne_of_off {setting : DefaultsSetting} (off : setting.isOn = false) :
    setting.isAfter ≠ .ok true := by
  intro is_after
  cases setting with
  | other on => cases is_after
  | style name =>
      obtain rfl : name = "" := by simpa [DefaultsSetting.isOn] using off
      exact absurd (Except.ok.inj is_after) (by decide)

def Lost (typeText : Value → Except Failure String) (options : FieldOptions)
    (hints : Annotations) (draft : Draft) (arguments : List Argument)
    (name own : String) : Prop :=
  ∃ argument draft', Visited typeText options hints draft arguments argument draft' ∧
    Swallows argument.name (hint? hints argument.name) draft'.lines name own

theorem injectParams_keeps_field {name field : String}
    (beside : options.defaults.isAfter ≠ .ok true) (plain : PlainName name)
    (others : ∀ argument ∈ arguments, PlainName argument.name ∧ argument.name ≠ name)
    (owns : Belongs name field) (flush : isContinuation field = false)
    (fields : draft.layout = .fields) (inside : field ∈ draft.lines)
    (done : injectParams typeText options hints draft arguments = .ok final) :
    field ∈ final.lines := by
  have plains : ∀ argument ∈ arguments, PlainName argument.name :=
    fun argument within => (others argument within).1
  refine (injectParams_edits (motive := fun _ lines => field ∈ lines) beside plains
    fields inside ?_
    done).2
  rintro earlier argument later current lines' rfl - inside' edit
  obtain ⟨plain', differs⟩ := others argument (by simp)
  exact edit.keeps_field plain plain' differs owns flush inside'

theorem injectParams_keeps_line {name own : String}
    (beside : options.defaults.isAfter ≠ .ok true) (plain : PlainName name)
    (others : ∀ argument ∈ arguments, PlainName argument.name ∧ argument.name ≠ name)
    (fields : draft.layout = .fields) (has : HasLine draft.lines name own)
    (done : injectParams typeText options hints draft arguments = .ok final) :
    HasLine final.lines name own ∨
      Lost typeText options hints draft arguments name own := by
  have plains : ∀ argument ∈ arguments, PlainName argument.name :=
    fun argument within => (others argument within).1
  refine (injectParams_edits (motive := fun _ lines => HasLine lines name own ∨
    Lost typeText options hints draft arguments name own) beside plains fields
      (.inl has) ?_ done).2
  rintro earlier argument later current lines' rfl visit state edit
  cases state with
  | inr lost => exact .inr lost
  | inl has' =>
      obtain ⟨plain', differs⟩ := others argument (by simp)
      obtain stands | swallows := edit.keeps_line plain plain' differs has'
      · exact .inl stands
      · exact .inr ⟨argument, current, ⟨earlier, later, rfl, visit⟩, swallows⟩

theorem Lost.cons {name own : String} {argument : Argument}
    (given : injectParam typeText options hints draft argument = .ok draft')
    (lost : Lost typeText options hints draft' arguments name own) :
    Lost typeText options hints draft (argument :: arguments) name own := by
  obtain ⟨other, draft'', ⟨earlier, later, rfl, visit⟩, swallows⟩ := lost
  exact ⟨other, draft'',
    ⟨argument :: earlier, later, rfl, bind_eq_ok.mpr ⟨draft', given, visit⟩⟩, swallows⟩

end Run

end DocHints.Docstring

namespace DocHints.Document

open Docstring

/--
A parameter with a hint whose line is found gets its type in the end, under the
name that is read from its line.  The line is its own in the end as well, unless
it is lost to an existing type.
-/
theorem type_reaches_param {scene : Scene} {options : FieldOptions}
    {hints : Annotations} {lines : Lines} {earlier later : List Argument}
    {argument : Argument} {draft final : Draft} {hint : Value} {index : Nat}
    (no_sections : hasSections lines = false) (off : options.defaults.isOn = false)
    (named : WellNamed (earlier ++ argument :: later))
    (done : injectParams (roleText scene) options hints (Draft.ofLines lines)
      (earlier ++ argument :: later) = .ok final)
    (reached : injectParams (roleText scene) options hints (Draft.ofLines lines)
      earlier = .ok draft)
    (hinted : hint? hints argument.name = some hint)
    (found : (locateParam draft.lines argument.name).2.2 = some index) :
    ∃ ready own documented text,
      settleParam draft.lines argument.name true = .ok (ready, documented, some index) ∧
      ready[index]? = some own ∧ argumentOf? own = some documented ∧
      scene.render hint = .ok text ∧
      typeField documented ++ Markup.typeRole text ∈ final.lines ∧
      ((∃ place, (locateParam final.lines argument.name).2.2 = some place ∧
          final.lines[place]? = some own) ∨
        Lost (roleText scene) options hints draft (argument :: later) argument.name
          own) := by
  have beside := isAfter_ne_of_off off
  have plain : PlainName argument.name := named.plain argument (by simp)
  have others : ∀ other ∈ later, PlainName other.name ∧ other.name ≠ argument.name := by
    intro other inside
    have apart := (List.pairwise_append.mp named.distinct).2.1
    exact ⟨named.plain other (by simp [inside]),
      ((List.pairwise_cons.mp apart).1 other inside).symm⟩
  have fields : draft.layout = .fields :=
    (injectParams_edits (motive := fun _ _ => True) beside named.left.plain
      (layout_ofLines no_sections) trivial (fun _ _ _ _ _ _ _ _ _ => trivial) reached).1
  rw [injectParams_append] at done
  obtain ⟨start, reached', done⟩ := bind_eq_ok.mp done
  rw [reached] at reached'
  cases reached'
  obtain ⟨draft', given, rest⟩ := bind_eq_ok.mp done
  obtain ⟨fields', edit⟩ := injectParam_eq_ok beside plain fields given
  obtain ⟨spot, field, of, rfl, settled, gives, inside, state⟩ := edit.own plain found
  obtain ⟨role, in_role, rfl⟩ := gives.2 hint hinted off
  obtain ⟨text, rendered, same⟩ := bind_eq_ok.mp in_role
  cases same
  rw [hinted] at settled
  refine ⟨spot.lines, spot.own, spot.documented, text, settled,
    by simp [Spot.lines], of.argument, rendered, ?_, ?_⟩
  · exact injectParams_keeps_field beside plain others (.type of.documentedAs gives.1)
      (typeField_flush gives.1) fields' inside rest
  · cases state with
    | inr swallows => exact .inr ⟨argument, draft, ⟨[], later, rfl, rfl⟩, swallows⟩
    | inl has =>
        obtain stands | lost :=
          injectParams_keeps_line beside plain others fields' has rest
        · exact .inl (stands.place plain)
        · exact .inr (lost.cons given)

def noneHints (names : List String) : Annotations :=
  names.map fun name => (name, .noneType)

theorem roleText_noneType :
    roleText {} .noneType = .ok (Markup.typeRole ":py:obj:`None`") := by
  have rendered : Scene.render {} .noneType = .ok ":py:obj:`None`" :=
    Scene.render_of_text rfl
  simp only [roleText, rendered]
  rfl

theorem injectParams_noneHints {options : FieldOptions} {names : List String}
    {draft : Draft} {arguments : List Argument} :
    injectParams (roleText {}) options (noneHints names) draft arguments =
      injectParams (fun _ => .ok (Markup.typeRole ":py:obj:`None`")) options
        (noneHints names) draft
        arguments := by
  apply injectParams_congr
  intro entry inside
  obtain ⟨name, -, rfl⟩ := List.mem_map.mp inside
  exact roleText_noneType

def underscoredLines : Lines :=
  [":param int x_: it", ":type y: old", "  more", ":param y: of"]

theorem type_reaches_param_underscored :
    ∃ final, injectParams (roleText {}) ⟨false, .other false⟩ (noneHints ["x_", "y"])
        (Draft.ofLines underscoredLines)
        ([] ++ ⟨"x_", none⟩ :: [⟨"y", none⟩]) = .ok final ∧
      final.lines = [":type x\\_: " ++ Markup.typeRole ":py:obj:`None`",
        ":param x\\_: it", ":type y: " ++ Markup.typeRole ":py:obj:`None`",
        ":param y: of"] ∧
      ∃ ready own documented text,
        settleParam underscoredLines "x_" true = .ok (ready, documented, some 0) ∧
        ready[0]? = some own ∧ argumentOf? own = some documented ∧
        Scene.render {} .noneType = .ok text ∧
        typeField documented ++ Markup.typeRole text ∈ final.lines ∧
        ((∃ place, (locateParam final.lines "x_").2.2 = some place ∧
            final.lines[place]? = some own) ∨
          Lost (roleText {}) ⟨false, .other false⟩ (noneHints ["x_", "y"])
            (Draft.ofLines underscoredLines) [⟨"x_", none⟩, ⟨"y", none⟩] "x_" own) := by
  have done : injectParams (roleText {}) ⟨false, .other false⟩ (noneHints ["x_", "y"])
      (Draft.ofLines underscoredLines) ([] ++ ⟨"x_", none⟩ :: [⟨"y", none⟩]) =
        .ok ⟨.fields,
          [":type x\\_: " ++ Markup.typeRole ":py:obj:`None`", ":param x\\_: it",
            ":type y: " ++ Markup.typeRole ":py:obj:`None`", ":param y: of"]⟩ := by
    rw [injectParams_noneHints]
    exact eq_ok_of_toOption (by decide +kernel)
  have named : WellNamed ([] ++ ⟨"x_", none⟩ :: [⟨"y", none⟩]) :=
    .of_identifiers (by decide +kernel) (by decide +kernel)
  exact ⟨_, done, rfl, type_reaches_param (by decide +kernel) rfl named done rfl rfl
    (by decide +kernel)⟩

def indentedLines : Lines :=
  [":type x: int", "   :param\u00a0x: it"]

/--
The parameter is found in these lines and has a hint, but no line documents it
in the end.
-/
theorem own_line_swallowed :
    hasSections indentedLines = false ∧ WellNamed [⟨"x", none⟩] ∧
      hint? (noneHints ["x"]) "x" = some .noneType ∧
      (locateParam indentedLines "x").2.2 = some 1 ∧
      ∃ final, injectParams (roleText {}) ⟨false, .other false⟩ (noneHints ["x"])
          (Draft.ofLines indentedLines) [⟨"x", none⟩] = .ok final ∧
        ∀ line ∈ final.lines, isParamLine line "x" = false := by
  have done : injectParams (roleText {}) ⟨false, .other false⟩ (noneHints ["x"])
      (Draft.ofLines indentedLines) [⟨"x", none⟩] =
        .ok ⟨.fields, [":type x: " ++ Markup.typeRole ":py:obj:`None`"]⟩ := by
    rw [injectParams_noneHints]
    exact eq_ok_of_toOption (by decide +kernel)
  refine ⟨by decide +kernel,
    .of_identifiers (by decide +kernel) (by decide +kernel), rfl, by
      decide +kernel, _, done, by decide +kernel⟩

end DocHints.Document
