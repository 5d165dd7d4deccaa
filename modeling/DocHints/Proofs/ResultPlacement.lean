import DocHints.Document.Docstring
import DocHints.Proofs.Sections
import DocHints.Proofs.TypePlacement

/-!
# The result where it has a field already

An existing field for the type of the result is removed, and its place is taken
for the place of a description.  A type in a field of its own goes there.  A
type that is told inside a description is written into the line that has moved
up to that place, whatever that line is, and there is no such line where the
field was the last one.
-/

namespace DocHints.Docstring

/-! ## The place of an existing field -/

structure FirstResultField (lines before : Lines) (field : String) (after : Lines) :
    Prop where
  lines_eq : lines = before ++ field :: after
  is_field : Text.startsWith ":rtype:" field = true
  unseen : ∀ line ∈ before, Text.startsWith ":rtype:" line = false

def vacatedPlace (before : Lines) : ReturnPlace :=
  ⟨before.length, false, true, false⟩

theorem returnPlace_of_field {lines : Lines} {line : String}
    (blocksOf : Lines → Except Failure (List Rest.Block)) (inside : line ∈ lines)
    (is_field : Text.startsWith ":rtype:" line = true) :
    ∃ before field after, FirstResultField lines before field after ∧
      returnPlace blocksOf lines = .ok (before ++ after, vacatedPlace before) := by
  obtain ⟨index, found⟩ : ∃ index, lines.findIdx? (Text.startsWith ":rtype:") =
      some index := by
    rw [← Option.isSome_iff_exists, List.findIdx?_isSome, List.any_eq_true]
    exact ⟨line, inside, is_field⟩
  obtain ⟨before, field, after, rfl, rfl, first, unseen⟩ :=
    findIdx?_eq_some_append.mp found
  refine ⟨before, field, after, ⟨rfl, first, unseen⟩, ?_⟩
  simp only [returnPlace, found, vacatedPlace]
  rw [List.eraseIdx_append_of_length_le (Nat.le_refl _), Nat.sub_self,
    List.eraseIdx_cons_zero]

/-! ## Insertion at that place -/

def partingLine (before : Lines) : Lines :=
  if before.getLast?.any (!Text.isVacant ·) then [""] else []

theorem resultPlace_vacated (before after : Lines) :
    resultPlace (before ++ after) (vacatedPlace before) =
      .ok (before.length, before.getLast?.any (!Text.isVacant ·)) := by
  have reached : resultPlace (before ++ after) (vacatedPlace before) =
      if 0 < (before.length : Int) && (before.length : Int) ≤
        (before ++ after).length then
        hasContentAt (before ++ after) (before.length - 1) >>= fun parted =>
          .ok ((before.length : Int), parted)
      else .ok ((before.length : Int), false) := rfl
  obtain rfl | ⟨front, last, split⟩ := List.eq_nil_or_concat before
  · rfl
  · obtain rfl : before = front ++ [last] := by rw [split, List.concat_eq_append]
    have inside : (0 < ((front ++ [last]).length : Int) &&
        ((front ++ [last]).length : Int) ≤ (front ++ [last] ++ after).length) =
          true := by
      simp only [List.length_append, List.length_singleton, Bool.and_eq_true,
        decide_eq_true_eq]
      omega
    have above : ((front ++ [last]).length : Int) - 1 = front.length := by simp
    have content : hasContentAt (front ++ [last] ++ after) front.length =
        .ok (!Text.isVacant last) := by
      rw [hasContentAt, List.append_assoc, List.singleton_append, lineAt_at]
      rfl
    rw [reached, if_pos inside, above, content, List.getLast?_concat]
    rfl

theorem partAt_vacated (before after : Lines) :
    partAt (before ++ after) before.length (before.getLast?.any (!Text.isVacant ·)) =
      (before ++ partingLine before ++ after,
        ((before ++ partingLine before).length : Int)) := by
  unfold partAt partingLine
  split
  · rw [insertLine_at]
    simp
  · simp

theorem injectReturn_own (before after : Lines) (type : String) :
    injectReturn (before ++ after) type (vacatedPlace before) true =
      .ok (before ++ partingLine before ++ (":rtype: " ++ type) :: after) := by
  have reached : injectReturn (before ++ after) type (vacatedPlace before) true =
      resultPlace (before ++ after) (vacatedPlace before) >>= fun place =>
        let parted := partAt (before ++ after) place.1 place.2
        .ok (insertField parted.1 parted.2 (":rtype: " ++ type) false) := rfl
  rw [reached, resultPlace_vacated]
  change Except.ok (insertField (partAt _ _ _).1 (partAt _ _ _).2 _ _) = _
  rw [partAt_vacated]
  simp only [insertField, insertLine_at]
  rfl

def inlineResult (type line : String) : String :=
  ":return: " ++ type ++ " --" ++ fromFirstSpace line

/--
What telling the result inline makes of the lines around the place of a removed
field.
-/
def inlineBelow (type : String) (before : Lines) : Lines → Except Failure Lines
  | [] => .error outOfRange
  | next :: rest =>
    if Text.contains " -- " next then .ok (before ++ next :: rest)
    else .ok (before ++ partingLine before ++ inlineResult type next :: rest)

theorem inlineBelow_ne_own (type : String) (before after : Lines) :
    inlineBelow type before after ≠
      .ok (before ++ partingLine before ++ (":rtype: " ++ type) :: after) := by
  -- A result told inline takes no line of its own, so the lengths differ.
  intro same
  cases after with
  | nil => cases same
  | cons next rest =>
      simp only [inlineBelow] at same
      split at same <;>
      · have lengths := congrArg List.length (Except.ok.inj same)
        simp only [List.length_append, List.length_cons] at lengths
        omega

theorem inlineBelow_eq_error_iff {type : String} {before after : Lines}
    {failure : Failure} :
    inlineBelow type before after = .error failure ↔
      after = [] ∧ failure = outOfRange := by
  cases after with
  | nil => simp [inlineBelow, eq_comm]
  | cons next rest =>
      simp only [inlineBelow]
      split <;> simp

theorem injectReturn_inline (before after : Lines) (type : String) :
    injectReturn (before ++ after) type (vacatedPlace before) false =
      inlineBelow type before after := by
  have reached : injectReturn (before ++ after) type (vacatedPlace before) false =
      lineAt (before ++ after) before.length >>= fun next =>
        if Text.contains " -- " next then .ok (before ++ after)
        else resultPlace (before ++ after) (vacatedPlace before) >>= fun place =>
          let parted := partAt (before ++ after) place.1 place.2
          lineAt parted.1 parted.2 >>= fun line =>
            setLine parted.1 parted.2 (inlineResult type line) := rfl
  cases after with
  | nil =>
      rw [reached, List.append_nil, lineAt_past]
      rfl
  | cons next rest =>
      rw [reached, lineAt_at, resultPlace_vacated]
      change (if _ then _ else
        (lineAt (partAt _ _ _).1 (partAt _ _ _).2 >>= fun line =>
          setLine (partAt _ _ _).1 (partAt _ _ _).2 (inlineResult type line))) = _
      rw [partAt_vacated]
      simp only [lineAt_at]
      change (if _ then _ else setLine _ _ _) = _
      rw [setLine_at]
      rfl

end DocHints.Docstring

namespace DocHints.Document

open Docstring

/-! ## The result of a documented value -/

def Knowledge.shownResult? (known : Knowledge) (lines : Lines) : Option Value :=
  (Entries.find? known.hints "return").filter fun hint =>
    !known.overloaded && known.showsResult hint lines

def readyForResult (hint : Value) (draft : Draft) : Draft :=
  (draft.withLines (withResultDescription hint draft.lines)).inFields

section Result

variable (settings : Settings) (blocksOf : Lines → Except Failure (List Rest.Block))
  (text : Value → Except Failure String) (known : Knowledge) (draft : Draft)

def resultWith (ownField : Bool) : Except Failure Draft :=
  withKnownResult { settings with resultField := ownField } blocksOf text known draft

theorem mem_readyForResult {line : String} (hint : Value) (inside : line ∈ draft.lines)
    (outside : Outside line) : line ∈ (readyForResult hint draft).lines := by
  have described : line ∈ withResultDescription hint draft.lines := by
    unfold withResultDescription
    split
    · exact inside
    · split
      · exact inside
      · exact List.mem_append_left _ inside
  unfold readyForResult Draft.inFields
  split
  · exact outside.mem_convertSections described
  · exact described

theorem resultWith_eq (ownField : Bool) :
    resultWith settings blocksOf text known draft ownField =
      match known.shownResult? draft.lines with
      | some hint =>
          withResult { settings with resultField := ownField } blocksOf text hint draft
      | none => .ok draft := by
  unfold resultWith withKnownResult Knowledge.shownResult?
  cases Entries.find? known.hints "return" with
  | none => rfl
  | some hint =>
      rw [Option.filter_some]
      dsimp only
      split <;> rfl

variable {known draft}

theorem resultWith_of_place {hint : Value} {lines : Lines} {place : ReturnPlace}
    (shown : known.shownResult? draft.lines = some hint)
    (placed : returnPlace blocksOf (readyForResult hint draft).lines =
      .ok (lines, place))
    (ownField : Bool) :
    resultWith settings blocksOf text known draft ownField =
      text hint >>= fun type =>
        (injectReturn lines type place ownField).map
          (readyForResult hint draft).withLines := by
  have reached : resultWith settings blocksOf text known draft ownField =
      returnPlace blocksOf (readyForResult hint draft).lines >>= fun found =>
        text hint >>= fun type =>
          injectReturn found.1 type found.2 ownField >>= fun lines =>
            .ok ((readyForResult hint draft).withLines lines) := by
    rw [resultWith_eq, shown]
    rfl
  rw [reached, placed]
  cases text hint with
  | error failure => rfl
  | ok type =>
      change (injectReturn lines type place ownField >>= _) =
        (injectReturn lines type place ownField).map _
      cases injectReturn lines type place ownField <;> rfl

variable (known draft)

/--
Where the result has a field already, a result told inline is written into the
line below that field, which need not describe the result; there is no such line
if the field is the last one.  Either way the lines are not those of a result in
a field of its own.
-/
theorem inline_result_takes_line_below {line : String} (inside : line ∈ draft.lines)
    (is_field : Text.startsWith ":rtype:" line = true) :
    (known.shownResult? draft.lines = none ∧
      ∀ ownField, resultWith settings blocksOf text known draft ownField = .ok draft) ∨
    ∃ hint before field after, known.shownResult? draft.lines = some hint ∧
      FirstResultField (readyForResult hint draft).lines before field after ∧
      (∀ failure, text hint = .error failure →
        ∀ ownField, resultWith settings blocksOf text known draft ownField =
          .error failure) ∧
      ∀ type, text hint = .ok type →
        resultWith settings blocksOf text known draft true =
          .ok ((readyForResult hint draft).withLines
            (before ++ partingLine before ++ (":rtype: " ++ type) :: after)) ∧
        resultWith settings blocksOf text known draft false =
          (inlineBelow type before after).map (readyForResult hint draft).withLines ∧
        (resultWith settings blocksOf text known draft false = .error outOfRange ↔
          after = []) ∧
        resultWith settings blocksOf text known draft false ≠
          resultWith settings blocksOf text known draft true := by
  cases shown : known.shownResult? draft.lines with
  | none =>
      refine .inl ⟨rfl, fun ownField => ?_⟩
      rw [resultWith_eq, shown]
  | some hint =>
      have ready :=
        mem_readyForResult draft hint inside (outside_of_startsWith_rtype is_field)
      obtain ⟨before, field, after, first, placed⟩ :=
        returnPlace_of_field blocksOf ready is_field
      have result := resultWith_of_place settings blocksOf text shown placed
      refine .inr ⟨hint, before, field, after, rfl, first, ?_, ?_⟩
      · intro failure failed ownField
        rw [result, failed]
        rfl
      · intro type written
        have own : resultWith settings blocksOf text known draft true =
            .ok ((readyForResult hint draft).withLines
              (before ++ partingLine before ++ (":rtype: " ++ type) :: after)) := by
          rw [result, written]
          exact congrArg (Except.map _) (injectReturn_own before after type)
        have inline : resultWith settings blocksOf text known draft false =
            (inlineBelow type before after).map
              (readyForResult hint draft).withLines := by
          rw [result, written]
          exact congrArg (Except.map _) (injectReturn_inline before after type)
        refine ⟨own, inline, ?_, ?_⟩
        · rw [inline, map_eq_error, inlineBelow_eq_error_iff]
          simp
        · rw [inline, own]
          intro same
          obtain ⟨lines, told, same⟩ := map_eq_ok.mp same
          obtain rfl := congrArg Draft.lines same
          exact inlineBelow_ne_own type before after told

end Result

def givesNone : Knowledge where
  signature := none
  hints := noneHints ["return"]
  inInstance := []
  overloaded := false
  showsResult := fun _ _ => true

def plainSettings : Settings where
  render := {}
  fields := ⟨false, .other false⟩

def givesNoneWith (ownField : Bool) (lines : Lines) : Except Failure Draft :=
  resultWith plainSettings (fun _ => .ok []) (roleText {}) givesNone
    (Draft.ofLines lines) ownField

theorem givesNoneWith_eq (ownField : Bool) (lines : Lines) :
    givesNoneWith ownField lines =
      resultWith plainSettings (fun _ => .ok [])
        (fun _ => .ok (Markup.typeRole ":py:obj:`None`"))
        givesNone (Draft.ofLines lines) ownField := by
  have shown : givesNone.shownResult? (Draft.ofLines lines).lines =
      some .noneType := rfl
  simp only [givesNoneWith, resultWith_eq, shown, withResult, roleText_noneType]

theorem inline_result_takes_line_below_raises :
    ":rtype: old" ∈ ["Text.", ":rtype: old", ":raises E: if so"] ∧
      Text.startsWith ":rtype:" ":rtype: old" = true ∧
      givesNoneWith false ["Text.", ":rtype: old", ":raises E: if so"] ≠
        givesNoneWith true ["Text.", ":rtype: old", ":raises E: if so"] := by
  have inside : ":rtype: old" ∈
      (Draft.ofLines ["Text.", ":rtype: old", ":raises E: if so"]).lines := by
    decide
  have is_field : Text.startsWith ":rtype:" ":rtype: old" = true := by decide
  refine ⟨inside, is_field, ?_⟩
  obtain ⟨hidden, -⟩ | ⟨hint, before, field, after, shown, -, -, told⟩ :=
    inline_result_takes_line_below plainSettings (fun _ => .ok []) (roleText {})
      givesNone
      (Draft.ofLines ["Text.", ":rtype: old", ":raises E: if so"]) inside is_field
  · cases hidden
  · cases shown
    exact (told _ roleText_noneType).2.2.2

/--
A field at the end leaves no line for the type, and another field is made a
description.
-/
theorem field_below_rewritten :
    givesNoneWith false [":rtype: old"] = .error outOfRange ∧
      givesNoneWith true [":rtype: old"] =
        .ok ⟨.fields, [":rtype: " ++ Markup.typeRole ":py:obj:`None`"]⟩ ∧
      givesNoneWith false [":rtype: old", ":raises E: if so"] =
        .ok ⟨.fields,
          [":return: " ++ Markup.typeRole ":py:obj:`None`" ++ " -- E: if so"]⟩ := by
  simp only [givesNoneWith_eq]
  exact ⟨rfl, eq_ok_of_toOption (by decide +kernel),
    eq_ok_of_toOption (by decide +kernel)⟩

end DocHints.Document
