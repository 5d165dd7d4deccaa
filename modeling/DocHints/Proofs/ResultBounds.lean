import DocHints.Proofs.ResultPlacement

/-!
# Where the field of the result lands

The place for the type of a result is an index that is computed from the blocks
of the docstring, or from a line that tells the result.  Content at the index
can move it up by one, and content above it asks for an empty line.  `Choice`
says how the index is found, and `Lands` where the field comes to stand.

A block on the first two lines leads to the index 0.  There is no line above it,
so the position above it is that of the last line: an empty last line then lets
the field go to the top, and the field that is moved up from there goes above
the last line.
-/

namespace DocHints.Docstring

open Rest (Block)

/-! ## Reading near an index -/

def contentAt (lines : Lines) (index : Nat) : Bool :=
  lines[index]?.any (!Text.isVacant ·)

theorem lt_of_contentAt {lines : Lines} {index : Nat}
    (content : contentAt lines index = true) : index < lines.length := by
  cases found : lines[index]? with
  | none => simp [contentAt, found] at content
  | some line => exact (List.getElem?_eq_some_iff.mp found).1

theorem lineAt_of_getElem? {lines : Lines} {index : Nat} {line : String}
    (found : lines[index]? = some line) : lineAt lines index = .ok line := by
  obtain ⟨inside, rfl⟩ := List.getElem?_eq_some_iff.mp found
  have split : lines = lines.take index ++ lines[index] :: lines.drop (index + 1) := by
    rw [← List.drop_eq_getElem_cons inside, List.take_append_drop]
  have place : index = (lines.take index).length := by
    rw [List.length_take, Nat.min_eq_left (Nat.le_of_lt inside)]
  have read := lineAt_at (lines.take index) (lines.drop (index + 1)) lines[index]
  rwa [← split, ← place] at read

theorem lineAt_last (front : Lines) (last : String) :
    lineAt (front ++ [last]) (-1) = .ok last := by
  have place : place? (front ++ [last]).length (-1) = some front.length := by
    have ahead : (-1 : Int) < 0 := by decide
    have moved : (-1 : Int) + (front ++ [last]).length = front.length := by
      rw [List.length_append, List.length_singleton]
      omega
    have inside : (front.length : Int) < (front ++ [last]).length := by omega
    simp only [place?, if_pos ahead, moved, inside]
    simp
  rw [lineAt, place]
  simp

theorem hasContentAt_of_lt {lines : Lines} {index : Nat}
    (inside : index < lines.length) :
    hasContentAt lines index = .ok (contentAt lines index) := by
  have found : lines[index]? = some lines[index] := List.getElem?_eq_getElem inside
  rw [hasContentAt, lineAt_of_getElem? found, contentAt, found]
  rfl

def movedIndex (index : Int) (onContent : Bool) : Int :=
  if onContent then index - 1 else index

def contentAbove (lines : Lines) (index : Int) : Bool :=
  decide (0 < index) && contentAt lines (index - 1).toNat

theorem contentAbove_read {lines : Lines} {index : Int}
    (inside : index ≤ lines.length) : (if 0 < index && index ≤ lines.length then
        hasContentAt lines (index - 1) >>= fun parted => .ok (index, parted)
      else .ok (index, false)) = Except.ok (index, contentAbove lines index) := by
  by_cases positive : 0 < index
  · have place : ((index - 1).toNat : Int) = index - 1 := by omega
    have below : (index - 1).toNat < lines.length := by omega
    have read := hasContentAt_of_lt below
    simp only [positive, inside, decide_true, Bool.and_self, if_true, contentAbove,
      Bool.true_and]
    rw [← place, read]
    rfl
  · simp [positive, contentAbove]

theorem resultPlace_eq {lines : Lines} {place : ReturnPlace} {index : Nat}
    (found : place.index = index) (inside : index ≤ lines.length) :
    resultPlace lines place =
      .ok (movedIndex index (place.foundParam && contentAt lines index),
        contentAbove lines
          (movedIndex index (place.foundParam && contentAt lines index))) := by
  have reached : resultPlace lines place =
      if place.foundParam && place.index < lines.length then
        hasContentAt lines place.index >>= fun onContent =>
          if 0 < movedIndex place.index onContent &&
              movedIndex place.index onContent ≤ lines.length then
            hasContentAt lines (movedIndex place.index onContent - 1) >>= fun parted =>
              .ok (movedIndex place.index onContent, parted)
          else .ok (movedIndex place.index onContent, false)
      else
        if 0 < movedIndex place.index false && movedIndex place.index false ≤
          lines.length then
          hasContentAt lines (movedIndex place.index false - 1) >>= fun parted =>
            .ok (movedIndex place.index false, parted)
        else .ok (movedIndex place.index false, false) := rfl
  have moved_le : ∀ onContent, movedIndex index onContent ≤ lines.length := by
    intro onContent
    unfold movedIndex
    split <;> omega
  rw [reached, found]
  by_cases on_line : (place.foundParam && decide ((index : Int) < lines.length)) = true
  · obtain ⟨after_params, below⟩ : place.foundParam = true ∧ index < lines.length := by
      simpa using on_line
    rw [if_pos on_line, hasContentAt_of_lt below, after_params, Bool.true_and]
    exact contentAbove_read (moved_le _)
  · have off_content : (place.foundParam && contentAt lines index) = false := by
      apply Bool.eq_false_iff.mpr
      intro on_content
      obtain ⟨after_params, content⟩ := Bool.and_eq_true_iff.mp on_content
      exact on_line (by simpa using ⟨after_params, lt_of_contentAt content⟩)
    rw [if_neg on_line, off_content]
    exact contentAbove_read (moved_le false)

/-! ## How the place is found -/

def isParamList (block : Block) : Bool :=
  block.tag == "field_list" && block.fields.any isParamField

def isOtherBlock (block : Block) : Bool :=
  !isTextBlock block

def FirstBlock (kind : Block → Bool) (blocks : List Block) (block : Block)
    (rest : List Block) : Prop :=
  ∃ front, blocks = front ++ block :: rest ∧ kind block = true ∧
    ∀ other ∈ front, kind other = false

def nextLine (rest : List Block) : Option Nat :=
  rest.head?.bind Block.line

def resultLine? (lines : Lines) : Option Nat :=
  (lines.findIdx? (Text.startsWith ":rtype:")).or (lines.findIdx? isReturnLine)

def withoutResultField (lines : Lines) : Lines :=
  match lines.findIdx? (Text.startsWith ":rtype:") with
  | some index => lines.eraseIdx index
  | none => lines

/--
The line directly above an index.  The last line is read for the one above the
first.
-/
def lineAbove? (lines : Lines) (index : Nat) : Option String :=
  if index = 0 then lines.getLast? else lines[index - 1]?

def placeBefore (lines : Lines) (index : Nat) : ReturnPlace :=
  if (lineAbove? lines index).any String.isEmpty then ⟨index, false, false, true⟩
  else ⟨lines.length, false, false, false⟩

/--
How the place for the type of the result is found: by a line that tells the
result, after the fields of parameters, before a block that is neither text nor
fields, or at the end.  The index is the one that is computed first; the place
may still be the end.
-/
inductive Choice (lines : Lines) (blocks : List Block) : Nat → ReturnPlace → Prop
  | told {index : Nat} (found : resultLine? lines = some index) :
      Choice lines blocks index ⟨index, false, true, false⟩
  | afterParams {fields : Block} {rest : List Block} (untold : resultLine? lines = none)
      (first : FirstBlock isParamList blocks fields rest) :
      Choice lines blocks (indexBefore lines (nextLine rest))
        ⟨indexBefore lines (nextLine rest), true, false, false⟩
  | beforeBlock {block : Block} {rest : List Block} (untold : resultLine? lines = none)
      (unlisted : ∀ other ∈ blocks, isParamList other = false)
      (first : FirstBlock isOtherBlock blocks block rest) :
      Choice lines blocks (indexBefore lines block.line)
        (placeBefore lines (indexBefore lines block.line))
  | atEnd (untold : resultLine? lines = none)
      (unlisted : ∀ other ∈ blocks, isParamList other = false)
      (texts : ∀ other ∈ blocks, isOtherBlock other = false) :
      Choice lines blocks lines.length ⟨lines.length, false, false, false⟩

section Choice

variable {lines : Lines} {blocks : List Block} {index : Nat} {place : ReturnPlace}

theorem FirstBlock.find? {kind : Block → Bool} {block : Block} {rest : List Block}
    (first : FirstBlock kind blocks block rest) : blocks.find? kind = some block := by
  obtain ⟨front, split, is_kind, unseen⟩ := first
  exact List.find?_eq_some_iff_append.mpr ⟨is_kind, front, rest, split,
    by simpa using unseen⟩

theorem firstBlock_or_none (kind : Block → Bool) (blocks : List Block) :
    (∃ block rest, FirstBlock kind blocks block rest) ∨
      ∀ block ∈ blocks, kind block = false := by
  cases found : blocks.find? kind with
  | none => exact .inr (by simpa using found)
  | some block =>
      obtain ⟨is_kind, front, rest, split, unseen⟩ :=
        List.find?_eq_some_iff_append.mp found
      exact .inl ⟨block, rest, front, split, is_kind, by simpa using unseen⟩

theorem exists_choice (lines : Lines) (blocks : List Block) :
    ∃ index place, Choice lines blocks index place := by
  cases found : resultLine? lines with
  | some index => exact ⟨_, _, .told found⟩
  | none =>
      obtain ⟨fields, rest, first⟩ | unlisted := firstBlock_or_none isParamList blocks
      · exact ⟨_, _, .afterParams found first⟩
      · obtain ⟨block, rest, first⟩ | texts := firstBlock_or_none isOtherBlock blocks
        · exact ⟨_, _, .beforeBlock found unlisted first⟩
        · exact ⟨_, _, .atEnd found unlisted texts⟩

theorem resultLine?_eq_none :
    resultLine? lines = none ↔ lines.findIdx? (Text.startsWith ":rtype:") = none ∧
      lines.findIdx? isReturnLine = none :=
  Option.or_eq_none_iff

theorem withoutResultField_untold (untold : resultLine? lines = none) :
    withoutResultField lines = lines := by
  rw [withoutResultField, (resultLine?_eq_none.mp untold).1]

theorem resultLine?_eq_some (found : resultLine? lines = some index) :
    (lines.findIdx? (Text.startsWith ":rtype:") = some index ∧
        withoutResultField lines = lines.eraseIdx index) ∨
      lines.findIdx? (Text.startsWith ":rtype:") = none ∧
        lines.findIdx? isReturnLine = some index ∧
          withoutResultField lines = lines := by
  unfold resultLine? at found
  unfold withoutResultField
  cases field : lines.findIdx? (Text.startsWith ":rtype:") with
  | some first =>
      rw [field, Option.some_or] at found
      cases found
      exact .inl ⟨rfl, rfl⟩
  | none =>
      rw [field, Option.none_or] at found
      exact .inr ⟨rfl, found, rfl⟩

/-! ## Indices within the docstring -/

def NumbersLine (lines : Lines) (line : Option Nat) : Prop :=
  ∀ number, line = some number → 1 ≤ number ∧ number ≤ lines.length

def Numbered (lines : Lines) (blocks : List Block) : Prop :=
  ∀ block ∈ blocks, NumbersLine lines block.line

def AtTop (line : Option Nat) : Prop :=
  ∃ number ≤ 2, line = some number

theorem indexBefore_le {line : Option Nat} (numbers : NumbersLine lines line) :
    indexBefore lines line ≤ lines.length := by
  cases line with
  | none => exact Nat.le_refl _
  | some number =>
      obtain ⟨positive, below⟩ := numbers number rfl
      cases number with
      | zero => omega
      | succ number =>
          simp only [indexBefore]
          omega

theorem indexBefore_eq_zero_iff {line : Option Nat} (some_line : lines ≠ [])
    (numbers : NumbersLine lines line) : indexBefore lines line = 0 ↔ AtTop line := by
  cases line with
  | none => simp [indexBefore, AtTop, some_line]
  | some number =>
      obtain ⟨positive, -⟩ := numbers number rfl
      cases number with
      | zero => omega
      | succ number =>
          simp only [indexBefore, AtTop, Option.some.injEq, exists_eq_right']
          omega

theorem FirstBlock.numbersLine {kind : Block → Bool} {block : Block} {rest : List Block}
    (first : FirstBlock kind blocks block rest) (numbered : Numbered lines blocks) :
    NumbersLine lines block.line :=
  numbered block (List.mem_of_find?_eq_some first.find?)

theorem FirstBlock.numbersNext {kind : Block → Bool} {block : Block} {rest : List Block}
    (first : FirstBlock kind blocks block rest) (numbered : Numbered lines blocks) :
    NumbersLine lines (nextLine rest) := by
  obtain ⟨front, rfl, -, -⟩ := first
  cases rest with
  | nil =>
      intro number known
      cases known
  | cons next rest => exact numbered next (by simp)

theorem Choice.inside (choice : Choice lines blocks index place)
    (numbered : Numbered lines blocks) :
    ∃ position : Nat, place.index = position ∧
      position ≤ (withoutResultField lines).length := by
  cases choice with
  | told found =>
      refine ⟨index, rfl, ?_⟩
      obtain ⟨field, rest⟩ | ⟨-, description, rest⟩ := resultLine?_eq_some found
      · have inside := (List.findIdx?_eq_some_iff_getElem.mp field).1
        rw [rest, List.length_eraseIdx_of_lt inside]
        omega
      · have inside := (List.findIdx?_eq_some_iff_getElem.mp description).1
        rw [rest]
        exact Nat.le_of_lt inside
  | afterParams untold first =>
      rw [withoutResultField_untold untold]
      exact ⟨_, rfl, indexBefore_le (first.numbersNext numbered)⟩
  | beforeBlock untold unlisted first =>
      rw [withoutResultField_untold untold]
      unfold placeBefore
      split
      · exact ⟨_, rfl, indexBefore_le (first.numbersLine numbered)⟩
      · exact ⟨_, rfl, Nat.le_refl _⟩
  | atEnd untold unlisted texts =>
      rw [withoutResultField_untold untold]
      exact ⟨_, rfl, Nat.le_refl _⟩

/-! ## The search for the place -/

theorem lineAt_above (some_line : lines ≠ []) (inside : index ≤ lines.length) :
    ∃ line, lineAbove? lines index = some line ∧
      lineAt lines ((index : Int) - 1) = .ok line := by
  cases index with
  | zero =>
      obtain ⟨front, last, split⟩ :=
        (List.eq_nil_or_concat lines).resolve_left some_line
      rw [List.concat_eq_append] at split
      subst split
      exact ⟨last, by simp [lineAbove?], lineAt_last front last⟩
  | succ index =>
      have found : lines[index]? = some lines[index] := List.getElem?_eq_getElem inside
      have place : ((index + 1 : Nat) : Int) - 1 = index := by omega
      exact ⟨lines[index], found, by rw [place, lineAt_of_getElem? found]⟩

theorem placeBeforeBlock_of_first {block : Block} {rest : List Block}
    (some_line : lines ≠ []) (numbered : Numbered lines blocks)
    (first : FirstBlock isOtherBlock blocks block rest) :
    placeBeforeBlock lines blocks =
      .ok (placeBefore lines (indexBefore lines block.line)) := by
  have found : blocks.find? (fun block => !isTextBlock block) = some block :=
    first.find?
  obtain ⟨line, above, read⟩ :=
    lineAt_above some_line (indexBefore_le (first.numbersLine numbered))
  simp only [placeBeforeBlock, found, read, placeBefore, above, Option.any_some]
  change (if _ then _ else _) = _
  split <;> rfl

theorem placeBeforeBlock_of_none
    (texts : ∀ other ∈ blocks, isOtherBlock other = false) :
    placeBeforeBlock lines blocks = .ok ⟨lines.length, false, false, false⟩ := by
  have missing : blocks.find? (fun block => !isTextBlock block) = none :=
    List.find?_eq_none.mpr fun block inside => Bool.eq_false_iff.mp (texts block inside)
  rw [placeBeforeBlock, missing]

theorem placeAfterParams?_cons (block : Block) (rest : List Block) :
    placeAfterParams? lines (block :: rest) =
      if isParamList block then some ⟨indexBefore lines (nextLine rest), true,
        false, false⟩
      else placeAfterParams? lines rest := by
  cases rest <;> rfl

theorem placeAfterParams?_of_none
    (unlisted : ∀ other ∈ blocks, isParamList other = false) :
    placeAfterParams? lines blocks = none := by
  induction blocks with
  | nil => rfl
  | cons block blocks ih =>
      simp only [List.forall_mem_cons] at unlisted
      rw [placeAfterParams?_cons, unlisted.1]
      exact ih unlisted.2

theorem placeAfterParams?_of_first {fields : Block} {rest : List Block}
    (first : FirstBlock isParamList blocks fields rest) :
    placeAfterParams? lines blocks =
      some ⟨indexBefore lines (nextLine rest), true, false, false⟩ := by
  obtain ⟨front, rfl, is_list, unseen⟩ := first
  induction front with
  | nil => rw [List.nil_append, placeAfterParams?_cons, if_pos is_list]
  | cons block front ih =>
      simp only [List.forall_mem_cons] at unseen
      rw [List.cons_append, placeAfterParams?_cons, unseen.1]
      exact ih unseen.2

theorem returnPlace_told (blocksOf : Lines → Except Failure (List Block))
    (found : resultLine? lines = some index) :
    returnPlace blocksOf lines =
      .ok (withoutResultField lines, ⟨index, false, true, false⟩) := by
  obtain ⟨field, rest⟩ | ⟨no_field, description, rest⟩ := resultLine?_eq_some found
  · rw [Docstring.returnPlace, field, rest]
  · rw [Docstring.returnPlace, no_field, rest]
    dsimp only
    rw [description]

theorem returnPlace_untold {blocksOf : Lines → Except Failure (List Block)}
    (untold : resultLine? lines = none) (parsed : blocksOf lines = .ok blocks) :
    returnPlace blocksOf lines =
      (placeAfterParams? lines blocks).elim
        ((placeBeforeBlock lines blocks).map (lines, ·))
        fun place => .ok (lines, place) := by
  obtain ⟨no_field, no_description⟩ := resultLine?_eq_none.mp untold
  unfold returnPlace
  rw [no_field, no_description, parsed]
  dsimp only [bind, Except.bind]
  cases placeAfterParams? lines blocks with
  | some place => rfl
  | none =>
      dsimp only [Option.elim]
      cases placeBeforeBlock lines blocks <;> rfl

theorem Choice.returnPlace {blocksOf : Lines → Except Failure (List Block)}
    (choice : Choice lines blocks index place) (some_line : lines ≠ [])
    (parsed : blocksOf lines = .ok blocks) (numbered : Numbered lines blocks) :
    returnPlace blocksOf lines = .ok (withoutResultField lines, place) := by
  cases choice with
  | told found => exact returnPlace_told blocksOf found
  | afterParams untold first =>
      rw [returnPlace_untold untold parsed, placeAfterParams?_of_first first,
        withoutResultField_untold untold]
      rfl
  | beforeBlock untold unlisted first =>
      rw [returnPlace_untold untold parsed, placeAfterParams?_of_none unlisted,
        placeBeforeBlock_of_first some_line numbered first,
        withoutResultField_untold untold]
      rfl
  | atEnd untold unlisted texts =>
      rw [returnPlace_untold untold parsed, placeAfterParams?_of_none unlisted,
        placeBeforeBlock_of_none texts, withoutResultField_untold untold]
      rfl

theorem Choice.unique {index' : Nat} {place' : ReturnPlace}
    (choice : Choice lines blocks index place)
    (choice' : Choice lines blocks index' place') (some_line : lines ≠ [])
    (numbered : Numbered lines blocks) : place = place' := by
  let blocksOf : Lines → Except Failure (List Block) := fun _ => .ok blocks
  have parsed : blocksOf lines = .ok blocks := rfl
  have found := choice.returnPlace some_line parsed numbered
  rw [choice'.returnPlace some_line parsed numbered] at found
  simpa [eq_comm] using found

/-! ## The landing of the field -/

/--
The place that is found, the index for the field, and whether an empty line goes
before it.
-/
structure Landing where
  place : ReturnPlace
  index : Int
  parted : Bool

/--
The search finds a place in a docstring, and leads to an index among the lines
that are left.
-/
structure Lands (blocksOf : Lines → Except Failure (List Block)) (lines rest : Lines)
    (landing : Landing) : Prop where
  placed : returnPlace blocksOf lines = .ok (rest, landing.place)
  landed : resultPlace rest landing.place = .ok (landing.index, landing.parted)

def Landing.spot (landing : Landing) (rest : Lines) : Lines × Int :=
  partAt rest landing.index landing.parted

def landingOn (rest : Lines) (place : ReturnPlace) : Landing :=
  let index :=
    movedIndex place.index (place.foundParam && contentAt rest place.index.toNat)
  ⟨place, index, contentAbove rest index⟩

theorem Choice.lands {blocksOf : Lines → Except Failure (List Block)}
    (choice : Choice lines blocks index place) (some_line : lines ≠ [])
    (parsed : blocksOf lines = .ok blocks) (numbered : Numbered lines blocks) :
    Lands blocksOf lines (withoutResultField lines)
      (landingOn (withoutResultField lines) place) := by
  refine ⟨choice.returnPlace some_line parsed numbered, ?_⟩
  obtain ⟨position, at_position, inside⟩ := choice.inside numbered
  rw [landingOn, at_position, Int.toNat_natCast]
  exact resultPlace_eq at_position inside

theorem Lands.injectReturn {blocksOf : Lines → Except Failure (List Block)}
    {rest : Lines} {landing : Landing} (lands : Lands blocksOf lines rest landing)
    (type : String) {ownField : Bool}
    (in_field : ownField = true ∨ landing.place.foundReturn = false) :
    injectReturn rest type landing.place ownField =
      .ok (insertField (landing.spot rest).1 (landing.spot rest).2 (":rtype: " ++ type)
        landing.place.foundDirective) := by
  have reached : Docstring.injectReturn rest type landing.place ownField =
      Docstring.resultPlace rest landing.place >>= fun found =>
        .ok (insertField (partAt rest found.1 found.2).1 (partAt rest found.1 found.2).2
          (":rtype: " ++ type) landing.place.foundDirective) := by
    obtain rfl | undescribed := in_field
    · rfl
    · unfold Docstring.injectReturn
      simp only [undescribed]
      cases ownField <;> rfl
  rw [reached, lands.landed]
  rfl

/--
A list of parameter fields decides the place, and what follows it is on the
first two lines.
-/
def ParamsEndAtTop (lines : Lines) (blocks : List Block) : Prop :=
  resultLine? lines = none ∧
    ∃ fields rest, FirstBlock isParamList blocks fields rest ∧ AtTop (nextLine rest)

/--
A block that is neither text nor fields decides the place, and is on the first
two lines.
-/
def BlockAtTop (lines : Lines) (blocks : List Block) : Prop :=
  resultLine? lines = none ∧ (∀ other ∈ blocks, isParamList other = false) ∧
    ∃ block rest, FirstBlock isOtherBlock blocks block rest ∧ AtTop block.line

theorem foundParam_placeBefore (lines : Lines) (index : Nat) :
    (placeBefore lines index).foundParam = false := by
  unfold placeBefore
  split <;> rfl

theorem Choice.paramsEndAtTop_iff (choice : Choice lines blocks index place)
    (some_line : lines ≠ []) (numbered : Numbered lines blocks) :
    place.foundParam = true ∧ place.index = 0 ↔ ParamsEndAtTop lines blocks := by
  constructor
  · rintro ⟨after_params, at_zero⟩
    cases choice with
    | told found => cases after_params
    | afterParams untold first =>
        have index_zero : indexBefore lines (nextLine _) = 0 :=
          Int.ofNat_eq_zero.mp at_zero
        exact ⟨untold, _, _, first,
          (indexBefore_eq_zero_iff some_line (first.numbersNext numbered)).mp
            index_zero⟩
    | beforeBlock untold unlisted first =>
        rw [foundParam_placeBefore] at after_params
        cases after_params
    | atEnd untold unlisted texts => cases after_params
  · rintro ⟨untold, fields, rest, first, top⟩
    have index_zero :=
      (indexBefore_eq_zero_iff some_line (first.numbersNext numbered)).mpr top
    rw [choice.unique (.afterParams untold first) some_line numbered, index_zero]
    exact ⟨rfl, rfl⟩

theorem length_insertLine (lines : Lines) (position : Int) (line : String) :
    (insertLine lines position line).length = lines.length + 1 := by
  simp only [insertLine, List.length_append, List.length_take, List.length_cons,
    List.length_drop, insertPlace]
  omega

theorem partAt_inside_iff (rest : Lines) {index : Int} {parted : Bool}
    (above : parted = true → 0 < index) :
    0 ≤ (partAt rest index parted).2 ∧
        (partAt rest index parted).2 ≤ (partAt rest index parted).1.length ↔
      0 ≤ index ∧ index ≤ rest.length := by
  cases parted with
  | false => rfl
  | true =>
      have positive := above rfl
      change 0 ≤ index + 1 ∧ index + 1 ≤ ((insertLine rest index "").length : Int) ↔ _
      rw [length_insertLine]
      omega

theorem spot_inside_iff {rest : Lines} {position : Nat}
    (at_position : place.index = position) (inside : position ≤ rest.length) :
    0 ≤ ((landingOn rest place).spot rest).2 ∧
        ((landingOn rest place).spot rest).2 ≤
          ((landingOn rest place).spot rest).1.length ↔
      ¬ ((place.foundParam = true ∧ place.index = 0) ∧ contentAt rest 0 = true) := by
  have above : (landingOn rest place).parted = true →
      0 < (landingOn rest place).index := by
    intro parted
    exact of_decide_eq_true (Bool.and_eq_true_iff.mp parted).1
  rw [Landing.spot, partAt_inside_iff rest above]
  simp only [landingOn, at_position, Int.toNat_natCast, movedIndex]
  by_cases on_content : (place.foundParam && contentAt rest position) = true
  · obtain ⟨after_params, content⟩ := Bool.and_eq_true_iff.mp on_content
    rw [if_pos on_content]
    cases position with
    | zero => simp [after_params, content]
    | succ position =>
        simp only [Int.natCast_eq_zero, Nat.succ_ne_zero, and_false, false_and,
          not_false_iff, iff_true]
        omega
  · rw [if_neg on_content]
    refine iff_of_true (by omega) ?_
    rintro ⟨⟨after_params, at_zero⟩, content⟩
    obtain rfl : position = 0 := by omega
    exact on_content (Bool.and_eq_true_iff.mpr ⟨after_params, content⟩)

theorem spot_above_last {rest : Lines} (after_params : place.foundParam = true)
    (at_zero : place.index = 0) (content : contentAt rest 0 = true) :
    (landingOn rest place).spot rest = (rest, -1) := by
  simp only [Landing.spot, landingOn, at_zero, after_params, Int.toNat_zero, content]
  rfl

/-! ## The lines that are looked at -/

/-- Two docstrings agree at an index and directly above it. -/
def Near (lines other : Lines) (index : Int) : Prop :=
  ∀ position : Nat, (position : Int) = index ∨ (position : Int) + 1 = index →
    lines[position]? = other[position]?

def endsEmpty (lines : Lines) : Bool :=
  lines.getLast?.any String.isEmpty

variable {other : Lines}

theorem Near.contentAt {position : Nat} (near : Near lines other position) :
    contentAt lines position = contentAt other position := by
  rw [Docstring.contentAt, Docstring.contentAt, near position (.inl rfl)]

theorem contentAbove_congr {index : Int}
    (same : ∀ position : Nat, (position : Int) + 1 = index →
      lines[position]? = other[position]?) :
    contentAbove lines index = contentAbove other index := by
  unfold contentAbove
  by_cases positive : 0 < index
  · rw [contentAt, contentAt, same (index - 1).toNat (by omega)]
  · simp [positive]

theorem Near.contentAbove {index : Int} (near : Near lines other index) :
    contentAbove lines index = contentAbove other index :=
  contentAbove_congr fun position above => near position (.inr above)

theorem indexBefore_congr (same_length : other.length = lines.length)
    (line : Option Nat) : indexBefore other line = indexBefore lines line := by
  unfold indexBefore
  rw [same_length]

theorem Near.placeBefore (near : Near lines other index)
    (same_length : other.length = lines.length)
    (same_end : index = 0 → endsEmpty lines = endsEmpty other) :
    placeBefore other index = placeBefore lines index := by
  have above : (lineAbove? other index).any String.isEmpty =
      (lineAbove? lines index).any String.isEmpty := by
    unfold lineAbove?
    by_cases top : index = 0
    · rw [if_pos top, if_pos top]
      exact (same_end top).symm
    · rw [if_neg top, if_neg top, near (index - 1) (.inr (by omega))]
  unfold Docstring.placeBefore
  rw [above, same_length]

theorem Choice.transfer (choice : Choice lines blocks index place)
    (some_line : lines ≠ []) (numbered : Numbered lines blocks)
    (same_length : other.length = lines.length)
    (same_line : resultLine? other = resultLine? lines)
    (near : Near lines other index)
    (same_end : BlockAtTop lines blocks → endsEmpty lines = endsEmpty other) :
    Choice other blocks index place := by
  cases choice with
  | told found => exact .told (same_line.trans found)
  | afterParams untold first =>
      rw [← indexBefore_congr same_length]
      exact .afterParams (same_line.trans untold) first
  | beforeBlock untold unlisted first =>
      have top_iff := indexBefore_eq_zero_iff some_line (first.numbersLine numbered)
      have same_place := near.placeBefore same_length fun top =>
        same_end ⟨untold, unlisted, _, _, first, top_iff.mp top⟩
      rw [← same_place, ← indexBefore_congr same_length]
      exact .beforeBlock (same_line.trans untold) unlisted first
  | atEnd untold unlisted texts =>
      rw [← same_length]
      exact .atEnd (same_line.trans untold) unlisted texts

theorem Choice.landingOn_eq (choice : Choice lines blocks index place) :
    landingOn (withoutResultField lines) place = landingOn lines place := by
  cases choice with
  | told found =>
      have above : contentAbove (withoutResultField lines) index =
          contentAbove lines index := by
        obtain ⟨-, rest⟩ | ⟨-, -, rest⟩ := resultLine?_eq_some found
        · rw [rest]
          exact contentAbove_congr fun position above =>
            List.getElem?_eraseIdx_of_lt (by omega)
        · rw [rest]
      change Landing.mk _ index (contentAbove _ index) =
        Landing.mk _ index (contentAbove _ index)
      rw [above]
  | afterParams untold first => rw [withoutResultField_untold untold]
  | beforeBlock untold unlisted first => rw [withoutResultField_untold untold]
  | atEnd untold unlisted texts => rw [withoutResultField_untold untold]

theorem landingOn_congr {position : Nat} (at_position : place.index = position)
    (near_place : Near lines other place.index)
    (near_landing : Near lines other (landingOn lines place).index) :
    landingOn other place = landingOn lines place := by
  rw [at_position] at near_place
  simp only [landingOn, at_position, Int.toNat_natCast, ← near_place.contentAt,
    Landing.mk.injEq, true_and] at near_landing ⊢
  exact near_landing.contentAbove.symm

theorem foundDirective_placeBefore_top (lines : Lines) :
    (placeBefore lines 0).foundDirective = endsEmpty lines := by
  unfold placeBefore lineAbove? endsEmpty
  rw [if_pos rfl]
  split
  · rename_i empty
    exact empty.symm
  · rename_i content
    exact (Bool.eq_false_iff.mpr content).symm

theorem Numbered.of_length (numbered : Numbered lines blocks)
    (same_length : other.length = lines.length) : Numbered other blocks := by
  intro block inside number known
  rw [same_length]
  exact numbered block inside number known

/--
The field for the type of a result is inserted at an index of the lines, or
behind the last one, unless a list of parameter fields is followed by a block on
the first two lines and the first line has content.  Then the index is `-1`, and
the field goes above the last line.  The place depends on no line but those at
the computed indices and directly above them, unless it is decided by another
block on the first two lines.  Then it depends also on the last line, by whether
that is empty.
-/
theorem result_lands_inside_iff (blocksOf : Lines → Except Failure (List Block))
    (some_line : lines ≠ []) (parsed : blocksOf lines = .ok blocks)
    (numbered : Numbered lines blocks) :
    ∃ index rest landing, Choice lines blocks index landing.place ∧
      Lands blocksOf lines rest landing ∧
      (∀ type ownField, ownField = true ∨ landing.place.foundReturn = false →
        injectReturn rest type landing.place ownField =
          .ok (insertField (landing.spot rest).1 (landing.spot rest).2
            (":rtype: " ++ type) landing.place.foundDirective)) ∧
      (0 ≤ (landing.spot rest).2 ∧
        (landing.spot rest).2 ≤ (landing.spot rest).1.length ↔
        ¬ (ParamsEndAtTop lines blocks ∧ contentAt lines 0 = true)) ∧
      (ParamsEndAtTop lines blocks → contentAt lines 0 = true →
        landing.spot rest = (lines, -1)) ∧
      ∀ other, blocksOf other = .ok blocks → other.length = lines.length →
        resultLine? other = resultLine? lines → Near lines other index →
        Near lines other landing.place.index → Near lines other landing.index →
        ((∃ rest', Lands blocksOf other rest' landing) ↔
          (BlockAtTop lines blocks → endsEmpty lines = endsEmpty other)) := by
  obtain ⟨index, place, choice⟩ := exists_choice lines blocks
  obtain ⟨position, at_position, inside⟩ := choice.inside numbered
  have lands := choice.lands some_line parsed numbered
  have top_iff := choice.paramsEndAtTop_iff some_line numbered
  refine ⟨index, withoutResultField lines,
    landingOn (withoutResultField lines) place, choice, lands,
    fun type ownField in_field => lands.injectReturn type in_field, ?_, ?_, ?_⟩
  · rw [spot_inside_iff at_position inside, top_iff]
    exact not_congr (and_congr_right fun top => by rw [withoutResultField_untold top.1])
  · intro top content
    obtain ⟨after_params, at_zero⟩ := top_iff.mpr top
    rw [withoutResultField_untold top.1]
    exact spot_above_last after_params at_zero content
  · intro other parsed' same_length same_line near near_place near_landing
    have some_line' : other ≠ [] := by
      rintro rfl
      exact some_line (List.length_eq_zero_iff.mp same_length.symm)
    have numbered' := numbered.of_length same_length
    constructor
    · rintro ⟨rest', lands'⟩ ⟨untold, unlisted, block, rest, first, top⟩
      -- Both places are the ones before that block, and tell whether the last
      -- line is empty.
      have at_top :=
        (indexBefore_eq_zero_iff some_line (first.numbersLine numbered)).mpr top
      have own := choice.unique (.beforeBlock untold unlisted first) some_line numbered
      have choice' : Choice other blocks _ _ :=
        .beforeBlock (same_line.trans untold) unlisted first
      have placed := lands'.placed
      rw [choice'.returnPlace some_line' parsed' numbered',
        indexBefore_congr same_length, at_top] at placed
      rw [at_top] at own
      have same_place : placeBefore other 0 = place :=
        (Prod.mk.inj (Except.ok.inj placed)).2
      rw [← foundDirective_placeBefore_top, ← foundDirective_placeBefore_top,
        same_place, own]
    · intro same_end
      have choice' :=
        choice.transfer some_line numbered same_length same_line near same_end
      have lands' := choice'.lands some_line' parsed' numbered'
      rw [choice.landingOn_eq] at near_landing ⊢
      rw [choice'.landingOn_eq, landingOn_congr at_position near_place near_landing]
        at lands'
      exact ⟨_, lands'⟩

end Choice

def ownBlocks (lines : Lines) : Except Failure (List Block) :=
  Rest.outline (Text.unlines lines)

def crowded : Lines :=
  [":param x: d", "text", "more", "last"]

def crowdedBlocks : List Block :=
  [⟨"field_list", some 1, ["param x"]⟩, ⟨"system_message", some 1, []⟩,
    ⟨"paragraph", some 2, []⟩]

theorem result_lands_inside_iff_crowded :
    crowded ≠ [] ∧ ownBlocks crowded = .ok crowdedBlocks ∧
      Numbered crowded crowdedBlocks ∧
      ∃ rest landing, Lands ownBlocks crowded rest landing ∧
        landing.spot rest = (crowded, -1) := by
  have some_line : crowded ≠ [] := by decide
  have parsed : ownBlocks crowded = .ok crowdedBlocks :=
    eq_ok_of_toOption (by decide +kernel)
  have numbered : Numbered crowded crowdedBlocks := by
    intro block inside number known
    simp only [crowdedBlocks, List.mem_cons, List.not_mem_nil, or_false] at inside
    obtain rfl | rfl | rfl := inside
    · cases known
      decide
    · cases known
      decide
    · cases known
      decide
  have top : ParamsEndAtTop crowded crowdedBlocks :=
    ⟨by decide, _, _, ⟨[], rfl, by decide, by simp⟩, 1, by decide, rfl⟩
  obtain ⟨-, rest, landing, -, lands, -, -, above_last, -⟩ :=
    result_lands_inside_iff ownBlocks some_line parsed numbered
  exact ⟨some_line, parsed, numbered, rest, landing, lands, above_last top (by decide)⟩

def withResultField (type : String) (lines : Lines) : Except Failure Lines :=
  returnPlace ownBlocks lines >>= fun found => injectReturn found.1 type found.2 true

/--
The last line of a docstring decides whether the field of the result goes to the
top of it, and a field for an index before the first line goes above the last
one.
-/
theorem result_placed_by_last_line :
    ownBlocks [".. note:: n", "", "text", ""] =
      ownBlocks [".. note:: n", "", "text", "last"] ∧
      withResultField "T" [".. note:: n", "", "text", ""] =
        .ok [":rtype: T", "", ".. note:: n", "", "text", ""] ∧
      withResultField "T" [".. note:: n", "", "text", "last"] =
        .ok [".. note:: n", "", "text", "last", "", ":rtype: T"] ∧
      withResultField "T" crowded = .ok [":param x: d", "text", "more", ":rtype: T",
        "last"] := by
  have blocks : ownBlocks [".. note:: n", "", "text", ""] =
      .ok [⟨"note", some 1, []⟩, ⟨"paragraph", some 3, []⟩] :=
        eq_ok_of_toOption (by decide +kernel)
  have blocks' : ownBlocks [".. note:: n", "", "text", "last"] =
      .ok [⟨"note", some 1, []⟩, ⟨"paragraph", some 3, []⟩] :=
        eq_ok_of_toOption (by decide +kernel)
  exact ⟨blocks.trans blocks'.symm, eq_ok_of_toOption (by decide +kernel),
    eq_ok_of_toOption (by decide +kernel), eq_ok_of_toOption (by decide +kernel)⟩

end DocHints.Docstring
