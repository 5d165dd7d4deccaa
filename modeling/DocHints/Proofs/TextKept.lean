import DocHints.Document.Docstring
import DocHints.Proofs.ParamEdits

/-!
# The text of a docstring is kept

The lines of a docstring are set against the lines that come out: an alignment
cuts both into pieces.  Most pieces are lines that are kept.  The others have an
excuse: the line found for a parameter may be rewritten, a field of a type gives
way together with the lines that continue it, and so does the first field for
the result.  Every edit of the lines is a splice of the alignment.
-/

namespace DocHints.Docstring

/-! ## Pieces -/

/-- A part of a docstring, and what becomes of it. -/
inductive Piece where
  | kept (line : String)
  | added (line : String)
  /-- The line found for a parameter under a spelling, and the line that it becomes. -/
  | param (spelled line changed : String)
  /-- The field of a type with its continuation, and the field in its place. -/
  | types (block : Lines) (field : String)
  /-- The field for the result, which gives way. -/
  | result (line : String)

namespace Piece

def before : Piece → Lines
  | kept line => [line]
  | added _ => []
  | param _ line _ => [line]
  | types block _ => block
  | result line => [line]

def after : Piece → Lines
  | kept line => [line]
  | added line => [line]
  | param _ _ changed => [changed]
  | types _ field => [field]
  | result _ => []

def standing : Piece → Lines
  | kept line => [line]
  | param _ line _ => [line]
  | _ => []

/--
What the order of pieces tells: the line found for a parameter is the first with
its spelling, of those that stand, and the field for the result is the first of
all.
-/
def Precedes (piece : Piece) : Piece → Prop
  | param spelled _ _ => ∀ line ∈ piece.standing, isParamLine line spelled = false
  | result _ => ∀ line ∈ piece.before, Text.startsWith ":rtype:" line = false
  | _ => True

/--
Why a line is not kept.  `visited` tells the drafts in which the parameters got
their types.
-/
def Excused (visited : Argument → Draft → Prop) (hints : Annotations) : Piece → Prop
  | kept _ => True
  | added _ => True
  | param spelled line _ => ∃ argument draft index, visited argument draft ∧
      Spelling argument.name spelled ∧ isParamLine line spelled = true ∧
      (locateParam draft.lines argument.name).2.2 = some index ∧
        draft.lines[index]? = some line
  | types block _ => ∃ argument draft ready documented place, visited argument draft ∧
      (hint? hints argument.name).isSome = true ∧
      settleParam draft.lines argument.name true = .ok (ready, documented, place) ∧
      IsTypeBlock documented block
  | result line => Text.startsWith ":rtype:" line = true

end Piece

/--
Pieces that make up a docstring before and after its types are in, each with an
excuse.
-/
structure Aligned (visited : Argument → Draft → Prop) (hints : Annotations)
    (lines current : Lines) (pieces : List Piece) : Prop where
  before_eq : pieces.flatMap Piece.before = lines
  after_eq : pieces.flatMap Piece.after = current
  ordered : pieces.Pairwise Piece.Precedes
  excused : ∀ piece ∈ pieces, piece.Excused visited hints

/-! ## Splices -/

theorem after_split {pieces : List Piece} {front rest : Lines}
    (after_eq : pieces.flatMap Piece.after = front ++ rest) :
    ∃ left right, pieces = left ++ right ∧ left.flatMap Piece.after = front ∧
      right.flatMap Piece.after = rest := by
  induction pieces generalizing front with
  | nil =>
      obtain ⟨rfl, rfl⟩ : front = [] ∧ rest = [] := by simpa using after_eq
      exact ⟨[], [], rfl, rfl, rfl⟩
  | cons piece pieces ih =>
      cases front with
      | nil => exact ⟨[], piece :: pieces, rfl, rfl, after_eq⟩
      | cons line front =>
          rw [List.flatMap_cons] at after_eq
          -- A piece has one line in the result, or none.
          have rest_eq : piece.after = [line] ∧
              pieces.flatMap Piece.after = front ++ rest ∨
              piece.after = [] ∧ pieces.flatMap Piece.after =
                line :: front ++ rest := by
            cases piece <;> simp_all [Piece.after]
          obtain ⟨first, rest_eq⟩ | ⟨none_first, rest_eq⟩ := rest_eq
          · obtain ⟨left, right, rfl, rfl, rfl⟩ := ih rest_eq
            exact ⟨piece :: left, right, rfl, by simp [first], rfl⟩
          · obtain ⟨left, right, rfl, left_eq, rfl⟩ := ih rest_eq
            exact ⟨piece :: left, right, rfl, by simp [none_first, left_eq], rfl⟩

variable {visited : Argument → Draft → Prop} {hints : Annotations}
  {lines current : Lines}

theorem forall_mem_splice {P : Piece → Prop} {piece : Piece}
    {left middle right : List Piece}
    (all : ∀ other ∈ left ++ (middle ++ right), P other) (new : P piece) :
    ∀ other ∈ left ++ piece :: right, P other := by
  intro other inside
  simp only [List.mem_append, List.mem_cons] at inside
  obtain in_left | rfl | in_right := inside
  · exact all other (by simp [in_left])
  · exact new
  · exact all other (by simp [in_right])

/-- A piece takes the place of others that cover the same lines of the docstring. -/
theorem Aligned.splice {left middle right : List Piece}
    (aligned : Aligned visited hints lines current (left ++ (middle ++ right)))
    (piece : Piece) (same : piece.before = middle.flatMap Piece.before)
    (behind : ∀ earlier ∈ left, earlier.Precedes piece)
    (ahead : ∀ later ∈ right, piece.Precedes later)
    (excused : piece.Excused visited hints) : Aligned visited hints lines
      (left.flatMap Piece.after ++ (piece.after ++ right.flatMap Piece.after))
      (left ++ piece :: right) where
  before_eq := by
    rw [← aligned.before_eq]
    simp [same]
  after_eq := by simp
  ordered := by
    have ordered := aligned.ordered
    simp only [List.pairwise_append, List.mem_append] at ordered
    obtain ⟨left_ordered, ⟨-, right_ordered, -⟩, across⟩ := ordered
    refine List.pairwise_append.mpr ⟨left_ordered,
      List.pairwise_cons.mpr ⟨ahead, right_ordered⟩, ?_⟩
    intro earlier in_left later inside
    cases inside with
    | head => exact behind earlier in_left
    | tail _ in_right => exact across earlier in_left later (.inr in_right)
  excused := forall_mem_splice aligned.excused excused

theorem Piece.added_precedes (line : String) (later : Piece) :
    (Piece.added line).Precedes later := by
  cases later <;> simp [Piece.Precedes, Piece.standing, Piece.before]

theorem Aligned.add {left right : List Piece}
    (aligned : Aligned visited hints lines current (left ++ right)) (line : String) :
    Aligned visited hints lines
      (left.flatMap Piece.after ++ line :: right.flatMap Piece.after)
      (left ++ .added line :: right) := by
  have aligned' : Aligned visited hints lines current (left ++ ([] ++ right)) := aligned
  exact aligned'.splice (.added line) rfl (fun _ _ => trivial)
    (fun later _ => Piece.added_precedes line later) trivial

/-! ## The trail of the parameters -/

/--
The lines that are not as they were are marked, and those that are new do not
continue a field.
-/
def Piece.Made (mark : String → Prop) : Piece → Prop
  | kept _ => True
  | added line => mark line ∧ isContinuation line = false
  | param _ line changed =>
      mark line ∧ mark changed ∧
        (isContinuation changed = true → isContinuation line = true)
  | types _ field => mark field ∧ isContinuation field = false
  | result _ => False

theorem Piece.Made.mono {mark mark' : String → Prop}
    (more : ∀ line, mark line → mark' line) {piece : Piece}
    (made : piece.Made mark) : piece.Made mark' := by
  cases piece with
  | kept line => trivial
  | added line => exact ⟨more _ made.1, made.2⟩
  | param spelled line changed => exact ⟨more _ made.1, more _ made.2.1, made.2.2⟩
  | types block field => exact ⟨more _ made.1, made.2⟩
  | result line => exact made

theorem Piece.Made.preceded {mark : String → Prop} {piece later : Piece}
    (made : later.Made mark) (gone : piece.standing = []) : piece.Precedes later := by
  cases later with
  | kept line => trivial
  | added line => trivial
  | param spelled line changed => simp [Piece.Precedes, gone]
  | types block field => trivial
  | result line => exact made.elim

/-- An alignment in which the lines that are not as they were are marked. -/
structure Trail (visited : Argument → Draft → Prop) (hints : Annotations)
    (lines current : Lines) (mark : String → Prop) (pieces : List Piece) : Prop
    extends Aligned visited hints lines current pieces where
  made : ∀ piece ∈ pieces, piece.Made mark

namespace Trail

variable {mark mark' : String → Prop}

theorem start (visited : Argument → Draft → Prop) (hints : Annotations) (lines : Lines)
    (mark : String → Prop) :
    Trail visited hints lines lines mark (lines.map .kept) where
  before_eq := by simp [List.flatMap_map, Piece.before]
  after_eq := by simp [List.flatMap_map, Piece.after]
  ordered := by
    rw [List.pairwise_map]
    exact List.pairwise_of_forall fun _ _ => trivial
  excused := by
    intro piece inside
    obtain ⟨line, -, rfl⟩ := List.mem_map.mp inside
    trivial
  made := by
    intro piece inside
    obtain ⟨line, -, rfl⟩ := List.mem_map.mp inside
    trivial

theorem mono {pieces : List Piece}
    (trail : Trail visited hints lines current mark pieces)
    (more : ∀ line, mark line → mark' line) :
    Trail visited hints lines current mark' pieces where
  toAligned := trail.toAligned
  made := fun piece inside => (trail.made piece inside).mono more

theorem splice {left middle right : List Piece}
    (trail : Trail visited hints lines current mark (left ++ (middle ++ right)))
    (piece : Piece) (same : piece.before = middle.flatMap Piece.before)
    (behind : ∀ earlier ∈ left, earlier.Precedes piece)
    (ahead : ∀ later ∈ right, piece.Precedes later)
    (excused : piece.Excused visited hints) (made : piece.Made mark) :
    Trail visited hints lines
      (left.flatMap Piece.after ++ (piece.after ++ right.flatMap Piece.after)) mark
      (left ++ piece :: right) where
  toAligned := trail.toAligned.splice piece same behind ahead excused
  made := forall_mem_splice trail.made made

theorem add {pieces : List Piece} {front rest : Lines} {line : String}
    (trail : Trail visited hints lines (front ++ rest) mark pieces) (marked : mark line)
    (flush : isContinuation line = false) :
    ∃ pieces', Trail visited hints lines (front ++ line :: rest) mark pieces' := by
  obtain ⟨left, right, rfl, rfl, rfl⟩ := after_split trail.after_eq
  have made : ∀ piece ∈ left ++ ([] ++ right), piece.Made mark := trail.made
  exact ⟨_, trail.toAligned.add line, forall_mem_splice made ⟨marked, flush⟩⟩

theorem kept_at {pieces : List Piece} {front rest : Lines} {line : String}
    (trail : Trail visited hints lines (front ++ line :: rest) mark pieces)
    (unmarked : ¬ mark line) :
    ∃ left right, pieces = left ++ ([.kept line] ++ right) ∧
      left.flatMap Piece.after = front ∧
      right.flatMap Piece.after = rest := by
  obtain ⟨left, right, rfl, rfl, right_eq⟩ := after_split trail.after_eq
  cases right with
  | nil => simp at right_eq
  | cons piece right =>
      have made := trail.made piece (by simp)
      cases piece with
      | kept other =>
          obtain ⟨rfl, rfl⟩ : other = line ∧ right.flatMap Piece.after = rest := by
            simpa [Piece.after] using right_eq
          exact ⟨left, right, rfl, rfl, rfl⟩
      | result other => exact made.elim
      | added other =>
          obtain ⟨rfl, -⟩ : other = line ∧ _ := by simpa [Piece.after] using right_eq
          exact absurd made.1 unmarked
      | param spelled other changed =>
          obtain ⟨rfl, -⟩ : changed = line ∧ _ := by simpa [Piece.after] using right_eq
          exact absurd made.2.1 unmarked
      | types block other =>
          obtain ⟨rfl, -⟩ : other = line ∧ _ := by simpa [Piece.after] using right_eq
          exact absurd made.1 unmarked

end Trail

theorem continuation_before {mark : String → Prop} {pieces : List Piece}
    (made : ∀ piece ∈ pieces, piece.Made mark)
    (indented : ∀ line ∈ pieces.flatMap Piece.after, isContinuation line = true) :
    ∀ line ∈ pieces.flatMap Piece.before, isContinuation line = true := by
  intro line inside
  obtain ⟨piece, in_pieces, in_piece⟩ := List.mem_flatMap.mp inside
  have made_piece := made piece in_pieces
  have indented_piece : ∀ line ∈ piece.after, isContinuation line = true :=
    fun line within => indented line (List.mem_flatMap.mpr ⟨piece, in_pieces, within⟩)
  cases piece with
  | kept other => exact indented_piece line in_piece
  | added other => cases in_piece
  | param spelled other changed =>
      obtain rfl : line = other := by simpa [Piece.before] using in_piece
      exact made_piece.2.2 (indented_piece changed (by simp [Piece.after]))
  | types block field =>
      have flush := indented_piece field (by simp [Piece.after])
      rw [made_piece.2] at flush
      cases flush
  | result other => exact made_piece.elim

theorem Trail.replace {mark mark' : String → Prop} {pieces : List Piece}
    {front more rest : Lines} {first field : String}
    (trail : Trail visited hints lines (front ++ (first :: more ++ rest)) mark pieces)
    (unmarked : ¬ mark first) (indented : ∀ line ∈ more, isContinuation line = true)
    (marks : ∀ line, mark line → mark' line) (marked : mark' field)
    (flush : isContinuation field = false)
    (excused : ∀ more', (∀ line ∈ more', isContinuation line = true) →
      (Piece.types (first :: more') field).Excused visited hints) :
    ∃ pieces', Trail visited hints lines (front ++ field :: rest) mark' pieces' := by
  obtain ⟨left, others, rfl, rfl, others_eq⟩ := trail.kept_at unmarked
  obtain ⟨middle, right, rfl, rfl, rfl⟩ := after_split others_eq
  have indented' := continuation_before
    (fun piece inside => trail.made piece (by simp [inside])) indented
  have trail' : Trail visited hints lines _ mark'
      (left ++ ((.kept first :: middle) ++ right)) := trail.mono marks
  refine ⟨_, trail'.splice (.types (first :: middle.flatMap Piece.before) field) ?_
    (fun _ _ => trivial) (fun later in_right => ?_) (excused _ indented')
      ⟨marked, flush⟩⟩
  · simp [Piece.before]
  · exact (trail.made later (by simp [in_right])).preceded rfl

/-! ## One parameter -/

def BelongsToAny (arguments : List Argument) (line : String) : Prop :=
  ∃ argument ∈ arguments, Belongs argument.name line

def BelongsOrDocuments (arguments : List Argument) (name line : String) : Prop :=
  BelongsToAny arguments line ∨ Documents name line

section Step

variable {typeText : Value → Except Failure String} {options : FieldOptions}
  {earlier : List Argument} {argument : Argument} {draft : Draft}
  {pieces : List Piece}

theorem not_belongsToAny {line : String} (named : WellNamed (earlier ++ [argument]))
    (owns : Belongs argument.name line) : ¬ BelongsToAny earlier line := by
  rintro ⟨other, inside, owns'⟩
  obtain ⟨-, -, apart⟩ := List.pairwise_append.mp named.distinct
  exact apart other inside argument (by simp)
    (Belongs.unique (named.plain other (by simp [inside]))
      (named.plain argument (by simp)) owns' owns)

theorem belongsToAny_of_belongsOrDocuments {line : String}
    (marked : BelongsOrDocuments earlier argument.name line) :
    BelongsToAny (earlier ++ [argument]) line := by
  obtain ⟨other, inside, owns⟩ | documents := marked
  · exact ⟨other, by simp [inside], owns⟩
  · exact ⟨argument, by simp, documents.belongs⟩

theorem Trail.ready {spot : Spot} {hinted : Bool}
    (named : WellNamed (earlier ++ [argument])) (visit : visited argument draft)
    (of : spot.Of argument.name) (ready : spot.Ready argument.name hinted draft.lines)
    (trail : Trail visited hints lines draft.lines (BelongsToAny earlier) pieces) :
    ∃ pieces', Trail visited hints lines spot.lines
      (BelongsOrDocuments earlier argument.name) pieces' := by
  have own_marked : BelongsOrDocuments earlier argument.name spot.own :=
    .inr of.line_of.documents
  cases ready with
  | added settled before_eq after_eq flush =>
      have trail' : Trail visited hints lines _
          (BelongsOrDocuments earlier argument.name) _ :=
        trail.mono fun _ => .inl
      rw [← before_eq, ← List.append_nil spot.before] at trail'
      obtain ⟨pieces', trail'⟩ := trail'.add own_marked flush
      rw [← after_eq] at trail'
      exact ⟨pieces', trail'⟩
  | found line settled lines_eq line_of indented =>
      obtain ⟨spelled, foremost, is_param⟩ := line_of
      have owns : Belongs argument.name line := .param foremost.spelling is_param
      rw [lines_eq] at trail
      obtain ⟨left, right, rfl, left_eq, right_eq⟩ :=
        trail.kept_at (not_belongsToAny named owns)
      have trail' : Trail visited hints lines _
          (BelongsOrDocuments earlier argument.name) _ :=
        trail.mono fun _ => .inl
      have spliced := trail'.splice (.param spelled line spot.own) rfl ?_ ?_ ?_ ?_
      · rw [left_eq, right_eq] at spliced
        exact ⟨_, spliced⟩
      · intro piece in_left other standing
        cases piece with
        | kept other' =>
            obtain rfl : other = other' := by simpa [Piece.standing] using standing
            apply foremost.first
            rw [← left_eq]
            exact List.mem_flatMap.mpr ⟨_, in_left, by simp [Piece.after]⟩
        | param spelled'' other' changed =>
            -- An earlier parameter has this line, so it does not document another one.
            obtain rfl : other = other' := by simpa [Piece.standing] using standing
            apply Bool.eq_false_iff.mpr
            intro is_param''
            exact not_belongsToAny named (.param foremost.spelling is_param'')
              (trail.made _ (List.mem_append_left _ in_left)).1
        | added other' => cases standing
        | types block field => cases standing
        | result other' => cases standing
      · intro later in_right
        have precedes : (Piece.kept line).Precedes later := by
          have ordered := (List.pairwise_append.mp trail.ordered).2.1
          exact (List.pairwise_cons.mp ordered).1 later in_right
        cases later <;> exact precedes
      · exact ⟨argument, draft, spot.before.length, visit, foremost.spelling, is_param,
          settleParam_place settled, by simp [lines_eq]⟩
      · exact ⟨.inr ⟨spelled, foremost.spelling, is_param⟩, own_marked, indented⟩

theorem Trail.edit {lines' : Lines} (named : WellNamed (earlier ++ [argument]))
    (visit : visited argument draft)
    (edit : Edit typeText options argument.name (hint? hints argument.name)
      draft.lines lines')
    (trail : Trail visited hints lines draft.lines (BelongsToAny earlier) pieces) :
    ∃ pieces', Trail visited hints lines lines'
      (BelongsToAny (earlier ++ [argument])) pieces' := by
  cases edit with
  | skip missing =>
      exact ⟨pieces,
        trail.mono fun _ marked => belongsToAny_of_belongsOrDocuments (.inl marked)⟩
  | insert spot field of ready gives =>
      obtain ⟨pieces', trail'⟩ := trail.ready named visit of ready
      have owns : Belongs argument.name field := .type of.documentedAs gives.1
      exact (trail'.mono fun _ => belongsToAny_of_belongsOrDocuments).add
        ⟨argument, by simp, owns⟩ (typeField_flush gives.1)
  | replace spot field front block rest of ready gives hinted split is_block =>
      obtain ⟨pieces', trail'⟩ := trail.ready named visit of ready
      rw [split] at trail'
      obtain ⟨first, more, rfl, is_type, indented⟩ := is_block
      have unmarked : ¬ BelongsOrDocuments earlier argument.name first := by
        rintro (theirs | documents)
        · exact not_belongsToAny named (.type of.documentedAs is_type) theirs
        · exact not_documents_typeField is_type documents
      have owns : Belongs argument.name field := .type of.documentedAs gives.1
      refine trail'.replace unmarked indented
        (fun _ => belongsToAny_of_belongsOrDocuments)
        ⟨argument, by simp, owns⟩ (typeField_flush gives.1) fun more' indented' => ?_
      have is_block : IsTypeBlock spot.documented (first :: more') :=
        ⟨first, more', rfl, is_type, indented'⟩
      rw [hinted] at ready
      cases ready with
      | found line settled =>
          exact ⟨argument, draft, _, _, _, visit, hinted, settled, is_block⟩
      | added settled =>
          exact ⟨argument, draft, _, _, _, visit, hinted, settled, is_block⟩

theorem injectParams_trail {arguments : List Argument} {final : Draft}
    (beside : options.defaults.isAfter ≠ .ok true) (named : WellNamed arguments)
    (no_sections : hasSections lines = false)
    (done : injectParams typeText options hints (Draft.ofLines lines) arguments =
      .ok final) :
    final.layout = .fields ∧ ∃ pieces,
      Trail (Visited typeText options hints (Draft.ofLines lines) arguments) hints
        lines final.lines (BelongsToAny arguments) pieces := by
  refine injectParams_edits (motive := fun earlier current => ∃ pieces,
      Trail (Visited typeText options hints (Draft.ofLines lines) arguments) hints
        lines current (BelongsToAny earlier) pieces)
    beside named.plain (layout_ofLines no_sections) ⟨_, Trail.start _ hints lines _⟩
      ?_ done
  rintro earlier argument later draft lines' rfl visit ⟨pieces, trail⟩ edit
  have regrouped : WellNamed ((earlier ++ [argument]) ++ later) := by simpa using named
  exact trail.edit regrouped.left ⟨earlier, later, rfl, visit⟩ edit

end Step

/-! ## The result -/

theorem not_result_of_typeField {documented line : String}
    (is_type : Text.startsWith (typeField documented) line = true) :
    Text.startsWith ":rtype:" line = false := by
  apply Bool.eq_false_iff.mpr
  intro is_result
  obtain ⟨rest, opens⟩ := Text.startsWith_iff.mp is_result
  obtain ⟨rest', opens'⟩ := Text.startsWith_iff.mp is_type
  rw [opens, toList_typeField] at opens'
  simp at opens'

theorem Belongs.not_result {name line : String} (owns : Belongs name line) :
    Text.startsWith ":rtype:" line = false := by
  cases owns with
  | type named is_type => exact not_result_of_typeField is_type
  | param spelling is_param =>
      apply Bool.eq_false_iff.mpr
      intro is_result
      obtain ⟨rest, opens⟩ := Text.startsWith_iff.mp is_result
      obtain ⟨keyword, argument, read, -, -⟩ := isParamLine_iff.mp is_param
      obtain ⟨before, head, after, gap, gap', shape, unseen, unseen', nonempty,
          split⟩ :=
        keywordAndArgument?_eq_some.mp read
      have shape' : [] ++ ':' :: (['r', 't', 'y', 'p', 'e'] ++ ':' :: rest) =
          before ++ ':' :: (head ++ ':' :: after) := by
        rw [← shape, opens]
        rfl
      obtain ⟨rfl, tail⟩ := Text.eq_of_first_place (by simp) unseen shape'
      obtain ⟨rfl, -⟩ := Text.eq_of_first_place (by decide) unseen' tail
      -- The head is a single word, which leaves nothing for an argument.
      have first := firstWord?_of_split split
      have alone : firstWord? ['r', 't', 'y', 'p', 'e'] =
          some (['r', 't', 'y', 'p', 'e'], []) := by
        decide
      rw [alone, Option.some.injEq, Prod.mk.injEq] at first
      exact nonempty (by simpa using first.2.symm)

theorem IsTypeBlock.not_result {documented : String} {block : Lines}
    (is_block : IsTypeBlock documented block) :
    ∀ line ∈ block, Text.startsWith ":rtype:" line = false := by
  obtain ⟨first, more, rfl, is_type, indented⟩ := is_block
  intro line inside
  cases inside with
  | head => exact not_result_of_typeField is_type
  | tail _ inside =>
      apply Bool.eq_false_iff.mpr
      intro is_result
      obtain ⟨rest, opens⟩ := Text.startsWith_iff.mp is_result
      have flush : isContinuation line = false :=
        isContinuation_of_colon (by simp [opens])
      rw [indented line inside] at flush
      cases flush

theorem Aligned.insert {pieces : List Piece}
    (aligned : Aligned visited hints lines current pieces) (position : Int)
    (line : String) :
    ∃ pieces', Aligned visited hints lines (insertLine current position line)
      pieces' := by
  have after_eq := aligned.after_eq
  rw [← List.take_append_drop (insertPlace current.length position) current] at after_eq
  obtain ⟨left, right, rfl, left_eq, right_eq⟩ := after_split after_eq
  have added := aligned.add line
  rw [left_eq, right_eq] at added
  exact ⟨_, added⟩

theorem Trail.returnPlace {mark : String → Prop} {pieces : List Piece} {lines' : Lines}
    {place : ReturnPlace} {blocksOf : Lines → Except Failure (List Rest.Block)}
    (trail : Trail visited hints lines current mark pieces)
    (marks : ∀ line, mark line → Text.startsWith ":rtype:" line = false)
    (found : Docstring.returnPlace blocksOf current = .ok (lines', place)) :
    ∃ pieces', Aligned visited hints lines lines' pieces' := by
  unfold Docstring.returnPlace at found
  split at found
  · rename_i index first
    cases found
    obtain ⟨front, line, rest, rfl, rfl, is_result, unseen⟩ :=
      findIdx?_eq_some_append.mp first
    have unmarked : ¬ mark line := by
      intro marked
      rw [marks line marked] at is_result
      cases is_result
    obtain ⟨left, right, rfl, rfl, rfl⟩ := trail.kept_at unmarked
    have removed := trail.toAligned.splice (.result line) rfl ?_ ?_ is_result
    · rw [List.eraseIdx_append_of_length_le (Nat.le_refl _), Nat.sub_self,
        List.eraseIdx_cons_zero]
      exact ⟨_, removed⟩
    · intro piece in_left other inside
      have made := trail.made piece (List.mem_append_left _ in_left)
      cases piece with
      | kept other' =>
          obtain rfl : other = other' := by simpa [Piece.before] using inside
          exact unseen other (List.mem_flatMap.mpr ⟨_, in_left, by simp [Piece.after]⟩)
      | added other' => cases inside
      | param spelled other' changed =>
          obtain rfl : other = other' := by simpa [Piece.before] using inside
          exact marks other made.1
      | types block field =>
          obtain ⟨_, _, _, _, _, _, _, _, is_block⟩ :=
            trail.excused _ (List.mem_append_left _ in_left)
          exact is_block.not_result other inside
      | result other' => exact made.elim
    · intro later in_right
      exact (trail.made later (by simp [in_right])).preceded rfl
  · split at found
    · cases found
      exact ⟨pieces, trail.toAligned⟩
    · obtain ⟨blocks, -, found⟩ := bind_eq_ok.mp found
      split at found
      · cases found
        exact ⟨pieces, trail.toAligned⟩
      · obtain ⟨place', -, found⟩ := bind_eq_ok.mp found
        cases found
        exact ⟨pieces, trail.toAligned⟩

theorem Aligned.injectReturn {pieces : List Piece} {type : String} {place : ReturnPlace}
    {result : Lines} (aligned : Aligned visited hints lines current pieces)
    (done : Docstring.injectReturn current type place true = .ok result) :
    ∃ pieces', Aligned visited hints lines result pieces' := by
  unfold Docstring.injectReturn at done
  simp only [Bool.not_true, Bool.false_and, Bool.false_eq_true, if_false, pure_bind,
    Bool.true_or, if_true] at done
  obtain ⟨⟨index, parted⟩, -, done⟩ := bind_eq_ok.mp done
  cases done
  have parting : ∃ pieces', Aligned visited hints lines
      (partAt current index parted).1 pieces' := by
    cases parted with
    | true => exact aligned.insert index ""
    | false => exact ⟨pieces, aligned⟩
  obtain ⟨pieces', aligned'⟩ := parting
  obtain ⟨pieces'', aligned''⟩ :=
    aligned'.insert (partAt current index parted).2 (":rtype: " ++ type)
  unfold insertField
  cases place.foundDirective with
  | true => exact aligned''.insert _ ""
  | false => exact ⟨pieces'', aligned''⟩

end DocHints.Docstring

namespace DocHints.Document

open Docstring

variable {settings : Settings} {blocksOf : Lines → Except Failure (List Rest.Block)}
  {text : Value → Except Failure String} {known : Knowledge}
  {visited : Argument → Draft → Prop} {hints : Annotations} {lines : Lines}
  {draft final : Draft} {pieces : List Piece}

def NoResult (line : String) : Prop :=
  Text.startsWith ":rtype:" line = false

theorem withResultDescription_trail {current : Lines} (hint : Value)
    (trail : Trail visited hints lines current NoResult pieces) :
    ∃ pieces', Trail visited hints lines (withResultDescription hint current)
      NoResult pieces' := by
  unfold withResultDescription
  split
  · exact ⟨pieces, trail⟩
  · rename_i description described
    split
    · exact ⟨pieces, trail⟩
    · have other : NoResult (":return: " ++ description) := by
        apply Bool.eq_false_iff.mpr
        intro is_result
        obtain ⟨rest, opens⟩ := Text.startsWith_iff.mp is_result
        simp at opens
      rw [← List.append_nil current] at trail
      exact trail.add other (isContinuation_of_colon (by simp))

theorem withResult_aligned {hint : Value} (own_field : settings.resultField = true)
    (fields : draft.layout = .fields)
    (trail : Trail visited hints lines draft.lines NoResult pieces)
    (done : withResult settings blocksOf text hint draft = .ok final) :
    ∃ pieces', Aligned visited hints lines final.lines pieces' := by
  have in_fields : (draft.withLines (withResultDescription hint draft.lines)).inFields =
      draft.withLines (withResultDescription hint draft.lines) := by
    simp [Draft.inFields, Draft.withLines, fields]
  unfold withResult at done
  rw [in_fields] at done
  obtain ⟨⟨lines', place⟩, found, done⟩ := bind_eq_ok.mp done
  obtain ⟨type, -, done⟩ := bind_eq_ok.mp done
  obtain ⟨result, injected, done⟩ := bind_eq_ok.mp done
  cases done
  rw [own_field] at injected
  obtain ⟨pieces', described⟩ := withResultDescription_trail hint trail
  obtain ⟨pieces'', removed⟩ := described.returnPlace (fun _ => id) found
  exact removed.injectReturn injected

theorem withKnownResult_aligned (own_field : settings.resultField = true)
    (fields : draft.layout = .fields)
    (trail : Trail visited hints lines draft.lines NoResult pieces)
    (done : withKnownResult settings blocksOf text known draft = .ok final) :
    ∃ pieces', Aligned visited hints lines final.lines pieces' := by
  unfold withKnownResult at done
  split at done
  · split at done
    · exact withResult_aligned own_field fields trail done
    · cases done
      exact ⟨pieces, trail.toAligned⟩
  · cases done
    exact ⟨pieces, trail.toAligned⟩

/--
No text is lost when the types of a signature are put into a docstring that is
laid out in fields: its lines come out as they were and in order, save those
with an excuse.  The type of the result has a field of its own, and defaults do
not go to the ends of descriptions.
-/
theorem withSignatureTypes_keeps_text {result : Lines}
    (no_sections : hasSections lines = false) (own_field : settings.resultField = true)
    (beside : settings.fields.defaults.isAfter ≠ .ok true)
    (named : WellNamed known.arguments)
    (done : withSignatureTypes settings blocksOf text known lines = .ok result) :
    ∃ pieces, Aligned (Visited text settings.fields known.hints (Draft.ofLines lines)
      known.arguments) known.hints lines result pieces := by
  obtain ⟨draft, given, done⟩ := bind_eq_ok.mp done
  obtain ⟨final, placed, done⟩ := bind_eq_ok.mp done
  cases done
  obtain ⟨fields, pieces, trail⟩ := injectParams_trail beside named no_sections given
  refine withKnownResult_aligned own_field fields (trail.mono ?_) placed
  rintro line ⟨argument, -, owns⟩
  exact owns.not_result

def oneParam : Knowledge where
  signature := some ⟨[⟨"x", .standard, none, none⟩], none⟩
  hints := [("x", .tuple []), ("return", .tuple [])]
  inInstance := []
  overloaded := false
  showsResult := fun _ _ => true

def commaSettings : Settings where
  render := {}
  fields := ⟨false, .style "comma"⟩

def agedLines : Lines :=
  ["Text.", ":type x: old", "  more", ":param int x: it", ":rtype: old", "End."]

theorem withSignatureTypes_keeps_text_aged :
    withSignatureTypes commaSettings (fun _ => .ok []) (fun _ => .ok "T") oneParam
      agedLines =
        .ok ["Text.", ":type x: T", ":param x: it", "", ":rtype: T", "End."] ∧
      ∃ pieces, Aligned
        (Visited (fun _ => .ok "T") commaSettings.fields oneParam.hints
          (Draft.ofLines agedLines) oneParam.arguments)
        oneParam.hints agedLines ["Text.", ":type x: T", ":param x: it", "",
          ":rtype: T", "End."]
        pieces := by
  have done : withSignatureTypes commaSettings (fun _ => .ok []) (fun _ => .ok "T")
      oneParam
      agedLines = .ok ["Text.", ":type x: T", ":param x: it", "", ":rtype: T",
        "End."] :=
    eq_ok_of_toOption (by decide +kernel)
  exact ⟨done, withSignatureTypes_keeps_text (by decide +kernel) rfl
    (isAfter_ne_true (.inr (.inl rfl)))
      (.of_identifiers (by decide +kernel) (by decide +kernel))
    done⟩

end DocHints.Document
