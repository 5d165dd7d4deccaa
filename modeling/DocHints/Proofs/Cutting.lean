import DocHints.Text.Cut

/-!
# Cutting text

What the searches on texts find and how a mark divides them, in terms of the
characters before and after the mark, and which texts lose nothing at their
ends.
-/

namespace DocHints.Text

theorem dropStart?_eq_some_iff {mark chars rest : List Char} :
    dropStart? mark chars = some rest ↔ chars = mark ++ rest := by
  fun_induction dropStart? mark chars with
  | case1 chars => simp [eq_comm]
  | case2 => simp
  | case3 mark c chars ih => simpa using ih
  | case4 m mark c chars differs =>
      simp only [reduceCtorEq, List.cons_append, List.cons.injEq, false_iff, not_and]
      intro same
      exact absurd same.symm differs

theorem startsWith_iff {mark s : String} :
    startsWith mark s = true ↔ ∃ rest, s.toList = mark.toList ++ rest := by
  simp [startsWith, Option.isSome_iff_exists, dropStart?_eq_some_iff]

theorem endsWith_iff {mark s : String} :
    endsWith mark s = true ↔ ∃ front, s.toList = front ++ mark.toList := by
  simp only [endsWith, Option.isSome_iff_exists, dropStart?_eq_some_iff]
  constructor
  · rintro ⟨rest, reversed⟩
    refine ⟨rest.reverse, ?_⟩
    rw [← List.reverse_inj, reversed]
    simp
  · rintro ⟨front, split⟩
    exact ⟨front.reverse, by simp [split]⟩

theorem cut?_singleton {c : Char} {chars before after : List Char} :
    cut? [c] chars = some (before, after) ↔
      chars = before ++ c :: after ∧ c ∉ before := by
  induction chars generalizing before with
  | nil => simp [cut?]
  | cons d rest ih =>
      simp only [cut?, dropStart?]
      by_cases same : c = d
      · subst same
        cases before with
        | nil => simp [eq_comm]
        | cons b front =>
            simp only [if_true, Option.some.injEq, Prod.mk.injEq, List.nil_eq,
              reduceCtorEq, false_and, List.cons_append, List.cons.injEq,
              List.mem_cons, not_or, false_iff]
            rintro ⟨⟨first, _⟩, differs, _⟩
            exact differs first
      · simp only [same, if_false, Option.map_eq_some_iff, Prod.exists, Prod.mk.injEq]
        cases before with
        | nil => simp [Ne.symm same]
        | cons b front =>
            simp only [List.cons_append, List.cons.injEq, List.mem_cons, not_or]
            constructor
            · rintro ⟨front', after', found, ⟨rfl, rfl⟩, rfl⟩
              obtain ⟨split, unseen⟩ := ih.mp found
              exact ⟨⟨rfl, split⟩, same, unseen⟩
            · rintro ⟨⟨rfl, split⟩, _, unseen⟩
              exact ⟨front, after, ih.mpr ⟨split, unseen⟩, ⟨rfl, rfl⟩, rfl⟩

theorem eq_of_first_place {c : Char} {front front' rest rest' : List Char}
    (unseen : c ∉ front) (unseen' : c ∉ front')
    (same : front ++ c :: rest = front' ++ c :: rest') :
    front = front' ∧ rest = rest' := by
  have first : cut? [c] (front ++ c :: rest) = some (front, rest) :=
    cut?_singleton.mpr ⟨rfl, unseen⟩
  have second : cut? [c] (front ++ c :: rest) = some (front', rest') :=
    cut?_singleton.mpr ⟨same, unseen'⟩
  rw [first] at second
  simpa using second

theorem front_of_place {c : Char} {front rest head after : List Char}
    (unseen : c ∉ front) (same : front ++ rest = head ++ c :: after) :
    ∃ more, head = front ++ more := by
  rcases List.append_eq_append_iff.mp same with ⟨more, rfl, -⟩ | ⟨more, rfl, tail⟩
  · exact ⟨more, rfl⟩
  · cases more with
    | nil => exact ⟨[], by simp⟩
    | cons d more =>
        simp only [List.cons_append, List.cons.injEq] at tail
        exact absurd (by simp [tail.1]) unseen

theorem cut?_eq_some {mark chars before after : List Char}
    (found : cut? mark chars = some (before, after)) :
    chars = before ++ mark ++ after := by
  induction chars generalizing before with
  | nil =>
      simp only [cut?] at found
      split at found
      · rename_i empty
        cases found
        simpa using empty
      · cases found
  | cons c rest ih =>
      simp only [cut?] at found
      split at found
      · rename_i dropped
        cases found
        simpa using dropStart?_eq_some_iff.mp dropped
      · obtain ⟨⟨front, back⟩, found', same⟩ := Option.map_eq_some_iff.mp found
        cases same
        simp [ih found']

theorem contains_iff {mark s : String} :
    contains mark s = true ↔ ∃ front rest, s.toList = front ++ mark.toList ++ rest := by
  constructor
  · intro found
    obtain ⟨⟨front, rest⟩, cut⟩ := Option.isSome_iff_exists.mp found
    exact ⟨front, rest, cut?_eq_some cut⟩
  · rintro ⟨front, rest, split⟩
    rw [contains, split]
    clear split
    induction front with
    | nil =>
        have dropped : dropStart? mark.toList (mark.toList ++ rest) = some rest :=
          dropStart?_eq_some_iff.mpr rfl
        rw [List.nil_append]
        generalize chars_eq : mark.toList ++ rest = chars at dropped
        cases chars with
        | nil => simpa [cut?] using (List.append_eq_nil_iff.mp chars_eq).1
        | cons c chars => simp [cut?, dropped]
    | cons c front ih =>
        simp only [List.cons_append, cut?]
        split
        · rfl
        · simpa using ih

theorem splitLast?_dot {name module member : String} :
    splitLast? "." name = some (module, member) ↔
      name = module ++ "." ++ member ∧ '.' ∉ member.toList := by
  have mark : ".".toList.reverse = ['.'] := rfl
  simp only [splitLast?, cutLast?, mark, Option.map_map, Option.map_eq_some_iff,
    Prod.exists, Function.comp_apply, Prod.mk.injEq, cut?_singleton]
  constructor
  · rintro ⟨before, after, ⟨split, unseen⟩, rfl, rfl⟩
    refine ⟨String.toList_inj.mp ?_, by simpa using unseen⟩
    rw [← List.reverse_inj, split]
    simp
  · rintro ⟨rfl, unseen⟩
    refine ⟨member.toList.reverse, module.toList.reverse,
      ⟨by simp, by simpa using unseen⟩, ?_, ?_⟩
    · simp
    · simp

theorem splitLast?_undotted {name : String} (undotted : '.' ∉ name.toList) :
    splitLast? "." name = none := by
  cases split : splitLast? "." name with
  | none => rfl
  | some halves =>
      obtain ⟨rfl, -⟩ := splitLast?_dot.mp split
      simp at undotted

theorem splitLast?_eq_none_iff {name : String} :
    splitLast? "." name = none ↔ '.' ∉ name.toList := by
  refine ⟨?_, splitLast?_undotted⟩
  intro unsplit dotted
  -- The last dot is the first one of the reversed name.
  obtain ⟨last, front, split, unseen⟩ :=
    List.eq_append_cons_of_mem (List.mem_reverse.mpr dotted)
  have parts : name = String.ofList front.reverse ++ "." ++
      String.ofList last.reverse := by
    rw [List.reverse_eq_iff] at split
    simp [← String.toList_inj, split]
  have found := splitLast?_dot.mpr ⟨parts, by simpa using unseen⟩
  rw [unsplit] at found
  cases found

theorem lastPart_dot {module member : String} (undotted : '.' ∉ member.toList) :
    lastPart (module ++ "." ++ member) = member := by
  rw [lastPart, splitLast?_dot.mpr ⟨rfl, undotted⟩]

theorem undotted_lastPart (name : String) : '.' ∉ (lastPart name).toList := by
  unfold lastPart
  split
  · rename_i split
    exact (splitLast?_dot.mp split).2
  · rename_i unsplit
    exact splitLast?_eq_none_iff.mp unsplit

theorem lastPart_eq_self_iff {name : String} :
    lastPart name = name ↔ '.' ∉ name.toList := by
  constructor
  · intro same
    rw [← same]
    exact undotted_lastPart name
  · intro undotted
    rw [lastPart, splitLast?_undotted undotted]

/-! ## Dividing at a mark -/

theorem prefix_of_outside {α : Type} {c : α} {mark rest : List α} (front : List α)
    (outside : c ∉ mark) (opens : mark <+: front ++ c :: rest) : mark <+: front := by
  rcases List.prefix_or_prefix_of_prefix opens
      (List.prefix_append front (c :: rest)) with
    within | ⟨more, rfl⟩
  · exact within
  · cases more with
    | nil => simp
    | cons d more =>
        obtain ⟨rfl, -⟩ :=
          List.cons_prefix_cons.mp ((List.prefix_append_right_inj front).mp opens)
        simp at outside

theorem infix_outside_iff {α : Type} {c : α} {mark rest : List α} (front : List α)
    (outside : c ∉ mark) :
    mark <:+: front ++ c :: rest ↔ mark <:+: front ∨ mark <:+: rest := by
  constructor
  · intro inside
    induction front with
    | nil =>
        rcases List.infix_cons_iff.mp inside with opens | later
        · have empty := prefix_of_outside [] outside opens
          rw [List.prefix_nil.mp empty]
          exact .inl List.nil_infix
        · exact .inr later
    | cons a front ih =>
        rcases List.infix_cons_iff.mp inside with opens | later
        · exact .inl (prefix_of_outside (a :: front) outside opens).isInfix
        · exact (ih later).imp_left fun found => List.infix_cons_iff.mpr (.inr found)
  · rintro (found | found)
    · exact found.trans (List.prefix_append front _).isInfix
    · exact found.trans
        ((List.suffix_cons c rest).trans (List.suffix_append front _)).isInfix

theorem not_infix_of_contains {mark s : String} (absent : contains mark s = false) :
    ¬ mark.toList <:+: s.toList := by
  rintro ⟨front, rest, split⟩
  have found : contains mark s = true := contains_iff.mpr ⟨front, rest, split.symm⟩
  rw [absent] at found
  cases found

section

variable {mark : List Char}

theorem dropStart?_eq_none_iff {chars : List Char} :
    dropStart? mark chars = none ↔ ¬ mark <+: chars := by
  rw [Option.eq_none_iff_forall_ne_some]
  constructor
  · rintro refused ⟨rest, rfl⟩
    exact refused rest (dropStart?_eq_some_iff.mpr rfl)
  · intro differs rest dropped
    exact differs ⟨rest, (dropStart?_eq_some_iff.mp dropped).symm⟩

theorem divideFrom_step {c : Char} {rest : List Char} (piece : List Char)
    (differs : ¬ mark <+: c :: rest) :
    divideFrom mark (c :: rest) 0 piece = divideFrom mark rest 0 (c :: piece) := by
  rw [divideFrom, dropStart?_eq_none_iff.mpr differs]

theorem divideFrom_free {chars : List Char} (piece : List Char)
    (free : ¬ mark <:+: chars) :
    divideFrom mark chars 0 piece = [piece.reverse ++ chars] := by
  induction chars generalizing piece with
  | nil => simp [divideFrom]
  | cons c rest ih =>
      rw [List.infix_cons_iff, not_or] at free
      rw [divideFrom_step piece free.1, ih _ free.2]
      simp

theorem divideFrom_skip (skipped rest piece : List Char) :
    divideFrom mark (skipped ++ rest) skipped.length piece =
      divideFrom mark rest 0 piece := by
  induction skipped with
  | nil => rfl
  | cons c skipped ih => exact ih

theorem divideFrom_ne_nil (mark chars : List Char) (skip : Nat) (piece : List Char) :
    divideFrom mark chars skip piece ≠ [] := by
  fun_induction divideFrom mark chars skip piece with
  | case1 => simp
  | case2 _ _ _ _ ih => exact ih
  | case3 => simp
  | case4 _ _ _ _ ih => exact ih

variable (told : mark ≠ [])

include told

theorem divideFrom_mark (rest piece : List Char) :
    divideFrom mark (mark ++ rest) 0 piece =
      piece.reverse :: divideFrom mark rest 0 [] := by
  cases mark with
  | nil => exact absurd rfl told
  | cons m more =>
      have opens : dropStart? (m :: more) (m :: (more ++ rest)) = some rest :=
        dropStart?_eq_some_iff.mpr rfl
      rw [List.cons_append, divideFrom, opens]
      exact congrArg _ (divideFrom_skip more rest [])

theorem divideFrom_first {c : Char} {front : List Char} (rest piece : List Char)
    (outside : c ∉ mark) (free : ¬ mark <:+: front) :
    divideFrom mark (front ++ c :: (mark ++ rest)) 0 piece =
      (piece.reverse ++ front ++ [c]) :: divideFrom mark rest 0 [] := by
  induction front generalizing piece with
  | nil =>
      have differs : ¬ mark <+: c :: (mark ++ rest) := by
        intro opens
        exact told (List.prefix_nil.mp (prefix_of_outside [] outside opens))
      rw [List.nil_append, divideFrom_step piece differs, divideFrom_mark told]
      simp
  | cons a front ih =>
      rw [List.infix_cons_iff, not_or] at free
      have differs : ¬ mark <+: a :: (front ++ c :: (mark ++ rest)) := fun opens =>
        free.1 (prefix_of_outside (a :: front) outside opens)
      rw [List.cons_append, divideFrom_step piece differs, ih _ free.2]
      simp

theorem two_le_length_divideFrom {chars : List Char} (piece : List Char)
    (inside : mark <:+: chars) : 2 ≤ (divideFrom mark chars 0 piece).length := by
  induction chars generalizing piece with
  | nil => exact absurd (List.infix_nil.mp inside) told
  | cons c rest ih =>
      by_cases opens : mark <+: c :: rest
      · obtain ⟨after, split⟩ := opens
        rw [← split, divideFrom_mark told]
        have some_left := List.length_pos_iff.mpr (divideFrom_ne_nil mark after 0 [])
        simp only [List.length_cons]
        omega
      · rw [divideFrom_step piece opens]
        exact ih _ ((List.infix_cons_iff.mp inside).resolve_left opens)

theorem three_le_length_divideFrom {c : Char} {front : List Char}
    (rest piece : List Char) (outside : c ∉ mark) (inside : mark <:+: front) :
    3 ≤ (divideFrom mark (front ++ c :: (mark ++ rest)) 0 piece).length := by
  have again (more : List Char) : mark <:+: more ++ c :: (mark ++ rest) :=
    (infix_outside_iff more outside).mpr (.inr (List.prefix_append mark rest).isInfix)
  induction front generalizing piece with
  | nil => exact absurd (List.infix_nil.mp inside) told
  | cons a front ih =>
      by_cases opens : mark <+: a :: front
      · obtain ⟨after, split⟩ := opens
        rw [← split, List.append_assoc, divideFrom_mark told]
        have two := two_le_length_divideFrom told [] (again after)
        simp only [List.length_cons]
        omega
      · have differs : ¬ mark <+: a :: (front ++ c :: (mark ++ rest)) := fun found =>
          opens (prefix_of_outside (a :: front) outside found)
        rw [List.cons_append, divideFrom_step piece differs]
        exact ih _ ((List.infix_cons_iff.mp inside).resolve_left opens)

end

/-! ## Dropping at the ends -/

theorem dropWhile_of_head {p : Char → Bool} {chars : List Char}
    (first : ∀ c ∈ chars.head?, p c = false) : chars.dropWhile p = chars := by
  cases chars with
  | nil => rfl
  | cons c rest => rw [List.dropWhile_cons_of_neg (by simpa using first c rfl)]

theorem dropEndWhile_of_last {p : Char → Bool} {chars : List Char}
    (last : ∀ c ∈ chars.getLast?, p c = false) : dropEndWhile p chars = chars := by
  rw [dropEndWhile, dropWhile_of_head (by simpa using last), List.reverse_reverse]

theorem head_of_dropWhile {p : Char → Bool} {chars : List Char}
    (same : chars.dropWhile p = chars) : ∀ c ∈ chars.head?, p c = false := by
  intro c first
  have stopped := List.head?_dropWhile_not p chars
  rw [same, first] at stopped
  exact stopped

theorem edges_of_dropEndsWhile {p : Char → Bool} {chars : List Char}
    (same : dropEndsWhile p chars = chars) :
    (∀ c ∈ chars.head?, p c = false) ∧ ∀ c ∈ chars.getLast?, p c = false := by
  have start_kept : chars.dropWhile p = chars := by
    apply (List.dropWhile_suffix p).eq_of_length_le
    have shorter :=
      (List.dropWhile_suffix p (l := (chars.dropWhile p).reverse)).length_le
    have length := congrArg List.length same
    simp only [dropEndsWhile, dropEndWhile, dropStartWhile,
      List.length_reverse] at length shorter
    omega
  refine ⟨head_of_dropWhile start_kept, ?_⟩
  rw [dropEndsWhile, dropStartWhile, start_kept, dropEndWhile,
    List.reverse_eq_iff] at same
  simpa using head_of_dropWhile same

theorem dropEndsWhile_of_edges {p : Char → Bool} {chars : List Char}
    (first : ∀ c ∈ chars.head?, p c = false)
    (last : ∀ c ∈ chars.getLast?, p c = false) : dropEndsWhile p chars = chars := by
  rw [dropEndsWhile, dropStartWhile, dropWhile_of_head first, dropEndWhile_of_last last]

/-! ## Joining -/

theorem join_cons {between first : String} {rest : List String} (more : rest ≠ []) :
    join between (first :: rest) = first ++ between ++ join between rest :=
  String.intercalate_cons_of_ne_nil more

theorem join_append {between : String} {front rest : List String}
    (some_front : front ≠ []) (some_rest : rest ≠ []) :
    join between (front ++ rest) = join between front ++ between ++ join between rest :=
  String.intercalate_append_of_ne_nil some_front some_rest

/-! ## Dividing at a character -/

theorem divideFrom_char (c : Char) (front rest piece : List Char) :
    divideFrom [c] (front ++ c :: rest) 0 piece =
      divideFrom [c] front 0 piece ++ divideFrom [c] rest 0 [] := by
  induction front generalizing piece with
  | nil => simp [divideFrom, dropStart?]
  | cons d front ih =>
      by_cases same : c = d
      · subst same
        simp [divideFrom, dropStart?, ih]
      · simp [divideFrom, dropStart?, same, ih]

theorem not_mem_of_mem_divideFrom {c : Char} {chars piece part : List Char}
    (unseen : c ∉ piece) (inside : part ∈ divideFrom [c] chars 0 piece) : c ∉ part := by
  induction chars generalizing piece with
  | nil =>
      rw [divideFrom, List.mem_singleton] at inside
      simpa [inside] using unseen
  | cons d rest ih =>
      by_cases same : c = d
      · subst same
        have parts := divideFrom_char c [] rest piece
        rw [List.nil_append, divideFrom] at parts
        rw [parts, List.singleton_append, List.mem_cons] at inside
        rcases inside with rfl | later
        · simpa using unseen
        · exact ih (by simp) later
      · rw [divideFrom_step piece (by simpa using same)] at inside
        exact ih (by simp [same, unseen]) inside

theorem splitAll_ne_nil (mark s : String) : splitAll mark s ≠ [] := by
  simp [splitAll, divide, divideFrom_ne_nil]

section

variable {mark : String} {c : Char} (single : mark.toList = [c])

include single

theorem splitAll_append (front rest : String) :
    splitAll mark (front ++ mark ++ rest) =
      splitAll mark front ++ splitAll mark rest := by
  have chars : (front ++ mark ++ rest).toList =
      front.toList ++ c :: rest.toList := by simp [single]
  simp only [splitAll, divide, single, chars, divideFrom_char, List.map_append]

theorem splitAll_undivided {s : String} (unseen : c ∉ s.toList) :
    splitAll mark s = [s] := by
  have free : ¬ [c] <:+: s.toList := fun inside => unseen (inside.subset (by simp))
  simp [splitAll, divide, single, divideFrom_free [] free]

theorem not_mem_of_mem_splitAll {s part : String} (inside : part ∈ splitAll mark s) :
    c ∉ part.toList := by
  rw [splitAll, divide, single] at inside
  obtain ⟨chars, own, rfl⟩ := List.mem_map.mp inside
  simpa using not_mem_of_mem_divideFrom List.not_mem_nil own

theorem splitAll_join {pieces : List String} (some_piece : pieces ≠ [])
    (unseen : ∀ piece ∈ pieces, c ∉ piece.toList) :
    splitAll mark (join mark pieces) = pieces := by
  induction pieces with
  | nil => exact absurd rfl some_piece
  | cons first rest ih =>
      have own := splitAll_undivided single (unseen first (by simp))
      cases rest with
      | nil => simpa [join, String.intercalate_singleton] using own
      | cons second rest =>
          have later :=
            ih (by simp) fun piece inside =>
              unseen piece (List.mem_cons_of_mem _ inside)
          rw [join_cons (by simp), splitAll_append single, own, later,
            List.singleton_append]

theorem join_divideFrom_char (chars piece : List Char) :
    join mark ((divideFrom [c] chars 0 piece).map String.ofList) =
      String.ofList (piece.reverse ++ chars) := by
  induction chars generalizing piece with
  | nil => simp [divideFrom, join, String.intercalate_singleton]
  | cons d rest ih =>
      by_cases same : c = d
      · subst same
        have parts : divideFrom [c] (c :: rest) 0 piece =
            piece.reverse :: divideFrom [c] rest 0 [] := by
          simp [divideFrom, dropStart?]
        rw [parts, List.map_cons, join_cons (by simp [divideFrom_ne_nil]), ih]
        exact String.toList_inj.mp (by simp [single])
      · rw [divideFrom_step piece (by simpa using same), ih]
        simp

theorem join_splitAll (s : String) : join mark (splitAll mark s) = s := by
  have joined := join_divideFrom_char single s.toList []
  rw [splitAll, divide, single, joined]
  simp

end

/-! ## Dotted names -/

theorem dotted_append (front rest : String) :
    dotted (front ++ "." ++ rest) = dotted front ++ dotted rest :=
  splitAll_append rfl front rest

theorem dotted_ne_nil (name : String) : dotted name ≠ [] :=
  splitAll_ne_nil "." name

theorem length_dotted_pos (name : String) : 0 < (dotted name).length :=
  List.length_pos_iff.mpr (dotted_ne_nil name)

theorem join_dotted (name : String) : join "." (dotted name) = name :=
  join_splitAll rfl name

theorem dotted_undotted {name : String} (undotted : '.' ∉ name.toList) :
    dotted name = [name] :=
  splitAll_undivided rfl undotted

theorem dotted_of_splitLast? {name front last : String}
    (split : splitLast? "." name = some (front, last)) :
    dotted name = dotted front ++ [last] := by
  obtain ⟨rfl, undotted⟩ := splitLast?_dot.mp split
  rw [dotted_append, dotted_undotted undotted]

end DocHints.Text
