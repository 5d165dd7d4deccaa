import DocHints.Hints.TypeComment
import DocHints.Proofs.Cutting
import Mathlib.Data.List.Basic
import Mathlib.Tactic.MkIffOfInductiveProp

/-!
# The arguments of a comment

A comment `(arguments) -> result` writes types between commas, each perhaps with
stars before it.  The arguments hold an arrow of their own exactly if one behind
the first begins like one; divided at the commas outside of brackets, and
without stars and blanks, they are the types again.
-/

namespace DocHints.Hints

/-! ## Written comments -/

/-- How many brackets are open behind a text. -/
def bracketDepth (chars : List Char) : Int :=
  chars.countP (fun c => c == '[' || c == '(') - chars.countP
    (fun c => c == ']' || c == ')')

/-- A type as an argument gives it: its commas stand inside of brackets. -/
@[mk_iff]
structure ArgumentText (text : String) : Prop where
  told : text ≠ ""
  unpadded : Text.trim text = text
  unstarred : text.toList.head? ≠ some '*'
  unopened : text.toList.head? ≠ some '('
  unclosed : text.toList.getLast? ≠ some ')'
  balanced : bracketDepth text.toList = 0
  enclosed : ∀ i < text.toList.length, text.toList[i]? = some ',' →
    0 < bracketDepth (text.toList.take i)

instance (text : String) : Decidable (ArgumentText text) :=
  decidable_of_iff _ (argumentText_iff text).symm

def starredChars (stars : Nat) (text : String) : List Char :=
  List.replicate stars '*' ++ text.toList

def starred (stars : Nat) (text : String) : String :=
  String.ofList (starredChars stars text)

def joinedChars : List (List Char) → List Char
  | [] => []
  | first :: rest => first ++ rest.flatMap fun piece => ',' :: ' ' :: piece

theorem toList_join (texts : List String) :
    (Text.join ", " texts).toList = joinedChars (texts.map String.toList) := by
  cases texts with
  | nil => rfl
  | cons first rest =>
      induction rest generalizing first with
      | nil => simp [Text.join, joinedChars]
      | cons second rest ih =>
          rw [Text.join_cons (by simp), String.toList_append, String.toList_append, ih]
          simp [joinedChars]

structure WrittenArgument where
  stars : Nat
  text : String
  well : ArgumentText text := by decide
  direct : Text.contains " -> " text = false := by decide

namespace WrittenArgument

def chars (arg : WrittenArgument) : List Char :=
  starredChars arg.stars arg.text

def written (arg : WrittenArgument) : String :=
  starred arg.stars arg.text

end WrittenArgument

def signatureComment (args : List WrittenArgument) (result : String) : String :=
  "(" ++ Text.join ", " (args.map WrittenArgument.written) ++ ") -> " ++ result

def arrow : List Char :=
  [' ', '-', '>', ' ']

theorem toList_signatureComment (args : List WrittenArgument) (result : String) :
    (signatureComment args result).toList =
      ('(' :: joinedChars (args.map WrittenArgument.chars)) ++ ')' ::
        (arrow ++ result.toList) := by
  have inner : (args.map WrittenArgument.written).map String.toList =
      args.map WrittenArgument.chars := by
    simp [Function.comp_def, WrittenArgument.written, WrittenArgument.chars, starred]
  simp [signatureComment, toList_join, inner, arrow]

/-! ## The arrow -/

/-- An argument behind another one that begins with the rest of an arrow. -/
def WrittenArgument.OpensWithArrow (arg : WrittenArgument) : Prop :=
  arg.stars = 0 ∧ Text.startsWith "-> " arg.text = true

theorem not_arrow_chars (arg : WrittenArgument) : ¬ arrow <:+: arg.chars := by
  rw [WrittenArgument.chars, starredChars]
  generalize arg.stars = stars
  induction stars with
  | zero => exact Text.not_infix_of_contains arg.direct
  | succ stars ih =>
      rw [List.replicate_succ, List.cons_append]
      intro inside
      rcases (Text.infix_outside_iff [] (c := '*') (by decide)).mp inside
          with found | found
      · exact absurd (List.infix_nil.mp found) (by decide)
      · exact ih found

theorem arrow_behind_blank_iff (arg : WrittenArgument) :
    arrow <:+: ' ' :: arg.chars ↔ arg.OpensWithArrow := by
  rw [List.infix_cons_iff, or_iff_left (not_arrow_chars arg), arrow,
    List.cons_prefix_cons]
  simp only [true_and, WrittenArgument.OpensWithArrow, WrittenArgument.chars,
    starredChars]
  cases arg.stars with
  | zero =>
      rw [Text.startsWith_iff]
      simp [List.IsPrefix, eq_comm]
  | succ stars => simp [List.replicate_succ]

theorem arrow_arguments_iff (args : List WrittenArgument) :
    arrow <:+: joinedChars (args.map WrittenArgument.chars) ↔
      ∃ arg ∈ args.tail, arg.OpensWithArrow := by
  cases args with
  | nil => simp [joinedChars, arrow]
  | cons first rest =>
      have spread : ∀ front,
          arrow <:+: front ++
            ((rest.map WrittenArgument.chars).flatMap (',' :: ' ' :: ·)) ↔
            arrow <:+: front ∨ ∃ arg ∈ rest, arg.OpensWithArrow := by
        induction rest with
        | nil => simp
        | cons arg rest ih =>
            intro front
            have comma : ',' ∉ arrow := by decide
            rw [List.map_cons, List.flatMap_cons, List.cons_append,
              Text.infix_outside_iff front comma, ih, arrow_behind_blank_iff]
            simp
      rw [List.map_cons, joinedChars, spread, or_iff_right (not_arrow_chars first),
        List.tail_cons]

/-! ## The commas -/

theorem bracketDepth_cons (c : Char) (chars : List Char) :
    bracketDepth (c :: chars) = depthChange c + bracketDepth chars := by
  have change : depthChange c =
      (if c == '[' || c == '(' then 1 else 0) -
        (if c == ']' || c == ')' then 1 else 0) := by
    unfold depthChange
    grind
  simp only [bracketDepth, List.countP_cons, change]
  split <;> split <;> omega

/-- A text that is passed over when arguments are divided. -/
def Passed (chars : List Char) : Prop :=
  ∀ piece rest, splitAtCommas 0 piece (chars ++ rest) =
    splitAtCommas 0 (chars.reverse ++ piece) rest

theorem Passed.append {front back : List Char} (passed : Passed front)
    (passed_back : Passed back) : Passed (front ++ back) := by
  intro piece rest
  rw [List.append_assoc, passed, passed_back, List.reverse_append, List.append_assoc]

theorem passed_singleton {c : Char} (other : c ≠ ',') (plain : depthChange c = 0) :
    Passed [c] := by
  intro piece rest
  simp [splitAtCommas, other, plain]

theorem splitAtCommas_enclosed {chars : List Char} {depth : Int}
    (piece rest : List Char) (enclosed : ∀ i < chars.length, chars[i]? = some ',' →
      depth + bracketDepth (chars.take i) ≠ 0) :
    splitAtCommas depth piece (chars ++ rest) =
      splitAtCommas (depth + bracketDepth chars) (chars.reverse ++ piece) rest := by
  induction chars generalizing depth piece with
  | nil => simp [bracketDepth]
  | cons c chars ih =>
      have goes_on : (decide (c = ',') && depth == 0) = false := by
        have first := enclosed 0 (by simp)
        simp only [List.getElem?_cons_zero, Option.some.injEq, List.take_zero,
          bracketDepth, List.countP_nil] at first
        grind
      have later : ∀ i < chars.length, chars[i]? = some ',' →
          depth + depthChange c + bracketDepth (chars.take i) ≠ 0 := by
        intro i inside comma
        have next := enclosed (i + 1) (by simpa using inside) (by simpa using comma)
        rw [List.take_succ_cons, bracketDepth_cons] at next
        omega
      rw [List.cons_append, splitAtCommas, if_neg (by simp [goes_on]), ih _ later,
        bracketDepth_cons]
      simp [Int.add_assoc]

theorem splitAtCommas_joined {first : List Char} {rest : List (List Char)}
    (passed : Passed first) (passed_rest : ∀ chars ∈ rest, Passed chars) :
    splitAtCommas 0 [] (first ++ rest.flatMap (',' :: ·)) = first :: rest := by
  induction rest generalizing first with
  | nil =>
      rw [List.flatMap_nil, passed, splitAtCommas]
      simp
  | cons second rest ih =>
      have later := ih (passed_rest second (by simp)) fun chars inside =>
        passed_rest chars (by simp [inside])
      rw [passed, List.flatMap_cons, List.cons_append, splitAtCommas]
      simp [later]

/-! ## Types with stars -/

theorem head?_starredChars (stars : Nat) (text : String) :
    ∀ c ∈ (starredChars stars text).head?, c = '*' ∨ c ∈ text.toList.head? := by
  intro c first
  rw [starredChars] at first
  cases stars with
  | zero => exact .inr (by simpa using first)
  | succ stars =>
      rw [List.replicate_succ, List.cons_append, List.head?_cons] at first
      exact .inl (Option.some.inj first).symm

theorem beq_eq_false_of_mem {c d : Char} {edge : Option Char} (inside : c ∈ edge)
    (other : edge ≠ some d) : (c == d) = false := by
  apply beq_eq_false_iff_ne.mpr
  rintro rfl
  exact other inside

section

variable {text : String} (well : ArgumentText text)

include well

theorem passed_text : Passed text.toList := by
  intro piece rest
  have enclosed : ∀ i < text.toList.length, text.toList[i]? = some ',' →
      0 + bracketDepth (text.toList.take i) ≠ 0 := by
    intro i inside comma
    have deep := well.enclosed i inside comma
    omega
  rw [splitAtCommas_enclosed piece rest enclosed, well.balanced, Int.add_zero]

theorem text_ne_nil : text.toList ≠ [] := by
  simpa using well.told

theorem text_edges : (∀ c ∈ text.toList.head?, Text.isBlank c = false) ∧
    ∀ c ∈ text.toList.getLast?, Text.isBlank c = false := by
  apply Text.edges_of_dropEndsWhile
  simpa [Text.trim, ← String.toList_inj] using well.unpadded

variable (stars : Nat)

theorem passed_starredChars : Passed (starredChars stars text) := by
  rw [starredChars]
  induction stars with
  | zero => exact passed_text well
  | succ stars ih =>
      exact (passed_singleton (c := '*') (by decide) (by decide)).append ih

theorem starredChars_ne_nil : starredChars stars text ≠ [] := by
  simp [starredChars, well.told]

theorem getLast?_starredChars (front : List Char) :
    (front ++ starredChars stars text).getLast? = text.toList.getLast? := by
  rw [starredChars, ← List.append_assoc,
    List.getLast?_append_of_ne_nil _ (text_ne_nil well)]

theorem dropWhile_starredChars :
    (starredChars stars text).dropWhile (· == '*') = text.toList := by
  rw [starredChars, List.dropWhile_append_of_pos (by simp)]
  apply Text.dropWhile_of_head
  exact fun c first => beq_eq_false_of_mem first well.unstarred

theorem cleanArgument_starredChars :
    cleanArgument (starredChars stars text) = text := by
  have kept : Text.dropEndsWhile Text.isBlank (starredChars stars text) =
      starredChars stars text := by
    apply Text.dropEndsWhile_of_edges
    · intro c first
      rcases head?_starredChars stars text c first with rfl | first
      · decide
      · exact (text_edges well).1 c first
    · rw [← List.nil_append (starredChars stars text),
        getLast?_starredChars well stars []]
      exact (text_edges well).2
  rw [cleanArgument, kept, dropWhile_starredChars well, String.ofList_toList]

theorem cleanArgument_blank :
    cleanArgument (' ' :: starredChars stars text) = text := by
  have same : cleanArgument (' ' :: starredChars stars text) =
      cleanArgument (starredChars stars text) := rfl
  rw [same, cleanArgument_starredChars well]

end

/-! ## The arguments -/

theorem splitArguments_parenthesised {inner : List Char}
    (first : ∀ c ∈ inner.head?, (c == '(') = false)
    (last : ∀ c ∈ inner.getLast?, (c == ')') = false) :
    splitArguments (String.ofList ('(' :: inner ++ [')'])) =
      if inner.isEmpty then [] else (splitAtCommas 0 [] inner).map cleanArgument := by
  have bare : Text.dropEndsWhile Text.isBlank ('(' :: inner ++ [')']) =
      '(' :: inner ++ [')'] := by
    have edges : Text.isBlank '(' = false ∧ Text.isBlank ')' = false := by decide
    apply Text.dropEndsWhile_of_edges
    · simpa using edges.1
    · rw [List.getLast?_concat]
      simpa using edges.2
  have opened : (inner ++ [')']).dropWhile (· == '(') = inner ++ [')'] := by
    apply Text.dropWhile_of_head
    intro c opens
    rw [List.head?_append] at opens
    cases head : inner.head? with
    | some d =>
        rw [head] at opens
        cases opens
        exact first _ head
    | none =>
        rw [head] at opens
        cases opens
        decide
  have closed : Text.dropEndWhile (· == ')') (inner ++ [')']) = inner := by
    rw [Text.dropEndWhile, List.reverse_append, List.reverse_singleton,
      List.singleton_append, List.dropWhile_cons_of_pos (by decide)]
    exact Text.dropEndWhile_of_last last
  simp only [splitArguments, String.toList_ofList, bare]
  rw [List.cons_append, List.dropWhile_cons_of_pos (by decide), opened, closed]

section

variable {args : List (Nat × String)} (each : ∀ arg ∈ args, ArgumentText arg.2)

include each

theorem splitAtCommas_joinedChars (some_arg : args ≠ []) :
    (splitAtCommas 0 []
      (joinedChars (args.map fun arg => starredChars arg.1 arg.2))).map
      cleanArgument = args.map (·.2) := by
  cases args with
  | nil => exact absurd rfl some_arg
  | cons first rest =>
      have pieces : joinedChars ((first :: rest).map fun arg =>
          starredChars arg.1 arg.2) = starredChars first.1 first.2 ++
            (rest.map fun arg => ' ' :: starredChars arg.1 arg.2).flatMap
              (',' :: ·) := by
        simp [joinedChars, List.flatMap_map]
      have well := each first (by simp)
      have later : ∀ arg ∈ rest, ArgumentText arg.2 :=
        fun arg inside => each arg (by simp [inside])
      have passed : ∀ chars ∈ rest.map fun arg =>
          ' ' :: starredChars arg.1 arg.2, Passed chars := by
        intro chars inside
        obtain ⟨arg, own, rfl⟩ := List.mem_map.mp inside
        exact (passed_singleton (c := ' ') (by decide) (by decide)).append
          (passed_starredChars (later arg own) arg.1)
      rw [pieces, splitAtCommas_joined (passed_starredChars well first.1) passed,
        List.map_cons, List.map_map, cleanArgument_starredChars well, List.map_cons]
      congr 1
      exact List.map_congr_left fun arg own => cleanArgument_blank (later arg own) arg.1

theorem head?_joinedChars :
    ∀ c ∈ (joinedChars (args.map fun arg => starredChars arg.1 arg.2)).head?,
    (c == '(') = false := by
  cases args with
  | nil => simp [joinedChars]
  | cons first rest =>
      intro c opens
      have well := each first (by simp)
      rw [List.map_cons, joinedChars,
        List.head?_append_of_ne_nil _ (starredChars_ne_nil well first.1)] at opens
      rcases head?_starredChars first.1 first.2 c opens with rfl | own
      · decide
      · exact beq_eq_false_of_mem own well.unopened

theorem getLast?_joinedChars :
    ∀ c ∈ (joinedChars (args.map fun arg => starredChars arg.1 arg.2)).getLast?,
      (c == ')') = false := by
  rcases List.eq_nil_or_concat args with rfl | ⟨before, last, rfl⟩
  · simp [joinedChars]
  · have well := each last (by simp)
    -- The last argument ends the characters, whatever stands before it.
    have split : ∃ front, joinedChars
        ((before.concat last).map fun arg => starredChars arg.1 arg.2) =
        front ++ starredChars last.1 last.2 := by
      cases before with
      | nil => exact ⟨[], by simp [joinedChars]⟩
      | cons first before =>
          refine ⟨joinedChars ((first :: before).map fun arg =>
            starredChars arg.1 arg.2) ++ [',', ' '], ?_⟩
          simp [joinedChars]
    obtain ⟨front, split⟩ := split
    rw [split, getLast?_starredChars well last.1 front]
    exact fun c ends => beq_eq_false_of_mem ends well.unclosed

theorem splitArguments_joinedChars :
    splitArguments (String.ofList
      ('(' :: joinedChars (args.map fun arg => starredChars arg.1 arg.2) ++ [')'])) =
        args.map (·.2) := by
  rw [splitArguments_parenthesised (head?_joinedChars each) (getLast?_joinedChars each)]
  cases args with
  | nil => rfl
  | cons first rest =>
      have nonempty :
          (joinedChars ((first :: rest).map fun arg =>
            starredChars arg.1 arg.2)).isEmpty = false := by
        simp [joinedChars, starredChars_ne_nil (each first (by simp)) first.1]
      rw [nonempty, if_neg Bool.false_ne_true, splitAtCommas_joinedChars each (by simp)]

end

theorem splitArguments_written (args : List WrittenArgument) :
    splitArguments
      (String.ofList ('(' :: joinedChars (args.map WrittenArgument.chars) ++ [')'])) =
      args.map WrittenArgument.text := by
  have each : ∀ arg ∈ args.map fun arg =>
      (arg.stars, arg.text), ArgumentText arg.2 := by
    intro pair inside
    obtain ⟨arg, -, rfl⟩ := List.mem_map.mp inside
    exact arg.well
  have read := splitArguments_joinedChars each
  rwa [List.map_map, List.map_map] at read

example : splitArguments "(Dict[str, int], **bool)" = ["Dict[str, int]", "bool"] := by
  decide

theorem splitArguments_starred (args : List (Nat × String))
    (each : ∀ arg ∈ args, ArgumentText arg.2) :
    splitArguments
      ("(" ++ Text.join ", " (args.map fun arg => starred arg.1 arg.2) ++ ")") =
      args.map (·.2) := by
  rw [← splitArguments_joinedChars each]
  congr 1
  rw [← String.toList_inj]
  simp [toList_join, starred, Function.comp_def]

/--
Types in parentheses, with commas between them, are read back as they are, and
so they are with stars before any of them.
-/
theorem splitArguments_join (texts : List String)
    (each : ∀ text ∈ texts, ArgumentText text) :
    splitArguments ("(" ++ Text.join ", " texts ++ ")") = texts ∧
    ∀ stars : List Nat, stars.length = texts.length →
      splitArguments
        ("(" ++ Text.join ", " (List.zipWith starred stars texts) ++ ")") = texts := by
  constructor
  · have plain :=
      splitArguments_starred (texts.map fun text => (0, text)) (by simpa using each)
    simpa [Function.comp_def, starred, starredChars] using plain
  · intro stars length
    have read := splitArguments_starred (stars.zip texts)
      fun arg inside => each arg.2 (List.of_mem_zip inside).2
    rw [List.map_snd_zip (by omega)] at read
    simpa [List.zip, List.map_zipWith] using read

theorem splitArguments_join_nested :
    splitArguments "(Callable[[int, str], bool], Tuple[()])" =
      ["Callable[[int, str], bool]", "Tuple[()]"] ∧
    splitArguments "(*Callable[[int, str], bool], **Tuple[()])" =
      ["Callable[[int, str], bool]", "Tuple[()]"] := by
  obtain ⟨plain, marked⟩ :=
    splitArguments_join ["Callable[[int, str], bool]", "Tuple[()]"] (by decide)
  exact ⟨plain, marked [1, 2] rfl⟩

end DocHints.Hints
