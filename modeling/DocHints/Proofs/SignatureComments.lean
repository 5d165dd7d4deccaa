import DocHints.Hints.Comment
import DocHints.Proofs.CommentArguments
import DocHints.Proofs.ModuleSteps

/-!
# Comments that give the types of a function

A comment `(arguments) -> result` gives a function its types.  They go to the
parameters in their order, with or without a first parameter that stands for the
receiver, as long as there are as many of them.  A second arrow makes the
comment unreadable, and a lone ellipsis leaves the parameters to the comments
behind them.
-/

namespace DocHints.Hints

open Program
open Source (Stmt FunctionHead)

/-! ## The types of the parameters -/

/--
The types that texts give to names in their order; a first name of a receiver
may be left out.
-/
def givenTypes (names texts : List String) (result : String) : List (String × String) :=
  ("return", result) ::
    if texts.length = names.length then names.zip texts
    else if texts.length + 1 = names.length ∧
      (names.head? = some "self" ∨ names.head? = some "cls")
    then names.tail.zip texts
    else []

theorem inlineTypes_eq {params : List CommentParam} {result : String}
    (distinct : ("return" :: params.map (·.name)).Nodup) :
    inlineTypes params [("return", result)] =
      ("return", result) :: params.filterMap fun param =>
        param.comment.map (param.name, ·) := by
  rw [inlineTypes, Entries.foldl_putSome (by simpa [Function.comp_def] using distinct),
    List.filterMap_map]
  rfl

theorem zipTypes_eq {params : List CommentParam} (texts : List (Option String))
    (result : String) (distinct : ("return" :: params.map (·.name)).Nodup)
    (long : params.length ≤ texts.length) :
    zipTypes params texts [("return", result)] =
      ("return", result) ::
        ((params.map (·.name)).zip texts).filterMap fun entry =>
          entry.2.map (entry.1, ·) := by
  have names : ((params.map (·.name)).zip texts).map (·.1) = params.map (·.name) :=
    List.map_fst_zip (by simpa using long)
  have distinct' : ([("return", result)].map (·.1) ++
      ((params.map (·.name)).zip texts).map (·.1)).Nodup := by
    rw [names]
    exact distinct
  rw [zipTypes, Entries.foldl_putSome distinct']
  rfl

theorem filterMap_zip_some (names texts : List String) :
    (names.zip (texts.map some)).filterMap (fun entry => entry.2.map (entry.1, ·)) =
      names.zip texts := by
  induction names generalizing texts with
  | nil => rfl
  | cons name names ih =>
      cases texts with
      | nil => rfl
      | cons text texts => simp [ih]

theorem known_result {result : String} (told : result ≠ "") :
    (if result.isEmpty then [] else [("return", result)]) = [("return", result)] :=
  if_neg (by simpa using told)

theorem commentTypes_given {params : List CommentParam}
    {comment arguments result : String} {texts : List String}
    (divided : Text.splitAll " -> " comment = [arguments, result])
    (read : splitArguments arguments = texts) (told : result ≠ "")
    (listed : texts ≠ ["..."]) (distinct : ("return" :: params.map (·.name)).Nodup) :
    (commentTypes params comment).1 =
      givenTypes (params.map (·.name)) texts result := by
  have not_inline : (texts == ["..."]) = false := by simpa using listed
  simp only [commentTypes, divided, read, known_result told, not_inline,
    Bool.false_eq_true, if_false]
  cases params with
  | nil =>
      cases texts with
      | nil => rfl
      | cons text texts => simp [givenTypes]
  | cons param params =>
      by_cases same : texts.length = params.length + 1
      · have zipped := zipTypes_eq (texts.map some) result distinct (by simp [same])
        rw [filterMap_zip_some] at zipped
        simp [givenTypes, same, zipped]
      · by_cases receiver : param.name = "self" ∨ param.name = "cls"
        · by_cases shorter : texts.length = params.length
          · have zipped :=
              zipTypes_eq (none :: texts.map some) result distinct (by simp [shorter])
            have rest := filterMap_zip_some (params.map (·.name)) texts
            simp [givenTypes, receiver, shorter, zipped, rest]
          · simp [givenTypes, same, receiver, shorter, Ne.symm shorter]
        · simp [givenTypes, same, receiver, Ne.symm same]

/-! ## Whole comments -/

section

variable {args : List WrittenArgument} {result : String}

theorem splitAll_signatureComment (plain : ¬ ∃ arg ∈ args.tail, arg.OpensWithArrow)
    (direct : Text.contains " -> " result = false) :
    Text.splitAll " -> " (signatureComment args result) =
      [String.ofList ('(' :: joinedChars (args.map WrittenArgument.chars) ++ [')']),
        result] := by
  have front : ¬ arrow <:+: '(' :: joinedChars (args.map WrittenArgument.chars) := by
    rw [← List.nil_append ('(' :: joinedChars (args.map WrittenArgument.chars)),
      Text.infix_outside_iff [] (by decide), arrow_arguments_iff]
    rintro (empty | opens)
    · exact absurd (List.infix_nil.mp empty) (by decide)
    · exact plain opens
  have back : ¬ arrow <:+: result.toList := Text.not_infix_of_contains direct
  have mark : " -> ".toList = arrow := rfl
  rw [Text.splitAll, Text.divide, toList_signatureComment, mark,
    Text.divideFrom_first (by decide) result.toList [] (by decide) front,
    Text.divideFrom_free [] back]
  simp

theorem commentTypes_second_arrow (params : List CommentParam)
    (opens : ∃ arg ∈ args.tail, arg.OpensWithArrow) :
    (commentTypes params (signatureComment args result)).1 = [] := by
  have front : arrow <:+: '(' :: joinedChars (args.map WrittenArgument.chars) :=
    List.infix_cons_iff.mpr (.inr ((arrow_arguments_iff args).mpr opens))
  have many :=
    Text.three_le_length_divideFrom (c := ')') (by decide) result.toList [] (by decide)
      front
  rw [← toList_signatureComment] at many
  have pieces : 3 ≤ (Text.splitAll " -> " (signatureComment args result)).length := by
    rw [Text.splitAll, List.length_map]
    exact many
  unfold commentTypes
  split
  · rename_i arguments other divided
    rw [divided] at pieces
    simp at pieces
  · rfl

theorem commentTypes_inline {params : List CommentParam} (told : result ≠ "")
    (direct : Text.contains " -> " result = false)
    (left_open : args.map (·.text) = ["..."])
    (distinct : ("return" :: params.map (·.name)).Nodup) :
    (commentTypes params (signatureComment args result)).1 =
      ("return", result) :: params.filterMap fun param =>
        param.comment.map (param.name, ·) := by
  have plain : ¬ ∃ arg ∈ args.tail, arg.OpensWithArrow := by
    have single := congrArg List.tail left_open
    rw [← List.map_tail] at single
    rw [List.map_eq_nil_iff.mp single]
    simp
  simp only [commentTypes, splitAll_signatureComment plain direct,
    splitArguments_written, left_open, known_result told, BEq.rfl, if_true]
  exact inlineTypes_eq distinct

end

/-! ## Functions with a comment -/

/--
The source of a value is one function with a comment, and the place of the value
can be told.  The parameters of a function have different names, and none is
called like the result.
-/
structure Commented (engine : Engine) (v : Value) (w : World) (head : FunctionHead)
    (comment : String) : Prop where
  read : ∃ body w', (statementsOf? engine v).run.run w =
    (.ok (some [.function head body]), w') ∧
    ∃ place w'', (locationOf? engine v).run.run w' = (.ok place, w'')
  told : head.typeComment = some comment
  distinct : ("return" :: head.params.map (·.name)).Nodup

theorem warnComment_run {engine : Engine} {v : Value} {w w' : World}
    {place : Option String} (name : String) (fault : CommentFault)
    (located : (locationOf? engine v).run.run w = (.ok place, w')) :
    ∃ w'', (warnComment engine v name fault).run.run w = (.ok (), w'') := by
  cases fault <;>
    · unfold warnComment
      rw [run_bind located]
      exact ⟨_, rfl⟩

theorem commentHints_commented {engine : Engine} {v : Value} {w : World}
    {head : FunctionHead} {comment : String} (name : String)
    (commented : Commented engine v w head comment) (nonempty : comment ≠ "") :
    ∃ w', (commentHints engine v name).run.run w =
      (.ok (commentTypes (commentParams head) comment).1, w') := by
  obtain ⟨body, w₁, read, place, w₂, located⟩ := commented.read
  have kept : head.typeComment.filter (!·.isEmpty) = some comment := by
    simp [commented.told, nonempty]
  unfold commentHints
  rw [run_bind read]
  simp only [statementTypes, kept]
  cases commentTypes (commentParams head) comment with
  | mk types fault =>
      cases fault with
      | none => exact ⟨w₁, rfl⟩
      | some fault =>
          obtain ⟨w₃, warned⟩ := warnComment_run name fault located
          refine ⟨w₃, ?_⟩
          rw [run_bind warned]
          rfl

/--
A function whose comment gives types to arguments and a result has these types,
in the order of its parameters and with or without the receiver; if there are
too few or too many only the type of the result is left.  A lone ellipsis, with
or without stars, leaves the parameters to their own comments, and an argument
behind another one that begins like an arrow makes the comment unreadable.
-/
theorem commentHints_signature {engine : Engine} {v : Value} {w : World}
    {head : FunctionHead} (name : String) (args : List WrittenArgument)
    {result : String} (told : result ≠ "")
    (direct : Text.contains " -> " result = false)
    (commented : Commented engine v w head (signatureComment args result)) :
    ∃ types w', (commentHints engine v name).run.run w = (.ok types, w') ∧
      ((¬ ∃ arg ∈ args.tail, arg.OpensWithArrow) → args.map (·.text) ≠ ["..."] →
        types = givenTypes (head.params.map (·.name)) (args.map (·.text)) result) ∧
      (args.map (·.text) = ["..."] →
        types = ("return", result) ::
          head.params.filterMap fun param => param.typeComment.map (param.name, ·)) ∧
      ((∃ arg ∈ args.tail, arg.OpensWithArrow) → types = []) := by
  have names : (commentParams head).map (·.name) = head.params.map (·.name) := by
    simp [commentParams]
  have distinct : ("return" :: (commentParams head).map (·.name)).Nodup := by
    rw [names]
    exact commented.distinct
  have nonempty : signatureComment args result ≠ "" := by
    intro empty
    have chars := toList_signatureComment args result
    simp [empty] at chars
  obtain ⟨w', run⟩ := commentHints_commented name commented nonempty
  refine ⟨_, w', run, ?_, ?_, ?_⟩
  · intro plain listed
    rw [← names]
    exact commentTypes_given (splitAll_signatureComment plain direct)
      (splitArguments_written args) told listed distinct
  · intro left_open
    rw [commentTypes_inline told direct left_open distinct, commentParams,
      List.filterMap_map]
    rfl
  · exact commentTypes_second_arrow (commentParams head)

def commentedSource (params : String) (args : List WrittenArgument)
    (result : String) : String :=
  "def f(" ++ params ++ "):\n    # type: " ++ signatureComment args result ++
    "\n    pass\n"

def commentedFunction : Value :=
  .object ⟨0, .function, "m", "f"⟩

def commentedWorld (source : String) : World where
  objects := #[.function
    { name := "f", qualname := "f", module := some "m", params := [], globals := 0,
      source := ⟨"m.py", some (1, 3)⟩ }]
  files := [("m.py", source)]

def typesOfSource? (source : String) : Option (List (String × String)) :=
  ((commentHints .exhausted commentedFunction "m.f").run.run
    (commentedWorld source)).1.toOption

def headParts? : Stmt → Option (String × List String)
  | .function head _ =>
      head.typeComment.map fun comment => (comment, head.params.map (·.name))
  | _ => none

def readParts (engine : Engine) (v : Value) :
    Run (Option (List (Option (String × List String)))) := do
  let tree ← statementsOf? engine v
  let _ ← locationOf? engine v
  return tree.map (·.map headParts?)

theorem exists_commented {engine : Engine} {v : Value} {w : World} {comment : String}
    {names : List String} (distinct : ("return" :: names).Nodup)
    (seen : ((readParts engine v).run.run w).1.toOption =
      some (some [some (comment, names)])) :
    ∃ head, Commented engine v w head comment ∧ head.params.map (·.name) = names := by
  unfold readParts at seen
  cases read : (statementsOf? engine v).run.run w with
  | mk found w₁ =>
      cases found with
      | error f =>
          rw [run_bind_error read] at seen
          cases seen
      | ok tree =>
          rw [run_bind read] at seen
          cases located : (locationOf? engine v).run.run w₁ with
          | mk place w₂ =>
              cases place with
              | error f =>
                  rw [run_bind_error located] at seen
                  cases seen
              | ok place =>
                  rw [run_bind located] at seen
                  obtain ⟨stmts, rfl, parts⟩ :=
                    Option.map_eq_some_iff.mp (Option.some.inj seen)
                  obtain ⟨stmt, rfl, part⟩ := List.map_eq_singleton_iff.mp parts
                  cases stmt with
                  | function head body =>
                      obtain ⟨told, commented, same⟩ := Option.map_eq_some_iff.mp part
                      cases same
                      exact ⟨head,
                        ⟨⟨body, w₁, read, place, w₂, located⟩, commented,
                          distinct⟩, rfl⟩
                  | _ => cases part

def receiverArguments : List WrittenArgument :=
  [{ stars := 0, text := "Map[A, B]" }, { stars := 1, text := "C" }]

/-- The comment of a method that leaves out the receiver. -/
theorem commentHints_signature_receiver :
    typesOfSource? (commentedSource "self, x, *y" receiverArguments "D") =
      some [("return", "D"), ("x", "Map[A, B]"), ("y", "C")] := by
  obtain ⟨head, commented, names⟩ :
      ∃ head, Commented .exhausted commentedFunction
          (commentedWorld (commentedSource "self, x, *y" receiverArguments "D")) head
          (signatureComment receiverArguments "D") ∧
            head.params.map (·.name) = ["self", "x", "y"] :=
    exists_commented (by decide) (by decide +kernel)
  obtain ⟨types, w', run, given, -, -⟩ := commentHints_signature "m.f" receiverArguments
    (by decide) (by decide) commented
  have plain : ¬ ∃ arg ∈ receiverArguments.tail, arg.OpensWithArrow := by
    simp [receiverArguments, WrittenArgument.OpensWithArrow]
  rw [given plain (by decide), names] at run
  rw [typesOfSource?, run]
  rfl

def arrowArguments : List WrittenArgument :=
  [{ stars := 0, text := "int" }, { stars := 0, text := "-> x" }]

def ellipsisArguments : List WrittenArgument :=
  [{ stars := 1, text := "..." }]

/--
An argument that begins like an arrow, and an ellipsis with a star, are not
given as types.
-/
theorem arrow_and_ellipsis_not_given :
    typesOfSource? (commentedSource "a, b" arrowArguments "str") = some [] ∧
      givenTypes ["a", "b"] (arrowArguments.map (·.text)) "str" =
        [("return", "str"), ("a", "int"), ("b", "-> x")] ∧
      signatureComment ellipsisArguments "str" ≠ "(...) -> str" ∧
      typesOfSource? (commentedSource "a" ellipsisArguments "str") =
        some [("return", "str")] ∧
      givenTypes ["a"] (ellipsisArguments.map (·.text)) "str" =
        [("return", "str"), ("a", "...")] := by
  refine ⟨?_, ?_, ?_, ?_, ?_⟩ <;> decide +kernel

end DocHints.Hints
