import DocHints.Proofs.Cutting
import DocHints.Proofs.Rendering
import DocHints.Proofs.TypeRole
import DocHints.Rest.Inline

/-!
# Literals in the type role

The content of the type role comes with its escapes marked by null characters.
Without the marks it is the markup of the type again, and the role goes on to
resolve the escapes of that markup too.  It needs this for the brackets around
arguments, but it also reaches into literals: an escape inside a quoted text
loses its backslash.
-/

namespace DocHints.Markup

open Rest (markEscapes)

def roleMarkup (content : String) : String :=
  unescape (String.ofList (markEscapes content.toList))

/-! ## The content of the role -/

theorem markEscapes_escaped (c : Char) (rest : List Char) :
    markEscapes ('\\' :: c :: rest) = '\x00' :: c :: markEscapes rest := by
  simp [markEscapes]

theorem markEscapes_cons {c : Char} (plain : c ≠ '\\') (rest : List Char) :
    markEscapes (c :: rest) = c :: markEscapes rest := by
  simp [markEscapes, plain]

theorem filter_markEscapes_escapeSigns (chars : List Char) :
    (markEscapes (escapeSigns chars)).filter (· != '\x00') =
      chars.filter (· != '\x00') := by
  induction chars with
  | nil => rfl
  | cons c rest ih =>
      rw [escapeSigns_cons]
      cases sign : isMarkupSign c with
      | true => simp [markEscapes_escaped, List.filter_cons, ih]
      | false =>
          have plain := ne_backslash_of_not_sign sign
          simp [markEscapes_cons plain, List.filter_cons, ih]

theorem filter_markEscapes_escapeChars (chars : List Char) :
    (markEscapes (escapeChars chars)).filter (· != '\x00') =
      chars.filter (· != '\x00') := by
  have signs := filter_markEscapes_escapeSigns chars
  unfold escapeChars
  split
  · rename_i rest opens
    rw [opens, markEscapes_cons (by decide)] at signs
    rw [markEscapes_escaped, ← signs]
    rfl
  · exact signs

theorem roleMarkup_escape (s : String) : roleMarkup (escape s) = unescape s := by
  simp [roleMarkup, unescape, escape, filter_markEscapes_escapeChars]

/-! ## Escapes of the markup -/

theorem unescapeChars_append {front : List Char} (closed : front.getLast? ≠ some '\\')
    (rest : List Char) :
    unescapeChars (front ++ rest) = unescapeChars front ++ unescapeChars rest := by
  fun_induction unescapeChars front with
  | case1 => rfl
  | case2 c =>
      have plain : c ≠ '\\' := by simpa using closed
      exact unescapeChars_cons plain rest
  | case3 c d more escaped ih =>
      obtain ⟨rfl, solid⟩ : c = '\\' ∧ d ≠ ' ' := by simpa using escaped
      have closed' : more.getLast? ≠ some '\\' := by
        cases more with
        | nil => simp
        | cons e more => simpa using closed
      simp only [List.cons_append, unescapeChars_escaped solid, ih closed']
  | case4 c d more plain ih =>
      have closed' : (d :: more).getLast? ≠ some '\\' := by simpa using closed
      simp only [List.cons_append, unescapeChars, plain] at ih ⊢
      simpa using ih closed'

theorem unescape_append {s : String} {c : Char} (last : s.toList.getLast? = some c)
    (plain : c ≠ '\\') (mark : c ≠ '\x00') (t : String) :
    unescape (s ++ t) = unescape s ++ unescape t := by
  obtain ⟨front, chars⟩ := List.getLast?_eq_some_iff.mp last
  have closed : (s.toList.filter (· != '\x00')).getLast? ≠ some '\\' := by
    simp [chars, List.filter_append, mark, plain]
  simp [unescape, unescapeChars_append closed]

theorem unescapeChars_backquotes (chars : List Char) :
    ∃ front, unescapeChars (chars ++ ['`', '`']) = front ++ ['`', '`'] := by
  fun_induction unescapeChars chars with
  | case1 => exact ⟨[], by decide⟩
  | case2 c =>
      by_cases escape : c = '\\'
      · subst escape
        exact ⟨[], by decide⟩
      · exact ⟨[c], unescapeChars_cons escape _⟩
  | case3 c d more escaped ih =>
      obtain ⟨rfl, solid⟩ : c = '\\' ∧ d ≠ ' ' := by simpa using escaped
      obtain ⟨front, read⟩ := ih
      exact ⟨d :: front, by simp [unescapeChars_escaped solid, read]⟩
  | case4 c d more plain ih =>
      obtain ⟨front, read⟩ := ih
      refine ⟨c :: front, ?_⟩
      simp only [List.cons_append, unescapeChars, plain] at read ⊢
      simpa using read

theorem unescape_backquotes (s : String) :
    ∃ front, unescape (s ++ "``") = front ++ "``" := by
  obtain ⟨front, read⟩ := unescapeChars_backquotes (s.toList.filter (· != '\x00'))
  refine ⟨String.ofList front, String.toList_inj.mp ?_⟩
  simpa [unescape] using read

theorem length_unescapeChars_le (chars : List Char) :
    (unescapeChars chars).length ≤ chars.length := by
  fun_induction unescapeChars chars with
  | case1 => simp
  | case2 => simp
  | case3 c d rest escaped ih => simp only [List.length_cons]; omega
  | case4 c d rest plain ih => simp only [List.length_cons] at ih ⊢; omega

theorem unescapeChars_of_plain {chars : List Char} (plain : '\\' ∉ chars) :
    unescapeChars chars = chars := by
  induction chars with
  | nil => rfl
  | cons c rest ih =>
      simp only [List.mem_cons, not_or] at plain
      rw [unescapeChars_cons (Ne.symm plain.1), ih plain.2]

theorem length_unescape_lt {s : String} {front rest : List Char} {d : Char}
    (chars : s.toList = front ++ '\\' :: d :: rest) (unseen : '\\' ∉ front)
    (solid : d ≠ ' ') (mark : d ≠ '\x00') : (unescape s).length < s.length := by
  generalize filtered : (fun c : Char => c != '\x00') = solidOnly
  have closed : (front.filter solidOnly).getLast? ≠ some '\\' := by
    intro last
    exact unseen (List.mem_filter.mp (List.mem_of_getLast? last)).1
  have read : unescapeChars (s.toList.filter solidOnly) =
      unescapeChars (front.filter solidOnly) ++ d ::
        unescapeChars (rest.filter solidOnly) := by
    rw [chars, List.filter_append, unescapeChars_append closed, ← filtered]
    simp [mark, unescapeChars_escaped solid]
  have front_le := length_unescapeChars_le (front.filter solidOnly)
  have rest_le := length_unescapeChars_le (rest.filter solidOnly)
  have front_le' := List.length_filter_le solidOnly front
  have rest_le' := List.length_filter_le solidOnly rest
  rw [unescape, filtered, read, String.length_ofList, ← String.length_toList, chars]
  simp only [List.length_append, List.length_cons]
  omega

end DocHints.Markup

/-! ## Quoted texts -/

namespace DocHints.Text

open Markup (unescape unescapeChars)

/--
A text that is quoted as it is: all of it can be shown, and one of the quotes is
left over.
-/
def QuotedAsIs (s : String) : Prop :=
  (∀ c ∈ s.toList, isPrintable c = true ∧ c ≠ '\\') ∧
    ¬ ('\'' ∈ s.toList ∧ '"' ∈ s.toList)

instance (s : String) : Decidable (QuotedAsIs s) :=
  decidable_of_iff ((s.toList.all fun c => isPrintable c && c != '\\') = true ∧
    ¬ ('\'' ∈ s.toList ∧ '"' ∈ s.toList)) (by simp [QuotedAsIs])

def IsEscaped (quote c : Char) : Prop :=
  c = quote ∨ c = '\\' ∨ isPrintable c = false

theorem quoteChar_of_shown {quote c : Char} (shown : ¬ IsEscaped quote c) :
    quoteChar quote c = [c] := by
  simp only [IsEscaped, not_or, Bool.not_eq_false] at shown
  obtain ⟨other, solid, printable⟩ := shown
  have visible : ∀ d, isPrintable d = false → c ≠ d := by
    rintro d hidden rfl
    rw [printable] at hidden
    cases hidden
  simp [quoteChar, other, solid, printable, visible '\n' (by decide),
    visible '\r' (by decide), visible '\t' (by decide)]

theorem quoteChar_of_escaped {quote c : Char} (isQuote : quote = '\'' ∨ quote = '"')
    (escaped : IsEscaped quote c) :
    ∃ d more, quoteChar quote c = '\\' :: d :: more ∧ d ≠ ' ' ∧ d ≠ '\x00' := by
  unfold quoteChar
  split
  · rename_i sign
    refine ⟨c, [], rfl, ?_⟩
    rcases isQuote with rfl | rfl <;>
      rcases (by simpa using sign : c = _ ∨ c = '\\') with rfl | rfl <;> decide
  · rename_i sign
    have hidden : isPrintable c = false := by
      rcases escaped with same | same | hidden
      · simp [same] at sign
      · simp [same] at sign
      · exact hidden
    simp only [hidden, Bool.false_eq_true, if_false]
    split
    · exact ⟨'n', [], rfl, by decide⟩
    split
    · exact ⟨'r', [], rfl, by decide⟩
    split
    · exact ⟨'t', [], rfl, by decide⟩
    split
    · exact ⟨'x', _, rfl, by decide⟩
    split
    · exact ⟨'u', _, rfl, by decide⟩
    · exact ⟨'U', _, rfl, by decide⟩

theorem flatMap_quoteChar_of_shown {quote : Char} {chars : List Char}
    (shown : ∀ c ∈ chars, ¬ IsEscaped quote c) :
    chars.flatMap (quoteChar quote) = chars := by
  induction chars with
  | nil => rfl
  | cons c rest ih =>
      have first := quoteChar_of_shown (shown c List.mem_cons_self)
      have others := ih fun d inside => shown d (List.mem_cons_of_mem _ inside)
      rw [List.flatMap_cons, first, others, List.singleton_append]

theorem flatMap_quoteChar_of_escaped {quote : Char}
    (isQuote : quote = '\'' ∨ quote = '"') {chars : List Char}
    (escaped : ∃ c ∈ chars, IsEscaped quote c) :
    ∃ front d rest, chars.flatMap (quoteChar quote) = front ++ '\\' :: d :: rest ∧
      '\\' ∉ front ∧ d ≠ ' ' ∧ d ≠ '\x00' := by
  induction chars with
  | nil => simp at escaped
  | cons c chars ih =>
      rw [List.flatMap_cons]
      by_cases first : IsEscaped quote c
      · obtain ⟨d, more, quoted, solid⟩ := quoteChar_of_escaped isQuote first
        exact ⟨[], d, more ++ chars.flatMap (quoteChar quote),
          by simp [quoted], by simp, solid⟩
      · have later : ∃ d ∈ chars, IsEscaped quote d := by
          obtain ⟨d, inside, escaped⟩ := escaped
          cases inside with
          | head => exact absurd escaped first
          | tail _ inside => exact ⟨d, inside, escaped⟩
        obtain ⟨front, d, rest, quoted, unseen, solid⟩ := ih later
        have plain : '\\' ≠ c := fun same => first (.inr (.inl same.symm))
        refine ⟨c :: front, d, rest, ?_, by simp [plain, unseen], solid⟩
        rw [quoteChar_of_shown first, quoted]
        rfl

def quoteOf (s : String) : Char :=
  quoteFor (s.toList.contains '\'') (s.toList.contains '"')

theorem quoteOf_cases (s : String) : quoteOf s = '\'' ∨ quoteOf s = '"' := by
  unfold quoteOf quoteFor
  split
  · exact .inr rfl
  · exact .inl rfl

theorem toList_quote (s : String) :
    (quote s).toList = quoteOf s :: s.toList.flatMap (quoteChar (quoteOf s)) ++
      [quoteOf s] := by
  simp [quote, quoteChars, quoteOf]

theorem quoteOf_mem_iff (s : String) :
    quoteOf s ∈ s.toList ↔ '\'' ∈ s.toList ∧ '"' ∈ s.toList := by
  unfold quoteOf quoteFor
  by_cases single : '\'' ∈ s.toList <;> by_cases double : '"' ∈ s.toList <;>
    simp [single, double]

theorem quotedAsIs_iff (s : String) :
    QuotedAsIs s ↔ ∀ c ∈ s.toList, ¬ IsEscaped (quoteOf s) c := by
  rw [QuotedAsIs, ← quoteOf_mem_iff]
  constructor
  · rintro ⟨shown, unseen⟩ c inside (rfl | rfl | hidden)
    · exact unseen inside
    · exact (shown _ inside).2 rfl
    · rw [(shown c inside).1] at hidden
      cases hidden
  · intro shown
    refine ⟨fun c inside => ?_, fun inside => shown _ inside (.inl rfl)⟩
    have plain := shown c inside
    simp only [IsEscaped, not_or, Bool.not_eq_false] at plain
    exact ⟨plain.2.2, plain.2.1⟩

theorem unescape_quote_of_asIs {s : String} (asIs : QuotedAsIs s) :
    unescape (quote s) = quote s := by
  have shown := (quotedAsIs_iff s).mp asIs
  have chars : (quote s).toList = quoteOf s :: s.toList ++ [quoteOf s] := by
    rw [toList_quote, flatMap_quoteChar_of_shown shown]
  have unseen : ∀ c, isPrintable c = false ∨ c = '\\' → c ∉ (quote s).toList := by
    intro c absent inside
    have visible : isPrintable (quoteOf s) = true ∧ quoteOf s ≠ '\\' := by
      rcases quoteOf_cases s with quote | quote <;> rw [quote] <;> decide
    have plain : isPrintable c = true ∧ c ≠ '\\' := by
      simp only [chars, List.cons_append, List.mem_cons, List.mem_append,
        List.not_mem_nil, or_false] at inside
      rcases inside with rfl | inside | rfl
      · exact visible
      · exact asIs.1 c inside
      · exact visible
    rcases absent with hidden | rfl
    · rw [plain.1] at hidden
      cases hidden
    · exact plain.2 rfl
  have kept : (quote s).toList.filter (· != '\x00') = (quote s).toList := by
    apply List.filter_eq_self.mpr
    intro c inside
    apply bne_iff_ne.mpr
    rintro rfl
    exact unseen _ (.inl (by decide)) inside
  rw [unescape, kept, Markup.unescapeChars_of_plain (unseen _ (.inr rfl)),
    String.ofList_toList]

theorem length_unescape_quote_lt {s : String} (changed : ¬ QuotedAsIs s) :
    (unescape (quote s)).length < (quote s).length := by
  have escaped : ∃ c ∈ s.toList, IsEscaped (quoteOf s) c := by
    simpa [quotedAsIs_iff] using changed
  obtain ⟨front, d, rest, quoted, unseen, solid, mark⟩ :=
    flatMap_quoteChar_of_escaped (quoteOf_cases s) escaped
  have chars : (quote s).toList =
      (quoteOf s :: front) ++ '\\' :: d :: (rest ++ [quoteOf s]) := by
    simp [toList_quote, quoted]
  have unseen' : '\\' ∉ quoteOf s :: front := by
    rcases quoteOf_cases s with quote | quote <;> simp [quote, unseen]
  exact Markup.length_unescape_lt chars unseen' solid mark

/-! ## Literals of the markup -/

theorem front_of_backquotes {lead : String}
    (unseen : contains "``" (lead ++ "`") = false) {front rest more : List Char}
    (same : lead.toList ++ '`' :: '`' :: rest = front ++ '`' :: '`' :: more) :
    ∃ gap, front = lead.toList ++ gap := by
  have absent : ∀ before after, (lead ++ "`").toList ≠
      before ++ "``".toList ++ after := by
    intro before after split
    rw [contains_iff.mpr ⟨before, after, split⟩] at unseen
    cases unseen
  rcases List.append_eq_append_iff.mp same with ⟨gap, found, -⟩ | ⟨gap, found, tail⟩
  · exact ⟨gap, found⟩
  · cases gap with
    | nil => exact ⟨[], by simpa using found.symm⟩
    | cons c gap =>
        simp only [List.cons_append, List.cons.injEq] at tail
        obtain ⟨rfl, tail⟩ := tail
        cases gap with
        | nil => exact absurd (by simp [found]) (absent front [])
        | cons d gap =>
            simp only [List.cons_append, List.cons.injEq] at tail
            obtain ⟨rfl, -⟩ := tail
            exact absurd (by simp [found]) (absent front (gap ++ ['`']))

theorem contains_quote_iff {s lead tail : String}
    (unseen : contains "``" (lead ++ "`") = false) (ends : tail = "" ∨ tail = "]") :
    contains ("``" ++ quote s ++ "``")
      (lead ++ "``" ++ unescape (quote s) ++ "``" ++ tail) = true ↔
      QuotedAsIs s := by
  constructor
  · intro found
    refine Classical.byContradiction fun changed => ?_
    have shorter := length_unescape_quote_lt changed
    obtain ⟨front, rest, split⟩ := contains_iff.mp found
    have places : lead.toList ++ '`' :: '`' ::
          ((unescape (quote s)).toList ++ '`' :: '`' :: tail.toList) =
        front ++ '`' :: '`' :: ((quote s).toList ++ '`' :: '`' :: rest) := by
      simpa using split
    obtain ⟨gap, rfl⟩ := front_of_backquotes unseen places
    rw [List.append_assoc, List.append_cancel_left_eq] at places
    have lengths := congrArg List.length places
    simp only [List.length_append, List.length_cons, String.length_toList] at lengths
    rcases ends with rfl | rfl
    · simp only [String.length_empty] at lengths
      omega
    · -- The literal would have to end where the bracket stands.
      have one : ("]" : String).length = 1 := by decide
      obtain rfl : rest = [] := List.length_eq_zero_iff.mp (by omega)
      have last := congrArg List.getLast? places
      simp [List.getLast?_cons] at last
  · intro asIs
    rw [unescape_quote_of_asIs asIs]
    exact contains_iff.mpr ⟨lead.toList, tail.toList, by simp⟩

theorem join_split (between : String) (before after : List String) (piece : String) :
    ∃ lead tail, join between (before ++ piece :: after) = lead ++ piece ++ tail := by
  induction before with
  | nil =>
      cases after with
      | nil => exact ⟨"", "", by simp [join, String.intercalate_singleton]⟩
      | cons next after =>
          refine ⟨"", between ++ join between (next :: after), ?_⟩
          simp [join, String.intercalate_cons_cons, String.append_assoc]
  | cons first before ih =>
      obtain ⟨lead, tail, split⟩ := ih
      refine ⟨first ++ between ++ lead, tail, ?_⟩
      rw [join] at split
      rw [List.cons_append, join, String.intercalate_cons_of_ne_nil (by simp), split]
      simp only [String.append_assoc]

theorem unescape_backquotes_append (s t : String) :
    unescape (s ++ "``" ++ t) = unescape (s ++ "``") ++ unescape t := by
  have last : (s ++ "``").toList.getLast? = some '`' := by
    rw [String.toList_append, List.getLast?_append]
    rfl
  exact Markup.unescape_append last (by decide) (by decide) t

theorem unescape_quote_append (s t : String) :
    unescape (quote s ++ t) = unescape (quote s) ++ unescape t := by
  have last : (quote s).toList.getLast? = some (quoteOf s) := by
    rw [toList_quote, List.getLast?_append]
    rfl
  have solid : quoteOf s ≠ '\\' ∧ quoteOf s ≠ '\x00' := by
    rcases quoteOf_cases s with quote | quote <;> rw [quote] <;> decide
  exact Markup.unescape_append last solid.1 solid.2 t

theorem unescape_around_quote (lead tail s : String) :
    unescape (lead ++ "``" ++ quote s ++ "``" ++ tail) =
      unescape (lead ++ "``") ++ unescape (quote s) ++ "``" ++ unescape tail := by
  have closing : unescape "``" = "``" := by decide
  have inner : unescape (lead ++ "``" ++ quote s ++ "``") =
      unescape (lead ++ "``") ++ unescape (quote s) ++ "``" := by
    rw [String.append_assoc, unescape_backquotes_append, unescape_quote_append, closing,
      String.append_assoc]
  rw [unescape_backquotes_append, inner]

end DocHints.Text

/-! ## Literal types -/

namespace DocHints.Scene

theorem unattach_literal (values : List Value) :
    (Value.literal values).givenArguments.unattach = values := by
  simp only [List.unattach, Value.givenArguments, Value.partsOf, List.map_map]
  exact List.attach_map_subtype_val values

theorem literal_arguments (registry : Registry) {values : List Value}
    (proper : values ≠ [.tuple []]) :
    (Value.literal values).documentedArguments registry "typing" "Literal" =
      .ok (Value.literal values).givenArguments := by
  have differs : ∀ other, Value.identical other (.literal values) = false := by
    intro other
    cases other <;> rfl
  have members := unattach_literal values
  unfold Value.documentedArguments
  cases named : registry.member? "typing" "Literal" <;>
    simp only [differs, Bool.false_eq_true, if_false, String.reduceBEq]
  all_goals
    split
    · rename_i single only
      have alone : values = [single.1] := by simpa [only] using members.symm
      have solid : Value.isEmptyTuple single.1 = false := by
        cases isEmpty : single.1 with
        | tuple items =>
            cases items with
            | nil => exact absurd (by rw [alone, isEmpty]) proper
            | cons item items => rfl
        | _ => rfl
      rw [solid, only]
      rfl
    · rfl

theorem describe_literal (registry : Registry) {values : List Value}
    (proper : values ≠ [.tuple []]) :
    (Value.literal values).describe registry =
      .ok ⟨"typing", "Literal", (Value.literal values).givenArguments⟩ := by
  have home : (Value.literal values).documentedModule = .ok "typing" := rfl
  have other : Value.equal (.literal values) Library.anyStr = false := by
    simp only [Library.anyStr, Value.equal]
  have named : Value.documentedName "typing" (Value.literal values) = "Literal" := by
    rw [Value.documentedName, other]
    rfl
  simp only [Value.describe, home, bind, Except.bind, named,
    literal_arguments registry proper]
  rfl

theorem atPath_literal {options : RenderOptions} {v : Value}
    (single : Plan.isUnion v = false) (args : List (Value.Part v))
    (role mark : String) :
    Plan.atPath options args role mark "typing.Literal" = .ok (.text
      (if options.shortLiterals then
        "\\" ++ Text.join " | " (args.unattach.map (Plan.literalText options))
      else Plan.referenceText role mark "typing.Literal"
        ("\\[" ++ Text.join ", " (args.unattach.map (Plan.literalText options)) ++
          "]"))) := by
  have bars : ¬ (("typing.Literal" == "types.UnionType" ||
      (options.barsUnion && Plan.isUnion v)) = true) := by
    simp [single]
  unfold Plan.atPath
  extract_lets listed texts
  have values : texts = args.unattach.map (Plan.literalText options) := by
    simp only [texts, List.unattach, List.map_map, Function.comp_def]
  rw [if_neg bars, if_neg (by decide), if_neg (by decide), if_neg (by decide),
    if_neg (by decide), if_neg (by simp), if_neg (by simp), if_pos (by decide), values]
  split <;> rfl

theorem plan_literal {scene : Scene} (rules : scene.options.formatter = none)
    (kept : Plan.documentedPath scene.options "typing" "Literal" =
      ("typing", "Literal"))
    {values : List Value} (proper : values ≠ [.tuple []]) :
    scene.plan (.literal values) = .ok (.text
      (if scene.options.shortLiterals then
        "\\" ++ Text.join " | " (values.map (Plan.literalText scene.options))
      else ":py:data:`" ++ scene.options.shortMark ++ "typing.Literal`\\ \\[" ++
        Text.join ", " (values.map (Plan.literalText scene.options)) ++ "]")) := by
  have role : roleOf "typing" "Literal" = "data" := by decide
  have mark : scene.options.markUnless false = scene.options.shortMark := by
    simp [RenderOptions.markUnless, RenderOptions.shortMark]
  have reference (inner : String) :
      Plan.referenceText "data" scene.options.shortMark "typing.Literal"
        ("\\[" ++ inner ++ "]") =
        ":py:data:`" ++ scene.options.shortMark ++ "typing.Literal`\\ \\[" ++
          inner ++ "]" := by
    apply String.toList_inj.mp
    simp [Plan.referenceText]
  simp only [plan, Plan.ofValue, rules, Plan.byDescription, Value.isNoneType,
    describe_literal _ proper, Plan.ofDescription, kept, role, String.reduceBEq,
    String.reduceAppend, Bool.false_eq_true, if_false, mark]
  rw [atPath_literal rfl, unattach_literal, reference]

theorem render_literal_member {scene : Scene} (rules : scene.options.formatter = none)
    (kept : Plan.documentedPath scene.options "typing" "Literal" =
      ("typing", "Literal"))
    (before after : List Value) (v : String) :
    ∃ lead tail, scene.render (.literal (before ++ .str v :: after)) =
      .ok (lead ++ "``" ++ Text.quote v ++ "``" ++ tail) := by
  have proper : before ++ Value.str v :: after ≠ [.tuple []] := by
    cases before <;> simp
  have piece : Plan.literalText scene.options (.str v) =
      "``" ++ Text.quote v ++ "``" := rfl
  rw [render_of_text (plan_literal rules kept proper), List.map_append,
    List.map_cons, piece]
  generalize before.map (Plan.literalText scene.options) = earlier
  generalize after.map (Plan.literalText scene.options) = later
  split
  · obtain ⟨lead, tail, split⟩ :=
      Text.join_split " | " earlier later ("``" ++ Text.quote v ++ "``")
    refine ⟨"\\" ++ lead, tail, ?_⟩
    rw [split]
    simp only [String.append_assoc]
  · obtain ⟨lead, tail, split⟩ :=
      Text.join_split ", " earlier later ("``" ++ Text.quote v ++ "``")
    generalize ":py:data:`" ++ scene.options.shortMark ++ "typing.Literal`\\ \\[" =
      opening
    refine ⟨opening ++ lead, tail ++ "]", ?_⟩
    rw [split]
    simp only [String.append_assoc]

theorem render_single_literal {scene : Scene} (rules : scene.options.formatter = none)
    (kept : Plan.documentedPath scene.options "typing" "Literal" =
      ("typing", "Literal"))
    (v : String) :
    ∃ lead tail opening, scene.render (.literal [.str v]) =
        .ok (lead ++ "``" ++ Text.quote v ++ "``" ++ tail) ∧
      Markup.unescape (lead ++ "``") = opening ++ "``" ∧
      Text.contains "``" (opening ++ "`") = false ∧ (tail = "" ∨ tail = "]") := by
  have piece : Plan.literalText scene.options (.str v) =
      "``" ++ Text.quote v ++ "``" := rfl
  rw [render_of_text (plan_literal rules kept (by simp)), List.map_singleton, piece]
  simp only [Text.join, String.intercalate_singleton]
  split
  · refine ⟨"\\", "", "", ?_, by decide, by decide, .inl rfl⟩
    simp only [String.append_assoc, String.append_empty]
  · cases qualified : scene.options.fullyQualified with
    | true =>
        refine ⟨":py:data:`typing.Literal`\\ \\[", "]",
          ":py:data:`typing.Literal`\\ [", ?_, by decide, by decide, .inr rfl⟩
        refine congrArg Except.ok (String.toList_inj.mp ?_)
        simp [RenderOptions.shortMark, qualified]
    | false =>
        refine ⟨":py:data:`~typing.Literal`\\ \\[", "]",
          ":py:data:`~typing.Literal`\\ [", ?_, by decide, by decide, .inr rfl⟩
        refine congrArg Except.ok (String.toList_inj.mp ?_)
        simp [RenderOptions.shortMark, qualified]

theorem unescape_quote_eq_iff (v : String) :
    Markup.unescape (Text.quote v) = Text.quote v ↔ Text.QuotedAsIs v := by
  constructor
  · intro same
    refine Classical.byContradiction fun changed => ?_
    have shorter := Text.length_unescape_quote_lt changed
    rw [same] at shorter
    omega
  · exact Text.unescape_quote_of_asIs

/--
A text that is a member of a literal type is shown quoted, but without the
backslashes of its escapes.  This is the quoted text exactly if there is nothing
to escape, and only then does the markup of a literal with that single member
hold the quoted text anywhere.
-/
theorem role_shows_quoted_iff {scene : Scene} (rules : scene.options.formatter = none)
    (kept : Plan.documentedPath scene.options "typing" "Literal" =
      ("typing", "Literal"))
    (v : String) :
    (∀ before after, ∃ content,
      (scene.render (.literal (before ++ .str v :: after))).map Markup.typeRole =
          .ok (":sphinx_autodoc_typehints_type:`" ++ content ++ "`") ∧
        Text.contains ("``" ++ Markup.unescape (Text.quote v) ++ "``")
          (Markup.roleMarkup content) = true) ∧
      (Markup.unescape (Text.quote v) = Text.quote v ↔ Text.QuotedAsIs v) ∧
      ∃ content, (scene.render (.literal [.str v])).map Markup.typeRole =
          .ok (":sphinx_autodoc_typehints_type:`" ++ content ++ "`") ∧
        (Text.contains ("``" ++ Text.quote v ++ "``") (Markup.roleMarkup content) =
          true ↔
          Text.QuotedAsIs v) := by
  refine ⟨fun before after => ?_, unescape_quote_eq_iff v, ?_⟩
  · obtain ⟨lead, tail, rendered⟩ := render_literal_member rules kept before after v
    refine ⟨Markup.escape (lead ++ "``" ++ Text.quote v ++ "``" ++ tail),
      by rw [rendered]; rfl, ?_⟩
    obtain ⟨front, opens⟩ := Markup.unescape_backquotes lead
    rw [Markup.roleMarkup_escape, Text.unescape_around_quote, opens]
    exact Text.contains_iff.mpr ⟨front.toList, (Markup.unescape tail).toList, by simp⟩
  · obtain ⟨lead, tail, opening, rendered, opens, unseen, ends⟩ :=
      render_single_literal rules kept v
    refine ⟨Markup.escape (lead ++ "``" ++ Text.quote v ++ "``" ++ tail),
      by rw [rendered]; rfl, ?_⟩
    have tail_kept : Markup.unescape tail = tail := by
      rcases ends with rfl | rfl <;> decide
    rw [Markup.roleMarkup_escape, Text.unescape_around_quote, opens, tail_kept]
    exact Text.contains_quote_iff unseen ends

theorem role_shows_quoted_iff_apostrophe :
    ∃ content, (({} : Scene).render (.literal [.str "it's"])).map Markup.typeRole =
        .ok (":sphinx_autodoc_typehints_type:`" ++ content ++ "`") ∧
      Text.contains "``\"it's\"``" (Markup.roleMarkup content) = true := by
  have kept : Plan.documentedPath ({} : Scene).options "typing" "Literal" =
      ("typing", "Literal") := by
    decide
  obtain ⟨-, -, content, marked, shown⟩ := role_shows_quoted_iff rfl kept "it's"
  have asIs : Text.QuotedAsIs "it's" := by decide
  have quoted : Text.quote "it's" = "\"it's\"" := by decide +kernel
  rw [quoted] at shown
  exact ⟨content, marked, shown.mpr asIs⟩

/-- A line break among the members of a literal comes out as a letter. -/
theorem newline_shown_as_letter :
    ∃ content, (({} : Scene).render (.literal [.str "\n"])).map Markup.typeRole =
        .ok (":sphinx_autodoc_typehints_type:`" ++ content ++ "`") ∧
      Text.contains ("``" ++ Text.quote "\n" ++ "``") (Markup.roleMarkup content) =
        false ∧
      Markup.roleMarkup content = ":py:data:`~typing.Literal`\\ [``'n'``]" := by
  have rendered : ({} : Scene).render (.literal [.str "\n"]) =
      .ok ":py:data:`~typing.Literal`\\ \\[``'\\n'``]" := by
    rw [render_of_text (plan_literal rfl (by decide) (by simp))]
    exact congrArg Except.ok (by decide +kernel)
  refine ⟨Markup.escape ":py:data:`~typing.Literal`\\ \\[``'\\n'``]",
    by rw [rendered]; rfl, ?_⟩
  rw [Markup.roleMarkup_escape]
  decide

end DocHints.Scene
