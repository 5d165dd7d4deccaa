import DocHints.Markup.Role

/-!
# The type role can be read back

In an escaped text every backslash stands before the sign that it escapes.  So
the escapes are resolved one by one, from left to right, and what comes out is
the text itself.
-/

namespace DocHints.Markup

/-! ## Single characters -/

theorem unescapeChars_escaped {c : Char} (solid : c ≠ ' ') (rest : List Char) :
    unescapeChars ('\\' :: c :: rest) = c :: unescapeChars rest := by
  simp [unescapeChars, solid]

theorem unescapeChars_cons {c : Char} (plain : c ≠ '\\') (rest : List Char) :
    unescapeChars (c :: rest) = c :: unescapeChars rest := by
  cases rest with
  | nil => rfl
  | cons d rest => simp [unescapeChars, plain]

theorem escapeSigns_cons (c : Char) (rest : List Char) :
    escapeSigns (c :: rest) =
      if isMarkupSign c then '\\' :: c :: escapeSigns rest
      else c :: escapeSigns rest := by
  cases sign : isMarkupSign c <;> simp [escapeSigns, sign]

theorem ne_space_of_isMarkupSign {c : Char} (sign : isMarkupSign c = true) :
    c ≠ ' ' := by
  rintro rfl
  exact absurd sign (by decide)

theorem ne_backslash_of_not_sign {c : Char} (plain : isMarkupSign c = false) :
    c ≠ '\\' := by
  rintro rfl
  exact absurd plain (by decide)

/-! ## Whole texts -/

theorem unescapeChars_escapeSigns (chars : List Char) :
    unescapeChars (escapeSigns chars) = chars := by
  induction chars with
  | nil => rfl
  | cons c rest ih =>
      rw [escapeSigns_cons]
      cases sign : isMarkupSign c with
      | true =>
          rw [if_pos rfl, unescapeChars_escaped (ne_space_of_isMarkupSign sign), ih]
      | false =>
          rw [if_neg Bool.false_ne_true,
            unescapeChars_cons (ne_backslash_of_not_sign sign), ih]

theorem unescapeChars_escapeChars (chars : List Char) :
    unescapeChars (escapeChars chars) = chars := by
  have signs := unescapeChars_escapeSigns chars
  unfold escapeChars
  split
  · rename_i rest opens
    rw [opens, unescapeChars_cons (by decide)] at signs
    rw [unescapeChars_escaped (by decide), signs]
  · exact signs

theorem null_not_mem_escapeSigns {chars : List Char} (no_null : '\x00' ∉ chars) :
    '\x00' ∉ escapeSigns chars := by
  intro inside
  obtain ⟨c, in_chars, in_escape⟩ := List.mem_flatMap.mp inside
  have same : '\x00' = c := by
    split at in_escape <;> simpa using in_escape
  exact no_null (same ▸ in_chars)

theorem null_not_mem_escapeChars {chars : List Char} (no_null : '\x00' ∉ chars) :
    '\x00' ∉ escapeChars chars := by
  have no_null' := null_not_mem_escapeSigns no_null
  unfold escapeChars
  split
  · rename_i rest opens
    simpa [opens] using no_null'
  · exact no_null'

theorem unescape_escape {s : String} (no_null : '\x00' ∉ s.toList) :
    unescape (escape s) = s := by
  have kept : (escapeChars s.toList).filter (· != '\x00') = escapeChars s.toList := by
    apply List.filter_eq_self.mpr
    intro c inside
    apply bne_iff_ne.mpr
    rintro rfl
    exact null_not_mem_escapeChars no_null inside
  simp [unescape, escape, kept, unescapeChars_escapeChars]

theorem escape_injective : Function.Injective escape := by
  intro s t same
  have chars : escapeChars s.toList = escapeChars t.toList := by
    simpa [escape] using congrArg String.toList same
  have back := congrArg unescapeChars chars
  rw [unescapeChars_escapeChars, unescapeChars_escapeChars] at back
  exact String.toList_inj.mp back

theorem typeRole_injective : Function.Injective typeRole := by
  intro s t same
  unfold typeRole at same
  have chars := congrArg String.toList same
  simp only [String.toList_append, List.append_left_inj, List.append_right_inj] at chars
  exact escape_injective (String.toList_inj.mp chars)

/--
What stands between the backquotes of the role of a type is read back as that
type, and no other type has the same role.
-/
theorem typeRole_read_back {s : String} (no_null : '\x00' ∉ s.toList) :
    (∃ payload, typeRole s = ":sphinx_autodoc_typehints_type:`" ++ payload ++ "`" ∧
        unescape payload = s) ∧
      ∀ other, typeRole other = typeRole s → other = s :=
  ⟨⟨escape s, rfl, unescape_escape no_null⟩, fun _ same => typeRole_injective same⟩

/--
A text that opens with a full stop and has backslashes before a sign, a space
and a letter.
-/
theorem typeRole_read_back_dotted :
    '\x00' ∉ ".a\\[`b`]\\ \\c".toList ∧
      (∃ payload, typeRole ".a\\[`b`]\\ \\c" =
          ":sphinx_autodoc_typehints_type:`" ++ payload ++ "`" ∧
        unescape payload = ".a\\[`b`]\\ \\c") ∧
      ∀ other, typeRole other = typeRole ".a\\[`b`]\\ \\c" →
        other = ".a\\[`b`]\\ \\c" := by
  have no_null : '\x00' ∉ ".a\\[`b`]\\ \\c".toList := by decide
  exact ⟨no_null, typeRole_read_back no_null⟩

end DocHints.Markup
