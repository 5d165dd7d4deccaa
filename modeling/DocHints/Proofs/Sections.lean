import DocHints.Docstring.Sections
import DocHints.Proofs.Cutting

/-!
# Fields beside sections

Sections are converted to fields, and the fields that stand beside them stay.  A
line that begins without a blank is neither an entry nor a description, so no
section takes it in.
-/

namespace DocHints

theorem span_stops {α : Type} {p : α → Bool} {a : α} (stops : p a = false)
    (front rest : List α) : (front ++ a :: rest).takeWhile p = front.takeWhile p ∧
      (front ++ a :: rest).dropWhile p = front.dropWhile p ++ a :: rest := by
  induction front with
  | nil => simp [stops]
  | cons first front ih => cases holds : p first <;> simp [holds, ih.1, ih.2]

theorem Text.dropEndsWhile_gap {p : Char → Bool} {gap : List Char}
    (all : gap.all p = true) (chars : List Char) :
    dropEndsWhile p (gap ++ chars) = dropEndsWhile p chars := by
  rw [dropEndsWhile, dropStartWhile,
    List.dropWhile_append_of_pos (List.all_eq_true.mp all)]
  rfl

theorem Text.dropEndsWhile_append {p : Char → Bool} {first last : Char}
    (inner rest : List Char) (opens : p first = false) (stops : p last = false) :
    ∃ more, dropEndsWhile p (first :: inner ++ last :: rest) =
      first :: inner ++ last :: more := by
  have start_kept : dropStartWhile p (first :: inner ++ last :: rest) =
      first :: inner ++ last :: rest := by
    simp [dropStartWhile, opens]
  refine ⟨(rest.reverse.dropWhile p).reverse, ?_⟩
  rw [dropEndsWhile, start_kept, dropEndWhile, List.reverse_append, List.reverse_cons,
    List.append_assoc, List.singleton_append, (span_stops stops _ _).2]
  simp

end DocHints

namespace DocHints.Docstring

theorem ofLine?_of_trim {line : String} {a b : Char} {more : List Char}
    (trimmed : (Text.trim line).toList = a :: b :: more)
    (differs : a ≠ ':' ∨ b ∉ ['P', 'O', 'R', 'Y']) : Section.ofLine? line = none := by
  unfold Section.ofLine?
  split
  case h_6 => rfl
  all_goals
    rename_i header
    rw [header] at trimmed
    obtain ⟨rfl, opens⟩ := List.cons.inj (trimmed : ':' :: _ :: _ = a :: b :: more)
    obtain ⟨rfl, -⟩ := List.cons.inj opens
    revert differs
    decide

theorem entryHead?_of_flush {line : String} {c : Char} {rest : List Char}
    (chars : line.toList = c :: rest) (solid : Text.isBlank c = false) :
    entryHead? line = none := by
  have no_margin : afterMargin? line.toList = none := by
    simp [afterMargin?, chars, solid]
  simp [entryHead?, no_margin]

theorem isDescription_of_flush {line : String} {c : Char} {rest : List Char}
    (chars : line.toList = c :: rest) (solid : Text.isBlank c = false) :
    isDescription line = false := by
  have no_space : Text.startsWith "        " line = false := by
    apply Bool.eq_false_iff.mpr
    intro starts
    obtain ⟨more, split⟩ := Text.startsWith_iff.mp starts
    rw [chars] at split
    obtain ⟨rfl, -⟩ := List.cons.inj (split : c :: rest = ' ' :: _)
    exact absurd solid (by decide)
  simp [isDescription, no_space]

/-- A line that ends the entries of a section and is no header itself. -/
structure Outside (line : String) : Prop where
  flush : ∀ c, line.toList.head? = some c → Text.isBlank c = false
  content : Text.isVacant line = false
  no_header : Section.ofLine? line = none

namespace Outside

variable {line : String}

theorem opens (outside : Outside line) :
    ∃ c rest, line.toList = c :: rest ∧ Text.isBlank c = false := by
  cases chars : line.toList with
  | nil =>
      have content := outside.content
      simp [Text.isVacant, chars] at content
  | cons c rest => exact ⟨c, rest, rfl, outside.flush c (by simp [chars])⟩

theorem no_entry (outside : Outside line) : entryHead? line = none := by
  obtain ⟨c, rest, chars, solid⟩ := outside.opens
  exact entryHead?_of_flush chars solid

theorem no_description (outside : Outside line) : isDescription line = false := by
  obtain ⟨c, rest, chars, solid⟩ := outside.opens
  exact isDescription_of_flush chars solid

/-- The entries of a section end before a line that stands outside. -/
theorem stop_le (outside : Outside line) {lines front rest : Lines} {index : Nat}
    (split : lines = front ++ line :: rest) :
    ∀ entry ∈ entriesFrom index lines, entry.stop ≤ index + front.length := by
  -- The line comes after every step of the search: it is not vacant, opens no
  -- entry and is no description, so each step takes lines of `front` only.
  fun_induction entriesFrom index lines generalizing front with
  | case1 => simp at split
  | case2 => simp
  | case3 index first others no_header vacant ih =>
      cases front with
      | nil =>
          cases split
          rw [outside.content] at vacant
          cases vacant
      | cons first' front =>
          cases split
          intro entry inside
          have bound := ih rfl entry inside
          simp only [List.length_cons]
          omega
  | case4 => simp
  | case5 index first others no_header content name type head description stop
    others' =>
      rename_i ih
      cases front with
      | nil =>
          cases split
          rw [outside.no_entry] at head
          cases head
      | cons first' front =>
          obtain ⟨rfl, rfl⟩ := List.cons.inj split
          obtain ⟨taken, dropped⟩ := span_stops outside.no_description front rest
          have lengths : (front.takeWhile isDescription).length +
              (front.dropWhile isDescription).length = front.length := by
            rw [← List.length_append, List.takeWhile_append_dropWhile]
          have stop_eq : stop = index + 1 + (front.takeWhile isDescription).length := by
            change index + 1 + ((front ++ line :: rest).takeWhile
              isDescription).length = _
            rw [taken]
          intro entry inside
          cases inside with
          | head =>
              simp only [List.length_cons]
              omega
          | tail _ inside =>
              have bound := ih dropped entry inside
              simp only [List.length_cons]
              omega

theorem mem_skipVacant (outside : Outside line) {lines : Lines}
    (inside : line ∈ lines) : line ∈ skipVacant lines := by
  cases inside with
  | head rest => simp [skipVacant, outside.content]
  | tail first inside =>
      simp only [skipVacant]
      split
      · exact inside
      · exact List.mem_cons_of_mem _ inside

theorem mem_drop_entries (outside : Outside line) {lines : Lines}
    (inside : line ∈ lines) :
    line ∈ lines.drop (((entriesFrom 0 lines).getLast?.map Entry.stop).getD 0) := by
  obtain ⟨front, rest, rfl⟩ := List.append_of_mem inside
  cases last : (entriesFrom 0 (front ++ line :: rest)).getLast? with
  | none => simp
  | some entry =>
      have bound := outside.stop_le rfl entry (List.mem_of_getLast? last)
      rw [Nat.zero_add] at bound
      change line ∈ (front ++ line :: rest).drop entry.stop
      rw [List.drop_append_of_le_length bound]
      simp

theorem mem_convertSections (outside : Outside line) {lines : Lines}
    (inside : line ∈ lines) : line ∈ convertSections lines := by
  fun_induction convertSections lines with
  | case1 => cases inside
  | case2 first others no_header ih =>
      cases inside with
      | head => exact List.mem_cons_self
      | tail _ inside => exact List.mem_cons_of_mem _ (ih inside)
  | case3 first others section_ header body entries stop ih =>
      apply List.mem_append_right
      apply ih
      apply outside.mem_drop_entries
      apply outside.mem_skipVacant
      cases inside with
      | head =>
          rw [outside.no_header] at header
          cases header
      | tail _ inside => exact inside

end Outside

theorem outside_of_startsWith_rtype {line : String}
    (starts : Text.startsWith ":rtype:" line = true) : Outside line := by
  obtain ⟨rest, chars⟩ := Text.startsWith_iff.mp starts
  refine ⟨?_, ?_, ?_⟩
  · rw [chars]
    rintro c ⟨⟩
    decide
  · rw [Text.isVacant, chars]
    rfl
  · obtain ⟨more, trimmed⟩ := Text.dropEndsWhile_append ['r', 't', 'y', 'p', 'e'] rest
      (by decide : Text.isBlank ':' = false) (by decide : Text.isBlank ':' = false)
    have opening : (Text.trim line).toList = ":rtype:".toList ++ more := by
      rw [Text.trim, String.toList_ofList, chars]
      exact trimmed
    -- Every header differs from the field in its second character.
    exact ofLine?_of_trim opening (.inr (by decide))

end DocHints.Docstring
