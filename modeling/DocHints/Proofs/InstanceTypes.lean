import DocHints.Proofs.InstanceNames
import DocHints.Proofs.TypePlacement

/-!
# Types above the fields of instance variables

The scan over the lines puts the type of an instance variable above the first
field for it that has no type, unless a line of the docstring gives the type
already.  `rows` tells for each line what goes above it, by the lines as they
were, and the scan writes these rows.  So it changes no line, puts at most one
type for a name, and finds nothing to do in its own result.
-/

namespace DocHints.Docstring

/-! ## Lines that give a type -/

def givesTypeOf (name line : String) : Bool :=
  Text.startsWith (":vartype " ++ name ++ ":") line

def instanceTypeLine (name text : String) : String :=
  ":vartype " ++ name ++ ": " ++ text

def isUntypedField (name line : String) : Bool :=
  instanceField? line == some (name, false)

theorem WordName.no_colon {name : String} (word : WordName name) :
    ':' ∉ name.toList := by
  intro inside
  exact absurd (word.words _ inside) (by decide)

theorem givesTypeOf_instanceTypeLine {name other : String} (word : WordName name)
    (word' : WordName other) (text : String) :
    givesTypeOf other (instanceTypeLine name text) = (name == other) := by
  rw [Bool.eq_iff_iff, givesTypeOf, Text.startsWith_iff, beq_iff_eq]
  constructor
  · rintro ⟨rest, split⟩
    have same : name.toList ++ ':' :: (' ' :: text.toList) =
        other.toList ++ ':' :: rest := by
      simpa [instanceTypeLine] using split
    exact String.toList_inj.mp
      (Text.eq_of_first_place word.no_colon word'.no_colon same).1
  · rintro rfl
    exact ⟨' ' :: text.toList, by simp [instanceTypeLine]⟩

theorem instanceField?_instanceTypeLine (name text : String) :
    instanceField? (instanceTypeLine name text) = none := by
  have other : Text.dropStart? ":ivar".toList (instanceTypeLine name text).toList =
      none := by
    simp [instanceTypeLine, Text.dropStart?]
  rw [instanceField?, other]

theorem hasInstanceType_cons (name line : String) (lines : Lines) :
    hasInstanceType (line :: lines) name =
      (givesTypeOf name line || hasInstanceType lines name) :=
  rfl

/-! ## What goes above a line -/

/--
The name and the hint of the type that goes above a line: those of a field
without a type, unless the type is given or there is no hint.
-/
def wanted? (hints : Annotations) (given : String → Bool) (line : String) :
    Option (String × Value) :=
  match instanceField? line with
  | some (name, false) =>
    if given name then none else (Entries.find? hints name).map fun hint => (name, hint)
  | _ => none

section Wanted

variable {hints : Annotations} {given given' : String → Bool} {line name : String}
  {hint : Value}

theorem wanted?_untyped (field : instanceField? line = some (name, false)) :
    wanted? hints given line =
      if given name then none
      else (Entries.find? hints name).map fun hint => (name, hint) := by
  rw [wanted?, field]

theorem wanted?_other (other : ∀ name, instanceField? line ≠ some (name, false)) :
    wanted? hints given line = none := by
  unfold wanted?
  split
  · rename_i name field
    exact absurd field (other name)
  · rfl

theorem wanted?_eq_some (wanted : wanted? hints given line = some (name, hint)) :
    instanceField? line = some (name, false) ∧ given name = false ∧
      Entries.find? hints name = some hint := by
  unfold wanted? at wanted
  split at wanted
  · rename_i found field
    split at wanted
    · cases wanted
    · rename_i ungiven
      obtain ⟨found, hinted, same⟩ := Option.map_eq_some_iff.mp wanted
      cases same
      exact ⟨field, by simpa using ungiven, hinted⟩
  · cases wanted

theorem wanted?_eq_none (unwanted : wanted? hints given line = none)
    (field : instanceField? line = some (name, false))
    (hinted : (Entries.find? hints name).isSome = true) : given name = true := by
  rw [wanted?_untyped field] at unwanted
  cases given_name : given name with
  | true => rfl
  | false =>
      rw [given_name, if_neg Bool.false_ne_true, Option.map_eq_none_iff] at unwanted
      rw [unwanted] at hinted
      cases hinted

theorem wanted?_congr (same : ∀ name, WordName name →
    (Entries.find? hints name).isSome = true →
    given name = given' name) : wanted? hints given line =
      wanted? hints given' line := by
  cases field : instanceField? line with
  | none => simp [wanted?, field]
  | some found =>
      obtain ⟨name, typed⟩ := found
      cases typed with
      | true => simp [wanted?, field]
      | false =>
          rw [wanted?_untyped field, wanted?_untyped field]
          cases hinted : Entries.find? hints name with
          | none => simp
          | some hint => rw [same name (instanceField?_word field) (by simp [hinted])]

end Wanted

theorem injectInstanceTypesFrom_cons (typeText : Value → Except Failure String)
    (hints : Annotations) (before : Lines) (line : String) (rest : Lines) :
    injectInstanceTypesFrom typeText hints before (line :: rest) =
      (wanted? hints
        (fun name => hasInstanceType before name || hasInstanceType (line :: rest) name)
        line).elim
          (injectInstanceTypesFrom typeText hints (line :: before) rest) fun want =>
          typeText want.2 >>= fun text =>
            injectInstanceTypesFrom typeText hints
              (line :: instanceTypeLine want.1 text :: before) rest := by
  rw [injectInstanceTypesFrom, wanted?]
  cases field : instanceField? line with
  | none => rfl
  | some found =>
      obtain ⟨name, typed⟩ := found
      cases typed with
      | true => rfl
      | false =>
          dsimp only
          split
          · rfl
          · unfold Entries.find?
            cases hints.find? (·.1 == name) <;> rfl

/-! ## The rows of a docstring -/

structure Row where
  line : String
  wanted : Option (String × Value)

def givenBy (lines earlier : Lines) (name : String) : Bool :=
  hasInstanceType lines name || earlier.any (isUntypedField name)

def rowsFrom (hints : Annotations) (lines : Lines) : Lines → Lines → List Row
  | _, [] => []
  | earlier, line :: rest =>
    ⟨line, wanted? hints (givenBy lines earlier) line⟩ ::
      rowsFrom hints lines (line :: earlier) rest

def rows (hints : Annotations) (lines : Lines) : List Row :=
  rowsFrom hints lines [] lines

def Row.written (typeText : Value → Except Failure String) (row : Row) :
    Except Failure Lines :=
  match row.wanted with
  | none => .ok [row.line]
  | some (name, hint) =>
      (typeText hint).map fun text => [instanceTypeLine name text, row.line]

def written (typeText : Value → Except Failure String) : List Row → Except Failure Lines
  | [] => .ok []
  | row :: rows =>
      row.written typeText >>= fun own => (written typeText rows).map (own ++ ·)

section Rows

variable {typeText : Value → Except Failure String} {hints : Annotations}
  {lines earlier before rest : Lines} {line name : String}

/--
What the scan has seen: for a name with a hint, the lines that are done and
those that are left give its type exactly if the docstring gave it, or if an
earlier line is a field for it without a type.
-/
def Seen (hints : Annotations) (lines earlier before rest : Lines) : Prop :=
  ∀ name, WordName name → (Entries.find? hints name).isSome = true →
    (hasInstanceType before name || hasInstanceType rest name) =
      givenBy lines earlier name

theorem Seen.start (hints : Annotations) (lines : Lines) :
    Seen hints lines [] [] lines := by
  intro name word hinted
  simp [hasInstanceType, givenBy]

theorem givenBy_cons (lines earlier : Lines) (line name : String) :
    givenBy lines (line :: earlier) name =
      (isUntypedField name line || givenBy lines earlier name) := by
  simp only [givenBy, List.any_cons]
  cases isUntypedField name line <;> simp

theorem hasInstanceType_move (name line : String) (before rest : Lines) :
    (hasInstanceType (line :: before) name || hasInstanceType rest name) =
      (hasInstanceType before name || hasInstanceType (line :: rest) name) := by
  rw [hasInstanceType_cons, hasInstanceType_cons]
  cases givesTypeOf name line <;> simp

theorem Seen.pass (seen : Seen hints lines earlier before (line :: rest))
    (unwanted : wanted? hints (givenBy lines earlier) line = none) :
    Seen hints lines (line :: earlier) (line :: before) rest := by
  intro name word hinted
  rw [hasInstanceType_move, seen name word hinted, givenBy_cons]
  cases field : isUntypedField name line with
  | true =>
      rw [wanted?_eq_none unwanted (by simpa [isUntypedField] using field) hinted,
        Bool.true_or]
  | false => rw [Bool.false_or]

theorem Seen.insert (seen : Seen hints lines earlier before (line :: rest))
    (field : instanceField? line = some (name, false)) (text : String) :
    Seen hints lines (line :: earlier)
      (line :: instanceTypeLine name text :: before) rest := by
  intro other word hinted
  have own : isUntypedField other line = (name == other) := by
    rw [isUntypedField, field, Bool.eq_iff_iff]
    simp
  rw [hasInstanceType_move, hasInstanceType_cons,
    givesTypeOf_instanceTypeLine (instanceField?_word field) word, Bool.or_assoc,
    seen other word hinted, givenBy_cons, own]

theorem written_plain (front : Lines) (line : String) (rows : List Row) :
    (written typeText (⟨line, none⟩ :: rows)).map (front ++ ·) =
      (written typeText rows).map (front ++ [line] ++ ·) := by
  simp only [written, Row.written]
  cases written typeText rows with
  | error failure => rfl
  | ok back => simp [bind, Except.bind, Except.map]

theorem written_typed (front : Lines) (line : String) (want : String × Value)
    (rows : List Row) :
    (written typeText (⟨line, some want⟩ :: rows)).map (front ++ ·) =
      typeText want.2 >>= fun text =>
        (written typeText rows).map
          (front ++ [instanceTypeLine want.1 text, line] ++ ·) := by
  simp only [written, Row.written]
  cases typeText want.2 with
  | error failure => rfl
  | ok text =>
      cases written typeText rows with
      | error failure => rfl
      | ok back => simp [bind, Except.bind, Except.map]

/-- The scan writes the rows of the lines that are left. -/
theorem injectInstanceTypesFrom_eq (seen : Seen hints lines earlier before rest) :
    injectInstanceTypesFrom typeText hints before rest =
      (written typeText (rowsFrom hints lines earlier rest)).map
        (before.reverse ++ ·) := by
  induction rest generalizing earlier before with
  | nil => simp [injectInstanceTypesFrom, rowsFrom, written, Except.map]
  | cons line rest ih =>
      rw [injectInstanceTypesFrom_cons, wanted?_congr seen, rowsFrom]
      cases wanted : wanted? hints (givenBy lines earlier) line with
      | none =>
          rw [written_plain, ← List.reverse_cons]
          exact ih (seen.pass wanted)
      | some want =>
          rw [written_typed]
          refine congrArg (typeText want.2 >>= ·) (funext fun text => ?_)
          rw [ih (seen.insert (wanted?_eq_some wanted).1 text)]
          simp

theorem injectInstanceTypes_eq (typeText : Value → Except Failure String)
    (hints : Annotations) (lines : Lines) :
    injectInstanceTypes typeText hints lines = written typeText (rows hints lines) := by
  rw [injectInstanceTypes, injectInstanceTypesFrom_eq (Seen.start hints lines), rows]
  cases written typeText (rowsFrom hints lines [] lines) <;> rfl

/-! ## The names that get a type -/

def Row.name? (row : Row) : Option String :=
  row.wanted.map Prod.fst

def insertedNames (hints : Annotations) (lines : Lines) : List String :=
  (rows hints lines).filterMap Row.name?

theorem map_line_rowsFrom (hints : Annotations) (lines earlier rest : Lines) :
    (rowsFrom hints lines earlier rest).map Row.line = rest := by
  induction rest generalizing earlier with
  | nil => rfl
  | cons line rest ih => rw [rowsFrom, List.map_cons, ih]

theorem map_line_rows (hints : Annotations) (lines : Lines) :
    (rows hints lines).map Row.line = lines :=
  map_line_rowsFrom hints lines [] lines

theorem rowsFrom_append (hints : Annotations) (lines earlier front back : Lines) :
    rowsFrom hints lines earlier (front ++ back) =
      rowsFrom hints lines earlier front ++
        rowsFrom hints lines (front.reverse ++ earlier) back := by
  induction front generalizing earlier with
  | nil => rfl
  | cons line front ih =>
      rw [List.cons_append, rowsFrom, ih, rowsFrom, List.reverse_cons,
        List.append_assoc]
      rfl

theorem wanted_of_mem {row : Row} {hint : Value}
    (inside : row ∈ rowsFrom hints lines earlier rest)
    (wanted : row.wanted = some (name, hint)) :
    row.line ∈ rest ∧ instanceField? row.line = some (name, false) ∧
      givenBy lines earlier name = false ∧ Entries.find? hints name = some hint := by
  induction rest generalizing earlier with
  | nil => cases inside
  | cons line rest ih =>
      rw [rowsFrom, List.mem_cons] at inside
      obtain rfl | below := inside
      · obtain ⟨field, fresh, hinted⟩ := wanted?_eq_some wanted
        exact ⟨List.mem_cons_self, field, fresh, hinted⟩
      · obtain ⟨inside, field, fresh, hinted⟩ := ih below
        rw [givenBy_cons, Bool.or_eq_false_iff] at fresh
        exact ⟨List.mem_cons_of_mem _ inside, field, fresh.2, hinted⟩

theorem nodup_names (hints : Annotations) (lines earlier rest : Lines) :
    ((rowsFrom hints lines earlier rest).filterMap Row.name?).Nodup := by
  induction rest generalizing earlier with
  | nil => exact List.nodup_nil
  | cons line rest ih =>
      rw [rowsFrom, List.filterMap_cons]
      cases wanted : wanted? hints (givenBy lines earlier) line with
      | none => exact ih (line :: earlier)
      | some want =>
          refine List.nodup_cons.mpr ⟨?_, ih (line :: earlier)⟩
          -- The name of this field is given for all the lines below.
          intro again
          obtain ⟨row, inside, named⟩ := List.mem_filterMap.mp again
          obtain ⟨⟨other, hint⟩, wanted', rfl⟩ := Option.map_eq_some_iff.mp named
          have fresh := (wanted_of_mem inside wanted').2.2.1
          rw [givenBy_cons, Bool.or_eq_false_iff, isUntypedField] at fresh
          simp [(wanted?_eq_some wanted).1] at fresh

theorem exists_wanted {hint : Value} (inside : line ∈ rest)
    (field : instanceField? line = some (name, false))
    (fresh : givenBy lines earlier name = false)
    (hinted : Entries.find? hints name = some hint) :
    ∃ row ∈ rowsFrom hints lines earlier rest, row.wanted = some (name, hint) := by
  induction rest generalizing earlier with
  | nil => cases inside
  | cons first rest ih =>
      rw [rowsFrom]
      cases own : isUntypedField name first with
      | true =>
          refine ⟨_, List.mem_cons_self, ?_⟩
          have field' : instanceField? first = some (name, false) := by
            simpa [isUntypedField] using own
          simp [wanted?_untyped field', fresh, hinted]
      | false =>
          have below : line ∈ rest := by
            refine (List.mem_cons.mp inside).resolve_left ?_
            rintro rfl
            simp [isUntypedField, field] at own
          obtain ⟨row, inside, wanted⟩ :=
            ih below (by rw [givenBy_cons, own, fresh, Bool.false_or])
          exact ⟨row, List.mem_cons_of_mem _ inside, wanted⟩

theorem name_mem_of_wanted {row : Row} {hint : Value} (inside : row ∈ rows hints lines)
    (wanted : row.wanted = some (name, hint)) : name ∈ insertedNames hints lines :=
  List.mem_filterMap.mpr ⟨row, inside, by rw [Row.name?, wanted]; rfl⟩

theorem exists_row_of_name (inserted : name ∈ insertedNames hints lines) :
    ∃ row ∈ rows hints lines, ∃ hint, row.wanted = some (name, hint) := by
  obtain ⟨row, inside, named⟩ := List.mem_filterMap.mp inserted
  obtain ⟨⟨own, hint⟩, wanted, rfl⟩ := Option.map_eq_some_iff.mp named
  exact ⟨row, inside, hint, wanted⟩

theorem mem_insertedNames :
    name ∈ insertedNames hints lines ↔
      (∃ line ∈ lines, instanceField? line = some (name, false)) ∧
        hasInstanceType lines name = false ∧
          (Entries.find? hints name).isSome = true := by
  have start : givenBy lines [] name = hasInstanceType lines name := by simp [givenBy]
  constructor
  · intro inserted
    obtain ⟨row, in_rows, hint, wanted⟩ := exists_row_of_name inserted
    obtain ⟨inside, field, fresh, hinted⟩ := wanted_of_mem in_rows wanted
    exact ⟨⟨row.line, inside, field⟩, start ▸ fresh, by rw [hinted]; rfl⟩
  · rintro ⟨⟨line, inside, field⟩, fresh, hinted⟩
    obtain ⟨hint, hinted⟩ := Option.isSome_iff_exists.mp hinted
    obtain ⟨row, in_rows, wanted⟩ :=
      exists_wanted inside field (start.trans fresh) hinted
    exact name_mem_of_wanted in_rows wanted

/-! ## The lines that are written -/

theorem Row.written_eq_ok {row : Row} {own : Lines}
    (done : row.written typeText = .ok own) :
    (row.wanted = none ∧ own = [row.line]) ∨
      ∃ name hint text, row.wanted = some (name, hint) ∧ typeText hint = .ok text ∧
        own = [instanceTypeLine name text, row.line] := by
  unfold Row.written at done
  cases wanted : row.wanted with
  | none =>
      rw [wanted] at done
      exact .inl ⟨rfl, (Except.ok.inj done).symm⟩
  | some want =>
      rw [wanted] at done
      obtain ⟨text, told, same⟩ := map_eq_ok.mp done
      exact .inr ⟨want.1, want.2, text, rfl, told, same.symm⟩

theorem written_cons_eq_ok {row : Row} {rows : List Row} {out : Lines} :
    written typeText (row :: rows) = .ok out ↔
      ∃ own back, row.written typeText = .ok own ∧ written typeText rows = .ok back ∧
        out = own ++ back := by
  rw [written, bind_eq_ok]
  simp only [map_eq_ok]
  grind

theorem written_append (above below : List Row) :
    written typeText (above ++ below) =
      written typeText above >>= fun front =>
        (written typeText below).map (front ++ ·) := by
  induction above with
  | nil =>
      simp only [List.nil_append, written]
      cases written typeText below <;> rfl
  | cons row above ih =>
      rw [List.cons_append, written, ih, written]
      cases row.written typeText with
      | error failure => rfl
      | ok own =>
          cases written typeText above with
          | error failure => rfl
          | ok front =>
              cases written typeText below with
              | error failure => rfl
              | ok back => simp [bind, Except.bind, Except.map]

theorem mem_written {rows : List Row} {out : Lines}
    (done : written typeText rows = .ok out) (inside : line ∈ out) :
    line ∈ rows.map Row.line ∨
      ∃ row ∈ rows, ∃ name hint text, row.wanted = some (name, hint) ∧
        line = instanceTypeLine name text := by
  induction rows generalizing out with
  | nil =>
      cases done
      cases inside
  | cons row rows ih =>
      obtain ⟨own, back, first, wrote_back, rfl⟩ := written_cons_eq_ok.mp done
      obtain in_own | in_back := List.mem_append.mp inside
      · obtain ⟨-, rfl⟩ | ⟨name, hint, text, wanted, -, rfl⟩ := Row.written_eq_ok first
        · obtain rfl := List.mem_singleton.mp in_own
          exact .inl List.mem_cons_self
        · obtain rfl | rfl := by simpa using in_own
          · exact .inr ⟨row, List.mem_cons_self, name, hint, text, wanted, rfl⟩
          · exact .inl (by simp)
      · obtain in_lines | ⟨row', in_rows, wanted⟩ := ih wrote_back in_back
        · exact .inl (List.mem_cons_of_mem _ in_lines)
        · exact .inr ⟨row', List.mem_cons_of_mem _ in_rows, wanted⟩

theorem subset_written {rows : List Row} {out : Lines}
    (done : written typeText rows = .ok out) : rows.map Row.line ⊆ out := by
  induction rows generalizing out with
  | nil => exact List.nil_subset out
  | cons row rows ih =>
      obtain ⟨own, back, first, wrote_back, rfl⟩ := written_cons_eq_ok.mp done
      have in_own : row.line ∈ own := by
        obtain ⟨-, rfl⟩ | ⟨name, hint, text, -, -, rfl⟩ :=
          Row.written_eq_ok first <;> simp
      exact List.cons_subset.mpr ⟨List.mem_append_left _ in_own,
        fun line inside => List.mem_append_right _ (ih wrote_back inside)⟩

theorem filter_written {keep : String → Bool} {rows : List Row} {out : Lines}
    (kept : ∀ row ∈ rows, keep row.line = true)
    (dropped : ∀ row ∈ rows, ∀ name hint text, row.wanted = some (name, hint) →
      keep (instanceTypeLine name text) = false)
    (done : written typeText rows = .ok out) : out.filter keep = rows.map Row.line := by
  induction rows generalizing out with
  | nil =>
      cases done
      rfl
  | cons row rows ih =>
      simp only [List.forall_mem_cons] at kept dropped
      obtain ⟨own, back, first, wrote_back, rfl⟩ := written_cons_eq_ok.mp done
      rw [List.filter_append, ih kept.2 dropped.2 wrote_back, List.map_cons]
      obtain ⟨-, rfl⟩ | ⟨name, hint, text, wanted, -, rfl⟩ := Row.written_eq_ok first
      · simp [kept.1]
      · simp [kept.1, dropped.1 name hint text wanted]

theorem written_of_unwanted {rows : List Row}
    (unwanted : ∀ row ∈ rows, row.wanted = none) :
    written typeText rows = .ok (rows.map Row.line) := by
  induction rows with
  | nil => rfl
  | cons row rows ih =>
      simp only [List.forall_mem_cons] at unwanted
      rw [written, Row.written, unwanted.1, ih unwanted.2]
      rfl

theorem Row.exists_written_iff {row : Row} :
    (∃ own, row.written typeText = .ok own) ↔
      ∀ name hint, row.wanted = some (name, hint) →
        ∃ text, typeText hint = .ok text := by
  constructor
  · rintro ⟨own, done⟩ name hint wanted
    obtain ⟨unwanted, -⟩ | ⟨name', hint', text, wanted', told, -⟩ :=
      Row.written_eq_ok done
    · rw [wanted] at unwanted
      cases unwanted
    · rw [wanted] at wanted'
      cases wanted'
      exact ⟨text, told⟩
  · intro told
    unfold Row.written
    cases wanted : row.wanted with
    | none => exact ⟨_, rfl⟩
    | some want =>
        obtain ⟨text, told⟩ := told want.1 want.2 wanted
        exact ⟨_, map_eq_ok.mpr ⟨text, told, rfl⟩⟩

theorem exists_written_iff {rows : List Row} :
    (∃ out, written typeText rows = .ok out) ↔
      ∀ row ∈ rows, ∀ name hint, row.wanted = some (name, hint) →
        ∃ text, typeText hint = .ok text := by
  induction rows with
  | nil => simp [written]
  | cons row rows ih =>
      rw [List.forall_mem_cons, ← ih, ← Row.exists_written_iff]
      constructor
      · rintro ⟨out, done⟩
        obtain ⟨own, back, first, wrote_back, -⟩ := written_cons_eq_ok.mp done
        exact ⟨⟨own, first⟩, back, wrote_back⟩
      · rintro ⟨⟨own, first⟩, back, wrote_back⟩
        exact ⟨own ++ back, written_cons_eq_ok.mpr ⟨own, back, first, wrote_back, rfl⟩⟩

theorem written_split {rows : List Row} {out : Lines} {row : Row} {hint : Value}
    (done : written typeText rows = .ok out) (inside : row ∈ rows)
    (wanted : row.wanted = some (name, hint)) :
    ∃ above below front back text, rows = above ++ row :: below ∧
      written typeText above = .ok front ∧ written typeText below = .ok back ∧
      typeText hint = .ok text ∧ out =
        front ++ instanceTypeLine name text :: row.line :: back := by
  obtain ⟨above, below, rfl⟩ := List.append_of_mem inside
  rw [written_append] at done
  obtain ⟨front, wrote_above, behind⟩ := bind_eq_ok.mp done
  obtain ⟨tail, wrote_tail, rfl⟩ := map_eq_ok.mp behind
  obtain ⟨own, back, first, wrote_below, rfl⟩ := written_cons_eq_ok.mp wrote_tail
  obtain ⟨unwanted, -⟩ | ⟨name', hint', text, wanted', told, rfl⟩ :=
    Row.written_eq_ok first
  · rw [wanted] at unwanted
    cases unwanted
  · rw [wanted] at wanted'
    cases wanted'
    exact ⟨above, below, front, back, text, rfl, wrote_above, wrote_below, told,
      by simp⟩

theorem givesTypeOf_line {other : String} (fresh : hasInstanceType lines name = false)
    (inside : other ∈ lines) : givesTypeOf name other = false :=
  Bool.eq_false_iff.mpr (List.any_eq_false.mp fresh other inside)

theorem givesTypeOf_written {some_rows : List Row} {out : Lines} {other : String}
    (done : written typeText some_rows = .ok out) (fewer : some_rows ⊆ rows hints lines)
    (unnamed : name ∉ some_rows.filterMap Row.name?) (word : WordName name)
    (fresh : hasInstanceType lines name = false) (inside : other ∈ out) :
    givesTypeOf name other = false := by
  obtain in_docstring | ⟨row, in_rows, name', hint, text, wanted, rfl⟩ :=
    mem_written done inside
  · have lines_of := List.map_subset Row.line fewer
    rw [map_line_rows] at lines_of
    exact givesTypeOf_line fresh (lines_of in_docstring)
  · obtain ⟨-, field, -⟩ := wanted_of_mem (fewer in_rows) wanted
    rw [givesTypeOf_instanceTypeLine (instanceField?_word field) word]
    apply beq_eq_false_iff_ne.mpr
    rintro rfl
    exact unnamed (List.mem_filterMap.mpr ⟨row, in_rows,
      by rw [Row.name?, wanted]; rfl⟩)

theorem written_once {out : Lines}
    (done : written typeText (rows hints lines) = .ok out)
    (inserted : name ∈ insertedNames hints lines) :
    ∃ front text line back hint, out =
      front ++ instanceTypeLine name text :: line :: back ∧
      instanceField? line = some (name, false) ∧ Entries.find? hints name = some hint ∧
      typeText hint = .ok text ∧
      ∀ other ∈ front ++ line :: back, givesTypeOf name other = false := by
  obtain ⟨-, fresh, -⟩ := mem_insertedNames.mp inserted
  obtain ⟨row, in_rows, hint, wanted⟩ := exists_row_of_name inserted
  obtain ⟨inside, field, -, hinted⟩ := wanted_of_mem in_rows wanted
  obtain ⟨above, below, front, back, text, split, wrote_above, wrote_below, told,
      rfl⟩ :=
    written_split done in_rows wanted
  refine ⟨front, text, row.line, back, hint, rfl, field, hinted, told, ?_⟩
  -- No other row wants a type of the same name, and the docstring has none.
  have others : written typeText (above ++ below) = .ok (front ++ back) := by
    rw [written_append, wrote_above, wrote_below]
    rfl
  have other_names : name ∉ (above ++ below).filterMap Row.name? := by
    have named : row.name? = some name := by rw [Row.name?, wanted]; rfl
    have nodup := nodup_names hints lines [] lines
    rw [← rows, split, List.filterMap_append, List.filterMap_cons_some named] at nodup
    rw [List.filterMap_append]
    exact (List.nodup_cons.mp (List.perm_middle.nodup nodup)).1
  have fewer : above ++ below ⊆ rows hints lines := by
    rw [split]
    exact ((List.sublist_cons_self row below).append_left above).subset
  intro other in_result
  rw [List.mem_append, List.mem_cons, or_left_comm, ← List.mem_append] at in_result
  obtain rfl | elsewhere := in_result
  · exact givesTypeOf_line fresh inside
  · exact givesTypeOf_written others fewer other_names (instanceField?_word field)
      fresh elsewhere

theorem written_removed {out : Lines}
    (done : written typeText (rows hints lines) = .ok out) :
    out.filter (fun line => !(insertedNames hints lines).any (givesTypeOf · line)) =
      lines := by
  refine (filter_written ?_ ?_ done).trans (map_line_rows hints lines)
  · intro row in_rows
    have inside : row.line ∈ lines :=
      map_line_rows hints lines ▸ List.mem_map_of_mem in_rows
    have unseen : (insertedNames hints lines).any (givesTypeOf · row.line) = false := by
      apply List.any_eq_false.mpr
      intro name inserted
      rw [givesTypeOf_line (mem_insertedNames.mp inserted).2.1 inside]
      exact Bool.false_ne_true
    rw [unseen]
    rfl
  · intro row in_rows name hint text wanted
    have word := instanceField?_word (wanted_of_mem in_rows wanted).2.1
    have seen :
        (insertedNames hints lines).any
          (givesTypeOf · (instanceTypeLine name text)) = true :=
      List.any_eq_true.mpr ⟨name, name_mem_of_wanted in_rows wanted, by
        rw [givesTypeOf_instanceTypeLine word word, beq_self_eq_true]⟩
    rw [seen]
    rfl

theorem told_by_name_iff :
    (∀ row ∈ rows hints lines, ∀ name hint, row.wanted = some (name, hint) →
        ∃ text, typeText hint = .ok text) ↔
      ∀ name ∈ insertedNames hints lines, ∀ hint, Entries.find? hints name = some hint →
        ∃ text, typeText hint = .ok text := by
  constructor
  · intro told name inserted hint hinted
    obtain ⟨row, in_rows, hint', wanted⟩ := exists_row_of_name inserted
    rw [(wanted_of_mem in_rows wanted).2.2.2] at hinted
    cases hinted
    exact told row in_rows name hint wanted
  · intro told row in_rows name hint wanted
    exact told name (name_mem_of_wanted in_rows wanted) hint
      (wanted_of_mem in_rows wanted).2.2.2

/-! ## A second scan -/

theorem hasInstanceType_written {out : Lines} {hint : Value}
    (done : written typeText (rows hints lines) = .ok out) (inside : line ∈ out)
    (field : instanceField? line = some (name, false))
    (hinted : Entries.find? hints name = some hint) :
    hasInstanceType out name = true := by
  have kept : lines ⊆ out := by
    have subset := subset_written done
    rwa [map_line_rows] at subset
  obtain in_lines | ⟨row, -, name', hint', text, -, rfl⟩ := mem_written done inside
  · rw [map_line_rows] at in_lines
    cases given : hasInstanceType lines name with
    | true =>
        obtain ⟨typed, in_lines, gives⟩ := List.any_eq_true.mp given
        exact List.any_eq_true.mpr ⟨typed, kept in_lines, gives⟩
    | false =>
        have fresh : givenBy lines [] name = false := by simp [givenBy, given]
        obtain ⟨row, in_rows, wanted⟩ := exists_wanted in_lines field fresh hinted
        obtain ⟨-, -, front, back, text, -, -, -, -, rfl⟩ :=
          written_split done in_rows wanted
        have word := instanceField?_word field
        refine List.any_eq_true.mpr ⟨instanceTypeLine name text, by simp, ?_⟩
        exact (givesTypeOf_instanceTypeLine word word text).trans
          (beq_self_eq_true name)
  · rw [instanceField?_instanceTypeLine] at field
    cases field

theorem written_again {out : Lines}
    (done : written typeText (rows hints lines) = .ok out) :
    written typeText (rows hints out) = .ok out := by
  have unwanted : ∀ row ∈ rows hints out, row.wanted = none := by
    intro row in_rows
    cases wanted : row.wanted with
    | none => rfl
    | some want =>
        obtain ⟨inside, field, fresh, hinted⟩ := wanted_of_mem in_rows wanted
        rw [givenBy, hasInstanceType_written done inside field hinted] at fresh
        cases fresh
  rw [written_of_unwanted unwanted, map_line_rows]

/-! ## The scan by index -/

/--
A round of the scan: the type that is wanted goes above the line, and both are
passed.
-/
def scanRound (typeText : Value → Except Failure String) (hints : Annotations)
    (lines : Lines) (index : Nat) (line : String) : Except Failure (Lines × Nat) :=
  match wanted? hints (hasInstanceType lines) line with
  | none => .ok (lines, index + 1)
  | some (name, hint) => (typeText hint).map fun text =>
      (insertLine lines index (instanceTypeLine name text), index + 2)

/--
Scans the lines from an index on, in at most so many rounds; `none` if these do
not suffice.
-/
def scan (typeText : Value → Except Failure String) (hints : Annotations) :
    Nat → Lines → Nat → Option (Except Failure Lines)
  | 0, lines, index => if index < lines.length then none else some (.ok lines)
  | rounds + 1, lines, index =>
    match lines[index]? with
    | none => some (.ok lines)
    | some line =>
      match scanRound typeText hints lines index line with
      | .error failure => some (.error failure)
      | .ok (lines, index) => scan typeText hints rounds lines index

theorem scanRound_at (before : Lines) (line : String) (rest : Lines) :
    scanRound typeText hints (before.reverse ++ line :: rest) before.length line =
      (wanted? hints
        (fun name => hasInstanceType before name || hasInstanceType (line :: rest) name)
        line).elim
          (.ok ((line :: before).reverse ++ rest, (line :: before).length)) fun want =>
          (typeText want.2).map fun text =>
            ((line :: instanceTypeLine want.1 text :: before).reverse ++ rest,
              (line :: instanceTypeLine want.1 text :: before).length) := by
  have given : hasInstanceType (before.reverse ++ line :: rest) = fun name =>
      hasInstanceType before name || hasInstanceType (line :: rest) name := by
    funext name
    simp [hasInstanceType]
  have inserted : ∀ field, insertLine (before.reverse ++ line :: rest) before.length
      field = (line :: field :: before).reverse ++ rest := by
    intro field
    have placed := insertLine_at before.reverse (line :: rest) field
    rw [List.length_reverse] at placed
    simp [placed]
  rw [scanRound, given]
  cases wanted? hints (fun name =>
    hasInstanceType before name || hasInstanceType (line :: rest) name) line with
  | none => simp
  | some want =>
      simp only [inserted]
      rfl

theorem scan_eq (before : Lines) {rounds : Nat} (enough : rest.length ≤ rounds) :
    scan typeText hints rounds (before.reverse ++ rest) before.length =
      some (injectInstanceTypesFrom typeText hints before rest) := by
  induction rest generalizing before rounds with
  | nil =>
      cases rounds with
      | zero => simp [scan, injectInstanceTypesFrom]
      | succ rounds => simp [scan, injectInstanceTypesFrom]
  | cons line rest ih =>
      cases rounds with
      | zero => cases enough
      | succ rounds =>
          have enough' : rest.length ≤ rounds := Nat.le_of_succ_le_succ enough
          have read : (before.reverse ++ line :: rest)[before.length]? = some line := by
            rw [List.getElem?_append_right (by simp)]
            simp
          rw [scan, read, injectInstanceTypesFrom_cons]
          dsimp only
          rw [scanRound_at]
          cases wanted? hints
              (fun name => hasInstanceType before name
                || hasInstanceType (line :: rest) name)
              line with
          | none => exact ih (line :: before) enough'
          | some want =>
              dsimp only [Option.elim]
              cases typeText want.2 with
              | error failure => rfl
              | ok text =>
                  exact ih (line :: instanceTypeLine want.1 text :: before) enough'

/-! ## The result of the scan -/

/--
The scan ends after a round for each line.  It puts in the types of exactly
those names that have a field without a type, a hint, and no line that gives
their type; it fails only if one of these hints cannot be told.  Without the
lines it has put in, the docstring is what it was.  Each of them stands directly
above a field for its name, and is the only one that gives the type of that
name.  A second scan changes nothing.
-/
theorem instance_types_put_in (typeText : Value → Except Failure String)
    (hints : Annotations) (lines : Lines) :
    (∀ rounds, lines.length ≤ rounds →
      scan typeText hints rounds lines 0 =
        some (injectInstanceTypes typeText hints lines)) ∧
    ∃ names : List String, names.Nodup ∧
      (∀ name, name ∈ names ↔
        (∃ line ∈ lines, instanceField? line = some (name, false)) ∧
        hasInstanceType lines name = false ∧ (Entries.find? hints name).isSome = true) ∧
      ((∃ out, injectInstanceTypes typeText hints lines = .ok out) ↔
        ∀ name ∈ names, ∀ hint, Entries.find? hints name = some hint →
          ∃ text, typeText hint = .ok text) ∧
      ∀ out, injectInstanceTypes typeText hints lines = .ok out →
        out.filter (fun line => !names.any (givesTypeOf · line)) = lines ∧
        (∀ name ∈ names, ∃ front text line back hint,
          out = front ++ instanceTypeLine name text :: line :: back ∧
          instanceField? line = some (name, false) ∧
            Entries.find? hints name = some hint ∧
          typeText hint = .ok text ∧
          ∀ other ∈ front ++ line :: back, givesTypeOf name other = false) ∧
        injectInstanceTypes typeText hints out = .ok out := by
  refine ⟨fun rounds enough => scan_eq [] enough, insertedNames hints lines,
    nodup_names hints lines [] lines, fun name => mem_insertedNames, ?_, ?_⟩
  · rw [injectInstanceTypes_eq, exists_written_iff]
    exact told_by_name_iff
  · intro out done
    rw [injectInstanceTypes_eq] at done ⊢
    exact ⟨written_removed done, fun name inserted => written_once done inserted,
      written_again done⟩

def repeatedFields : Lines :=
  [":ivar :", ":ivar x: it", ":vartype y: int", ":ivar y: of", ":ivar x: again"]

def repeatedFieldsTyped : Lines :=
  [":ivar :", ":vartype x: T", ":ivar x: it", ":vartype y: int", ":ivar y: of",
    ":ivar x: again"]

theorem instance_types_put_in_repeated :
    injectInstanceTypes (fun _ => .ok "T") [("x", .noneType), ("y", .noneType)]
      repeatedFields =
        .ok repeatedFieldsTyped ∧
      injectInstanceTypes (fun _ => .ok "T") [("x", .noneType), ("y", .noneType)]
        repeatedFieldsTyped = .ok repeatedFieldsTyped := by
  have done : injectInstanceTypes (fun _ => .ok "T")
      [("x", .noneType), ("y", .noneType)]
      repeatedFields = .ok repeatedFieldsTyped := eq_ok_of_toOption (by decide +kernel)
  obtain ⟨-, names, -, -, -, put_in⟩ :=
    instance_types_put_in (fun _ => .ok "T") [("x", .noneType), ("y", .noneType)]
      repeatedFields
  obtain ⟨-, -, again⟩ := put_in repeatedFieldsTyped done
  exact ⟨done, again⟩

/-! ## A field with its name -/

theorem injectInstanceTypes_at (typeText : Value → Except Failure String)
    (hints : Annotations) (before after : Lines) (line : String) :
    ∃ above below : List Row, above.map Row.line = before ∧ below.map Row.line = after ∧
      injectInstanceTypes typeText hints (before ++ line :: after) =
        written typeText (above ++
          ⟨line, wanted? hints (givenBy (before ++ line :: after) before.reverse)
            line⟩ :: below) := by
  refine ⟨rowsFrom hints (before ++ line :: after) [] before,
    rowsFrom hints (before ++ line :: after) (line :: before.reverse) after,
    map_line_rowsFrom .., map_line_rowsFrom .., ?_⟩
  rw [injectInstanceTypes_eq, rows, rowsFrom_append, List.append_nil, rowsFrom]

/--
The field of an instance variable is read with its own name exactly if its
description has no word that a colon closes, and else as a field with a type for
such a word.  So a type that the docstring lacks goes above the first field for
its name if the description has no such word, and no type goes above the line if
there is one.
-/
theorem untyped_field_read_iff (word : WordName name) (description : String) :
    (instanceField? (instanceLine name description) = some (name, false) ↔
      ¬ Labelled (' ' :: description.toList)) ∧
    (Labelled (' ' :: description.toList) →
      ∃ other, instanceField? (instanceLine name description) = some (other, true)) ∧
    ∀ (typeText : Value →
      Except Failure String) (hints : Annotations) (before after : Lines)
      (hint : Value), Entries.find? hints name = some hint →
      hasInstanceType (before ++ instanceLine name description :: after) name = false →
      (∀ line ∈ before, instanceField? line ≠ some (name, false)) →
      ∃ above below : List Row, above.map Row.line = before ∧
        below.map Row.line = after ∧
        (¬ Labelled (' ' :: description.toList) →
          injectInstanceTypes typeText hints
            (before ++ instanceLine name description :: after) =
            written typeText above >>= fun front => typeText hint >>= fun text =>
              (written typeText below).map fun back =>
                front ++ instanceTypeLine name text ::
                  instanceLine name description :: back) ∧
        (Labelled (' ' :: description.toList) →
          injectInstanceTypes typeText hints
            (before ++ instanceLine name description :: after) =
            written typeText above >>= fun front =>
              (written typeText below).map fun back =>
              front ++ instanceLine name description :: back) := by
  refine ⟨⟨?_, instanceField?_plain word⟩, instanceField?_labelled word, ?_⟩
  · intro read labelled
    obtain ⟨other, field⟩ := instanceField?_labelled word labelled
    rw [read] at field
    cases field
  · intro typeText hints before after hint hinted fresh first
    obtain ⟨above, below, lines_above, lines_below, done⟩ :=
      injectInstanceTypes_at typeText hints before after (instanceLine name description)
    refine ⟨above, below, lines_above, lines_below, fun plain => ?_, fun labelled => ?_⟩
    · have ungiven :
          givenBy (before ++ instanceLine name description :: after) before.reverse
            name = false := by
        simpa [givenBy, fresh, isUntypedField] using first
      rw [done, wanted?_untyped (instanceField?_plain word plain), ungiven, hinted,
        written_append]
      simp only [Option.map_some, Bool.false_eq_true, if_false, written_typed,
        List.append_assoc, List.cons_append, List.nil_append]
    · obtain ⟨other, field⟩ := instanceField?_labelled word labelled
      rw [done, wanted?_other (by simp [field]), written_append]
      simp only [written_plain, List.append_assoc, List.cons_append, List.nil_append]

theorem untyped_field_read_iff_repeated :
    Labelled (' ' :: "default: 3".toList) ∧
    ∃ above below : List Row, above.map Row.line = [":ivar x: default: 3"] ∧
      below.map Row.line = [":ivar x: once more"] ∧
      injectInstanceTypes (fun _ => .ok "T") [("x", .noneType)]
          [":ivar x: default: 3", ":ivar x: the value", ":ivar x: once more"] =
        written (fun _ => .ok "T") above >>= fun front => Except.ok "T" >>= fun text =>
          (written (fun _ => .ok "T") below).map fun back =>
            front ++ instanceTypeLine "x" text :: ":ivar x: the value" :: back := by
  have word : WordName "x" := ⟨by decide, List.all_eq_true.mp (by decide +kernel)⟩
  obtain ⟨-, -, placed⟩ := untyped_field_read_iff word "the value"
  obtain ⟨above, below, lines_above, lines_below, typed, -⟩ :=
    placed (fun _ => .ok "T") [("x", .noneType)] [":ivar x: default: 3"]
      [":ivar x: once more"] .noneType rfl (by decide +kernel) (by decide +kernel)
  exact ⟨by decide +kernel, above, below, lines_above, lines_below,
    typed (by decide +kernel)⟩

end Rows

end DocHints.Docstring

namespace DocHints.Document

open Docstring

/--
A description with a colon behind its first word hides the name, and no type is
put in.
-/
theorem labelled_description_hides_name :
    instanceField? ":ivar x: default: 3" = some ("default", true) ∧
    injectInstanceTypes (roleText {}) (noneHints ["x"]) [":ivar x: default: 3"] =
      .ok [":ivar x: default: 3"] :=
  ⟨by decide +kernel, rfl⟩

end DocHints.Document
