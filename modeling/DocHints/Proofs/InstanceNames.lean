import DocHints.Docstring.InstanceField
import DocHints.Proofs.FieldLines

/-!
# The names of instance variables

How a field line `:ivar name: description` is read.  A type may stand before the
name, and the reading with a type is tried first.  The type may hold colons, so
it can reach past the colon that closes the name: if the description has a word
with a colon behind it, that word is taken for the name, and all before it for
the type.
-/

namespace DocHints.Docstring

open Text (isBlank isWord)

/-! ## Names that a colon closes -/

structure WordName (name : String) : Prop where
  nonempty : name ≠ ""
  words : ∀ c ∈ name.toList, isWord c = true

theorem isWord_of_isBlank {c : Char} (blank : isBlank c = true) : isWord c = false := by
  apply Bool.eq_false_iff.mpr
  intro word
  rw [isBlank_of_isWord word] at blank
  cases blank

def ClosedName (chars : List Char) (name : String) : Prop :=
  WordName name ∧ ∃ space rest, chars = name.toList ++ (space ++ ':' :: rest) ∧
    ∀ c ∈ space, isBlank c = true

theorem drop_length_takeWhile (p : Char → Bool) (chars : List Char) :
    chars.drop (chars.takeWhile p).length = chars.dropWhile p := by
  have dropped : (chars.takeWhile p ++ chars.dropWhile p).drop
      (chars.takeWhile p).length = chars.dropWhile p := List.drop_left
  rwa [List.takeWhile_append_dropWhile] at dropped

theorem takeWhile_closed {space rest : List Char}
    (blank : ∀ c ∈ space, isBlank c = true) :
    (space ++ ':' :: rest).takeWhile isWord = [] := by
  cases space with
  | nil => rfl
  | cons c space => simp [isWord_of_isBlank (blank c List.mem_cons_self)]

theorem closedName?_eq_some {chars : List Char} {name : String} :
    closedName? chars = some name ↔ ClosedName chars name := by
  unfold closedName?
  constructor
  · intro found
    dsimp only at found
    rw [drop_length_takeWhile] at found
    split at found
    · rename_i rest closed
      split at found
      · cases found
      · rename_i some_name
        cases found
        have parts : chars = chars.takeWhile isWord ++
            ((chars.dropWhile isWord).takeWhile isBlank ++ ':' :: rest) := by
          rw [← closed, List.takeWhile_append_dropWhile,
            List.takeWhile_append_dropWhile]
        refine ⟨⟨?_, ?_⟩, _, rest, by simpa using parts, mem_takeWhile⟩
        · simpa using some_name
        · simpa using mem_takeWhile
    · cases found
  · rintro ⟨⟨nonempty, words⟩, space, rest, rfl, blank⟩
    have colon : ∀ c, (':' :: rest).head? = some c → isBlank c = false := by
      rintro c first
      cases first
      decide
    have some_name : name.toList.isEmpty = false := by simpa using nonempty
    dsimp only
    rw [List.takeWhile_append_of_pos words, takeWhile_closed blank, List.append_nil,
      List.drop_left, dropWhile_blank_append blank colon]
    simp [some_name]

def SpacedName (chars : List Char) (name : String) : Prop :=
  ∃ gap rest, chars = gap ++ rest ∧ gap ≠ [] ∧ (∀ c ∈ gap, isBlank c = true) ∧
    ClosedName rest name

theorem ClosedName.solid {chars : List Char} {name : String}
    (closed : ClosedName chars name) :
    ∀ c, chars.head? = some c → isBlank c = false := by
  obtain ⟨⟨nonempty, words⟩, space, rest, rfl, -⟩ := closed
  intro c first
  cases spelled : name.toList with
  | nil => exact absurd (by simpa using spelled) nonempty
  | cons d chars =>
      rw [spelled, List.cons_append] at first
      cases first
      exact isBlank_of_isWord (words c (by simp [spelled]))

theorem SpacedName.word {chars : List Char} {name : String}
    (spaced : SpacedName chars name) : WordName name := by
  obtain ⟨gap, rest, -, -, -, closed⟩ := spaced
  exact closed.1

theorem spacedName?_eq_some {chars : List Char} {name : String} :
    spacedName? chars = some name ↔ SpacedName chars name := by
  constructor
  · intro found
    unfold spacedName? at found
    split at found
    · rename_i c rest
      split at found
      · rename_i blank
        refine ⟨c :: rest.takeWhile isBlank, rest.dropWhile isBlank,
          by simp, by simp, ?_, closedName?_eq_some.mp found⟩
        simpa [blank] using mem_takeWhile
      · cases found
    · cases found
  · rintro ⟨gap, rest, rfl, some_gap, blank, closed⟩
    cases gap with
    | nil => exact absurd rfl some_gap
    | cons c gap =>
        simp only [List.forall_mem_cons] at blank
        simp only [spacedName?, List.cons_append, blank.1, if_true,
          dropWhile_blank_append blank.2 closed.solid]
        exact closedName?_eq_some.mpr closed

/-! ## Names after a type -/

/--
A word with a colon behind it stands in a text after a blank, with no line break
before them.
-/
def Labelled (chars : List Char) : Prop :=
  ∃ front rest name, chars = front ++ rest ∧ '\n' ∉ front ∧ SpacedName rest name

theorem labelled_cons {c : Char} {chars : List Char} :
    Labelled (c :: chars) ↔
      (∃ name, SpacedName (c :: chars) name) ∨ c ≠ '\n' ∧ Labelled chars := by
  constructor
  · rintro ⟨front, rest, name, split, unbroken, spaced⟩
    cases front with
    | nil => exact .inl ⟨name, by simpa [split] using spaced⟩
    | cons d front =>
        simp only [List.cons_append, List.cons.injEq] at split
        obtain ⟨rfl, rfl⟩ := split
        simp only [List.mem_cons, not_or] at unbroken
        exact .inr ⟨Ne.symm unbroken.1, front, rest, name, rfl, unbroken.2, spaced⟩
  · rintro (⟨name, spaced⟩ | ⟨unbroken, front, rest, name, rfl, unbroken', spaced⟩)
    · exact ⟨[], c :: chars, name, rfl, by simp, spaced⟩
    · exact ⟨c :: front, rest, name, rfl, by simp [Ne.symm unbroken, unbroken'], spaced⟩

theorem nameAfterType?_eq_none {chars : List Char} :
    nameAfterType? chars = none ↔ ¬ Labelled chars := by
  induction chars with
  | nil =>
      refine iff_of_true rfl ?_
      rintro ⟨front, rest, name, split, -, gap, rest', rfl, some_gap, -⟩
      simp only [List.nil_eq, List.append_eq_nil_iff] at split
      exact some_gap split.2.1
  | cons c chars ih =>
      rw [labelled_cons, nameAfterType?]
      cases spaced : spacedName? (c :: chars) with
      | some name =>
          have labelled : ∃ name, SpacedName (c :: chars) name :=
            ⟨name, spacedName?_eq_some.mp spaced⟩
          simp [labelled]
      | none =>
          have unspaced : ¬ ∃ name, SpacedName (c :: chars) name := by
            rintro ⟨name, spaced'⟩
            rw [spacedName?_eq_some.mpr spaced'] at spaced
            cases spaced
          by_cases broken : c = '\n'
          · subst broken
            simp [unspaced]
          · simp [broken, unspaced, ih]

instance (chars : List Char) : Decidable (Labelled chars) :=
  decidable_of_iff (¬ nameAfterType? chars = none) (by
    rw [nameAfterType?_eq_none, Classical.not_not])

theorem nameAfterType?_solid {front : List Char}
    (solid : ∀ c ∈ front, isBlank c = false) (rest : List Char) :
    nameAfterType? (front ++ rest) = nameAfterType? rest := by
  induction front with
  | nil => rfl
  | cons c front ih =>
      simp only [List.forall_mem_cons] at solid
      have unbroken : c ≠ '\n' := by
        rintro rfl
        exact absurd solid.1 (by decide)
      simp only [List.cons_append, nameAfterType?, spacedName?, solid.1,
        Bool.false_eq_true, if_false, unbroken]
      exact ih solid.2

theorem nameAfterType?_word {chars : List Char} {name : String}
    (found : nameAfterType? chars = some name) : WordName name := by
  induction chars with
  | nil => cases found
  | cons c chars ih =>
      rw [nameAfterType?] at found
      cases spaced : spacedName? (c :: chars) with
      | some first =>
          rw [spaced] at found
          cases found
          exact (spacedName?_eq_some.mp spaced).word
      | none =>
          rw [spaced] at found
          dsimp only at found
          split at found
          · cases found
          · exact ih found

/-! ## The field of an instance variable -/

def instanceLine (name description : String) : String :=
  ":ivar " ++ name ++ ": " ++ description

theorem instanceField?_instanceLine {name : String} (word : WordName name)
    (description : String) : instanceField? (instanceLine name description) =
      some ((nameAfterType? (' ' :: description.toList)).elim (name, false)
        (·, true)) := by
  have opens : Text.dropStart? ":ivar".toList (instanceLine name description).toList =
      some (' ' :: (name.toList ++ ':' :: ' ' :: description.toList)) :=
    Text.dropStart?_eq_some_iff.mpr (by simp [instanceLine])
  have closed : ClosedName (name.toList ++ ':' :: ' ' :: description.toList) name :=
    ⟨word, [], ' ' :: description.toList, rfl, by simp⟩
  have space : ∀ c ∈ [' '], isBlank c = true := by simpa using by decide
  have spaced : spacedName?
      (' ' :: (name.toList ++ ':' :: ' ' :: description.toList)) = some name :=
    spacedName?_eq_some.mpr ⟨[' '], _, rfl, by simp, space, closed⟩
  have typed : nameAfterType?
      (((' ' :: (name.toList ++ ':' :: ' ' :: description.toList)).dropWhile
        isBlank).drop 1) = nameAfterType? (' ' :: description.toList) := by
    have text := dropWhile_blank_append space closed.solid
    rw [List.singleton_append] at text
    rw [text]
    cases spelled : name.toList with
    | nil => exact absurd (by simpa using spelled) word.nonempty
    | cons c chars =>
        have solid : ∀ d ∈ chars ++ [':'], isBlank d = false := by
          intro d inside
          obtain inside | rfl :=
            List.mem_append.mp inside |>.imp_right List.mem_singleton.mp
          · exact isBlank_of_isWord (word.words d (by simp [spelled, inside]))
          · decide
        rw [List.cons_append, List.drop_one, List.tail_cons]
        simpa using nameAfterType?_solid solid (' ' :: description.toList)
  have blank : isBlank ' ' = true := by decide
  simp only [instanceField?, opens, typed, spaced, blank, if_true]
  cases nameAfterType? (' ' :: description.toList) <;> rfl

theorem instanceField?_plain {name description : String} (word : WordName name)
    (plain : ¬ Labelled (' ' :: description.toList)) :
    instanceField? (instanceLine name description) = some (name, false) := by
  rw [instanceField?_instanceLine word, nameAfterType?_eq_none.mpr plain]
  rfl

theorem instanceField?_labelled {name description : String} (word : WordName name)
    (labelled : Labelled (' ' :: description.toList)) :
    ∃ other, instanceField? (instanceLine name description) = some (other, true) := by
  rw [instanceField?_instanceLine word]
  cases found : nameAfterType? (' ' :: description.toList) with
  | none => exact absurd labelled (nameAfterType?_eq_none.mp found)
  | some other => exact ⟨other, rfl⟩

theorem instanceField?_word {line name : String} {typed : Bool}
    (field : instanceField? line = some (name, typed)) : WordName name := by
  unfold instanceField? at field
  split at field
  · cases field
  · split at field
    · cases field
    · split at field
      · dsimp only at field
        split at field
        · rename_i first found
          cases field
          exact nameAfterType?_word found
        · obtain ⟨first, found, same⟩ := Option.map_eq_some_iff.mp field
          cases same
          exact (spacedName?_eq_some.mp found).word
      · cases field

end DocHints.Docstring
