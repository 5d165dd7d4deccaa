import DocHints.Proofs.Cutting
import DocHints.Proofs.ModuleSteps

/-!
# Guarded blocks of a module

A module is a sequence of blocks, each a line at the margin with the indented or
empty lines below it.  The guarded code that is run are the bodies of the
guarded blocks in their order, but never those of the first and the last block
of the module: a guard is looked for behind a line feed, and its block ends
before the next line at the margin.
-/

namespace DocHints.Hints

/-! ## Blocks at the margin -/

def Indented (chars : List Char) : Prop :=
  ∀ c ∈ chars.head?, Text.isBlank c = true

instance (chars : List Char) : Decidable (Indented chars) :=
  decidable_of_iff (chars.head?.all Text.isBlank = true)
    (by cases chars <;> simp [Indented])

structure TopBlock where
  header : String
  body : List String
  marginal : ¬ Indented header.toList := by decide
  header_undivided : '\n' ∉ header.toList := by decide
  indented : ∀ line ∈ body, Indented line.toList := by decide
  body_undivided : ∀ line ∈ body, '\n' ∉ line.toList := by decide

namespace TopBlock

theorem exists_header (block : TopBlock) :
    ∃ c letters, block.header.toList = c :: letters ∧ Text.isBlank c = false := by
  have marginal := block.marginal
  cases chars : block.header.toList with
  | nil => simp [chars, Indented] at marginal
  | cons c letters => exact ⟨c, letters, rfl, by simpa [chars, Indented] using marginal⟩

def lines (block : TopBlock) : List String :=
  block.header :: block.body

def isGuarded (block : TopBlock) : Bool :=
  Text.startsWith "if TYPE_CHECKING:" block.header ||
    Text.startsWith "if typing.TYPE_CHECKING:" block.header

/--
The lines below the header without the margin that they share; a line feed ends
the header.
-/
def code (block : TopBlock) : String :=
  Text.dedent (Text.unlines ("" :: block.body))

end TopBlock

def guardedCode (blocks : List TopBlock) : List String :=
  (blocks.filter TopBlock.isGuarded).map TopBlock.code

def moduleText (blocks : List TopBlock) : String :=
  Text.unlines (blocks.flatMap TopBlock.lines)

def lineChars (lines : List String) : List Char :=
  lines.flatMap fun line => '\n' :: line.toList

@[simp] theorem lineChars_nil : lineChars [] = [] :=
  rfl

@[simp] theorem lineChars_cons (line : String) (lines : List String) :
    lineChars (line :: lines) = '\n' :: (line.toList ++ lineChars lines) := by
  simp [lineChars]

@[simp] theorem lineChars_append (before after : List String) :
    lineChars (before ++ after) = lineChars before ++ lineChars after := by
  simp [lineChars]

theorem toList_unlines (first : String) (lines : List String) :
    (Text.unlines (first :: lines)).toList = first.toList ++ lineChars lines := by
  induction lines generalizing first with
  | nil => simp [Text.unlines, Text.join]
  | cons second rest ih =>
      have step : Text.unlines (first :: second :: rest) =
          first ++ "\n" ++ Text.unlines (second :: rest) := by
        simp only [Text.unlines, Text.join, String.intercalate_cons_cons]
      rw [step, String.toList_append, String.toList_append, ih]
      simp

/-- A text that is empty or goes on with a line feed. -/
def Breaks (chars : List Char) : Prop :=
  ∀ c ∈ chars.head?, c = '\n'

theorem breaks_lineChars (lines : List String) : Breaks (lineChars lines) := by
  cases lines with
  | nil => simp [Breaks]
  | cons line rest => simp [Breaks]

theorem Breaks.append {front rest : List Char} (breaks : Breaks front)
    (breaks_rest : Breaks rest) : Breaks (front ++ rest) := by
  cases front with
  | nil => exact breaks_rest
  | cons c front => simpa [Breaks] using breaks

theorem Indented.append {line rest : List Char} (indented : Indented line)
    (breaks : Breaks rest) : Indented (line ++ rest) := by
  cases line with
  | nil =>
      intro c first
      rw [breaks c first]
      decide
  | cons c line => simpa [Indented] using indented

/-! ## The search without its bound -/

theorem cutAtMargin?_append {chars body others : List Char}
    (cut : cutAtMargin? chars = some (body, others)) : chars = body ++ others := by
  fun_induction cutAtMargin? chars generalizing body with
  | case1 => simp at cut
  | case2 => simp at cut
  | case3 c rest blank ih =>
      obtain ⟨halves, found, split⟩ := Option.map_eq_some_iff.mp cut
      cases split
      rw [List.cons_append, ← ih found]
  | case4 c rest solid =>
      cases cut
      rfl
  | case5 c rest other ih =>
      obtain ⟨halves, found, split⟩ := Option.map_eq_some_iff.mp cut
      cases split
      rw [List.cons_append, ← ih found]

theorem afterGuard?_suffix {chars after : List Char}
    (found : afterGuard? chars = some after) : after <:+ chars := by
  unfold afterGuard? at found
  split at found
  · rename_i rest opened
    cases found
    exact ⟨_, (Text.dropStart?_eq_some_iff.mp opened).symm⟩
  · exact ⟨_, (Text.dropStart?_eq_some_iff.mp found).symm⟩

theorem length_others_le {rest after body others : List Char}
    (found : afterGuard? rest = some after)
    (cut : cutAtMargin? (after.dropWhile (· != '\n')) = some (body, others)) :
    others.length ≤ rest.length := by
  have whole := cutAtMargin?_append cut
  have dropped : (after.dropWhile (· != '\n')).length ≤ after.length :=
    (List.dropWhile_suffix _).length_le
  have shorter : after.length ≤ rest.length := (afterGuard?_suffix found).length_le
  rw [whole, List.length_append] at dropped
  omega

theorem guardedBodiesFrom_congr {m n : Nat} {chars : List Char}
    (left : chars.length ≤ m) (right : chars.length ≤ n) :
    guardedBodiesFrom m chars = guardedBodiesFrom n chars := by
  induction m generalizing n chars with
  | zero =>
      have empty : chars = [] := List.eq_nil_of_length_eq_zero (Nat.le_zero.mp left)
      subst empty
      cases n <;> rfl
  | succ m ih =>
      cases chars with
      | nil => cases n <;> rfl
      | cons c rest =>
          obtain ⟨n, rfl⟩ : ∃ k, n = k + 1 := ⟨n - 1, by simp at right; omega⟩
          simp only [List.length_cons, Nat.add_le_add_iff_right] at left right
          have next : guardedBodiesFrom m rest = guardedBodiesFrom n rest :=
            ih left right
          simp only [guardedBodiesFrom, next]
          split
          · split
            · rfl
            · rename_i after found
              split
              · rename_i body others cut
                have shorter := length_others_le found cut
                have later : guardedBodiesFrom m others = guardedBodiesFrom n others :=
                  ih (by omega) (by omega)
                rw [later]
              · rfl
          · rfl

def guardedBodies (chars : List Char) : List (List Char) :=
  guardedBodiesFrom chars.length chars

theorem guardedBlocks_eq (source : String) :
    guardedBlocks source =
      (guardedBodies source.toList).map fun body =>
        Text.dedent (String.ofList body) := by
  rw [guardedBlocks, guardedBodies]
  exact congrArg _ (guardedBodiesFrom_congr (Nat.le_succ _) (Nat.le_refl _))

section

variable {rest : List Char}

theorem guardedBodies_other {c : Char} (other : c ≠ '\n') :
    guardedBodies (c :: rest) = guardedBodies rest := by
  simp [guardedBodies, guardedBodiesFrom, other]

theorem guardedBodies_unguarded (unguarded : afterGuard? rest = none) :
    guardedBodies ('\n' :: rest) = guardedBodies rest := by
  simp [guardedBodies, guardedBodiesFrom, unguarded]

theorem guardedBodies_open {after : List Char} (found : afterGuard? rest = some after)
    (uncut : cutAtMargin? (after.dropWhile (· != '\n')) = none) :
    guardedBodies ('\n' :: rest) = guardedBodies rest := by
  simp [guardedBodies, guardedBodiesFrom, found, uncut]

theorem guardedBodies_guarded {after body others : List Char}
    (found : afterGuard? rest = some after)
    (cut : cutAtMargin? (after.dropWhile (· != '\n')) = some (body, others)) :
    guardedBodies ('\n' :: rest) = body :: guardedBodies others := by
  have shorter := length_others_le found cut
  simp only [guardedBodies, List.length_cons, guardedBodiesFrom, found, cut, if_true]
  rw [guardedBodiesFrom_congr shorter (Nat.le_refl _)]

end

/-! ## Lines -/

theorem dropWhile_undivided {line rest : List Char} (undivided : '\n' ∉ line)
    (breaks : Breaks rest) : (line ++ rest).dropWhile (· != '\n') = rest := by
  have passes : ∀ c ∈ line, (c != '\n') = true := by
    intro c inside
    exact bne_iff_ne.mpr fun same => undivided (same ▸ inside)
  rw [List.dropWhile_append_of_pos passes]
  cases rest with
  | nil => rfl
  | cons c rest =>
      have feed : c = '\n' := breaks c rfl
      simp [feed]

theorem guardedBodies_line {line : List Char} (undivided : '\n' ∉ line)
    (rest : List Char) : guardedBodies (line ++ rest) = guardedBodies rest := by
  induction line with
  | nil => rfl
  | cons c line ih =>
      rw [List.mem_cons, not_or] at undivided
      rw [List.cons_append, guardedBodies_other (Ne.symm undivided.1), ih undivided.2]

theorem cutAtMargin?_line {line : List Char} (undivided : '\n' ∉ line)
    (rest : List Char) : cutAtMargin? (line ++ rest) =
      (cutAtMargin? rest).map fun halves => (line ++ halves.1, halves.2) := by
  induction line with
  | nil => simp
  | cons c line ih =>
      rw [List.mem_cons, not_or] at undivided
      have other : c ≠ '\n' := Ne.symm undivided.1
      simp [cutAtMargin?, ih undivided.2, Function.comp_def]

theorem cutAtMargin?_indented {chars : List Char} (indented : Indented chars) :
    cutAtMargin? ('\n' :: chars) =
      (cutAtMargin? chars).map fun halves => ('\n' :: halves.1, halves.2) := by
  cases chars with
  | nil => rfl
  | cons c rest =>
      have blank : Text.isBlank c = true := indented c rfl
      simp [cutAtMargin?, blank]

theorem afterGuard?_indented {chars : List Char} (indented : Indented chars) :
    afterGuard? chars = none := by
  cases chars with
  | nil => rfl
  | cons c rest =>
      have blank : Text.isBlank c = true := indented c rfl
      have other : 'i' ≠ c := by
        rintro rfl
        exact absurd blank (by decide)
      simp [afterGuard?, Text.dropStart?, other]

theorem dropStart?_append {mark rest : List Char} (undivided : '\n' ∉ mark)
    (breaks : Breaks rest) (line : List Char) :
    Text.dropStart? mark (line ++ rest) =
      (Text.dropStart? mark line).map (· ++ rest) := by
  induction mark generalizing line with
  | nil => rfl
  | cons m mark ih =>
      rw [List.mem_cons, not_or] at undivided
      cases line with
      | nil =>
          cases rest with
          | nil => rfl
          | cons c rest =>
              have feed : c = '\n' := breaks c rfl
              have differs : m ≠ c := fun same => undivided.1 (feed ▸ same.symm)
              simp [Text.dropStart?, differs]
      | cons c line =>
          by_cases same : m = c
          · simp [Text.dropStart?, same, ih undivided.2]
          · simp [Text.dropStart?, same]

theorem afterGuard?_append {rest : List Char} (breaks : Breaks rest)
    (line : List Char) :
    afterGuard? (line ++ rest) = (afterGuard? line).map (· ++ rest) := by
  unfold afterGuard?
  rw [dropStart?_append (by decide) breaks, dropStart?_append (by decide) breaks]
  cases Text.dropStart? "if typing.TYPE_CHECKING:".toList line <;> rfl

/-! ## One block -/

section

variable {body : List String} {tail : List Char}

theorem guardedBodies_body (indented : ∀ line ∈ body, Indented line.toList)
    (undivided : ∀ line ∈ body, '\n' ∉ line.toList) (breaks : Breaks tail) :
    guardedBodies (lineChars body ++ tail) = guardedBodies tail := by
  induction body with
  | nil => rfl
  | cons line rest ih =>
      rw [List.forall_mem_cons] at indented undivided
      have plain := indented.1.append ((breaks_lineChars rest).append breaks)
      rw [lineChars_cons, List.cons_append, List.append_assoc,
        guardedBodies_unguarded (afterGuard?_indented plain),
        guardedBodies_line undivided.1, ih indented.2 undivided.2]

theorem cutAtMargin?_body (indented : ∀ line ∈ body, Indented line.toList)
    (undivided : ∀ line ∈ body, '\n' ∉ line.toList) (breaks : Breaks tail) :
    cutAtMargin? (lineChars body ++ tail) =
      (cutAtMargin? tail).map fun halves => (lineChars body ++ halves.1, halves.2) := by
  induction body with
  | nil => simp
  | cons line rest ih =>
      rw [List.forall_mem_cons] at indented undivided
      have plain := indented.1.append ((breaks_lineChars rest).append breaks)
      rw [lineChars_cons, List.cons_append, List.append_assoc,
        cutAtMargin?_indented plain, cutAtMargin?_line undivided.1,
        ih indented.2 undivided.2]
      simp [Function.comp_def]

end

namespace TopBlock

def chars (blocks : List TopBlock) : List Char :=
  lineChars (blocks.flatMap lines)

theorem chars_cons (block : TopBlock) (blocks : List TopBlock) :
    chars (block :: blocks) =
      '\n' :: (block.header.toList ++ (lineChars block.body ++ chars blocks)) := by
  simp [chars, lines]

/-- The next block ends the one before it; at the end of the module nothing does. -/
theorem cutAtMargin?_chars (blocks : List TopBlock) :
    cutAtMargin? (chars blocks) =
      if blocks = [] then none else some ([], chars blocks) := by
  cases blocks with
  | nil => rfl
  | cons block rest =>
      obtain ⟨c, letters, split, solid⟩ := block.exists_header
      rw [chars_cons, split]
      simp [cutAtMargin?, solid]

theorem isSome_afterGuard? (block : TopBlock) :
    (afterGuard? block.header.toList).isSome = block.isGuarded := by
  simp only [isGuarded, Text.startsWith, afterGuard?]
  cases Text.dropStart? "if typing.TYPE_CHECKING:".toList block.header.toList <;> simp

theorem guardedBodies_chars_cons (block : TopBlock) (blocks : List TopBlock) :
    guardedBodies (chars (block :: blocks)) =
      if block.isGuarded = true ∧ blocks ≠ [] then
        lineChars block.body :: guardedBodies (chars blocks)
      else guardedBodies (chars blocks) := by
  have breaks : Breaks (chars blocks) := breaks_lineChars _
  have below : Breaks (lineChars block.body ++ chars blocks) :=
    (breaks_lineChars _).append breaks
  have opened := afterGuard?_append below block.header.toList
  have passed : guardedBodies
      (block.header.toList ++ (lineChars block.body ++ chars blocks)) =
      guardedBodies (chars blocks) := by
    rw [guardedBodies_line block.header_undivided,
      guardedBodies_body block.indented block.body_undivided breaks]
  rw [chars_cons]
  cases found : afterGuard? block.header.toList with
  | none =>
      have unguarded : block.isGuarded = false := by simp [← isSome_afterGuard?, found]
      rw [found] at opened
      rw [guardedBodies_unguarded opened, passed]
      simp [unguarded]
  | some after =>
      have guarded : block.isGuarded = true := by simp [← isSome_afterGuard?, found]
      have undivided : '\n' ∉ after :=
        fun inside => block.header_undivided ((afterGuard?_suffix found).subset inside)
      -- The rest of the header is skipped, so the body begins with the line
      -- feed below it.
      have skipped := dropWhile_undivided undivided below
      have cut := cutAtMargin?_body block.indented block.body_undivided breaks
      rw [cutAtMargin?_chars] at cut
      rw [found, Option.map_some] at opened
      by_cases last : blocks = []
      · rw [if_pos last] at cut
        rw [guardedBodies_open opened (by rw [skipped, cut]; rfl), passed]
        simp [last]
      · rw [if_neg last] at cut
        have ends : cutAtMargin?
            ((after ++ (lineChars block.body ++ chars blocks)).dropWhile
            (· != '\n')) = some (lineChars block.body, chars blocks) := by
          rw [skipped, cut]
          simp
        rw [guardedBodies_guarded opened ends, if_pos ⟨guarded, last⟩]

/-! ## All blocks -/

theorem guardedBodies_chars (blocks : List TopBlock) :
    guardedBodies (chars blocks) =
      (blocks.dropLast.filter isGuarded).map fun block => lineChars block.body := by
  induction blocks with
  | nil => rfl
  | cons block rest ih =>
      rw [guardedBodies_chars_cons, ih]
      cases rest with
      | nil => simp
      | cons next others =>
          cases guarded : block.isGuarded <;> simp [guarded]

theorem ofList_lineChars (body : List String) :
    String.ofList (lineChars body) = Text.unlines ("" :: body) := by
  apply String.toList_inj.mp
  rw [toList_unlines]
  simp

theorem guardedBlocks_moduleText (blocks : List TopBlock) :
    guardedBlocks (moduleText blocks) = guardedCode blocks.tail.dropLast := by
  have bodies : guardedBodies (moduleText blocks).toList =
      (blocks.tail.dropLast.filter isGuarded).map fun block =>
        lineChars block.body := by
    cases blocks with
    | nil => rfl
    | cons first rest =>
        have breaks : Breaks (chars rest) := breaks_lineChars _
        have text : (moduleText (first :: rest)).toList =
            first.header.toList ++ (lineChars first.body ++ chars rest) := by
          rw [moduleText, List.flatMap_cons, lines, List.cons_append, toList_unlines,
            lineChars_append, chars]
        rw [text, guardedBodies_line first.header_undivided,
          guardedBodies_body first.indented first.body_undivided breaks,
          guardedBodies_chars, List.tail_cons]
  rw [guardedBlocks_eq, bodies, List.map_map, guardedCode]
  apply List.map_congr_left
  intro block _
  rw [Function.comp_apply, ofList_lineChars, code]

theorem guardedCode_inner_eq_iff (blocks : List TopBlock) :
    guardedCode blocks.tail.dropLast = guardedCode blocks ↔
      ∀ block, blocks.head? = some block ∨ blocks.getLast? = some block →
        block.isGuarded = false := by
  unfold guardedCode
  cases blocks with
  | nil => simp
  | cons first rest =>
      rcases List.eq_nil_or_concat rest with rfl | ⟨inner, last, rfl⟩
      · cases guarded : first.isGuarded <;> simp [guarded]
      · have at_end : (first :: (inner ++ [last])).getLast? = some last := by
          simp [List.getLast?_cons]
        simp only [List.head?_cons, Option.some.injEq, List.concat_eq_append,
          List.tail_cons, List.dropLast_concat, at_end]
        constructor
        · intro same
          have lengths := congrArg List.length same
          have plain : first.isGuarded = false ∧ last.isGuarded = false := by
            cases guarded : first.isGuarded <;> cases guarded_last : last.isGuarded <;>
              simp [guarded, guarded_last] at lengths ⊢
            omega
          rintro block (rfl | rfl)
          · exact plain.1
          · exact plain.2
        · intro plain
          simp [plain first (.inl rfl), plain last (.inr rfl)]

end TopBlock

/-! ## Runs -/

section

variable {σ α β : Type}

def Step.beside (x : Step σ α) : Step (σ × List String) α :=
  ExceptT.mk fun p => ((x.run.run p.1).1, ((x.run.run p.1).2, p.2))

def GuardSteps.noted (steps : GuardSteps σ) : GuardSteps (σ × List String) where
  skips v := (steps.skips v).beside
  source? v := (steps.source? v).beside
  mark module := (steps.mark module).beside
  execute v block := do
    modify fun p => (p.1, p.2 ++ [block])
    (steps.execute v block).beside
  load name := (steps.load name).beside
  report v f := (steps.report v f).beside

/-- The second step does from a state what the first does, and adds to the list. -/
def Noted (x : Step σ α) (y : Step (σ × List String) α) (s : σ)
    (added : List String) : Prop :=
  ∀ log, y.run.run (s, log) = ((x.run.run s).1, ((x.run.run s).2, log ++ added))

namespace Noted

variable {x : Step σ α} {y : Step (σ × List String) α} {next : α → Step σ β}
  {next' : α → Step (σ × List String) β} {s s' : σ} {first second : List String}

theorem of_same (r : Except Failure α) :
    Noted (ExceptT.mk (pure r) : Step σ α) (ExceptT.mk (pure r)) s [] := by
  intro log
  rw [List.append_nil]
  rfl

theorem beside (x : Step σ α) (s : σ) : Noted x x.beside s [] := by
  intro log
  rw [List.append_nil]
  rfl

theorem bind {a : α} (begins : Noted x y s first) (run : x.run.run s = (.ok a, s'))
    (continues : Noted (next a) (next' a) s' second) :
    Noted (x >>= next) (y >>= next') s (first ++ second) := by
  intro log
  have begun := begins log
  rw [run] at begun
  rw [run_bind run, run_bind begun, continues, List.append_assoc]

theorem bind_rest {a : α} (begins : Noted x y s first) (run : x.run.run s = (.ok a, s'))
    (continues : Noted (next a) (next' a) s' []) :
    Noted (x >>= next) (y >>= next') s first := by
  rw [← List.append_nil first]
  exact begins.bind run continues

theorem bind_error {f : Failure} (begins : Noted x y s first)
    (run : x.run.run s = (.error f, s')) :
    Noted (x >>= next) (y >>= next') s first := by
  intro log
  have begun := begins log
  rw [run] at begun
  rw [run_bind_error run, run_bind_error begun]

theorem attempt (begins : Noted x y s first) : Noted x.attempt y.attempt s first := by
  intro log
  rw [Step.attempt_run (begins log)]
  rfl

theorem execute (steps : GuardSteps σ) (v : Value) (block : String) (s : σ) :
    Noted (steps.execute v block) (steps.noted.execute v block) s [block] := by
  intro log
  rfl

end Noted

/--
Blocks that are run in order, each once, or again when what stood in its way is
resolved.
-/
inductive Tried : List String → List String → Prop
  | nil : Tried [] []
  | once {blocks log : List String} (rest : Tried blocks log) (block : String) :
      Tried (block :: blocks) (block :: log)
  | again {blocks log : List String} (rest : Tried blocks log) (block : String) :
      Tried (block :: blocks) (block :: block :: log)

theorem Tried.cons {block : String} {added blocks log : List String}
    (rest : Tried blocks log) (times : added = [block] ∨ added = [block, block]) :
    Tried (block :: blocks) (added ++ log) := by
  rcases times with rfl | rfl
  · exact rest.once block
  · exact rest.again block

variable (steps : GuardSteps σ) (resolve : Value → Step σ Unit) (subject : Value)

theorem ignoringImports_noted {x : Step σ Unit} {y : Step (σ × List String) Unit}
    {s : σ} {added : List String} (noted : Noted x y s added) :
    Noted (ignoringImports x) (ignoringImports y) s added := by
  rcases run : x.run.run s with ⟨r, s'⟩
  refine noted.attempt.bind_rest (Step.attempt_run run) ?_
  cases r with
  | ok done => exact .of_same (.ok ())
  | error f =>
      by_cases import_failed : f.kind.isImport = true
      · simp only [import_failed, if_true]
        exact .of_same (.ok ())
      · simp only [import_failed, Bool.false_eq_true, if_false]
        exact .of_same (.error f)

theorem retry_noted (block name : String) (s : σ) :
    ∃ more, (more = [] ∨ more = [block]) ∧
      Noted
        (steps.load name >>= fun v => resolve v >>= fun _ =>
          ignoringImports (steps.execute subject block))
        (steps.noted.load name >>= fun v => (resolve v).beside >>= fun _ =>
          ignoringImports (steps.noted.execute subject block)) s more := by
  have loads := Noted.beside (steps.load name) s
  rcases loading : (steps.load name).run.run s with ⟨loaded, s₁⟩
  cases loaded with
  | error missing => exact ⟨[], .inl rfl, loads.bind_error loading⟩
  | ok v =>
      have resolves := Noted.beside (resolve v) s₁
      rcases resolving : (resolve v).run.run s₁ with ⟨resolved, s₂⟩
      cases resolved with
      | error f =>
          exact ⟨[], .inl rfl, loads.bind_rest loading (resolves.bind_error resolving)⟩
      | ok done =>
          have again := ignoringImports_noted (Noted.execute steps subject block s₂)
          exact ⟨[block], .inr rfl, loads.bind loading (resolves.bind resolving again)⟩

theorem runGuarded_noted (block : String) (s : σ) :
    ∃ added, (added = [block] ∨ added = [block, block]) ∧
      Noted (runGuarded steps resolve subject block)
        (runGuarded steps.noted (fun v => (resolve v).beside) subject block) s
          added := by
  have executes := Noted.execute steps subject block s
  rcases run : (steps.execute subject block).run.run s with ⟨r, s₁⟩
  have tried := Step.attempt_run run
  cases r with
  | ok done => exact ⟨_, .inl rfl, executes.attempt.bind_rest tried (.of_same (.ok ()))⟩
  | error f =>
      cases import_failed : f.kind.isImport with
      | false =>
          refine ⟨_, .inl rfl, executes.attempt.bind_rest tried ?_⟩
          simp only [import_failed, Bool.not_false, if_true]
          exact Noted.bind_error (.of_same (.error f)) rfl
      | true =>
          cases named : namedModule? f with
          | none =>
              refine ⟨_, .inl rfl, executes.attempt.bind_rest tried ?_⟩
              simp only [import_failed, Bool.not_true, Bool.false_eq_true, if_false,
                named]
              exact .of_same (.ok ())
          | some name =>
              obtain ⟨more, times, retried⟩ :=
                retry_noted steps resolve subject block name s₁
              refine ⟨[block] ++ more, ?_, executes.attempt.bind tried ?_⟩
              · rcases times with rfl | rfl
                · exact .inl rfl
                · exact .inr rfl
              · simp only [import_failed, Bool.not_true, Bool.false_eq_true,
                  if_false, named]
                exact retried

theorem runBlocks_noted
    (reports : ∀ f s, ∃ s', (steps.report subject f).run.run s = (.ok (), s'))
    (blocks : List String) (s : σ) :
    ∃ log s', Tried blocks log ∧
      (runBlocks steps resolve subject blocks).run.run s = (.ok (), s') ∧
      Noted (runBlocks steps resolve subject blocks)
        (runBlocks steps.noted (fun v => (resolve v).beside) subject blocks) s log := by
  induction blocks generalizing s with
  | nil => exact ⟨[], s, .nil, rfl, .of_same (.ok ())⟩
  | cons block rest ih =>
      obtain ⟨added, times, noted⟩ := runGuarded_noted steps resolve subject block s
      rcases run : (runGuarded steps resolve subject block).run.run s with ⟨r, s₁⟩
      have tried := Step.attempt_run run
      cases r with
      | ok done =>
          obtain ⟨log, s', in_order, ends, later⟩ := ih s₁
          exact ⟨added ++ log, s', in_order.cons times, (run_bind tried).trans ends,
            noted.attempt.bind tried later⟩
      | error f =>
          obtain ⟨s₂, reported⟩ := reports f s₁
          obtain ⟨log, s', in_order, ends, later⟩ := ih s₂
          refine ⟨added ++ log, s', in_order.cons times,
            (run_bind tried).trans ((run_bind reported).trans ends),
            noted.attempt.bind tried ?_⟩
          exact (Noted.beside (steps.report subject f) s₁).bind reported later

end

/--
Where failed blocks can be reported, the code of the guarded blocks between the
first and the last block of a module is run in order.  That is all guarded code
exactly if neither of these two blocks is guarded.
-/
theorem guarded_code_run_between_ends (blocks : List TopBlock) {σ : Type}
    (steps : GuardSteps σ) (resolve : Value → Step σ Unit) (subject : Value)
    (reports : ∀ f s, ∃ s', (steps.report subject f).run.run s = (.ok (), s')) (s : σ) :
    guardedBlocks (moduleText blocks) = guardedCode blocks.tail.dropLast ∧
      (∃ log s', Tried (guardedCode blocks.tail.dropLast) log ∧
        (runBlocks steps resolve subject
          (guardedBlocks (moduleText blocks))).run.run s = (.ok (), s') ∧
        (runBlocks steps.noted (fun v => (resolve v).beside) subject
          (guardedBlocks (moduleText blocks))).run.run (s, []) = (.ok (), (s', log))) ∧
      (guardedCode blocks.tail.dropLast = guardedCode blocks ↔
        ∀ block, blocks.head? = some block ∨ blocks.getLast? = some block →
          block.isGuarded = false) := by
  have found := TopBlock.guardedBlocks_moduleText blocks
  refine ⟨found, ?_, TopBlock.guardedCode_inner_eq_iff blocks⟩
  rw [found]
  obtain ⟨log, s', in_order, ends, noted⟩ :=
    runBlocks_noted steps resolve subject reports (guardedCode blocks.tail.dropLast) s
  refine ⟨log, s', in_order, ends, ?_⟩
  rw [noted [], ends, List.nil_append]

def guardedModule : List TopBlock :=
  [{ header := "import a", body := [""] },
    { header := "if TYPE_CHECKING:", body := ["    from b import C", ""] },
    { header := "if typing.TYPE_CHECKING:  # more",
      body := ["    import d", "", "    import e"] },
    { header := "else:", body := ["    d = None"] },
    { header := "def f():", body := ["    if TYPE_CHECKING:", "        pass", ""] }]

def failingOnce : GuardSteps Nat where
  skips _ := return false
  source? _ := return none
  mark _ := return ()
  execute _ _ := do
    let runs ← get
    set (runs + 1)
    if runs = 0 then throw ⟨.importing, [], some "b"⟩
  load name := return .module name
  report _ _ := return ()

theorem guarded_code_run_between_ends_twice :
    guardedBlocks (moduleText guardedModule) = guardedCode guardedModule ∧
      Tried (guardedCode guardedModule)
        ["\nfrom b import C\n", "\nfrom b import C\n", "\nimport d\n\nimport e"] := by
  obtain ⟨found, ⟨log, s', in_order, -, noted⟩, whole_iff⟩ :=
    guarded_code_run_between_ends guardedModule failingOnce (fun _ => return ()) .none
      (fun f s => ⟨s, rfl⟩) 0
  have whole : guardedCode guardedModule.tail.dropLast = guardedCode guardedModule := by
    refine whole_iff.mpr ?_
    rintro block (first | last)
    · cases first
      decide +kernel
    · cases last
      decide +kernel
  have codes : guardedCode guardedModule = ["\nfrom b import C\n",
      "\nimport d\n\nimport e"] := by
    decide +kernel
  rw [found, whole, codes] at noted
  rw [whole] at found in_order
  have listed : log = ["\nfrom b import C\n", "\nfrom b import C\n",
      "\nimport d\n\nimport e"] :=
    (congrArg (fun ended => ended.2.2) noted).symm
  exact ⟨found, listed ▸ in_order⟩

def importOnly : TopBlock :=
  { header := "import a", body := [] }

def guardOnly : TopBlock :=
  { header := "if TYPE_CHECKING:", body := ["    from b import C"] }

/-- A guarded block that ends or begins a module is not run. -/
theorem guard_at_end_left_out :
    guardedCode [importOnly, guardOnly] = ["\nfrom b import C"] ∧
      guardedBlocks (moduleText [importOnly, guardOnly]) = [] ∧
      guardedCode [guardOnly, importOnly] = ["\nfrom b import C"] ∧
      guardedBlocks (moduleText [guardOnly, importOnly]) = [] := by
  decide +kernel

end DocHints.Hints
