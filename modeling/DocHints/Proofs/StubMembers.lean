import DocHints.Stub.Lookup

/-!
# Members of a class in a stub

A stub puts what holds for some versions only into branches.  Without them its
statements stand in one row, those of a body before those of the other side.
The search for the type of a descriptor takes the members from a stack.  It
ends, and it finds the last member of that row which declares a type for the
descriptor.
-/

namespace DocHints.Stub

open Source

/-! ## Statements without branches -/

mutual

def flattened : List Stmt → List Stmt
  | [] => []
  | stmt :: rest => spread stmt ++ flattened rest

def spread : Stmt → List Stmt
  | .branch _ body orElse => flattened body ++ flattened orElse
  | stmt => [stmt]

end

theorem flattened_branch (test : Expr) (body orElse rest : List Stmt) :
    flattened (.branch test body orElse :: rest) =
      flattened body ++ flattened orElse ++ flattened rest := by
  rw [flattened, spread]

theorem flattened_plain {stmt : Stmt} (rest : List Stmt)
    (plain : ∀ test body orElse, stmt = .branch test body orElse → False) :
    flattened (stmt :: rest) = stmt :: flattened rest := by
  rw [flattened, spread.eq_2 _ plain, List.singleton_append]

theorem flattened_append (front rest : List Stmt) :
    flattened (front ++ rest) = flattened front ++ flattened rest := by
  induction front with
  | nil => rfl
  | cons stmt front ih =>
      rw [List.cons_append, flattened, flattened, ih, List.append_assoc]

/-! ## Declarations -/

/--
A member of a class declares a type for a name: a variable with an annotation,
or a property with a result.
-/
inductive Declares (name : String) : Stmt → Expr → Prop
  | annotated (hint : Expr) (value : Option Expr) :
      Declares name (.annAssign (.name name) hint value) hint
  | property {head : FunctionHead} {hint : Expr} (body : List Stmt)
      (named : head.name = name)
      (plain : head.isAsync = false) (marked : .name "property" ∈ head.decorators)
      (result : head.returns = some hint) : Declares name (.function head body) hint

theorem any_isPropertyMark {decorators : List Expr} :
    decorators.any isPropertyMark = true ↔ .name "property" ∈ decorators := by
  rw [List.any_eq_true]
  constructor
  · rintro ⟨mark, inside, is_property⟩
    cases mark with
    | name id =>
        have known : id = "property" := by simpa [isPropertyMark] using is_property
        rwa [known] at inside
    | _ => cases is_property
  · exact fun inside => ⟨_, inside, rfl⟩

theorem memberType?_eq_some_iff {name text : String} {member : Stmt} :
    memberType? name member = some text ↔
      ∃ hint, Declares name member hint ∧ hint.print = text := by
  constructor
  · intro declared
    unfold memberType? at declared
    split at declared
    · rename_i id hint value
      split at declared
      · rename_i same
        cases declared
        exact ⟨hint, eq_of_beq same ▸ .annotated hint value, rfl⟩
      · cases declared
    · rename_i head body
      split at declared
      · rename_i fits
        simp only [Bool.and_eq_true, Bool.not_eq_true', beq_iff_eq,
          any_isPropertyMark] at fits
        obtain ⟨hint, result, printed⟩ := Option.map_eq_some_iff.mp declared
        exact ⟨hint, .property body fits.1.2 fits.1.1 fits.2 result, printed⟩
      · cases declared
    · cases declared
  · rintro ⟨hint, declares, printed⟩
    cases declares with
    | annotated _ value => simp [memberType?, printed]
    | property body named plain marked result =>
        simp [memberType?, named, plain, any_isPropertyMark.mpr marked, result, printed]

theorem memberType?_eq_none_iff {name : String} {member : Stmt} :
    memberType? name member = none ↔ ∀ hint, ¬ Declares name member hint := by
  rw [Option.eq_none_iff_forall_ne_some]
  constructor
  · exact fun untold hint declares =>
      untold _ (memberType?_eq_some_iff.mpr ⟨hint, declares, rfl⟩)
  · intro undeclared text told
    obtain ⟨hint, declares, -⟩ := memberType?_eq_some_iff.mp told
    exact undeclared hint declares

/-- The last of some members that declares a type for a name declares this one. -/
def LastDeclared (name : String) (members : List Stmt) (hint : Expr) : Prop :=
  ∃ before member after, members = before ++ member :: after ∧
    Declares name member hint ∧
    ∀ later ∈ after, ∀ other, ¬ Declares name later other

def lastType? (name : String) (members : List Stmt) : Option String :=
  members.reverse.findSome? (memberType? name)

theorem lastType?_concat (name : String) (members : List Stmt) (member : Stmt) :
    lastType? name (members ++ [member]) =
      (memberType? name member).or (lastType? name members) := by
  simp only [lastType?, List.reverse_append, List.reverse_singleton,
    List.singleton_append, List.findSome?_cons]
  cases memberType? name member <;> rfl

theorem lastType?_eq_some_iff {name text : String} {members : List Stmt} :
    lastType? name members = some text ↔
      ∃ hint, LastDeclared name members hint ∧ hint.print = text := by
  rw [lastType?, List.findSome?_eq_some_iff]
  constructor
  · rintro ⟨after, member, before, split, told, silent⟩
    obtain ⟨hint, declares, printed⟩ := memberType?_eq_some_iff.mp told
    refine ⟨hint, ⟨before.reverse, member, after.reverse, ?_, declares, ?_⟩, printed⟩
    · rw [← List.reverse_inj, split]
      simp
    · exact fun later inside =>
        memberType?_eq_none_iff.mp (silent later (List.mem_reverse.mp inside))
  · rintro ⟨hint, ⟨before, member, after, rfl, declares, undeclared⟩, printed⟩
    refine ⟨after.reverse, member, before.reverse, by simp, ?_, ?_⟩
    · exact memberType?_eq_some_iff.mpr ⟨hint, declares, printed⟩
    · intro later inside
      exact memberType?_eq_none_iff.mpr (undeclared later (List.mem_reverse.mp inside))

theorem lastType?_eq_none_iff {name : String} {members : List Stmt} :
    lastType? name members = none ↔
      ∀ member ∈ members, ∀ hint, ¬ Declares name member hint := by
  simp only [lastType?, List.findSome?_eq_none_iff, List.mem_reverse,
    memberType?_eq_none_iff]

/-! ## The search -/

section

variable {name : String} {stack : List Stmt}

theorem lastType?_of_ended {type : Option String}
    (ends : turn name stack = .ended type) :
    lastType? name (flattened stack.reverse) = type := by
  unfold turn at ends
  split at ends
  · cases ends
    rfl
  · cases ends
  · rename_i member stack plain
    split at ends
    · rename_i text told
      cases ends
      rw [List.reverse_cons, flattened_append, flattened_plain [] plain, flattened,
        lastType?_concat, told, Option.some_or]
    · cases ends

/-- A turn that goes on leaves the last type as it was. -/
theorem lastType?_of_waiting {next : List Stmt}
    (goes_on : turn name stack = .waiting next) :
    lastType? name (flattened next.reverse) =
      lastType? name (flattened stack.reverse) := by
  unfold turn at goes_on
  split at goes_on
  · cases goes_on
  · rename_i test body orElse stack
    cases goes_on
    -- On the stack the sides are reversed and swapped, so that they are in
    -- order again below.
    have order : (orElse.reverse ++ body.reverse ++ stack).reverse =
        stack.reverse ++ (body ++ orElse) := by
      simp
    rw [order, List.reverse_cons, flattened_append, flattened_append, flattened_append,
      flattened_branch, flattened, List.append_nil]
  · rename_i member stack plain
    split at goes_on
    · cases goes_on
    · rename_i silent
      cases goes_on
      rw [List.reverse_cons, flattened_append, flattened_plain [] plain, flattened,
        lastType?_concat, silent, Option.none_or]

end

/-- What comes of a number of turns; a search that has ended takes no more. -/
def turns (name : String) : Nat → List Stmt → Turn
  | 0, stack => .waiting stack
  | n + 1, stack =>
    match turn name stack with
    | .ended type => .ended type
    | .waiting next => turns name n next

/-- The search ends within one turn more than there are statements. -/
theorem turns_eq_ended {name : String} {n : Nat} {stack : List Stmt}
    (enough : branchSize stack < n) :
    turns name n stack = .ended (lastType? name (flattened stack.reverse)) := by
  induction n generalizing stack with
  | zero => exact absurd enough (Nat.not_lt_zero _)
  | succ n ih =>
      rw [turns]
      cases result : turn name stack with
      | ended type => rw [lastType?_of_ended result]
      | waiting next =>
          have fewer := branchSize_turn result
          rw [← lastType?_of_waiting result]
          exact ih (by omega)

theorem searchMembers_eq_of_turns {name : String} {n : Nat} {stack : List Stmt}
    {type : Option String} (ends : turns name n stack = .ended type) :
    searchMembers name stack = type := by
  induction n generalizing stack with
  | zero => cases ends
  | succ n ih =>
      rw [turns] at ends
      rw [searchMembers]
      split
      · rename_i found result
        rw [result] at ends
        cases ends
        rfl
      · rename_i next result
        rw [result] at ends
        exact ih ends

theorem searchMembers_eq (name : String) (stack : List Stmt) :
    searchMembers name stack = lastType? name (flattened stack.reverse) :=
  searchMembers_eq_of_turns (turns_eq_ended (Nat.lt_succ_self _))

/--
The search for a descriptor in the class that the stub has for its owner ends
within one turn more than the class has statements.  The type is the one that
the last member declares which declares one, in the order of the class without
its branches, and there is none exactly if no member does.
-/
theorem descriptorType?_last_declared {tree body : List Stmt} {owner : String}
    (name : String)
    (found : findDefinition? (Text.dotted owner) tree = some (.classDef body)) :
    turns name (branchSize body + 1) body.reverse =
      .ended (descriptorType? tree owner name) ∧
      (∀ text, descriptorType? tree owner name = some text ↔
        ∃ hint, LastDeclared name (flattened body) hint ∧ hint.print = text) ∧
      (descriptorType? tree owner name = none ↔
        ∀ member ∈ flattened body, ∀ hint, ¬ Declares name member hint) := by
  have type : descriptorType? tree owner name = lastType? name (flattened body) := by
    simp only [descriptorType?, found]
    rw [searchMembers_eq, List.reverse_reverse]
  have ends : turns name (branchSize body + 1) body.reverse =
      .ended (lastType? name (flattened body)) := by
    rw [turns_eq_ended (by rw [branchSize_reverse]; omega), List.reverse_reverse]
  rw [type]
  exact ⟨ends, fun _ => lastType?_eq_some_iff, lastType?_eq_none_iff⟩

def propertyNamed (name result : String) (isAsync : Bool) : Stmt :=
  .function ⟨name, isAsync, [], some (.name result), [.name "property"], none,
    ⟨1, 1, 1⟩⟩ [.pass]

/--
A class that declares a descriptor by a variable and, in both sides of a branch
and in a branch inside of it, by properties; the last property is none that
counts.
-/
def versionedBody : List Stmt :=
  [.annAssign (.name "depth") (.name "int") none,
    .branch (.name "new")
      [.branch (.name "newer") [propertyNamed "depth" "bytes" false] [],
        propertyNamed "size" "int" false]
      [propertyNamed "depth" "bool" false, .pass],
    propertyNamed "depth" "str" true]

def versionedStub : List Stmt :=
  [.classDef ⟨"Encoder", [], [], [], ⟨1, 1, 1⟩⟩ versionedBody]

theorem descriptorType?_last_declared_versioned :
    findDefinition? (Text.dotted "Encoder") versionedStub =
      some (.classDef versionedBody) ∧
      descriptorType? versionedStub "Encoder" "depth" = some "bool" := by
  have found : findDefinition? (Text.dotted "Encoder") versionedStub =
      some (.classDef versionedBody) := by
    have parts : Text.dotted "Encoder" = ["Encoder"] := by decide +kernel
    rw [parts]
    rfl
  obtain ⟨-, declared, -⟩ := descriptorType?_last_declared "depth" found
  have silent : ∀ later ∈ [.pass, propertyNamed "depth" "str" true],
      memberType? "depth" later = none := by
    simp [memberType?, propertyNamed]
  have printed : (Expr.name "bool").print = "bool" := by simp [Expr.print, Expr.printAt]
  have row : flattened versionedBody =
      [.annAssign (.name "depth") (.name "int") none,
        propertyNamed "depth" "bytes" false, propertyNamed "size" "int" false] ++
      propertyNamed "depth" "bool" false ::
        [.pass, propertyNamed "depth" "str" true] := rfl
  refine ⟨found, (declared "bool").mpr ⟨.name "bool", ⟨_, _, _, row, ?_, ?_⟩, printed⟩⟩
  · exact .property _ rfl rfl (.head _) rfl
  · exact fun later inside => memberType?_eq_none_iff.mp (silent later inside)

end DocHints.Stub
