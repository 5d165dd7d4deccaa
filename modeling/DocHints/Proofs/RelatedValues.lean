import Mathlib.Data.List.Forall2
import DocHints.Proofs.ShortNames
import DocHints.Proofs.UnionHeads

/-!
# Renderings of related values

Two values may differ in the types inside them and still be rendered alike.
Where they have the same head, and the types inside them are related, both are
described by the same module and name, and their plans ask for related parts and
join the texts in the same way.  So a relation that is kept from values to the
parts of their nodes is a relation between values of the same text.
-/

namespace DocHints

inductive Paired {α β : Type} (Related : α → β → Prop) :
    Except Failure α → Except Failure β → Prop
  | failure (failure : Failure) : Paired Related (.error failure) (.error failure)
  | result {a : α} {b : β} (related : Related a b) : Paired Related (.ok a) (.ok b)

namespace Paired

variable {α β : Type} {Related : α → β → Prop} {x x' : Except Failure α}
  {y y' : Except Failure β}

theorem ite {c c' : Bool} (same : c = c') (yes : Paired Related x y)
    (no : Paired Related x' y') :
    Paired Related (if c then x else x') (if c' then y else y') := by
  subst same
  cases c with
  | true => exact yes
  | false => exact no

theorem error_eq {failure : Failure} (paired : Paired Related (.error failure) y) :
    y = .error failure := by
  cases paired with
  | failure => rfl

theorem exists_ok {a : α} (paired : Paired Related (.ok a) y) :
    ∃ b, y = .ok b ∧ Related a b := by
  cases paired with
  | result related => exact ⟨_, rfl, related⟩

end Paired

section

variable {α β γ : Type} {Related : α → β → Prop} {xs : List α} {ys : List β}

theorem mapM_eq_of_forall₂ {f : α → Except Failure γ} {g : β → Except Failure γ}
    (related : List.Forall₂ Related xs ys)
    (same : ∀ x ∈ xs, ∀ y, Related x y → f x = g y) : xs.mapM f = ys.mapM g := by
  induction related with
  | nil => rfl
  | @cons x y xs ys first rest ih =>
      have rest_eq := ih fun x inside => same x (List.mem_cons_of_mem _ inside)
      rw [List.mapM_cons, List.mapM_cons, same x List.mem_cons_self y first, rest_eq]

theorem any_eq_of_forall₂ {f : α → Bool} {g : β → Bool}
    (related : List.Forall₂ Related xs ys)
    (same : ∀ {x y}, Related x y → f x = g y) : xs.any f = ys.any g := by
  induction related with
  | nil => rfl
  | cons first rest ih => rw [List.any_cons, List.any_cons, same first, ih]

theorem all_eq_of_forall₂ {f : α → Bool} {g : β → Bool}
    (related : List.Forall₂ Related xs ys)
    (same : ∀ {x y}, Related x y → f x = g y) : xs.all f = ys.all g := by
  rw [List.all_eq_not_any_not, List.all_eq_not_any_not,
    any_eq_of_forall₂ related fun pair => by rw [same pair]]

end

/-! ## Heads -/

namespace Value

def inner : Value → List Value
  | .tuple items => items
  | .applied _ args => args
  | .indexed _ args => args
  | .union members => members
  | .bars members => members
  | .literal values => values
  | .annotated base _ => [base]
  | .newType _ _ base => [base]
  | .typeVar _ bound constraints => bound.toList ++ constraints
  | .paramSpec _ bound => bound.toList
  | _ => []

theorem sizeOf_lt_of_mem_inner {v part : Value} (inside : part ∈ v.inner) :
    sizeOf part < sizeOf v := by
  have in_list (items : List Value) (inside : part ∈ items) :=
    List.sizeOf_lt_of_mem inside
  have in_bound (bound : Option Value) (inside : part ∈ bound.toList) :
      sizeOf part < sizeOf bound := by
    cases bound with
    | none => cases inside
    | some type =>
        cases List.mem_singleton.mp inside
        simp only [Option.some.sizeOf_spec]
        omega
  cases v with
  | tuple items =>
      have := in_list items inside
      simp only [tuple.sizeOf_spec]
      omega
  | applied head args =>
      have := in_list args inside
      simp only [applied.sizeOf_spec]
      omega
  | indexed c args =>
      have := in_list args inside
      simp only [indexed.sizeOf_spec]
      omega
  | union members =>
      have := in_list members inside
      simp only [union.sizeOf_spec]
      omega
  | bars members =>
      have := in_list members inside
      simp only [bars.sizeOf_spec]
      omega
  | literal values =>
      have := in_list values inside
      simp only [literal.sizeOf_spec]
      omega
  | annotated base metadata =>
      cases List.mem_singleton.mp inside
      exact sizeOf_lt_annotated
  | newType home name base =>
      cases List.mem_singleton.mp inside
      exact sizeOf_lt_newType
  | typeVar x bound constraints =>
      simp only [typeVar.sizeOf_spec]
      rcases List.mem_append.mp inside with inside | inside
      · have := in_bound bound inside
        omega
      · have := in_list constraints inside
        omega
  | paramSpec x bound =>
      have := in_bound bound inside
      simp only [paramSpec.sizeOf_spec]
      omega
  | _ => cases inside

/--
Two values that are the same but for the types inside them.  The operand of an
annotated type gives it its module, so there the kinds of unions are not
exchanged.
-/
inductive SameHead : Value → Value → Prop
  | leaf {v : Value} (empty : v.inner = []) : SameHead v v
  | tuple (items items' : List Value) : SameHead (.tuple items) (.tuple items')
  | applied (head : Value) (args args' : List Value) :
      SameHead (.applied head args) (.applied head args')
  | indexed (c : ClassRef) (args args' : List Value) : SameHead (.indexed c args)
    (.indexed c args')
  | union (members members' : List Value) : SameHead (.union members) (.union members')
  | bars (members members' : List Value) : SameHead (.bars members) (.bars members')
  | literal (values values' : List Value) : SameHead (.literal values)
    (.literal values')
  | annotated {base base' : Value} (metadata : List Value)
      (kept : Plan.isUnion base = Plan.isUnion base') :
      SameHead (.annotated base metadata) (.annotated base' metadata)
  | newType (home name : String) (base base' : Value) :
      SameHead (.newType home name base) (.newType home name base')
  | typeVar (x : Variable) {bound bound' : Option Value}
      (constraints constraints' : List Value)
      (bounded : bound.isSome = bound'.isSome) :
      SameHead (.typeVar x bound constraints) (.typeVar x bound' constraints')
  | paramSpec (x : Variable) {bound bound' : Option Value}
      (bounded : bound.isSome = bound'.isSome) :
      SameHead (.paramSpec x bound) (.paramSpec x bound')

theorem SameHead.refl (v : Value) : SameHead v v := by
  cases v with
  | tuple items => exact .tuple items items
  | applied head args => exact .applied head args args
  | indexed c args => exact .indexed c args args
  | union members => exact .union members members
  | bars members => exact .bars members members
  | literal values => exact .literal values values
  | annotated base metadata => exact .annotated metadata rfl
  | newType home name base => exact .newType home name base base
  | typeVar x bound constraints => exact .typeVar x constraints constraints rfl
  | paramSpec x bound => exact .paramSpec x rfl
  | _ => exact .leaf rfl

@[simp] theorem unattach_partsOf {v : Value} (items : List Value)
    (smaller : sizeOf items < sizeOf v) : (partsOf items smaller).unattach = items := by
  unfold partsOf List.unattach
  rw [List.map_map]
  exact List.attach_map_subtype_val items

@[simp] theorem unattach_variableParts {v : Value} (items : List Value)
    (smaller : sizeOf items < sizeOf v) :
    (variableParts items smaller).unattach = distinct equal (variablesOf items) := by
  unfold variableParts List.unattach
  rw [List.map_map]
  exact List.attach_map_subtype_val _

abbrev PartsRelated (Related : Value → Value → Prop) {v v' : Value}
    (parts : List (Part v)) (parts' : List (Part v')) : Prop :=
  List.Forall₂ (fun part part' => Related part.1 part'.1) parts parts'

theorem forall₂_unattach {Related : Value → Value → Prop} {v v' : Value}
    {parts : List (Part v)} {parts' : List (Part v')} :
    List.Forall₂ Related parts.unattach parts'.unattach ↔
      PartsRelated Related parts parts' := by
  unfold List.unattach
  rw [List.forall₂_map_left_iff, List.forall₂_map_right_iff]

theorem givenArguments_of_inner_nil {v : Value} (empty : v.inner = []) :
    v.givenArguments = [] := by
  cases v <;> simp_all [givenArguments, inner, partsOf]

theorem boundPart?_of_inner_nil {v : Value} (empty : v.inner = []) :
    v.boundPart? = Option.none := by
  cases v <;> simp_all [boundPart?, inner]

/-! ## What the head tells -/

namespace SameHead

variable {v v' : Value}

theorem isNoneType_eq (head : SameHead v v') : v.isNoneType = v'.isNoneType := by
  cases head <;> rfl

theorem isUnion_eq (head : SameHead v v') : Plan.isUnion v = Plan.isUnion v' := by
  cases head <;> rfl

theorem asVariable_eq (head : SameHead v v') : v.asVariable = v'.asVariable := by
  cases head <;> rfl

theorem isAnyStr_eq (head : SameHead v v') :
    equal v Library.anyStr = equal v' Library.anyStr := by
  cases head <;> simp [Library.anyStr, equal, membersOf?]

end SameHead

abbrev SameVariable (Related : Value → Value → Prop) (x x' : Value) : Prop :=
  Related x x' ∧ ∀ u, equal x u = equal x' u

/--
What a relation between the types inside two values has to keep, for the values
to be described alike.
-/
structure Compatible (Related : Value → Value → Prop) : Prop where
  isNoneType {p p' : Value} (related : Related p p') : p.isNoneType = p'.isNoneType
  isEmptyTuple {p p' : Value} (related : Related p p') : p.isEmptyTuple =
    p'.isEmptyTuple
  isEllipsis {p p' : Value} (related : Related p p') : p = .ellipsis ↔ p' = .ellipsis
  home {p p' : Value} (related : Related p p')
    (kept : Plan.isUnion p = Plan.isUnion p') : p.home? = p'.home?
  equal_left {p p' : Value} (related : Related p p') (u : Value) : equal u p =
    equal u p'
  allVariables {p p' : Value} (related : Related p p') :
    List.Forall₂ (SameVariable Related) p.allVariables p'.allVariables

section

variable {Related : Value → Value → Prop} {v v' : Value}

theorem documentedModule_eq (compatible : Compatible Related) (head : SameHead v v')
    (parts : List.Forall₂ Related v.inner v'.inner) {home : String}
    (known : v.documentedModule = .ok home) : v'.documentedModule = .ok home := by
  cases head with
  | @annotated base base' metadata kept =>
      have same : base.home? = base'.home? :=
        compatible.home (List.forall₂_cons.mp parts).1 kept
      revert known
      simp only [documentedModule, Library.interpreterName?, home?, ← same]
      cases base.home? with
      | none =>
          intro known
          cases known
      | some home => exact id
  | applied head args args' =>
      revert known
      simp only [documentedModule, Library.interpreterName?, home?]
      cases head.home? with
      | none =>
          intro known
          cases known
      | some home => exact id
  | tuple items items' => cases known
  | _ => exact known

theorem documentedName_eq (compatible : Compatible Related) (head : SameHead v v')
    (parts : List.Forall₂ Related v.inner v'.inner) (home : String) :
    v.documentedName home = v'.documentedName home := by
  have any_str := head.isAnyStr_eq
  cases head with
  | leaf empty => rfl
  | union members members' =>
      have optional : isOptional members = isOptional members' := by
        have length : members.length = members'.length := parts.length_eq
        have any : members.any isNoneType = members'.any isNoneType :=
          any_eq_of_forall₂ parts compatible.isNoneType
        rw [isOptional, isOptional, length, any]
      unfold documentedName
      rw [any_str]
      simp only [Library.interpreterName?, optional]
  | applied head args args' =>
      unfold documentedName
      rw [any_str]
      cases head <;> rfl
  | _ =>
      unfold documentedName
      rw [any_str]
      rfl

theorem identical_eq (compatible : Compatible Related) (head : SameHead v v')
    (parts : List.Forall₂ Related v.inner v'.inner) (named : Value) :
    identical named v = identical named v' := by
  cases head with
  | leaf empty => rfl
  | newType home name base base' =>
      have same := compatible.equal_left (List.forall₂_cons.mp parts).1
      cases named <;> simp only [identical, equal, same]
  | _ => cases named <;> rfl

theorem forall₂_of_bounded {bound bound' : Option Value}
    {constraints constraints' : List Value} (bounded : bound.isSome = bound'.isSome)
    (parts : List.Forall₂ Related (bound.toList ++ constraints)
      (bound'.toList ++ constraints')) :
    List.Forall₂ Related bound.toList bound'.toList ∧
      List.Forall₂ Related constraints constraints' := by
  cases bound with
  | none =>
      cases bound' with
      | none => exact ⟨.nil, parts⟩
      | some _ => cases bounded
  | some type =>
      cases bound' with
      | none => cases bounded
      | some type' =>
          cases parts with
          | cons first rest => exact ⟨.cons first .nil, rest⟩

theorem givenArguments_parallel (head : SameHead v v')
    (parts : List.Forall₂ Related v.inner v'.inner) :
    PartsRelated Related v.givenArguments v'.givenArguments := by
  rw [← forall₂_unattach]
  cases head with
  | leaf empty =>
      rw [givenArguments_of_inner_nil empty]
      exact .nil
  | tuple items items' => exact .nil
  | paramSpec x bounded => exact .nil
  | typeVar x constraints constraints' bounded =>
      simpa [givenArguments] using (forall₂_of_bounded bounded parts).2
  | _ => simpa [givenArguments, inner] using parts

theorem boundPart?_parallel (head : SameHead v v')
    (parts : List.Forall₂ Related v.inner v'.inner) :
    PartsRelated Related v.boundPart?.toList v'.boundPart?.toList := by
  rw [← forall₂_unattach]
  cases head with
  | leaf empty =>
      rw [boundPart?_of_inner_nil empty]
      exact .nil
  | @typeVar x bound bound' constraints constraints' bounded =>
      have bounds := (forall₂_of_bounded bounded parts).1
      cases bound <;> cases bound' <;> exact bounds
  | @paramSpec x bound bound' bounded =>
      cases bound <;> cases bound' <;> exact parts
  | _ => exact .nil

theorem distinct_parallel {Alike : Value → Value → Prop}
    (left : ∀ {x x'}, Alike x x' → ∀ u, equal x u = equal x' u)
    (right : ∀ {x x'}, Alike x x' → ∀ u, equal u x = equal u x') {xs xs' : List Value}
    (alike : List.Forall₂ Alike xs xs') :
    List.Forall₂ Alike (distinct equal xs) (distinct equal xs') := by
  induction alike with
  | nil => exact .nil
  | @cons x x' xs xs' first rest ih =>
      refine .cons first (List.rel_filter ?_ ih)
      intro y y' other
      simp only [left first, right other]

theorem variablesOf_parallel {Alike : Value → Value → Prop} {items items' : List Value}
    (each : List.Forall₂ (fun p p' =>
      List.Forall₂ Alike p.allVariables p'.allVariables) items
      items') : List.Forall₂ Alike (variablesOf items) (variablesOf items') := by
  induction each with
  | nil => exact .nil
  | cons first rest ih => exact List.rel_append first ih

theorem variableParts_parallel (compatible : Compatible Related)
    {items items' : List Value} (parts : List.Forall₂ Related items items')
    (smaller : sizeOf items < sizeOf v) (smaller' : sizeOf items' < sizeOf v') :
    PartsRelated Related (variableParts items smaller)
      (variableParts items' smaller') := by
  rw [← forall₂_unattach, unattach_variableParts, unattach_variableParts]
  have occurring : List.Forall₂ (SameVariable Related) (variablesOf items)
      (variablesOf items') :=
    variablesOf_parallel (parts.imp fun _ _ => compatible.allVariables)
  have once :=
    distinct_parallel (fun same => same.2) (fun same => compatible.equal_left same.1)
      occurring
  exact once.imp fun _ _ same => same.1

theorem declaredVariables_parallel (compatible : Compatible Related)
    (head : SameHead v v') (parts : List.Forall₂ Related v.inner v'.inner) :
    Paired (PartsRelated Related) v.declaredVariables v'.declaredVariables := by
  cases head with
  | applied head args args' =>
      exact .result (variableParts_parallel compatible parts _ _)
  | indexed c args args' => exact .result (variableParts_parallel compatible parts _ _)
  | leaf empty =>
      cases v with
      | applied head args => exact .result (variableParts_parallel compatible parts _ _)
      | indexed c args => exact .result (variableParts_parallel compatible parts _ _)
      | _ => exact .failure _
  | _ => exact .failure _

theorem documentedArguments_parallel (compatible : Compatible Related)
    (head : SameHead v v') (parts : List.Forall₂ Related v.inner v'.inner)
    (registry : Registry) (home name : String) :
    Paired (PartsRelated Related) (v.documentedArguments registry home name)
      (v'.documentedArguments registry home name) := by
  unfold documentedArguments
  refine .ite ?named (.result .nil)
    (.ite rfl (declaredVariables_parallel compatible head parts) ?_)
  case named =>
    cases registry.member? home name with
    | none => rfl
    | some other => exact identical_eq compatible head parts other
  have given := givenArguments_parallel head parts
  generalize v.givenArguments = args at given
  generalize v'.givenArguments = args' at given
  cases given with
  | nil => exact .result .nil
  | cons first rest =>
      cases rest with
      | nil =>
          exact .ite (compatible.isEmptyTuple first) (.result .nil)
            (.result (.cons first .nil))
      | cons second rest => exact .result (.cons first (.cons second rest))

end

end Value

/-! ## Plans -/

namespace Plan

open Value (Compatible SameHead PartsRelated)

/--
Plans of two values for the same text, if the texts of related parts are the
same.
-/
inductive Parallel (Related : Value → Value → Prop) {v v' : Value} :
    Plan v → Plan v' → Prop
  | text (s : String) : Parallel Related (.text s) (.text s)
  | expand {a : AliasRef} (isAlias : v = .typeAlias a) (isAlias' : v' = .typeAlias a) :
      Parallel Related (.expand a isAlias) (.expand a isAlias')
  | join {parts : List (Value.Part v)} {parts' : List (Value.Part v')}
      {finish finish' : List String → String}
      (related : PartsRelated Related parts parts') (same : finish = finish') :
      Parallel Related (.join parts finish) (.join parts' finish')

theorem listsParameters_cons {v : Value} {part : Value.Part v}
    {rest : List (Value.Part v)} :
    listsParameters (part :: rest) = true ↔ ¬part.1 = .ellipsis := by
  obtain ⟨value, smaller⟩ := part
  cases value <;> simp [listsParameters]

section

variable {Related : Value → Value → Prop} {v v' : Value} {args : List (Value.Part v)}
  {args' : List (Value.Part v')} (compatible : Compatible Related)
  (head : SameHead v v') (parts : List.Forall₂ Related v.inner v'.inner)
  (given : PartsRelated Related args args')

include given in
theorem isEmpty_eq : args.isEmpty = args'.isEmpty := by
  cases given <;> rfl

include compatible given

theorem withoutNone_parallel :
    PartsRelated Related (withoutNone args) (withoutNone args') := by
  refine List.rel_filter ?_ given
  intro part part' related
  simp only [compatible.isNoneType related]

theorem any_isNoneType_eq :
    (args.any fun part => part.1.isNoneType) = args'.any fun part =>
      part.1.isNoneType :=
  any_eq_of_forall₂ given compatible.isNoneType

theorem listsParameters_eq : listsParameters args = listsParameters args' := by
  cases given with
  | nil => rfl
  | cons related others =>
      rw [Bool.eq_iff_iff, listsParameters_cons, listsParameters_cons, not_iff_not]
      exact compatible.isEllipsis related

omit compatible

theorem listed_parallel (role mark path : String) :
    Paired (Parallel Related)
      (.ok (.join args fun texts => referenceText role mark path
        (if args.isEmpty then "" else "\\[" ++ Text.join ", " texts ++ "]")))
      (.ok (.join args' fun texts => referenceText role mark path
        (if args'.isEmpty then "" else "\\[" ++ Text.join ", " texts ++ "]"))) := by
  refine .result (.join given ?_)
  rw [isEmpty_eq given]

include head parts in
theorem variablePlan_parallel (reference : String → String) :
    Paired (Parallel Related) (variablePlan args reference)
      (variablePlan args' reference) := by
  have bounds := Value.boundPart?_parallel head parts
  have bounded : v.boundPart?.isSome = v'.boundPart?.isSome := by
    have length := bounds.length_eq
    cases first : v.boundPart? <;> cases second : v'.boundPart? <;> simp_all
  unfold variablePlan
  rw [head.asVariable_eq]
  cases v'.asVariable with
  | none => exact .failure _
  | some x =>
      refine .result (.join (List.rel_append bounds given) ?_)
      funext texts
      simp only [bounded, bounds.length_eq, isEmpty_eq given]

include compatible head parts in
theorem atPath_parallel (options : RenderOptions) (role mark path : String)
    (literal : path = "typing.Literal" → args.unattach = args'.unattach) :
    Paired (Parallel Related) (atPath options args role mark path)
      (atPath options args' role mark path) := by
  have shorter := withoutNone_parallel compatible given
  unfold atPath
  refine .ite (by rw [head.isUnion_eq]) (.ite (isEmpty_eq given) (.result (.text _))
      (.result (.join given rfl)))
    (.ite rfl ?newType (.ite rfl ?annotated
    (.ite rfl (variablePlan_parallel head parts given _)
    (.ite rfl (listed_parallel shorter _ _ _)
    (.ite (by rw [any_isNoneType_eq compatible given])
      (.ite (by rw [given.length_eq]) (listed_parallel shorter _ _ _)
        (.ite rfl (listed_parallel given _ _ _) (.result (.join shorter rfl))))
    (.ite (by rw [listsParameters_eq compatible given]) (.result (.join given rfl))
    ?rest))))))
  case newType =>
      cases head with
      | newType home name base base' =>
          exact .result (.join (.cons (List.forall₂_cons.mp parts).1 .nil) rfl)
      | leaf empty =>
          cases v with
          | newType home name base => cases empty
          | _ => exact .failure _
      | _ => exact .failure _
  case annotated =>
      cases head with
      | annotated metadata kept =>
          exact .result (.join (.cons (List.forall₂_cons.mp parts).1 .nil) rfl)
      | leaf empty =>
          cases v with
          | annotated base metadata => cases empty
          | _ => exact .failure _
      | _ => exact .failure _
  case rest =>
      by_cases isLiteral : path = "typing.Literal"
      · have shown {w : Value} (parts : List (Value.Part w)) :
            (parts.map fun part => literalText options part.1) =
              parts.unattach.map (literalText options) := by
          unfold List.unattach
          rw [List.map_map]
          rfl
        have here : (path == "typing.Literal") = true := by simp [isLiteral]
        rw [if_pos here, if_pos here, shown, shown, literal isLiteral]
        exact .ite rfl (.result (.text _)) (.result (.text _))
      · have elsewhere : ¬(path == "typing.Literal") = true := by simp [isLiteral]
        rw [if_neg elsewhere, if_neg elsewhere]
        exact listed_parallel given _ _ _

end

section

variable {Related : Value → Value → Prop} {v v' : Value}
  (compatible : Compatible Related) (head : SameHead v v')
  (parts : List.Forall₂ Related v.inner v'.inner) (registry : Registry)
  (options : RenderOptions)

theorem documentedModule_of_describe {d : Value.Description v}
    (described : v.describe registry = .ok d) : v.documentedModule = .ok d.module := by
  unfold Value.describe at described
  cases home : v.documentedModule with
  | error failure => simp [home, bind, Except.bind] at described
  | ok module =>
      cases args : v.documentedArguments registry module (v.documentedName module) with
      | error failure => simp [home, args, bind, Except.bind] at described
      | ok given =>
          simp only [home, args, bind, Except.bind, pure, Except.pure,
            Except.ok.injEq] at described
          subst described
          rfl

def describedPath (d : Value.Description v) : String :=
  shownPath (documentedPath options d.module d.name).1
    (documentedPath options d.module d.name).2

def rendersParts (v : Value) : Bool :=
  match v with
  | .tuple _ => true
  | v =>
    match v.describe registry with
    | .ok d => describedPath options d != "typing.Literal"
    | .error _ => false

theorem describe_of_rendersParts {registry : Registry} {options : RenderOptions}
    (other : ∀ items, v ≠ .tuple items)
    (shown : rendersParts registry options v = true) :
    ∃ d, v.describe registry = .ok d ∧ describedPath options d ≠ "typing.Literal" := by
  unfold rendersParts at shown
  split at shown
  · exact absurd rfl (other _)
  · split at shown
    · rename_i d described
      exact ⟨d, described, by simpa using shown⟩
    · cases shown

include compatible head parts in
theorem describe_parallel (homed : v.documentedModule = v'.documentedModule) :
    Paired (fun d d' => d.module = d'.module ∧ d.name = d'.name ∧
      PartsRelated Related d.args d'.args) (v.describe registry)
        (v'.describe registry) := by
  unfold Value.describe
  rw [homed]
  cases v'.documentedModule with
  | error failure => exact .failure failure
  | ok home =>
      have name := Value.documentedName_eq compatible head parts home
      have args :=
        Value.documentedArguments_parallel compatible head parts registry home
          (v.documentedName home)
      simp only [bind, Except.bind]
      rw [← name]
      generalize v.documentedArguments registry home (v.documentedName home) =
        read at args
      generalize v'.documentedArguments registry home (v.documentedName home) =
        read' at args
      cases args with
      | failure failure => exact .failure failure
      | result related => exact .result ⟨rfl, rfl, related⟩

include compatible head parts

theorem byDescription_parallel
    (whole : (∃ d, v.describe registry = .ok d ∧
      describedPath options d ≠ "typing.Literal") ∨
      v = v') :
    Paired (Parallel Related) (byDescription registry options v)
      (byDescription registry options v') := by
  have homed : v.documentedModule = v'.documentedModule := by
    rcases whole with ⟨d, described, -⟩ | rfl
    · have home := documentedModule_of_describe registry described
      exact home.trans (Value.documentedModule_eq compatible head parts home).symm
    · rfl
  have both := describe_parallel compatible head parts registry homed
  unfold byDescription
  refine .ite head.isNoneType_eq (.result (.text _)) ?_
  cases described : v.describe registry with
  | error failure =>
      -- The text of a value without a description holds the types inside it as
      -- they are.
      rcases whole with ⟨d, described', -⟩ | rfl
      · rw [described] at described'
        cases described'
      · rw [described]
        exact .ite rfl (.result (.text _)) (.failure _)
  | ok d =>
      rw [described] at both
      obtain ⟨d', described', module, name, args⟩ := both.exists_ok
      have literal : describedPath options d = "typing.Literal" →
          d.args.unattach = d'.args.unattach := by
        intro isLiteral
        rcases whole with ⟨other, shown, unlike⟩ | rfl
        · cases described.symm.trans shown
          exact absurd isLiteral unlike
        · cases described.symm.trans described'
          rfl
      rw [described']
      dsimp only
      rw [ofDescription_eq, ofDescription_eq, ← module, ← name]
      exact atPath_parallel compatible head parts args options _ _ _ literal

theorem ofValue_parallel (rules : options.formatter = none)
    (whole : rendersParts registry options v = true ∨ v = v') :
    Paired (Parallel Related) (ofValue registry options v)
      (ofValue registry options v') := by
  have described (other : ∀ items, v ≠ .tuple items) :=
    byDescription_parallel compatible head parts registry options
      (whole.imp_left (describe_of_rendersParts other))
  unfold ofValue
  rw [rules]
  cases head with
  | leaf empty =>
      cases v with
      | forwardRef ref => exact .result (.text _)
      | none => exact .result (.text _)
      | ellipsis => exact .result (.text _)
      | tuple items =>
          exact .result
            (.join (Value.forall₂_unattach.mp (by simpa [Value.inner] using parts)) rfl)
      | aliasName name crossref => exact .result (.text _)
      | typeAlias a =>
          dsimp only
          cases a.reference? registry options with
          | none => exact .result (.expand rfl rfl)
          | some reference => exact .result (.text _)
      | _ => exact described nofun
  | tuple items items' =>
      exact .result
        (.join (Value.forall₂_unattach.mp (by simpa [Value.inner] using parts)) rfl)
  | _ => exact described nofun

end

end Plan

/-! ## Renderings -/

namespace Scene

def withAliases (scene : Scene) (table : AliasTable) : Scene :=
  { scene with aliases := table }

/--
A relation that is kept by rendering: related values are the same alias if any,
their plans ask for related parts, and so do the aliases that are expanded.
-/
structure Simulation (scene : Scene) (table : AliasTable)
    (Related : Value → Value → Prop) : Prop where
  alias? {v v' : Value} (related : Related v v') : alias? v = alias? v'
  plan {v v' : Value} (related : Related v v') :
    Paired (Plan.Parallel Related) (scene.plan v) (scene.plan v')
  value {a : AliasRef} (related : Related (.typeAlias a) (.typeAlias a))
    (unnamed : a.reference? scene.registry scene.options = none) :
    Option.Rel Related (scene.aliases.value? a.key) (table.value? a.key)

theorem onPath?_eq_bind (path : List AliasRef) (v : Value) :
    onPath? path v = (Scene.alias? v).bind fun a => path.find? (·.key == a.key) := by
  cases v <;> rfl

theorem reference?_of_expand {scene : Scene} {v : Value} {a : AliasRef}
    {isAlias : v = .typeAlias a} (planned : scene.plan v = .ok (.expand a isAlias)) :
    a.reference? scene.registry scene.options = none := by
  subst isAlias
  exact plan_typeAlias_expand planned

namespace Simulation

variable {scene : Scene} {table : AliasTable} {Related : Value → Value → Prop}
  {v v' : Value}

theorem frame (simulation : scene.Simulation table Related) (related : Related v v') :
    Paired (fun node node' => List.Forall₂ Related node.waiting node'.waiting ∧
      node.finish = node'.finish) (scene.frame v)
        ((scene.withAliases table).frame v') := by
  have plans : Paired (Plan.Parallel Related) (scene.plan v)
    ((scene.withAliases table).plan v') := simulation.plan related
  unfold Scene.frame
  generalize planned : scene.plan v = read at plans
  generalize (scene.withAliases table).plan v' = read' at plans
  cases plans with
  | failure failure => exact .failure failure
  | result parallel =>
      cases parallel with
      | text s => exact .result ⟨.nil, rfl⟩
      | join parts same => exact .result ⟨Value.forall₂_unattach.mpr parts, same⟩
      | @expand a isAlias isAlias' =>
          have unnamed := reference?_of_expand planned
          have itself : Related (.typeAlias a) (.typeAlias a) := by
            rwa [isAlias, isAlias'] at related
          have values : Option.Rel Related (scene.aliases.value? a.key)
            ((scene.withAliases table).aliases.value? a.key) :=
              simulation.value itself unnamed
          dsimp only
          generalize scene.aliases.value? a.key = value? at values
          generalize (scene.withAliases table).aliases.value? a.key = value?' at values
          cases values with
          | none => exact .failure _
          | some related => exact .result ⟨.cons related .nil, rfl⟩

theorem renderAt (simulation : scene.Simulation table Related) (path : List AliasRef)
    (related : Related v v') :
    (scene.withAliases table).renderAt path v' = scene.renderAt path v := by
  have onPath {path v v'} (related : Related v v') : onPath? path v' =
      onPath? path v := by
    rw [onPath?_eq_bind, onPath?_eq_bind, simulation.alias? related]
  induction path, v using node_induction scene generalizing v' with
  | met met =>
      rw [renderAt_of_met met, renderAt_of_met ((onPath related).trans met)]
      rfl
  | failed unmet built =>
      have frames := simulation.frame related
      rw [built] at frames
      rw [renderAt_of_frame_error unmet built,
        renderAt_of_frame_error ((onPath related).trans unmet) frames.error_eq]
  | @node path v next unmet built ih =>
      have frames := simulation.frame related
      rw [built] at frames
      obtain ⟨next', built', waiting, finish⟩ := frames.exists_ok
      have entered : activate path v' = activate path v := by
        rw [activate, activate, simulation.alias? related]
      have texts : next.waiting.mapM (scene.renderAt (activate path v)) =
          next'.waiting.mapM ((scene.withAliases table).renderAt (activate path v)) :=
        mapM_eq_of_forall₂ waiting fun part asked part' related =>
          (ih part asked related).symm
      rw [renderAt_of_frame unmet built,
        renderAt_of_frame ((onPath related).trans unmet) built', entered, texts, finish]

end Simulation

end Scene

end DocHints
