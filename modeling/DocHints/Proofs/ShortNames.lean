import DocHints.Proofs.Rendering

/-!
# Short and full names

A reference shows only the last part of its target if a tilde stands before it.
Whether names are shown in full decides on these tildes and on nothing else: the
same aliases are expanded, the same parts are asked for and the same failures
are met.  So the two renderings of an annotation are equal up to tildes, and if
no name has a tilde of its own the rendering in full is what remains of the
other one without its tildes.
-/

namespace DocHints

namespace Text

def withoutTildes (s : String) : String :=
  String.ofList (s.toList.filter (· != '~'))

@[simp] theorem withoutTildes_append (s t : String) :
    withoutTildes (s ++ t) = withoutTildes s ++ withoutTildes t := by
  simp [withoutTildes, String.ofList_append]

@[simp] theorem withoutTildes_join (between : String) (pieces : List String) :
    withoutTildes (join between pieces) =
      join (withoutTildes between) (pieces.map withoutTildes) := by
  induction pieces with
  | nil => rfl
  | cons first rest ih =>
      cases rest with
      | nil => simp [join, String.intercalate_singleton]
      | cons second rest =>
          simp only [join, List.map_cons, String.intercalate_cons_cons,
            withoutTildes_append] at ih ⊢
          rw [ih]

theorem withoutTildes_of_clear {s : String} (clear : '~' ∉ s.toList) :
    withoutTildes s = s := by
  have kept : s.toList.filter (· != '~') = s.toList := by
    apply List.filter_eq_self.mpr
    intro c inside
    apply bne_iff_ne.mpr
    rintro rfl
    exact clear inside
  rw [withoutTildes, kept, String.ofList_toList]

end Text

open Text (withoutTildes)

/-! ## The option -/

def RenderOptions.qualified (options : RenderOptions) (full : Bool) : RenderOptions :=
  { options with fullyQualified := full }

def Scene.qualified (scene : Scene) (full : Bool) : Scene :=
  { scene with options := scene.options.qualified full }

namespace RenderOptions

@[simp] theorem withoutTildes_shortMark (options : RenderOptions) :
    withoutTildes options.shortMark = "" := by
  unfold shortMark
  split <;> decide

@[simp] theorem withoutTildes_markUnless (options : RenderOptions) (bare : Bool) :
    withoutTildes (options.markUnless bare) = "" := by
  unfold markUnless
  split <;> decide

end RenderOptions

/-! ## Nodes -/

namespace Plan

/--
Two plans that fail alike, expand the same alias, or give the same text up to
tildes.
-/
inductive Alike {v : Value} : Except Failure (Plan v) → Except Failure (Plan v) → Prop
  | failure (failure : Failure) : Alike (.error failure) (.error failure)
  | text {s t : String} (same : withoutTildes s = withoutTildes t) :
      Alike (.ok (.text s)) (.ok (.text t))
  | expand (a : AliasRef) (isAlias : v = .typeAlias a) :
      Alike (.ok (.expand a isAlias)) (.ok (.expand a isAlias))
  | join {parts : List (Value.Part v)} {finish finish' : List String → String}
      (same : ∀ texts texts', texts.map withoutTildes = texts'.map withoutTildes →
        withoutTildes (finish texts) = withoutTildes (finish' texts')) :
      Alike (.ok (.join parts finish)) (.ok (.join parts finish'))

theorem Alike.ite {v : Value} {c : Prop} [Decidable c]
    {p p' q q' : Except Failure (Plan v)} (yes : Alike p p') (no : Alike q q') :
    Alike (if c then p else q) (if c then p' else q') := by
  split
  · exact yes
  · exact no

theorem referenceText_alike {role mark mark' path args args' : String}
    (marks : withoutTildes mark = withoutTildes mark')
    (same : withoutTildes args = withoutTildes args') (shown : args = "" ↔ args' = "") :
    withoutTildes (referenceText role mark path args) =
      withoutTildes (referenceText role mark' path args') := by
  simp [referenceText, String.isEmpty_iff, marks, same, shown]

section

variable {options : RenderOptions} {full full' : Bool} {v : Value}
  {args : List (Value.Part v)} {role mark mark' path : String}
  {texts texts' : List String}

theorem headD_alike (same : texts.map withoutTildes = texts'.map withoutTildes) :
    withoutTildes (texts.headD "") = withoutTildes (texts'.headD "") := by
  cases texts <;> cases texts' <;> simp_all

theorem getLastD_alike (same : texts.map withoutTildes = texts'.map withoutTildes) :
    withoutTildes (texts.getLastD "") = withoutTildes (texts'.getLastD "") := by
  have last := congrArg List.getLast? same
  simp only [List.getLast?_map] at last
  rw [List.getLastD_eq_getLast?, List.getLastD_eq_getLast?]
  cases found : texts.getLast? <;> cases found' : texts'.getLast? <;> simp_all

theorem literalText_alike (w : Value) :
    withoutTildes (literalText (options.qualified full) w) =
      withoutTildes (literalText (options.qualified full') w) := by
  cases w with
  | member owner name value =>
      have home (b : Bool) :
          (options.qualified b).fixModule owner.module =
            options.fixModule owner.module := rfl
      simp [literalText, home]
  | _ => rfl

theorem listed_alike {parts : List (Value.Part v)}
    (marks : withoutTildes mark = withoutTildes mark') :
    Alike (.ok (.join parts fun texts => referenceText role mark path
        (if parts.isEmpty then "" else "\\[" ++ Text.join ", " texts ++ "]")))
      (.ok (.join parts fun texts => referenceText role mark' path
        (if parts.isEmpty then "" else "\\[" ++ Text.join ", " texts ++ "]"))) := by
  refine .join fun texts texts' same => ?_
  cases parts.isEmpty with
  | true => exact referenceText_alike marks rfl .rfl
  | false => exact referenceText_alike marks (by simp [same]) (by simp)

theorem variablePlan_alike (marks : withoutTildes mark = withoutTildes mark') :
    Alike (variablePlan args (referenceText role mark path))
      (variablePlan args (referenceText role mark' path)) := by
  unfold variablePlan
  cases v.asVariable with
  | none => exact .failure _
  | some x =>
      refine .join fun texts texts' same => referenceText_alike marks ?_ (by simp)
      have bound := headD_alike same
      have rest : (texts.drop v.boundPart?.toList.length).map withoutTildes =
          (texts'.drop v.boundPart?.toList.length).map withoutTildes := by
        rw [List.map_drop, List.map_drop, same]
      cases args.isEmpty <;> cases v.boundPart?.isSome <;>
        simp only [Text.withoutTildes_append, Text.withoutTildes_join, bound, rest,
          if_true, Bool.false_eq_true, if_false]

theorem literalTexts_alike (options : RenderOptions) (full full' : Bool)
    (args : List (Value.Part v)) :
    (args.map fun part => literalText (options.qualified full) part.1).map
      withoutTildes =
      (args.map fun part => literalText (options.qualified full') part.1).map
        withoutTildes := by
  rw [List.map_map, List.map_map]
  apply List.map_congr_left
  intro part _
  exact literalText_alike part.1

theorem atPath_alike (marks : withoutTildes mark = withoutTildes mark') :
    Alike (atPath (options.qualified full) args role mark path)
      (atPath (options.qualified full') args role mark' path) := by
  unfold atPath
  -- One case for each kind of path, in the order in which they are told apart.
  refine .ite (.ite (.text ?bare) (.join ?bars)) (.ite ?newType (.ite ?annotated
    (.ite (variablePlan_alike marks) (.ite (listed_alike marks)
    (.ite (.ite (listed_alike marks) (.ite (listed_alike marks) (.join ?optional)))
    (.ite (.join ?callable)
      (.ite (.ite (.text ?short) (.text ?literal)) (listed_alike marks))))))))
  case bare => simp [marks]
  case bars =>
      intro texts texts' same
      simp [same]
  case newType =>
      cases v with
      | newType home ownName base =>
          refine .join fun texts texts' same => ?_
          have supertype := headD_alike same
          simp only [Text.withoutTildes_append,
            RenderOptions.withoutTildes_markUnless, supertype]
          rfl
      | _ => exact .failure _
  case annotated =>
      cases v with
      | annotated base metadata => exact .join fun texts texts' same => headD_alike same
      | _ => exact .failure _
  case optional =>
      intro texts texts' same
      exact referenceText_alike marks (by simp [marks, same]) (by simp)
  case callable =>
      intro texts texts' same
      have front : texts.dropLast.map withoutTildes =
          texts'.dropLast.map withoutTildes := by
        rw [List.map_dropLast, List.map_dropLast, same]
      have last := getLastD_alike same
      refine referenceText_alike marks ?_ (by simp)
      simp only [Text.withoutTildes_append, Text.withoutTildes_join, front, last]
  case short =>
      have texts := literalTexts_alike options full full' args
      simp only [Text.withoutTildes_append, Text.withoutTildes_join, texts]
  case literal =>
      have texts := literalTexts_alike options full full' args
      refine referenceText_alike marks ?_ (by simp)
      simp only [Text.withoutTildes_append, Text.withoutTildes_join, texts]

end

/-! ## All nodes -/

section

variable {registry : Registry} {options : RenderOptions} {full full' : Bool}

theorem nameText_alike (a : AliasRef) :
    withoutTildes (a.nameText registry (options.qualified full)) =
      withoutTildes (a.nameText registry (options.qualified full')) := by
  simp [AliasRef.nameText]

theorem aliasNameText_alike (name : String) (crossref : Option Bool) :
    withoutTildes (aliasNameText (options.qualified full) name crossref) =
      withoutTildes (aliasNameText (options.qualified full') name crossref) := by
  have target (b : Bool) : aliasTarget? (options.qualified b) name crossref =
      aliasTarget? options name crossref := rfl
  unfold aliasNameText
  rw [target, target]
  cases aliasTarget? options name crossref <;> simp

theorem tupleText_alike {texts texts' : List String}
    (same : texts.map withoutTildes = texts'.map withoutTildes) :
    withoutTildes (tupleText texts) = withoutTildes (tupleText texts') := by
  rcases texts with _ | ⟨first, _ | ⟨second, rest⟩⟩ <;>
    rcases texts' with _ | ⟨first', _ | ⟨second', rest'⟩⟩ <;>
    simp_all [tupleText]

theorem byDescription_alike (v : Value) :
    Alike (byDescription registry (options.qualified full) v)
      (byDescription registry (options.qualified full') v) := by
  unfold byDescription
  refine .ite (.text rfl) ?_
  cases v.describe registry with
  | error failure => exact .ite (.text rfl) (.failure _)
  | ok d => exact atPath_alike (by simp)

theorem ofValue_alike (rules : options.formatter = none) (v : Value) :
    Alike (ofValue registry (options.qualified full) v)
      (ofValue registry (options.qualified full') v) := by
  have asked (b : Bool) : (options.qualified b).formatter = none := rules
  unfold ofValue
  rw [asked, asked]
  cases v with
  | forwardRef ref => exact .text rfl
  | none => exact .text rfl
  | ellipsis => exact .text rfl
  | tuple items => exact .join fun texts texts' same => tupleText_alike same
  | aliasName name crossref => exact .text (aliasNameText_alike name crossref)
  | typeAlias a =>
      have target (b : Bool) : a.target? registry (options.qualified b) =
        a.target? registry options := rfl
      simp only [AliasRef.reference?, target]
      cases a.target? registry options with
      | none => exact .expand a rfl
      | some target => exact .text (by simp)
  | _ => exact byDescription_alike _

end

end Plan

/-! ## Names in the output -/

namespace Text

def Clear (s : String) : Prop :=
  '~' ∉ s.toList

instance (s : String) : Decidable (Clear s) :=
  inferInstanceAs (Decidable (¬ _))

theorem clear_append {s t : String} : Clear (s ++ t) ↔ Clear s ∧ Clear t := by
  simp [Clear]

theorem Clear.append {s t : String} (first : Clear s) (second : Clear t) :
    Clear (s ++ t) :=
  clear_append.mpr ⟨first, second⟩

theorem Clear.join {between : String} (clear : Clear between) {pieces : List String}
    (all : ∀ piece ∈ pieces, Clear piece) : Clear (join between pieces) := by
  induction pieces with
  | nil => simp [Text.join, String.intercalate_nil, Clear]
  | cons first rest ih =>
      have others := ih fun piece inside => all piece (List.mem_cons_of_mem _ inside)
      have first_clear := all first List.mem_cons_self
      cases rest with
      | nil => simpa [Text.join, String.intercalate_singleton] using first_clear
      | cons second rest =>
          simp only [Text.join, String.intercalate_cons_cons, clear_append] at others ⊢
          exact ⟨⟨first_clear, clear⟩, others⟩

end Text

open Text (Clear)

namespace Plan

def literalNames (options : RenderOptions) : Value → List String
  | .member owner name _ => [options.fixModule owner.module, owner.qualname, name]
  | other => [other.text]

def newTypeNames (options : RenderOptions) : Value → List String
  | .newType home ownName _ => [options.fixModule home, ownName]
  | _ => []

def namesAt (options : RenderOptions) {v : Value} (args : List (Value.Part v))
    (path : String) : List String :=
  if path == "types.UnionType" || (options.barsUnion && isUnion v) then []
  else if path == "typing.NewType" then newTypeNames options v
  else if path == "typing.Annotated" then []
  else if path == "typing.TypeVar" || path == "typing.ParamSpec" then
    (v.asVariable.map Variable.name).toList
  else if path == "typing.Literal" then
    args.flatMap fun part => literalNames options part.1
  else [path]

def describedNames (registry : Registry) (options : RenderOptions) (v : Value) :
    List String :=
  if v.isNoneType then []
  else
    match v.describe registry with
    | .ok d =>
      let (module, name) := documentedPath options d.module d.name
      namesAt options d.args
        (if module == "builtins" then name else module ++ "." ++ name)
    | .error _ => [Text.trimMark '\'' v.plainText]

def ownNames (registry : Registry) (options : RenderOptions) (v : Value) :
    List String :=
  match v with
  | .forwardRef ref => [ref]
  | .none => []
  | .ellipsis => []
  | .tuple _ => []
  | .aliasName name crossref => [(aliasTarget? options name crossref).getD name]
  | .typeAlias a => ((a.target? registry options).map Prod.snd).toList
  | v => describedNames registry options v

/--
A plan that fails, or that gives a text without tildes if those of its parts
have none.
-/
inductive IsClear {v : Value} : Except Failure (Plan v) → Prop
  | failure (failure : Failure) : IsClear (.error failure)
  | text {s : String} (clear : Clear s) : IsClear (.ok (.text s))
  | expand (a : AliasRef) (isAlias : v = .typeAlias a) : IsClear
    (.ok (.expand a isAlias))
  | join {parts : List (Value.Part v)} {finish : List String → String}
      (clear : ∀ texts, (∀ text ∈ texts, Clear text) → Clear (finish texts)) :
      IsClear (.ok (.join parts finish))

theorem IsClear.ite {v : Value} {c : Prop} [Decidable c] {p q : Except Failure (Plan v)}
    (yes : c → IsClear p) (no : ¬ c → IsClear q) : IsClear (if c then p else q) := by
  split
  · exact yes ‹_›
  · exact no ‹_›

section

variable {options : RenderOptions} {v : Value} {args : List (Value.Part v)}
  {role mark path : String} {texts : List String}

theorem clear_headD (all : ∀ text ∈ texts, Clear text) : Clear (texts.headD "") := by
  cases texts with
  | nil => simp [Clear]
  | cons first rest => exact all first List.mem_cons_self

theorem clear_getLastD (all : ∀ text ∈ texts, Clear text) :
    Clear (texts.getLastD "") := by
  rw [List.getLastD_eq_getLast?]
  cases last : texts.getLast? with
  | none => simp [Clear]
  | some text => exact all text (List.mem_of_getLast? last)

theorem clear_referenceText {args : String} (role_clear : Clear role)
    (mark_clear : Clear mark) (path_clear : Clear path) (args_clear : Clear args) :
    Clear (referenceText role mark path args) := by
  unfold referenceText
  split <;> simp_all [Clear]

theorem clear_listed (role_clear : Clear role) (mark_clear : Clear mark)
    (path_clear : Clear path) {parts : List (Value.Part v)} :
    IsClear (.ok (.join parts fun texts => referenceText role mark path
      (if parts.isEmpty then "" else "\\[" ++ Text.join ", " texts ++ "]"))) := by
  refine .join fun texts all => clear_referenceText role_clear mark_clear path_clear ?_
  have joined := Text.Clear.join (by decide : Clear ", ") all
  split
  · decide
  · exact ((by decide : Clear "\\[").append joined).append (by decide)

theorem clear_markUnless (bare : Bool) :
    Clear ((options.qualified true).markUnless bare) := by
  simp [RenderOptions.markUnless, RenderOptions.qualified, Clear]

theorem clear_shortMark : Clear (options.qualified true).shortMark := by
  simp [RenderOptions.shortMark, RenderOptions.qualified, Clear]

theorem clear_roleOf (module name : String) : Clear (roleOf module name) := by
  simp only [roleOf]
  split <;> decide

theorem clear_qualified {home name : String} (home_clear : Clear home)
    (name_clear : Clear name) :
    Clear (if home.isEmpty then name else home ++ "." ++ name) := by
  split
  · exact name_clear
  · exact (home_clear.append (by decide)).append name_clear

theorem clear_literalText {w : Value} (names : ∀ s ∈ literalNames options w, Clear s) :
    Clear (literalText (options.qualified true) w) := by
  cases w with
  | member owner name value =>
      have home_clear : Clear (options.fixModule owner.module) :=
        names _ (by simp [literalNames])
      have owner_clear : Clear owner.qualname := names _ (by simp [literalNames])
      have name_clear : Clear name := names _ (by simp [literalNames])
      have dot_clear : Clear "." := by decide
      refine (((by decide : Clear ":py:attr:`").append (clear_markUnless _)).append
        ?_).append (by decide)
      split
      · exact (owner_clear.append dot_clear).append name_clear
      · exact (((home_clear.append dot_clear).append owner_clear).append
          dot_clear).append name_clear
  | _ =>
      exact ((by decide : Clear "``").append (names _ List.mem_cons_self)).append
        (by decide)

theorem clear_variablePlan (role_clear : Clear role) (mark_clear : Clear mark)
    (path_clear : Clear path)
    (names : ∀ s ∈ (v.asVariable.map Variable.name).toList, Clear s) :
    IsClear (variablePlan args (referenceText role mark path)) := by
  unfold variablePlan
  cases found : v.asVariable with
  | none => exact .failure _
  | some x =>
      refine .join fun texts all =>
        clear_referenceText role_clear mark_clear path_clear ?_
      have named : Clear x.name := names _ (by simp [found])
      have bound := clear_headD all
      have rest : Clear (Text.join ", " (texts.drop v.boundPart?.toList.length)) :=
        Text.Clear.join (by decide) fun text inside =>
          all text (List.mem_of_mem_drop inside)
      simp only [Text.clear_append]
      refine ⟨⟨⟨⟨⟨⟨by decide, named⟩, by decide⟩, ?_⟩, ?_⟩, ?_⟩, by decide⟩
      · split
        · decide
        · exact (by decide : Clear ", ").append rest
      · split
        · exact (by decide : Clear ", bound= ").append bound
        · decide
      · split <;> decide

theorem clear_path (names : ∀ s ∈ namesAt options args path, Clear s)
    (bars : ¬ (path == "types.UnionType" || (options.barsUnion && isUnion v)) = true)
    (newType : ¬ (path == "typing.NewType") = true)
    (annotated : ¬ (path == "typing.Annotated") = true)
    (isVariable : ¬ (path == "typing.TypeVar" || path == "typing.ParamSpec") = true) :
    Clear path := by
  unfold namesAt at names
  rw [if_neg bars, if_neg newType, if_neg annotated, if_neg isVariable] at names
  split at names
  · rename_i isLiteral
    rw [beq_iff_eq.mp isLiteral]
    decide
  · exact names path List.mem_cons_self

theorem atPath_clear (role_clear : Clear role) (mark_clear : Clear mark)
    (names : ∀ s ∈ namesAt options args path, Clear s) :
    IsClear (atPath (options.qualified true) args role mark path) := by
  unfold atPath
  refine .ite (fun _ => .ite (fun _ => .text ?bare) fun _ => .join ?bars) ?_
  case bare =>
    exact ((by decide : Clear ":py:data:`").append mark_clear).append (by decide)
  case bars => exact fun texts all => Text.Clear.join (by decide) all
  intro (bars : ¬ (path == "types.UnionType" || (options.barsUnion && isUnion v)) =
    true)
  refine .ite (fun isNewType => ?distinct) fun newType => ?_
  case distinct =>
      have names' : ∀ s ∈ newTypeNames options v, Clear s := by
        rwa [namesAt, if_neg bars, if_pos isNewType] at names
      cases v with
      | newType home ownName base =>
          have home_clear : Clear (options.fixModule home) :=
            names' _ (by simp [newTypeNames])
          have name_clear : Clear ownName := names' _ (by simp [newTypeNames])
          refine .join fun texts all => ?_
          exact (((((by decide : Clear ":py:class:`").append
            (clear_markUnless _)).append
            (clear_qualified home_clear name_clear)).append (by decide)).append
            (clear_headD all)).append (by decide)
      | _ => exact .failure _
  refine .ite (fun _ => ?wrapped) fun annotated => ?_
  case wrapped =>
      cases v with
      | annotated base metadata => exact .join fun texts all => clear_headD all
      | _ => exact .failure _
  refine .ite (fun isVariable => ?variable_) fun plain => ?_
  case variable_ =>
      have names' : ∀ s ∈ (v.asVariable.map Variable.name).toList, Clear s := by
        rwa [namesAt, if_neg bars, if_neg newType, if_neg annotated,
          if_pos isVariable] at names
      have path_clear : Clear path := by
        rcases Bool.or_eq_true _ _ ▸ isVariable with same | same <;>
          rw [beq_iff_eq.mp same] <;> decide
      exact clear_variablePlan role_clear mark_clear path_clear names'
  have path_clear := clear_path names bars newType annotated plain
  refine .ite (fun _ => clear_listed role_clear mark_clear path_clear) fun _ => ?_
  refine .ite (fun _ => ?nullable) fun _ => ?_
  case nullable =>
      refine .ite (fun _ => clear_listed (by decide) mark_clear (by decide)) fun _ => ?_
      refine .ite (fun _ => clear_listed role_clear mark_clear path_clear) fun _ => ?_
      refine .join fun texts all =>
        clear_referenceText (by decide) mark_clear (by decide) ?_
      have joined := Text.Clear.join (by decide : Clear ", ") all
      exact ((((by decide : Clear "\\[:py:data:`").append mark_clear).append
        (by decide)).append joined).append (by decide)
  refine .ite (fun _ => .join fun texts all => ?listing) fun _ => ?_
  case listing =>
      refine clear_referenceText role_clear mark_clear path_clear ?_
      have joined : Clear (Text.join ", " texts.dropLast) :=
        Text.Clear.join (by decide) fun text inside =>
          all text ((List.dropLast_sublist texts).mem inside)
      exact ((((by decide : Clear "\\[\\[").append joined).append (by decide)).append
        (clear_getLastD all)).append (by decide)
  refine .ite (fun isLiteral => ?members) fun _ =>
    clear_listed role_clear mark_clear path_clear
  case members =>
      have names' : ∀ s ∈ args.flatMap fun part =>
          literalNames options part.1, Clear s := by
        rwa [namesAt, if_neg bars, if_neg newType, if_neg annotated, if_neg plain,
          if_pos isLiteral] at names
      have texts : ∀ s ∈ args.map fun part =>
          literalText (options.qualified true) part.1, Clear s := by
        intro s inside
        obtain ⟨part, asked, rfl⟩ := List.mem_map.mp inside
        exact clear_literalText fun name shown =>
          names' name (List.mem_flatMap.mpr ⟨part, asked, shown⟩)
      refine .ite (fun _ => .text ?_) fun _ => .text ?_
      · exact (by decide : Clear "\\").append (Text.Clear.join (by decide) texts)
      · refine clear_referenceText role_clear mark_clear path_clear ?_
        exact ((by decide : Clear "\\[").append
          (Text.Clear.join (by decide) texts)).append (by decide)

end

section

variable {registry : Registry} {options : RenderOptions}

theorem clear_target?_role {a : AliasRef} {target : String × String}
    (found : a.target? registry options = some target) : Clear target.1 := by
  unfold AliasRef.target? at found
  split at found
  · cases found
  · simp only at found
    split at found
    · cases found
      exact (by decide : Clear "type")
    · rw [Option.ite_none_right_eq_some] at found
      cases found.2
      exact (by decide : Clear "obj")

theorem byDescription_clear {v : Value}
    (names : ∀ s ∈ describedNames registry options v, Clear s) :
    IsClear (byDescription registry (options.qualified true) v) := by
  unfold byDescription
  unfold describedNames at names
  refine .ite (fun _ => .text (by decide)) fun proper => ?_
  rw [if_neg proper] at names
  cases described : v.describe registry with
  | error failure =>
      simp only [described] at names
      exact .ite (fun _ => .text (names _ List.mem_cons_self)) fun _ => .failure _
  | ok d =>
      simp only [described] at names
      exact atPath_clear (clear_roleOf _ _) (clear_markUnless _) names

theorem ofValue_clear (rules : options.formatter = none) {v : Value}
    (names : ∀ s ∈ ownNames registry options v, Clear s) :
    IsClear (ofValue registry (options.qualified true) v) := by
  have asked : (options.qualified true).formatter = none := rules
  unfold ofValue
  rw [asked]
  cases v with
  | forwardRef ref => exact .text (names _ List.mem_cons_self)
  | none => exact .text (by decide)
  | ellipsis => exact .text (by decide)
  | tuple items =>
      refine .join fun texts all => ?_
      have joined := Text.Clear.join (by decide : Clear ", ") all
      unfold tupleText
      split
      · decide
      · exact ((by decide : Clear "(").append (all _ List.mem_cons_self)).append
          (by decide)
      · exact ((by decide : Clear "(").append joined).append (by decide)
  | aliasName name crossref =>
      refine .text ?_
      have shown : Clear ((aliasTarget? options name crossref).getD name) :=
        names _ List.mem_cons_self
      have target : aliasTarget? (options.qualified true) name crossref
          = aliasTarget? options name crossref := rfl
      unfold aliasNameText
      rw [target]
      cases leads : aliasTarget? options name crossref with
      | none => simpa [leads] using shown
      | some path =>
          rw [leads] at shown
          exact (((by decide : Clear ":py:type:`").append clear_shortMark).append
            shown).append (by decide)
  | typeAlias a =>
      have target : a.target? registry (options.qualified true) =
          a.target? registry options := rfl
      simp only [AliasRef.reference?, target]
      cases found : a.target? registry options with
      | none => exact .expand a rfl
      | some target =>
          have role_clear := clear_target?_role found
          have path_clear : Clear target.2 := names _ (by simp [ownNames, found])
          exact .text ((((((by decide : Clear ":py:").append role_clear).append
            (by decide)).append clear_shortMark).append path_clear).append (by decide))
  | _ => exact byDescription_clear names

end

end Plan

/-! ## Whole annotations -/

namespace Scene

theorem le_totalOf {costs : List Nat} {cost : Nat} (inside : cost ∈ costs) :
    cost ≤ totalOf costs := by
  induction costs with
  | nil => cases inside
  | cons first costs ih =>
      simp only [totalOf]
      cases inside with
      | head => omega
      | tail _ inside =>
          have le := ih inside
          omega

/--
What holds of a value whenever it holds of the parts that its node waits for,
holds always.
-/
theorem node_induction (scene : Scene) {motive : List AliasRef → Value → Prop}
    (met : ∀ {path v a}, onPath? path v = some a → motive path v)
    (failed : ∀ {path v failure}, onPath? path v = none →
      scene.frame v = .error failure →
      motive path v)
    (node : ∀ {path v next}, onPath? path v = none → scene.frame v = .ok next →
      (∀ part ∈ next.waiting, motive (activate path v) part) → motive path v)
    (path : List AliasRef) (v : Value) : motive path v := by
  generalize spent : scene.cost path v = cost
  induction cost using Nat.strongRecOn generalizing path v with
  | ind cost ih =>
      cases onPath : onPath? path v with
      | some a => exact met onPath
      | none =>
          cases built : scene.frame v with
          | error failure => exact failed onPath built
          | ok next =>
              refine node onPath built fun part asked => ?_
              have total := cost_of_frame onPath built
              have le := le_totalOf
                (List.mem_map_of_mem (f := scene.cost (activate path v)) asked)
              exact ih _ (by omega) _ _ rfl

section

variable {scene : Scene}

theorem frame_alike (rules : scene.options.formatter = none) (full full' : Bool)
    (v : Value) : (∃ failure, (scene.qualified full).frame v = .error failure ∧
        (scene.qualified full').frame v = .error failure) ∨
      ∃ waiting finish finish',
        (scene.qualified full).frame v = .ok ⟨alias? v, waiting, [], finish⟩ ∧
        (scene.qualified full').frame v = .ok ⟨alias? v, waiting, [], finish'⟩ ∧
        ∀ texts texts', texts.map withoutTildes = texts'.map withoutTildes →
          withoutTildes (finish texts) = withoutTildes (finish' texts') := by
  have alike : Plan.Alike ((scene.qualified full).plan v)
      ((scene.qualified full').plan v) :=
    Plan.ofValue_alike rules v
  unfold frame
  generalize (scene.qualified full).plan v = plan at alike
  generalize (scene.qualified full').plan v = plan' at alike
  cases alike with
  | failure failure => exact .inl ⟨failure, rfl, rfl⟩
  | text same => exact .inr ⟨[], _, _, rfl, rfl, fun _ _ _ => same⟩
  | expand a isAlias =>
      have entry (b : Bool) : (scene.qualified b).aliases = scene.aliases := rfl
      simp only [entry]
      cases scene.aliases.value? a.key with
      | none => exact .inl ⟨_, rfl, rfl⟩
      | some value =>
          exact .inr ⟨_, _, _, rfl, rfl, fun texts texts' same => Plan.headD_alike same⟩
  | join same => exact .inr ⟨_, _, _, rfl, rfl, same⟩

theorem map_mapM (f : Value → Except Failure String) (e : String → String)
    (parts : List Value) :
    (parts.mapM f).map (List.map e) = parts.mapM fun part => (f part).map e := by
  induction parts with
  | nil => rfl
  | cons part parts ih =>
      simp only [List.mapM_cons, ← ih]
      cases f part <;> cases parts.mapM f <;> rfl

theorem mapM_alike {f g : Value → Except Failure String} {parts : List Value}
    (same : ∀ part ∈ parts, (f part).map withoutTildes = (g part).map withoutTildes) :
    (parts.mapM f).map (List.map withoutTildes) =
      (parts.mapM g).map (List.map withoutTildes) := by
  rw [map_mapM, map_mapM]
  induction parts with
  | nil => rfl
  | cons part parts ih =>
      have first := same part List.mem_cons_self
      have rest := ih fun other inside => same other (List.mem_cons_of_mem _ inside)
      simp only [List.mapM_cons, first, rest]

theorem finish_alike {finish finish' : List String → String}
    (alike : ∀ texts texts', texts.map withoutTildes = texts'.map withoutTildes →
      withoutTildes (finish texts) = withoutTildes (finish' texts'))
    {read read' : Except Failure (List String)}
    (same : read.map (List.map withoutTildes) = read'.map (List.map withoutTildes)) :
    (read.map finish).map withoutTildes = (read'.map finish').map withoutTildes := by
  cases read with
  | error failure =>
      cases read' with
      | error failure' => simpa [Except.map] using same
      | ok texts' => cases same
  | ok texts =>
      cases read' with
      | error failure' => cases same
      | ok texts' =>
          have same : texts.map withoutTildes = texts'.map withoutTildes := by
            simpa [Except.map] using same
          exact congrArg Except.ok (alike texts texts' same)

/-- Up to tildes, an annotation is rendered alike with short and with full names. -/
theorem renderAt_alike (rules : scene.options.formatter = none) (full full' : Bool)
    (path : List AliasRef) (v : Value) :
    ((scene.qualified full).renderAt path v).map withoutTildes =
      ((scene.qualified full').renderAt path v).map withoutTildes := by
  induction path, v using node_induction (scene.qualified full) with
  | met onPath =>
      rw [renderAt_of_met onPath, renderAt_of_met onPath]
      exact congrArg Except.ok (Plan.nameText_alike _)
  | @failed path v failure unmet built =>
      rcases frame_alike rules full full' v
          with ⟨failure', first, second⟩ | ⟨_, _, _, first, _⟩
      · rw [renderAt_of_frame_error unmet first, renderAt_of_frame_error unmet second]
      · rw [first] at built
        cases built
  | @node path v next unmet built ih =>
      rcases frame_alike rules full full' v with
        ⟨_, first, _⟩ | ⟨waiting, finish, finish', first, second, alike⟩
      · rw [first] at built
        cases built
      · rw [first] at built
        cases built
        rw [renderAt_of_frame unmet first, renderAt_of_frame unmet second]
        exact finish_alike alike (mapM_alike ih)

/--
The names and texts that enter the rendering of a value: those of its nodes, in
all expansions of aliases, and the names of the aliases at which an expansion is
cut.
-/
inductive Enters (scene : Scene) : List AliasRef → Value → String → Prop
  | cut {path : List AliasRef} {v : Value} {a : AliasRef}
      (met : onPath? path v = some a) :
      Enters scene path v (a.shownName scene.registry)
  | own {path : List AliasRef} {v : Value} {s : String} (unmet : onPath? path v = none)
      (shown : s ∈ Plan.ownNames scene.registry scene.options v) : Enters scene path v s
  | part {path : List AliasRef} {v part : Value} {next : Frame} {s : String}
      (unmet : onPath? path v = none) (built : scene.frame v = .ok next)
      (asked : part ∈ next.waiting) (enters : Enters scene (activate path v) part s) :
      Enters scene path v s

theorem frame_clear (rules : scene.options.formatter = none) {v : Value} {next : Frame}
    (built : (scene.qualified true).frame v = .ok next)
    (names : ∀ s ∈ Plan.ownNames scene.registry scene.options v, Clear s)
    {texts : List String} (all : ∀ text ∈ texts, Clear text) :
    Clear (next.finish texts) := by
  have clear : Plan.IsClear ((scene.qualified true).plan v) :=
    Plan.ofValue_clear rules names
  unfold frame at built
  generalize (scene.qualified true).plan v = plan at clear built
  cases clear with
  | failure failure => cases built
  | text clear =>
      cases built
      exact clear
  | expand a isAlias =>
      simp only at built
      split at built
      · cases built
      · cases built
        exact Plan.clear_headD all
  | join clear =>
      cases built
      exact clear texts all

theorem mapM_clear {f : Value → Except Failure String} {parts : List Value}
    {texts : List String}
    (each : ∀ part ∈ parts, ∀ text, f part = .ok text → Clear text)
    (read : parts.mapM f = .ok texts) : ∀ text ∈ texts, Clear text := by
  induction parts generalizing texts with
  | nil =>
      cases read
      exact fun text inside => nomatch inside
  | cons part parts ih =>
      rw [List.mapM_cons] at read
      cases first : f part with
      | error failure =>
          rw [first] at read
          cases read
      | ok head =>
          cases others : parts.mapM f with
          | error failure =>
              rw [first, others] at read
              cases read
          | ok tail =>
              rw [first, others] at read
              cases read
              have rest :=
                ih (fun other inside => each other (List.mem_cons_of_mem _ inside))
                  others
              exact List.forall_mem_cons.mpr
                ⟨each part List.mem_cons_self head first, rest⟩

/-- With full names, a rendering has no tilde that does not enter with a name. -/
theorem renderAt_clear (rules : scene.options.formatter = none)
    (path : List AliasRef) (v : Value)
    (names : ∀ s, scene.Enters path v s → Clear s) {text : String}
    (rendered : (scene.qualified true).renderAt path v = .ok text) : Clear text := by
  induction path, v using node_induction (scene.qualified true) generalizing text with
  | @met path v a onPath =>
      rw [renderAt_of_met onPath] at rendered
      cases rendered
      have name_clear : Clear (a.shownName scene.registry) := names _ (.cut onPath)
      exact (((by decide : Clear ":py:type:`").append Plan.clear_shortMark).append
        name_clear).append (by decide)
  | failed unmet built =>
      rw [renderAt_of_frame_error unmet built] at rendered
      cases rendered
  | @node path v next unmet built ih =>
      -- The scene itself, whatever its names are like, asks for the same parts.
      rcases frame_alike rules true scene.options.fullyQualified v with
        ⟨_, failed, _⟩ | ⟨waiting, _, _, full, same, _⟩
      · rw [failed] at built
        cases built
      · rw [full] at built
        cases built
        rw [renderAt_of_frame unmet full] at rendered
        cases read : waiting.mapM
          ((scene.qualified true).renderAt (activate path v)) with
        | error failure =>
            rw [read] at rendered
            cases rendered
        | ok texts =>
            rw [read] at rendered
            cases rendered
            refine frame_clear rules full (fun s shown => names s (.own unmet shown)) ?_
            refine mapM_clear (fun part asked text given => ?_) read
            exact ih part asked (fun s enters =>
              names s (.part unmet same asked enters)) given

/--
The rendering with full names is the rendering with short names without its
tildes, and fails with the same failure, if no name or text that enters the
rendering has a tilde.
-/
theorem full_names_without_tildes {scene : Scene} {v : Value}
    (rules : scene.options.formatter = none)
    (names : ∀ s, scene.Enters [] v s → '~' ∉ s.toList) :
    ((scene.qualified false).render v).map withoutTildes =
      (scene.qualified true).render v := by
  have alike := renderAt_alike rules false true [] v
  rw [render_eq, render_eq, alike]
  cases full : (scene.qualified true).renderAt [] v with
  | error failure => rfl
  | ok text =>
      have clear : Clear text := renderAt_clear rules [] v names full
      exact congrArg Except.ok (Text.withoutTildes_of_clear clear)

end

theorem crossing_clear {path : List AliasRef} {v : Value} {s : String}
    (enters : crossing.Enters path v s)
    (before : ∀ a ∈ path, a = crossingLeft ∨ a = crossingRight)
    (here : v = .typeAlias crossingLeft ∨ v = .typeAlias crossingRight ∨
      v = .tuple [.typeAlias crossingRight, .typeAlias crossingRight] ∨
      v = .tuple [.typeAlias crossingLeft]) : Clear s := by
  induction enters with
  | @cut path v a met =>
      have known : a = crossingLeft ∨ a = crossingRight := by
        rcases here with rfl | rfl | rfl | rfl
        · exact before a (List.mem_of_find?_eq_some met)
        · exact before a (List.mem_of_find?_eq_some met)
        · cases met
        · cases met
      rcases known with rfl | rfl <;> decide +kernel
  | own unmet shown =>
      rcases here with rfl | rfl | rfl | rfl <;> cases shown
  | @part path v other next s unmet built asked enters ih =>
      rcases here with rfl | rfl | rfl | rfl <;> cases built
      · exact ih (List.forall_mem_cons.mpr ⟨.inl rfl, before⟩)
          (.inr (.inr (.inl (List.mem_singleton.mp asked))))
      · exact ih (List.forall_mem_cons.mpr ⟨.inr rfl, before⟩)
          (.inr (.inr (.inr (List.mem_singleton.mp asked))))
      · have asked : other ∈ [Value.typeAlias crossingRight,
            .typeAlias crossingRight] := asked
        exact ih before (.inr (.inl (by simpa using asked)))
      · exact ih before (.inl (List.mem_singleton.mp asked))

theorem full_names_without_tildes_crossing :
    (crossing.qualified false).render (.typeAlias crossingLeft) =
        .ok "((:py:type:`~m.A`, ), (:py:type:`~m.A`, ))" ∧
      (crossing.qualified true).render (.typeAlias crossingLeft) =
        .ok "((:py:type:`m.A`, ), (:py:type:`m.A`, ))" := by
  have short : (crossing.qualified false).render (.typeAlias crossingLeft) =
      .ok "((:py:type:`~m.A`, ), (:py:type:`~m.A`, ))" :=
    (render_eq crossing _).trans renderAt_crossing
  have names (s : String) (enters : crossing.Enters [] (.typeAlias crossingLeft) s) :
      '~' ∉ s.toList :=
    crossing_clear enters (fun a inside => nomatch inside) (.inl rfl)
  refine ⟨short, ?_⟩
  rw [← full_names_without_tildes rfl names, short]
  exact congrArg Except.ok (by decide +kernel)

end Scene

end DocHints
