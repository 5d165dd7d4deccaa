import DocHints.Proofs.RelatedValues

/-!
# Aliases with a reference

An alias with a reference is shown by the reference, and what it stands for is
never looked at.  So the text of an annotation is the same in two scenes that
differ only in the values of such aliases, however deep in the annotation or in
the expansions of other aliases they are.
-/

namespace DocHints

/-! ## The types that occur in a type -/

namespace Value

theorem mem_variablesOf {x : Value} {items : List Value}
    (inside : x ∈ variablesOf items) : ∃ item ∈ items, x ∈ item.allVariables := by
  induction items with
  | nil => simp [variablesOf] at inside
  | cons item items ih =>
      rw [variablesOf, List.mem_append] at inside
      rcases inside with here | later
      · exact ⟨item, List.mem_cons_self, here⟩
      · obtain ⟨other, listed, inside⟩ := ih later
        exact ⟨other, List.mem_cons_of_mem _ listed, inside⟩

theorem mem_allVariables {x u : Value} (inside : x ∈ u.allVariables) :
    x = u ∨ ∃ part ∈ u.inner, x ∈ part.allVariables := by
  cases u with
  | typeVar v bound constraints =>
      simp only [allVariables, List.mem_singleton] at inside
      exact .inl inside
  | paramSpec v bound =>
      simp only [allVariables, List.mem_singleton] at inside
      exact .inl inside
  | annotated base metadata =>
      simp only [allVariables] at inside
      exact .inr ⟨base, List.mem_singleton_self base, inside⟩
  | applied head args =>
      simp only [allVariables] at inside
      exact .inr (mem_variablesOf inside)
  | indexed c args =>
      simp only [allVariables] at inside
      exact .inr (mem_variablesOf inside)
  | union members =>
      simp only [allVariables] at inside
      exact .inr (mem_variablesOf inside)
  | bars members =>
      simp only [allVariables] at inside
      exact .inr (mem_variablesOf inside)
  | _ => simp [allVariables] at inside

section

variable {Inside : Value → Prop}
  (closed : ∀ {u part}, Inside u → part ∈ u.inner → Inside part)

include closed

theorem inside_of_mem_allVariables {x : Value} :
    ∀ {u : Value}, Inside u → x ∈ u.allVariables → Inside x := by
  intro u
  induction size : sizeOf u using Nat.strongRecOn generalizing u with
  | ind n ih =>
      intro inside occurs
      rcases mem_allVariables occurs with rfl | ⟨part, within, occurs⟩
      · exact inside
      · have smaller := sizeOf_lt_of_mem_inner within
        exact ih _ (by omega) rfl (closed inside within) occurs

theorem compatible_of_closed : Compatible fun p p' => p = p' ∧ Inside p where
  isNoneType related := by rw [related.1]
  isEmptyTuple related := by rw [related.1]
  isEllipsis related := by rw [related.1]
  home related _ := by rw [related.1]
  equal_left related _ := by rw [related.1]
  allVariables := by
    rintro p _ ⟨rfl, inside⟩
    rw [List.forall₂_same]
    exact fun x occurs => ⟨⟨rfl, inside_of_mem_allVariables closed inside occurs⟩,
      fun _ => rfl⟩

end

end Value

namespace Scene

/--
The types that occur in an annotation: those inside it, and those in the values
of the aliases among them that have no reference.
-/
inductive Occurs (scene : Scene) (v : Value) : Value → Prop
  | here : Occurs scene v v
  | inside {u part : Value} (occurs : Occurs scene v u) (within : part ∈ u.inner) :
      Occurs scene v part
  | expansion {a : AliasRef} {value : Value} (occurs : Occurs scene v (.typeAlias a))
      (unnamed : a.reference? scene.registry scene.options = none)
      (found : scene.aliases.value? a.key = some value) : Occurs scene v value

theorem simulation_of_agree {scene : Scene} {table : AliasTable} {v : Value}
    (rules : scene.options.formatter = none)
    (agree : ∀ a, scene.Occurs v (.typeAlias a) →
      a.reference? scene.registry scene.options = none →
        table.value? a.key = scene.aliases.value? a.key) :
    scene.Simulation table fun u u' => u = u' ∧ scene.Occurs v u where
  alias? related := by rw [related.1]
  plan := by
    rintro u _ ⟨rfl, occurs⟩
    have parts : List.Forall₂ (fun u u' => u = u' ∧ scene.Occurs v u) u.inner u.inner :=
      List.forall₂_same.mpr fun part within => ⟨rfl, occurs.inside within⟩
    exact Plan.ofValue_parallel (Value.compatible_of_closed .inside) (.refl u) parts
      _ _ rules (.inr rfl)
  value := by
    rintro a ⟨-, occurs⟩ unnamed
    rw [agree a occurs unnamed]
    cases found : scene.aliases.value? a.key with
    | none => exact .none
    | some value => exact .some ⟨rfl, occurs.expansion unnamed found⟩

/-! ## The walk past an alias with a reference -/

theorem frame_of_reference {scene : Scene} (rules : scene.options.formatter = none)
    {v : Value} {next : Frame} {a : AliasRef} {reference : String}
    (built : scene.frame v = .ok next) (expanded : next.expanded = some a)
    (named : a.reference? scene.registry scene.options = some reference) :
    next.waiting = [] ∧ next.finish = fun _ => reference := by
  rw [frame_expanded built] at expanded
  cases typeAlias_of_alias? expanded
  have planned : scene.plan (.typeAlias a) = .ok (.text reference) := by
    simp only [plan, Plan.ofValue, rules, named]
  simp only [frame, planned, Except.ok.injEq] at built
  subst built
  exact ⟨rfl, rfl⟩

/-- The nodes of aliases with a reference wait for nothing, and give the reference. -/
def Walk.Referring (scene : Scene) (walk : Walk) : Prop :=
  ∀ frame ∈ walk.stack, ∀ a reference, frame.expanded = some a →
    a.reference? scene.registry scene.options = some reference →
      frame.waiting = [] ∧ frame.finish = fun _ => reference

theorem Walk.Referring.step {scene : Scene} (rules : scene.options.formatter = none)
    {walk next : Walk} (referring : walk.Referring scene)
    (stepped : scene.step walk = .ok (.running next)) : next.Referring scene := by
  cases move_of_step stepped with
  | finish done more =>
      exact fun frame here => referring frame (List.mem_cons_of_mem _ here)
  | cut asks met =>
      intro frame here a reference expanded named
      cases here with
      | head =>
          -- A node that asks for a part is not that of an alias with a reference.
          have idle := (referring _ List.mem_cons_self a reference expanded named).1
          rw [asks] at idle
          cases idle
      | tail _ here =>
          exact referring frame (List.mem_cons_of_mem _ here) a reference expanded named
  | ask asks unmet built =>
      intro frame here a reference expanded named
      cases here with
      | head => exact frame_of_reference rules built expanded named
      | tail _ here =>
          cases here with
          | head =>
              have idle := (referring _ List.mem_cons_self a reference expanded named).1
              rw [asks] at idle
              cases idle
          | tail _ here =>
              exact referring frame (List.mem_cons_of_mem _ here) a reference
                expanded named

theorem Reached.referring {scene : Scene} (rules : scene.options.formatter = none)
    {v : Value} {n : Nat} {walk : Walk} (reached : scene.Reached v n walk) :
    walk.Referring scene := by
  induction reached with
  | start built =>
      intro frame isRoot a reference expanded named
      cases List.mem_singleton.mp isRoot
      exact frame_of_reference rules built expanded named
  | step _ stepped ih => exact ih.step rules stepped

/--
What stands for an alias with a reference does not enter the rendering: it is
the same for all tables that agree on the other aliases that occur.  At every
step the node of such an alias waits for nothing and gives the reference, and no
node above it can be part of an expansion of it.
-/
theorem render_eq_of_agree {scene : Scene} {table : AliasTable} {v : Value}
    (rules : scene.options.formatter = none)
    (agree : ∀ a, scene.Occurs v (.typeAlias a) →
      a.reference? scene.registry scene.options = none →
        table.value? a.key = scene.aliases.value? a.key) :
    (scene.withAliases table).render v = scene.render v ∧
      ∀ n walk, scene.Reached v n walk → ∀ a reference,
        a.reference? scene.registry scene.options = some reference →
          (∀ frame ∈ walk.stack, frame.expanded = some a →
            frame.waiting = [] ∧ frame.finish = fun _ => reference) ∧
          ∀ frame ∈ walk.stack.tail, frame.expanded ≠ some a := by
  refine ⟨?_, ?_⟩
  · rw [render_eq, render_eq]
    exact (simulation_of_agree rules agree).renderAt [] ⟨rfl, .here⟩
  · intro n walk reached a reference named
    refine ⟨fun frame here expanded =>
      reached.referring rules frame here a reference expanded named,
      fun frame below expanded => ?_⟩
    rw [reached.opened.below frame below a expanded] at named
    cases named

/-- A scene in which one alias is documented; the other one stands for both, in turn. -/
def documented : Scene where
  options := { objects := some [("m.A", "type")], currentModule := "m" }
  aliases :=
    [("A", .tuple [.typeAlias crossingRight]),
     ("B", .tuple [.typeAlias crossingLeft, .typeAlias crossingRight])]

def replaced : AliasTable :=
  [("A", .forwardRef "Hidden"),
   ("B", .tuple [.typeAlias crossingLeft, .typeAlias crossingRight])]

theorem reference?_crossingLeft :
    crossingLeft.reference? documented.registry documented.options =
      some ":py:type:`~m.A`" := by
  decide

theorem occurs_documented {u : Value}
    (occurs : documented.Occurs (.typeAlias crossingRight) u) :
    u = .typeAlias crossingLeft ∨ u = .typeAlias crossingRight ∨
      u = .tuple [.typeAlias crossingLeft, .typeAlias crossingRight] := by
  induction occurs with
  | here => exact .inr (.inl rfl)
  | inside _ within ih =>
      rcases ih with rfl | rfl | rfl
      · cases within
      · cases within
      · simp only [Value.inner, List.mem_cons, List.not_mem_nil, or_false] at within
        exact within.imp_right .inl
  | expansion _ unnamed found ih =>
      rcases ih with isLeft | isRight | isTuple
      · cases isLeft
        rw [reference?_crossingLeft] at unnamed
        cases unnamed
      · cases isRight
        cases found
        exact .inr (.inr rfl)
      · cases isTuple

theorem render_documented : documented.render (.typeAlias crossingRight) =
    .ok "(:py:type:`~m.A`, :py:type:`~m.B`)" := by
  have left : documented.renderAt [crossingRight] (.typeAlias crossingLeft) =
      .ok ":py:type:`~m.A`" := by
    rw [renderAt_of_frame rfl rfl]
    rfl
  have cut : documented.renderAt [crossingRight] (.typeAlias crossingRight) =
      .ok ":py:type:`~m.B`" := by
    rw [renderAt_of_met rfl]
    rfl
  have both : documented.renderAt [crossingRight]
      (.tuple [.typeAlias crossingLeft, .typeAlias crossingRight]) =
        .ok "(:py:type:`~m.A`, :py:type:`~m.B`)" := by
    rw [renderAt_of_frame rfl rfl]
    change Except.map _ ([Value.typeAlias crossingLeft, .typeAlias crossingRight].mapM
      (documented.renderAt [crossingRight])) = _
    rw [List.mapM_cons, left, List.mapM_cons, cut]
    rfl
  rw [render_eq, renderAt_of_frame rfl rfl]
  change Except.map _
    ([Value.tuple [.typeAlias crossingLeft, .typeAlias crossingRight]].mapM
    (documented.renderAt [crossingRight])) = _
  rw [List.mapM_cons, both]
  rfl

/-- Other tables give the same text, in which the documented alias is a reference. -/
theorem render_eq_of_agree_documented :
    (documented.withAliases replaced).render (.typeAlias crossingRight) =
        .ok "(:py:type:`~m.A`, :py:type:`~m.B`)" ∧
      ∃ walk frame, documented.Reached (.typeAlias crossingRight) 2 walk ∧
        frame ∈ walk.stack ∧
        frame.expanded = some crossingLeft ∧ frame.waiting = [] := by
  have agree : ∀ a, documented.Occurs (.typeAlias crossingRight) (.typeAlias a) →
      a.reference? documented.registry documented.options = none →
        replaced.value? a.key = documented.aliases.value? a.key := by
    intro a occurs unnamed
    rcases occurs_documented occurs with isLeft | isRight | isTuple
    · cases isLeft
      rw [reference?_crossingLeft] at unnamed
      cases unnamed
    · cases isRight
      rfl
    · cases isTuple
  obtain ⟨same, steps⟩ := render_eq_of_agree rfl agree
  have second : documented.Reached (.typeAlias crossingRight) 2 _ :=
    .step (.step (.start rfl) rfl) rfl
  refine ⟨same.trans render_documented, _, _, second, .head _, rfl, ?_⟩
  exact ((steps 2 _ second crossingLeft _ reference?_crossingLeft).1 _ (.head _) rfl).1

end Scene

end DocHints
