import DocHints.Annotation.Render

/-!
# Rendering annotations with a stack

`render` walks over an annotation with an explicit stack of suspended nodes and
a record of the aliases that are being expanded: an alias inside its own
expansion becomes a reference to its name.

A walk is sound if the record holds exactly the aliases of the stack, each of
them once.  Every step keeps it so, and every step of a sound walk leaves one
step less to go, which ends the loop.
-/

namespace DocHints.Scene

def cycleText (scene : Scene) (a : AliasRef) : String :=
  a.cycleText scene.registry scene.options

/-! ## Nodes -/

/--
A suspended node: the parts it still waits for and the texts it has, the latest
first.
-/
structure Frame where
  expanded : Option AliasRef
  waiting : List Value
  texts : List String
  finish : List String → String

def alias? : Value → Option AliasRef
  | .typeAlias a => some a
  | _ => none

def frame (scene : Scene) (v : Value) : Except Failure Frame :=
  match scene.plan v with
  | .error failure => .error failure
  | .ok (.text s) => .ok ⟨alias? v, [], [], fun _ => s⟩
  | .ok (.expand a _) =>
    match scene.aliases.value? a.key with
    | none => .error (.missingKey (.str a.key))
    | some value => .ok ⟨alias? v, [value], [], fun texts => texts.headD ""⟩
  | .ok (.join parts finish) => .ok ⟨alias? v, parts.map (·.1), [], finish⟩

/-! ## Steps -/

structure Walk where
  stack : List Frame
  rendered : Option String
  active : List AliasRef

def activate (active : List AliasRef) (v : Value) : List AliasRef :=
  (alias? v).toList ++ active

def deactivate (active : List AliasRef) : Option AliasRef → List AliasRef
  | some a => active.filter (·.key != a.key)
  | none => active

inductive Progress where
  | running (walk : Walk)
  | finished (text : String)

/--
One step: hands the last text to the top node, which asks for its next part or
finishes.
-/
def step (scene : Scene) (walk : Walk) : Except Failure Progress :=
  match walk.stack with
  | [] => .ok (.finished (walk.rendered.getD ""))
  | top :: below =>
    let texts := walk.rendered.toList ++ top.texts
    match top.waiting with
    | [] =>
      let text := top.finish texts.reverse
      if below.isEmpty then .ok (.finished text)
      else .ok (.running ⟨below, some text, deactivate walk.active top.expanded⟩)
    | part :: waiting =>
      let top := { top with waiting := waiting, texts := texts }
      match onPath? walk.active part with
      | some a => .ok (.running ⟨top :: below, some (scene.cycleText a), walk.active⟩)
      | none =>
        match scene.frame part with
        | .error failure => .error failure
        | .ok next =>
          .ok (.running ⟨next :: top :: below, none, activate walk.active part⟩)

def start (v : Value) (root : Frame) : Walk :=
  ⟨[root], none, activate [] v⟩

/-! ## The aliases of the stack -/

def pathOf (stack : List Frame) : List AliasRef :=
  stack.filterMap (·.expanded)

/-- The record of a walk is the path of its stack, and no alias stands on it twice. -/
structure Walk.Sound (walk : Walk) : Prop where
  active_eq : walk.active = pathOf walk.stack
  distinct : ((pathOf walk.stack).map AliasRef.key).Nodup

theorem pathOf_cons (top : Frame) (below : List Frame) :
    pathOf (top :: below) = top.expanded.toList ++ pathOf below := by
  cases expanded : top.expanded <;> simp [pathOf, expanded]

theorem pathOf_resume (top : Frame) (below : List Frame) (waiting : List Value)
    (texts : List String) :
    pathOf ({ top with waiting := waiting, texts := texts } :: below) =
      pathOf (top :: below) :=
  rfl

theorem typeAlias_of_alias? {v : Value} {a : AliasRef} (isAlias : alias? v = some a) :
    v = .typeAlias a := by
  cases v <;> simp only [alias?, Option.some.injEq, reduceCtorEq] at isAlias
  rw [isAlias]

theorem frame_eq_ok {scene : Scene} {v : Value} {next : Frame}
    (built : scene.frame v = .ok next) :
    ∃ waiting finish, next = ⟨alias? v, waiting, [], finish⟩ := by
  unfold frame at built
  split at built
  · cases built
  · cases built
    exact ⟨_, _, rfl⟩
  · split at built
    · cases built
    · cases built
      exact ⟨_, _, rfl⟩
  · cases built
    exact ⟨_, _, rfl⟩

theorem frame_expanded {scene : Scene} {v : Value} {next : Frame}
    (built : scene.frame v = .ok next) : next.expanded = alias? v := by
  obtain ⟨waiting, finish, rfl⟩ := frame_eq_ok built
  rfl

theorem pathOf_root {scene : Scene} {v : Value} {root : Frame}
    (built : scene.frame v = .ok root) : pathOf [root] = activate [] v := by
  rw [pathOf_cons, frame_expanded built]
  rfl

inductive Move (scene : Scene) : Walk → Walk → Prop
  | finish {top : Frame} {below : List Frame} {rendered : Option String}
      {active : List AliasRef} (done : top.waiting = []) (more : below ≠ []) :
      Move scene ⟨top :: below, rendered, active⟩
        ⟨below, some (top.finish (rendered.toList ++ top.texts).reverse),
          deactivate active top.expanded⟩
  | cut {top : Frame} {below : List Frame} {rendered : Option String}
      {active : List AliasRef} {part : Value} {waiting : List Value} {a : AliasRef}
      (asks : top.waiting = part :: waiting) (met : onPath? active part = some a) :
      Move scene ⟨top :: below, rendered, active⟩
        ⟨{ top with waiting := waiting, texts := rendered.toList ++ top.texts } ::
          below, some (scene.cycleText a), active⟩
  | ask {top next : Frame} {below : List Frame} {rendered : Option String}
      {active : List AliasRef} {part : Value} {waiting : List Value}
      (asks : top.waiting = part :: waiting) (unmet : onPath? active part = none)
      (built : scene.frame part = .ok next) :
      Move scene ⟨top :: below, rendered, active⟩
        ⟨next :: { top with
            waiting := waiting
            texts := rendered.toList ++ top.texts } :: below,
          none, activate active part⟩

theorem move_of_step {scene : Scene} {walk next : Walk}
    (stepped : scene.step walk = .ok (.running next)) : scene.Move walk next := by
  obtain ⟨stack, rendered, active⟩ := walk
  cases stack with
  | nil => cases stepped
  | cons top below =>
      simp only [step] at stepped
      split at stepped
      · rename_i done
        split at stepped
        · cases stepped
        · rename_i more
          cases stepped
          exact .finish done (by simpa using more)
      · rename_i part waiting asks
        split at stepped
        · rename_i a met
          cases stepped
          exact .cut asks met
        · rename_i unmet
          split at stepped
          · cases stepped
          · rename_i asked built
            cases stepped
            exact .ask asks unmet built

/-! ## What a step keeps -/

theorem deactivate_pathOf {top : Frame} {below : List Frame}
    (distinct : ((pathOf (top :: below)).map AliasRef.key).Nodup) :
    deactivate (pathOf (top :: below)) top.expanded = pathOf below := by
  rw [pathOf_cons] at distinct ⊢
  cases expanded : top.expanded with
  | none => simp [deactivate]
  | some a =>
      simp only [expanded, Option.toList_some, List.cons_append, List.nil_append,
        List.map_cons, List.nodup_cons, List.mem_map, not_exists, not_and] at distinct
      simp only [deactivate, Option.toList_some, List.cons_append, List.nil_append,
        List.filter_cons, bne_self_eq_false, Bool.false_eq_true, if_false]
      apply List.filter_eq_self.mpr
      intro b onPath
      simpa using distinct.1 b onPath

theorem pathOf_ask {scene : Scene} {next top : Frame} {below : List Frame}
    {part : Value} {waiting : List Value} {texts : List String}
    (built : scene.frame part = .ok next) :
    pathOf (next :: { top with waiting := waiting, texts := texts } :: below) =
      activate (pathOf (top :: below)) part := by
  rw [pathOf_cons, frame_expanded built]
  rfl

theorem onPath?_eq_none {path : List AliasRef} {v : Value} {a : AliasRef}
    (unmet : onPath? path v = none) (isAlias : alias? v = some a) :
    a.key ∉ path.map AliasRef.key := by
  cases typeAlias_of_alias? isAlias
  simpa [onPath?] using unmet

theorem Walk.Sound.step {scene : Scene} {walk next : Walk} (sound : walk.Sound)
    (stepped : scene.step walk = .ok (.running next)) : next.Sound := by
  obtain ⟨active_eq, distinct⟩ := sound
  cases move_of_step stepped with
  | finish done more =>
      simp only at active_eq distinct
      subst active_eq
      have path := deactivate_pathOf distinct
      refine ⟨path, ?_⟩
      rw [pathOf_cons, List.map_append, List.nodup_append] at distinct
      exact distinct.2.1
  | cut asks met => exact ⟨active_eq, distinct⟩
  | @ask top asked below _ _ part waiting asks unmet built =>
      simp only at active_eq distinct
      subst active_eq
      refine ⟨(pathOf_ask built).symm, ?_⟩
      rw [pathOf_ask built, activate]
      cases isAlias : alias? part with
      | none => simpa using distinct
      | some a => exact List.nodup_cons.mpr ⟨onPath?_eq_none unmet isAlias, distinct⟩

theorem Walk.Sound.start {scene : Scene} {v : Value} {root : Frame}
    (built : scene.frame v = .ok root) : (start v root).Sound := by
  refine ⟨(pathOf_root built).symm, ?_⟩
  simp only [Scene.start, pathOf_root built, activate]
  cases alias? v <;> simp

/-! ## The end of a walk -/

theorem plan_typeAlias_ne_join (scene : Scene) (a : AliasRef)
    (parts : List (Value.Part (.typeAlias a))) (finish : List String → String) :
    scene.plan (.typeAlias a) ≠ .ok (.join parts finish) := by
  intro planned
  simp only [plan, Plan.ofValue] at planned
  split at planned
  · split at planned <;> cases planned
  · split at planned
    · cases planned
    · cases planned
    · split at planned <;> cases planned

theorem alias?_eq_none_of_join {scene : Scene} {v : Value} {parts : List (Value.Part v)}
    {finish : List String → String}
    (planned : scene.plan v = .ok (.join parts finish)) : alias? v = none := by
  cases v with
  | typeAlias a => exact absurd planned (plan_typeAlias_ne_join scene a parts finish)
  | _ => rfl

theorem cost_of_met {scene : Scene} {path : List AliasRef} {v : Value} {a : AliasRef}
    (met : onPath? path v = some a) : scene.cost path v = 1 := by
  rw [cost]
  split
  · rfl
  · rename_i unmet
    rw [met] at unmet
    cases unmet

theorem cost_of_frame {scene : Scene} {path : List AliasRef} {v : Value} {next : Frame}
    (unmet : onPath? path v = none) (built : scene.frame v = .ok next) :
    scene.cost path v =
      totalOf (next.waiting.map (scene.cost (activate path v))) + 2 := by
  rw [cost]
  split
  · rename_i a met
    rw [unmet] at met
    cases met
  · unfold frame at built
    generalize planned : scene.plan v = read at built ⊢
    cases read with
    | error failure => cases built
    | ok plan =>
        cases plan with
        | text s =>
            cases built
            simp [totalOf]
        | expand a isAlias =>
            have activated : activate path v = a :: path := by
              rw [isAlias]
              rfl
            dsimp only at built ⊢
            split at built
            · cases built
            · rename_i value found
              cases built
              split
              · rename_i missing
                rw [found] at missing
                cases missing
              · rename_i other found'
                rw [found] at found'
                cases found'
                simp [activated, totalOf]
        | join parts finish =>
            cases built
            simp [activate, alias?_eq_none_of_join planned]

def remaining (scene : Scene) : List Frame → Nat
  | [] => 0
  | top :: below =>
    totalOf (top.waiting.map
      (scene.cost (pathOf (top :: below)))) + 1 + scene.remaining below

theorem remaining_step {scene : Scene} {walk next : Walk} (sound : walk.Sound)
    (stepped : scene.step walk = .ok (.running next)) :
    scene.remaining walk.stack = scene.remaining next.stack + 1 := by
  obtain ⟨active_eq, distinct⟩ := sound
  cases move_of_step stepped with
  | finish done more => simp [remaining, totalOf, done, Nat.add_comm]
  | @cut top below rendered _ part waiting a asks met =>
      simp only at active_eq
      subst active_eq
      simp only [remaining, asks, List.map_cons, totalOf, cost_of_met met,
        pathOf_resume]
      omega
  | @ask top asked below rendered _ part waiting asks unmet built =>
      simp only at active_eq
      subst active_eq
      simp only [remaining, asks, List.map_cons, totalOf, cost_of_frame unmet built,
        pathOf_ask built, pathOf_resume]
      omega

def loop (scene : Scene) (walk : Walk) (sound : walk.Sound) : Except Failure String :=
  match stepped : scene.step walk with
  | .error failure => .error failure
  | .ok (.finished text) => .ok text
  | .ok (.running next) => scene.loop next (sound.step stepped)
termination_by scene.remaining walk.stack
decreasing_by
  rw [remaining_step sound stepped]
  exact Nat.lt_succ_self _

def render (scene : Scene) (v : Value) : Except Failure String :=
  match built : scene.frame v with
  | .error failure => .error failure
  | .ok root => scene.loop (start v root) (.start built)

end DocHints.Scene
