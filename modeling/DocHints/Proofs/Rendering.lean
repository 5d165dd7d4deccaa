import DocHints.Annotation.Walk

/-!
# The stack renders what the recursion renders

A walk that is under way has an answer: the text that the recursion gives to the
stack, from the top node down, with the texts that are there already.  No step
changes the answer, so the walk ends with it.  The aliases of a sound stack are
the path of the recursion.
-/

namespace DocHints.Scene

/-! ## The recursion, node by node -/

theorem onPath?_nil (v : Value) : onPath? [] v = none := by
  cases v <;> rfl

theorem renderAt_of_met {scene : Scene} {path : List AliasRef} {v : Value}
    {a : AliasRef} (met : onPath? path v = some a) :
    scene.renderAt path v = .ok (scene.nameText a) := by
  rw [renderAt]
  split
  · rename_i b met'
    rw [met] at met'
    cases met'
    rfl
  · rename_i unmet
    rw [met] at unmet
    cases unmet

theorem renderAt_of_frame {scene : Scene} {path : List AliasRef} {v : Value}
    {next : Frame} (unmet : onPath? path v = none) (built : scene.frame v = .ok next) :
    scene.renderAt path v =
      (next.waiting.mapM (scene.renderAt (activate path v))).map next.finish := by
  rw [renderAt]
  split
  · rename_i a met
    rw [unmet] at met
    cases met
  · unfold frame at built
    generalize planned : scene.plan v = read at built ⊢
    cases read with
    | error failure => cases built
    | ok plan =>
        cases plan with
        | text s =>
            cases built
            rfl
        | expand a isAlias =>
            have activated : activate path v = a :: path := by
              rw [isAlias]
              rfl
            dsimp only at built ⊢
            split at built
            · cases built
            · rename_i value found
              cases built
              split
              · rename_i missing
                rw [found] at missing
                cases missing
              · rename_i other found'
                rw [found] at found'
                cases found'
                simp only [activated, List.mapM_cons, List.mapM_nil]
                cases scene.renderAt (a :: path) value <;> rfl
        | join parts finish =>
            cases built
            simp only [activate, alias?_eq_none_of_join planned, List.mapM_map]
            rfl

theorem renderAt_of_frame_error {scene : Scene} {path : List AliasRef} {v : Value}
    {failure : Failure} (unmet : onPath? path v = none)
    (failed : scene.frame v = .error failure) :
    scene.renderAt path v = .error failure := by
  rw [renderAt]
  split
  · rename_i a met
    rw [unmet] at met
    cases met
  · unfold frame at failed
    generalize scene.plan v = read at failed ⊢
    cases read with
    | error other =>
        cases failed
        rfl
    | ok plan =>
        cases plan with
        | text s => cases failed
        | expand a isAlias =>
            dsimp only at failed ⊢
            split at failed
            · rename_i missing
              cases failed
              split
              · rfl
              · rename_i found
                rw [missing] at found
                cases found
            · cases failed
        | join parts finish => cases failed

/-! ## The answer of a walk -/

/-- What a stack comes to by recursion, once its top node has taken the last text. -/
def answer (scene : Scene) : List Frame → Option String → Except Failure String
  | [], rendered => .ok (rendered.getD "")
  | top :: below, rendered =>
    match top.waiting.mapM (scene.renderAt (pathOf (top :: below))) with
    | .error failure => .error failure
    | .ok rest =>
      scene.answer below
        (some (top.finish ((rendered.toList ++ top.texts).reverse ++ rest)))

theorem frame_texts {scene : Scene} {v : Value} {next : Frame}
    (built : scene.frame v = .ok next) : next.texts = [] := by
  obtain ⟨waiting, finish, rfl⟩ := frame_eq_ok built
  rfl

theorem answer_start {scene : Scene} {v : Value} {root : Frame}
    (built : scene.frame v = .ok root) :
    scene.answer [root] none = scene.renderAt [] v := by
  rw [renderAt_of_frame (onPath?_nil v) built, answer, pathOf_root built,
    frame_texts built]
  cases root.waiting.mapM (scene.renderAt (activate [] v)) <;> rfl

theorem answer_asks {scene : Scene} {top : Frame} {below : List Frame}
    {rendered : Option String} {part : Value} {waiting : List Value}
    (asks : top.waiting = part :: waiting) : scene.answer (top :: below) rendered =
      match scene.renderAt (pathOf (top :: below)) part with
      | .error failure => .error failure
      | .ok text =>
        scene.answer
          ({ top with waiting := waiting, texts := rendered.toList ++ top.texts } ::
            below)
          (some text) := by
  simp only [answer, asks, List.mapM_cons, pathOf_resume]
  cases scene.renderAt (pathOf (top :: below)) part with
  | error failure => rfl
  | ok text =>
      cases waiting.mapM (scene.renderAt (pathOf (top :: below))) with
      | error failure => rfl
      | ok texts => simp [bind, Except.bind, pure, Except.pure]

/-! ## Aliases under expansion have no reference -/

/--
Every alias whose node waits for its value, or for what is above it, has no
reference.
-/
structure Walk.Opened (scene : Scene) (walk : Walk) : Prop where
  waiting : ∀ frame ∈ walk.stack, frame.waiting ≠ [] →
    ∀ a, frame.expanded = some a → a.reference? scene.registry scene.options = none
  below : ∀ frame ∈ walk.stack.tail,
    ∀ a, frame.expanded = some a → a.reference? scene.registry scene.options = none

theorem plan_typeAlias_expand {scene : Scene} {a b : AliasRef}
    {isAlias : Value.typeAlias a = .typeAlias b}
    (planned : scene.plan (.typeAlias a) = .ok (.expand b isAlias)) :
    a.reference? scene.registry scene.options = none := by
  simp only [plan, Plan.ofValue] at planned
  split at planned
  · split at planned
    · cases planned
    · assumption
  · split at planned
    · cases planned
    · cases planned
    · split at planned
      · cases planned
      · assumption

theorem reference?_of_frame {scene : Scene} {v : Value} {next : Frame} {a : AliasRef}
    (built : scene.frame v = .ok next) (asks : next.waiting ≠ [])
    (expanded : next.expanded = some a) :
    a.reference? scene.registry scene.options = none := by
  rw [frame_expanded built] at expanded
  cases typeAlias_of_alias? expanded
  unfold frame at built
  split at built
  · cases built
  · cases built
    exact absurd rfl asks
  · rename_i b isAlias planned
    exact plan_typeAlias_expand planned
  · rename_i parts finish planned
    exact absurd planned (plan_typeAlias_ne_join scene a parts finish)

theorem Walk.Opened.start {scene : Scene} {v : Value} {root : Frame}
    (built : scene.frame v = .ok root) : (start v root).Opened scene where
  waiting frame isRoot asks a expanded := by
    cases List.mem_singleton.mp isRoot
    exact reference?_of_frame built asks expanded
  below frame isBelow := by cases isBelow

theorem Walk.Opened.step {scene : Scene} {walk next : Walk} (opened : walk.Opened scene)
    (stepped : scene.step walk = .ok (.running next)) : next.Opened scene := by
  obtain ⟨waiting, below⟩ := opened
  cases move_of_step stepped with
  | finish done more =>
      exact ⟨fun frame here _ => below frame here,
        fun frame here => below frame (List.mem_of_mem_tail here)⟩
  | @cut top rest rendered active part others a asks met =>
      -- The top node may be done waiting after this, but it was waiting before.
      have top_waits :=
        waiting top List.mem_cons_self (by rw [asks]; exact List.cons_ne_nil _ _)
      refine ⟨fun frame here _ => ?_, below⟩
      cases here with
      | head => exact top_waits
      | tail _ here => exact below frame here
  | @ask top asked rest rendered active part others asks unmet built =>
      have top_waits :=
        waiting top List.mem_cons_self (by rw [asks]; exact List.cons_ne_nil _ _)
      have tail : ∀ frame ∈ { top with
            waiting := others
            texts := rendered.toList ++ top.texts } :: rest,
          ∀ a, frame.expanded = some a →
            a.reference? scene.registry scene.options = none := by
        intro frame here
        cases here with
        | head => exact top_waits
        | tail _ here => exact below frame here
      refine ⟨fun frame here asks' => ?_, tail⟩
      cases here with
      | head => exact fun a => reference?_of_frame built asks'
      | tail _ here => exact tail frame here

theorem mem_of_onPath? {path : List AliasRef} {v : Value} {a : AliasRef}
    (met : onPath? path v = some a) : a ∈ path := by
  cases v <;> simp only [onPath?, reduceCtorEq] at met
  exact List.mem_of_find?_eq_some met

theorem mem_pathOf {stack : List Frame} {a : AliasRef} :
    a ∈ pathOf stack ↔ ∃ frame ∈ stack, frame.expanded = some a := by
  simp [pathOf]

theorem Walk.Opened.reference? {scene : Scene} {top : Frame} {below : List Frame}
    {rendered : Option String} {part : Value} {waiting : List Value} {a : AliasRef}
    (opened : Walk.Opened scene ⟨top :: below, rendered, pathOf (top :: below)⟩)
    (asks : top.waiting = part :: waiting)
    (met : onPath? (pathOf (top :: below)) part = some a) :
    a.reference? scene.registry scene.options = none := by
  obtain ⟨frame, here, expanded⟩ := mem_pathOf.mp (mem_of_onPath? met)
  cases here with
  | head => exact opened.waiting top List.mem_cons_self (by simp [asks]) a expanded
  | tail _ here => exact opened.below frame here a expanded

/-! ## The walk -/

theorem answer_move {scene : Scene} {walk next : Walk} (sound : walk.Sound)
    (opened : walk.Opened scene) (moved : scene.Move walk next) :
    scene.answer next.stack next.rendered = scene.answer walk.stack walk.rendered := by
  cases moved with
  | finish done more => simp [answer, done, pure, Except.pure]
  | @cut top below rendered active part waiting a asks met =>
      obtain rfl : active = pathOf (top :: below) := sound.active_eq
      have unnamed := opened.reference? asks met
      simp only [answer_asks asks, renderAt_of_met met, cycleText,
        AliasRef.cycleText, unnamed, Option.getD_none, nameText]
  | @ask top asked below rendered active part waiting asks unmet built =>
      obtain rfl : active = pathOf (top :: below) := sound.active_eq
      rw [answer_asks asks, renderAt_of_frame unmet built, answer, pathOf_ask built,
        frame_texts built]
      cases asked.waiting.mapM
        (scene.renderAt (activate (pathOf (top :: below)) part)) <;> rfl

theorem answer_of_error {scene : Scene} {walk : Walk} {failure : Failure}
    (sound : walk.Sound) (failed : scene.step walk = .error failure) :
    scene.answer walk.stack walk.rendered = .error failure := by
  obtain ⟨stack, rendered, active⟩ := walk
  cases stack with
  | nil => cases failed
  | cons top below =>
      obtain rfl : active = pathOf (top :: below) := sound.active_eq
      simp only [step] at failed
      split at failed
      · split at failed <;> cases failed
      · rename_i part waiting asks
        split at failed
        · cases failed
        · rename_i unmet
          split at failed
          · rename_i failed'
            cases failed
            simp only [answer_asks asks, renderAt_of_frame_error unmet failed']
          · cases failed

theorem answer_of_finished {scene : Scene} {walk : Walk} {text : String}
    (ended : scene.step walk = .ok (.finished text)) :
    scene.answer walk.stack walk.rendered = .ok text := by
  obtain ⟨stack, rendered, active⟩ := walk
  cases stack with
  | nil =>
      cases ended
      rfl
  | cons top below =>
      simp only [step] at ended
      split at ended
      · rename_i done
        split at ended
        · rename_i last
          cases List.isEmpty_iff.mp last
          cases ended
          simp [answer, done, pure, Except.pure]
        · cases ended
      · split at ended
        · cases ended
        · split at ended <;> cases ended

theorem loop_eq_answer {scene : Scene} {walk : Walk} (sound : walk.Sound)
    (opened : walk.Opened scene) :
    scene.loop walk sound = scene.answer walk.stack walk.rendered := by
  -- The induction is on the steps that the loop takes; each of them keeps the answer.
  fun_induction loop scene walk sound with
  | case1 walk sound failure failed => exact (answer_of_error sound failed).symm
  | case2 walk sound text ended => exact (answer_of_finished ended).symm
  | case3 walk sound next stepped ih =>
      rw [ih (opened.step stepped), answer_move sound opened (move_of_step stepped)]

theorem render_eq (scene : Scene) (v : Value) :
    scene.render v = scene.renderAt [] v := by
  unfold render
  split
  · rename_i failed
    exact (renderAt_of_frame_error (onPath?_nil v) failed).symm
  · rename_i root built
    rw [loop_eq_answer (.start built) (.start built)]
    exact answer_start built

/-! ## The walks that are met -/

/--
`Reached scene v n walk` says that `walk` is met after `n` steps of rendering
`v`.
-/
inductive Reached (scene : Scene) (v : Value) : Nat → Walk → Prop
  | start {root : Frame} (built : scene.frame v = .ok root) : Reached scene v 0
    (start v root)
  | step {n : Nat} {walk next : Walk} (reached : Reached scene v n walk)
      (stepped : scene.step walk = .ok (.running next)) : Reached scene v (n + 1) next

namespace Reached

theorem sound {scene : Scene} {v : Value} {n : Nat} {walk : Walk}
    (reached : scene.Reached v n walk) : walk.Sound := by
  induction reached with
  | start built => exact .start built
  | step _ stepped ih => exact ih.step stepped

theorem opened {scene : Scene} {v : Value} {n : Nat} {walk : Walk}
    (reached : scene.Reached v n walk) : walk.Opened scene := by
  induction reached with
  | start built => exact .start built
  | step _ stepped ih => exact ih.step stepped

/--
The steps that were taken and those that are left make up the cost of the
annotation.
-/
theorem steps_add_remaining {scene : Scene} {v : Value} {n : Nat} {walk : Walk}
    (reached : scene.Reached v n walk) :
    n + scene.remaining walk.stack + 1 = scene.cost [] v := by
  induction reached with
  | @start root built =>
      rw [cost_of_frame (onPath?_nil v) built]
      simp only [Scene.start, remaining, pathOf_root built]
      omega
  | step reached stepped ih =>
      have taken := remaining_step reached.sound stepped
      omega

/--
From every walk that is met, the loop goes on to a last step that gives its
result.
-/
theorem ends {scene : Scene} {v : Value} {n : Nat} {walk : Walk} (sound : walk.Sound)
    (reached : scene.Reached v n walk) :
    ∃ m last, scene.Reached v m last ∧
      ((∃ text, scene.step last = .ok (.finished text) ∧
        scene.loop walk sound = .ok text) ∨
        ∃ failure, scene.step last = .error failure ∧
          scene.loop walk sound = .error failure) := by
  fun_induction loop scene walk sound generalizing n with
  | case1 walk sound failure failed =>
      exact ⟨n, walk, reached, .inr ⟨failure, failed, rfl⟩⟩
  | case2 walk sound text ended => exact ⟨n, walk, reached, .inl ⟨text, ended, rfl⟩⟩
  | case3 walk sound next stepped ih => exact ih (reached.step stepped)

end Reached

theorem render_of_frame {scene : Scene} {v : Value} {root : Frame}
    (built : scene.frame v = .ok root) :
    scene.render v = scene.loop (start v root) (.start built) := by
  unfold render
  split
  · rename_i failed
    rw [built] at failed
    cases failed
  · rename_i other built'
    rw [built] at built'
    cases built'
    rfl

theorem render_of_text {scene : Scene} {v : Value} {s : String}
    (planned : scene.plan v = .ok (.text s)) : scene.render v = .ok s := by
  have built : scene.frame v = .ok ⟨alias? v, [], [], fun _ => s⟩ := by
    simp [frame, planned]
  rw [render_eq, renderAt_of_frame (onPath?_nil v) built]
  rfl

/--
The walk renders what the recursion renders, text or failure.  At every step its
record is the set of aliases on its stack, so that a part is cut exactly if an
ancestor of it is the same alias; and an alias that is cut has no reference, so
that its name is what is left of it.
-/
theorem render_eq_renderAt (scene : Scene) (v : Value) :
    scene.render v = scene.renderAt [] v ∧
      ∀ n walk, scene.Reached v n walk →
        (∀ a, a ∈ walk.active ↔ ∃ frame ∈ walk.stack, frame.expanded = some a) ∧
        ∀ top below part waiting, walk.stack = top :: below →
          top.waiting = part :: waiting →
          (∀ b, part = .typeAlias b →
            ((∃ a, onPath? walk.active part = some a) ↔
              ∃ frame ∈ walk.stack, ∃ a, frame.expanded = some a ∧ a.key = b.key)) ∧
          ∀ a, onPath? walk.active part = some a →
            a.reference? scene.registry scene.options = none ∧
              scene.cycleText a = scene.nameText a := by
  refine ⟨render_eq scene v, ?_⟩
  rintro n ⟨stack, rendered, active⟩ reached
  obtain rfl : active = pathOf stack := reached.sound.active_eq
  refine ⟨fun a => mem_pathOf, ?_⟩
  rintro top below part waiting rfl asks
  refine ⟨?_, fun a met => ?_⟩
  · rintro b rfl
    simp only [onPath?, ← Option.isSome_iff_exists, List.find?_isSome, mem_pathOf,
      beq_iff_eq]
    constructor
    · rintro ⟨a, ⟨frame, here, expanded⟩, same⟩
      exact ⟨frame, here, a, expanded, same⟩
    · rintro ⟨frame, here, a, expanded, same⟩
      exact ⟨a, ⟨frame, here, expanded⟩, same⟩
  · have unnamed := reached.opened.reference? asks met
    exact ⟨unnamed, by simp [cycleText, AliasRef.cycleText, unnamed, nameText]⟩

def crossingLeft : AliasRef := ⟨"A", "m", "A"⟩

def crossingRight : AliasRef := ⟨"B", "m", "B"⟩

def crossing : Scene where
  aliases :=
    [("A", .tuple [.typeAlias crossingRight, .typeAlias crossingRight]),
     ("B", .tuple [.typeAlias crossingLeft])]

theorem renderAt_crossing : crossing.renderAt [] (.typeAlias crossingLeft) =
    .ok "((:py:type:`~m.A`, ), (:py:type:`~m.A`, ))" := by
  have cut : crossing.renderAt [crossingRight, crossingLeft] (.typeAlias crossingLeft) =
      .ok ":py:type:`~m.A`" := by
    rw [renderAt_of_met rfl]
    rfl
  have inside : crossing.renderAt [crossingRight, crossingLeft]
      (.tuple [.typeAlias crossingLeft]) = .ok "(:py:type:`~m.A`, )" := by
    rw [renderAt_of_frame rfl rfl]
    change Except.map _ ([Value.typeAlias crossingLeft].mapM
      (crossing.renderAt [crossingRight, crossingLeft])) = _
    rw [List.mapM_cons, cut]
    rfl
  have right : crossing.renderAt [crossingLeft] (.typeAlias crossingRight) =
      .ok "(:py:type:`~m.A`, )" := by
    rw [renderAt_of_frame rfl rfl]
    change Except.map _ ([Value.tuple [.typeAlias crossingLeft]].mapM
      (crossing.renderAt [crossingRight, crossingLeft])) = _
    rw [List.mapM_cons, inside]
    rfl
  have both : crossing.renderAt [crossingLeft]
      (.tuple [.typeAlias crossingRight, .typeAlias crossingRight]) =
        .ok "((:py:type:`~m.A`, ), (:py:type:`~m.A`, ))" := by
    rw [renderAt_of_frame rfl rfl]
    change Except.map _ ([Value.typeAlias crossingRight, .typeAlias crossingRight].mapM
      (crossing.renderAt [crossingLeft])) = _
    rw [List.mapM_cons, List.mapM_cons, right]
    rfl
  rw [renderAt_of_frame rfl rfl]
  change Except.map _
    ([Value.tuple [.typeAlias crossingRight, .typeAlias crossingRight]].mapM
    (crossing.renderAt [crossingLeft])) = _
  rw [List.mapM_cons, both]
  rfl

/--
Both occurrences of the one alias are expanded, and the other is cut inside each
of them.
-/
theorem render_eq_renderAt_crossing :
    crossing.render (.typeAlias crossingLeft) =
        .ok "((:py:type:`~m.A`, ), (:py:type:`~m.A`, ))" ∧
      ∃ walk, crossing.Reached (.typeAlias crossingLeft) 3 walk ∧
        crossingLeft ∈ walk.active ∧
        crossingLeft.reference? crossing.registry crossing.options = none := by
  obtain ⟨same, reached⟩ := render_eq_renderAt crossing (.typeAlias crossingLeft)
  have third : crossing.Reached (.typeAlias crossingLeft) 3 _ :=
    .step (.step (.step (.start rfl) rfl) rfl) rfl
  obtain ⟨record, cut⟩ := reached 3 _ third
  refine ⟨same.trans renderAt_crossing, _, third, (record _).mpr ?_, ?_⟩
  · exact ⟨_, .tail _ (.tail _ (.tail _ (.head _))), rfl⟩
  · exact ((cut _ _ _ _ rfl rfl).2 crossingLeft rfl).1

/--
The walk ends: no run of it is as long as the cost of the annotation, and it
goes on to a last step, which gives the result.  No alias stands twice on a
stack that is met.
-/
theorem walk_ends (scene : Scene) (v : Value) :
    (∀ n walk, scene.Reached v n walk →
      n < scene.cost [] v ∧ ((pathOf walk.stack).map AliasRef.key).Nodup) ∧
      ∀ root, scene.frame v = .ok root → ∃ n last, scene.Reached v n last ∧
        ((∃ text, scene.step last = .ok (.finished text) ∧ scene.render v = .ok text) ∨
          ∃ failure, scene.step last = .error failure ∧
            scene.render v = .error failure) := by
  constructor
  · intro n walk reached
    have steps := reached.steps_add_remaining
    exact ⟨by omega, reached.sound.distinct⟩
  · intro root built
    rw [render_of_frame built]
    exact Reached.ends (.start built) (.start built)

theorem walk_ends_crossing :
    (∃ walk, crossing.Reached (.typeAlias crossingLeft) 3 walk ∧
      3 < crossing.cost [] (.typeAlias crossingLeft) ∧
        ((pathOf walk.stack).map AliasRef.key).Nodup) ∧
      ∃ n last, crossing.Reached (.typeAlias crossingLeft) n last ∧
        ((∃ text, crossing.step last = .ok (.finished text) ∧
            crossing.render (.typeAlias crossingLeft) = .ok text) ∨
          ∃ failure, crossing.step last = .error failure ∧
            crossing.render (.typeAlias crossingLeft) = .error failure) := by
  obtain ⟨bounded, ends⟩ := walk_ends crossing (.typeAlias crossingLeft)
  have third : crossing.Reached (.typeAlias crossingLeft) 3 _ :=
    .step (.step (.step (.start rfl) rfl) rfl) rfl
  exact ⟨⟨_, third, bounded 3 _ third⟩, ends _ rfl⟩

end DocHints.Scene
