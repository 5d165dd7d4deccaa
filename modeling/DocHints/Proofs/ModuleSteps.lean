import DocHints.Hints.Resolve

/-!
# Guarded imports at a module

What the steps that resolve guarded imports do for a module.  Its source is that
of the file it was loaded from, a failed block only leaves a warning, and a
block that changes nothing ends as the engine says.
-/

namespace DocHints.Hints

open Program

/-! ## Running one thing after another -/

section

variable {σ α β : Type} {x : Step σ α} {next : α → Step σ β} {w w' : σ}

theorem run_bind {a : α} (first : x.run.run w = (.ok a, w')) :
    (x >>= next).run.run w = (next a).run.run w' := by
  simp only [ExceptT.run_bind, StateT.run_bind, first]
  rfl

theorem run_bind_error {f : Failure} (first : x.run.run w = (.error f, w')) :
    (x >>= next).run.run w = (.error f, w') := by
  simp only [ExceptT.run_bind, StateT.run_bind, first]
  rfl

theorem Step.attempt_run {r : Except Failure α} (run : x.run.run w = (r, w')) :
    x.attempt.run.run w = (.ok r, w') := by
  simp only [Step.attempt, ExceptT.run_lift, StateT.run_map, run]
  rfl

theorem run_attempt {x : Run α} {w w' : World} {r : Except Failure α}
    (run : x.run.run w = (r, w')) : x.attempt.run.run w = (.ok r, w') :=
  Step.attempt_run run

theorem ofOutcome_run (r : Except Failure α) (w : World) :
    (Run.ofOutcome r).run.run w = (r, w) := by
  cases r <;> rfl

end

/-! ## Sources -/

def moduleOrigin : Option Value → Except Failure Program.Origin
  | some (.str file) => .ok ⟨file, some (0, 0)⟩
  | _ => .error (.misuse "a module, class, method or function was expected")

def readText (source : String) : Except Failure String :=
  if source.isEmpty then .error (.unavailable "could not get source code")
  else .ok (if Text.endsWith "\n" source then source else source ++ "\n")

def moduleSource (w : World) (name : String) : Except Failure String :=
  (moduleOrigin (w.moduleName? name "__file__")).bind fun origin =>
    readText ((w.file? origin.file).getD "")

section

variable {engine : Engine} {replaced : List String} {name : String} {w : World}

theorem originOf_module :
    (originOf (.module name)).run.run w =
      (moduleOrigin (w.moduleName? name "__file__"), w) := by
  unfold originOf
  simp only [ExceptT.run_bind, StateT.run_bind]
  change Id.run (StateT.run (ExceptT.run _) w) = _
  cases w.moduleName? name "__file__" with
  | none => rfl
  | some v => cases v <;> rfl

theorem moduleOrigin_cases (found : Option Value) :
    (∃ file, moduleOrigin found = .ok ⟨file, some (0, 0)⟩) ∨
      ∃ f, moduleOrigin found = .error f ∧ f.kind = .type := by
  cases found with
  | none => exact .inr ⟨_, rfl, rfl⟩
  | some v =>
      cases v with
      | str file => exact .inl ⟨file, rfl⟩
      | _ => exact .inr ⟨_, rfl, rfl⟩

theorem sourceOf_module :
    (sourceOf engine (.module name)).run.run w = (moduleSource w name, w) := by
  have opened : sourceOf engine (.module name) = originOf (.module name) >>= _ := rfl
  rw [opened]
  have origin : (originOf (.module name)).run.run w = _ := originOf_module
  unfold moduleSource
  rcases moduleOrigin_cases (w.moduleName? name "__file__")
      with ⟨file, found⟩ | ⟨f, found, -⟩
  · rw [found] at origin ⊢
    rw [run_bind origin]
    simp only [ExceptT.run_bind, StateT.run_bind]
    change Id.run (StateT.run (ExceptT.run (if _ then _ else _)) w) = (readText _, w)
    unfold readText
    split <;> rfl
  · rw [found] at origin ⊢
    exact run_bind_error origin

theorem moduleOf?_module :
    (moduleOf? engine (.module name)).run.run w = (.ok (some name), w) := rfl

theorem isSourceFailure_of_moduleSource {f : Failure}
    (failed : moduleSource w name = .error f) : isSourceFailure f = true := by
  unfold moduleSource at failed
  rcases moduleOrigin_cases (w.moduleName? name "__file__")
      with ⟨file, found⟩ | ⟨g, found, kind⟩
  · rw [found] at failed
    simp only [Except.bind, readText] at failed
    split at failed <;> cases failed
    rfl
  · rw [found] at failed
    cases failed
    simp [isSourceFailure, kind]

theorem source?_module :
    ((guardSteps engine replaced).source? (.module name)).run.run w =
      (.ok ((moduleSource w name).toOption.map fun source => (name, source)), w) := by
  have opened : (guardSteps engine replaced).source? (.module name) =
    moduleOf? engine (.module name) >>= _ := rfl
  rw [opened, run_bind moduleOf?_module, run_bind (run_attempt sourceOf_module)]
  cases found : moduleSource w name with
  | ok source => rfl
  | error f =>
      simp only [isSourceFailure_of_moduleSource found, if_true]
      rfl

theorem find_module (name key : String) (w : World) :
    ∃ found, (find (.module name) key).run.run w = (.ok (.ofOption found), w) := by
  unfold find
  simp only [ExceptT.run_bind, StateT.run_bind]
  change ∃ found, Id.run (StateT.run (ExceptT.run _) w) =
    (Except.ok (Found.ofOption found), w)
  cases w.moduleSpace? name with
  | some space => exact ⟨_, rfl⟩
  | none =>
      by_cases named : key = "__name__"
      · exact ⟨some (.str name), by simp only [named]; rfl⟩
      · refine ⟨Library.attribute? name key, ?_⟩
        simp only [beq_iff_eq, named, if_false]
        rfl

theorem getAttribute?_module (engine : Engine) (name key : String) (w : World) :
    ∃ found, (getAttribute? engine (.module name) key).run.run w = (.ok found, w) := by
  obtain ⟨found, looked⟩ := find_module name key w
  unfold getAttribute?
  cases found with
  | some v =>
      have got : (getAttribute engine (.module name) key).run.run w = (.ok v, w) :=
        run_bind looked
      rw [run_bind (run_attempt got)]
      exact ⟨some v, rfl⟩
  | none =>
      have got : (getAttribute engine (.module name) key).run.run w =
          (.error (.missingAttribute (ownerText (.module name)) key), w) :=
            run_bind looked
      rw [run_bind (run_attempt got)]
      exact ⟨none, rfl⟩

theorem textAttribute?_module (engine : Engine) (name key : String) (w : World) :
    ∃ found, (textAttribute? engine (.module name) key).run.run w = (.ok found, w) := by
  obtain ⟨found, looked⟩ := getAttribute?_module engine name key w
  unfold textAttribute?
  rw [run_bind looked]
  cases found with
  | none => exact ⟨none, rfl⟩
  | some v => cases v <;> exact ⟨_, rfl⟩

theorem firstLine_module (engine : Engine) {file : String}
    (found : moduleOrigin (w.moduleName? name "__file__") = .ok ⟨file, some (0, 0)⟩) :
    ∃ r, (firstLine engine (.module name)).run.run w = (r, w) ∧
      ∀ f, r = .error f → isSourceFailure f = true := by
  have opened : firstLine engine (.module name) = originOf (.module name) >>= _ := rfl
  have origin : (originOf (.module name)).run.run w = _ := originOf_module
  rw [found] at origin
  rw [opened, run_bind origin]
  simp only [ExceptT.run_bind, StateT.run_bind]
  change ∃ r, Id.run (StateT.run (ExceptT.run _) w) = (r, w) ∧ _
  split
  · refine ⟨.error (.unavailable "could not get source code"), rfl, ?_⟩
    rintro f ⟨⟩
    rfl
  · exact ⟨.ok 0, rfl, fun f impossible => nomatch impossible⟩

theorem locationOf?_module (engine : Engine) (name : String) (w : World) :
    ∃ place, (locationOf? engine (.module name)).run.run w = (.ok place, w) := by
  have origin : (originOf (.module name)).run.run w = _ := originOf_module
  unfold locationOf?
  rcases moduleOrigin_cases (w.moduleName? name "__file__")
      with ⟨file, found⟩ | ⟨f, found, kind⟩
  · rw [found] at origin
    obtain ⟨r, first, failed⟩ := firstLine_module engine found
    rw [run_bind (run_attempt origin), run_bind (run_attempt first)]
    cases r with
    | ok line => exact ⟨_, rfl⟩
    | error f =>
        refine ⟨some file, ?_⟩
        simp only [failed f rfl, if_true]
        rfl
  · rw [found] at origin
    rw [run_bind (run_attempt origin)]
    refine ⟨none, ?_⟩
    simp only [kind, BEq.rfl, if_true]
    rfl

theorem report_module (f : Failure) :
    ∃ warnings, ((guardSteps engine replaced).report (.module name) f).run.run w =
      (.ok (), { w with warnings := warnings }) := by
  obtain ⟨home, home_read⟩ := textAttribute?_module engine name "__module__" w
  obtain ⟨own, own_read⟩ := textAttribute?_module engine name "__name__" w
  obtain ⟨place, place_read⟩ := locationOf?_module engine name w
  unfold guardSteps
  rw [run_bind home_read]
  cases home with
  | some module =>
      simp only [pure_bind]
      rw [run_bind place_read]
      exact ⟨_, rfl⟩
  | none =>
      rw [run_bind own_read]
      simp only [pure_bind]
      rw [run_bind place_read]
      exact ⟨_, rfl⟩

theorem whileReplaced_run {α : Type} {names : List String} {x : Run α}
    {r : Except Failure α} (reads : ∀ w, x.run.run w = (r, w)) :
    (whileReplaced names x).run.run w = (r, w) := by
  have current : (get : Run World).run.run w = (.ok w, w) := rfl
  have replace : (modify fun u => { u with replaced := names } : Run Unit).run.run w =
      (.ok (), { w with replaced := names }) := rfl
  have restore : (modify fun u => { u with replaced := w.replaced } : Run Unit).run.run
      { w with replaced := names } = (.ok (), w) := rfl
  unfold whileReplaced
  rw [run_bind current, run_bind replace, run_bind (run_attempt (reads _)),
    run_bind restore]
  cases r <;> rfl

end

/-! ## Blocks -/

/--
An engine that changes nothing: a block ends as is told for the space of its
names.
-/
def scripted (ends : Nat → List Source.Stmt → Except Failure Unit)
    (loading : String → Except Failure Unit) : Engine where
  evaluate _ _ := throw .tooDeep
  execute scope body := Run.ofOutcome ((ends scope.globals body).map fun _ => .next)
  call _ _ _ := throw .tooDeep
  load name := Run.ofOutcome ((loading name).map fun _ => .module name)

section

variable {ends : Nat → List Source.Stmt → Except Failure Unit}
  {loading : String → Except Failure Unit} {replaced : List String} {name : String}
  {w : World}

theorem runBlock_scripted (space : Nat) (block : String) (w : World) :
    (runBlock (scripted ends loading) space block).run.run w =
      ((Source.readModule false block).bind (ends space), w) := by
  have opened : runBlock (scripted ends loading) space block =
    Run.ofOutcome (Source.readModule false block) >>= _ := rfl
  rw [opened]
  cases read : Source.readModule false block with
  | error f => rfl
  | ok body =>
      rw [run_bind (ofOutcome_run _ w)]
      change _ = (ends space body, w)
      have ran : ((scripted ends loading).execute
          { globals := space, postponed := true } body).run.run
          w = ((ends space body).map fun _ => .next, w) := ofOutcome_run _ w
      cases ended : ends space body with
      | error f =>
          rw [ended] at ran
          exact run_bind_error ran
      | ok done =>
          rw [ended] at ran
          rw [run_bind ran]
          rfl

theorem execute_scripted {space : Nat} (known : w.moduleSpace? name = some space)
    (block : String) :
    ((guardSteps (scripted ends loading) replaced).execute (.module name)
      block).run.run w =
      ((Source.readModule false block).bind (ends space), w) := by
  have found : (spaceOf name).run.run w = (.ok space, w) := by
    unfold spaceOf
    simp only [ExceptT.run_bind, StateT.run_bind]
    change Id.run (StateT.run (ExceptT.run _) w) = _
    simp only [known]
    rfl
  have opened : (guardSteps (scripted ends loading) replaced).execute (.module name)
      block =
    spaceOf name >>= _ := rfl
  rw [opened, run_bind found]
  exact whileReplaced_run (runBlock_scripted space block)

end

end DocHints.Hints
