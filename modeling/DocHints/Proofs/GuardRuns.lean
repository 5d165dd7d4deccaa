import DocHints.Proofs.GuardChains
import DocHints.Proofs.ModuleSteps

/-!
# Runs of guarded blocks

Where it is given how every block and every import ends, the modules whose
guarded blocks a resolution runs are the ends of the chains of guarded imports,
one run for each chain that is shorter than the limit of the depth.  What was
run before stops no chain, since a chain goes on with a module and only
functions are looked up among the modules that are resolved.
-/

namespace DocHints.Hints

open Program

/-! ## Steps that add runs -/

section

variable {α β : Type} {kept : World → Prop}

/--
A step that ends in the same way in every kept world, and notes the same runs
there.
-/
def Runs (kept : World → Prop) (x : Step World α) (added : List String)
    (result : Except Failure α) : Prop :=
  ∀ w, kept w → ∃ w', x.run.run w = (result, w') ∧ kept w' ∧
    w'.resolved = added.reverse ++ w.resolved

namespace Runs

theorem pure (a : α) : Runs kept (pure a) [] (.ok a) :=
  fun w ready => ⟨w, rfl, ready, rfl⟩

theorem throw (f : Failure) : Runs kept (throw f : Step World α) [] (.error f) :=
  fun w ready => ⟨w, rfl, ready, rfl⟩

theorem bind {x : Step World α} {next : α → Step World β}
    {first second : List String} {a : α} {result : Except Failure β}
    (begins : Runs kept x first (.ok a))
    (continues : Runs kept (next a) second result) :
    Runs kept (x >>= next) (first ++ second) result := by
  intro w ready
  obtain ⟨w', run, ready', middle⟩ := begins w ready
  obtain ⟨w'', run', ready'', last⟩ := continues w' ready'
  exact ⟨w'', (run_bind run).trans run', ready'', by simp [last, middle]⟩

theorem bind_error {x : Step World α} {next : α → Step World β}
    {added : List String} {f : Failure} (fails : Runs kept x added (.error f)) :
    Runs kept (x >>= next) added (.error f) := by
  intro w ready
  obtain ⟨w', run, last⟩ := fails w ready
  exact ⟨w', run_bind_error run, last⟩

theorem attempt {x : Step World α} {added : List String} {result : Except Failure α}
    (runs : Runs kept x added result) : Runs kept x.attempt added (.ok result) := by
  intro w ready
  obtain ⟨w', run, last⟩ := runs w ready
  exact ⟨w', run_attempt run, last⟩

end Runs

end

/-! ## Resolving a program -/

/--
The values whose guarded imports are resolved from a start: that value, and
modules.
-/
inductive Subject (start : Value) : Value → Prop
  | start : Subject start start
  | module (name : String) : Subject start (.module name)

/--
In the kept worlds the modules have the sources of the program, and running a
block from a start and importing a module end as the program says.
-/
structure GuardedProgram.Governs (program : GuardedProgram) (engine : Engine)
    (replaced : List String) (kept : World → Prop) (start : Value) : Prop where
  sources : ∀ w, kept w → ∀ name, (moduleSource w name).toOption = program.source name
  executes : ∀ v module source, Subject start v →
    program.sourceOf? v = some (module, source) →
    ∀ block ∈ guardedBlocks source,
      Runs kept ((guardSteps engine replaced).execute v block) []
        (program.execution v block)
  loads : ∀ name, Runs kept ((guardSteps engine replaced).load name) []
    ((program.loading name).map fun _ => .module name)
  /-- Runs and warnings may be noted. -/
  noted : ∀ w resolved warnings, kept w →
    kept { w with resolved := resolved, warnings := warnings }
  finds_start : Runs kept ((guardSteps engine replaced).source? start) []
    (.ok (program.sourceOf? start))
  reports_start : ∀ f, Runs kept ((guardSteps engine replaced).report start f) []
    (.ok ())

namespace GuardedProgram

theorem sourceOf?_module (program : GuardedProgram) (name : String) :
    program.sourceOf? (.module name) = (program.source name).map fun source =>
      (name, source) := by
  simp [sourceOf?, program.home_module]

namespace Governs

variable {program : GuardedProgram} {engine : Engine} {replaced : List String}
  {kept : World → Prop} {start : Value}

theorem skips_module (name : String) :
    Runs kept ((guardSteps engine replaced).skips (.module name)) [] (.ok false) :=
  .pure false

theorem mark (governs : program.Governs engine replaced kept start) (name : String) :
    Runs kept ((guardSteps engine replaced).mark name) [name] (.ok ()) :=
  fun w ready => ⟨{ w with resolved := name :: w.resolved }, rfl,
    governs.noted w _ _ ready, rfl⟩

theorem finds (governs : program.Governs engine replaced kept start) {v : Value}
    (subject : Subject start v) :
    Runs kept ((guardSteps engine replaced).source? v) []
      (.ok (program.sourceOf? v)) := by
  cases subject with
  | start => exact governs.finds_start
  | module name =>
      intro w ready
      refine ⟨w, ?_, ready, rfl⟩
      rw [source?_module, governs.sources w ready, sourceOf?_module]

theorem reports (governs : program.Governs engine replaced kept start) {v : Value}
    (subject : Subject start v) (f : Failure) :
    Runs kept ((guardSteps engine replaced).report v f) [] (.ok ()) := by
  cases subject with
  | start => exact governs.reports_start f
  | module name =>
      intro w ready
      obtain ⟨warnings, run⟩ := report_module f
      exact ⟨_, run, governs.noted w w.resolved warnings ready, rfl⟩

theorem ignoringImports_again {x : Step World Unit} {f : Failure}
    (fails : Runs kept x [] (.error f)) (import_failed : f.kind.isImport = true) :
    Runs kept (ignoringImports x) [] (.ok ()) := by
  refine Runs.bind fails.attempt ?_
  simp only [import_failed, if_true]
  exact .pure ()

theorem retry_runs (governs : program.Governs engine replaced kept start)
    {resolve : Value → Step World Unit} {added : String → List String}
    (resolves : ∀ name, ∃ result,
      Runs kept (resolve (.module name)) (added name) result)
    {retry : Step World Unit} (passes : Runs kept retry [] (.ok ())) (name : String) :
    ∃ result, Runs kept
      ((guardSteps engine replaced).load name >>= fun v => resolve v >>= fun _ => retry)
      (if (program.loading name).isOk then added name else []) result := by
  have loads := governs.loads name
  cases loading : program.loading name with
  | error missing =>
      rw [loading] at loads
      exact ⟨.error missing, .bind_error loads⟩
  | ok done =>
      rw [loading] at loads
      obtain ⟨result, resolved⟩ := resolves name
      cases result with
      | error f => exact ⟨.error f, .bind loads (.bind_error resolved)⟩
      | ok done =>
          have both : Runs kept (resolve (.module name) >>= fun _ => retry)
              (added name ++ []) (.ok ()) := .bind resolved passes
          rw [List.append_nil] at both
          exact ⟨.ok (), .bind loads both⟩

/-- A block adds the runs that its resolution goes on to, however it ends. -/
theorem runGuarded_runs (governs : program.Governs engine replaced kept start)
    {resolve : Value → Step World Unit} {added : String → List String}
    (resolves : ∀ name, ∃ result,
      Runs kept (resolve (.module name)) (added name) result)
    {v : Value} {block : String}
    (executes : Runs kept ((guardSteps engine replaced).execute v block) []
      (program.execution v block)) :
    ∃ result, Runs kept (runGuarded (guardSteps engine replaced) resolve v block)
      ((program.next? v block).elim [] added) result := by
  have tried := executes.attempt
  cases ended : program.execution v block with
  | ok done =>
      have stays : program.next? v block = none := by simp [next?, ended]
      rw [ended] at tried
      rw [stays]
      exact ⟨.ok (), .bind tried (.pure ())⟩
  | error f =>
      rw [ended] at executes tried
      cases import_failed : f.kind.isImport with
      | false =>
          have stays : program.next? v block = none := by
            simp [next?, ended, import_failed]
          rw [stays]
          refine ⟨.error f, .bind tried ?_⟩
          simp only [import_failed, Bool.not_false, if_true]
          exact .bind_error (.throw f)
      | true =>
          cases named : namedModule? f with
          | none =>
              have stays : program.next? v block = none := by
                simp [next?, ended, import_failed, named]
              rw [stays]
              refine ⟨.ok (), .bind tried ?_⟩
              simp only [import_failed, Bool.not_true, Bool.false_eq_true, if_false,
                named]
              exact .pure ()
          | some name =>
              have goes : (program.next? v block).elim [] added =
                  if (program.loading name).isOk then added name else [] := by
                cases loaded : (program.loading name).isOk <;>
                  simp [next?, ended, import_failed, named, Option.filter, loaded]
              have again := ignoringImports_again executes import_failed
              obtain ⟨result, retried⟩ := governs.retry_runs resolves again name
              rw [goes]
              refine ⟨result, .bind tried ?_⟩
              simp only [import_failed, Bool.not_true, Bool.false_eq_true, if_false,
                named]
              exact retried

theorem runBlocks_runs (governs : program.Governs engine replaced kept start)
    {resolve : Value → Step World Unit} {added : String → List String}
    (resolves : ∀ name, ∃ result,
      Runs kept (resolve (.module name)) (added name) result)
    {v : Value} {blocks : List String}
    (executes : ∀ block ∈ blocks,
      Runs kept ((guardSteps engine replaced).execute v block) []
        (program.execution v block))
    (reports : ∀ f, Runs kept ((guardSteps engine replaced).report v f) [] (.ok ())) :
    Runs kept (runBlocks (guardSteps engine replaced) resolve v blocks)
      (blocks.flatMap fun block => (program.next? v block).elim [] added) (.ok ()) := by
  induction blocks with
  | nil => exact .pure ()
  | cons block blocks ih =>
      obtain ⟨executes_first, executes_rest⟩ := List.forall_mem_cons.mp executes
      obtain ⟨result, ran⟩ := governs.runGuarded_runs resolves executes_first
      refine .bind ran.attempt ?_
      cases result with
      | ok done => exact ih executes_rest
      | error f => exact .bind (reports f) (ih executes_rest)

end Governs

end GuardedProgram

def resolveAt (steps : GuardSteps World) (limit : Nat) (v : Value) : Step World Unit :=
  steps.source? v >>= fun found =>
    found.elim (pure ()) fun found =>
      steps.mark found.1 >>= fun _ =>
        runBlocks steps (resolveGuards steps limit) v (guardedBlocks found.2)

theorem resolveGuards_succ (steps : GuardSteps World) (limit : Nat) (v : Value) :
    resolveGuards steps (limit + 1) v =
      steps.skips v >>= fun skipped =>
        if skipped then pure () else resolveAt steps limit v := by
  simp only [resolveGuards]
  congr 1
  funext skipped
  cases skipped with
  | true => rfl
  | false =>
      simp only [Bool.false_eq_true, if_false, resolveAt]
      congr 1
      funext found
      cases found <;> rfl

namespace GuardedProgram.Governs

variable {program : GuardedProgram} {engine : Engine} {replaced : List String}
  {kept : World → Prop} {start : Value}

theorem resolveAt_runs (governs : program.Governs engine replaced kept start)
    {limit : Nat} (resolves : ∀ name, ∃ result,
      Runs kept (resolveGuards (guardSteps engine replaced) limit (.module name))
        (program.ends limit (.module name)) result)
    {v : Value} (subject : Subject start v) :
    Runs kept (resolveAt (guardSteps engine replaced) limit v)
      (program.ends (limit + 1) v) (.ok ()) := by
  have found := governs.finds subject
  cases known : program.sourceOf? v with
  | none =>
      have nothing : program.ends (limit + 1) v = [] := by
        simp [ends, chains_of_no_source known]
      rw [known] at found
      rw [nothing]
      exact .bind found (.pure ())
  | some named =>
      obtain ⟨module, source⟩ := named
      rw [known] at found
      rw [ends_succ known]
      have ran := governs.runBlocks_runs resolves
        (governs.executes v module source subject known) (governs.reports subject)
      refine .bind found ?_
      exact .bind (governs.mark module) ran

/-- Resolving a module runs the blocks at the ends of all chains from it. -/
theorem resolve_module (governs : program.Governs engine replaced kept start)
    (limit : Nat) (name : String) :
    ∃ result, Runs kept
      (resolveGuards (guardSteps engine replaced) limit (.module name))
      (program.ends limit (.module name)) result := by
  induction limit generalizing name with
  | zero => exact ⟨.error .tooDeep, .throw .tooDeep⟩
  | succ limit ih =>
      refine ⟨.ok (), ?_⟩
      rw [resolveGuards_succ]
      exact .bind (skips_module name) (governs.resolveAt_runs ih (.module name))

end GuardedProgram.Governs

/-! ## What a resolution runs -/

def guardedRuns (engine : Engine) (replaced : List String) (limit : Nat) (v : Value)
    (w : World) : List String :=
  let noted :=
    ((resolveGuards (guardSteps engine replaced) limit v).run.run w).2.resolved
  (noted.take (noted.length - w.resolved.length)).reverse

theorem guardedRuns_of_noted {engine : Engine} {replaced : List String}
    {limit : Nat} {v : Value} {w w' : World} {result : Except Failure Unit}
    {runs : List String}
    (run : (resolveGuards (guardSteps engine replaced) limit v).run.run w =
      (result, w')) (noted : w'.resolved = runs.reverse ++ w.resolved) :
    guardedRuns engine replaced limit v w = runs := by
  have count : (runs.reverse ++ w.resolved).length - w.resolved.length =
      runs.reverse.length := by
    simp
  simp only [guardedRuns, run, noted, count, List.take_left', List.reverse_reverse]

/--
A value is looked at in a world, and it turns out whether something is left to
do for it.
-/
def Opens (engine : Engine) (replaced : List String) (kept : World → Prop)
    (v : Value) (w : World) (skipped : Bool) : Prop :=
  ∃ opened, ((guardSteps engine replaced).skips v).run.run w = (.ok skipped, opened) ∧
    kept opened ∧ opened.resolved = w.resolved

namespace GuardedProgram.Governs

variable {program : GuardedProgram} {engine : Engine} {replaced : List String}
  {kept : World → Prop} {start : Value} {w : World}

theorem resolve_skipped (opens : Opens engine replaced kept start w true)
    (limit : Nat) :
    ∃ w', (resolveGuards (guardSteps engine replaced) (limit + 1) start).run.run w =
      (.ok (), w') ∧
      w'.resolved = w.resolved := by
  obtain ⟨opened, decided, -, same⟩ := opens
  refine ⟨opened, ?_, same⟩
  rw [resolveGuards_succ, run_bind decided]
  rfl

theorem resolve_opened (governs : program.Governs engine replaced kept start)
    (opens : Opens engine replaced kept start w false) (limit : Nat) :
    ∃ w', (resolveGuards (guardSteps engine replaced) (limit + 1) start).run.run w =
      (.ok (), w') ∧
      w'.resolved = (program.ends (limit + 1) start).reverse ++ w.resolved := by
  obtain ⟨opened, decided, ready, same⟩ := opens
  obtain ⟨w', run, -, noted⟩ :=
    governs.resolveAt_runs (governs.resolve_module limit) .start opened ready
  refine ⟨w', ?_, by rw [noted, same]⟩
  rw [resolveGuards_succ, run_bind decided]
  exact run

theorem guardedRuns_eq_ends (governs : program.Governs engine replaced kept start)
    (opens : Opens engine replaced kept start w false) (limit : Nat) :
    guardedRuns engine replaced limit start w = program.ends limit start := by
  cases limit with
  | zero => exact guardedRuns_of_noted rfl rfl
  | succ limit =>
      obtain ⟨w', run, noted⟩ := governs.resolve_opened opens limit
      exact guardedRuns_of_noted run noted

end GuardedProgram.Governs

/-! ## Scripts -/

structure Script where
  world : World
  /-- How a block ends that is run with the names of a space. -/
  ends : Nat → List Source.Stmt → Except Failure Unit
  modules : List String
  missing : String → Failure

namespace Script

variable (script : Script)

def loading (name : String) : Except Failure Unit :=
  if name ∈ script.modules then .ok () else .error (script.missing name)

def engine : Engine :=
  scripted script.ends script.loading

def Same (w : World) : Prop :=
  w.modules = script.world.modules ∧ w.spaces = script.world.spaces ∧
    w.files = script.world.files

def program : GuardedProgram where
  modules := script.modules
  source name := (moduleSource script.world name).toOption
  home
    | .module name => some name
    | _ => none
  home_module _ := rfl
  execution v block :=
    match v with
    | .module name => (script.world.moduleSpace? name).elim (.ok ()) fun space =>
        (Source.readModule false block).bind (script.ends space)
    | _ => .ok ()
  loading := script.loading
  loaded name done := by
    by_cases known : name ∈ script.modules
    · exact known
    · simp [loading, known] at done

variable {script}

theorem Same.moduleSpace? {w : World} (same : script.Same w) (name : String) :
    w.moduleSpace? name = script.world.moduleSpace? name := by
  rw [World.moduleSpace?, World.moduleSpace?, same.1]

theorem Same.moduleSource {w : World} (same : script.Same w) (name : String) :
    moduleSource w name = Hints.moduleSource script.world name := by
  simp only [Hints.moduleSource, World.moduleName?, same.moduleSpace?, World.space,
    World.file?, same.2.1, same.2.2]

theorem space_of_source {name : String} {found : String × String}
    (known : script.program.sourceOf? (.module name) = some found) :
    ∃ space, script.world.moduleSpace? name = some space := by
  cases loaded : script.world.moduleSpace? name with
  | some space => exact ⟨space, rfl⟩
  | none =>
      rw [GuardedProgram.sourceOf?_module] at known
      simp [program, Hints.moduleSource, World.moduleName?, loaded, moduleOrigin,
        Except.bind, Except.toOption] at known

theorem governs (script : Script) (replaced : List String) (name : String) :
    script.program.Governs script.engine replaced script.Same (.module name) := by
  have at_module {v : Value} (subject : Subject (.module name) v) : ∃ other, v =
      .module other := by
    cases subject with
    | start => exact ⟨name, rfl⟩
    | module other => exact ⟨other, rfl⟩
  refine ⟨?_, ?_, ?_, ?_, ?_, ?_⟩
  · intro w same other
    rw [same.moduleSource]
    rfl
  · intro v module source subject known block _ w same
    obtain ⟨other, rfl⟩ := at_module subject
    obtain ⟨space, loaded⟩ := space_of_source known
    refine ⟨w, ?_, same, rfl⟩
    have told : script.program.execution (.module other) block =
        (Source.readModule false block).bind (script.ends space) := by
      simp [program, loaded]
    rw [told]
    exact execute_scripted ((same.moduleSpace? other).trans loaded) block
  · intro other w same
    exact ⟨w, ofOutcome_run _ w, same, rfl⟩
  · intro w resolved warnings same
    exact same
  · intro w same
    refine ⟨w, ?_, same, rfl⟩
    rw [source?_module, same.moduleSource, GuardedProgram.sourceOf?_module]
    rfl
  · intro f w same
    obtain ⟨warnings, run⟩ := report_module f
    exact ⟨_, run, same, rfl⟩

end Script

/-! ## One run for each chain -/

/--
A resolution always ends, and a value that is skipped runs nothing.  For any
other value each chain of guarded imports below the limit gives one run of the
module at its end.  So no module is run twice exactly if no two chains end at
the same module, and only the limit bounds the runs where a chain comes back to
where it has been.
-/
theorem guardedRuns_along_chains {program : GuardedProgram} {engine : Engine}
    {replaced : List String} {kept : World → Prop} {start : Value} {w : World}
    {skipped : Bool} (governs : program.Governs engine replaced kept start)
    (opens : Opens engine replaced kept start w skipped) :
    (∀ limit, ((resolveGuards (guardSteps engine replaced) (limit + 1)
      start).run.run w).1 = .ok ()) ∧
    (skipped = true → ∀ limit, guardedRuns engine replaced limit start w = []) ∧
    (skipped = false →
      (∀ limit, ∃ chains : List (List Nat), chains.Nodup ∧
        (∀ chain, chain ∈ chains ↔
          chain.length < limit ∧ (program.endOf? start chain).isSome = true) ∧
        guardedRuns engine replaced limit start w =
          chains.filterMap (program.endOf? start)) ∧
      ((∀ limit module, (guardedRuns engine replaced limit start w).count module ≤ 1) ↔
        ∀ chain chain' module, program.endOf? start chain = some module →
          program.endOf? start chain' = some module → chain = chain') ∧
      ((∃ bound, ∀ limit, (guardedRuns engine replaced limit start w).length ≤ bound) ↔
        program.Acyclic start)) := by
  cases skipped with
  | true =>
      have nothing := GuardedProgram.Governs.resolve_skipped opens
      refine ⟨fun limit => ?_, fun _ limit => ?_, nofun⟩
      · obtain ⟨w', run, -⟩ := nothing limit
        rw [run]
      · cases limit with
        | zero => exact guardedRuns_of_noted rfl rfl
        | succ limit =>
            obtain ⟨w', run, same⟩ := nothing limit
            exact guardedRuns_of_noted run same
  | false =>
      have runs := governs.guardedRuns_eq_ends opens
      refine ⟨fun limit => ?_, nofun, fun _ => ⟨fun limit => ?_, ?_, ?_⟩⟩
      · obtain ⟨w', run, -⟩ := governs.resolve_opened opens limit
        rw [run]
      · exact ⟨program.chains limit start, GuardedProgram.nodup_chains limit start,
          fun chain => GuardedProgram.mem_chains, runs limit⟩
      · simp only [runs]
        exact GuardedProgram.count_ends_le_one_iff
      · simp only [runs]
        constructor
        · rintro ⟨bound, bounded⟩
          exact GuardedProgram.acyclic_of_bounded bounded
        · intro acyclic
          exact ⟨_, acyclic.length_ends_le⟩

def lacksName (module : String) : Failure :=
  ⟨.importing, [.str "cannot import name"], some module⟩

def twoModules (ends : Nat → List Source.Stmt → Except Failure Unit) : Script where
  world :=
    { spaces := #[⟨[("__file__", .str "a.py")], false⟩,
      ⟨[("__file__", .str "b.py")], false⟩]
      modules := [("a", 0), ("b", 1)]
      files := [
        ("a.py", "\nif TYPE_CHECKING:\n from b import X\nif TYPE_CHECKING:\n from b import Y\nV\n"),
        ("b.py", "\nif TYPE_CHECKING:\n from a import V\nX\n")] }
  ends := ends
  modules := ["a", "b"]
  missing := lacksName

def circling : Script :=
  twoModules fun space _ => .error (lacksName (if space = 0 then "b" else "a"))

theorem guardedRuns_along_chains_circling :
    Opens circling.engine [] circling.Same (.module "a") circling.world false ∧
    (∀ limit, ((resolveGuards (guardSteps circling.engine []) (limit + 1)
      (.module "a")).run.run circling.world).1 = .ok ()) ∧
    (¬ ∀ limit module,
      (guardedRuns circling.engine [] limit (.module "a")
        circling.world).count module ≤ 1) ∧
    ¬ ∃ bound, ∀ limit,
      (guardedRuns circling.engine [] limit (.module "a")
        circling.world).length ≤ bound := by
  have opens :
      Opens circling.engine [] circling.Same (.module "a") circling.world false :=
    ⟨circling.world, rfl, ⟨rfl, rfl, rfl⟩, rfl⟩
  have leads : (circling.program.endOf? (.module "a") [0] = some "b" ∧
      circling.program.endOf? (.module "a") [1] = some "b") ∧
      circling.program.step? (.module "a") 0 = some "b" ∧
      circling.program.step? (.module "b") 0 = some "a" := by decide +kernel
  obtain ⟨⟨first, second⟩, there, back⟩ := leads
  obtain ⟨ends, -, runs⟩ := guardedRuns_along_chains (circling.governs [] "a") opens
  obtain ⟨-, once, bounded⟩ := runs rfl
  refine ⟨opens, ends, fun at_most_once => ?_, fun bound => ?_⟩
  · exact absurd (once.mp at_most_once [0] [1] "b" first second) (by decide)
  · have round : circling.program.follow (.module "a") [0, 0] = some (.module "a") := by
      rw [GuardedProgram.follow_cons there, GuardedProgram.follow_cons back]
      rfl
    exact absurd (bounded.mp bound [] [0, 0] (.module "a") rfl round) (by decide)

def forking : Script :=
  twoModules fun space _ => if space = 0 then .error (lacksName "b") else .ok ()

theorem guarded_blocks_run_twice :
    guardedRuns forking.engine [] depthLimit (.module "a") forking.world =
      ["a", "b", "b"] := by
  decide +kernel

end DocHints.Hints
