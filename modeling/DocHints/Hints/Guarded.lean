import DocHints.Failure
import DocHints.Hints.GuardedBlock

/-!
# Resolving guarded imports

The guarded blocks of a module are run after all, so that the names in its
annotations become known.  A block that fails because a module lacks a name is
tried once more, after the guarded blocks of that module have been resolved.

Running a block and importing a module are steps that are given; `σ` is what
they change.
-/

namespace DocHints.Hints

/--
A computation that changes `σ` and may fail; what it changed before a failure
stays changed.
-/
abbrev Step (σ : Type) := ExceptT Failure (StateM σ)

def Step.attempt {σ α : Type} (x : Step σ α) : Step σ (Except Failure α) :=
  ExceptT.lift x.run

structure GuardSteps (σ : Type) where
  /-- Whether nothing is left to do for a value. -/
  skips : Value → Step σ Bool
  /-- The name and the source of the module of a value, if it has a source. -/
  source? : Value → Step σ (Option (String × String))
  /-- Notes that the blocks of a module are being resolved. -/
  mark : String → Step σ Unit
  /-- Runs a block with the names of a value. -/
  execute : Value → String → Step σ Unit
  /-- Imports a module. -/
  load : String → Step σ Value
  /-- Tells that a block failed. -/
  report : Value → Failure → Step σ Unit

def ignoringImports {σ : Type} (x : Step σ Unit) : Step σ Unit := do
  match ← x.attempt with
  | .ok _ => return ()
  | .error f => if f.kind.isImport then return () else throw f

def namedModule? (f : Failure) : Option String :=
  f.module.filter (!·.isEmpty)

/--
Runs one block; `resolve` resolves the guarded imports of a module that stands
in the way.
-/
def runGuarded {σ : Type} (steps : GuardSteps σ) (resolve : Value → Step σ Unit)
    (subject : Value) (block : String) : Step σ Unit := do
  match ← (steps.execute subject block).attempt with
  | .ok _ => return ()
  | .error f =>
    if !f.kind.isImport then throw f
    match namedModule? f with
    | none => return ()
    | some name =>
      resolve (← steps.load name)
      ignoringImports (steps.execute subject block)

/-- Runs all blocks in order; a block that fails is reported. -/
def runBlocks {σ : Type} (steps : GuardSteps σ) (resolve : Value → Step σ Unit)
    (subject : Value) : List String → Step σ Unit
  | [] => return ()
  | block :: rest => do
    match ← (runGuarded steps resolve subject block).attempt with
    | .ok _ => pure ()
    | .error f => steps.report subject f
    runBlocks steps resolve subject rest

/--
Resolves the guarded imports of the module of a value; `fuel` bounds how far
modules lead.
-/
def resolveGuards {σ : Type} (steps : GuardSteps σ) : Nat → Value → Step σ Unit
  | 0, _ => throw .tooDeep
  | fuel + 1, subject => do
    if ← steps.skips subject then return ()
    match ← steps.source? subject with
    | none => return ()
    | some (module, source) =>
      steps.mark module
      runBlocks steps (resolveGuards steps fuel) subject (guardedBlocks source)

end DocHints.Hints
