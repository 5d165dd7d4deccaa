import DocHints.Annotation.Plan

/-!
# Rendering annotations by recursion

An annotation is a tree whose leaves may be aliases, and an alias may occur in
its own expansion.  `renderAt` renders a tree with the aliases on the path from
the root: an alias that is on the path becomes a reference to its name, every
other alias without a reference is expanded.

The recursion ends because an expansion takes one more alias onto the path, and
every other step goes to a smaller value.
-/

namespace DocHints

abbrev AliasTable := List (String × Value)

structure Scene where
  options : RenderOptions := {}
  registry : Registry := []
  aliases : AliasTable := []
  deriving Inhabited

namespace AliasTable

def value? (table : AliasTable) (key : String) : Option Value :=
  (List.find? (·.1 == key) table).map (·.2)

def unvisited (table : AliasTable) (path : List AliasRef) : Nat :=
  List.countP (fun entry => path.all (·.key != entry.1)) table

theorem unvisited_cons_le (table : AliasTable) (path : List AliasRef) (a : AliasRef) :
    table.unvisited (a :: path) ≤ table.unvisited path := by
  apply List.countP_mono_left
  intro entry _ new
  simp only [List.all_cons, Bool.and_eq_true] at new
  exact new.2

theorem unvisited_lt {table : AliasTable} {path : List AliasRef} {a : AliasRef}
    {v : Value} (found : table.value? a.key = some v)
    (new : path.find? (·.key == a.key) = none) :
    table.unvisited (a :: path) < table.unvisited path := by
  induction table with
  | nil => simp [value?] at found
  | cons entry rest ih =>
      have le := unvisited_cons_le rest path a
      by_cases same : entry.1 = a.key
      · have fresh : path.all (·.key != entry.1) = true := by simpa [same] using new
        simp only [unvisited, List.countP_cons, List.all_cons, same] at le fresh ⊢
        simp [fresh]
        omega
      · have found' : value? rest a.key = some v := by
          simpa [value?, same] using found
        have lt := ih found'
        have other : (a.key != entry.1) = true := by simpa using fun h => same h.symm
        simp only [unvisited, List.countP_cons, List.all_cons, other,
          Bool.true_and] at lt ⊢
        omega

end AliasTable

namespace Scene

def plan (scene : Scene) (v : Value) : Except Failure (Plan v) :=
  Plan.ofValue scene.registry scene.options v

def nameText (scene : Scene) (a : AliasRef) : String :=
  a.nameText scene.registry scene.options

/--
The alias on a path that a value is.  The key of an alias tells which alias it
is.
-/
def onPath? (path : List AliasRef) : Value → Option AliasRef
  | .typeAlias a => path.find? (·.key == a.key)
  | _ => none

theorem onPath?_typeAlias (path : List AliasRef) {v : Value} {a : AliasRef}
    (isAlias : v = .typeAlias a) : onPath? path v = path.find? (·.key == a.key) := by
  subst isAlias
  rfl

/-- The text of a value, given the aliases on the path to it. -/
def renderAt (scene : Scene) (path : List AliasRef) (v : Value) :
    Except Failure String :=
  match met : onPath? path v with
  | some a => .ok (scene.nameText a)
  | none =>
    match scene.plan v with
    | .error failure => .error failure
    | .ok (.text s) => .ok s
    | .ok (.expand a isAlias) =>
      match found : scene.aliases.value? a.key with
      | none => .error (.missingKey (.str a.key))
      | some value =>
        have := AliasTable.unvisited_lt found (onPath?_typeAlias path isAlias ▸ met)
        renderAt scene (a :: path) value
    | .ok (.join parts finish) => do
      let texts ← parts.mapM fun part =>
        have := part.2
        renderAt scene path part.1
      .ok (finish texts)
termination_by (scene.aliases.unvisited path, sizeOf v)

def totalOf : List Nat → Nat
  | [] => 0
  | cost :: costs => cost + totalOf costs

/--
The number of steps that a walk spends on a value: one to ask for it, one to
hand over its text, and those of its parts in between.  An alias on the path is
handed over at once.
-/
def cost (scene : Scene) (path : List AliasRef) (v : Value) : Nat :=
  match met : onPath? path v with
  | some _ => 1
  | none =>
    match scene.plan v with
    | .error _ => 1
    | .ok (.text _) => 2
    | .ok (.expand a isAlias) =>
      match found : scene.aliases.value? a.key with
      | none => 1
      | some value =>
        have := AliasTable.unvisited_lt found (onPath?_typeAlias path isAlias ▸ met)
        cost scene (a :: path) value + 2
    | .ok (.join parts _) =>
      totalOf (parts.map fun part =>
        have := part.2
        cost scene path part.1) + 2
termination_by (scene.aliases.unvisited path, sizeOf v)

end Scene

end DocHints
