import DocHints.Hints.Guarded
import Mathlib.Data.List.Nodup
import Mathlib.Data.List.Perm.Subperm

/-!
# Chains of guarded imports

A block that fails because a module lacks a name leads to the guarded blocks of
that module, and from there to those of further modules.  A `GuardedProgram`
tells how every block and every import ends, so it gives the chains that start
from a value and the modules where they end.  No module ends two chains exactly
if no module is counted twice among the ends, and the number of ends is bounded
exactly if no chain comes back to where it has been.
-/

namespace DocHints.Hints

/-! ## Programs with given ends -/

structure GuardedProgram where
  modules : List String
  source : String → Option String
  /-- The module that a value belongs to. -/
  home : Value → Option String
  home_module : ∀ name, home (.module name) = some name
  /-- How a block ends that is run with the names of a value. -/
  execution : Value → String → Except Failure Unit
  /-- How the import of a module ends. -/
  loading : String → Except Failure Unit
  loaded : ∀ name, loading name = .ok () → name ∈ modules

namespace GuardedProgram

variable (program : GuardedProgram)

def sourceOf? (v : Value) : Option (String × String) :=
  (program.home v).bind fun module => (program.source module).map fun source =>
    (module, source)

def next? (v : Value) (block : String) : Option String :=
  match program.execution v block with
  | .ok _ => none
  | .error f =>
    if f.kind.isImport then (namedModule? f).filter fun name =>
      (program.loading name).isOk
    else none

def blocksOf (v : Value) : List String :=
  (program.sourceOf? v).elim [] fun found => guardedBlocks found.2

def step? (v : Value) (position : Nat) : Option String :=
  (program.blocksOf v)[position]?.bind (program.next? v)

def follow (program : GuardedProgram) : Value → List Nat → Option Value
  | v, [] => some v
  | v, position :: chain =>
    (program.step? v position).bind fun name => follow program (.module name) chain

def endOf? (v : Value) (chain : List Nat) : Option String :=
  (program.follow v chain).bind fun w => (program.sourceOf? w).map Prod.fst

/-- The chains below a length, in the order in which their ends are run. -/
def chains (program : GuardedProgram) : Nat → Value → List (List Nat)
  | 0, _ => []
  | limit + 1, v =>
    if (program.sourceOf? v).isNone then []
    else [] :: (List.range (program.blocksOf v).length).flatMap fun position =>
      (program.step? v position).elim [] fun name =>
        (chains program limit (.module name)).map (position :: ·)

def ends (limit : Nat) (v : Value) : List String :=
  (program.chains limit v).filterMap (program.endOf? v)

/-! ## Chains -/

section

variable {program : GuardedProgram} {v : Value}

theorem follow_cons {position : Nat} {name : String}
    (leads : program.step? v position = some name) (chain : List Nat) :
    program.follow v (position :: chain) = program.follow (.module name) chain := by
  simp [follow, leads]

theorem endOf?_cons {position : Nat} {name : String}
    (leads : program.step? v position = some name) (chain : List Nat) :
    program.endOf? v (position :: chain) = program.endOf? (.module name) chain := by
  simp [endOf?, follow_cons leads]

theorem step?_of_no_source (unknown : program.sourceOf? v = none) (position : Nat) :
    program.step? v position = none := by
  simp [step?, blocksOf, unknown]

theorem chains_of_no_source (unknown : program.sourceOf? v = none) (limit : Nat) :
    program.chains limit v = [] := by
  cases limit <;> simp [chains, unknown]

theorem cons_mem_chains {limit position : Nat} {chain : List Nat} :
    position :: chain ∈ program.chains (limit + 1) v ↔
      ∃ name, program.step? v position = some name ∧
        chain ∈ program.chains limit (.module name) := by
  cases known : program.sourceOf? v with
  | none => simp [chains_of_no_source known, step?_of_no_source known]
  | some found =>
      simp only [chains, known, Option.isNone_some, Bool.false_eq_true, if_false,
        List.mem_cons, reduceCtorEq, false_or, List.mem_flatMap, List.mem_range]
      constructor
      · rintro ⟨other, -, inside⟩
        cases leads : program.step? v other with
        | none => simp [leads] at inside
        | some name =>
            simp only [leads, Option.elim_some, List.mem_map, List.cons.injEq] at inside
            obtain ⟨rest, inside, rfl, rfl⟩ := inside
            exact ⟨name, leads, inside⟩
      · rintro ⟨name, leads, inside⟩
        have below : position < (program.blocksOf v).length := by
          obtain ⟨block, found, -⟩ := Option.bind_eq_some_iff.mp leads
          exact (List.getElem?_eq_some_iff.mp found).1
        refine ⟨position, below, ?_⟩
        simpa [leads] using inside

theorem mem_chains {limit : Nat} {chain : List Nat} :
    chain ∈ program.chains limit v ↔
      chain.length < limit ∧ (program.endOf? v chain).isSome = true := by
  induction limit generalizing v chain with
  | zero => simp [chains]
  | succ limit ih =>
      cases chain with
      | nil =>
          cases known : program.sourceOf? v with
          | none => simp [chains_of_no_source known, endOf?, follow, known]
          | some found => simp [chains, known, endOf?, follow]
      | cons position chain =>
          rw [cons_mem_chains]
          cases leads : program.step? v position with
          | none => simp [endOf?, follow, leads]
          | some name => simp [ih, endOf?_cons leads]

theorem nodup_chains (limit : Nat) (v : Value) : (program.chains limit v).Nodup := by
  induction limit generalizing v with
  | zero => simp [chains]
  | succ limit ih =>
      simp only [chains]
      split
      · simp
      · refine List.nodup_cons.mpr ⟨?_, List.nodup_flatMap.mpr ⟨?_, ?_⟩⟩
        · simp only [List.mem_flatMap, not_exists, not_and]
          intro position _ inside
          cases leads : program.step? v position <;> simp [leads] at inside
        · intro position _
          cases program.step? v position with
          | none => simp
          | some name => exact (ih _).map fun _ _ same => (List.cons.inj same).2
        · -- Chains from different blocks differ in their first position.
          refine List.nodup_range.imp ?_
          intro first second differs chain inside inside'
          have opens (position : Nat)
              (inside : chain ∈ (program.step? v position).elim [] fun name =>
              (program.chains limit (.module name)).map (position :: ·)) :
              chain.head? = some position := by
            cases leads : program.step? v position with
            | none => simp [leads] at inside
            | some name =>
                simp only [leads, Option.elim_some, List.mem_map] at inside
                obtain ⟨rest, -, rfl⟩ := inside
                rfl
          have same := (opens first inside).symm.trans (opens second inside')
          exact differs (Option.some.inj same)

theorem flatMap_positions {α β : Type} (f : α → List β) (items : List α) :
    (List.range items.length).flatMap (fun position => items[position]?.elim [] f) =
      items.flatMap f := by
  induction items with
  | nil => rfl
  | cons item items ih =>
      rw [List.length_cons, List.range_succ_eq_map, List.flatMap_cons, List.flatMap_map]
      simp [ih]

theorem ends_succ {module source : String}
    (known : program.sourceOf? v = some (module, source)) (limit : Nat) :
    program.ends (limit + 1) v = module :: (guardedBlocks source).flatMap fun block =>
      (program.next? v block).elim [] fun name =>
        program.ends limit (.module name) := by
  have blocks : program.blocksOf v = guardedBlocks source := by simp [blocksOf, known]
  have at_position (position : Nat) :
      ((program.step? v position).elim [] fun name =>
        (program.chains limit (.module name)).map (position :: ·)).filterMap
          (program.endOf? v) =
      (program.blocksOf v)[position]?.elim [] fun block =>
        (program.next? v block).elim [] fun name =>
          program.ends limit (.module name) := by
    cases at_block : (program.blocksOf v)[position]? with
    | none => simp [step?, at_block]
    | some block =>
        cases leads : program.next? v block with
        | none => simp [step?, at_block, leads]
        | some name =>
            have leads' : program.step? v position = some name := by
              simp [step?, at_block, leads]
            simp only [leads', Option.elim_some, leads, List.filterMap_map, ends]
            exact List.filterMap_congr fun chain _ => endOf?_cons leads' chain
  have own : program.endOf? v [] = some module := by simp [endOf?, follow, known]
  simp only [ends, chains, known, Option.isNone_some, Bool.false_eq_true, if_false,
    List.filterMap_cons, own, List.filterMap_flatMap, at_position]
  rw [flatMap_positions, blocks]

theorem map_some_ends (limit : Nat) (v : Value) :
    (program.ends limit v).map some =
      (program.chains limit v).map (program.endOf? v) := by
  have all : ∀ chain ∈ program.chains limit v, (program.endOf? v chain).isSome = true :=
    fun chain inside => (mem_chains.mp inside).2
  unfold ends
  generalize program.chains limit v = chains at all
  induction chains with
  | nil => rfl
  | cons chain chains ih =>
      obtain ⟨ended, all⟩ := List.forall_mem_cons.mp all
      obtain ⟨module, ends_at⟩ := Option.isSome_iff_exists.mp ended
      simp [ends_at, ih all]

theorem length_ends (limit : Nat) (v : Value) :
    (program.ends limit v).length = (program.chains limit v).length := by
  simpa using congrArg List.length (map_some_ends limit v)

theorem count_ends_le_one_iff :
    (∀ limit module, (program.ends limit v).count module ≤ 1) ↔
      ∀ chain chain' module, program.endOf? v chain = some module →
        program.endOf? v chain' = some module → chain = chain' := by
  have unique (limit : Nat) : (program.ends limit v).Nodup ↔
      ∀ chain ∈ program.chains limit v, ∀ chain' ∈ program.chains limit v,
        program.endOf? v chain = program.endOf? v chain' → chain = chain' := by
    rw [← List.nodup_map_iff_inj_on (nodup_chains limit v), ← map_some_ends]
    exact (List.nodup_map_iff fun _ _ same => Option.some.inj same).symm
  simp only [← List.nodup_iff_count_le_one, unique]
  constructor
  · intro distinct chain chain' module ends_at ends_at'
    have inside (c : List Nat) (ends_at : program.endOf? v c = some module)
        (shorter : c.length < max chain.length chain'.length + 1) :
        c ∈ program.chains (max chain.length chain'.length + 1) v :=
      mem_chains.mpr ⟨shorter, by simp [ends_at]⟩
    exact distinct _ chain (inside chain ends_at (by omega)) chain'
      (inside chain' ends_at' (by omega)) (ends_at.trans ends_at'.symm)
  · intro distinct limit chain inside chain' _ same
    obtain ⟨module, ends_at⟩ := Option.isSome_iff_exists.mp (mem_chains.mp inside).2
    exact distinct chain chain' module ends_at (same ▸ ends_at)

/-! ## Loops -/

theorem follow_append (v : Value) (chain rest : List Nat) :
    program.follow v (chain ++ rest) =
      (program.follow v chain).bind fun w => program.follow w rest := by
  induction chain generalizing v with
  | nil => rfl
  | cons position chain ih =>
      cases leads : program.step? v position with
      | none => simp [follow, leads]
      | some name => simp [follow, leads, ih]

theorem sourceOf?_of_follow {chain : List Nat} {w : Value}
    (leads : program.follow v chain = some w) (some_chain : chain ≠ []) :
    (program.sourceOf? v).isSome = true := by
  cases chain with
  | nil => exact absurd rfl some_chain
  | cons position chain =>
      cases known : program.sourceOf? v with
      | none => simp [follow, step?_of_no_source known] at leads
      | some found => rfl

theorem endOf?_take {chain : List Nat}
    (ended : (program.endOf? v chain).isSome = true) (length : Nat) :
    (program.endOf? v (chain.take length)).isSome = true := by
  induction chain generalizing v length with
  | nil => simpa using ended
  | cons position chain ih =>
      cases length with
      | zero =>
          obtain ⟨module, ends_at⟩ := Option.isSome_iff_exists.mp ended
          obtain ⟨w, leads, -⟩ := Option.bind_eq_some_iff.mp ends_at
          have known := sourceOf?_of_follow leads (by simp)
          simpa [endOf?, follow] using known
      | succ length =>
          cases leads : program.step? v position with
          | none => simp [endOf?, follow, leads] at ended
          | some name =>
              rw [endOf?_cons leads] at ended
              rw [List.take_succ_cons, endOf?_cons leads]
              exact ih ended length

/-- A chain passes through as many runs as it is long, and ends with one more. -/
theorem length_lt_ends {chain : List Nat} {limit : Nat} (below : chain.length < limit)
    (ended : (program.endOf? v chain).isSome = true) :
    chain.length < (program.ends limit v).length := by
  have distinct : ((List.range (chain.length + 1)).map chain.take).Nodup := by
    refine (List.nodup_map_iff_inj_on List.nodup_range).mpr ?_
    intro first first_below second second_below same
    have lengths := congrArg List.length same
    simp only [List.length_take, List.mem_range] at lengths first_below second_below
    omega
  have inside : (List.range (chain.length + 1)).map chain.take ⊆
      program.chains limit v := by
    intro part part_of
    obtain ⟨length, -, rfl⟩ := List.mem_map.mp part_of
    refine mem_chains.mpr ⟨?_, endOf?_take ended length⟩
    rw [List.length_take]
    omega
  have bound := (distinct.subperm inside).length_le
  rw [List.length_map, List.length_range, ← length_ends] at bound
  exact bound

/-- No chain from a value comes back to where it has been. -/
def Acyclic (program : GuardedProgram) (v : Value) : Prop :=
  ∀ chain loop w, program.follow v chain = some w → program.follow w loop = some w →
    loop = []

theorem follow_repeated {loop : List Nat} (comes_back : program.follow v loop = some v)
    (times : Nat) : program.follow v (List.replicate times loop).flatten = some v := by
  induction times with
  | zero => rfl
  | succ times ih =>
      rw [List.replicate_succ, List.flatten_cons, follow_append, comes_back]
      exact ih

theorem le_length_repeated {loop : List Nat} (some_loop : loop ≠ []) (times : Nat) :
    times ≤ (List.replicate times loop).flatten.length := by
  have positive : 0 < loop.length := List.length_pos_iff.mpr some_loop
  induction times with
  | zero => exact Nat.zero_le _
  | succ times ih =>
      rw [List.replicate_succ, List.flatten_cons, List.length_append]
      omega

theorem acyclic_of_bounded {bound : Nat}
    (bounded : ∀ limit, (program.ends limit v).length ≤ bound) : program.Acyclic v := by
  intro chain loop w leads comes_back
  refine Classical.byContradiction fun some_loop => ?_
  have long : bound < (chain ++ (List.replicate (bound + 1) loop).flatten).length := by
    have repeated := le_length_repeated some_loop (bound + 1)
    rw [List.length_append]
    omega
  have ended : (program.endOf? v
      (chain ++ (List.replicate (bound + 1) loop).flatten)).isSome = true := by
    have known := sourceOf?_of_follow comes_back some_loop
    simpa [endOf?, follow_append, leads, follow_repeated comes_back] using known
  have runs := length_lt_ends (Nat.lt_succ_self _) ended
  have most := bounded (chain ++ (List.replicate (bound + 1) loop).flatten).length.succ
  omega

def visited (program : GuardedProgram) : Value → List Nat → List String
  | _, [] => []
  | v, position :: chain =>
    (program.step? v position).elim [] fun name =>
      name :: visited program (.module name) chain

theorem visited_cons {position : Nat} {name : String}
    (leads : program.step? v position = some name) (chain : List Nat) :
    program.visited v (position :: chain) =
      name :: program.visited (.module name) chain := by
  simp [visited, leads]

theorem mem_modules_of_step? {position : Nat} {name : String}
    (leads : program.step? v position = some name) : name ∈ program.modules := by
  obtain ⟨block, -, next⟩ := Option.bind_eq_some_iff.mp leads
  unfold next? at next
  split at next
  · cases next
  · split at next
    · obtain ⟨-, done⟩ := Option.filter_eq_some_iff.mp next
      apply program.loaded
      cases loading : program.loading name with
      | ok done => rfl
      | error f => simp [loading, Except.isOk, Except.toBool] at done
    · cases next

theorem visited_subset (v : Value) (chain : List Nat) :
    program.visited v chain ⊆ program.modules := by
  induction chain generalizing v with
  | nil => simp [visited]
  | cons position chain ih =>
      cases leads : program.step? v position with
      | none => simp [visited, leads]
      | some name =>
          rw [visited_cons leads]
          exact List.cons_subset.mpr ⟨mem_modules_of_step? leads, ih _⟩

theorem length_visited {chain : List Nat} {w : Value}
    (leads : program.follow v chain = some w) :
    (program.visited v chain).length = chain.length := by
  induction chain generalizing v with
  | nil => rfl
  | cons position chain ih =>
      cases next : program.step? v position with
      | none => simp [follow, next] at leads
      | some name =>
          rw [follow_cons next] at leads
          simp [visited_cons next, ih leads]

theorem follow_of_mem_visited {chain : List Nat} {name : String}
    (passed : name ∈ program.visited v chain) :
    ∃ part, part ≠ [] ∧ program.follow v part = some (.module name) := by
  induction chain generalizing v with
  | nil => simp [visited] at passed
  | cons position chain ih =>
      cases leads : program.step? v position with
      | none => simp [visited, leads] at passed
      | some first =>
          rw [visited_cons leads] at passed
          rcases List.mem_cons.mp passed with rfl | passed
          · exact ⟨[position], by simp, by simp [follow, leads]⟩
          · obtain ⟨part, -, reaches⟩ := ih passed
            exact ⟨position :: part, by simp, by rw [follow_cons leads, reaches]⟩

theorem Acyclic.after {position : Nat} {name : String} (acyclic : program.Acyclic v)
    (leads : program.step? v position = some name) :
    program.Acyclic (.module name) := by
  intro chain loop w reaches comes_back
  exact acyclic (position :: chain) loop w (by rw [follow_cons leads, reaches])
    comes_back

theorem Acyclic.nodup_visited (acyclic : program.Acyclic v) (chain : List Nat) :
    (program.visited v chain).Nodup := by
  induction chain generalizing v with
  | nil => simp [visited]
  | cons position chain ih =>
      cases leads : program.step? v position with
      | none => simp [visited, leads]
      | some name =>
          rw [visited_cons leads]
          refine List.nodup_cons.mpr ⟨fun passed => ?_, ih (acyclic.after leads)⟩
          obtain ⟨part, some_part, comes_back⟩ := follow_of_mem_visited passed
          exact some_part
            (acyclic [position] part _ (by simp [follow, leads]) comes_back)

theorem Acyclic.length_ends_le (acyclic : program.Acyclic v) (limit : Nat) :
    (program.ends limit v).length ≤
      (program.ends (program.modules.length + 1) v).length := by
  have inside : program.chains limit v ⊆
      program.chains (program.modules.length + 1) v := by
    intro chain chain_in
    have ended := (mem_chains.mp chain_in).2
    obtain ⟨module, ends_at⟩ := Option.isSome_iff_exists.mp ended
    obtain ⟨w, leads, -⟩ := Option.bind_eq_some_iff.mp ends_at
    have most :=
      ((acyclic.nodup_visited chain).subperm (visited_subset v chain)).length_le
    rw [length_visited leads] at most
    exact mem_chains.mpr ⟨by omega, ended⟩
  rw [length_ends, length_ends]
  exact ((nodup_chains limit v).subperm inside).length_le

end

end GuardedProgram

end DocHints.Hints
