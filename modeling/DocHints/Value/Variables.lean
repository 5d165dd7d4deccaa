import DocHints.Value.Equal

/-!
# Variables of a type

The type variables and parameter specifications that occur in a type.  They are
what a generic type can be given values for.
-/

namespace DocHints.Value

mutual

/-- The variables that occur in a type, in order, with repetitions. -/
def allVariables : Value → List Value
  | .typeVar v bound constraints => [.typeVar v bound constraints]
  | .paramSpec v bound => [.paramSpec v bound]
  | .applied _ args => variablesOf args
  | .indexed _ args => variablesOf args
  | .union members => variablesOf members
  | .bars members => variablesOf members
  | .annotated base _ => allVariables base
  | _ => []

def variablesOf : List Value → List Value
  | [] => []
  | v :: rest => allVariables v ++ variablesOf rest

end

def freeVariables (v : Value) : List Value :=
  distinct equal (allVariables v)

theorem mem_of_mem_distinct {same : Value → Value → Bool} {u : Value} :
    ∀ {vs : List Value}, u ∈ distinct same vs → u ∈ vs
  | [], h => by simp [distinct] at h
  | v :: rest, h => by
    simp only [distinct, List.mem_cons, List.mem_filter] at h
    rcases h with h | ⟨h, _⟩
    · exact List.mem_cons.2 (Or.inl h)
    · exact List.mem_cons.2 (Or.inr (mem_of_mem_distinct h))

mutual

theorem sizeOf_le_of_mem_allVariables {u : Value} :
    ∀ (v : Value), u ∈ allVariables v → sizeOf u ≤ sizeOf v
  | .typeVar v bound constraints, h => by
    simp only [allVariables, List.mem_singleton] at h
    exact Nat.le_of_eq (congrArg sizeOf h)
  | .paramSpec v bound, h => by
    simp only [allVariables, List.mem_singleton] at h
    exact Nat.le_of_eq (congrArg sizeOf h)
  | .applied head args, h => by
    have := sizeOf_le_of_mem_variablesOf args (by simpa only [allVariables] using h)
    simp only [applied.sizeOf_spec]
    omega
  | .indexed c args, h => by
    have := sizeOf_le_of_mem_variablesOf args (by simpa only [allVariables] using h)
    simp only [indexed.sizeOf_spec]
    omega
  | .union members, h => by
    have := sizeOf_le_of_mem_variablesOf members (by simpa only [allVariables] using h)
    simp only [union.sizeOf_spec]
    omega
  | .bars members, h => by
    have := sizeOf_le_of_mem_variablesOf members (by simpa only [allVariables] using h)
    simp only [bars.sizeOf_spec]
    omega
  | .annotated base metadata, h => by
    have := sizeOf_le_of_mem_allVariables base (by simpa only [allVariables] using h)
    simp only [annotated.sizeOf_spec]
    omega
  | .none, h | .ellipsis, h | .notImplemented, h | .bool _, h | .int _,
    h | .float _, h | .str _, h
  | .bytes _, h | .list _, h | .tuple _, h | .dict _, h | .shown _,
    h | .member _ _ _, h | .cls _, h
  | .routine _ _ _, h | .form _, h | .literal _, h | .paramArgs _, h | .paramKwargs _, h
  | .newType _ _ _, h | .forwardRef _, h | .aliasName _ _, h | .typeAlias _,
    h | .instanceOf _ _, h
  | .doc _, h | .module _, h | .object _, h => by simp [allVariables] at h

theorem sizeOf_le_of_mem_variablesOf {u : Value} :
    ∀ (vs : List Value), u ∈ variablesOf vs → sizeOf u ≤ sizeOf vs
  | [], h => by simp [variablesOf] at h
  | v :: rest, h => by
    simp only [variablesOf, List.mem_append] at h
    simp only [List.cons.sizeOf_spec]
    rcases h with h | h
    · have := sizeOf_le_of_mem_allVariables v h
      omega
    · have := sizeOf_le_of_mem_variablesOf rest h
      omega

end

end DocHints.Value
