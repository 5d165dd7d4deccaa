import DocHints.Proofs.TypeMapping

/-!
# The order of the roles

The documented names are visited role by role, and a name takes the place of an
earlier one that leads to the same path.  So a path is mapped to the last name
of the last role that has one for it.  Which paths are mapped does not depend on
the order of the roles.  The names that they are mapped to do, unless all roles
with a name for a path end in the same name.
-/

namespace DocHints

/-! ## The last name -/

def lastName? (registry : Registry) (path : String) (names : List String) :
    Option String :=
  (names.filter fun name => pathOfDocumented? registry name == some path).getLast?

theorem lastName?_append (registry : Registry) (path : String)
    (earlier later : List String) : lastName? registry path (earlier ++ later) =
      (lastName? registry path later).or (lastName? registry path earlier) := by
  simp [lastName?, List.getLast?_append]

section

variable {registry : Registry} {documented : List String} {path : String}

theorem lookup_addName (mapping : List (String × String)) (name : String)
    (undocumented : path ∉ documented) :
    (addName registry documented mapping name).lookup path =
      (lastName? registry path [name]).or (mapping.lookup path) := by
  unfold addName lastName?
  cases leads : pathOfDocumented? registry name with
  | none => simp [leads]
  | some own =>
      by_cases same : own = path
      · subst same
        simp [leads, undocumented, Entries.lookup_put]
      · have apart : path ≠ own := fun equal => same equal.symm
        by_cases inside : own ∈ documented
        · simp [leads, inside, same]
        · simp [leads, inside, same, Entries.lookup_put, apart]

theorem lookup_addNames (mapping : List (String × String)) (names : List String)
    (undocumented : path ∉ documented) :
    (names.foldl (addName registry documented) mapping).lookup path =
      (lastName? registry path names).or (mapping.lookup path) := by
  induction names generalizing mapping with
  | nil => simp [lastName?]
  | cons name names ih =>
      have split : name :: names = [name] ++ names := rfl
      rw [List.foldl_cons, ih, lookup_addName mapping name undocumented, split,
        lastName?_append, Option.or_assoc]

end

theorem nodup_keys_typeMappingIn (roles : List String) (registry : Registry)
    (inventory : Inventory) :
    ((typeMappingIn roles registry inventory).map Prod.fst).Nodup := by
  refine List.foldlRecOn (motive := fun mapping : List (String × String) =>
    (mapping.map Prod.fst).Nodup) (inventory.entriesIn roles)
    (addName registry (inventory.documentedIn roles)) List.nodup_nil ?_
  intro mapping distinct name _
  rcases addName_cases registry (inventory.documentedIn roles) mapping name with
    ⟨own, -, -, added⟩ | ⟨-, same⟩
  · rw [added]
    exact Entries.nodup_keys_put distinct
  · rw [same]
    exact distinct

theorem lookup_typeMappingIn (roles : List String) (registry : Registry)
    (inventory : Inventory) (path : String) :
    (typeMappingIn roles registry inventory).lookup path =
      if path ∈ inventory.documentedIn roles then none
      else lastName? registry path (inventory.entriesIn roles) := by
  split
  · rename_i inside
    rw [List.lookup_eq_none_iff]
    intro entry listed
    have changed := (mem_keys_iff.mp (List.mem_map_of_mem listed)).1
    exact bne_iff_ne.mpr fun same => changed (same ▸ inside)
  · rename_i undocumented
    calc (typeMappingIn roles registry inventory).lookup path
        = ((inventory.entriesIn roles).foldl
            (addName registry (inventory.documentedIn roles)) []).lookup path := rfl
      _ = (lastName? registry path (inventory.entriesIn roles)).or none :=
          lookup_addNames [] _ undocumented
      _ = lastName? registry path (inventory.entriesIn roles) := Option.or_none

/-! ## Role by role -/

def roleName? (registry : Registry) (inventory : Inventory) (path role : String) :
    Option String :=
  lastName? registry path (inventory.entriesIn [role])

/--
The roles that have a name for a path end in the same one, for all paths that
can be mapped.
-/
def RolesAgree (registry : Registry) (inventory : Inventory) : Prop :=
  ∀ path, path ∉ inventory.documentedIn Inventory.typeRoles →
    ∀ first ∈ Inventory.typeRoles, ∀ second ∈ Inventory.typeRoles, ∀ name other,
      roleName? registry inventory path first = some name →
      roleName? registry inventory path second = some other → name = other

section

variable {registry : Registry} {inventory : Inventory} {path : String}
  {roles : List String}

theorem lastName?_entriesIn :
    lastName? registry path (inventory.entriesIn roles) =
      (roles.filterMap (roleName? registry inventory path)).getLast? := by
  induction roles with
  | nil => rfl
  | cons role roles ih =>
      have split : inventory.entriesIn (role :: roles) =
          inventory.entriesIn [role] ++ inventory.entriesIn roles := by
        simp [Inventory.entriesIn]
      rw [split, lastName?_append, ih]
      change Option.or _ (roleName? registry inventory path role) = _
      cases named : roleName? registry inventory path role with
      | none => simp [List.filterMap_cons_none named]
      | some name =>
          simp [List.filterMap_cons_some named, List.getLast?_cons, Option.or_some]

theorem mem_documentedIn_of_perm (order : roles.Perm Inventory.typeRoles) :
    path ∈ inventory.documentedIn roles ↔
      path ∈ inventory.documentedIn Inventory.typeRoles :=
  ((order.flatMap_right _).flatMap_right _).mem_iff

theorem lookup_of_order (order : roles.Perm Inventory.typeRoles) :
    (typeMappingIn roles registry inventory).lookup path =
      if path ∈ inventory.documentedIn Inventory.typeRoles then none
      else (roles.filterMap (roleName? registry inventory path)).getLast? := by
  rw [lookup_typeMappingIn, lastName?_entriesIn]
  simp only [mem_documentedIn_of_perm order]

theorem exists_order_of_role {role name : String} (is_role : role ∈ Inventory.typeRoles)
    (undocumented : path ∉ inventory.documentedIn Inventory.typeRoles)
    (named : roleName? registry inventory path role = some name) :
    ∃ roles, roles.Perm Inventory.typeRoles ∧
      (typeMappingIn roles registry inventory).lookup path = some name := by
  have order : (Inventory.typeRoles.erase role ++ [role]).Perm Inventory.typeRoles :=
    (List.perm_append_singleton role _).trans (List.perm_cons_erase is_role).symm
  refine ⟨_, order, ?_⟩
  rw [lookup_of_order order, if_neg undocumented, List.filterMap_append,
    List.filterMap_cons_some named]
  simp

end

theorem getLast?_eq_of_perm {names others : List String} (perm : names.Perm others)
    (same : ∀ name ∈ names, ∀ other ∈ names, name = other) :
    names.getLast? = others.getLast? := by
  cases last : others.getLast? with
  | none =>
      rw [List.getLast?_eq_none_iff] at last ⊢
      exact (last ▸ perm).eq_nil
  | some other =>
      have inside : other ∈ names := perm.mem_iff.mpr (List.mem_of_getLast? last)
      cases first : names.getLast? with
      | none =>
          rw [List.getLast?_eq_none_iff] at first
          simp [first] at inside
      | some name => rw [same name (List.mem_of_getLast? first) other inside]

/--
In every order of the roles the same paths are mapped, each to the last name of
the last role that has one.  The mapping does not depend on the order exactly if
the roles agree.
-/
theorem typeMappingIn_order_iff (registry : Registry) (inventory : Inventory) :
    (∀ roles : List String, roles.Perm Inventory.typeRoles → ∀ path,
      (typeMappingIn roles registry inventory).lookup path =
        if path ∈ inventory.documentedIn Inventory.typeRoles then none
        else (roles.filterMap (roleName? registry inventory path)).getLast?) ∧
    ((∀ first second : List String, first.Perm Inventory.typeRoles →
        second.Perm Inventory.typeRoles →
        (typeMappingIn first registry inventory).Perm
          (typeMappingIn second registry inventory)) ↔
      RolesAgree registry inventory) := by
  refine ⟨fun roles order path => lookup_of_order order, ?_⟩
  constructor
  · intro same path undocumented first is_first second is_second name other named named'
    obtain ⟨roles, order, found⟩ := exists_order_of_role is_first undocumented named
    obtain ⟨roles', order', found'⟩ :=
      exists_order_of_role is_second undocumented named'
    have equal :=
      (Entries.perm_iff_lookup (nodup_keys_typeMappingIn roles registry inventory)
        (nodup_keys_typeMappingIn roles' registry inventory)).mp
          (same roles roles' order order') path
    rw [found, found'] at equal
    exact Option.some.inj equal
  · intro agree first second order order'
    refine (Entries.perm_iff_lookup (nodup_keys_typeMappingIn _ _ _)
      (nodup_keys_typeMappingIn _ _ _)).mpr fun path => ?_
    rw [lookup_of_order order, lookup_of_order order']
    split
    · rfl
    · rename_i undocumented
      refine getLast?_eq_of_perm ((order.trans order'.symm).filterMap _) ?_
      intro name inside other inside'
      obtain ⟨role, is_role, named⟩ := List.mem_filterMap.mp inside
      obtain ⟨role', is_role', named'⟩ := List.mem_filterMap.mp inside'
      exact agree path undocumented role (order.mem_iff.mp is_role) role'
        (order.mem_iff.mp is_role') name other named named'

def twinNames : Registry :=
  [⟨"m", true, [("A", .cls ⟨"m._impl", "T", .declared, true⟩),
    ("B", .cls ⟨"m._impl", "T", .declared, true⟩)]⟩]

def repeatedNames : Inventory :=
  [("py:class", ["m.A", "m.B"]), ("py:data", ["m.B"])]

theorem typeMappingIn_order_iff_repeated :
    typeMapping twinNames repeatedNames = [("m._impl.T", "m.B")] ∧
      ∀ first second : List String, first.Perm Inventory.typeRoles →
        second.Perm Inventory.typeRoles →
        (typeMappingIn first twinNames repeatedNames).Perm
          (typeMappingIn second twinNames repeatedNames) := by
  have path_a : pathOfDocumented? twinNames "m.A" = some "m._impl.T" := by
    decide +kernel
  have path_b : pathOfDocumented? twinNames "m.B" = some "m._impl.T" := by
    decide +kernel
  have listed : ∀ role ∈ Inventory.typeRoles, repeatedNames.entriesIn [role] =
      ["m.A", "m.B"] ∨
      repeatedNames.entriesIn [role] = ["m.B"] ∨
        repeatedNames.entriesIn [role] = [] := by
    decide
  have last : ∀ path, ∀ role ∈ Inventory.typeRoles, ∀ name,
      roleName? twinNames repeatedNames path role = some name → name = "m.B" := by
    intro path role is_role name named
    unfold roleName? lastName? at named
    by_cases own : "m._impl.T" = path
    · rcases listed role is_role with names | names | names <;>
        simp [names, path_a, path_b, own] at named
      · exact named.symm
      · exact named.symm
    · rcases listed role is_role with names | names | names <;>
        simp [names, path_a, path_b, own] at named
  refine ⟨by decide +kernel, (typeMappingIn_order_iff twinNames repeatedNames).2.mpr ?_⟩
  intro path _ first is_first second is_second name other named named'
  rw [last path first is_first name named, last path second is_second other named']

def crossedNames : Inventory :=
  [("py:class", ["m.A"]), ("py:function", ["m.B"]), ("py:exception", ["m.B"]),
    ("py:data", ["m.B"])]

/-- Two orders of the roles give different names to the same class. -/
theorem role_order_shows :
    ["py:function", "py:exception", "py:data", "py:class"].Perm Inventory.typeRoles ∧
      typeMappingIn Inventory.typeRoles twinNames crossedNames =
        [("m._impl.T", "m.B")] ∧
      typeMappingIn ["py:function", "py:exception", "py:data",
        "py:class"] twinNames crossedNames = [("m._impl.T", "m.A")] ∧
      ¬ (typeMappingIn Inventory.typeRoles twinNames crossedNames).Perm
        (typeMappingIn ["py:function", "py:exception", "py:data", "py:class"] twinNames
          crossedNames) := by
  have first : typeMappingIn Inventory.typeRoles twinNames crossedNames =
      [("m._impl.T", "m.B")] := by
    decide +kernel
  have second : typeMappingIn ["py:function", "py:exception", "py:data",
      "py:class"] twinNames crossedNames = [("m._impl.T", "m.A")] := by
    decide +kernel
  refine ⟨by decide, first, second, ?_⟩
  rw [first, second]
  decide

end DocHints
