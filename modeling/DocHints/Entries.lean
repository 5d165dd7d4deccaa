/-!
# Entries by name

Names with what they stand for.  A name keeps the place at which it was first given.
-/

namespace DocHints

abbrev Entries (α : Type) := List (String × α)

namespace Entries

variable {α : Type}

def find? (entries : Entries α) (name : String) : Option α :=
  (List.find? (·.1 == name) entries).map (·.2)

/-- Gives a name a value; a new name goes to the end. -/
def put : Entries α → String → α → Entries α
  | [], name, v => [(name, v)]
  | entry :: rest, name, v =>
    if entry.1 == name then (name, v) :: rest else entry :: put rest name v

def putSome (entries : Entries α) (entry : String × Option α) : Entries α :=
  match entry.2 with
  | some v => entries.put entry.1 v
  | none => entries

def putAll (entries others : Entries α) : Entries α :=
  others.foldl (fun known entry => known.put entry.1 entry.2) entries

def remove (entries : Entries α) (name : String) : Entries α :=
  entries.filter (·.1 != name)

section Put

variable {entries : Entries α} {entry : String × α} {name other : String} {v : α}

theorem put_of_new (new : name ∉ entries.map (·.1)) :
    entries.put name v = entries ++ [(name, v)] := by
  induction entries with
  | nil => rfl
  | cons first rest ih =>
      simp only [List.map_cons, List.mem_cons, not_or] at new
      have apart : (first.1 == name) = false := by simpa using Ne.symm new.1
      rw [put, apart, if_neg Bool.false_ne_true, ih new.2, List.cons_append]

theorem mem_put_self (entries : Entries α) (name : String) (v : α) :
    (name, v) ∈ entries.put name v := by
  induction entries with
  | nil => simp [put]
  | cons first rest ih =>
      rw [put]
      split
      · simp
      · exact List.mem_cons_of_mem _ ih

theorem mem_put_of_mem (name : String) (v : α) (inside : entry ∈ entries) :
    entry ∈ entries.put name v ∨ entry.1 = name := by
  induction entries with
  | nil => cases inside
  | cons first rest ih =>
      rw [put]
      split
      · rename_i same
        rcases List.mem_cons.mp inside with rfl | later
        · exact .inr (eq_of_beq same)
        · exact .inl (List.mem_cons_of_mem _ later)
      · rcases List.mem_cons.mp inside with rfl | later
        · exact .inl List.mem_cons_self
        · exact (ih later).imp_left (List.mem_cons_of_mem _)

theorem mem_of_mem_put (inside : entry ∈ entries.put name v) :
    entry = (name, v) ∨ entry ∈ entries := by
  induction entries with
  | nil => simpa [put] using inside
  | cons first rest ih =>
      rw [put] at inside
      split at inside
      · exact (List.mem_cons.mp inside).imp_right (List.mem_cons_of_mem _)
      · rcases List.mem_cons.mp inside with rfl | later
        · exact .inr List.mem_cons_self
        · exact (ih later).imp_right (List.mem_cons_of_mem _)

theorem mem_keys_put :
    other ∈ (entries.put name v).map Prod.fst ↔
      other = name ∨ other ∈ entries.map Prod.fst := by
  induction entries with
  | nil => simp [put]
  | cons first rest ih =>
      rw [put]
      split
      · rename_i same
        simp [eq_of_beq same]
      · simp only [List.map_cons, List.mem_cons, ih]
        exact or_left_comm

theorem nodup_keys_put (distinct : (entries.map Prod.fst).Nodup) :
    ((entries.put name v).map Prod.fst).Nodup := by
  induction entries with
  | nil => simp [put]
  | cons first rest ih =>
      obtain ⟨fresh, distinct⟩ := List.nodup_cons.mp distinct
      rw [put]
      split
      · rename_i same
        exact List.nodup_cons.mpr ⟨eq_of_beq same ▸ fresh, distinct⟩
      · rename_i apart
        refine List.nodup_cons.mpr ⟨?_, ih distinct⟩
        rw [mem_keys_put, not_or]
        exact ⟨fun same => apart (beq_iff_eq.mpr same), fresh⟩

end Put

theorem foldl_putSome {given : List (String × Option α)} {entries : Entries α}
    (distinct : (entries.map (·.1) ++ given.map (·.1)).Nodup) :
    given.foldl putSome entries =
      entries ++ given.filterMap fun entry => entry.2.map (entry.1, ·) := by
  induction given generalizing entries with
  | nil => simp
  | cons entry rest ih =>
      obtain ⟨name, value⟩ := entry
      rw [List.foldl_cons]
      cases value with
      | none =>
          have later : (entries.map (·.1) ++ rest.map (·.1)).Nodup :=
            distinct.sublist ((List.sublist_cons_self _ _).append_left _)
          simpa [putSome] using ih later
      | some v =>
          have new : name ∉ entries.map (·.1) := fun inside =>
            (List.nodup_append.mp distinct).2.2 name inside name (by simp) rfl
          have later : ((entries ++ [(name, v)]).map (·.1) ++
              rest.map (·.1)).Nodup := by
            simpa using distinct
          change List.foldl putSome (entries.put name v) rest = _
          rw [put_of_new new, ih later]
          simp

/-! ## Entries as a table -/

theorem lookup_entry (name : String) (entry : String × α) (rest : Entries α) :
    (entry :: rest).lookup name =
      if name = entry.1 then some entry.2 else rest.lookup name := by
  rw [List.lookup_cons]
  cases same : name == entry.1 with
  | true => rw [if_pos (eq_of_beq same)]
  | false => rw [if_neg (beq_eq_false_iff_ne.mp same)]

theorem lookup_put (entries : Entries α) (name other : String) (v : α) :
    (entries.put name v).lookup other =
      if other = name then some v else entries.lookup other := by
  induction entries with
  | nil => rw [put, lookup_entry]
  | cons entry rest ih =>
      rw [put]
      split
      · rename_i own
        rw [lookup_entry, lookup_entry, eq_of_beq own]
        split <;> rfl
      · rename_i apart
        rw [beq_iff_eq] at apart
        rw [lookup_entry, lookup_entry, ih]
        by_cases first : other = entry.1
        · have differs : other ≠ name := fun same => apart (first ▸ same)
          rw [if_pos first, if_pos first, if_neg differs]
        · rw [if_neg first, if_neg first]

theorem mem_iff_lookup {entries : Entries α} (distinct : (entries.map Prod.fst).Nodup)
    {entry : String × α} : entry ∈ entries ↔ entries.lookup entry.1 = some entry.2 := by
  induction entries with
  | nil => simp
  | cons first rest ih =>
      obtain ⟨fresh, distinct⟩ := List.nodup_cons.mp distinct
      rw [List.mem_cons, lookup_entry]
      by_cases same : entry.1 = first.1
      · have absent : entry ∉ rest :=
          fun inside => fresh (same ▸ List.mem_map_of_mem inside)
        simp [same, absent, Prod.ext_iff, eq_comm]
      · have apart : entry ≠ first := fun equal => same (congrArg Prod.fst equal)
        simp [same, apart, ih distinct]

theorem perm_iff_lookup {first second : Entries α}
    (distinct : (first.map Prod.fst).Nodup) (distinct' : (second.map Prod.fst).Nodup) :
    first.Perm second ↔ ∀ name, first.lookup name = second.lookup name := by
  have apart : ∀ {entries : Entries α}, (entries.map Prod.fst).Nodup → entries.Nodup :=
    fun keys => List.Pairwise.of_map Prod.fst
      (fun _ _ differs same => differs (congrArg _ same)) keys
  rw [List.perm_ext_iff_of_nodup (apart distinct) (apart distinct')]
  simp only [mem_iff_lookup distinct, mem_iff_lookup distinct']
  constructor
  · intro same name
    exact Option.ext fun v => same (name, v)
  · intro same entry
    rw [same]

end Entries

end DocHints
