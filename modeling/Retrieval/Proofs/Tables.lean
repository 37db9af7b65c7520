/-! Lists of names and values as tables. What is taken out or changed under one name leaves what
stands under the others. -/
namespace Retrieval

variable {α β : Type} [BEq α] [LawfulBEq α] {name other : α}

theorem lookup_filter_of_ne (table : List (α × β)) (h : other ≠ name) :
    (table.filter (·.1 != name)).lookup other = table.lookup other := by
  induction table with
  | nil => rfl
  | cons entry rest ih =>
    obtain ⟨key, value⟩ := entry
    by_cases hk : key = name
    · subst hk
      have hne : (other == key) = false := beq_false_of_ne h
      simpa [List.lookup_cons, hne] using ih
    · have hkeep : (key != name) = true := bne_iff_ne.mpr hk
      simp only [List.filter_cons, hkeep, if_true, List.lookup_cons, ih]

theorem lookup_filter_self (table : List (α × β)) (name : α) :
    (table.filter (·.1 != name)).lookup name = none := by
  rw [List.lookup_eq_none_iff]
  intro entry hm
  have hne := (List.mem_filter.mp hm).2
  rwa [bne_comm]

section

variable [DecidableEq α]

theorem lookup_map_of_ne (table : List (α × β)) (value : β) (h : other ≠ name) :
    (table.map fun (n, old) => (n, if n = name then value else old)).lookup other =
      table.lookup other := by
  induction table with
  | nil => rfl
  | cons entry rest ih =>
    obtain ⟨key, old⟩ := entry
    by_cases hk : other = key
    · subst hk
      simp [h]
    · have hne : (other == key) = false := beq_false_of_ne hk
      simp only [List.map_cons, List.lookup_cons, hne, ih]

theorem lookup_map_self (table : List (α × β)) (value : β) (name : α) :
    (table.map fun (n, old) => (n, if n = name then value else old)).lookup name =
      (table.lookup name).map fun _ => value := by
  induction table with
  | nil => rfl
  | cons entry rest ih =>
    obtain ⟨key, old⟩ := entry
    by_cases hk : name = key
    · subst hk
      simp
    · have hne : (name == key) = false := beq_false_of_ne hk
      simp only [List.map_cons, List.lookup_cons, hne, ih]

end

end Retrieval
