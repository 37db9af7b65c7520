import Retrieval.Proofs.Storage.Sink

/-! What is left of files that were opened and directories that were made, whether or not more was
wanted. Nothing that was there is touched, and what is new is empty. -/
namespace Retrieval.Storage.FileSystem

/-- The later files are the earlier ones with new directories and new empty files. -/
structure Grown (before after : FileSystem) : Prop where
  current : after.current = before.current
  kept : ∀ place node, before.node? place = some node → after.node? place = some node
  added : ∀ place node, before.node? place = none → after.node? place = some node →
    node = .directory ∨ node = .file []

variable {fs first second third : FileSystem} {path : Bytes} {place : Place} {node : Node}

namespace Grown

theorem refl (fs : FileSystem) : fs.Grown fs where
  current := rfl
  kept := fun _ _ h => h
  added := fun place node hn h => by
    rw [hn] at h
    cases h

theorem trans (h : first.Grown second) (h' : second.Grown third) : first.Grown third where
  current := h'.current.trans h.current
  kept := fun place node hn => h'.kept place node (h.kept place node hn)
  added := by
    intro place node hnone hn
    cases hm : second.node? place with
    | none => exact h'.added place node hm hn
    | some between =>
      -- What came first is what is there in the end.
      have hlast := h'.kept place between hm
      rw [hn] at hlast
      cases hlast
      exact h.added place node hnone hm

/-- A name that is free is taken by something empty. -/
theorem put (hb : place ≠ []) (hfree : fs.node? place = none)
    (he : node = .directory ∨ node = .file []) : fs.Grown (fs.put place node) where
  current := rfl
  kept := by
    intro other old h
    have hne : other ≠ place := by
      rintro rfl
      rw [hfree] at h
      cases h
    exact (node?_put_of_ne hne fs node).trans h
  added := by
    intro other new hnone h
    by_cases hne : other = place
    · subst hne
      rw [node?_put_self hb] at h
      cases h
      exact he
    · rw [node?_put_of_ne hne, hnone] at h
      cases h

end Grown

/-- Opening for appending keeps all files as they were, and adds one at most. -/
theorem grown_openSink {opened : FileSystem} (h : fs.openSink path false = .ok (place, opened)) :
    fs.Grown opened := by
  unfold openSink at h
  cases hl : fs.locate path with
  | error cause =>
    rw [hl] at h
    cases h
  | ok result =>
    rw [hl] at h
    have hleads := leads_locate hl
    cases result with
    | free other asDirectory =>
      cases asDirectory with
      | true => cases h
      | false =>
        cases h
        exact .put hleads.1 hleads.2 (Or.inr rfl)
    | found other node =>
      -- Opened at its end, nothing that is there changes.
      cases node with
      | file content =>
        cases h
        exact .refl fs
      | null =>
        cases h
        exact .refl fs
      | full =>
        cases h
        exact .refl fs
      | _ => cases h

/-- A directory is made under a name that was free. -/
theorem makeDirectory_eq {made : FileSystem} (h : fs.makeDirectory path = .ok made) :
    ∃ here name, fs.node? (here ++ [name]) = none ∧
      made = fs.put (here ++ [name]) .directory := by
  unfold makeDirectory at h
  -- Of all ways through the definition only the last one makes anything.
  iterate 4
    split at h
    · cases h
  · rename_i name above _
    split at h
    · cases h
    · cases h
    · rename_i here node _
      iterate 4
        split at h
        · cases h
      · rename_i hfree
        cases h
        exact ⟨here, name, Option.not_isSome_iff_eq_none.mp hfree, rfl⟩

theorem grown_makeDirectory {made : FileSystem} (h : fs.makeDirectory path = .ok made) :
    fs.Grown made := by
  obtain ⟨here, name, hfree, rfl⟩ := makeDirectory_eq h
  exact .put (by simp) hfree (Or.inl rfl)

/-- Also where the making breaks off, the directories made so far are all that is new. -/
theorem grown_makeDirectories (depth : Nat) (fs : FileSystem) (path : Bytes) :
    fs.Grown (makeDirectories depth fs path).2 := by
  fun_induction makeDirectories depth fs path with
  | case1 => exact .refl _
  | case2 _ path _ made hmade => exact grown_makeDirectory hmade
  | case3 => exact .refl _
  | case4 path _ cause _ _ depth above _ failure made habove ih =>
    rw [habove] at ih
    exact ih
  | case5 path _ cause _ _ depth above _ _ made habove done hdone ih =>
    rw [habove] at ih
    exact ih.trans (grown_makeDirectory hdone)
  | case6 path _ cause _ _ depth above _ _ made habove failure _ ih =>
    rw [habove] at ih
    exact ih
  | case7 => exact .refl _

end Retrieval.Storage.FileSystem
