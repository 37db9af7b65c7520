import Retrieval.Proofs.Storage.Growth

/-! Data at the end of files that are there already. A path leads where it led, through everything
that was made since and whatever was written. -/
namespace Retrieval.Storage

/-- A file with more data at its end. Nothing else has an end. -/
def Node.extended (node : Node) (data : Bytes) : Node :=
  match node with
  | .file content => .file (content ++ data)
  | .directory => .directory
  | .link target => .link target
  | .name first => .name first
  | .readOnly source => .readOnly source
  | .null => .null
  | .full => .full

namespace FileSystem

variable {fs after : FileSystem} {path : Bytes} {place other : Place} {node : Node} {data : Bytes}

/-- The files after data were written at a place, or once that has failed. -/
def lengthened (fs : FileSystem) (place : Place) (data : Bytes) : FileSystem :=
  match fs.append place data with
  | .ok written => written
  | .error _ => fs

/-- Only a file becomes longer. -/
theorem lengthened_cases (fs : FileSystem) (place : Place) (data : Bytes) :
    (∃ content, fs.node? place = some (.file content) ∧ fs.Vacant place ∧
      fs.lengthened place data = fs.put place (.file (content ++ data))) ∨
    (∀ node, fs.node? place = some node → node.extended data = node) ∧
      fs.lengthened place data = fs := by
  cases hn : fs.node? place with
  | none => exact Or.inr ⟨nofun, by simp only [lengthened, append, hn]⟩
  | some node =>
    cases node with
    | file content =>
      have hbelow : place ≠ [] := by
        rintro rfl
        cases hn
      exact Or.inl ⟨content, rfl, ⟨hbelow, Or.inr ⟨content, hn⟩⟩, by
        simp only [lengthened, append, hn]⟩
    | full =>
      refine Or.inr ⟨fun node h => ?_, ?_⟩
      · cases h
        rfl
      · -- It takes no data at all, and whether that is a failure makes no difference.
        by_cases hd : data = [] <;> simp only [lengthened, append, hn, hd, if_true, if_false]
    | _ =>
      refine Or.inr ⟨fun node h => ?_, by simp only [lengthened, append, hn]⟩
      cases h
      rfl

/-- Only the file that is written changes. -/
theorem node?_lengthened : (fs.lengthened place data).node? other =
    (fs.node? other).map fun node => if other = place then node.extended data else node := by
  rcases lengthened_cases fs place data with ⟨content, hn, hv, hfile⟩ | ⟨hrest, hsame⟩
  · rw [hfile]
    by_cases ho : other = place
    · subst ho
      rw [node?_put_self hv.below, hn, Option.map_some, if_pos rfl]
      rfl
    · simp only [node?_put_of_ne ho, if_neg ho, Option.map_id']
  · rw [hsame]
    by_cases ho : other = place
    · subst ho
      cases hn : fs.node? other with
      | none => rfl
      | some node => rw [Option.map_some, if_pos rfl, hrest node hn]
    · simp only [if_neg ho, Option.map_id']

theorem locate_lengthened (h : fs.locate path = .ok (.found other node)) (place : Place)
    (data : Bytes) :
    (fs.lengthened place data).locate path =
      .ok (.found other (if other = place then node.extended data else node)) := by
  have hnode : fs.node? other = some node := leads_locate h
  rcases lengthened_cases fs place data with ⟨content, hn, hv, hfile⟩ | ⟨hrest, hsame⟩
  · rw [hfile, locate_put hv _ h nofun]
    by_cases ho : other = place
    · subst ho
      rw [hn] at hnode
      cases hnode
      simp only [Lookup.filled, if_true]
      rfl
    · simp only [Lookup.filled, if_neg ho]
  · rw [hsame, h]
    split
    · rename_i ho
      rw [hrest node (ho ▸ hnode)]
    · rfl

theorem Grown.settled {here : Place} {there : Node} (hg : fs.Grown after)
    (h : fs.settled here there = .ok (.found other node)) :
    after.settled here there = .ok (.found other node) := by
  cases there with
  | name first =>
    simp only [FileSystem.settled] at h ⊢
    split at h
    · rename_i content hfirst
      rw [hg.kept _ _ hfirst]
      exact h
    · cases h
  | _ => exact h

/-- The way along a path is not changed by what is made beside it. -/
theorem Grown.walk {links : Nat} {here : Place} {names : List Bytes} (hg : fs.Grown after)
    (h : fs.walk links here names = .ok (.found other node)) :
    after.walk links here names = .ok (.found other node) := by
  -- A path that leads somewhere goes through directories and links that are there still.
  fun_induction FileSystem.walk fs links here names with
  | case1 links here there hn =>
    rw [walk_nil (hg.kept _ _ hn)]
    exact hg.settled h
  | case4 links here name rest hd hn ih =>
    rw [walk_here (hg.kept _ _ (Decidable.not_not.mp hd)) hn]
    exact ih h
  | case5 links here rest hd hn ih =>
    rw [walk_up (hg.kept _ _ (Decidable.not_not.mp hd)) hn]
    exact ih h
  | case11 here name rest hd hn hdown hlen target hlink links ht ih =>
    have hdesc : after.Descends here name :=
      ⟨hg.kept _ _ (Decidable.not_not.mp hd), hn, hdown, hlen⟩
    rw [hdesc.walk_link (hg.kept _ _ hlink) ht]
    exact ih h
  | case12 links here name rest hd hn hdown hlen there hl hthere ih =>
    have hdesc : after.Descends here name :=
      ⟨hg.kept _ _ (Decidable.not_not.mp hd), hn, hdown, hlen⟩
    rw [hdesc.walk_node (hg.kept _ _ hthere) hl]
    exact ih h
  | _ => cases h

theorem Grown.locate (hg : fs.Grown after) (h : fs.locate path = .ok (.found other node)) :
    after.locate path = .ok (.found other node) := by
  have hwalk := (locate_eq_walk h fs).symm.trans h
  rw [locate_eq_walk h after, hg.current]
  exact hg.walk hwalk

def LeadsToSink (fs : FileSystem) (path : Bytes) (place : Place) : Prop :=
  ∃ node, fs.locate path = .ok (.found place node) ∧
    ((∃ content, node = .file content) ∨ node = .null ∨ node = .full)

theorem Grown.leadsToSink (hg : fs.Grown after) (h : fs.LeadsToSink path place) :
    after.LeadsToSink path place := by
  obtain ⟨node, hnode, hkind⟩ := h
  exact ⟨node, hg.locate hnode, hkind⟩

/-- What was opened at its end is found under its path. -/
theorem leadsToSink_openSink {opened : FileSystem}
    (h : fs.openSink path false = .ok (place, opened)) : opened.LeadsToSink path place := by
  unfold openSink at h
  cases hl : fs.locate path with
  | error cause =>
    rw [hl] at h
    cases h
  | ok result =>
    rw [hl] at h
    have hleads := leads_locate hl
    cases result with
    | free other asDirectory =>
      cases asDirectory with
      | true => cases h
      | false =>
        cases h
        have hv : fs.Vacant place := ⟨hleads.1, Or.inl hleads.2⟩
        have hthere := locate_put hv [] hl (by simp)
        rw [Lookup.filled, if_pos rfl] at hthere
        exact ⟨.file [], hthere, Or.inl ⟨[], rfl⟩⟩
    | found other node =>
      cases node with
      | file content =>
        cases h
        exact ⟨.file content, hl, Or.inl ⟨content, rfl⟩⟩
      | null =>
        cases h
        exact ⟨.null, hl, Or.inr (Or.inl rfl)⟩
      | full =>
        cases h
        exact ⟨.full, hl, Or.inr (Or.inr rfl)⟩
      | _ => cases h

/-- The file that a path leads to has these data after all that it held. A path that leads to a
device leads there still. -/
def Gains (before after : FileSystem) (path : Bytes) (place : Place) (data : Bytes) : Prop :=
  (∃ content, before.locate path = .ok (.found place (.file content)) ∧
    after.locate path = .ok (.found place (.file (content ++ data)))) ∨
  ∃ node, (node = .null ∨ node = .full) ∧ before.locate path = .ok (.found place node) ∧
    after.locate path = .ok (.found place node)

/-- Of two places that are written one after the other, each gains what is written there, and all of
it where they are one. -/
theorem gains_lengthened_lengthened (h : fs.LeadsToSink path place) (first second : Place)
    (data more : Bytes) : fs.Gains ((fs.lengthened first data).lengthened second more) path place
      ((if place = first then data else []) ++ if place = second then more else []) := by
  obtain ⟨node, hl, hkind⟩ := h
  have hafter := locate_lengthened (locate_lengthened hl first data) second more
  rcases hkind with ⟨content, rfl⟩ | hdevice
  · refine Or.inl ⟨content, hl, hafter.trans ?_⟩
    split <;> split <;> simp [Node.extended]
  · refine Or.inr ⟨node, hdevice, hl, hafter.trans ?_⟩
    rcases hdevice with rfl | rfl <;> split <;> split <;> rfl

end FileSystem
end Retrieval.Storage
