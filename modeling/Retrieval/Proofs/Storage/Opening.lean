import Retrieval.Proofs.Tables
import Retrieval.Storage.FileSystem

/-! Opening files next to each other. A file that is put where nothing or another file was is found
under every path that led there, and no path that leads elsewhere notices it. -/
namespace Retrieval.Storage.FileSystem

variable {fs : FileSystem} {place other : Place} {node : Node} {data : Bytes}

theorem node?_put_self (h : place ≠ []) (fs : FileSystem) (node : Node) :
    (fs.put place node).node? place = some node := by
  simp only [node?, put, if_neg h, List.lookup_append, lookup_filter_self, Option.none_or]
  simp

theorem node?_put_of_ne (h : other ≠ place) (fs : FileSystem) (node : Node) :
    (fs.put place node).node? other = fs.node? other := by
  have hne : (other == place) = false := beq_false_of_ne h
  by_cases hr : other = []
  · simp only [node?, if_pos hr]
  · simp only [node?, put, if_neg hr, List.lookup_append, lookup_filter_of_ne _ h]
    simp [List.lookup_cons, hne]

@[simp]
theorem directoryLength_put (fs : FileSystem) (place : Place) (node : Node) :
    (fs.put place node).directoryLength = fs.directoryLength := rfl

/-- What was put last at a place is all that counts. -/
theorem put_put (fs : FileSystem) (place : Place) (first second : Node) :
    (fs.put place first).put place second = fs.put place second := by
  simp [put, List.filter_append, List.filter_filter]

/-- A file can be put at a place below the root where nothing or a file is. -/
structure Vacant (fs : FileSystem) (place : Place) : Prop where
  below : place ≠ []
  plain : fs.node? place = none ∨ ∃ content, fs.node? place = some (.file content)

/-- Nothing but the file itself is touched. -/
theorem Vacant.node?_put (h : fs.Vacant place) (hn : fs.node? other = some node)
    (hf : ∀ content, node ≠ .file content) (data : Bytes) :
    (fs.put place (.file data)).node? other = some node := by
  have hne : other ≠ place := by
    rintro rfl
    rcases h.plain with hp | ⟨content, hp⟩
    · rw [hn] at hp
      cases hp
    · rw [hn] at hp
      exact hf content (Option.some.inj hp)
  rw [node?_put_of_ne hne]
  exact hn

end FileSystem

def Lookup.filled (place : Place) (data : Bytes) : Lookup → Lookup
  | .found other node => if other = place then .found place (.file data) else .found other node
  | .free other asDirectory =>
    if other = place then .found place (.file data) else .free other asDirectory

namespace FileSystem

variable {fs : FileSystem} {place other : Place} {links : Nat} {here : Place} {name : Bytes}
  {rest : List Bytes} {node : Node} {result : Lookup} {data : Bytes}

/-- A name that is looked up in a directory. -/
structure Descends (fs : FileSystem) (here : Place) (name : Bytes) : Prop where
  directory : fs.node? here = some .directory
  named : ¬(name = [] ∨ name = utf8 ".")
  down : ¬name = utf8 ".."
  short : ¬name.length > 255

namespace Descends

theorem walk_free (h : fs.Descends here name) (hn : fs.node? (here ++ [name]) = none)
    (hr : rest.all (·.isEmpty) = true) :
    fs.walk links here (name :: rest) = .ok (.free (here ++ [name]) (!rest.isEmpty)) := by
  rw [walk]
  simp only [h.directory, h.named, h.down, h.short, hn, hr, ne_eq, not_true_eq_false, if_false,
    if_true]

theorem walk_link (h : fs.Descends here name) {target : Bytes}
    (hn : fs.node? (here ++ [name]) = some (.link target)) (ht : ¬target = []) :
    fs.walk (links + 1) here (name :: rest) =
      fs.walk links (if isAbsolute target then [] else here) (components target ++ rest) := by
  rw [walk]
  simp only [h.directory, h.named, h.down, h.short, hn, ht, ne_eq, not_true_eq_false, if_false]

theorem walk_node (h : fs.Descends here name) (hn : fs.node? (here ++ [name]) = some node)
    (hl : ∀ target, node ≠ .link target) :
    fs.walk links here (name :: rest) = fs.walk links (here ++ [name]) rest := by
  rw [walk]
  simp only [h.directory, h.named, h.down, h.short, hn, ne_eq, not_true_eq_false, if_false]

theorem put (h : fs.Descends here name) (hv : fs.Vacant place) (data : Bytes) :
    (fs.put place (.file data)).Descends here name :=
  ⟨hv.node?_put h.directory nofun data, h.named, h.down, h.short⟩

end Descends

theorem settled_of_ne (h : ∀ first, node ≠ .name first) :
    fs.settled here node = .ok (.found here node) := by
  cases node with
  | name first => exact absurd rfl (h first)
  | _ => rfl

/-- A file that is put somewhere else is found under all its names. -/
theorem settled_put (hv : fs.Vacant place) (hne : here ≠ place) (data : Bytes)
    (h : fs.settled here node = .ok result) :
    (fs.put place (.file data)).settled here node = .ok (result.filled place data) := by
  cases node with
  | name first =>
    simp only [settled] at h
    split at h
    · rename_i content hfirst
      cases h
      by_cases hp : first = place
      · subst hp
        simp only [settled, node?_put_self hv.below, Lookup.filled, if_true]
      · simp only [settled, node?_put_of_ne hp, hfirst, Lookup.filled, if_neg hp]
    · cases h
  | _ =>
    cases h
    simp only [settled, Lookup.filled, if_neg hne]

theorem walk_nil (hn : fs.node? here = some node) :
    fs.walk links here [] = fs.settled here node := by
  rw [walk, hn]

theorem walk_found (hn : fs.node? here = some node) (h : ∀ first, node ≠ .name first) :
    fs.walk links here [] = .ok (.found here node) := (walk_nil hn).trans (settled_of_ne h)

theorem walk_here (hd : fs.node? here = some .directory) (hn : name = [] ∨ name = utf8 ".") :
    fs.walk links here (name :: rest) = fs.walk links here rest := by
  rw [walk]
  simp only [hd, hn, ne_eq, not_true_eq_false, if_false, if_true]

theorem walk_up (hd : fs.node? here = some .directory)
    (hn : ¬(utf8 ".." = [] ∨ utf8 ".." = utf8 ".")) :
    fs.walk links here (utf8 ".." :: rest) = fs.walk links here.dropLast rest := by
  rw [walk]
  simp only [hd, hn, ne_eq, not_true_eq_false, if_false, if_true]

/-- Every path that led somewhere leads there still, and to the new file if that is the place. -/
theorem walk_put (hv : fs.Vacant place) (data : Bytes) {names : List Bytes}
    (h : fs.walk links here names = .ok result) (hr : result ≠ .free place true) :
    (fs.put place (.file data)).walk links here names = .ok (result.filled place data) := by
  -- The directories and links on the way are the same as before.
  fun_induction walk fs links here names with
  | case1 links here node hn =>
    by_cases hp : here = place
    · subst hp
      -- What was there is a file, so that the path has led to this place.
      rcases hv.plain with hnone | ⟨content, hfile⟩
      · cases hn.symm.trans hnone
      · cases hn.symm.trans hfile
        cases h
        rw [walk_found (node?_put_self hv.below fs (.file data)) nofun]
        simp only [Lookup.filled, if_true]
    · rw [walk_nil ((node?_put_of_ne hp fs _).trans hn)]
      exact settled_put hv hp data h
  | case2 => cases h
  | case3 => cases h
  | case4 links here name rest hd hn ih =>
    rw [walk_here (hv.node?_put (Decidable.not_not.mp hd) nofun data) hn]
    exact ih h
  | case5 links here rest hd hn ih =>
    rw [walk_up (hv.node?_put (Decidable.not_not.mp hd) nofun data) hn]
    exact ih h
  | case6 => cases h
  | case7 links here name rest hd hn hdown hlen hfree hrest =>
    have hdesc : fs.Descends here name := ⟨Decidable.not_not.mp hd, hn, hdown, hlen⟩
    cases h
    by_cases hp : here ++ [name] = place
    · subst hp
      -- Only a path that ends here can be filled by a file.
      have hlast : rest = [] := by
        cases rest with
        | nil => rfl
        | cons first more => exact absurd rfl hr
      subst hlast
      have hnew := node?_put_self hv.below fs (.file data)
      rw [(hdesc.put hv data).walk_node hnew nofun, walk_found hnew nofun]
      simp only [Lookup.filled, if_true]
    · rw [(hdesc.put hv data).walk_free ((node?_put_of_ne hp fs _).trans hfree) hrest]
      simp only [Lookup.filled, if_neg hp]
  | case8 => cases h
  | case9 => cases h
  | case10 => cases h
  | case11 here name rest hd hn hdown hlen target hlink links ht ih =>
    have hdesc : fs.Descends here name := ⟨Decidable.not_not.mp hd, hn, hdown, hlen⟩
    rw [(hdesc.put hv data).walk_link (hv.node?_put hlink nofun data) ht]
    exact ih h
  | case12 links here name rest hd hn hdown hlen node hl hnode ih =>
    have hdesc : fs.Descends here name := ⟨Decidable.not_not.mp hd, hn, hdown, hlen⟩
    have hnext := ih h
    by_cases hp : here ++ [name] = place
    · subst hp
      have hnew := node?_put_self hv.below fs (.file data)
      rw [(hdesc.put hv data).walk_node hnew nofun]
      exact hnext
    · rw [(hdesc.put hv data).walk_node ((node?_put_of_ne hp fs _).trans hnode) hl]
      exact hnext

/-- Why nothing is there to be opened. -/
def absent? : Except Failure Lookup → Option Failure
  | .error cause => some cause
  | .ok (.free _ _) => some .noEntry
  | .ok (.found _ _) => none

/-- What a path that led to nothing can lead to once there is another file: to nothing as before, to
that file, or through it as if it were a directory. -/
inductive StillAbsent (place : Place) : Failure → Except Failure Lookup → Prop
  | same {cause : Failure} {after : Except Failure Lookup} (h : absent? after = some cause) :
    StillAbsent place cause after
  | there (cause : Failure) (node : Node) : StillAbsent place cause (.ok (.found place node))
  | through : StillAbsent place .noEntry (.error .notDirectory)

theorem stillAbsent_settled (hv : fs.Vacant place) (data : Bytes) {cause : Failure}
    (h : absent? (fs.settled here node) = some cause) :
    StillAbsent place cause ((fs.put place (.file data)).settled here node) := by
  cases node with
  | name first =>
    by_cases hp : first = place
    · subst hp
      simp only [settled, node?_put_self hv.below]
      exact .there cause (.file data)
    · refine .same ?_
      simp only [settled, node?_put_of_ne hp] at h ⊢
      exact h
  | _ => cases h

/-- A path that goes on behind a file leads nowhere. -/
theorem walk_through_file (hn : fs.node? here = some (.file data)) (hr : rest ≠ []) :
    fs.walk links here rest = .error .notDirectory := by
  cases rest with
  | nil => exact absurd rfl hr
  | cons name more =>
    rw [walk, hn]
    simp

/-- A path that led to nothing still does once there is a new file, unless it leads to that file or
through it. -/
theorem stillAbsent_walk (hv : fs.Vacant place) (data : Bytes) {names : List Bytes}
    {cause : Failure} (h : absent? (fs.walk links here names) = some cause) :
    StillAbsent place cause ((fs.put place (.file data)).walk links here names) := by
  have hfile := node?_put_self hv.below fs (.file data)
  -- Only the last steps of a path can come upon the new file.
  fun_induction walk fs links here names with
  | case1 links here node hn =>
    by_cases hp : here = place
    · subst hp
      rw [walk_found hfile nofun]
      exact .there cause _
    · rw [walk_nil ((node?_put_of_ne hp fs _).trans hn)]
      exact stillAbsent_settled hv data h
  | case2 links here hn =>
    by_cases hp : here = place
    · subst hp
      rw [walk_found hfile nofun]
      exact .there cause _
    · rw [walk, node?_put_of_ne hp, hn]
      exact .same h
  | case3 links here name rest hd =>
    have hlater : (fs.put place (.file data)).node? here ≠ some .directory := by
      intro hnew
      by_cases hp : here = place
      · subst hp
        cases hfile.symm.trans hnew
      · exact hd ((node?_put_of_ne hp fs _).symm.trans hnew)
    rw [walk, if_pos hlater]
    exact .same h
  | case4 links here name rest hd hn ih =>
    rw [walk_here (hv.node?_put (Decidable.not_not.mp hd) nofun data) hn]
    exact ih h
  | case5 links here rest hd hn ih =>
    rw [walk_up (hv.node?_put (Decidable.not_not.mp hd) nofun data) hn]
    exact ih h
  | case6 links here name rest hd hn hdown hlen =>
    have hthere := hv.node?_put (Decidable.not_not.mp hd) nofun data
    rw [walk, if_neg (not_not_intro hthere), if_neg hn, if_neg hdown, if_pos hlen]
    exact .same h
  | case7 links here name rest hd hn hdown hlen hfree hrest =>
    have hdesc : fs.Descends here name := ⟨Decidable.not_not.mp hd, hn, hdown, hlen⟩
    obtain rfl : Failure.noEntry = cause := Option.some.inj h
    by_cases hp : here ++ [name] = place
    · subst hp
      rw [(hdesc.put hv data).walk_node hfile nofun]
      by_cases hlast : rest = []
      · rw [hlast, walk_found hfile nofun]
        exact .there _ _
      · rw [walk_through_file hfile hlast]
        exact .through
    · rw [(hdesc.put hv data).walk_free ((node?_put_of_ne hp fs _).trans hfree) hrest]
      exact .same rfl
  | case8 links here name rest hd hn hdown hlen hfree hrest =>
    have hdesc : fs.Descends here name := ⟨Decidable.not_not.mp hd, hn, hdown, hlen⟩
    obtain rfl : Failure.noEntry = cause := Option.some.inj h
    by_cases hp : here ++ [name] = place
    · subst hp
      have hmore : rest ≠ [] := by
        rintro rfl
        exact hrest rfl
      rw [(hdesc.put hv data).walk_node hfile nofun, walk_through_file hfile hmore]
      exact .through
    · have hnone := (node?_put_of_ne hp fs (.file data)).trans hfree
      rw [walk, hnone]
      simp [hv.node?_put hdesc.directory nofun data, hn, hdown, hlen, hrest]
      exact .same rfl
  | case9 here name rest hd hn hdown hlen target hlink =>
    have hnew := hv.node?_put hlink nofun data
    have hthere := hv.node?_put (Decidable.not_not.mp hd) nofun data
    rw [walk, hnew]
    simp only [hthere, hn, hdown, hlen, ne_eq, not_true_eq_false, if_false]
    exact .same h
  | case10 here name rest hd hn hdown hlen links hlink =>
    have hnew := hv.node?_put hlink nofun data
    have hthere := hv.node?_put (Decidable.not_not.mp hd) nofun data
    rw [walk, hnew]
    simp only [hthere, hn, hdown, hlen, ne_eq, not_true_eq_false, if_false, if_true]
    exact .same h
  | case11 here name rest hd hn hdown hlen target hlink links ht ih =>
    have hdesc : fs.Descends here name := ⟨Decidable.not_not.mp hd, hn, hdown, hlen⟩
    rw [(hdesc.put hv data).walk_link (hv.node?_put hlink nofun data) ht]
    exact ih h
  | case12 links here name rest hd hn hdown hlen node hl hnode ih =>
    have hdesc : fs.Descends here name := ⟨Decidable.not_not.mp hd, hn, hdown, hlen⟩
    have hlater := ih h
    by_cases hp : here ++ [name] = place
    · subst hp
      rw [(hdesc.put hv data).walk_node hfile nofun]
      exact hlater
    · rw [(hdesc.put hv data).walk_node ((node?_put_of_ne hp fs _).trans hnode) hl]
      exact hlater

/-- Whether a path is followed at all does not depend on the files. -/
theorem locate_eq_walk {path : Bytes} (h : fs.locate path = .ok result) (files : FileSystem) :
    files.locate path =
      files.walk 40 (if isAbsolute path then [] else files.current) (components path) := by
  unfold locate at h
  have hn : ¬path.contains 0 = true := by
    intro hn
    rw [if_pos hn] at h
    cases h
  rw [if_neg hn] at h
  have he : ¬path = [] := by
    intro he
    rw [if_pos he] at h
    cases h
  rw [if_neg he] at h
  have hl : ¬path.length ≥ 4096 := by
    intro hl
    rw [if_pos hl] at h
    cases h
  rw [locate, if_neg hn, if_neg he, if_neg hl]

theorem locate_put (hv : fs.Vacant place) (data : Bytes) {path : Bytes}
    (h : fs.locate path = .ok result) (hr : result ≠ .free place true) :
    (fs.put place (.file data)).locate path = .ok (result.filled place data) := by
  have hwalk := (locate_eq_walk h fs).symm.trans h
  rw [locate_eq_walk h]
  exact walk_put hv data hwalk hr

/-- A plain name is looked up where relative paths begin. -/
theorem Descends.locate_eq {path : Bytes} (h : fs.Descends fs.current path)
    (hc : components path = [path]) (ha : isAbsolute path = false) (h0 : path.contains 0 = false) :
    fs.locate path = fs.walk 40 fs.current [path] := by
  have he : ¬path = [] := fun he => h.named (Or.inl he)
  have hlen : ¬path.length ≥ 4096 := by
    have hshort := h.short
    omega
  unfold FileSystem.locate
  simp only [hc, ha, h0, he, hlen, Bool.false_eq_true, if_false]

theorem Descends.locate {path : Bytes} (h : fs.Descends fs.current path)
    (hc : components path = [path]) (ha : isAbsolute path = false) (h0 : path.contains 0 = false)
    (hn : fs.node? (fs.current ++ [path]) = some node) (hl : ∀ target, node ≠ .link target) :
    fs.locate path = fs.settled (fs.current ++ [path]) node := by
  rw [h.locate_eq hc ha h0, h.walk_node hn hl]
  exact walk_nil hn

theorem Descends.locate_free {path : Bytes} (h : fs.Descends fs.current path)
    (hc : components path = [path]) (ha : isAbsolute path = false) (h0 : path.contains 0 = false)
    (hn : fs.node? (fs.current ++ [path]) = none) :
    fs.locate path = .ok (.free (fs.current ++ [path]) false) := by
  rw [h.locate_eq hc ha h0]
  exact h.walk_free hn rfl

theorem Descends.openSource_file {path : Bytes} (h : fs.Descends fs.current path)
    (hc : components path = [path]) (ha : isAbsolute path = false) (h0 : path.contains 0 = false)
    (hn : fs.node? (fs.current ++ [path]) = some (.file data)) :
    fs.openSource path = .ok (.bytes data) := by
  simp only [openSource, h.locate hc ha h0 hn nofun, settled]

theorem Descends.openSource_free {path : Bytes} (h : fs.Descends fs.current path)
    (hc : components path = [path]) (ha : isAbsolute path = false) (h0 : path.contains 0 = false)
    (hn : fs.node? (fs.current ++ [path]) = none) : fs.openSource path = .error .noEntry := by
  simp only [openSource, h.locate_free hc ha h0 hn]

theorem stillAbsent_locate (hv : fs.Vacant place) (data : Bytes) {path : Bytes} {cause : Failure}
    (h : absent? (fs.locate path) = some cause) :
    StillAbsent place cause ((fs.put place (.file data)).locate path) := by
  unfold locate at h ⊢
  split
  · rename_i hnul
    rw [if_pos hnul] at h
    exact .same h
  · rename_i hnul
    rw [if_neg hnul] at h
    split
    · rename_i hempty
      rw [if_pos hempty] at h
      exact .same h
    · rename_i hempty
      rw [if_neg hempty] at h
      split
      · rename_i hlong
        rw [if_pos hlong] at h
        exact .same h
      · rename_i hlong
        rw [if_neg hlong] at h
        exact stillAbsent_walk hv data h

theorem openSource_put_self (hv : fs.Vacant place) (data : Bytes) {path : Bytes}
    (h : fs.locate path = .ok (.found place node)) :
    (fs.put place (.file data)).openSource path = .ok (.bytes data) := by
  have hthere := locate_put hv data h nofun
  rw [Lookup.filled, if_pos rfl] at hthere
  simp only [openSource, hthere]

/-- What is read at another place is read there still. -/
theorem openSource_put (hv : fs.Vacant place) (data : Bytes) {path : Bytes} {other : Place}
    (h : fs.locate path = .ok (.found other node)) (hne : other ≠ place) :
    (fs.put place (.file data)).openSource path = fs.openSource path := by
  have hthere := locate_put hv data h nofun
  rw [Lookup.filled, if_neg hne] at hthere
  simp only [openSource, hthere, h, directoryLength_put]

theorem openSource_of_absent {path : Bytes} {cause : Failure}
    (h : absent? (fs.locate path) = some cause) : fs.openSource path = .error cause := by
  unfold openSource
  cases hl : fs.locate path with
  | error other =>
    rw [hl] at h
    exact congrArg Except.error (Option.some.inj h)
  | ok result =>
    rw [hl] at h
    cases result with
    | free spot asDirectory => exact congrArg Except.error (Option.some.inj h)
    | found spot node => cases h

theorem found_of_absent?_eq_none {result : Except Failure Lookup} (h : absent? result = none) :
    ∃ place node, result = .ok (.found place node) := by
  cases result with
  | error cause => cases h
  | ok lookup =>
    cases lookup with
    | free spot asDirectory => cases h
    | found spot node => exact ⟨spot, node, rfl⟩

/-- What cannot be opened does not become readable by another file. At most it fails as a path
through that file where it failed as a path to nothing. -/
theorem openSource_put_error (hv : fs.Vacant place) (data : Bytes) {path : Bytes} {cause : Failure}
    (h : fs.openSource path = .error cause)
    (hne : ∀ node, (fs.put place (.file data)).locate path ≠ .ok (.found place node)) :
    (fs.put place (.file data)).openSource path = .error cause ∨
      cause = .noEntry ∧ (fs.put place (.file data)).openSource path = .error .notDirectory := by
  cases ha : absent? (fs.locate path) with
  | none =>
    -- Something is there that cannot be opened, and it is not the new file.
    obtain ⟨spot, node, hl⟩ := found_of_absent?_eq_none ha
    have hapart : spot ≠ place := by
      rintro rfl
      have hthere := locate_put hv data hl nofun
      rw [Lookup.filled, if_pos rfl] at hthere
      exact hne _ hthere
    exact Or.inl ((openSource_put hv data hl hapart).trans h)
  | some other =>
    obtain rfl : other = cause := Except.error.inj ((openSource_of_absent ha).symm.trans h)
    have hstill := stillAbsent_locate hv data ha
    generalize hafter : (fs.put place (.file data)).locate path = after at hstill
    cases hstill with
    | same hsame => exact Or.inl (openSource_of_absent (hafter ▸ hsame))
    | there _ node => exact absurd hafter (hne node)
    | through => exact Or.inr ⟨rfl, openSource_of_absent (hafter ▸ rfl)⟩

end FileSystem
end Retrieval.Storage
