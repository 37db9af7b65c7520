import Retrieval.Proofs.Storage.Opening
import Retrieval.Storage.Writer

/-! Writing to a file that can be written. What a writer leaves behind is told by all that was
written, and not by the pieces it was written in. -/
namespace Retrieval

theorem Bytes.flatten_pieces {size : Nat} (hs : size ≠ 0) (data : Bytes) :
    (Bytes.pieces size data).flatten = data := by
  induction data using Bytes.pieces.induct size with
  | case1 data hd =>
    rw [Bytes.pieces, dif_pos hd]
    exact (hd.resolve_left hs).symm
  | case2 data hd ih =>
    rw [Bytes.pieces, dif_neg hd, List.flatten_cons, ih]
    exact List.take_append_drop size data

namespace Storage

namespace FileSystem

/-- What a path leads to is there, or a name that is free. -/
def Leads (fs : FileSystem) : Lookup → Prop
  | .found place node => fs.node? place = some node
  | .free place _ => place ≠ [] ∧ fs.node? place = none

variable {fs : FileSystem} {path : Bytes} {place : Place}

theorem leads_settled {here : Place} {node : Node} {result : Lookup}
    (hn : fs.node? here = some node) (h : fs.settled here node = .ok result) :
    fs.Leads result := by
  cases node with
  | name first =>
    simp only [settled] at h
    split at h
    · rename_i content hfirst
      cases h
      exact hfirst
    · cases h
  | _ =>
    cases h
    exact hn

/-- What a walk finds is there. -/
theorem leads_walk {links : Nat} {here : Place} {names : List Bytes} {result : Lookup}
    (h : fs.walk links here names = .ok result) : fs.Leads result := by
  fun_induction walk fs links here names with
  | case1 links here node hn => exact leads_settled hn h
  | case4 links here name rest hd hn ih => exact ih h
  | case5 links here rest hd hn ih => exact ih h
  | case7 links here name rest hd hn hdown hlen hfree hrest =>
    cases h
    exact ⟨by simp, hfree⟩
  | case11 here name rest hd hn hdown hlen target hlink links ht ih => exact ih h
  | case12 links here name rest hd hn hdown hlen node hl hnode ih => exact ih h
  | _ => cases h

theorem leads_locate {result : Lookup} (h : fs.locate path = .ok result) : fs.Leads result := by
  rw [locate_eq_walk h] at h
  exact leads_walk h

theorem locate_of_openSource {content : Source} (h : fs.openSource path = .ok content) :
    ∃ place node, fs.locate path = .ok (.found place node) := by
  unfold openSource at h
  split at h
  · cases h
  · cases h
  · rename_i place node hl
    exact ⟨place, node, hl⟩

/-- A file that was opened for writing is empty and can be read under its path, whatever is put
into it later; or it is a device, and nothing has changed. -/
theorem openSink_cases {opened : FileSystem}
    (h : fs.openSink path true = .ok (place, opened)) :
    (fs.Vacant place ∧ opened = fs.put place (.file []) ∧
      ∀ data, (fs.put place (.file data)).openSource path = .ok (.bytes data)) ∨
    (∃ node, (node = .null ∨ node = .full) ∧ fs.locate path = .ok (.found place node) ∧
      fs.node? place = some node ∧ opened = fs) := by
  have hread {result : Lookup} (hv : fs.Vacant place) (hl : fs.locate path = .ok result)
      (hr : result ≠ .free place true)
      (hfill : ∀ data, result.filled place data = .found place (.file data)) (data : Bytes) :
      (fs.put place (.file data)).openSource path = .ok (.bytes data) := by
    simp only [openSource, locate_put hv data hl hr, hfill]
  unfold openSink at h
  cases hl : fs.locate path with
  | error cause =>
    rw [hl] at h
    cases h
  | ok result =>
    rw [hl] at h
    have hleads := leads_locate hl
    cases result with
    | free other asDirectory =>
      cases asDirectory with
      | true => cases h
      | false =>
        cases h
        have hv : fs.Vacant place := ⟨hleads.1, Or.inl hleads.2⟩
        have hopen : Lookup.free place false ≠ .free place true := by simp
        exact Or.inl ⟨hv, rfl, hread hv hl hopen fun data => if_pos rfl⟩
    | found other node =>
      cases node with
      | file content =>
        cases h
        have hbelow : place ≠ [] := by
          -- The root is a directory.
          rintro rfl
          cases hleads
        have hv : fs.Vacant place := ⟨hbelow, Or.inr ⟨content, hleads⟩⟩
        have hopen : Lookup.found place (.file content) ≠ .free place true := by simp
        exact Or.inl ⟨hv, rfl, hread hv hl hopen fun data => if_pos rfl⟩
      | null =>
        cases h
        exact Or.inr ⟨.null, Or.inl rfl, rfl, hleads, rfl⟩
      | full =>
        cases h
        exact Or.inr ⟨.full, Or.inr rfl, rfl, hleads, rfl⟩
      | _ => cases h

end FileSystem

/-- Where data that are written go: nowhere, to a file, or to a device that swallows them. -/
inductive Sink (files : FileSystem)
  | nowhere
  | file (place : Place) (vacant : files.Vacant place)
  | device (place : Place) (null : files.node? place = some .null)

namespace Sink

variable {files : FileSystem}

def written (s : Sink files) (data : Bytes) : FileSystem :=
  match s with
  | file place _ => files.put place (.file data)
  | nowhere | device _ _ => files

def place? : Sink files → Option Place
  | nowhere => none
  | file place _ | device place _ => some place

def writer (s : Sink files) (data : Bytes) : Writer :=
  { files := s.written data, place := s.place? }

theorem append_written (s : Sink files) {place : Place} (h : s.place? = some place)
    (data more : Bytes) : (s.written data).append place more = .ok (s.written (data ++ more)) := by
  cases s with
  | nowhere => cases h
  | file _ hv =>
    cases h
    have hthere := FileSystem.node?_put_self hv.below files (.file data)
    simp only [written, FileSystem.append, hthere, FileSystem.put_put]
  | device _ hn =>
    cases h
    simp only [written, FileSystem.append, hn]

/-- Pieces are written one behind the other. -/
theorem writePieces_writer (s : Sink files) (data : Bytes) (pieces : List Bytes) :
    (s.writer data).writePieces pieces = (none, s.writer (data ++ pieces.flatten)) := by
  induction pieces generalizing data with
  | nil =>
    rw [List.flatten_nil, List.append_nil]
    rfl
  | cons piece rest ih =>
    have hpiece : (s.writer data).writePiece piece = (none, s.writer (data ++ piece)) := by
      cases hp : s.place? with
      | none =>
        cases s with
        | nowhere => rfl
        | file _ _ => cases hp
        | device _ _ => cases hp
      | some place => simp only [Writer.writePiece, writer, hp, s.append_written hp]
    have hrest := ih (data ++ piece)
    rw [List.append_assoc] at hrest
    simp only [Writer.writePieces, hpiece, List.flatten_cons]
    exact hrest

theorem write_writer (s : Sink files) (data more : Bytes) :
    (s.writer data).write more = (none, s.writer (data ++ more)) := by
  have hsize : Writer.pieceSize ≠ 0 := by decide
  rw [Writer.write, writePieces_writer, Bytes.flatten_pieces hsize]

/-- The output is made, and a path that does not lead to it leads to what it led to before. It may
fail in another way, as a path through the output. -/
theorem openSource_reopened (s : Sink files) {path : Bytes}
    (hne : ∀ place node, s.place? = some place →
      (s.written []).locate path ≠ .ok (.found place node)) :
    (s.written []).openSource path = files.openSource path ∨
      files.openSource path = .error .noEntry ∧
        (s.written []).openSource path = .error .notDirectory := by
  cases s with
  | nowhere => exact Or.inl rfl
  | device _ _ => exact Or.inl rfl
  | file place hv =>
    have hapart (node : Node) :
        (files.put place (.file [])).locate path ≠ .ok (.found place node) := hne place node rfl
    cases ho : files.openSource path with
    | error cause =>
      rcases FileSystem.openSource_put_error hv [] ho hapart with hsame | ⟨rfl, hthrough⟩
      · exact Or.inl hsame
      · exact Or.inr ⟨rfl, hthrough⟩
    | ok content =>
      obtain ⟨other, node, hl⟩ := FileSystem.locate_of_openSource ho
      have hother : other ≠ place := by
        rintro rfl
        have hthere := FileSystem.locate_put hv [] hl nofun
        rw [Lookup.filled, if_pos rfl] at hthere
        exact hapart _ hthere
      exact Or.inl ((FileSystem.openSource_put hv [] hl hother).trans ho)

/-- What is left under a path that was opened for writing: the data, unless it leads to a device. -/
def Leaves (s : Sink files) (path : Bytes) : Prop :=
  (∀ data, (s.written data).openSource path = .ok (.bytes data)) ∨
    (∃ place, files.locate path = .ok (.found place .null)) ∧ ∀ data, s.written data = files

theorem exists_of_openSink {path : Bytes} {place : Place} {opened : FileSystem}
    (h : files.openSink path true = .ok (place, opened))
    (hw : ∀ data, ∃ later, opened.append place data = .ok later) :
    ∃ s : Sink files, s.place? = some place ∧ s.written [] = opened ∧ s.Leaves path := by
  rcases FileSystem.openSink_cases h with ⟨hv, rfl, hread⟩ | ⟨node, hd, hl, hn, rfl⟩
  · exact ⟨.file place hv, rfl, rfl, Or.inl hread⟩
  · rcases hd with rfl | rfl
    · exact ⟨.device place hn, rfl, rfl, Or.inr ⟨⟨place, hl⟩, fun _ => rfl⟩⟩
    · -- A device without room refuses the first byte.
      obtain ⟨later, hlater⟩ := hw [0]
      simp [FileSystem.append, hn] at hlater

end Sink
end Storage
end Retrieval
