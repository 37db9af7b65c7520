import Retrieval.Proofs.Cli.Modes

/-! What a successful fetch of a local file leaves in its output. Fetched whole, the file is read
before the output is opened, and followed as a stream it is read after that, so that an output which
is the file itself has lost its data by then. -/
namespace Retrieval

open Storage (FileSystem Place Sink Writer)

namespace Storage

namespace FileSystem

/-- Both paths lead to one file, under whichever of its names and over whatever links. -/
def SameFile (files : FileSystem) (first second : Bytes) : Prop :=
  ∃ place content, files.locate first = .ok (.found place (.file content)) ∧
    files.locate second = .ok (.found place (.file content))

/-- A file can be made or emptied there, and takes any data. -/
def Writable (files : FileSystem) (path : Bytes) : Prop :=
  ∃ place opened, files.openSink path true = .ok (place, opened) ∧
    ∀ data, ∃ later, opened.append place data = .ok later

variable {files opened : FileSystem} {source path : Bytes} {place other : Place} {node : Node}

/-- What is opened for writing at the place of a file is that file. -/
theorem sameFile_of_openSink (h : files.openSink path true = .ok (place, opened))
    (hv : files.Vacant place) (hl : files.locate source = .ok (.found place node)) :
    files.SameFile source path := by
  have hthere : files.node? place = some node := leads_locate hl
  obtain ⟨content, rfl⟩ : ∃ content, node = .file content := by
    rcases hv.plain with hnone | ⟨content, hfile⟩
    · rw [hthere] at hnone
      cases hnone
    · rw [hthere] at hfile
      exact ⟨content, Option.some.inj hfile⟩
  refine ⟨place, content, hl, ?_⟩
  unfold openSink at h
  cases hp : files.locate path with
  | error cause =>
    rw [hp] at h
    cases h
  | ok result =>
    have hleads := leads_locate hp
    rw [hp] at h
    cases result with
    | free new asDirectory =>
      -- A name that is free does not belong to a file.
      obtain rfl : new = place := by
        cases asDirectory <;> cases h
        rfl
      have hnone : files.node? new = none := hleads.2
      rw [hthere] at hnone
      cases hnone
    | found new there =>
      obtain rfl : new = place := by cases there <;> cases h <;> rfl
      have hnew : files.node? new = some there := hleads
      rw [Option.some.inj (hthere.symm.trans hnew)]

/-- Of what can be opened for writing, all but a device without room takes any data. -/
theorem append_of_openSink (h : files.openSink path true = .ok (place, opened))
    (hfull : ¬files.locate path = .ok (.found place .full)) (data : Bytes) :
    ∃ later, opened.append place data = .ok later := by
  rcases openSink_cases h with ⟨hv, rfl, -⟩ | ⟨node, hdevice, hl, hn, rfl⟩
  · have hthere := node?_put_self hv.below files (.file [])
    simp only [append, hthere]
    exact ⟨_, rfl⟩
  · rcases hdevice with rfl | rfl
    · simp only [append, hn]
      exact ⟨_, rfl⟩
    · exact absurd hl hfull

end FileSystem

namespace Sink

variable {files opened : FileSystem} {source path : Bytes} {place : Place}

/-- Writing to one file does not change what is read from another one. -/
theorem openSource_apart (s : Sink files) (hsink : files.openSink path true = .ok (place, opened))
    (hplace : s.place? = some place) (hne : ¬files.SameFile source path)
    {content : Source} (hs : files.openSource source = .ok content) (data : Bytes) :
    (s.written data).openSource source = .ok content := by
  cases s with
  | nowhere => exact hs
  | device _ _ => exact hs
  | file _ hv =>
    cases hplace
    obtain ⟨other, node, hl⟩ := FileSystem.locate_of_openSource hs
    have hapart : other ≠ place := by
      rintro rfl
      exact hne (FileSystem.sameFile_of_openSink hsink hv hl)
    exact (FileSystem.openSource_put hv data hl hapart).trans hs

end Sink

namespace Writer

variable {w after : Writer} {place : Place}

/-- A device without room takes nothing but empty pieces, and does not forget a piece that was
handed over. -/
theorem writePieces_full (hp : w.place = some place) (hn : w.files.node? place = some .full)
    {pieces : List Bytes} (h : w.writePieces pieces = (none, after)) :
    after.files = w.files ∧ after.place = some place ∧
      (after.unseen = none → w.unseen = none ∧ pieces.flatten = []) := by
  induction pieces generalizing w with
  | nil =>
    cases h
    exact ⟨rfl, hp, fun hu => ⟨hu, rfl⟩⟩
  | cons piece rest ih =>
    cases hu : w.unseen with
    | some cause =>
      simp only [writePieces, writePiece, hu] at h
      cases h
    | none =>
      by_cases hd : piece = []
      · have hsame : { files := w.files, place := some place } = w := by
          rw [← hp, ← hu]
        have hpiece : w.writePiece piece = (none, w) := by
          simp only [writePiece, hu, hp, FileSystem.append, hn, if_pos hd, hsame]
        simp only [writePieces, hpiece] at h
        obtain ⟨hfiles, hplace, hall⟩ := ih hp hn h
        exact ⟨hfiles, hplace, fun hl => ⟨rfl, by rw [List.flatten_cons, hd, (hall hl).2]; rfl⟩⟩
      · have hpiece : w.writePiece piece = (none, { w with unseen := some .noSpace }) := by
          simp only [writePiece, hu, hp, FileSystem.append, hn, if_neg hd]
        simp only [writePieces, hpiece] at h
        obtain ⟨hfiles, hplace, hall⟩ :=
          ih (w := { w with unseen := some .noSpace }) hp hn h
        refine ⟨hfiles, hplace, ?_⟩
        intro hl
        cases (hall hl).1

end Writer
end Storage

namespace Cli.FetchCommand

/-- Nothing can be received into a device without room. -/
theorem receive_full {location : String} {w : Writer} {place : Place} (hp : w.place = some place)
    (hn : w.files.node? place = some .full) {length n : Nat} {events : List Fetch.Event}
    (hs : Fetch.Sealed events) :
    let r := receive location w length events
    r.reception = .completed n → r.writer.unseen = none →
      w.unseen = none ∧ (Fetch.pieces events).flatten = [] ∧ n = length ∧
        r.writer.files = w.files := by
  -- An error that is still unseen at the end fails the run, so that no piece can have left one.
  induction events generalizing w length with
  | nil => nofun
  | cons event rest ih =>
    intro r hr hu
    have hlater : Fetch.Sealed rest := fun first last more he ht =>
      hs (event :: first) last more (by rw [he]; rfl) ht
    cases event with
    | opened => exact ih hp hn hlater hr hu
    | status place code headers => exact ih hp hn hlater hr hu
    | chunk data p =>
      cases hw : w.write data with
      | mk failure after =>
        cases failure with
        | some cause =>
          simp only [r, receive, hw, Received.after] at hr
          cases hr
        | none =>
          obtain ⟨hfiles, hplace, hall⟩ := Writer.writePieces_full hp hn hw
          simp only [r, receive, hw, Received.after] at hr hu ⊢
          obtain ⟨hseen, hrest, hlength, hsame⟩ := ih hplace (by rw [hfiles]; exact hn) hlater hr hu
          obtain ⟨hbefore, hnone⟩ := hall hseen
          rw [Bytes.flatten_pieces (by decide)] at hnone
          subst hnone
          exact ⟨hbefore, hrest, hlength, hsame.trans hfiles⟩
    | complete =>
      obtain rfl : rest = [] := hs [] .complete rest rfl rfl
      cases hr
      exact ⟨hu, rfl, rfl, rfl⟩
    | error cause => cases hr

variable {c : FetchCommand} {around : Surroundings} {source : Bytes} {path report : String}
  {length : Option Nat} {data : Bytes}

/-- A path leads to a device that keeps nothing: one that swallows all data, or one without room, into
which no data go but none at all. -/
def Swallows (files : FileSystem) (path : String) (data : Bytes) : Prop :=
  ∃ place node, files.locate (utf8 path) = .ok (.found place node) ∧
    (node = .null ∨ node = .full ∧ data = [])

/-- A run has reported the length of these data and left them in its output, unless that is a device
that keeps nothing. -/
structure Saved (c : FetchCommand) (around : Surroundings) (path report : String) (data : Bytes) :
    Prop where
  reported : c.Tells report data.length
  left : (c.run around).files.openSource (utf8 path) = .ok (.bytes data) ∨
    Swallows around.files path data ∧ (c.run around).files = around.files

/-- A sink that leaves its data under the path of the output has saved them. -/
theorem saved_of_ends {s : Sink around.files} (h : c.Ends s (c.run around) (.payload data))
    (hl : s.Leaves (utf8 path)) (hok : (c.run around).result = some (.ok report)) :
    c.Saved around path report data := by
  obtain ⟨hresult, hfiles⟩ := h
  rw [hok] at hresult
  obtain rfl : report = c.report data.length := Except.ok.inj (Option.some.inj hresult)
  refine ⟨c.tells_report data.length, ?_⟩
  rw [hfiles]
  refine hl.imp (fun hread => hread data) ?_
  rintro ⟨⟨place, hnull⟩, hsame⟩
  exact ⟨⟨place, .null, hnull, Or.inl rfl⟩, hsame data⟩

/-- A run ends with what is in the file when it is read. -/
theorem ends_run (hr : Target.resolve c.location c.baseUrl = .ok (.file source))
    {s : Sink around.files} (hs : c.SavesTo s)
    (hread : (c.asked around (s.written [])).files.openSource source =
      .ok { length, content := data }) : c.Ends s (c.run around) (.payload data) := by
  obtain ⟨l, hl⟩ := exists_makes_file hr around
  obtain ⟨later, hlater⟩ := exists_makes_file hr { around with files := s.written [] }
  have hends := ends_asked hl hs hlater
  rw [verdict_opened _ hread] at hends
  exact hends

/-- A stream into the file that it comes from finds the file empty. -/
theorem run_emptied (hr : Target.resolve c.location c.baseUrl = .ok (.file source))
    (ho : c.output = some path) (hstream : c.stream = true)
    (hsame : around.files.SameFile source (utf8 path)) :
    (c.run around).result = some (.ok (c.report 0)) ∧
      (c.run around).files.openSource (utf8 path) = .ok (.bytes []) := by
  obtain ⟨place, content, hsource, hpath⟩ := hsame
  have hsink : around.files.openSink (utf8 path) true =
      .ok (place, around.files.put place (.file [])) := by
    simp only [FileSystem.openSink, hpath, if_true]
  rcases FileSystem.openSink_cases hsink with ⟨hv, -, hread⟩ | ⟨node, hdevice, hl, -⟩
  · have hs : c.SavesTo (.file place hv : Sink around.files) :=
      savesTo_opened ho hsink rfl rfl (Or.inl hread)
    have hempty : (around.files.put place (.file [])).openSource source = .ok (.bytes []) :=
      FileSystem.openSource_put_self hv [] hsource
    obtain ⟨hresult, hfiles⟩ := ends_run hr hs (by rw [asked_of_stream hstream]; exact hempty)
    rw [hfiles]
    exact ⟨hresult, hread []⟩
  · rw [hpath] at hl
    rcases hdevice with rfl | rfl <;> cases hl

/-- A run whose payload cannot be saved does not succeed. -/
theorem openSink_of_ok (hr : Target.resolve c.location c.baseUrl = .ok (.file source))
    (ho : c.output = some path) (hok : (c.run around).result = some (.ok report)) :
    ∃ place opened, around.files.openSink (utf8 path) true = .ok (place, opened) := by
  obtain ⟨l, hl, -⟩ := exists_makes_file hr around
  cases hs : around.files.openSink (utf8 path) true with
  | ok result => exact ⟨result.1, result.2, rfl⟩
  | error cause =>
    have hcreate : c.createOutput around.files = .error (.create path cause) := by
      simp only [createOutput, ho, Writer.create, hs]
    have hsave (payload : Bytes) :
        c.save around.files payload = (.error (.write path cause), around.files) := by
      simp only [save, ho, hs]
    cases hstream : c.stream with
    | true =>
      rw [run_of_stream hstream] at hok
      unfold runStreaming at hok
      simp only [hl, hcreate, bind, Except.bind] at hok
      cases hok
    | false =>
      rw [run_of_whole hstream] at hok
      unfold runWhole at hok
      simp only [hl, hsave] at hok
      split at hok <;> cases hok

theorem result_eq_ok {r : Received} {ended : Bool} (h : r.result c ended = some (.ok report)) :
    ∃ n, r.reception = .completed n ∧ r.writer.unseen = none ∧ report = c.report n := by
  unfold Received.result at h
  split at h
  · cases h
  · split at h <;> cases h
  · rename_i n hn
    split at h
    · cases h
    · rename_i hu
      exact ⟨n, hn, hu, (Except.ok.inj (Option.some.inj h)).symm⟩

/-- Only the empty file fits into a device without room. -/
theorem saved_full (hr : Target.resolve c.location c.baseUrl = .ok (.file source))
    (hs : around.files.openSource source = .ok { length, content := data })
    (ho : c.output = some path) {place : Place}
    (hl : around.files.locate (utf8 path) = .ok (.found place .full))
    (hok : (c.run around).result = some (.ok report)) : c.Saved around path report data := by
  have hn : around.files.node? place = some .full := FileSystem.leads_locate hl
  have hsink : around.files.openSink (utf8 path) true = .ok (place, around.files) := by
    simp only [FileSystem.openSink, hl]
  have hv : Fetch.verdict c.location (c.answer around (.file source)).reply = .payload data :=
    verdict_opened around hs
  -- It is enough that nothing was written and that nothing was changed.
  have hsaved (hd : data = []) (hreport : report = c.report 0)
      (hfiles : (c.run around).files = around.files) : c.Saved around path report data := by
    subst hd
    refine ⟨?_, Or.inr ⟨⟨place, .full, hl, Or.inr ⟨rfl, rfl⟩⟩, hfiles⟩⟩
    rw [hreport]
    exact c.tells_report 0
  obtain ⟨l, hmakes⟩ := exists_makes_file hr around
  cases hstream : c.stream with
  | true =>
    have hw : c.createOutput around.files = .ok { files := around.files, place := some place } := by
      simp only [createOutput, ho, Writer.create, hsink]
    obtain ⟨stream, hrun, answer, rfl, hevents⟩ := runStreaming_eq hmakes hw hmakes
    obtain ⟨hresult, hfiles⟩ := follow_eq c { files := around.files, place := some place } stream
    have hdone := hok
    rw [run_of_stream hstream, hrun, hresult] at hdone
    obtain ⟨n, hreception, hunseen, hreport⟩ := result_eq_ok hdone
    have hsealed : Fetch.Sealed stream.drain.1 := by
      rw [hevents]
      exact Fetch.sealed_promised _ _ _
    obtain ⟨-, hnone, rfl, hsame⟩ := receive_full rfl hn hsealed hreception hunseen
    rw [hevents, Fetch.flatten_pieces_promised hv] at hnone
    refine hsaved hnone hreport ?_
    rw [run_of_stream hstream, hrun, hfiles, hsame]
  | false =>
    have hwhole : (l.whole 0).outcome = .payload data := (outcome_of_makes hmakes).trans hv
    have hrun : (c.runWhole around).result = some (c.save around.files data).1 ∧
        (c.runWhole around).files = (c.save around.files data).2 := by
      unfold runWhole
      simp only [hmakes.1, hwhole, Fetch.Outcome.result?, and_self]
    have hdone := hok
    rw [run_of_whole hstream, hrun.1] at hdone
    -- A payload in one piece is refused unless it is empty.
    by_cases hd : data = []
    · have hsave : c.save around.files data = (.ok (c.report 0), around.files) := by
        rw [hd]
        simp only [save, ho, hsink, FileSystem.append, hn, if_true, List.length_nil]
      rw [hsave] at hdone hrun
      refine hsaved hd (Except.ok.inj (Option.some.inj hdone)).symm ?_
      rw [run_of_whole hstream, hrun.2]
    · simp only [save, ho, hsink, FileSystem.append, hn, if_neg hd] at hdone
      cases hdone

/-- The file is read as it was before, unless it is emptied for a stream of its own data. -/
theorem read_of_apart (hs : around.files.openSource source = .ok { length, content := data })
    (hne : ¬(c.stream = true ∧ around.files.SameFile source (utf8 path))) {place : Place}
    {opened : FileSystem} (hsink : around.files.openSink (utf8 path) true = .ok (place, opened))
    {s : Sink around.files} (hplace : s.place? = some place) :
    (c.asked around (s.written [])).files.openSource source = .ok { length, content := data } := by
  cases hstream : c.stream with
  | true =>
    rw [asked_of_stream hstream]
    exact s.openSource_apart hsink hplace (fun hsame => hne ⟨hstream, hsame⟩) hs []
  | false =>
    rw [asked_of_whole hstream]
    exact hs

theorem saved_of_apart (hr : Target.resolve c.location c.baseUrl = .ok (.file source))
    (hs : around.files.openSource source = .ok { length, content := data }) (ho : c.output = some path)
    (hne : ¬(c.stream = true ∧ around.files.SameFile source (utf8 path)))
    (hok : (c.run around).result = some (.ok report)) : c.Saved around path report data := by
  obtain ⟨place, opened, hsink⟩ := openSink_of_ok hr ho hok
  -- A device without room is the one output that a run cannot always write to.
  by_cases hfull : around.files.locate (utf8 path) = .ok (.found place .full)
  · exact saved_full hr hs ho hfull hok
  · have hwritable := FileSystem.append_of_openSink hsink hfull
    obtain ⟨s, hplace, hopened, hleaves⟩ := Sink.exists_of_openSink hsink hwritable
    have hsaves := savesTo_opened ho hsink hplace hopened hleaves
    have hends := ends_run hr hsaves (read_of_apart hs hne hsink hplace)
    exact saved_of_ends hends hleaves hok

theorem exists_report (hr : Target.resolve c.location c.baseUrl = .ok (.file source))
    (hs : around.files.openSource source = .ok { length, content := data }) (ho : c.output = some path)
    (hw : around.files.Writable (utf8 path)) :
    ∃ report, (c.run around).result = some (.ok report) := by
  by_cases hsame : c.stream = true ∧ around.files.SameFile source (utf8 path)
  · exact ⟨_, (run_emptied hr ho hsame.1 hsame.2).1⟩
  · obtain ⟨place, opened, hsink, hall⟩ := hw
    obtain ⟨s, hplace, hopened, hleaves⟩ := Sink.exists_of_openSink hsink hall
    have hsaves := savesTo_opened ho hsink hplace hopened hleaves
    obtain ⟨hresult, -⟩ := ends_run hr hsaves (read_of_apart hs hsame hsink hplace)
    exact ⟨_, hresult⟩

/-- A fetch of a local file to an output that can be written succeeds. The output then holds what
the file held before, and the line gives its length, in all cases but one: a stream of a file that is
not empty into that same file leaves no data and reports none. -/
theorem saves_unless_streamed_into_itself
    (hr : Target.resolve c.location c.baseUrl = .ok (.file source))
    (hs : around.files.openSource source = .ok { length, content := data }) (ho : c.output = some path) :
    (around.files.Writable (utf8 path) → ∃ report, (c.run around).result = some (.ok report)) ∧
    ∀ report, (c.run around).result = some (.ok report) →
      (c.Saved around path report data ↔
        ¬(c.stream = true ∧ around.files.SameFile source (utf8 path) ∧ data ≠ [])) ∧
      (c.stream = true → around.files.SameFile source (utf8 path) →
        c.Saved around path report []) := by
  refine ⟨exists_report hr hs ho, ?_⟩
  intro report hok
  have hemptied (hstream : c.stream = true)
      (hsame : around.files.SameFile source (utf8 path)) : c.Saved around path report [] := by
    obtain ⟨hresult, hleft⟩ := run_emptied hr ho hstream hsame
    rw [hok] at hresult
    obtain rfl : report = c.report 0 := Except.ok.inj (Option.some.inj hresult)
    exact ⟨c.tells_report 0, Or.inl hleft⟩
  refine ⟨⟨?_, ?_⟩, hemptied⟩
  · rintro hsaved ⟨hstream, hsame, hd⟩
    obtain ⟨-, hleft⟩ := run_emptied hr ho hstream hsame
    -- The output is a file, and it has been left empty.
    rcases hsaved.left with hread | ⟨⟨place, node, hdevice, hkeeps⟩, -⟩
    · have hnone := Except.ok.inj (hleft.symm.trans hread)
      exact hd (congrArg Storage.Source.content hnone).symm
    · obtain ⟨other, content, -, hpath⟩ := hsame
      cases hpath.symm.trans hdevice
      rcases hkeeps with hnull | ⟨hfull, -⟩
      · cases hnull
      · cases hfull
  · intro hne
    by_cases hsame : c.stream = true ∧ around.files.SameFile source (utf8 path)
    · have hd : data = [] := Decidable.byContradiction fun hd => hne ⟨hsame.1, hsame.2, hd⟩
      rw [hd]
      exact hemptied hsame.1 hsame.2
    · exact saved_of_apart hr hs ho hsame hok

section

def oneFile (data : Bytes) : FileSystem := { entries := [([utf8 "data.bin"], .file data)] }

theorem locate_oneFile (data : Bytes) : (oneFile data).locate (utf8 "data.bin") =
    .ok (.found [utf8 "data.bin"] (.file data)) := by
  have hd : (oneFile data).Descends [] (utf8 "data.bin") := ⟨rfl, by decide, by decide, by decide⟩
  exact hd.locate (by decide) (by decide) (by decide) rfl nofun

theorem openSource_oneFile (data : Bytes) :
    (oneFile data).openSource (utf8 "data.bin") = .ok (.bytes data) := by
  simp only [FileSystem.openSource, locate_oneFile]

theorem locate_oneFile_copy (data : Bytes) : (oneFile data).locate (utf8 "copy.bin") =
    .ok (.free [utf8 "copy.bin"] false) := by
  have hd : (oneFile data).Descends [] (utf8 "copy.bin") := ⟨rfl, by decide, by decide, by decide⟩
  exact hd.locate_free (by decide) (by decide) (by decide) rfl

/-- A stream into another file. -/
theorem saves_unless_streamed_into_itself_copied :
    let c : FetchCommand := { location := "data.bin", output := some "copy.bin", stream := true }
    let around : Surroundings := { files := oneFile [1, 2, 3] }
    ∃ report, (c.run around).result = some (.ok report) ∧
      c.Saved around "copy.bin" report [1, 2, 3] := by
  intro c around
  have hr : Target.resolve "data.bin" none = .ok (.file (utf8 "data.bin")) := by rfl
  have hs : around.files.openSource (utf8 "data.bin") = .ok (.bytes [1, 2, 3]) :=
    openSource_oneFile [1, 2, 3]
  have hcopy := locate_oneFile_copy [1, 2, 3]
  have hw : around.files.Writable (utf8 "copy.bin") := by
    refine ⟨[utf8 "copy.bin"], around.files.put [utf8 "copy.bin"] (.file []), ?_, ?_⟩
    · simp only [FileSystem.openSink, around, hcopy, Bool.false_eq_true, if_false]
    · intro more
      exact ⟨_, rfl⟩
  obtain ⟨hruns, hsaves⟩ := saves_unless_streamed_into_itself (c := c) hr hs rfl
  obtain ⟨report, hok⟩ := hruns hw
  refine ⟨report, hok, (hsaves report hok).1.mpr ?_⟩
  rintro ⟨-, ⟨place, content, -, hpath⟩, -⟩
  cases hcopy.symm.trans hpath

def twoNames (data : Bytes) : FileSystem :=
  { entries := [([utf8 "data.bin"], .file data), ([utf8 "same.bin"], .name [utf8 "data.bin"])] }

theorem locate_twoNames (data : Bytes) :
    (twoNames data).locate (utf8 "data.bin") = .ok (.found [utf8 "data.bin"] (.file data)) ∧
      (twoNames data).locate (utf8 "same.bin") = .ok (.found [utf8 "data.bin"] (.file data)) := by
  have hdata : (twoNames data).Descends [] (utf8 "data.bin") :=
    ⟨rfl, by decide, by decide, by decide⟩
  have hsame : (twoNames data).Descends [] (utf8 "same.bin") :=
    ⟨rfl, by decide, by decide, by decide⟩
  exact ⟨hdata.locate (by decide) (by decide) (by decide) rfl nofun,
    hsame.locate (by decide) (by decide) (by decide) rfl nofun⟩

/-- A stream into the file itself succeeds and leaves an empty file, under both of its names. -/
theorem streamed_into_itself_lost :
    let around : Surroundings := { files := twoNames [1, 2, 3] }
    around.files.openSource (utf8 "data.bin") = .ok (.bytes [1, 2, 3]) ∧
      (let c : FetchCommand := { location := "data.bin", output := some "data.bin", stream := true }
      (c.run around).result = some (.ok "data.bin: 0 bytes written to data.bin") ∧
        (c.run around).files.openSource (utf8 "data.bin") = .ok (.bytes [])) ∧
      (let c : FetchCommand := { location := "data.bin", output := some "same.bin", stream := true }
      (c.run around).result = some (.ok "data.bin: 0 bytes written to same.bin") ∧
        (c.run around).files.openSource (utf8 "same.bin") = .ok (.bytes [])) := by
  intro around
  have hr : Target.resolve "data.bin" none = .ok (.file (utf8 "data.bin")) := by rfl
  obtain ⟨hdata, hsame⟩ := locate_twoNames [1, 2, 3]
  have hopen : around.files.openSource (utf8 "data.bin") = .ok (.bytes [1, 2, 3]) := by
    simp only [FileSystem.openSource, around, hdata]
  refine ⟨hopen, ?_, ?_⟩
  · intro c
    exact run_emptied (c := c) hr rfl rfl ⟨_, _, hdata, hdata⟩
  · intro c
    exact run_emptied (c := c) hr rfl rfl ⟨_, _, hdata, hsame⟩

end

end Cli.FetchCommand
end Retrieval
