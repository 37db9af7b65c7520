import Retrieval.Proofs.Cli.Saving

/-! What a failed fetch leaves behind. A resource that cannot be had as a whole leaves all files as
they were. A stream has made or emptied its output by the time it fails, and leaves there the data
that came before the failure. -/
namespace Retrieval

open Storage (FileSystem Place Sink Writer)

namespace Storage

namespace Sink

variable {files : FileSystem}

/-- Only the place that is written to changes. -/
theorem node?_written (s : Sink files) {place : Place} (hne : s.place? ≠ some place)
    (data : Bytes) : (s.written data).node? place = files.node? place := by
  cases s with
  | nowhere => rfl
  | device _ _ => rfl
  | file other hv =>
    apply FileSystem.node?_put_of_ne
    rintro rfl
    exact hne rfl

/-- What is left under the path is a beginning of the data, and all of them unless the path leads to
a device that swallows them. -/
theorem Leaves.exists_kept {s : Sink files} {path : Bytes} (h : s.Leaves path) (data : Bytes) :
    ∃ kept, (s.written data).openSource path = .ok (.bytes kept) ∧ kept <+: data ∧
      ((¬∃ place, files.locate path = .ok (.found place .null)) → kept = data) := by
  rcases h with hread | ⟨⟨place, hl⟩, hsame⟩
  · exact ⟨data, hread data, List.prefix_rfl, fun _ => rfl⟩
  · refine ⟨[], ?_, List.nil_prefix, fun hnull => absurd ⟨place, hl⟩ hnull⟩
    rw [hsame data]
    simp only [FileSystem.openSource, hl]

end Sink
end Storage

namespace Cli.FetchCommand

variable {c : FetchCommand} {around : Surroundings} {path : String} {place : Place}
  {opened : FileSystem} {e : RunError} {target : Target} {cause : LoadError}

def Unobtainable (c : FetchCommand) (around : Surroundings) : Prop :=
  (∃ e, c.loader around = .error e) ∨
    ∃ l cause, c.loader around = .ok l ∧ (l.whole 0).outcome = .failure cause

/-- A run has left the data of these events in its output, which shows none of them if it is a
device that swallows them, and has changed nothing else. -/
structure Left (c : FetchCommand) (around : Surroundings) (path : String) (place : Place)
    (events : List Fetch.Event) : Prop where
  kept : ∃ kept, (c.run around).files.openSource (utf8 path) = .ok (.bytes kept) ∧
    kept <+: (Fetch.pieces events).flatten ∧
    ((¬∃ null, around.files.locate (utf8 path) = .ok (.found null .null)) →
      kept = (Fetch.pieces events).flatten)
  others : ∀ other, other ≠ place → (c.run around).files.node? other = around.files.node? other

theorem files_of_loader_error (h : c.loader around = .error e) :
    (c.run around).files = around.files := by
  unfold run
  split
  · unfold runStreaming
    simp only [h, bind, Except.bind]
  · unfold runWhole
    simp only [h]

theorem files_runWhole_of_failure {l : Loader} (hl : c.loader around = .ok l)
    (hf : (l.whole 0).outcome = .failure cause) : (c.runWhole around).files = around.files := by
  unfold runWhole
  simp only [hl, hf, Fetch.Outcome.result?]

/-- Making the output has no part in whether the resource can be had. -/
theorem failure_opened_iff {s : Sink around.files}
    (hr : Target.resolve c.location c.baseUrl = .ok target)
    (hne : ∀ place, s.place? = some place → c.Apart place (s.written [])) :
    (∃ cause, Fetch.verdict c.location
        (c.answer { around with files := s.written [] } target).reply = .failure cause) ↔
      ∃ cause, Fetch.verdict c.location (c.answer around target).reply = .failure cause := by
  rcases answer_opened_cases s hne hr with hsame | ⟨source, rfl, hbefore, hafter⟩
  · rw [hsame]
  · exact iff_of_true ⟨_, verdict_missing { around with files := s.written [] } hafter⟩
      ⟨_, verdict_missing around hbefore⟩

/-- Once there is a loader, a resource cannot be had exactly where its answer comes to a failure. -/
theorem unobtainable_iff {l : Loader} (hl : c.Makes around target l) :
    c.Unobtainable around ↔
      ∃ cause, Fetch.verdict c.location (c.answer around target).reply = .failure cause := by
  have hload := hl.1
  constructor
  · rintro (⟨e, he⟩ | ⟨other, cause, hother, hf⟩)
    · cases hload.symm.trans he
    · cases hload.symm.trans hother
      exact ⟨cause, (outcome_of_makes hl).symm.trans hf⟩
  · rintro ⟨cause, hf⟩
    exact Or.inr ⟨l, cause, hload, (outcome_of_makes hl).trans hf⟩

/-- It makes no difference whether the output was made before the request or not. -/
theorem failure_asked_iff {l : Loader} (hl : c.Makes around target l) {s : Sink around.files}
    (hr : Target.resolve c.location c.baseUrl = .ok target)
    (hne : ∀ place, s.place? = some place → c.Apart place (s.written [])) :
    (∃ cause, Fetch.verdict c.location
        (c.answer (c.asked around (s.written [])) target).reply = .failure cause) ↔
      c.Unobtainable around := by
  rw [unobtainable_iff hl]
  cases hstream : c.stream with
  | true =>
    rw [asked_of_stream hstream]
    exact failure_opened_iff hr hne
  | false => rw [asked_of_whole hstream]

theorem delivery_of_loader {l : Loader} (h : c.loader around = .ok l) :
    l.delivery = .ofSupport c.progressive := by
  unfold loader Loader.create at h
  split at h
  · rename_i made hmade
    cases h
    split at hmade
    · cases hmade
    · unfold Transport.http at hmade
      split at hmade <;> cases hmade
      rename_i transport htransport
      split at htransport <;> cases htransport
      rfl
    · cases hmade
      rfl
  · cases h

/-- A stream that fails ends in its error, and its data are in the output. -/
theorem left_of_failure {l later : Loader} (hstream : c.stream = true)
    (hl : c.Makes around target l) {s : Sink around.files} (hs : c.SavesTo s)
    (hplace : s.place? = some place) (hleaves : s.Leaves (utf8 path))
    (hlater : c.Makes { around with files := s.written [] } target later)
    (hf : Fetch.verdict c.location
      (c.answer { around with files := s.written [] } target).reply = .failure cause) :
    ∃ stream, later.stream? 0 = some stream ∧ stream.drain.1.getLast? = some (.error cause) ∧
      (c.progressive = false → Fetch.pieces stream.drain.1 = []) ∧
      c.Left around path place stream.drain.1 := by
  obtain ⟨hload, hmade, hlocation, hanswer⟩ := hlater
  obtain ⟨stream, hmakes⟩ := exists_stream hmade
  -- The stream hands out what its answer promises, and that ends in the failure.
  have hevents : stream.drain.1 = Fetch.promised c.location later.delivery (later.answer 0) := by
    rw [← hlocation]
    exact (Fetch.drain_stream hmade hmakes).1
  rw [← hanswer] at hf
  have hlast : stream.drain.1.getLast? = some (.error cause) := by
    have hconveys : Fetch.Conveys c.location stream.drain.1
        (Fetch.verdict c.location (later.answer 0).reply) := by
      rw [hevents]
      exact Fetch.conveys_promised
    rw [hf] at hconveys
    exact hconveys
  refine ⟨stream, hmakes, hlast, ?_, ?_⟩
  · -- In one piece, the piece comes with the end of the body, and the body has none.
    intro hp
    have hdelivery : later.delivery = .buffered := by
      rw [delivery_of_loader hload, hp]
      rfl
    rw [hevents, hdelivery]
    exact Fetch.pieces_buffered_of_failure hf
  · -- The output was emptied at its creation, so that it holds the pieces and nothing else.
    have hrun : (c.run around).files = s.written (Fetch.pieces stream.drain.1).flatten := by
      calc (c.run around).files = (c.follow (s.writer []) stream).files := by
            rw [run_of_stream hstream]
            unfold runStreaming
            have hthere : c.loader { around with files := (s.writer []).files } = .ok later := hload
            simp only [hl.1, hs.created, hthere, hmakes, bind, Except.bind, pure, Except.pure]
        _ = (receive c.location (s.writer []) 0 stream.drain.1).writer.files :=
          (follow_eq c (s.writer []) stream).2
        _ = s.written (Fetch.pieces stream.drain.1).flatten := by
          rw [hevents, writer_receive_promised]
          rfl
    refine ⟨?_, ?_⟩
    · rw [hrun]
      exact hleaves.exists_kept _
    · intro other hne
      rw [hrun]
      apply s.node?_written
      rw [hplace]
      exact fun he => hne (Option.some.inj he).symm

/-- A command whose resource cannot be had fails, and no other command with an output that can be
written does. Without a loader or without a stream all files are as they were. A stream that fails
has put the data of its events into the output, in the stead of what was there: none in one piece,
and none where the failure came first. -/
theorem failed_fetch_leaves_what_came_before (ho : c.output = some path)
    (hsink : around.files.openSink (utf8 path) true = .ok (place, opened))
    (hw : ∀ data, ∃ later, opened.append place data = .ok later) (hne : c.Apart place opened) :
    (c.Unobtainable around ↔ ∃ e, (c.run around).result = some (.error e)) ∧
    ∀ e, (c.run around).result = some (.error e) →
      (c.loader around = .error e ∧ (c.run around).files = around.files) ∨
      ∃ l cause, c.loader around = .ok l ∧ e = .fetch c.location cause.reason ∧
        (c.stream = false →
          (l.whole 0).outcome = .failure cause ∧ (c.run around).files = around.files) ∧
        (c.stream = true → ∃ later stream, c.loader { around with files := opened } = .ok later ∧
          later.stream? 0 = some stream ∧ stream.drain.1.getLast? = some (.error cause) ∧
          (c.progressive = false → Fetch.pieces stream.drain.1 = []) ∧
          c.Left around path place stream.drain.1) := by
  rcases loader_cases c with ⟨cause, hnone⟩ | ⟨target, hr, hmakes⟩
  · -- There is nothing to ask for the resource with.
    have hl : c.loader around = .error (.load c.location cause) :=
      hnone c.stream c.progressive around
    have hrun := run_of_loader_error hl
    refine ⟨iff_of_true (Or.inl ⟨_, hl⟩) ⟨_, hrun⟩, ?_⟩
    intro e he
    cases hrun.symm.trans he
    exact Or.inl ⟨hl, files_of_loader_error hl⟩
  -- A stream asks over files in which the output is there and empty. By hypothesis it is not what
  -- is asked for, so this does not change how the request ends.
  obtain ⟨s, hplace, rfl, hleaves⟩ := Sink.exists_of_openSink hsink hw
  have hs : c.SavesTo s := savesTo_opened ho hsink hplace rfl hleaves
  obtain ⟨l, hl⟩ : ∃ l, c.Makes around target l := hmakes c.stream c.progressive around
  obtain ⟨later, hlater⟩ : ∃ l, c.Makes { around with files := s.written [] } target l :=
    hmakes c.stream c.progressive { around with files := s.written [] }
  have hends := ends_asked hl hs hlater
  have hapart : ∀ spot, s.place? = some spot → c.Apart spot (s.written []) := by
    rintro spot hspot
    cases hplace.symm.trans hspot
    exact hne
  have hfails := failure_asked_iff hl hr hapart
  rcases Fetch.verdict_of_orderly
    (orderly_answer c (c.asked around (s.written [])) target) c.location with
    ⟨data, hv⟩ | ⟨cause, hv⟩
  · -- A payload: the run succeeds, and nothing was unobtainable.
    rw [hv] at hends hfails
    have hok : ¬∃ e, (c.run around).result = some (.error e) := by
      rintro ⟨e, he⟩
      cases hends.1.symm.trans he
    refine ⟨iff_of_false ?_ hok, fun e he => absurd ⟨e, he⟩ hok⟩
    intro hun
    obtain ⟨cause, hf⟩ := hfails.mpr hun
    cases hf
  · -- A failure: the run reports it, whichever way it came.
    rw [hv] at hends
    have hrun : (c.run around).result = some (.error (.fetch c.location cause.reason)) := hends
    refine ⟨iff_of_true (hfails.mp ⟨cause, hv⟩) ⟨_, hrun⟩, ?_⟩
    intro e he
    cases hrun.symm.trans he
    refine Or.inr ⟨l, cause, hl.1, rfl, ?_, ?_⟩
    · intro hstream
      rw [asked_of_whole hstream] at hv
      have hf := (outcome_of_makes hl).trans hv
      rw [run_of_whole hstream]
      exact ⟨hf, files_runWhole_of_failure hl.1 hf⟩
    · intro hstream
      rw [asked_of_stream hstream] at hv
      obtain ⟨stream, hleft⟩ := left_of_failure hstream hl hs hplace hleaves hlater hv
      exact ⟨later, stream, hlater.1, hleft⟩

/-- A body that breaks off behind two bytes, streamed over another file. -/
theorem failed_fetch_leaves_what_came_before_broken_off :
    let base : Url := { scheme := "http", host := some (.name "h"), path := .segments [""] }
    let c : FetchCommand :=
      { location := "x", output := some "data.bin", stream := true, baseUrl := some base }
    let network : Http.Network := fun _ =>
      .ok { status := 200, body := [.ok [1, 2], .error (.unreachable "http://h/x")] }
    let around : Surroundings := { files := oneFile [9, 9, 9], network }
    (∃ e, (c.run around).result = some (.error e)) ∧
      (c.run around).files.openSource (utf8 "data.bin") = .ok (.bytes [1, 2]) := by
  intro base c network around
  let url : Url := { scheme := "http", host := some (.name "h"), path := .segments ["x"] }
  have hr : Target.resolve "x"
      (some { scheme := "http", host := some (.name "h"), path := .segments [""] }) =
      .ok (.http url) := by rfl
  have hpath : around.files.locate (utf8 "data.bin") =
      .ok (.found [utf8 "data.bin"] (.file [9, 9, 9])) := locate_oneFile [9, 9, 9]
  have hsink : around.files.openSink (utf8 "data.bin") true =
      .ok ([utf8 "data.bin"], around.files.put [utf8 "data.bin"] (.file [])) := by
    simp only [FileSystem.openSink, hpath, if_true]
  have hw (data : Bytes) : ∃ later,
      (around.files.put [utf8 "data.bin"] (.file [])).append [utf8 "data.bin"] data = .ok later :=
    ⟨_, rfl⟩
  have hne : c.Apart [utf8 "data.bin"] (around.files.put [utf8 "data.bin"] (.file [])) := by
    intro source node hsource
    cases hr.symm.trans hsource
  have hagent : c.config.userAgent.all Http.isHeaderText = true := by decide
  obtain ⟨l, hl⟩ := exists_makes_http (c := c) hr hagent around
  obtain ⟨later, hthere, hmade, -, hanswer⟩ := exists_makes_http (c := c) hr hagent
    { around with files := around.files.put [utf8 "data.bin"] (.file []) }
  obtain ⟨hfails, hleft⟩ := failed_fetch_leaves_what_came_before rfl hsink hw hne
  obtain ⟨e, he⟩ := hfails.mp ((unobtainable_iff hl).mpr ⟨_, rfl⟩)
  refine ⟨⟨e, he⟩, ?_⟩
  rcases hleft e he with ⟨hnone, -⟩ | ⟨other, cause, -, -, -, hstreams⟩
  · cases hl.1.symm.trans hnone
  obtain ⟨again, stream, hagain, hstream, -, -, ⟨kept, hkept, -, hall⟩, -⟩ := hstreams rfl
  cases hthere.symm.trans hagain
  have hpieces : Fetch.pieces stream.drain.1 = [[1, 2]] := by
    rw [(Fetch.drain_stream hmade hstream).1, Fetch.pieces_promised, delivery_of_loader hthere,
      hanswer]
    rfl
  have hfile : ¬∃ null, around.files.locate (utf8 "data.bin") = .ok (.found null .null) := by
    rintro ⟨null, hnull⟩
    cases hpath.symm.trans hnull
  rw [hkept, hall hfile, hpieces]
  rfl

end Cli.FetchCommand
end Retrieval
