import Retrieval.Proofs.Cli.Reception
import Retrieval.Proofs.Fetch.Agreement

/-! One command in all its modes. Fetched whole or followed as a stream, piece by piece or in one
piece, a resource leaves the same data in the output and ends in the same line, or fails for the
same reason. -/
namespace Retrieval.Cli

open Storage (FileSystem Place Sink Writer)

namespace FetchCommand

def inMode (c : FetchCommand) (stream progressive : Bool) : FetchCommand :=
  { c with stream, progressive }

/-- The answer to the request of a command. No switch has a part in it. -/
def answer (c : FetchCommand) (around : Surroundings) : Target → Answer
  | .http url =>
    { reply := Transport.exchange c.config around.network c.request url
      accesses := (Transport.message? c.config c.request url).toList.map .host }
  | .file path => Transport.openFile c.config around.files c.location path

variable {c : FetchCommand} {around : Surroundings} {target : Target}

/-- The loader that a command makes under some circumstances, for this target and with its
answer. -/
def Makes (c : FetchCommand) (around : Surroundings) (target : Target) (l : Loader) : Prop :=
  c.loader around = .ok l ∧ l.MadeFrom c.config ∧ l.request.location = c.location ∧
    l.answer 0 = c.answer around target

theorem makes_of_create {l : Loader} (h : Loader.create c.request c.config around = .ok l)
    (ha : l.answer 0 = c.answer around target) (hr : l.request = c.request) :
    c.Makes around target l := by
  refine ⟨?_, .chosen h, congrArg Request.location hr, ha⟩
  unfold loader
  simp only [h]

theorem exists_makes_file {path : Bytes}
    (hr : Target.resolve c.location c.baseUrl = .ok (.file path)) (around : Surroundings) :
    ∃ l, c.Makes around (.file path) l := by
  have hr' : Target.resolve c.request.location c.config.baseUrl = .ok (.file path) := hr
  have hcreate : ∃ l, Loader.create c.request c.config around = .ok l ∧ l.request = c.request ∧
      l.answer 0 = c.answer around (.file path) := by
    simp only [Loader.create, hr']
    exact ⟨_, rfl, rfl, rfl⟩
  obtain ⟨l, hl, hrequest, hanswer⟩ := hcreate
  exact ⟨l, makes_of_create hl hanswer hrequest⟩

theorem exists_makes_http {url : Url}
    (hr : Target.resolve c.location c.baseUrl = .ok (.http url))
    (ha : c.config.userAgent.all Http.isHeaderText = true) (around : Surroundings) :
    ∃ l, c.Makes around (.http url) l := by
  have hr' : Target.resolve c.request.location c.config.baseUrl = .ok (.http url) := hr
  have hcreate : ∃ l, Loader.create c.request c.config around = .ok l ∧ l.request = c.request ∧
      l.answer 0 = c.answer around (.http url) := by
    simp only [Loader.create, hr', Transport.http, if_pos ha]
    exact ⟨_, rfl, rfl, rfl⟩
  obtain ⟨l, hl, hrequest, hanswer⟩ := hcreate
  exact ⟨l, makes_of_create hl hanswer hrequest⟩

theorem loader_of_create {cause : LoadError}
    (h : Loader.create c.request c.config around = .error cause) :
    c.loader around = .error (.load c.location cause) := by
  unfold loader
  simp only [h]

/-- A loader cannot be made under any circumstances, or there is one under all, for one target. -/
theorem loader_cases (c : FetchCommand) :
    (∃ cause, ∀ stream progressive around,
      (c.inMode stream progressive).loader around = .error (.load c.location cause)) ∨
    (∃ target, Target.resolve c.location c.baseUrl = .ok target ∧
      ∀ stream progressive around,
        ∃ l, (c.inMode stream progressive).Makes around target l) := by
  -- The switches are no part of the request, and of the settings only the transport sees them.
  cases hr : Target.resolve c.location c.baseUrl with
  | error cause =>
    refine Or.inl ⟨cause, fun stream progressive around => loader_of_create ?_⟩
    have hr' : Target.resolve (c.inMode stream progressive).request.location
        (c.inMode stream progressive).config.baseUrl = .error cause := hr
    simp only [Loader.create, hr']
  | ok target =>
    cases target with
    | file path =>
      exact Or.inr ⟨.file path, rfl, fun stream progressive => exists_makes_file hr⟩
    | http url =>
      by_cases ha : c.config.userAgent.all Http.isHeaderText = true
      · exact Or.inr ⟨.http url, rfl, fun stream progressive => exists_makes_http hr ha⟩
      · refine Or.inl ⟨.clientBuild .badHeader, fun stream progressive around =>
          loader_of_create ?_⟩
        have hr' : Target.resolve (c.inMode stream progressive).request.location
            (c.inMode stream progressive).config.baseUrl = .ok (.http url) := hr
        have ha' : ¬(c.inMode stream progressive).config.userAgent.all Http.isHeaderText = true :=
          ha
        simp only [Loader.create, hr', Transport.http, if_neg ha']

/-- A command reads files in pieces of the default size. -/
theorem fits_buffer (c : FetchCommand) : ¬Transport.chunkSize c.config > Transport.maxBuffer := by
  have hdefault : Transport.chunkSize c.config = 65536 := rfl
  rw [hdefault]
  decide

/-- What a command's request is answered with never breaks down and never falls silent. -/
theorem orderly_answer (c : FetchCommand) (around : Surroundings) (target : Target) :
    (c.answer around target).reply.orderly = true := by
  cases target with
  | http url => exact Transport.orderly_exchange _ _ _
  | file path => exact Transport.orderly_openFile fun _ _ => Nat.not_lt.mp c.fits_buffer

/-- The output is not what is fetched: a local path does not lead to it once it is there. -/
def Apart (c : FetchCommand) (place : Place) (opened : FileSystem) : Prop :=
  ∀ source node, Target.resolve c.location c.baseUrl = .ok (.file source) →
    opened.locate source ≠ .ok (.found place node)

/-- A line that says how many bytes came from where, and what they were written to. It is not the
line for any other number. -/
structure Tells (c : FetchCommand) (line : String) (n : Nat) : Prop where
  text : line = c.location ++ ": " ++ toString n ++ " bytes" ++
    match c.output with
    | some path => " written to " ++ path
    | none => ""
  only : ∀ m, c.report m = line → m = n

/-- The reported line says how many bytes there were. -/
theorem report_inj (c : FetchCommand) {n m : Nat} : c.report n = c.report m ↔ n = m := by
  constructor
  · intro h
    -- The same words stand around both numbers, and digits are read back.
    have hshown : toString n = toString m := by
      simpa only [report, String.append_left_inj, String.append_right_inj] using h
    have hdigits : Nat.toDigits 10 n = Nat.toDigits 10 m := by
      rw [← Nat.toList_repr, ← Nat.toList_repr]
      exact congrArg String.toList hshown
    rw [← Nat.ofDigitChars_ten_toDigits (n := n), hdigits, Nat.ofDigitChars_ten_toDigits]
  · exact congrArg c.report

theorem tells_report (c : FetchCommand) (n : Nat) : c.Tells (c.report n) n where
  text := by
    unfold report
    cases c.output <;> rfl
  only _ := c.report_inj.mp

/-- What a command saves to: under which paths the data are found later, and how they are saved at
once. -/
structure SavesTo (c : FetchCommand) {files : FileSystem} (s : Sink files) : Prop where
  created : c.createOutput files = .ok (s.writer [])
  saved : ∀ data, c.save files data = (.ok (c.report data.length), s.written data)
  without : c.output = none → ∀ data, s.written data = files
  left : ∀ path, c.output = some path → s.Leaves (utf8 path)

/-- An output that can be opened and written is saved to in pieces as at once. -/
theorem savesTo_opened {files opened : FileSystem} {path : String} {place : Storage.Place}
    (ho : c.output = some path) (hs : files.openSink (utf8 path) true = .ok (place, opened))
    {s : Sink files} (hplace : s.place? = some place) (hopened : s.written [] = opened)
    (hleaves : s.Leaves (utf8 path)) : c.SavesTo s := by
  refine ⟨?_, ?_, ?_, ?_⟩
  · simp only [createOutput, ho, Writer.create, hs, Sink.writer, hplace, hopened]
  · intro data
    have happend := s.append_written hplace [] data
    rw [hopened, List.nil_append] at happend
    simp only [save, ho, hs, happend]
  · intro hnone
    rw [ho] at hnone
    cases hnone
  · intro other hp
    rw [ho] at hp
    cases hp
    exact hleaves

/-- Making the output does not change what a request is answered with, unless it stands in the way
of a path that leads to nothing. -/
theorem answer_opened_cases (s : Sink around.files)
    (hne : ∀ place, s.place? = some place → c.Apart place (s.written []))
    (hr : Target.resolve c.location c.baseUrl = .ok target) :
    c.answer { around with files := s.written [] } target = c.answer around target ∨
      ∃ source, target = .file source ∧ around.files.openSource source = .error .noEntry ∧
        (s.written []).openSource source = .error .notDirectory := by
  cases target with
  | http url => exact Or.inl rfl
  | file source =>
    have hapart (place : Place) (node : Storage.Node) (hp : s.place? = some place) :
        (s.written []).locate source ≠ .ok (.found place node) := hne place hp source node hr
    rcases s.openSource_reopened hapart with hsame | hthrough
    · exact Or.inl (by simp only [answer, Transport.openFile, hsame])
    · exact Or.inr ⟨source, rfl, hthrough⟩

/-- A local file is answered with all that can be read from it, unless reading fails. -/
theorem verdict_opened (around : Surroundings) {source : Bytes} {content : Storage.Source}
    (h : around.files.openSource source = .ok content) :
    Fetch.verdict c.location (c.answer around (.file source)).reply =
      content.failure.elim (.payload content.content)
        fun cause => .failure (.fileRead c.location cause) := by
  have hflat : (content.content.pieces (Transport.chunkSize c.config)).flatten = content.content :=
    Bytes.flatten_pieces (by rw [show Transport.chunkSize c.config = 65536 from rfl]; decide) _
  have hr : (Transport.openFile c.config around.files c.location source).reply = .response _ :=
    Transport.reply_openFile h (Nat.not_lt.mp c.fits_buffer)
  rw [answer, hr]
  refine (Transport.bodyOutcome_fileBody _).trans ?_
  rw [hflat]

theorem verdict_missing (around : Surroundings) {source : Bytes} {cause : Storage.Failure}
    (h : around.files.openSource source = .error cause) :
    Fetch.verdict c.location (c.answer around (.file source)).reply =
      .failure (.nullPayload c.location cause.message) := by
  simp only [answer, Transport.openFile, h]
  rfl

def Ends (c : FetchCommand) {files : FileSystem} (s : Sink files) (r : Run) :
    Fetch.Outcome → Prop
  | .payload data => r.result = some (.ok (c.report data.length)) ∧ r.files = s.written data
  | .failure cause => r.result = some (.error (.fetch c.location cause.reason))
  -- No retrieval of a command comes to these.
  | .crashed | .stalled => True

theorem outcome_of_makes {l : Loader} (h : c.Makes around target l) :
    (l.whole 0).outcome = Fetch.verdict c.location (c.answer around target).reply := by
  obtain ⟨-, -, hlocation, hanswer⟩ := h
  rw [← hlocation, ← hanswer]
  exact Fetch.outcome_loader l 0

theorem run_of_stream (h : c.stream = true) : c.run around = c.runStreaming around := if_pos h

theorem run_of_whole (h : c.stream = false) : c.run around = c.runWhole around :=
  if_neg (by rw [h]; decide)

theorem ends_runWhole {l : Loader} (hl : c.Makes around target l) {s : Sink around.files}
    (hs : c.SavesTo s) :
    c.Ends s (c.runWhole around) (Fetch.verdict c.location (c.answer around target).reply) := by
  have hload := hl.1
  have ho := outcome_of_makes hl
  unfold runWhole
  cases hv : Fetch.verdict c.location (c.answer around target).reply with
  | payload data => simp only [Ends, hload, ho, hv, Fetch.Outcome.result?, hs.saved, and_self]
  | failure cause => simp only [Ends, hload, ho, hv, Fetch.Outcome.result?]
  | crashed => trivial
  | stalled => trivial

theorem exists_stream {l : Loader} (h : l.MadeFrom c.config) : ∃ s, l.stream? 0 = some s := by
  have hfit : c.config.eventBuffer.toNat ≤ Loader.maxChannelCapacity := by
    have hdefault : c.config.eventBuffer.toNat = 32 := rfl
    rw [hdefault]
    decide
  exact Option.isSome_iff_exists.mp ((Loader.stream?_isSome h 0).mpr hfit)

theorem follow_eq (c : FetchCommand) (w : Writer) (stream : Fetch.Stream) :
    (c.follow w stream).result =
        (receive c.location w 0 stream.drain.1).result c stream.drain.2.1 ∧
      (c.follow w stream).files = (receive c.location w 0 stream.drain.1).writer.files :=
  ⟨rfl, rfl⟩

/-- A streamed fetch follows the resource as it is once the output is there. -/
theorem runStreaming_eq {l later : Loader} (hl : c.Makes around target l) {w : Writer}
    (hw : c.createOutput around.files = .ok w)
    (hlater : c.Makes { around with files := w.files } target later) :
    ∃ stream, c.runStreaming around = c.follow w stream ∧ ∃ answer,
      answer = c.answer { around with files := w.files } target ∧
        stream.drain.1 = Fetch.promised c.location later.delivery answer := by
  obtain ⟨hload, hmade, hlocation, hanswer⟩ := hlater
  obtain ⟨stream, hstream⟩ := exists_stream hmade
  obtain ⟨hevents, -⟩ := Fetch.drain_stream hmade hstream
  rw [hlocation] at hevents
  refine ⟨stream, ?_, _, hanswer, hevents⟩
  unfold runStreaming
  simp only [hl.1, hw, hload, hstream, bind, Except.bind, pure, Except.pure]

/-- A streamed fetch ends as the resource has it once the output is there. -/
theorem ends_runStreaming_after {l later : Loader} (hl : c.Makes around target l)
    {s : Sink around.files} (hs : c.SavesTo s)
    (hlater : c.Makes { around with files := s.written [] } target later) :
    c.Ends s (c.runStreaming around)
      (Fetch.verdict c.location
        (c.answer { around with files := s.written [] } target).reply) := by
  obtain ⟨stream, hrun, answer, hanswer, hevents⟩ := runStreaming_eq hl hs.created hlater
  have hsame : answer = c.answer { around with files := s.written [] } target := hanswer
  have htells := receive_promised s c.location later.delivery answer
  rw [← hevents] at htells
  obtain ⟨hresult, hfiles⟩ := follow_eq c (s.writer []) stream
  rw [hrun, ← hsame]
  cases hv : Fetch.verdict c.location answer.reply with
  | payload data =>
    rw [hv] at htells
    obtain ⟨hreception, hwriter⟩ := htells
    refine ⟨?_, ?_⟩
    · have hunseen : (receive c.location (s.writer []) 0 stream.drain.1).writer.unseen = none := by
        rw [hwriter]
        rfl
      rw [hresult]
      simp only [Received.result, hreception, hunseen]
    · rw [hfiles, hwriter]
      rfl
  | failure cause =>
    rw [hv] at htells
    have hreception : (receive c.location (s.writer []) 0 stream.drain.1).reception =
        .failed (.fetch c.location cause.reason) := htells
    show (c.follow (s.writer []) stream).result = _
    rw [hresult]
    simp only [Received.result, hreception]
  | crashed => trivial
  | stalled => trivial

theorem run_of_loader_error {e : RunError} (h : c.loader around = .error e) :
    (c.run around).result = some (.error e) := by
  unfold run
  split
  · unfold runStreaming
    simp only [h, bind, Except.bind]
  · unfold runWhole
    simp only [h]

/-- What a command finds when it asks for its resource: a stream has made its output before. -/
def asked (c : FetchCommand) (around : Surroundings) (opened : FileSystem) : Surroundings :=
  if c.stream = true then { around with files := opened } else around

theorem asked_of_stream {opened : FileSystem} (h : c.stream = true) :
    c.asked around opened = { around with files := opened } := if_pos h

theorem asked_of_whole {opened : FileSystem} (h : c.stream = false) :
    c.asked around opened = around := if_neg (by rw [h]; decide)

/-- Both ways to run a command end as the resource has it that they find. -/
theorem ends_asked {l later : Loader} (hl : c.Makes around target l) {s : Sink around.files}
    (hs : c.SavesTo s) (hlater : c.Makes { around with files := s.written [] } target later) :
    c.Ends s (c.run around)
      (Fetch.verdict c.location (c.answer (c.asked around (s.written [])) target).reply) := by
  cases hstream : c.stream with
  | true =>
    rw [run_of_stream hstream, asked_of_stream hstream]
    exact ends_runStreaming_after hl hs hlater
  | false =>
    rw [run_of_whole hstream, asked_of_whole hstream]
    exact ends_runWhole hl hs

section

end

end FetchCommand
end Retrieval.Cli
