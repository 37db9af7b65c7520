import Retrieval.Proofs.Fetch.Announced
import Retrieval.Proofs.Storage.Sink

/-! Local files as they are retrieved. The bytes of a file come in the pieces of the reader, and
from a reader who fills his buffer in pieces of its size; a path that cannot be opened is a response
without payload, and one that cannot be read fails behind its heading. -/
namespace Retrieval

namespace Bytes

/-- All pieces but the last are full. -/
theorem length_of_mem_dropLast_pieces (size : Nat) (content : Bytes) :
    ∀ data ∈ (pieces size content).dropLast, data.length = size := by
  induction content using pieces.induct size with
  | case1 content hd =>
    rw [pieces, dif_pos hd]
    intro data hm
    cases hm
  | case2 content hd ih =>
    rw [pieces, dif_neg hd]
    intro data hm
    by_cases hrest : pieces size (content.drop size) = []
    · rw [hrest] at hm
      cases hm
    · rw [List.dropLast_cons_of_ne_nil hrest] at hm
      rcases List.mem_cons.mp hm with rfl | hm
      · -- A piece with another one behind it is filled.
        have hmore : content.drop size ≠ [] := by
          intro he
          rw [he, pieces, dif_pos (Or.inr rfl)] at hrest
          exact hrest rfl
        have hlong := List.length_pos_iff.mpr hmore
        rw [List.length_drop] at hlong
        rw [List.length_take]
        omega
      · exact ih data hm

theorem ne_nil_of_mem_pieces {size : Nat} {content data : Bytes} (h : data ∈ pieces size content) :
    data ≠ [] := by
  induction content using pieces.induct size with
  | case1 content hd =>
    rw [pieces, dif_pos hd] at h
    cases h
  | case2 content hd ih =>
    rw [pieces, dif_neg hd] at h
    rcases List.mem_cons.mp h with rfl | h
    · intro he
      rcases List.take_eq_nil_iff.mp he with hz | hn
      · exact hd (Or.inl hz)
      · exact hd (Or.inr hn)
    · exact ih h

end Bytes

namespace Storage

def Failure.Worded : Failure → Prop
  | other text => text ≠ ""
  | _ => True

theorem Failure.message_ne_empty {cause : Failure} (h : cause.Worded) : cause.message ≠ "" := by
  cases cause with
  | system code =>
    intro he
    have hlen := congrArg String.length he
    simp [message] at hlen
  | nulInPath => decide
  | other text => exact h

namespace FileSystem

variable {files : FileSystem}

theorem worded_of_walk {links : Nat} {here : Place} {names : List Bytes} {cause : Failure}
    (h : files.walk links here names = .error cause) : cause.Worded := by
  fun_induction walk files links here names with
  | case1 links here node hn =>
    -- Of what is there, only a name without its file cannot be had.
    cases node with
    | name first =>
      simp only [settled] at h
      split at h <;> cases h
      trivial
    | _ => cases h
  | case4 links here name rest hd hn ih => exact ih h
  | case5 links here rest hd hn ih => exact ih h
  | case11 here name rest hd hn hdown hlen target hlink links ht ih => exact ih h
  | case12 links here name rest hd hn hdown hlen node hl hnode ih => exact ih h
  | _ => cases h <;> trivial

/-- Opening a file fails for reasons that can be told. -/
theorem worded_of_openSource {path : Bytes} {cause : Failure}
    (h : files.openSource path = .error cause) : cause.Worded := by
  have hlocate {other : Failure} (hl : files.locate path = .error other) : other.Worded := by
    unfold locate at hl
    split at hl
    · cases hl; trivial
    · split at hl
      · cases hl; trivial
      · split at hl
        · cases hl; trivial
        · exact worded_of_walk hl
  unfold openSource at h
  split at h
  · cases h
    exact hlocate (by assumption)
  · cases h
    trivial
  · split at h <;> cases h <;> trivial

end FileSystem
end Storage

namespace Fetch

theorem reading_le {total come : Nat} (h : come ≤ total) :
    reading (some total) come = ⟨come, total⟩ := by
  simp only [reading, Transfer.expected, Progress.mk.injEq, true_and]
  split <;> omega

/-- How many pieces of one size it takes, the last one counted where it is shorter. -/
theorem rounded_up_drop {size length : Nat} (hs : 0 < size) (hl : 0 < length) :
    (length + size - 1) / size = (length - size + size - 1) / size + 1 := by
  by_cases hfit : size ≤ length
  · rw [← Nat.add_div_right _ hs]
    congr 1
    omega
  · have hnone : (length - size + size - 1) / size = 0 := Nat.div_eq_of_lt (by omega)
    rw [hnone, Nat.zero_add]
    exact Nat.div_eq_of_lt_le (by omega) (by omega)

/-- Pieces of one size with their counters: of each, where it starts and how far it goes. -/
theorem counted_pieces {size : Nat} (hs : 0 < size) (content : Bytes) (come : Nat) :
    counted (reading (some (come + content.length)) come) (content.pieces size) =
      (List.range ((content.length + size - 1) / size)).map fun k =>
        .chunk ((content.drop (k * size)).take size)
          ⟨come + min ((k + 1) * size) content.length, come + content.length⟩ := by
  induction content using Bytes.pieces.induct size generalizing come with
  | case1 content hd =>
    obtain rfl := hd.resolve_left (by omega)
    have hnone : (0 + size - 1) / size = 0 := Nat.div_eq_of_lt (by omega)
    rw [Bytes.pieces, dif_pos hd, List.length_nil, hnone]
    rfl
  | case2 content hd ih =>
    obtain ⟨-, hne⟩ := not_or.mp hd
    have hlen : 0 < content.length := List.length_pos_iff.mpr hne
    have hall : come + content.length =
        come + min size content.length + (content.drop size).length := by
      rw [List.length_drop]
      omega
    rw [Bytes.pieces, dif_neg hd, counted, reading_add, List.length_take, rounded_up_drop hs hlen,
      List.range_succ_eq_map, List.map_cons, List.map_map]
    congr 1
    · rw [reading_le (by omega), Nat.zero_mul, Nat.zero_add, Nat.one_mul, List.drop_zero]
    · rw [hall, ih, List.length_drop]
      refine List.map_congr_left fun k _ => ?_
      have hstart : (k + 1) * size = size + k * size := by rw [Nat.succ_mul, Nat.add_comm]
      have hend : (k + 1 + 1) * size = size + (size + k * size) := by
        rw [Nat.succ_mul, hstart, Nat.add_comm]
      have hfar : come + min size content.length + min (size + k * size) (content.length - size) =
          come + min (size + (size + k * size)) content.length := by omega
      rw [Function.comp_apply, Nat.succ_eq_add_one, hend, hstart, ← List.drop_drop, hfar]

theorem length_flatten_take_le (sent : List Bytes) (k : Nat) :
    (sent.take k).flatten.length ≤ sent.flatten.length := by
  have hsplit : (sent.take k).flatten ++ (sent.drop k).flatten = sent.flatten := by
    rw [← List.flatten_append, List.take_append_drop]
  rw [← hsplit, List.length_append]
  exact Nat.le_add_right _ _

def fileResponse (read : Nat → Bytes → List Bytes) (location : String) (size : Nat)
    (source : Storage.Source) : Response :=
  { status := 0
    headers := Transport.fileHeaders source.length
    contentLength := source.length
    body := some (Transport.fileBody read location size source) }

/-- The events of a file that is followed piece by piece, whatever the pieces are. -/
structure Delivered (location : String) (length : Option Nat) (content : Bytes)
    (events : List Event) : Prop where
  shape : ∃ data, events =
      .opened :: .status location 0 (Transport.fileHeaders length) :: (data ++ [.complete]) ∧
    ∀ event ∈ data, event.data?.isSome = true
  joined : (pieces events).flatten = content

section

variable {location : String} {answer : Answer} {length : Option Nat} {content : Bytes}
  {source : Storage.Source} {cause : Storage.Failure} {read : Nat → Bytes → List Bytes} {size : Nat}

theorem verdict_fileResponse : verdict location (.response (fileResponse read location size source)) =
    source.failure.elim (.payload (read size source.content).flatten)
      fun cause => .failure (.fileRead location cause) :=
  Transport.bodyOutcome_fileBody size

theorem arrivals_fileResponse : arrivals (.response (fileResponse read location size source)) =
    (read size source.content).filter (!·.isEmpty) :=
  Transport.arrived_fileBody size

/-- In front of its last word a file has all its pieces told, with their counters. -/
theorem promised_fileResponse
    (hr : answer.reply = .response (fileResponse read location size source)) :
    promised location .progressive answer =
      .opened :: .status location 0 (Transport.fileHeaders source.length) ::
        (counted (reading source.length 0) ((read size source.content).filter (!·.isEmpty)) ++
          (verdict location answer.reply).lastWord location) := by
  rw [promised_eq, chunks_progressive, hr, arrivals_fileResponse]
  rfl

theorem flatten_pieces_fileResponse
    (hr : answer.reply = .response (fileResponse read location size source))
    (hflat : (read size source.content).flatten = source.content) :
    (pieces (promised location .progressive answer)).flatten = source.content := by
  rw [pieces_promised, hr]
  refine (congrArg List.flatten arrivals_fileResponse).trans ?_
  rw [List.flatten_filter_not_isEmpty, hflat]

theorem verdict_of_readable
    (hr : answer.reply = .response (fileResponse read location size { length, content }))
    (hflat : (read size content).flatten = content) :
    verdict location answer.reply = .payload content := by
  rw [hr, verdict_fileResponse]
  exact congrArg Outcome.payload hflat

theorem verdict_of_unreadable
    (hr : answer.reply = .response (fileResponse read location size source))
    (hf : source.failure = some cause) :
    verdict location answer.reply = .failure (.fileRead location cause) := by
  rw [hr, verdict_fileResponse, hf]
  rfl

/-- A file that is read to its end is delivered. -/
theorem delivered_promised
    (hr : answer.reply = .response (fileResponse read location size { length, content }))
    (hflat : (read size content).flatten = content) :
    Delivered location length content (promised location .progressive answer) where
  shape := by
    have hall := promised_fileResponse hr
    rw [verdict_of_readable hr hflat] at hall
    refine ⟨_, hall, fun event hm => ?_⟩
    obtain ⟨data, q, rfl⟩ := mem_counted hm
    rfl
  joined := flatten_pieces_fileResponse hr hflat

/-- Under its own length the counters of a file never say that more is to come than there is. -/
theorem total_of_readable
    (hr : answer.reply =
      .response (fileResponse read location size { length := content.length, content }))
    (hflat : (read size content).flatten = content) :
    ∀ p ∈ readings (promised location .progressive answer), p.total = content.length := by
  intro p hp
  rw [readings_promised, hr, arrivals_fileResponse] at hp
  obtain ⟨k, hk⟩ := List.mem_iff_getElem?.mp hp
  rw [getElem?_tally, Nat.zero_add] at hk
  split at hk
  · have hcome := length_flatten_take_le ((read size content).filter (!·.isEmpty)) (k + 1)
    rw [List.flatten_filter_not_isEmpty, hflat] at hcome
    rw [← Option.some.inj hk]
    exact congrArg Progress.total (reading_le hcome)
  · cases hk

/-- From a reader who fills his buffer the pieces come in one size, but for a shorter last one. -/
theorem promised_filled (hs : 0 < size) (hfill : read size content = content.pieces size)
    (hr : answer.reply =
      .response (fileResponse read location size { length := content.length, content })) :
    promised location .progressive answer =
        .opened :: .status location 0 [("content-length", utf8 (toString content.length))] ::
          ((List.range ((content.length + size - 1) / size)).map (fun k =>
            .chunk ((content.drop (k * size)).take size)
              ⟨min ((k + 1) * size) content.length, content.length⟩) ++ [.complete]) ∧
      pieces (promised location .progressive answer) = content.pieces size := by
  have hflat : (read size content).flatten = content := by
    rw [hfill]
    exact Bytes.flatten_pieces (Nat.ne_of_gt hs) content
  have hall : (content.pieces size).filter (!·.isEmpty) = content.pieces size := by
    refine List.filter_eq_self.mpr fun data hm => ?_
    simpa using Bytes.ne_nil_of_mem_pieces hm
  have hcounted := counted_pieces hs content 0
  simp only [Nat.zero_add] at hcounted
  refine ⟨?_, ?_⟩
  · rw [promised_fileResponse hr, verdict_of_readable hr hflat, hfill, hall, hcounted]
    rfl
  · rw [pieces_promised, hr]
    refine (arrivals_fileResponse).trans ?_
    rw [hfill]
    exact hall

theorem promised_buffered_of_readable
    (hr : answer.reply = .response (fileResponse read location size { length, content }))
    (hflat : (read size content).flatten = content) :
    promised location .buffered answer =
      [.opened, .status location 0 (Transport.fileHeaders length),
        .chunk content ⟨0, content.length⟩, .complete] := by
  obtain ⟨r, hr', hevents⟩ := promised_buffered_iff.mp (verdict_of_readable hr hflat)
  obtain rfl := Reply.response.inj (hr.symm.trans hr')
  exact hevents

/-- In one piece a file that breaks off is not handed out at all. -/
theorem promised_buffered_of_unreadable
    (hr : answer.reply = .response (fileResponse read location size source))
    (hf : source.failure = some cause) :
    promised location .buffered answer =
      [.opened, .status location 0 (Transport.fileHeaders source.length),
        .error (.fileRead location cause)] := by
  have hv := verdict_of_unreadable hr hf
  have hnone : chunks .buffered answer.reply = [] := by
    have ho : bodyOutcome (Transport.fileBody read location size source) =
        .failure (.fileRead location cause) := by
      rw [hr] at hv
      exact hv
    rw [hr]
    show (bodyOutcome (Transport.fileBody read location size source)).single = []
    rw [ho]
    rfl
  rw [promised_eq, hnone, hv, hr]
  rfl

end

section

variable {settings : Config} {l : Loader} {n : Nat}

/-- A reply that does not stall gives a whole retrieval its outcome, and a stream all its events. -/
theorem retrieved_of_verdict (hl : l.MadeFrom settings) {outcome : Outcome}
    (hv : verdict l.request.location (l.answer n).reply = outcome) (ho : outcome ≠ .stalled) :
    (l.whole n).outcome = outcome ∧
      ∀ s, l.stream? n = some s → s.drain.2.1 = true ∧
        s.drain.1 = promised l.request.location l.delivery (l.answer n) := by
  refine ⟨(outcome_loader l n).trans hv, fun s hs => ?_⟩
  obtain ⟨hevents, hends⟩ := drain_stream hl hs
  exact ⟨hends.mpr (hv ▸ ho), hevents⟩

/-- A response that fails before any data comes. -/
theorem retrieved_of_failure (hl : l.MadeFrom settings) {r : Response} {cause : LoadError}
    (hr : (l.answer n).reply = .response r)
    (hv : verdict l.request.location (.response r) = .failure cause)
    (hc : ∀ mode, chunks mode (.response r) = []) :
    (l.whole n).outcome = .failure cause ∧
      ∀ s, l.stream? n = some s → s.drain.2.1 = true ∧
        s.drain.1 = [.opened, .status l.request.location r.status r.headers, .error cause] := by
  have hfails : verdict l.request.location (l.answer n).reply = .failure cause := hr ▸ hv
  obtain ⟨hwhole, hends⟩ := retrieved_of_verdict hl hfails nofun
  refine ⟨hwhole, fun s hs => ⟨(hends s hs).1, ?_⟩⟩
  rw [(hends s hs).2, promised_eq, hr, hv, hc]
  rfl

theorem retrieved_of_crash (hl : l.MadeFrom settings) (hr : (l.answer n).reply = .crash) :
    (l.whole n).outcome = .crashed ∧
      ∀ s, l.stream? n = some s → s.drain.2.1 = true ∧
        s.drain.1 = [.opened, .error (.taskAborted l.request.location)] := by
  have hv : verdict l.request.location (l.answer n).reply = .crashed := by rw [hr]; rfl
  obtain ⟨hwhole, hends⟩ := retrieved_of_verdict hl hv nofun
  refine ⟨hwhole, fun s hs => ⟨(hends s hs).1, ?_⟩⟩
  rw [(hends s hs).2, promised_eq, hr]
  rfl

end

end Fetch

namespace Loader

variable {request : Request} {config : Config} {around : Surroundings} {l : Loader} {path : Bytes}
  {files : Storage.FileSystem} {read : Nat → Bytes → List Bytes}

/-- A loader for a local path reads files. -/
theorem transport_of_create (h : create request config around = .ok l)
    (hp : l.target = .file path) : l.transport = .file config around.files := by
  obtain ⟨-, -, -, ⟨_, -, ht⟩ | ⟨url, hu, -⟩⟩ := create_cases h
  · exact ht
  · rw [hp] at hu
    cases hu

theorem answer_file (ht : l.transport = .file config files read) (hp : l.target = .file path)
    (n : Nat) :
    l.answer n = Transport.openFile config files l.request.location path read := by
  simp only [answer, ht, hp]
  rfl

theorem delivery_file (ht : l.transport = .file config files read) :
    l.delivery = .ofSupport config.progressive := by
  rw [delivery, ht]
  rfl

end Loader

namespace Fetch

/-- A local file is delivered whole, and with its length announced if that is known; piece by piece,
and in pieces of the size that is set where that is eight or more and the reader fills his buffer. A
path that cannot be opened fails with the text of the failure, and one that cannot be read to its end
fails in reading, behind all that could be read. The one condition is that a buffer of that size can
be asked for: the transport of an open file breaks down otherwise. -/
theorem local_files_whole_and_in_pieces {settings config : Config} {files : Storage.FileSystem}
    {read : Nat → Bytes → List Bytes} {l : Loader} {path : Bytes} (hl : l.MadeFrom settings)
    (ht : l.transport = .file config files read) (hp : l.target = .file path)
    (hread : ∀ size content, 0 < size → (read size content).flatten = content) (n : Nat) :
    let location := l.request.location
    let size := max config.fileChunkSize.toNat 1
    ((l.stream? n).isSome = true ↔ settings.eventBuffer.toNat ≤ Loader.maxChannelCapacity) ∧
    (∀ length content, files.openSource path = .ok { length, content } →
      size ≤ Transport.maxBuffer →
      (l.whole n).outcome = .payload content ∧
      ∀ s, l.stream? n = some s → s.drain.2.1 = true ∧
        (config.progressive = true → Delivered location length content s.drain.1 ∧
          (length = some content.length →
            (∀ p ∈ readings s.drain.1, p.total = content.length) ∧
            (8 ≤ size → read size content = content.pieces size →
              s.drain.1 = .opened ::
                .status location 0 [("content-length", utf8 (toString content.length))] ::
                ((List.range ((content.length + size - 1) / size)).map (fun k =>
                  .chunk ((content.drop (k * size)).take size)
                    ⟨min ((k + 1) * size) content.length, content.length⟩) ++ [.complete]) ∧
              ∀ data ∈ (pieces s.drain.1).dropLast, data.length = size))) ∧
        (config.progressive = false → s.drain.1 =
          [.opened, .status location 0 (Transport.fileHeaders length),
            .chunk content ⟨0, content.length⟩, .complete])) ∧
    (∀ cause, files.openSource path = .error cause →
      (l.whole n).outcome = .failure (.nullPayload location cause.message) ∧
      (LoadError.nullPayload location cause.message).reason = cause.message ∧
      ∀ s, l.stream? n = some s → s.drain.2.1 = true ∧
        s.drain.1 =
          [.opened, .status location 0 [], .error (.nullPayload location cause.message)]) ∧
    (∀ source cause, files.openSource path = .ok source → source.failure = some cause →
      size ≤ Transport.maxBuffer →
      (l.whole n).outcome = .failure (.fileRead location cause) ∧
      ∀ s, l.stream? n = some s → s.drain.2.1 = true ∧
        (config.progressive = true →
          s.drain.1 = .opened :: .status location 0 (Transport.fileHeaders source.length) ::
            (counted (reading source.length 0) ((read size source.content).filter (!·.isEmpty)) ++
              [.error (.fileRead location cause)]) ∧
          (pieces s.drain.1).flatten = source.content) ∧
        (config.progressive = false → s.drain.1 =
          [.opened, .status location 0 (Transport.fileHeaders source.length),
            .error (.fileRead location cause)])) ∧
    ∀ source, files.openSource path = .ok source → Transport.maxBuffer < size →
      (l.whole n).outcome = .crashed ∧
      ∀ s, l.stream? n = some s → s.drain.2.1 = true ∧
        s.drain.1 = [.opened, .error (.taskAborted location)] := by
  intro location size
  have hanswer : l.answer n = Transport.openFile config files location path read :=
    Loader.answer_file ht hp n
  have hsize : 0 < size := Nat.lt_of_lt_of_le Nat.one_pos (Nat.le_max_right _ _)
  have hopened (source : Storage.Source) (ho : files.openSource path = .ok source)
      (hfits : size ≤ Transport.maxBuffer) :
      (l.answer n).reply = .response (fileResponse read location size source) := by
    rw [hanswer, Transport.reply_openFile ho hfits]
    rfl
  refine ⟨Loader.stream?_isSome hl n, fun length content ho hfits => ?_, fun cause ho => ?_,
    fun source cause ho hf hfits => ?_, fun source ho hlarge => ?_⟩
  · -- The file is read to its end, in pieces of any cutting.
    have hr := hopened _ ho hfits
    have hflat := hread size content hsize
    obtain ⟨hwhole, hends⟩ := retrieved_of_verdict hl (verdict_of_readable hr hflat) nofun
    rw [Loader.delivery_file ht] at hends
    refine ⟨hwhole, fun s hs => ⟨(hends s hs).1, fun hmode => ?_, fun hmode => ?_⟩⟩
    · have hevents : s.drain.1 = promised location .progressive (l.answer n) := by
        rw [(hends s hs).2, hmode]
        rfl
      rw [hevents]
      refine ⟨delivered_promised hr hflat, ?_⟩
      -- From here on the length that is reported is that of the content.
      rintro rfl
      refine ⟨total_of_readable hr hflat, fun _ hfill => ?_⟩
      obtain ⟨hexact, hpieces⟩ := promised_filled hsize hfill hr
      rw [hpieces]
      exact ⟨hexact, Bytes.length_of_mem_dropLast_pieces size content⟩
    · rw [(hends s hs).2, hmode]
      exact promised_buffered_of_readable hr hflat
  · -- The file cannot be opened, and the cause is all that the response says.
    have hr : (l.answer n).reply =
        .response { status := 0, statusText := cause.message, body := none } := by
      rw [hanswer, Transport.reply_openFile_of_error ho]
    obtain ⟨hwhole, hends⟩ := retrieved_of_failure hl hr rfl fun mode => by cases mode <;> rfl
    have htext := Storage.Failure.message_ne_empty (Storage.FileSystem.worded_of_openSource ho)
    exact ⟨hwhole, if_neg htext, hends⟩
  · -- The file opens, but the pieces break off at a failure.
    have hr := hopened source ho hfits
    have hv := verdict_of_unreadable hr hf
    obtain ⟨hwhole, hends⟩ := retrieved_of_verdict hl hv nofun
    rw [Loader.delivery_file ht] at hends
    refine ⟨hwhole, fun s hs => ⟨(hends s hs).1, fun hmode => ?_, fun hmode => ?_⟩⟩
    · have hevents : s.drain.1 = promised location .progressive (l.answer n) := by
        rw [(hends s hs).2, hmode]
        rfl
      rw [hevents]
      refine ⟨?_, flatten_pieces_fileResponse hr (hread size source.content hsize)⟩
      rw [promised_fileResponse hr, hv]
      rfl
    · rw [(hends s hs).2, hmode]
      exact promised_buffered_of_unreadable hr hf
  · -- The buffer for the pieces cannot be had, and the task is lost with it.
    refine retrieved_of_crash hl ?_
    rw [hanswer, Transport.reply_openFile_of_large ho hlarge]

/-- A file of two full pieces and a short one, one that is not there, and one that cannot be read
behind its first bytes. -/
theorem local_files_whole_and_in_pieces_three :
    let content : Bytes := [1, 2, 3, 4, 5, 6, 7, 8, 9, 10, 11, 12, 13, 14, 15, 16, 17]
    let broken : Storage.Source :=
      { length := some 40, content := [1, 2], failure := some .inputOutput }
    let files : Storage.FileSystem :=
      { entries := [([utf8 "data.bin"], .file content), ([utf8 "broken.bin"], .readOnly broken)] }
    let config : Config := { fileChunkSize := 8 }
    ∃ l m k, Loader.create { location := "data.bin" } config { files } = .ok l ∧
      Loader.create { location := "other.bin" } config { files } = .ok m ∧
      Loader.create { location := "broken.bin" } config { files } = .ok k ∧
      l.MadeFrom config ∧ l.transport = .file config files ∧ l.target = .file (utf8 "data.bin") ∧
      (∀ size content, 0 < size → (Bytes.pieces size content).flatten = content) ∧
      (l.whole 0).outcome = .payload content ∧
      (∃ s, l.stream? 0 = some s ∧ s.drain.1 =
        [.opened, .status "data.bin" 0 [("content-length", utf8 "17")],
          .chunk [1, 2, 3, 4, 5, 6, 7, 8] ⟨8, 17⟩, .chunk [9, 10, 11, 12, 13, 14, 15, 16] ⟨16, 17⟩,
          .chunk [17] ⟨17, 17⟩, .complete]) ∧
      (∃ s, m.stream? 0 = some s ∧ s.drain.1 =
        [.opened, .status "other.bin" 0 [],
          .error (.nullPayload "other.bin" "No such file or directory (os error 2)")]) ∧
      ∃ s, k.stream? 0 = some s ∧ s.drain.2.1 = true ∧ (pieces s.drain.1).flatten = [1, 2] ∧
        (k.whole 0).outcome = .failure (.fileRead "broken.bin" .inputOutput) := by
  intro content broken files config
  have hopen : files.openSource (utf8 "data.bin") = .ok { length := some 17, content } := by
    have hd : files.Descends [] (utf8 "data.bin") := ⟨rfl, by decide, by decide, by decide⟩
    exact hd.openSource_file (by decide) (by decide) (by decide) rfl
  have hgone : files.openSource (utf8 "other.bin") = .error .noEntry := by
    have hd : files.Descends [] (utf8 "other.bin") := ⟨rfl, by decide, by decide, by decide⟩
    exact hd.openSource_free (by decide) (by decide) (by decide) rfl
  have hbroken : files.openSource (utf8 "broken.bin") = .ok broken := by
    have hd : files.Descends [] (utf8 "broken.bin") := ⟨rfl, by decide, by decide, by decide⟩
    have hl : files.locate (utf8 "broken.bin") =
        .ok (.found [utf8 "broken.bin"] (.readOnly broken)) :=
      hd.locate (by decide) (by decide) (by decide) rfl nofun
    simp only [Storage.FileSystem.openSource, hl]
  let loader (name : String) : Loader :=
    ⟨{ location := name }, .file (utf8 name), .file config files, 32⟩
  have hcreate : Loader.create { location := "data.bin" } config { files } =
      .ok (loader "data.bin") := by rfl
  have hother : Loader.create { location := "other.bin" } config { files } =
      .ok (loader "other.bin") := by rfl
  have hthird : Loader.create { location := "broken.bin" } config { files } =
      .ok (loader "broken.bin") := by rfl
  have hl : (loader "data.bin").MadeFrom config := .chosen hcreate
  have hread (size : Nat) (content : Bytes) (hs : 0 < size) :
      (Bytes.pieces size content).flatten = content := Bytes.flatten_pieces (by omega) content
  have ht : (loader "data.bin").transport = .file config files :=
    Loader.transport_of_create hcreate rfl
  obtain ⟨-, hfile, -⟩ := local_files_whole_and_in_pieces hl ht rfl hread 0
  obtain ⟨hwhole, hevents⟩ := hfile _ content hopen (by decide)
  obtain ⟨-, hprogressive, -⟩ := hevents _ rfl
  obtain ⟨hexact, -⟩ := ((hprogressive rfl).2 rfl).2 (by decide) rfl
  have hsize : max config.fileChunkSize.toNat 1 = 8 := by decide
  have hcount : (content.length + 8 - 1) / 8 = 3 := by decide
  have hlength : content.length = 17 := rfl
  have hshown : toString 17 = "17" := by decide
  rw [hsize, hcount, hlength, hshown] at hexact
  obtain ⟨-, -, hmissing, -⟩ := local_files_whole_and_in_pieces (.chosen hother)
    (Loader.transport_of_create hother rfl) rfl hread 0
  obtain ⟨-, -, hfails⟩ := hmissing .noEntry hgone
  obtain ⟨-, -, -, hbreaks, -⟩ := local_files_whole_and_in_pieces (.chosen hthird)
    (Loader.transport_of_create hthird rfl) rfl hread 0
  obtain ⟨hlost, hpart⟩ := hbreaks broken .inputOutput hbroken rfl (by decide)
  obtain ⟨hended, hpieces, -⟩ := hpart _ rfl
  exact ⟨_, _, _, hcreate, hother, hthird, hl, ht, rfl, hread, hwhole, ⟨_, rfl, hexact⟩,
    ⟨_, rfl, (hfails _ rfl).2⟩, _, rfl, hended, (hpieces rfl).2, hlost⟩

/-- A size that nobody would choose, and the smallest that cannot be asked for. -/
theorem large_pieces_break_down :
    let files : Storage.FileSystem := { entries := [([utf8 "data.bin"], .file [97, 98, 99])] }
    ∃ l, Loader.create { location := "data.bin" } { fileChunkSize := 0x8000000000000000 }
        { files } = .ok l ∧
      l.target = .file (utf8 "data.bin") ∧
      files.openSource (utf8 "data.bin") = .ok (.bytes [97, 98, 99]) ∧
      (l.whole 0).outcome ≠ .payload [97, 98, 99] ∧
      ∃ s, l.stream? 0 = some s ∧ s.drain.1 = [.opened, .error (.taskAborted "data.bin")] := by
  intro files
  let config : Config := { fileChunkSize := 0x8000000000000000 }
  let l : Loader := ⟨{ location := "data.bin" }, .file (utf8 "data.bin"), .file config files, 32⟩
  have hcreate : Loader.create { location := "data.bin" } config { files } = .ok l := by rfl
  have hopen : files.openSource (utf8 "data.bin") = .ok (.bytes [97, 98, 99]) := by
    have hd : files.Descends [] (utf8 "data.bin") := ⟨rfl, by decide, by decide, by decide⟩
    exact hd.openSource_file (by decide) (by decide) (by decide) rfl
  have hr : (l.answer 0).reply = .crash := by
    rw [Loader.answer_file rfl rfl 0]
    exact Transport.reply_openFile_of_large hopen (by decide)
  obtain ⟨hwhole, hends⟩ := retrieved_of_crash (.chosen hcreate) hr
  exact ⟨l, hcreate, rfl, hopen, by simp [hwhole], _, rfl, (hends _ rfl).2⟩

end Fetch
end Retrieval
