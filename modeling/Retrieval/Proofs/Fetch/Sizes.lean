import Retrieval.Proofs.Fetch.Fitting
import Retrieval.Proofs.Fetch.LocalFile

/-! The sizes that are set, and what becomes of retrievals under them. Both are kept from zero, and
neither is kept within its limit: a channel that would be too large is not made, and a transfer
breaks down over an open file that it cannot have a buffer for. -/
namespace Retrieval

/-- There is a file to be read, and the buffer for it is larger than any that can be asked for. -/
def Oversized (config : Config) (files : Storage.FileSystem) (target : Target) : Prop :=
  Transport.maxBuffer < config.fileChunkSize.toNat ∧
    ∃ path source, target = .file path ∧ files.openSource path = .ok source

namespace Loader

/-- A retrieval that is lost with its transport, whole and in a stream. -/
structure BreaksDown (l : Loader) (n : Nat) : Prop where
  whole : (l.whole n).outcome = .crashed
  stream : ∀ s, l.stream? n = some s → s.drain.2.1 = true ∧
    s.drain.1 = [.opened, .error (.taskAborted l.request.location)]

/-- A retrieval that comes to a payload or to a failure, whole and in a stream, and never to the
loss of its task. -/
structure Survives (l : Loader) (n : Nat) : Prop where
  whole : (∃ data, (l.whole n).outcome = .payload data) ∨
    ∃ cause, (l.whole n).outcome = .failure cause
  ends : ∀ s, l.stream? n = some s → s.drain.2.1 = true
  unbroken : ∀ s, l.stream? n = some s → ∀ moves location,
    .error (.taskAborted location) ∉ ((Fetch.Watched.mk s []).run moves).received

variable {l : Loader} {n : Nat}

theorem Survives.not_breaksDown (h : l.Survives n) : ¬l.BreaksDown n := by
  intro hb
  have hcrashed := hb.whole
  rcases h.whole with ⟨data, ho⟩ | ⟨cause, ho⟩ <;> rw [ho] at hcrashed <;> cases hcrashed

/-- Where one of the two is bound to happen, the condition for it is exact. -/
theorem breaksDown_iff {lost : Prop} (hb : lost → l.BreaksDown n) (hs : ¬lost → l.Survives n) :
    (l.BreaksDown n ↔ lost) ∧ (l.Survives n ↔ ¬lost) := by
  refine ⟨⟨fun h => ?_, hb⟩, fun h hl => h.not_breaksDown (hb hl), hs⟩
  exact Classical.byContradiction fun hl => (hs hl).not_breaksDown h

end Loader

namespace Transport

variable {config : Config}

theorem chunkSize_le_iff :
    chunkSize config ≤ maxBuffer ↔ config.fileChunkSize.toNat ≤ maxBuffer := by
  have hone : 1 ≤ maxBuffer := by decide
  rw [chunkSize, Nat.max_le, and_iff_left hone]

/-- A reader is asked for pieces of sizes within the limits only. -/
theorem file_congr (files : Storage.FileSystem) {read other : Nat → Bytes → List Bytes}
    (h : ∀ size content, 1 ≤ size → size ≤ maxBuffer → read size content = other size content) :
    file config files read = file config files other := by
  have hopen (location : String) (path : Bytes) :
      openFile config files location path read = openFile config files location path other := by
    unfold openFile
    split
    · rfl
    · rename_i source hsource
      -- Over a buffer that is too large the transport is lost before the reader is asked.
      by_cases hlarge : chunkSize config > maxBuffer
      · rw [if_pos hlarge, if_pos hlarge]
      · have hbody : fileBody read location (chunkSize config) source =
            fileBody other location (chunkSize config) source := by
          rw [fileBody, fileBody,
            h (chunkSize config) source.content (Nat.le_max_right _ _) (Nat.not_lt.mp hlarge)]
        rw [if_neg hlarge, if_neg hlarge, hbody]
  simp only [file, hopen]

end Transport

namespace Fetch

variable {settings config : Config} {l : Loader} {n : Nat}

/-- Nothing that a transport of the library fails with speaks of a task. -/
theorem verdict_ne_taskAborted
    (hk : Fits l.transport l.target ∨ ∃ kind, Misfits l.transport l.target kind)
    (place location : String) :
    verdict place (l.answer n).reply ≠ .failure (.taskAborted location) := by
  intro hv
  rcases hk with hfit | ⟨kind, hmisfit⟩
  · rcases cause_fits hfit hv with ⟨_, _, hc⟩ | ⟨_, hc⟩ | ⟨_, hc⟩ | ⟨_, hc⟩ <;> cases hc
  · rw [Loader.answer, Transport.send_misfits hmisfit] at hv
    cases hv

/-- A retrieval with an orderly reply does not break down. -/
theorem survives_of_orderly (hl : l.MadeFrom settings)
    (hk : Fits l.transport l.target ∨ ∃ kind, Misfits l.transport l.target kind)
    (ho : (l.answer n).reply.orderly = true) : l.Survives n := by
  have hwhole : (l.whole n).outcome = verdict l.request.location (l.answer n).reply :=
    outcome_loader l n
  have hreturns := verdict_of_orderly ho l.request.location
  have hcrash : verdict l.request.location (l.answer n).reply ≠ .crashed := by
    rcases hreturns with ⟨data, h⟩ | ⟨cause, h⟩ <;> rw [h] <;> nofun
  have hstall : verdict l.request.location (l.answer n).reply ≠ .stalled := by
    rcases hreturns with ⟨data, h⟩ | ⟨cause, h⟩ <;> rw [h] <;> nofun
  refine ⟨?_, fun s hs => (drain_stream hl hs).2.mpr hstall, fun s hs moves location hm => ?_⟩
  · rw [hwhole]
    exact hreturns
  · -- The loss of a task is told by a transport that says so, or by one that breaks down.
    rcases error_mem_promised (mem_promised_of_received hl hs hm) with hv | ⟨hv, -⟩
    · exact verdict_ne_taskAborted hk _ _ hv
    · exact hcrash hv

/-- Nothing that is set breaks a retrieval over the web. -/
theorem survives_http (hl : l.MadeFrom settings) {network : Http.Network}
    (ht : Transport.http config network = .ok l.transport) : l.Survives n := by
  have hanswer := Transport.send_http ht n l.request l.target
  cases htarget : l.target with
  | http url =>
    have hfit : Fits l.transport l.target := by
      rw [htarget]
      exact .web config network ht url
    refine survives_of_orderly hl (Or.inl hfit) ?_
    rw [Loader.answer, hanswer, htarget]
    exact Transport.orderly_exchange network l.request url
  | file path =>
    have hmisfit : Misfits l.transport l.target "file" := by
      rw [htarget]
      exact .path config network ht path
    refine survives_of_orderly hl (Or.inr ⟨_, hmisfit⟩) ?_
    rw [Loader.answer, hanswer, htarget]
    rfl

/-- A transport for files is lost over an open file if its buffer is too large, and never else. -/
theorem breaksDown_iff_of_file (hl : l.MadeFrom settings) {files : Storage.FileSystem}
    {read : Nat → Bytes → List Bytes} (ht : l.transport = .file config files read) :
    (l.BreaksDown n ↔ Oversized config files l.target) ∧
      (l.Survives n ↔ ¬Oversized config files l.target) := by
  refine Loader.breaksDown_iff (fun h => ?_) fun h => ?_
  · -- The buffer is asked for once the file is open.
    obtain ⟨hlarge, path, source, hp, hopen⟩ := h
    have hsize : Transport.maxBuffer < Transport.chunkSize config :=
      Nat.lt_of_lt_of_le hlarge (Nat.le_max_left _ _)
    have hcrash : (l.answer n).reply = .crash := by
      rw [Loader.answer_file ht hp]
      exact Transport.reply_openFile_of_large hopen hsize
    obtain ⟨hwhole, hstream⟩ := retrieved_of_crash hl hcrash
    exact ⟨hwhole, hstream⟩
  · cases htarget : l.target with
    | http url =>
      have hmisfit : Misfits l.transport l.target "http" := by
        rw [htarget, ht]
        exact .web config files read url
      refine survives_of_orderly hl (Or.inr ⟨_, hmisfit⟩) ?_
      rw [Loader.answer, Transport.send_misfits hmisfit]
      rfl
    | file path =>
      have hfit : Fits l.transport l.target := by
        rw [htarget, ht]
        exact .path config files read path
      refine survives_of_orderly hl (Or.inl hfit) ?_
      rw [Loader.answer_file ht htarget]
      -- A buffer that is not too large is had, and then the response is orderly.
      refine Transport.orderly_openFile fun source hopen => ?_
      refine Transport.chunkSize_le_iff.mpr (Nat.not_lt.mp fun hlarge => ?_)
      exact h ⟨hlarge, path, source, htarget, hopen⟩

/-- A loader that chooses its transport has one that is lost over an open file only. -/
theorem breaksDown_iff_of_create {request : Request} {around : Surroundings}
    (h : Loader.create request config around = .ok l) (n : Nat) :
    (l.BreaksDown n ↔ Oversized config around.files l.target) ∧
      (l.Survives n ↔ ¬Oversized config around.files l.target) := by
  obtain ⟨-, -, -, ⟨path, hp, ht⟩ | ⟨url, hu, ht⟩⟩ := Loader.create_cases h
  · exact breaksDown_iff_of_file (.chosen h) ht
  · refine Loader.breaksDown_iff (fun ho => ?_) fun _ => survives_http (.chosen h) ht
    obtain ⟨-, path, -, hp, -⟩ := ho
    rw [hu] at hp
    cases hp

/-- Zero does no harm, and a size does none up to its limit. Above it a stream is not made for the
one size; for the other a transfer breaks down, where there is a file to be read, and the payload is
lost with it. A retrieval over the web breaks down for neither, and one over any other transport for
nothing that is set: what it comes to is the same under all other settings. -/
theorem sizes_break_beyond_limits_only (config : Config) (hl : l.MadeFrom settings) (n : Nat) :
    (1 ≤ l.capacity ∧
      (l.capacity ≤ Loader.maxChannelCapacity ↔
        settings.eventBuffer.toNat ≤ Loader.maxChannelCapacity) ∧
      ((l.stream? n).isSome = true ↔ settings.eventBuffer.toNat ≤ Loader.maxChannelCapacity) ∧
      ∀ s, l.stream? n = some s → s.capacity = l.capacity) ∧
    (1 ≤ Transport.chunkSize config ∧
      (Transport.chunkSize config ≤ Transport.maxBuffer ↔
        config.fileChunkSize.toNat ≤ Transport.maxBuffer) ∧
      ∀ files read other, (∀ size content, 1 ≤ size → size ≤ Transport.maxBuffer →
        read size content = other size content) →
        Transport.file config files read = Transport.file config files other) ∧
    (∀ request around, Loader.create request settings around = .ok l →
      (l.BreaksDown n ↔ Oversized settings around.files l.target) ∧
      (l.Survives n ↔ ¬Oversized settings around.files l.target)) ∧
    (∀ files read, l.transport = .file config files read →
      (l.BreaksDown n ↔ Oversized config files l.target) ∧
      (l.Survives n ↔ ¬Oversized config files l.target)) ∧
    (∀ network, Transport.http config network = .ok l.transport → l.Survives n) ∧
    ∀ (others : Config) (m : Loader), m.MadeFrom others → m.request = l.request →
      m.target = l.target → m.transport = l.transport →
      m.whole n = l.whole n ∧
        ∀ s t, l.stream? n = some s → m.stream? n = some t → t.drain.1 = s.drain.1 := by
  have hcap := Loader.capacity_eq hl
  refine ⟨⟨?_, Loader.capacity_le_iff hl, Loader.stream?_isSome hl n, fun s hs => ?_⟩,
    ⟨Nat.le_max_right _ _, Transport.chunkSize_le_iff, fun files _ _ => Transport.file_congr files⟩,
    fun _ _ hcreate => breaksDown_iff_of_create hcreate n,
    fun _ _ ht => breaksDown_iff_of_file hl ht, fun _ ht => survives_http hl ht,
    fun others m hm hr htarget ht => ?_⟩
  · rw [hcap]
    exact Nat.le_max_right _ _
  · rw [hcap]
    exact (listening_stream hl hs).2
  · -- Neither size is read but through the transport and the channel.
    have hanswer : m.answer n = l.answer n := by simp only [Loader.answer, hr, htarget, ht]
    have hdelivery : m.delivery = l.delivery := by simp only [Loader.delivery, ht]
    refine ⟨by simp only [Loader.whole, hr, htarget, hanswer], fun s t hs hmade => ?_⟩
    rw [(drain_stream hl hs).1, (drain_stream hm hmade).1, hr, hanswer, hdelivery]

theorem openSource_sample (content : Bytes) :
    ({ entries := [([utf8 "data.bin"], .file content)] } : Storage.FileSystem).openSource
      (utf8 "data.bin") = .ok (.bytes content) := by
  have hd : ({ entries := [([utf8 "data.bin"], .file content)] } : Storage.FileSystem).Descends []
      (utf8 "data.bin") := ⟨rfl, by decide, by decide, by decide⟩
  exact hd.openSource_file (by decide) (by decide) (by decide) rfl

/-- The largest sizes that do no harm, and the smallest that do. -/
theorem sizes_break_beyond_limits_only_at_edge :
    let files : Storage.FileSystem := { entries := [([utf8 "data.bin"], .file [97, 98, 99])] }
    let within : Config :=
      { fileChunkSize := 0x7FFFFFFFFFFFFFFF, eventBuffer := 0x1FFFFFFFFFFFFFFF }
    let beyond : Config :=
      { fileChunkSize := 0x8000000000000000, eventBuffer := 0x2000000000000000 }
    ∃ l m, Loader.create { location := "data.bin" } within { files } = .ok l ∧
      Loader.create { location := "data.bin" } beyond { files } = .ok m ∧
      l.MadeFrom within ∧ (l.stream? 0).isSome = true ∧ l.Survives 0 ∧
      m.MadeFrom beyond ∧ (m.stream? 0).isSome = false ∧ m.BreaksDown 0 := by
  intro files within beyond
  let path := utf8 "data.bin"
  let l : Loader := ⟨{ location := "data.bin" }, .file path, .file within files, 0x1FFFFFFFFFFFFFFF⟩
  let m : Loader := ⟨{ location := "data.bin" }, .file path, .file beyond files, 0x2000000000000000⟩
  have hl : Loader.create { location := "data.bin" } within { files } = .ok l := by rfl
  have hm : Loader.create { location := "data.bin" } beyond { files } = .ok m := by rfl
  have hlarge : Oversized beyond files m.target :=
    ⟨by decide, path, _, rfl, openSource_sample [97, 98, 99]⟩
  have hsmall : ¬Oversized within files l.target := fun h => absurd h.1 (by decide)
  obtain ⟨⟨-, -, hroom, -⟩, -, hchosen, -⟩ :=
    sizes_break_beyond_limits_only within (.chosen hl) 0
  obtain ⟨⟨-, -, hnoroom, -⟩, -, hlost, -⟩ :=
    sizes_break_beyond_limits_only beyond (.chosen hm) 0
  have hunmade : (m.stream? 0).isSome = false :=
    Bool.eq_false_iff.mpr fun h => absurd (hnoroom.mp h) (by decide)
  exact ⟨l, m, hl, hm, .chosen hl, hroom.mpr (by decide), (hchosen _ _ hl).2.mpr hsmall,
    .chosen hm, hunmade, (hlost _ _ hm).1.mpr hlarge⟩

/-- Sizes that can be set, and that leave a file unread and a stream unmade. -/
theorem largest_sizes_break :
    let files : Storage.FileSystem := { entries := [([utf8 "data.bin"], .file [97, 98, 99])] }
    let pieces : Config := { fileChunkSize := 0xFFFFFFFFFFFFFFFF }
    let room : Config := { eventBuffer := 0xFFFFFFFFFFFFFFFF }
    (∃ l, Loader.create { location := "data.bin" } pieces { files } = .ok l ∧
      Transport.maxBuffer < Transport.chunkSize pieces ∧ (l.whole 0).outcome = .crashed ∧
      ∃ s, l.stream? 0 = some s ∧ s.drain.1 = [.opened, .error (.taskAborted "data.bin")]) ∧
    ∃ l, Loader.create { location := "data.bin" } room { files } = .ok l ∧
      Loader.maxChannelCapacity < l.capacity ∧ l.stream? 0 = none := by
  intro files pieces room
  let path := utf8 "data.bin"
  let l : Loader := ⟨{ location := "data.bin" }, .file path, .file pieces files, 32⟩
  let m : Loader := ⟨{ location := "data.bin" }, .file path, .file room files, 0xFFFFFFFFFFFFFFFF⟩
  have hl : Loader.create { location := "data.bin" } pieces { files } = .ok l := by rfl
  have hm : Loader.create { location := "data.bin" } room { files } = .ok m := by rfl
  have hlarge : Oversized pieces files l.target :=
    ⟨by decide, path, _, rfl, openSource_sample [97, 98, 99]⟩
  have hlost := (breaksDown_iff_of_create hl 0).1.mpr hlarge
  refine ⟨⟨l, hl, by decide, hlost.whole, _, rfl, (hlost.stream _ rfl).2⟩, m, hm, by decide, ?_⟩
  have hnone : ¬(m.stream? 0).isSome = true := fun h =>
    absurd (Loader.isSome_stream?.mp h) (by decide)
  exact Option.not_isSome_iff_eq_none.mp hnone

end Fetch
end Retrieval
