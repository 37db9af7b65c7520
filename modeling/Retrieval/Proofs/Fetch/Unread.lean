import Retrieval.Proofs.Fetch.Diagnostics
import Retrieval.Proofs.Fetch.Progress

/-! What is not read of a response. The body of a response that is refused is left alone, and behind
the item that ends a body nothing is looked at. A response without all that comes to the same, step
by step, so that it has no part in a retrieval. -/
namespace Retrieval

namespace Fetch

def upToEnd (items : List BodyItem) : List BodyItem := through (·.outcome?.isSome) items

end Fetch

/-- The response with no more of its body than is read. -/
def Response.asRead (r : Response) : Response :=
  { r with body := if r.isSuccess then r.body.map Fetch.upToEnd else none }

def Reply.asRead : Reply → Reply
  | response r => response r.asRead
  | refusal cause => refusal cause
  | crash => crash

namespace Fetch

variable {location : String} {request : Request} {target : Target} {mode : Delivery}

theorem upToEnd_append {item : BodyItem} (h : item.outcome?.isSome = true)
    (front rest : List BodyItem) : upToEnd (front ++ item :: rest) = upToEnd (front ++ [item]) :=
  through_append (fun i : BodyItem => i.outcome?.isSome) h front rest

/-- Behind the end of a body nothing is read. -/
theorem readWhole_upToEnd (t : Transfer) (items : List BodyItem) :
    readWhole t (upToEnd items) = readWhole t items := by
  induction items generalizing t with
  | nil => rfl
  | cons item rest ih =>
    cases item with
    | chunk data =>
      have hkeep : upToEnd (.chunk data :: rest) = .chunk data :: upToEnd rest := rfl
      simp only [hkeep, readWhole, ih]
    | wait turns => exact ih t
    | failure cause => rfl
    | crash => rfl
    | stall => rfl

theorem eachPiece_upToEnd (t : Transfer) (items : List BodyItem) :
    eachPiece location t (upToEnd items) = eachPiece location t items := by
  induction items generalizing t with
  | nil => rfl
  | cons item rest ih =>
    cases item with
    | chunk data =>
      have hkeep : upToEnd (.chunk data :: rest) = .chunk data :: upToEnd rest := rfl
      simp only [hkeep, eachPiece, ih]
    | wait turns => exact ih t
    | failure cause => rfl
    | crash => rfl
    | stall => rfl

theorem collected_upToEnd (t : Transfer) (held : List Bytes) (items : List BodyItem) :
    collected location t held (upToEnd items) = collected location t held items := by
  induction items generalizing held with
  | nil => rfl
  | cons item rest ih =>
    cases item with
    | chunk data => exact ih (data :: held)
    | wait turns => exact ih held
    | failure cause => rfl
    | crash => rfl
    | stall => rfl

theorem deliver_upToEnd (t : Transfer) (items : List BodyItem) :
    deliver location t (upToEnd items) = deliver location t items := by
  unfold deliver
  cases t.mode with
  | progressive => exact eachPiece_upToEnd t items
  | buffered => exact collected_upToEnd t [] items

/-- A response is accepted or refused without a look at its items. -/
theorem accept_asRead (location : String) (r : Response) :
    accept location r.asRead = (accept location r).map upToEnd := by
  have hstatus : r.asRead.isSuccess = r.isSuccess := rfl
  simp only [accept, hstatus]
  by_cases hr : r.isSuccess = true
  · simp only [Response.asRead, if_pos hr]
    cases r.body <;> rfl
  · simp only [if_neg hr]
    rfl

theorem readAnswer_asRead (t : Transfer) (reply : Reply) :
    readAnswer location t reply.asRead = readAnswer location t reply := by
  cases reply with
  | response r =>
    simp only [Reply.asRead, readAnswer, accept_asRead]
    cases accept location r with
    | error cause => rfl
    | ok items => simp only [Except.map, readWhole_upToEnd, Response.asRead]
  | refusal cause => rfl
  | crash => rfl

theorem respond_asRead (t : Transfer) (reply : Reply) :
    respond location t reply.asRead = respond location t reply := by
  cases reply with
  | response r =>
    simp only [Reply.asRead, respond, accept_asRead]
    cases accept location r with
    | error cause => rfl
    | ok items => simp only [Except.map, deliver_upToEnd, Response.asRead]
  | refusal cause => rfl
  | crash => rfl

theorem verdict_asRead (location : String) (reply : Reply) :
    verdict location reply.asRead = verdict location reply := by
  have hopen : (({ mode := .buffered } : Transfer).perform .start).phase = .opened := rfl
  rw [← outcome_readAnswer hopen, readAnswer_asRead, outcome_readAnswer hopen]

theorem whole_asRead (answer : Answer) :
    whole request target { answer with reply := answer.reply.asRead } =
      whole request target answer := by
  simp only [whole, readAnswer_asRead]

theorem course_asRead (answer : Answer) :
    course request target mode { answer with reply := answer.reply.asRead } =
      course request target mode answer := by
  simp only [course, respond_asRead]

theorem conclude_noting (w : Whole) (notes : List Log.Event) :
    conclude location { w with reports := notes ++ w.reports } =
      { conclude location w with reports := notes ++ (conclude location w).reports } := by
  unfold conclude
  dsimp only
  split
  · split <;> simp only [List.append_assoc]
  · rfl

/-- What a transport notes on the way stands in front of the reports of a retrieval, and shows in
nothing else of it. -/
theorem whole_noting (request : Request) (target : Target) (answer : Answer) :
    whole request target answer =
      { whole request target { reply := answer.reply } with
        reports := answer.reports ++ (whole request target { reply := answer.reply }).reports } := by
  have hs : guarded { mode := .buffered } .start =
      .ok (({ mode := .buffered } : Transfer).perform .start) := guarded_of_accepted rfl
  let read := readAnswer request.location (({ mode := .buffered } : Transfer).perform .start)
    answer.reply
  simp only [whole, hs, List.nil_append]
  exact conclude_noting { read with sent := (request, target) :: read.sent } answer.reports

def laterReports (location : String) (mode : Delivery) (reply : Reply) : List Log.Event :=
  noted (respond location (({ mode } : Transfer).perform .start) reply).steps ++
    if (verdict location reply).ending = .crashed then [abortReport location] else []

/-- In a course the notes of a transport stand behind the opening. -/
theorem noted_course (request : Request) (target : Target) (mode : Delivery) (answer : Answer) :
    noted (course request target mode answer).steps =
      startReport request.location mode :: (answer.reports ++
        noted (respond request.location (({ mode } : Transfer).perform .start)
          answer.reply).steps) := by
  have hs : guarded { mode } .start = .ok (({ mode } : Transfer).perform .start) :=
    guarded_of_accepted rfl
  have hnotes (notes : List Log.Event) (t : Transfer) :
      noted (notes.map fun entry => ⟨.report entry, t⟩) = notes := by
    induction notes with
    | nil => rfl
    | cons entry rest ih => exact congrArg (entry :: ·) ih
  simp only [course, hs]
  exact congrArg (startReport request.location mode :: ·)
    (List.filterMap_append.trans (congrArg (· ++ _) (hnotes answer.reports _)))

/-- All that a stream logs for a listener who reads it to its end. -/
theorem log_stream {config : Config} {l : Loader} (hl : l.MadeFrom config) {n : Nat} {s : Stream}
    (hs : l.stream? n = some s) :
    s.drain.2.2.2 = [startReport l.request.location l.delivery] ++ (l.answer n).reports ++
      laterReports l.request.location l.delivery (l.answer n).reply := by
  have hp := proper_loader l n
  have hd : (l.course n).Discreet := discreet_course l.request l.target l.delivery (l.answer n)
  obtain ⟨hstart, hcap⟩ := listening_stream hl hs
  have hfit := (Loader.stream?_isSome hl n).mp (by rw [hs]; rfl)
  rw [Loader.stream?_eq hl hfit n] at hs
  obtain rfl := Option.some.inj hs
  have hall := (followed_ofCourse hstart rfl rfl).log_drain hp hd (by rw [hcap]; omega)
  have hnoted : noted (l.course n).steps = startReport l.request.location l.delivery ::
      ((l.answer n).reports ++ noted (respond l.request.location
        (({ mode := l.delivery } : Transfer).perform .start) (l.answer n).reply).steps) :=
    noted_course l.request l.target l.delivery (l.answer n)
  have hend : (l.course n).ending = (verdict l.request.location (l.answer n).reply).ending :=
    (tells_course l.request l.target l.delivery (l.answer n)).2
  rw [hall]
  simp only [Stream.unlogged, Stream.ofCourse, laterReports, hnoted, hend, and_true,
    List.cons_append, List.nil_append, List.append_assoc]

section

theorem verdict_of_asRead {first second : Reply} (h : first.asRead = second.asRead) :
    verdict location first = verdict location second := by
  rw [← verdict_asRead, h, verdict_asRead]

theorem laterReports_of_asRead {first second : Reply} (h : first.asRead = second.asRead) :
    laterReports location mode first = laterReports location mode second := by
  have hsteps (t : Transfer) : respond location t first = respond location t second := by
    rw [← respond_asRead, h, respond_asRead]
  simp only [laterReports, hsteps, verdict_of_asRead h]

variable {first second : Answer}

/-- Answers that are the same as far as they are read are one answer to all retrievals. -/
theorem whole_of_asRead (h : first.reply.asRead = second.reply.asRead)
    (hnotes : first.reports = second.reports) :
    whole request target first = whole request target second := by
  rw [← whole_asRead first, ← whole_asRead second, h]
  simp only [whole, hnotes]

theorem course_of_asRead (h : first.reply.asRead = second.reply.asRead)
    (hnotes : first.reports = second.reports) :
    course request target mode first = course request target mode second := by
  rw [← course_asRead first, ← course_asRead second, h]
  simp only [course, hnotes]

theorem promised_of_asRead (request : Request) (target : Target)
    (h : first.reply.asRead = second.reply.asRead) :
    promised request.location mode first = promised request.location mode second := by
  let bare : Answer := { reply := first.reply }
  let other : Answer := { reply := second.reply }
  calc promised request.location mode first
    _ = promised request.location mode bare := promised_congr rfl rfl rfl
    _ = promised request.location mode other := by
      have hsame : course request target mode bare = course request target mode other :=
        course_of_asRead h rfl
      rw [← promised_course request target, hsame, promised_course]
    _ = promised request.location mode second := promised_congr rfl rfl rfl

/-- Bodies that are refused read alike, and bodies that break off at the same item. -/
theorem asRead_of_bodies {r : Response} {body other : Option (List BodyItem)}
    (h : (r.status ≠ 0 ∧ r.status ≠ 200) ∨
      ∃ front item rest more, item.outcome?.isSome = true ∧
        body = some (front ++ item :: rest) ∧ other = some (front ++ item :: more)) :
    (Reply.response { r with body := body }).asRead =
      (Reply.response { r with body := other }).asRead := by
  rcases h with ⟨hzero, hok⟩ | ⟨front, item, rest, more, hitem, rfl, rfl⟩
  · have hrefused : r.isSuccess = false := by simp [Response.isSuccess, hzero, hok]
    have hnone (b : Option (List BodyItem)) :
        ({ r with body := b } : Response).asRead = { r with body := none } := by
      have hsame : ({ r with body := b } : Response).isSuccess = false := hrefused
      simp [Response.asRead, hsame]
    simp only [Reply.asRead, hnone]
  · have hsame : upToEnd (front ++ item :: rest) = upToEnd (front ++ item :: more) :=
      (upToEnd_append hitem front rest).trans (upToEnd_append hitem front more).symm
    simp only [Reply.asRead, Response.asRead, Option.map_some, hsame]
    rfl

end

/-- Of two responses that differ in their bodies alone all retrievals come to the same, with the
same events, counters and diagnostics, where both are refused for their status, and where the bodies
are the same up to an item that ends them. What the transport itself notes on the way is told as it
is, in one and the same place, and where that is the same too nothing tells the retrievals apart
under any schedule. -/
theorem unread_has_no_influence {config : Config} {l : Loader} (hl : l.MadeFrom config) {i j : Nat}
    {r : Response} {body other : Option (List BodyItem)}
    (hi : (l.answer i).reply = .response { r with body := body })
    (hj : (l.answer j).reply = .response { r with body := other })
    (h : (r.status ≠ 0 ∧ r.status ≠ 200) ∨
      ∃ front item rest more, item.outcome?.isSome = true ∧
        body = some (front ++ item :: rest) ∧ other = some (front ++ item :: more)) :
    (l.whole i).outcome = (l.whole j).outcome ∧
    (l.whole i).progress = (l.whole j).progress ∧
    (∃ told, (l.whole i).reports = (l.answer i).reports ++ told ∧
      (l.whole j).reports = (l.answer j).reports ++ told) ∧
    (∀ progressive,
      (∀ n, ((l.inMode progressive).stream? n).isSome = true ↔
        config.eventBuffer.toNat ≤ Loader.maxChannelCapacity) ∧
      ∀ s t, (l.inMode progressive).stream? i = some s →
        (l.inMode progressive).stream? j = some t →
        s.drain.1 = t.drain.1 ∧ s.drain.2.1 = t.drain.2.1 ∧
        ∃ before after, s.drain.2.2.2 = before ++ (l.answer i).reports ++ after ∧
          t.drain.2.2.2 = before ++ (l.answer j).reports ++ after) ∧
    ((l.answer i).reports = (l.answer j).reports →
      l.whole i = l.whole j ∧
      ∀ progressive, (l.inMode progressive).stream? i = (l.inMode progressive).stream? j) := by
  have hread : (l.answer i).reply.asRead = (l.answer j).reply.asRead := by
    rw [hi, hj]
    exact asRead_of_bodies h
  have hverdict : verdict l.request.location (l.answer i).reply =
      verdict l.request.location (l.answer j).reply := verdict_of_asRead hread
  -- The answers may differ in their reports, which are noted in front of all others: without them
  -- the two retrievals are one.
  let silent (n : Nat) : Answer := { reply := (l.answer n).reply }
  have hsilent : whole l.request l.target (silent i) = whole l.request l.target (silent j) :=
    whole_of_asRead hread rfl
  have hwhole (n : Nat) : l.whole n = { whole l.request l.target (silent n) with
      reports := (l.answer n).reports ++ (whole l.request l.target (silent n)).reports } :=
    whole_noting l.request l.target (l.answer n)
  refine ⟨outcome_whole_congr hverdict, ?_, ?_, fun progressive => ⟨?_, ?_⟩, fun hnotes => ⟨?_, ?_⟩⟩
  · rw [hwhole i, hwhole j, hsilent]
  · refine ⟨(whole l.request l.target (silent j)).reports, ?_, ?_⟩
    · rw [hwhole i, hsilent]
    · rw [hwhole j]
  · exact Loader.stream?_isSome (Loader.madeFrom_inMode hl progressive)
  · intro s t hs ht
    have hmade := Loader.madeFrom_inMode hl progressive
    have hfit := (Loader.stream?_isSome hmade i).mp (by rw [hs]; rfl)
    -- Both streams exist for the same reason, so the two that are given are these.
    obtain ⟨s', t', hs', ht', hse, hte, hends⟩ := exists_inMode_pair hl hfit progressive i j
    obtain rfl := Option.some.inj (hs'.symm.trans hs)
    obtain rfl := Option.some.inj (ht'.symm.trans ht)
    refine ⟨?_, hends hverdict, ?_⟩
    · rw [hse, hte, promised_of_asRead l.request l.target hread]
    · have hlogged := log_stream hmade hs
      have hlogged' := log_stream hmade ht
      have hlater : laterReports (l.inMode progressive).request.location
          (l.inMode progressive).delivery ((l.inMode progressive).answer i).reply =
            laterReports _ _ ((l.inMode progressive).answer j).reply := laterReports_of_asRead hread
      rw [hlater] at hlogged
      exact ⟨_, _, hlogged, hlogged'⟩
  · rw [hwhole i, hwhole j, hsilent, hnotes]
  · -- Only here do the reports have to agree: the course of a task has them among its steps.
    intro progressive
    have hcourse : (l.inMode progressive).course i = (l.inMode progressive).course j :=
      course_of_asRead hread hnotes
    simp only [Loader.stream?, hcourse]

/-- A body that is missing and one that breaks down, both refused; and two bodies that go on in
different ways behind their failure. -/
theorem unread_has_no_influence_behind :
    let cause : LoadError := .fileRead "data.bin" (.system 5)
    let missing : Response := { status := 404, statusText := "Not Found", body := none }
    let failing : Response := { status := 200, contentLength := some 9, body := none }
    let front : List BodyItem := [.chunk [1], .chunk [], .wait 1]
    let l := Loader.sample true 1
      [.response missing, .response { missing with body := some [.crash] },
        .response { failing with body := some (front ++ .failure cause :: [.chunk [2], .stall]) },
        .response { failing with body := some (front ++ .failure cause :: [.crash]) }]
    l.MadeFrom { eventBuffer := 1 } ∧
      (l.answer 0).reply = .response { missing with body := none } ∧
      (l.answer 1).reply = .response { missing with body := some [.crash] } ∧
      (missing.status ≠ 0 ∧ missing.status ≠ 200) ∧
      (l.answer 2).reply = .response
        { failing with body := some (front ++ .failure cause :: [.chunk [2], .stall]) } ∧
      (l.answer 3).reply = .response
        { failing with body := some (front ++ .failure cause :: [.crash]) } ∧
      (BodyItem.failure cause).outcome?.isSome = true ∧
      (l.answer 0).reports = (l.answer 1).reports ∧ (l.answer 2).reports = (l.answer 3).reports ∧
      (l.whole 0).outcome = .failure (.http "data.bin" 404 "Not Found") ∧
      l.whole 0 = l.whole 1 ∧ (l.inMode false).stream? 0 = (l.inMode false).stream? 1 ∧
      (l.whole 2).outcome = .failure cause ∧
      l.whole 2 = l.whole 3 ∧ (l.inMode true).stream? 2 = (l.inMode true).stream? 3 := by
  intro cause missing failing front l
  have hl : l.MadeFrom { eventBuffer := 1 } := Loader.madeFrom_sample _ _ _
  have hrefused : missing.status ≠ 0 ∧ missing.status ≠ 200 := by decide
  have hzero : (l.answer 0).reply = .response { missing with body := none } := by rfl
  have hone : (l.answer 1).reply = .response { missing with body := some [.crash] } := by rfl
  have htwo : (l.answer 2).reply = .response
      { failing with body := some (front ++ .failure cause :: [.chunk [2], .stall]) } := by rfl
  have hthree : (l.answer 3).reply = .response
      { failing with body := some (front ++ .failure cause :: [.crash]) } := by rfl
  obtain ⟨-, -, -, -, hfirst⟩ := unread_has_no_influence hl hzero hone (Or.inl hrefused)
  obtain ⟨-, -, -, -, hsecond⟩ := unread_has_no_influence hl htwo hthree
    (Or.inr ⟨front, .failure cause, _, _, rfl, rfl, rfl⟩)
  exact ⟨hl, hzero, hone, hrefused, htwo, hthree, rfl, rfl, rfl, rfl, (hfirst rfl).1,
    (hfirst rfl).2 false, rfl, (hsecond rfl).1, (hsecond rfl).2 true⟩

end Fetch
end Retrieval
