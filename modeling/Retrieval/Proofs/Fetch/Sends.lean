import Retrieval.Proofs.Fetch.Entered
import Retrieval.Proofs.Fetch.Streams
import Retrieval.Proofs.Fetch.Taken

/-! The requests that go out in a retrieval. A course holds one, in front of everything that depends
on the answer. No schedule of its stream sends it twice, and whoever asks for an event at all has
sent it, so that a retrieval made to its end sends the request of its loader once. -/
namespace Retrieval.Fetch

def requested (steps : List Step) : List (Request × Target) :=
  steps.filterMap fun s => s.act.request?

theorem requested_cons (step : Step) (rest : List Step) :
    requested (step :: rest) = step.act.request?.toList ++ requested rest := by
  obtain ⟨act, t⟩ := step
  cases act <;> rfl

theorem requested_single (step : Step) : requested [step] = step.act.request?.toList := by
  rw [requested_cons]
  exact List.append_nil _

theorem requested_append (first second : List Step) :
    requested (first ++ second) = requested first ++ requested second := List.filterMap_append

theorem requested_begun {first all : List Step} (h : first <+: all) :
    requested first <+: requested all := by
  obtain ⟨rest, rfl⟩ := h
  exact ⟨requested rest, (requested_append first rest).symm⟩

/-! What comes behind an answer sends nothing, whatever the answer is. A failure in particular is
not met by another request. -/

section

variable (location : String) (t : Transfer)

theorem requested_abandon (cause : LoadError) : requested (abandon location t cause).steps = [] := by
  unfold abandon
  split <;> rfl

theorem requested_completed : requested (completed location t).steps = [] := by
  unfold completed
  split
  · exact requested_abandon location t _
  · rfl

theorem requested_eachPiece (items : List BodyItem) :
    requested (eachPiece location t items).steps = [] := by
  induction items generalizing t with
  | nil => exact requested_completed location t
  | cons item rest ih =>
    cases item with
    | chunk data =>
      unfold eachPiece
      split
      · exact ih t
      · split
        · exact requested_abandon location t _
        · exact ih _
    | failure cause => exact requested_abandon location t cause
    | crash => rfl
    | stall => rfl
    | wait turns => exact ih t

theorem requested_collected (held : List Bytes) (items : List BodyItem) :
    requested (collected location t held items).steps = [] := by
  induction items generalizing held with
  | nil =>
    simp only [collected, onePiece]
    split
    · exact requested_abandon location t _
    · exact requested_completed location _
  | cons item rest ih =>
    cases item with
    | chunk data => exact ih (data :: held)
    | failure cause => exact requested_abandon location t cause
    | crash => rfl
    | stall => rfl
    | wait turns => exact ih held

theorem requested_respond (reply : Reply) : requested (respond location t reply).steps = [] := by
  cases reply with
  | crash => rfl
  | refusal cause => exact requested_abandon location t cause
  | response r =>
    unfold respond
    dsimp only
    split
    · exact requested_abandon location t _
    · rename_i received _
      cases accept location r with
      | error cause => exact requested_abandon location received cause
      | ok items =>
        show requested (deliver location received items).steps = []
        unfold deliver
        split
        · exact requested_eachPiece location received items
        · exact requested_collected location received [] items

end

theorem requested_reports (t : Transfer) (entries : List Log.Event) :
    requested (entries.map fun entry => ⟨.report entry, t⟩) = [] := by
  simp [requested]

def afterwards (location : String) (mode : Delivery) (answer : Answer) : List Step :=
  let opened := ({ mode } : Transfer).perform .start
  (answer.reports.map fun entry => ⟨.report entry, opened⟩) ++
    (respond location opened answer.reply).steps

theorem requested_afterwards (location : String) (mode : Delivery) (answer : Answer) :
    requested (afterwards location mode answer) = [] := by
  rw [afterwards, requested_append, requested_reports, requested_respond]
  rfl

/-- A task reports its start, hands out the opening, and sends the request of its course. -/
theorem steps_course (request : Request) (target : Target) (mode : Delivery) (answer : Answer) :
    let opened := ({ mode } : Transfer).perform .start
    (course request target mode answer).steps =
      ⟨.report (startReport request.location mode), { mode }⟩ :: ⟨.emit .opened, opened⟩ ::
        ⟨.send request target, opened⟩ :: afterwards request.location mode answer := by
  have hs : guarded { mode } .start = .ok (({ mode } : Transfer).perform .start) :=
    guarded_of_accepted rfl
  simp only [course, hs]
  rfl

theorem requested_course (request : Request) (target : Target) (mode : Delivery)
    (answer : Answer) :
    requested (course request target mode answer).steps = [(request, target)] := by
  rw [steps_course]
  simp only [requested_cons, requested_afterwards, Act.request?, Option.toList_none,
    Option.toList_some, List.nil_append, List.append_nil]

namespace Watched

variable {w : Watched}

/-- What a move adds to what was sent is the request of the step that the task takes in it. -/
theorem sent_act (w : Watched) (move : Move) :
    (w.act move).stream.sent = w.stream.sent ++ requested (w.step? move).toList := by
  cases move with
  | work =>
    cases hn : w.stream.advance? with
    | none => simp [act, step?, hn, requested]
    | some result =>
      obtain ⟨next, reports⟩ := result
      have hw : w.act .work = { w with stream := next } := by simp only [act, hn]
      have hstep : w.step? .work = w.stream.steps.head? := if_pos (by rw [hn]; rfl)
      rw [hw, hstep]
      rcases Stream.advance?_cases hn with ⟨a, t, rest, hs, -, rfl, -⟩ |
        ⟨event, t, rest, hs, -, rfl⟩ | ⟨event, t, rest, hs, -, -, rfl, -⟩
      all_goals rw [hs, List.head?_cons, Option.toList_some, requested_single]
      all_goals exact (List.append_nil _).symm
  | poll =>
    have hsame : w.stream.poll.2.1.sent = w.stream.sent := by
      unfold Stream.poll
      split <;> rfl
    simpa [act, step?, requested] using hsame
  | release => exact (List.append_nil _).symm
  | abort =>
    have hsame : (w.act .abort).stream.sent = w.stream.sent := by
      unfold act
      dsimp only
      split <;> rfl
    simpa [step?, requested] using hsame

theorem sent_run (w : Watched) (moves : List Move) :
    (w.run moves).stream.sent = w.stream.sent ++ requested (w.taken moves) := by
  induction moves generalizing w with
  | nil => exact (List.append_nil _).symm
  | cons move rest ih =>
    rw [run_cons, ih, sent_act, taken, requested_append, List.append_assoc]

/-- A schedule sends no more than the course has to send, in the order of the course. -/
theorem sent_begun (w : Watched) (moves : List Move) :
    (w.run moves).stream.sent <+: w.stream.sent ++ requested w.stream.steps := by
  rw [sent_run]
  exact (List.prefix_append_right_inj _).mpr (requested_begun (w.taken_begun moves))

end Watched

/-- All requests of a task have been sent, and none is left. -/
structure Stream.Spent (all : List (Request × Target)) (s : Stream) : Prop where
  sent : s.sent = all
  rest : requested s.steps = []

namespace Stream.Spent

variable {all : List (Request × Target)} {s : Stream}

theorem act {w : Watched} (h : w.stream.Spent all) (move : Move) :
    (w.act move).stream.Spent all := by
  have hsent := w.sent_act move
  have hnone : requested (w.step? move).toList = [] ∧ requested (w.act move).stream.steps = [] := by
    have hrest := h.rest
    rcases w.act_cases move with ⟨hr, hsteps, -⟩ | ⟨-, hr, hover⟩ |
      ⟨step, later, hs, hstep, -, -, hlater, -⟩ | ⟨event, t, later, hs, hstep, -, -, hover⟩
    · rw [hr.1, hsteps]
      exact ⟨rfl, hrest⟩
    · rw [hr.1, hover]
      exact ⟨rfl, rfl⟩
    · rw [hs, requested_cons, List.append_eq_nil_iff] at hrest
      rw [hstep, hlater, Option.toList_some, requested_cons, hrest.1]
      exact ⟨rfl, hrest.2⟩
    · rw [hstep, hover]
      exact ⟨rfl, rfl⟩
  rw [hnone.1, List.append_nil, h.sent] at hsent
  exact ⟨hsent, hnone.2⟩

theorem run {w : Watched} (h : w.stream.Spent all) (moves : List Move) :
    (w.run moves).stream.Spent all :=
  Watched.run_of_act (P := fun v => v.stream.Spent all) (fun _ move _ hv => hv.act move) h

theorem settle (h : s.Spent all) : s.settle.1.Spent all := by
  obtain ⟨moves, -, hrun, -⟩ := exists_run_settle s []
  simpa only [hrun] using run (w := ⟨s, []⟩) h moves

theorem poll (h : s.Spent all) : s.poll.2.1.Spent all := act (w := ⟨s, []⟩) h .poll

theorem next (h : s.Spent all) : s.next.2.1.Spent all := h.settle.poll

/-- Whoever takes events from a stream at all leaves it as spent as the first of them does. -/
theorem take (h : s.next.2.1.Spent all) (limit : Nat) :
    (s.take (limit + 1)).2.2.1.Spent all := by
  induction limit generalizing s with
  | zero =>
    rcases s.take_cases 0 with ⟨_, -, -, -, hlast, -⟩ | ⟨-, -, -, hlast⟩ | ⟨-, -, -, hlast⟩
    all_goals
      rw [hlast]
      exact h
  | succ limit ih =>
    rcases s.take_cases (limit + 1) with ⟨_, -, -, -, hlast, -⟩ | ⟨-, -, -, hlast⟩ |
      ⟨-, -, -, hlast⟩
    · rw [hlast]
      exact ih h.next
    all_goals
      rw [hlast]
      exact h

theorem follow (h : s.next.2.1.Spent all) (handlers : Handlers) (limit : Nat) :
    (handlers.follow (limit + 1) s).2.1.Spent all := by
  induction limit generalizing s handlers with
  | zero =>
    rcases hn : s.next with ⟨result, after, reports⟩
    rw [hn] at h
    cases result with
    | item event =>
      rcases hd : handlers.dispatch event with ⟨calls, rest, stop⟩
      cases stop <;> simpa only [Handlers.follow, hn, hd] using h
    | _ => simpa only [Handlers.follow, hn] using h
  | succ limit ih =>
    rcases hn : s.next with ⟨result, after, reports⟩
    rw [hn] at h
    cases result with
    | item event =>
      rcases hd : handlers.dispatch event with ⟨calls, rest, stop⟩
      cases stop with
      | true => simpa only [Handlers.follow, hn, hd] using h
      | false =>
        have hrest := ih h.next rest
        rw [Handlers.follow, hn]
        simpa only [hd] using hrest
    | _ => simpa only [Handlers.follow, hn] using h

end Stream.Spent

/-- Before the first event can be had from a stream with any room, its request is out. -/
theorem spent_ofCourse (request : Request) (target : Target) {capacity : Nat} (hr : 0 < capacity)
    (mode : Delivery) (answer : Answer) :
    (Stream.ofCourse request.location capacity mode
      (course request target mode answer)).next.2.1.Spent [(request, target)] := by
  let fresh := Stream.ofCourse request.location capacity mode (course request target mode answer)
  let opened := ({ mode } : Transfer).perform .start
  let begun : Stream :=
    { fresh with
      queue := [.opened], steps := afterwards request.location mode answer, transfer := opened
      sent := [(request, target)] }
  have hbegun : begun.Spent [(request, target)] := ⟨rfl, requested_afterwards _ _ _⟩
  -- The task waits for nothing before it has sent the request: one event has room in the channel.
  have hsettle : fresh.settle.1 = begun.settle.1 := by
    have hsteps := steps_course request target mode answer
    have hfirst : fresh.advance? = some
        ({ fresh with
            steps := ⟨.emit .opened, opened⟩ :: ⟨.send request target, opened⟩ ::
              afterwards request.location mode answer },
          [startReport request.location mode]) := by
      simp only [fresh, Stream.ofCourse, Stream.advance?, hsteps, opened]
    rw [Stream.settle_of_some hfirst]
    have hsecond : Stream.advance? { fresh with
        steps := ⟨.emit .opened, opened⟩ :: ⟨.send request target, opened⟩ ::
          afterwards request.location mode answer } = some
        ({ fresh with
            queue := [.opened], transfer := opened
            steps := ⟨.send request target, opened⟩ :: afterwards request.location mode answer },
          []) := by
      simp [fresh, Stream.ofCourse, Stream.advance?, hr]
    rw [Stream.settle_of_some hsecond]
    have hthird : Stream.advance? { fresh with
        queue := [.opened], transfer := opened
        steps := ⟨.send request target, opened⟩ :: afterwards request.location mode answer } = some
        (begun, []) := rfl
    rw [Stream.settle_of_some hthird]
  show fresh.settle.1.poll.2.1.Spent [(request, target)]
  rw [hsettle]
  exact hbegun.settle.poll

theorem sent_readWhole (t : Transfer) (items : List BodyItem) : (readWhole t items).sent = [] := by
  induction items generalizing t with
  | nil =>
    unfold readWhole
    split <;> rfl
  | cons item rest ih =>
    cases item with
    | chunk data =>
      unfold readWhole
      split
      · exact ih t
      · split
        · exact ih _
        · rfl
    | failure cause => rfl
    | crash => rfl
    | stall => rfl
    | wait turns => exact ih t

theorem sent_readAnswer (location : String) (t : Transfer) (reply : Reply) :
    (readAnswer location t reply).sent = [] := by
  cases reply with
  | crash => rfl
  | refusal cause => rfl
  | response r =>
    unfold readAnswer
    dsimp only
    split
    · rfl
    · split
      · rfl
      · split
        · rfl
        · exact sent_readWhole _ _

theorem sent_conclude (location : String) (w : Whole) : (conclude location w).sent = w.sent := by
  unfold conclude
  split
  · split <;> rfl
  · rfl

theorem sent_whole (request : Request) (target : Target) (answer : Answer) :
    (whole request target answer).sent = [(request, target)] := by
  have hs : guarded { mode := .buffered } .start =
      .ok (({ mode := .buffered } : Transfer).perform .start) := guarded_of_accepted rfl
  simp only [whole, hs, sent_conclude, sent_readAnswer]

section

variable {config : Config} {l : Loader} {n : Nat} {s : Stream}

/-- Under no schedule does a stream send anything but the request of its loader, or that twice. -/
theorem sent_run_stream (hs : l.stream? n = some s) (moves : List Move) :
    ((Watched.mk s []).run moves).stream.sent <+: [(l.request, l.target)] := by
  have hbegun := (Watched.mk s []).sent_begun moves
  unfold Loader.stream? at hs
  split at hs
  · cases hs
    rw [← requested_course l.request l.target l.delivery (l.answer n)]
    exact hbegun
  · cases hs

theorem spent_stream (hl : l.MadeFrom config) (hs : l.stream? n = some s) :
    s.next.2.1.Spent [(l.request, l.target)] := by
  have hfit := (Loader.stream?_isSome hl n).mp (by rw [hs]; rfl)
  rw [Loader.stream?_eq hl hfit n] at hs
  cases hs
  exact spent_ofCourse l.request l.target (by omega) l.delivery (l.answer n)

theorem sent_drain (hl : l.MadeFrom config) (hs : l.stream? n = some s) :
    s.drain.2.2.1.sent = [(l.request, l.target)] := ((spent_stream hl hs).take _).sent

theorem sent_follow (hl : l.MadeFrom config) (hs : l.stream? n = some s) (h : Handlers) :
    (h.follow s.bound s).2.1.sent = [(l.request, l.target)] :=
  ((spent_stream hl hs).follow h _).sent

end

end Retrieval.Fetch
