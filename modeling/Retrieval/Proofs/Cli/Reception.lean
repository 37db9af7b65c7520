import Retrieval.Cli.Run
import Retrieval.Proofs.Fetch.Grammar
import Retrieval.Proofs.Storage.Sink

/-! Taking in the events of a stream. What it comes to is told by the data in front of the last
event and by that event, and not by the pieces in which the data come. -/
namespace Retrieval.Cli

open Storage (FileSystem Sink Writer)

namespace FetchCommand

/-- Events in front of the last one have their data written and counted. -/
theorem receive_front (location : String) {files : FileSystem} (s : Sink files)
    {front : List Fetch.Event} (hf : ∀ e ∈ front, e.isTerminal = false) (data : Bytes)
    (length : Nat) (last : List Fetch.Event) :
    let whole := receive location (s.writer data) length (front ++ last)
    let rest := receive location (s.writer (data ++ (Fetch.pieces front).flatten))
      (length + (Fetch.pieces front).flatten.length) last
    whole.reception = rest.reception ∧ whole.writer = rest.writer := by
  induction front generalizing data length with
  | nil =>
    have hnone : (Fetch.pieces []).flatten = [] := rfl
    simp only [hnone, List.append_nil, List.nil_append, List.length_nil, Nat.add_zero, and_self]
  | cons event later ih =>
    have hlater : ∀ e ∈ later, e.isTerminal = false :=
      fun e he => hf e (List.mem_cons_of_mem event he)
    cases event with
    | opened => exact ih hlater data length
    | status place code headers => exact ih hlater data length
    | chunk piece p =>
      have hpieces : (Fetch.pieces (.chunk piece p :: later)).flatten =
          piece ++ (Fetch.pieces later).flatten := rfl
      have hrest := ih hlater (data ++ piece) (length + piece.length)
      rw [List.append_assoc, Nat.add_assoc, ← List.length_append, ← hpieces] at hrest
      simp only [List.cons_append, receive, s.write_writer, Received.after]
      exact hrest
    | complete => cases hf .complete List.mem_cons_self
    | error cause => cases hf (.error cause) List.mem_cons_self

/-- With all data written and counted, the last word of a stream is left. -/
theorem receive_promised_eq {files : FileSystem} (s : Sink files) (location : String)
    (mode : Delivery) (answer : Answer) :
    let events := Fetch.promised location mode answer
    let data := (Fetch.pieces events).flatten
    let whole := receive location (s.writer []) 0 events
    let rest := receive location (s.writer data) data.length
      ((Fetch.verdict location answer.reply).lastWord location)
    whole.reception = rest.reception ∧ whole.writer = rest.writer := by
  let front : List Fetch.Event :=
    .opened :: (Fetch.heading location answer.reply ++ Fetch.chunks mode answer.reply)
  let last := (Fetch.verdict location answer.reply).lastWord location
  have hall : Fetch.promised location mode answer = front ++ last :=
    Fetch.promised_eq location mode answer
  have hfront : ∀ e ∈ front, e.isTerminal = false :=
    fun e he => Fetch.isTerminal_of_mem_front he
  have hpieces : Fetch.pieces front = Fetch.pieces (Fetch.promised location mode answer) := by
    rw [hall, Fetch.pieces_append, Fetch.pieces_lastWord, List.append_nil]
  have hreceived := receive_front location s hfront [] 0 last
  rw [← hall, hpieces, List.nil_append, Nat.zero_add] at hreceived
  exact hreceived

/-- However a stream ends, all data in its events have been handed to the writer. -/
theorem writer_receive_promised {files : FileSystem} (s : Sink files) (location : String)
    (mode : Delivery) (answer : Answer) :
    (receive location (s.writer []) 0 (Fetch.promised location mode answer)).writer =
      s.writer (Fetch.pieces (Fetch.promised location mode answer)).flatten := by
  obtain ⟨-, hwriter⟩ := receive_promised_eq s location mode answer
  rw [hwriter]
  -- The last word, if there is one, is not data.
  cases Fetch.verdict location answer.reply <;> rfl

def Received.Tells (location : String) (r : Received) {files : FileSystem} (s : Sink files) :
    Fetch.Outcome → Prop
  | .payload data => r.reception = .completed data.length ∧ r.writer = s.writer data
  | .failure cause => r.reception = .failed (.fetch location cause.reason)
  | .crashed => r.reception = .failed (.fetch location (LoadError.taskAborted location).reason)
  | .stalled => r.reception = .unfinished

/-- Receiving the events of a stream comes to what the answer comes to, with the data in the sink.
-/
theorem receive_promised {files : FileSystem} (s : Sink files) (location : String)
    (mode : Delivery) (answer : Answer) :
    Received.Tells location
      (receive location (s.writer []) 0 (Fetch.promised location mode answer)) s
      (Fetch.verdict location answer.reply) := by
  obtain ⟨hreception, hwriter⟩ := receive_promised_eq s location mode answer
  cases hv : Fetch.verdict location answer.reply with
  | payload data =>
    rw [hv, Fetch.flatten_pieces_promised hv mode] at hreception hwriter
    exact ⟨hreception, hwriter⟩
  | failure cause =>
    rw [hv] at hreception
    exact hreception
  | crashed =>
    rw [hv] at hreception
    exact hreception
  | stalled =>
    rw [hv] at hreception
    exact hreception

end FetchCommand
end Retrieval.Cli
