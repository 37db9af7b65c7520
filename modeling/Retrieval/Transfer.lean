/-! The life of one transfer. A transfer passes through its phases by operations, each accepted in
some phases only; a rejected operation changes nothing. Two counters say how much data has come
and how much is expected. -/
namespace Retrieval

inductive Phase
  | idle
  | opened
  | headersReceived
  | transferring
  | completed
  | failed
  deriving DecidableEq

namespace Phase

def isTerminal : Phase → Bool
  | completed | failed => true
  | _ => false

def name : Phase → String
  | idle => "idle"
  | opened => "opened"
  | headersReceived => "headers_received"
  | transferring => "transferring"
  | completed => "completed"
  | failed => "failed"

def ofName? (s : String) : Option Phase :=
  [idle, opened, headersReceived, transferring, completed, failed].find? (·.name == s)

def unknownMessage : String := "Matching variant not found"

end Phase

/-- How the bytes reach the reader: each piece as it comes, or all of them at the end. -/
inductive Delivery
  | progressive
  | buffered
  deriving DecidableEq

namespace Delivery

def ofSupport (progressively : Bool) : Delivery := if progressively then progressive else buffered

def name : Delivery → String
  | progressive => "progressive"
  | buffered => "buffered"

end Delivery

/-- Bytes received, and bytes expected or zero where that is not known. -/
structure Progress where
  loaded : Nat
  total : Nat
  deriving DecidableEq

/-- The counters after more data: an expected length that is overtaken follows. -/
def Progress.add (p : Progress) (len : Nat) : Progress :=
  let loaded := p.loaded + len
  ⟨loaded, if p.total ≠ 0 ∧ loaded > p.total then loaded else p.total⟩

structure IllegalTransition where
  phase : Phase
  operation : String

structure Transfer where
  phase : Phase := .idle
  mode : Delivery
  progress : Progress := ⟨0, 0⟩

namespace Transfer

inductive Operation
  | start
  | headers (total : Nat)
  | data (len : Nat)
  | finish
  | fail

def Operation.name : Operation → String
  | start => "open"
  | headers _ => "headers"
  | data _ => "data"
  | finish => "finish"
  | fail => "fail"

def Operation.accepted : Operation → Phase → Bool
  | start, .idle => true
  | headers _, .opened => true
  | data _, .headersReceived | data _, .transferring => true
  | finish, .headersReceived | finish, .transferring => true
  | fail, phase => !phase.isTerminal
  | _, _ => false

def perform (t : Transfer) : Operation → Transfer
  | .start => { t with phase := .opened }
  | .headers total => { t with phase := .headersReceived, progress := { t.progress with total } }
  | .data len => { t with phase := .transferring, progress := t.progress.add len }
  | .finish => { t with phase := .completed }
  | .fail => { t with phase := .failed }

def apply (t : Transfer) (op : Operation) : Except IllegalTransition Transfer :=
  if op.accepted t.phase then .ok (t.perform op) else .error ⟨t.phase, op.name⟩

/-- What an operation answers. Accepted data answer with the counters after them. -/
def answer (t : Transfer) (op : Operation) : Except IllegalTransition (Option Progress) :=
  if op.accepted t.phase then
    match op with
    | .data len => .ok (some (t.progress.add len))
    | _ => .ok none
  else .error ⟨t.phase, op.name⟩

def step (t : Transfer) (op : Operation) : Transfer :=
  match t.apply op with
  | .ok next => next
  | .error _ => t

end Transfer
end Retrieval
