import Retrieval.Fetch.Acceptance

/-! The operations of a retrieval are accepted in the phases it applies them in. -/
namespace Retrieval

namespace Transfer

/-- Headers have come and data may follow. -/
def Receiving (t : Transfer) : Prop := t.phase = .headersReceived ∨ t.phase = .transferring

theorem apply_of_accepted {t : Transfer} {op : Operation} (h : op.accepted t.phase = true) :
    t.apply op = .ok (t.perform op) := by
  simp only [apply, h, if_true]

theorem apply_fail {t : Transfer} (h : t.phase.isTerminal = false) :
    t.apply .fail = .ok (t.perform .fail) := by
  apply apply_of_accepted
  simp only [Operation.accepted, h, Bool.not_false]

theorem Receiving.accepted_data {t : Transfer} (h : t.Receiving) (len : Nat) :
    (Operation.data len).accepted t.phase = true := by
  rcases h with h | h <;> rw [h] <;> rfl

theorem Receiving.accepted_finish {t : Transfer} (h : t.Receiving) :
    Operation.finish.accepted t.phase = true := by
  rcases h with h | h <;> rw [h] <;> rfl

theorem Receiving.not_terminal {t : Transfer} (h : t.Receiving) : t.phase.isTerminal = false := by
  rcases h with h | h <;> rw [h] <;> rfl

theorem receiving_perform_headers (t : Transfer) (total : Nat) :
    (t.perform (.headers total)).Receiving := Or.inl rfl

theorem receiving_perform_data (t : Transfer) (len : Nat) :
    (t.perform (.data len)).Receiving := Or.inr rfl

end Transfer

namespace Fetch

theorem guarded_of_accepted {t : Transfer} {op : Transfer.Operation}
    (h : op.accepted t.phase = true) : guarded t op = .ok (t.perform op) := by
  simp only [guarded, Transfer.apply_of_accepted h]

theorem guarded_data {t : Transfer} (h : t.Receiving) (len : Nat) :
    guarded t (.data len) = .ok (t.perform (.data len)) :=
  guarded_of_accepted (h.accepted_data len)

theorem guarded_finish {t : Transfer} (h : t.Receiving) :
    guarded t .finish = .ok (t.perform .finish) :=
  guarded_of_accepted h.accepted_finish

end Fetch
end Retrieval
