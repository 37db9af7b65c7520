import Retrieval.Bytes
import Retrieval.Text.Unprintable

/-! Texts in double quotes, as diagnostics show them. -/
namespace Retrieval

def hexNumber (n : Nat) : List Char := Nat.toDigits 16 n

/-- One character inside quotes: the quote, the backslash and the common controls have short
escapes, an unprintable character is written by its number, and any other is itself. -/
def quoteChar (c : Char) : List Char :=
  match c with
  | '\x00' => ['\\', '0']
  | '\t' => ['\\', 't']
  | '\r' => ['\\', 'r']
  | '\n' => ['\\', 'n']
  | '"' => ['\\', '"']
  | '\\' => ['\\', '\\']
  | c =>
    if ' ' ≤ c ∧ c ≤ '~' then [c]
    else if isUnprintable c then ['\\', 'u', '\x7b'] ++ hexNumber c.toNat ++ ['\x7d']
    else [c]

def quoted (s : String) : String :=
  String.ofList ('"' :: s.toList.flatMap quoteChar ++ ['"'])

end Retrieval
