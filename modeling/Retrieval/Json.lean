import Retrieval.Bytes
import Retrieval.Decimal.Shortest
import Retrieval.Text.Quoted

/-! JSON values and their compact text. -/
namespace Retrieval

inductive Json
  | null
  | boolean (b : Bool)
  /-- `mantissa / 10 ^ places`. A number with places is not an integer, whatever its value. -/
  | number (mantissa : Int) (places : Nat)
  | text (s : String)
  | array (items : List Json)
  | object (members : List (String × Json))
  deriving Inhabited

namespace Json

def integer (n : Int) : Json := .number n 0

/-- An integer that fits into sixty-four bits, with or without sign. -/
def toInteger? : Json → Option Int
  | number n 0 => if -0x8000000000000000 ≤ n ∧ n < 0x10000000000000000 then some n else none
  | _ => none

def renderDecimal (mantissa : Int) (places : Nat) : String :=
  (if mantissa < 0 then "-" else "") ++ (Decimal.Binary.ofDecimal mantissa.natAbs places).render

def escapeChar (c : Char) : List Char :=
  match c with
  | '"' => ['\\', '"']
  | '\\' => ['\\', '\\']
  | '\x08' => ['\\', 'b']
  | '\x0c' => ['\\', 'f']
  | '\n' => ['\\', 'n']
  | '\r' => ['\\', 'r']
  | '\t' => ['\\', 't']
  | c => if c.toNat < 0x20 then "\\u00".toList ++ hexOctet (UInt8.ofNat c.toNat) else [c]

def renderText (s : String) : String :=
  String.ofList ('"' :: s.toList.flatMap escapeChar ++ ['"'])

mutual

def render : Json → String
  | null => "null"
  | boolean b => toString b
  | number n 0 => toString n
  | number n places => renderDecimal n places
  | text s => renderText s
  | array items => "[" ++ ",".intercalate (renderItems items) ++ "]"
  | object members => "\x7b" ++ ",".intercalate (renderMembers members) ++ "\x7d"

def renderItems : List Json → List String
  | [] => []
  | item :: rest => item.render :: renderItems rest

def renderMembers : List (String × Json) → List String
  | [] => []
  | (key, value) :: rest => (renderText key ++ ":" ++ value.render) :: renderMembers rest

end

/-- What a value is, for a message that says it is not what was expected. -/
def describe (j : Json) : String :=
  match j with
  | null => "null"
  | boolean b => "boolean `" ++ toString b ++ "`"
  | number n places =>
    match j.toInteger? with
    | some i => "integer `" ++ toString i ++ "`"
    | none => "floating point `" ++ renderDecimal n places ++ "`"
  | text s => "string " ++ quoted s
  | array _ => "sequence"
  | object _ => "map"

end Json
end Retrieval
