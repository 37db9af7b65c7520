import Retrieval.Bytes

/-! Percent-encoding. An encode set says which ASCII octets of a component are written as `%XX`;
octets outside ASCII always are. The sets grow from the controls up to the one for credentials. -/
namespace Retrieval.Url

/-- Which ASCII characters are written by their octet. -/
abbrev EncodeSet := Char → Bool

def controlSet : EncodeSet := fun c => c.toNat < 0x20 || c.toNat == 0x7F

def fragmentSet : EncodeSet := fun c => controlSet c || " \"<>`".toList.contains c

def querySet : EncodeSet := fun c => controlSet c || " \"#<>".toList.contains c

/-- The query of a special scheme is also kept free of the single quote. -/
def specialQuerySet : EncodeSet := fun c => querySet c || c == '\''

def pathSet : EncodeSet := fun c => fragmentSet c || "#?\x7b\x7d".toList.contains c

def userinfoSet : EncodeSet := fun c => pathSet c || "/:;=@[\\]^|".toList.contains c

def upperHexDigit (n : Nat) : Char := (hexDigit n).toUpper

def percentOctet (b : UInt8) : List Char :=
  ['%', upperHexDigit (b.toNat / 16), upperHexDigit b.toNat]

def percentEncodeChar (set : EncodeSet) (c : Char) : List Char :=
  if c.toNat < 0x80 && !set c then [c] else (String.utf8EncodeChar c).flatMap percentOctet

/-- A component with the characters of the set, and all non-ASCII ones, written by octet. An
escape that is already there is kept. -/
def percentEncode (set : EncodeSet) (cs : List Char) : List Char :=
  cs.flatMap (percentEncodeChar set)

/-- The octets of a component, each escape read as the octet it names. A percent sign that two
hexadecimal digits do not follow stands for itself. -/
def percentDecode : List Char → Bytes
  | [] => []
  | '%' :: hi :: lo :: rest =>
    match hexValue? hi, hexValue? lo with
    | some h, some l => UInt8.ofNat (h * 16 + l) :: percentDecode rest
    | _, _ => 0x25 :: percentDecode (hi :: lo :: rest)
  | c :: rest => String.utf8EncodeChar c ++ percentDecode rest
termination_by cs => cs.length

end Retrieval.Url
