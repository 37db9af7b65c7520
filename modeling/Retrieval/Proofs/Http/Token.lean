import Retrieval.Bytes
import Retrieval.Http.Method
import Retrieval.Proofs.Url.Scheme

/-! Tokens, told by their bytes. A character of ASCII is one byte, and all bytes of any other
character lie above ASCII, so that a text can be judged and put in capitals byte by byte. -/
namespace Retrieval

section Encoding

variable {c : Char} {b : UInt8} {s t : String}

theorem utf8EncodeChar_ascii (h : c.toNat < 0x80) :
    String.utf8EncodeChar c = [UInt8.ofNat c.toNat] := by
  have hle : c.val.toNat ≤ 0x7F := Nat.le_of_lt_succ h
  simp only [String.utf8EncodeChar, if_pos hle]
  rfl

/-- All bytes of a character outside ASCII are outside ASCII. -/
theorem le_toNat_of_mem_utf8EncodeChar (h : 0x80 ≤ c.toNat)
    (hb : b ∈ String.utf8EncodeChar c) : 0x80 ≤ b.toNat := by
  have hlong : ¬c.val.toNat ≤ 0x7F := Nat.not_le.mpr h
  -- A lead byte has its two highest bits set, a byte behind it the highest one.
  have hhigh (n low : Nat) (hn : n < 0x40) (hl : 0x80 ≤ low) (hs : n + low < 0x100) :
      0x80 ≤ (UInt8.ofNat (n + low)).toNat := by
    rw [UInt8.toNat_ofNat_of_lt' hs]
    omega
  simp only [String.utf8EncodeChar, if_neg hlong] at hb
  split at hb
  · simp only [List.mem_cons, List.not_mem_nil, or_false] at hb
    rcases hb with rfl | rfl <;> apply hhigh <;> omega
  · split at hb
    · simp only [List.mem_cons, List.not_mem_nil, or_false] at hb
      rcases hb with rfl | rfl | rfl <;> apply hhigh <;> omega
    · simp only [List.mem_cons, List.not_mem_nil, or_false] at hb
      rcases hb with rfl | rfl | rfl | rfl <;> apply hhigh <;> omega

theorem utf8_inj : utf8 s = utf8 t ↔ s = t := by
  have hbytes (text : String) : (utf8 text).toByteArray = text.toByteArray :=
    String.utf8Encode_toList
  rw [← List.toByteArray_inj, hbytes, hbytes, String.toByteArray_inj]

theorem utf8_eq_nil : utf8 s = [] ↔ s = "" := by
  have hempty : utf8 "" = [] := rfl
  rw [← hempty, utf8_inj]

end Encoding

namespace Http

/-- Digits, letters and fifteen marks. -/
def IsTokenByte (b : UInt8) : Prop :=
  (0x30 ≤ b ∧ b ≤ 0x39) ∨ (0x41 ≤ b ∧ b ≤ 0x5A) ∨ (0x61 ≤ b ∧ b ≤ 0x7A) ∨
    b ∈ [0x21, 0x23, 0x24, 0x25, 0x26, 0x27, 0x2A, 0x2B, 0x2D, 0x2E, 0x5E, 0x5F, 0x60, 0x7C, 0x7E]

instance : DecidablePred IsTokenByte := fun _ => inferInstanceAs (Decidable (_ ∨ _))

def capital (b : UInt8) : UInt8 := if 0x61 ≤ b ∧ b ≤ 0x7A then b - 0x20 else b

section Bytes

variable {c : Char} {b : UInt8} {s t : String}

theorem not_isTokenByte_of_high (h : 0x80 ≤ b.toNat) : ¬IsTokenByte b := by
  intro htoken
  have hlow : b.toNat ≤ 0x7E := by
    rcases htoken with ⟨-, hb⟩ | ⟨-, hb⟩ | ⟨-, hb⟩ | hb
    · exact Nat.le_trans (UInt8.le_iff_toNat_le.mp hb) (by decide)
    · exact Nat.le_trans (UInt8.le_iff_toNat_le.mp hb) (by decide)
    · exact Nat.le_trans (UInt8.le_iff_toNat_le.mp hb) (by decide)
    · have hmarks : [0x21, 0x23, 0x24, 0x25, 0x26, 0x27, 0x2A, 0x2B, 0x2D, 0x2E, 0x5E, 0x5F, 0x60,
          0x7C, (0x7E : UInt8)].all (·.toNat ≤ 0x7E) = true := by decide
      exact of_decide_eq_true (List.all_eq_true.mp hmarks b hb)
  omega

theorem capital_of_high (h : 0x80 ≤ b.toNat) : capital b = b := by
  refine if_neg fun hletter => ?_
  have hlow : b.toNat ≤ 0x7A := UInt8.le_iff_toNat_le.mp hletter.2
  omega

/-- The characters of ASCII, one after another: what is said of them is said of their bytes. -/
theorem ascii_told_by_byte : ∀ n < 0x80,
    (isTokenChar (Char.ofNat n) = true ↔ IsTokenByte (UInt8.ofNat n)) ∧
      (Char.ofNat n).toUpper.toNat < 0x80 ∧
      UInt8.ofNat (Char.ofNat n).toUpper.toNat = capital (UInt8.ofNat n) := by
  decide +kernel

theorem toNat_of_isTokenChar (h : isTokenChar c = true) : c.toNat < 0x80 := by
  rw [isTokenChar, Char.isAlphanum, Bool.or_eq_true, Bool.or_eq_true] at h
  rcases h with (hletter | hdigit) | hmark
  · have hrange := Url.toNat_of_isAlpha hletter
    omega
  · have hrange := (Char.isDigit_iff_toNat.mp hdigit).2
    exact Nat.lt_of_le_of_lt hrange (by decide)
  · have hmarks : "!#$%&'*+-.^_`|~".toList.all (·.toNat < 0x80) = true := by decide
    exact of_decide_eq_true (List.all_eq_true.mp hmarks c (List.contains_iff_mem.mp hmark))

/-- Checking characters is checking bytes. -/
theorem isTokenChar_iff : isTokenChar c = true ↔ ∀ b ∈ String.utf8EncodeChar c, IsTokenByte b := by
  by_cases hc : c.toNat < 0x80
  · have htable := (ascii_told_by_byte c.toNat hc).1
    rw [Char.ofNat_toNat] at htable
    rw [utf8EncodeChar_ascii hc, htable, List.forall_mem_singleton]
  · have hhigh := Nat.not_lt.mp hc
    constructor
    · intro h
      exact absurd (toNat_of_isTokenChar h) hc
    · intro h
      obtain ⟨b, rest, he⟩ := List.exists_cons_of_ne_nil (String.utf8EncodeChar_ne_nil (c := c))
      have hb : b ∈ String.utf8EncodeChar c := he ▸ List.mem_cons_self
      exact absurd (h b hb) (not_isTokenByte_of_high (le_toNat_of_mem_utf8EncodeChar hhigh hb))

theorem utf8EncodeChar_toUpper :
    String.utf8EncodeChar c.toUpper = (String.utf8EncodeChar c).map capital := by
  by_cases hc : c.toNat < 0x80
  · obtain ⟨-, hlow, hbyte⟩ := ascii_told_by_byte c.toNat hc
    rw [Char.ofNat_toNat] at hlow hbyte
    rw [utf8EncodeChar_ascii hc, utf8EncodeChar_ascii hlow, hbyte, List.map_singleton]
  · have hsame : c.toUpper = c := by
      refine dif_neg fun hletter => hc ?_
      exact Nat.lt_of_le_of_lt (UInt32.le_iff_toNat_le.mp hletter.2) (by decide)
    have hbytes : ∀ b ∈ String.utf8EncodeChar c, capital b = id b := fun b hb =>
      capital_of_high (le_toNat_of_mem_utf8EncodeChar (Nat.not_lt.mp hc) hb)
    rw [hsame, List.map_congr_left hbytes, List.map_id]

theorem isToken_iff : isToken s = true ↔ utf8 s ≠ [] ∧ ∀ b ∈ utf8 s, IsTokenByte b := by
  have hchars : s.toList.all isTokenChar = true ↔ ∀ b ∈ utf8 s, IsTokenByte b := by
    simp only [List.all_eq_true, isTokenChar_iff, utf8, List.mem_flatMap, forall_exists_index,
      and_imp]
    exact ⟨fun h b c hc hb => h c hc b hb, fun h c hc b hb => h b c hc hb⟩
  rw [isToken, Bool.and_eq_true, hchars, Bool.not_eq_true', Bool.eq_false_iff, ne_eq,
    String.isEmpty_iff, ne_eq, utf8_eq_nil]

theorem utf8_map_toUpper : utf8 (s.map Char.toUpper) = (utf8 s).map capital := by
  simp only [utf8, String.toList_map, List.flatMap_map, List.map_flatMap, utf8EncodeChar_toUpper]

/-- A small letter and its capital are both letters. -/
theorem capital_cases (b : UInt8) :
    capital b = b ∨ (0x61 ≤ b ∧ b ≤ 0x7A) ∧ 0x41 ≤ capital b ∧ capital b ≤ 0x5A := by
  by_cases hb : 0x61 ≤ b ∧ b ≤ 0x7A
  · have hcapital : capital b = b - 0x20 := if_pos hb
    have hfirst := UInt8.le_iff_toNat_le.mp hb.1
    have hlast := UInt8.le_iff_toNat_le.mp hb.2
    have hvalue := UInt8.toNat_sub_of_le b 0x20 (UInt8.le_trans (by decide) hb.1)
    simp only [UInt8.reduceToNat] at hfirst hlast hvalue
    refine Or.inr ⟨hb, ?_, ?_⟩ <;>
      · rw [hcapital, UInt8.le_iff_toNat_le, hvalue]
        simp only [UInt8.reduceToNat]
        omega
  · exact Or.inl (if_neg hb)

theorem capital_capital (b : UInt8) : capital (capital b) = capital b := by
  rcases capital_cases b with hsame | ⟨-, -, hlast⟩
  · rw [hsame, hsame]
  · refine if_neg fun hsmall => ?_
    exact absurd (UInt8.le_trans hsmall.1 hlast) (by decide)

theorem isTokenByte_capital : IsTokenByte (capital b) ↔ IsTokenByte b := by
  rcases capital_cases b with hsame | ⟨hsmall, hcapital⟩
  · rw [hsame]
  · exact iff_of_true (Or.inr (Or.inl hcapital)) (Or.inr (Or.inr (Or.inl hsmall)))

end Bytes

namespace Method

variable {s t : String} {m : Method}

/-- What is read is the text in capitals. -/
theorem text_of_ofAnyCase? (h : ofAnyCase? s = some m) : m.text = s.map Char.toUpper := by
  unfold ofAnyCase? ofText? at h
  split at h
  · cases h
    rfl
  · cases h

theorem isSome_ofAnyCase? :
    (ofAnyCase? s).isSome = true ↔ utf8 s ≠ [] ∧ ∀ b ∈ utf8 s, IsTokenByte b := by
  have hread : (ofAnyCase? s).isSome = true ↔ isToken (s.map Char.toUpper) = true := by
    unfold ofAnyCase? ofText?
    split <;> simp [*]
  rw [hread, isToken_iff, utf8_map_toUpper, ne_eq, List.map_eq_nil_iff, List.forall_mem_map]
  simp only [isTokenByte_capital]

theorem ofAnyCase?_congr (h : (utf8 s).map capital = (utf8 t).map capital) :
    ofAnyCase? s = ofAnyCase? t := by
  rw [← utf8_map_toUpper, ← utf8_map_toUpper, utf8_inj] at h
  rw [ofAnyCase?, ofAnyCase?, h]

/-- A method is read from every token and from nothing else, whatever its length and its case. Its
text is the token in capitals, and is read as the same method again. Texts that differ in the case
of letters of ASCII alone are read alike, and no others are read as the same method. -/
theorem read_from_every_token (s : String) :
    ((ofAnyCase? s).isSome = true ↔ utf8 s ≠ [] ∧ ∀ b ∈ utf8 s, IsTokenByte b) ∧
    (∀ m, ofAnyCase? s = some m →
      utf8 m.text = (utf8 s).map capital ∧ ofAnyCase? m.text = some m) ∧
    ∀ t, ((utf8 s).map capital = (utf8 t).map capital → ofAnyCase? s = ofAnyCase? t) ∧
      ∀ m, ofAnyCase? s = some m → ofAnyCase? t = some m →
        (utf8 s).map capital = (utf8 t).map capital := by
  refine ⟨isSome_ofAnyCase?, fun m hm => ?_, fun t => ⟨ofAnyCase?_congr, fun m hs ht => ?_⟩⟩
  · have htext : utf8 m.text = (utf8 s).map capital := by
      rw [text_of_ofAnyCase? hm, utf8_map_toUpper]
    have hagain : (utf8 m.text).map capital = (utf8 s).map capital := by
      rw [htext, List.map_map]
      exact List.map_congr_left fun b _ => capital_capital b
    exact ⟨htext, (ofAnyCase?_congr hagain).trans hm⟩
  · rw [← utf8_map_toUpper, ← utf8_map_toUpper, ← text_of_ofAnyCase? hs, ← text_of_ofAnyCase? ht]

/-- A long name of an extension in two spellings, and a letter that is put in capitals only outside
of ASCII. -/
theorem read_from_every_token_extension :
    ∃ m, ofAnyCase? "m-search.~extension" = some m ∧ m.text = "M-SEARCH.~EXTENSION" ∧
      ofAnyCase? "M-Search.~Extension" = some m ∧ ofAnyCase? m.text = some m ∧
      (ofAnyCase? "poſt").isSome = false := by
  obtain ⟨hread, htext, hsame⟩ := read_from_every_token "m-search.~extension"
  have htoken : utf8 "m-search.~extension" ≠ [] ∧
      ∀ b ∈ utf8 "m-search.~extension", IsTokenByte b := by decide +kernel
  obtain ⟨m, hm⟩ := Option.isSome_iff_exists.mp (hread.mpr htoken)
  obtain ⟨hcapitals, hagain⟩ := htext m hm
  have hspelling : (utf8 "m-search.~extension").map capital =
      (utf8 "M-Search.~Extension").map capital := by decide +kernel
  have hwritten : (utf8 "m-search.~extension").map capital = utf8 "M-SEARCH.~EXTENSION" := by
    decide +kernel
  have hother : ¬(utf8 "poſt" ≠ [] ∧ ∀ b ∈ utf8 "poſt", IsTokenByte b) := by decide +kernel
  refine ⟨m, hm, utf8_inj.mp (hcapitals.trans hwritten), ?_, hagain, ?_⟩
  · rw [← (hsame "M-Search.~Extension").1 hspelling, hm]
  · exact Bool.eq_false_iff.mpr fun h => hother ((read_from_every_token "poſt").1.mp h)

end Method

end Http
end Retrieval
