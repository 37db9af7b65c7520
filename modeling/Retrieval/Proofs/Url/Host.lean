import Retrieval.Url.Parse

/-! Which hosts and ports can be read in a URL of no special scheme. What is read and what is
refused shows in the text alone. -/
namespace Retrieval.Url

theorem exists_mem_splitOnP {p : Char → Bool} {c : Char} {cs : List Char} (hc : c ∈ cs)
    (hp : p c = false) : ∃ part ∈ cs.splitOnP p, c ∈ part := by
  induction cs with
  | nil => cases hc
  | cons first rest ih =>
    rw [List.splitOnP_cons_eq_if_modifyHead]
    by_cases hfirst : p first = true
    · rw [if_pos hfirst]
      rcases List.mem_cons.mp hc with rfl | hrest
      · rw [hp] at hfirst
        cases hfirst
      · obtain ⟨part, hpart, hmem⟩ := ih hrest
        exact ⟨part, List.mem_cons_of_mem [] hpart, hmem⟩
    · rw [if_neg hfirst]
      -- The first part becomes longer by one character, and the others stay.
      cases hparts : rest.splitOnP p with
      | nil => exact absurd hparts (List.splitOnP_ne_nil p rest)
      | cons head others =>
        rw [List.modifyHead_cons]
        rcases List.mem_cons.mp hc with rfl | hrest
        · exact ⟨_, List.mem_cons_self, List.mem_cons_self⟩
        · obtain ⟨part, hpart, hmem⟩ := ih hrest
          rw [hparts] at hpart
          rcases List.mem_cons.mp hpart with rfl | hother
          · exact ⟨_, List.mem_cons_self, List.mem_cons_of_mem first hmem⟩
          · exact ⟨part, List.mem_cons_of_mem _ hother, hmem⟩

theorem isSome_of_mapM {α β : Type} {f : α → Option β} {items : List α} {results : List β}
    (h : items.mapM f = some results) {item : α} (hm : item ∈ items) : (f item).isSome = true := by
  induction items generalizing results with
  | nil => cases hm
  | cons first rest ih =>
    rw [List.mapM_cons] at h
    obtain ⟨value, hvalue, hrest⟩ := Option.bind_eq_some_iff.mp h
    obtain ⟨values, hvalues, -⟩ := Option.bind_eq_some_iff.mp hrest
    rcases List.mem_cons.mp hm with rfl | hm
    · rw [hvalue]
      rfl
    · exact ih hvalues hm

namespace Ipv6

def IsAddressChar (c : Char) : Prop := (hexValue? c).isSome = true ∨ c = ':' ∨ c = '.'

theorem isAddressChar_of_isDigit {c : Char} (h : c.isDigit = true) : IsAddressChar c := by
  have hrange : '0' ≤ c ∧ c ≤ '9' := Char.isDigit_iff_toNat.mp h
  refine Or.inl ?_
  rw [hexValue?, if_pos hrange]
  rfl

theorem isDigit_of_decimalOctet? {cs : List Char} (h : (decimalOctet? cs).isSome = true) {c : Char}
    (hc : c ∈ cs) : c.isDigit = true := by
  unfold decimalOctet? at h
  split at h
  · cases h
  · cases h
  · split at h
    · rename_i hall
      exact List.all_eq_true.mp (Bool.and_eq_true_iff.mp hall).1 c hc
    · cases h

theorem isAddressChar_of_dotted? {cs : List Char} {two : List Nat} (h : dotted? cs = some two)
    {c : Char} (hc : c ∈ cs) : IsAddressChar c := by
  by_cases hdot : c = '.'
  · exact Or.inr (Or.inr hdot)
  · obtain ⟨parts, hparts, -⟩ := Option.bind_eq_some_iff.mp h
    have hkept : (c == '.') = false := beq_false_of_ne hdot
    obtain ⟨part, hpart, hmem⟩ := exists_mem_splitOnP (p := (· == '.')) hc hkept
    exact isAddressChar_of_isDigit (isDigit_of_decimalOctet? (isSome_of_mapM hparts hpart) hmem)

theorem exists_hexPiece (limit value : Nat) (cs : List Char) :
    ∃ digits, cs = digits ++ (hexPiece limit value cs).2 ∧ ∀ c ∈ digits, IsAddressChar c := by
  induction cs generalizing limit value with
  | nil => exact ⟨[], by simp only [hexPiece, List.append_nil], nofun⟩
  | cons first rest ih =>
    unfold hexPiece
    split
    · rename_i limit d hd
      obtain ⟨digits, hrest, hdigits⟩ := ih limit (value * 16 + d)
      refine ⟨first :: digits, by rw [List.cons_append, ← hrest], ?_⟩
      intro c hc
      rcases List.mem_cons.mp hc with rfl | hc
      · exact Or.inl (by rw [hd]; rfl)
      · exact hdigits c hc
    · exact ⟨[], rfl, nofun⟩

/-- The pieces of an address are read from its characters only. -/
theorem isAddressChar_of_pieces? {seen result : Partial} {cs : List Char}
    (h : pieces? seen cs = some result) {c : Char} (hc : c ∈ cs) : IsAddressChar c := by
  fun_induction pieces? seen cs with
  | case1 => cases hc
  | case2 => cases h
  | case3 seen rest hroom ih =>
    rcases List.mem_cons.mp hc with rfl | hc
    · exact Or.inr (Or.inl rfl)
    · exact ih h hc
  | case4 => cases h
  | case5 seen first tail hcolon hroom value hpiece =>
    obtain ⟨digits, hdigits, hall⟩ := exists_hexPiece 4 0 (first :: tail)
    rw [hpiece, List.append_nil] at hdigits
    rw [hdigits] at hc
    exact hall c hc
  | case6 seen first tail hcolon hroom value next rest hpiece ih =>
    obtain ⟨digits, hdigits, hall⟩ := exists_hexPiece 4 0 (first :: tail)
    rw [hpiece] at hdigits
    rw [hdigits] at hc
    rcases List.mem_append.mp hc with hc | hc
    · exact hall c hc
    · rcases List.mem_cons.mp hc with rfl | hc
      · exact Or.inr (Or.inl rfl)
      · exact ih h hc
  | case7 => cases h
  | case8 seen first tail hcolon hroom value rest hpiece hlong =>
    obtain ⟨two, htwo, -⟩ := Option.map_eq_some_iff.mp h
    exact isAddressChar_of_dotted? htwo hc
  | case9 => cases h

theorem isAddressChar_of_written? {cs : List Char} {seen : Partial} (h : written? cs = some seen)
    {c : Char} (hc : c ∈ cs) : IsAddressChar c := by
  unfold written? at h
  split at h
  · rename_i rest
    split at h
    · rename_i others
      rcases List.mem_cons.mp hc with rfl | hc
      · exact Or.inr (Or.inl rfl)
      · rcases List.mem_cons.mp hc with rfl | hc
        · exact Or.inr (Or.inl rfl)
        · exact isAddressChar_of_pieces? h hc
    · cases h
  · split at h
    · cases h
    · exact isAddressChar_of_pieces? h hc

theorem isAddressChar_of_parse? {cs : List Char} (h : (parse? cs).isSome = true) {c : Char}
    (hc : c ∈ cs) : IsAddressChar c := by
  unfold parse? at h
  cases hw : written? cs with
  | none =>
    rw [hw] at h
    cases h
  | some seen => exact isAddressChar_of_written? hw hc

/-- An address ends before the first closing bracket. -/
theorem bracket_notMem_of_parse? {cs : List Char} (h : (parse? cs).isSome = true) : ']' ∉ cs := by
  intro hc
  rcases isAddressChar_of_parse? h hc with hhex | hcolon | hdot
  · revert hhex
    decide
  · cases hcolon
  · cases hdot

end Ipv6

/-- A host of characters that hosts may hold, or an address in brackets. It may be empty. -/
def ReadableHost (cs : List Char) : Prop :=
  (∀ c ∈ cs, isForbiddenInHost c = false) ∨
    ∃ address, cs = '[' :: (address ++ [']']) ∧ (Ipv6.parse? address).isSome = true

/-- Digits that give a port, or none, and nothing behind them but what begins with a backslash. -/
def ReadableNumber (cs : List Char) : Prop :=
  ∃ digits tail, cs = digits ++ tail ∧ (∀ c ∈ digits, c.isDigit = true) ∧
    Nat.ofDigitChars 10 digits 0 ≤ 65535 ∧ (tail = [] ∨ ∃ more, tail = '\\' :: more)

def ReadablePort (cs : List Char) : Prop :=
  cs = [] ∨ ∃ number, cs = ':' :: number ∧ ReadableNumber number

section Splitting

variable {host port address : List Char}

theorem splitHost_name (h : ∀ c ∈ host, c ≠ ':' ∧ c ≠ '[')
    (hp : port = [] ∨ ∃ more, port = ':' :: more) :
    splitHost false (host ++ port) = (host, port) := by
  induction host with
  | nil => rcases hp with rfl | ⟨more, rfl⟩ <;> rfl
  | cons first rest ih =>
    obtain ⟨hcolon, hbracket⟩ := h first List.mem_cons_self
    have hrest := ih fun c hc => h c (List.mem_cons_of_mem first hc)
    simp only [List.cons_append, splitHost, beq_false_of_ne hcolon, beq_false_of_ne hbracket,
      Bool.false_and, Bool.or_false, hrest, Bool.false_eq_true, if_false]

theorem splitHost_brackets (h : ']' ∉ address) (hp : port = [] ∨ ∃ more, port = ':' :: more) :
    splitHost true (address ++ ']' :: port) = (address ++ [']'], port) := by
  induction address with
  | nil =>
    have hafter : splitHost false ([] ++ port) = ([], port) := splitHost_name nofun hp
    rw [List.nil_append] at hafter
    simp [splitHost, hafter]
  | cons first rest ih =>
    have hne : first ≠ ']' := fun he => h (he ▸ List.mem_cons_self)
    have hrest := ih fun hc => h (List.mem_cons_of_mem first hc)
    have hstays : (first == '[' || (true && first != ']')) = true := by
      rw [bne_iff_ne.mpr hne, Bool.and_true, Bool.or_true]
    simp only [List.cons_append, splitHost, hstays, hrest, Bool.not_true, Bool.and_false,
      Bool.false_eq_true, if_false]

/-- Nothing is lost between host and port, and the port begins with its colon. -/
theorem splitHost_sound (inBrackets : Bool) (cs : List Char) :
    (splitHost inBrackets cs).1 ++ (splitHost inBrackets cs).2 = cs ∧
      ((splitHost inBrackets cs).2 = [] ∨ ∃ more, (splitHost inBrackets cs).2 = ':' :: more) := by
  induction cs generalizing inBrackets with
  | nil => exact ⟨rfl, Or.inl rfl⟩
  | cons first rest ih =>
    unfold splitHost
    split
    · rename_i hcolon
      have hfirst : first = ':' := beq_iff_eq.mp (Bool.and_eq_true_iff.mp hcolon).1
      exact ⟨rfl, Or.inr ⟨rest, by rw [hfirst]⟩⟩
    · obtain ⟨hall, hport⟩ := ih (first == '[' || (inBrackets && first != ']'))
      exact ⟨congrArg (first :: ·) hall, hport⟩

end Splitting

section Hosts

theorem percentEncode_eq_nil {set : EncodeSet} {cs : List Char} :
    percentEncode set cs = [] ↔ cs = [] := by
  have hchar (c : Char) : percentEncodeChar set c ≠ [] := by
    unfold percentEncodeChar
    split
    · nofun
    · intro h
      obtain ⟨octet, rest, ho⟩ := List.exists_cons_of_ne_nil (String.utf8EncodeChar_ne_nil (c := c))
      rw [ho] at h
      cases h
  constructor
  · intro h
    cases cs with
    | nil => rfl
    | cons first rest => exact absurd (List.append_eq_nil_iff.mp h).1 (hchar first)
  · rintro rfl
    rfl

theorem isEmpty_ofList_percentEncode {set : EncodeSet} {cs : List Char} :
    (String.ofList (percentEncode set cs)).isEmpty = true ↔ cs = [] := by
  rw [String.isEmpty_iff, String.ofList_eq_empty_iff, percentEncode_eq_nil]

theorem ReadableHost.parseVerbatim {cs : List Char} (h : ReadableHost cs) :
    ∃ host, Host.parseVerbatim cs = .ok host := by
  rcases h with hplain | ⟨address, rfl, ha⟩
  · have hfirst : ¬cs.head? = some '[' := by
      intro hb
      obtain ⟨rest, rfl⟩ := List.head?_eq_some_iff.mp hb
      have hfree := hplain '[' List.mem_cons_self
      revert hfree
      decide
    have hnone : ¬cs.any isForbiddenInHost = true := by
      intro hany
      obtain ⟨c, hc, hf⟩ := List.any_eq_true.mp hany
      rw [hplain c hc] at hf
      cases hf
    simp only [Host.parseVerbatim, if_neg hfirst, if_neg hnone]
    exact ⟨_, rfl⟩
  · obtain ⟨pieces, hpieces⟩ := Option.isSome_iff_exists.mp ha
    have hlast : ('[' :: (address ++ [']'])).getLast? = some ']' := by
      rw [← List.cons_append, List.getLast?_concat]
    have hinner : (('[' :: (address ++ [']'])).drop 1).dropLast = address := List.dropLast_concat
    simp only [Host.parseVerbatim, List.head?_cons, if_true, Host.bracketed, hlast, hinner, hpieces]
    exact ⟨_, rfl⟩

/-- A host that is read had the form, and is empty only if its text is. -/
theorem readableHost_of_parseVerbatim {cs : List Char} {host : Host}
    (h : Host.parseVerbatim cs = .ok host) : ReadableHost cs ∧ (host.isEmpty = true ↔ cs = []) := by
  unfold Host.parseVerbatim at h
  split at h
  · rename_i hb
    obtain ⟨rest, rfl⟩ := List.head?_eq_some_iff.mp hb
    unfold Host.bracketed at h
    split at h
    · rename_i hlast
      split at h
      · rename_i pieces hpieces
        cases h
        -- The closing bracket is another character than the opening one.
        obtain ⟨front, hfront⟩ := List.getLast?_eq_some_iff.mp hlast
        cases front with
        | nil => cases hfront
        | cons first address =>
          obtain ⟨rfl, rfl⟩ := List.cons.inj hfront
          refine ⟨Or.inr ⟨address, rfl, ?_⟩, iff_of_false nofun nofun⟩
          have hinner : (address ++ [']']).dropLast = address := List.dropLast_concat
          have haddress : Ipv6.parse? (address ++ [']']).dropLast = some pieces := hpieces
          rw [hinner] at haddress
          rw [haddress]
          rfl
      · cases h
    · cases h
  · split at h
    · cases h
    · rename_i hnone
      cases h
      refine ⟨Or.inl fun c hc => ?_, isEmpty_ofList_percentEncode⟩
      exact Bool.eq_false_iff.mpr fun hf => hnone (List.any_eq_true.mpr ⟨c, hc, hf⟩)

end Hosts

section Ports

theorem digitsValue?_of_isDigit {digits : List Char} (h : ∀ c ∈ digits, c.isDigit = true) :
    digitsValue? 10 digits = some (Nat.ofDigitChars 10 digits 0) := by
  unfold digitsValue?
  generalize 0 = value
  induction digits generalizing value with
  | nil => rfl
  | cons first rest ih =>
    have hrange : '0' ≤ first ∧ first ≤ '9' :=
      Char.isDigit_iff_toNat.mp (h first List.mem_cons_self)
    have hhex : hexValue? first = some (first.toNat - '0'.toNat) := by
      rw [hexValue?, if_pos hrange]
    have hsmall : first.toNat - '0'.toNat < 10 := by
      have hupper : first.toNat ≤ '9'.toNat := hrange.2
      have hnine : '9'.toNat = 57 ∧ '0'.toNat = 48 := by decide
      omega
    rw [List.foldl_cons, Nat.ofDigitChars_cons, Nat.mul_comm 10]
    simp only [Option.bind_eq_bind, Option.bind_some, hhex, if_pos hsmall]
    exact ih (fun c hc => h c (List.mem_cons_of_mem first hc)) _

/-- A port is read if and only if it is a number that fits, or nothing. -/
theorem parsePort_iff {cs : List Char} :
    (∃ read, parsePort cs = .ok read) ↔ ReadableNumber cs := by
  constructor
  · rintro ⟨read, hr⟩
    have hdigits : ∀ c ∈ cs.takeWhile Char.isDigit, c.isDigit = true :=
      fun c hc => List.all_eq_true.mp List.all_takeWhile c hc
    simp only [parsePort, digitsValue?_of_isDigit hdigits] at hr
    split at hr
    · cases hr
    · rename_i hbound
      split at hr
      · cases hr
      · rename_i hmark
        refine ⟨_, _, List.takeWhile_append_dropWhile.symm, hdigits, Nat.le_of_not_lt hbound, ?_⟩
        cases htail : cs.dropWhile Char.isDigit with
        | nil => exact Or.inl rfl
        | cons first more =>
          rw [htail] at hmark
          have hfirst : first = '\\' := by simpa using hmark
          exact Or.inr ⟨more, by rw [hfirst]⟩
  · rintro ⟨digits, tail, rfl, hdigits, hbound, htail⟩
    have htake : (digits ++ tail).takeWhile Char.isDigit = digits := by
      rw [List.takeWhile_append_of_pos hdigits]
      rcases htail with rfl | ⟨more, rfl⟩ <;> exact List.append_nil digits
    have hdrop : (digits ++ tail).dropWhile Char.isDigit = tail := by
      rw [List.dropWhile_append_of_pos hdigits]
      rcases htail with rfl | ⟨more, rfl⟩ <;> rfl
    have hmark : ¬tail.head?.any (· != '\\') = true := by
      rcases htail with rfl | ⟨more, rfl⟩ <;> simp
    simp only [parsePort, htake, hdrop, digitsValue?_of_isDigit hdigits,
      if_neg (Nat.not_lt.mpr hbound), if_neg hmark]
    exact ⟨_, rfl⟩

end Ports

section HostPort

variable {host port cs : List Char}

theorem ReadablePort.starts (h : ReadablePort port) : port = [] ∨ ∃ more, port = ':' :: more :=
  h.imp id fun ⟨number, hnumber, _⟩ => ⟨number, hnumber⟩

/-- A host and its port fall apart in one way only. -/
theorem splitHost_of_readable (hh : ReadableHost host) (hp : ReadablePort port) :
    splitHost false (host ++ port) = (host, port) := by
  rcases hh with hplain | ⟨address, rfl, ha⟩
  · apply splitHost_name _ hp.starts
    intro c hc
    have hfree := hplain c hc
    refine ⟨?_, ?_⟩
    · rintro rfl
      revert hfree
      decide
    · rintro rfl
      revert hfree
      decide
  · have hinner := splitHost_brackets (Ipv6.bracket_notMem_of_parse? ha) hp.starts
    have hall : '[' :: (address ++ [']']) ++ port = '[' :: (address ++ ']' :: port) := by
      rw [List.cons_append, List.append_assoc]
      rfl
    rw [hall]
    show ('[' :: (splitHost true (address ++ ']' :: port)).1,
      (splitHost true (address ++ ']' :: port)).2) = _
    rw [hinner]

theorem parsePort_drop_iff (hs : port = [] ∨ ∃ more, port = ':' :: more) :
    (∃ read, parsePort (port.drop 1) = .ok read) ↔ ReadablePort port := by
  rw [parsePort_iff]
  rcases hs with rfl | ⟨more, rfl⟩
  · have hnone : ReadableNumber [] := ⟨[], [], rfl, nofun, by decide, Or.inl rfl⟩
    exact iff_of_true hnone (Or.inl rfl)
  · constructor
    · exact fun hnumber => Or.inr ⟨more, rfl, hnumber⟩
    · rintro (hnone | ⟨number, hnumber, hread⟩)
      · cases hnone
      · cases hnumber
        exact hread

/-- Host and port are read if and only if both can be, and there is no port without a host. -/
theorem parseHostPort_iff : (∃ read, parseHostPort .other cs = .ok read) ↔
    ReadableHost (splitHost false cs).1 ∧ ReadablePort (splitHost false cs).2 ∧
      ((splitHost false cs).1 = [] → (splitHost false cs).2 = []) := by
  obtain ⟨-, hstarts⟩ := splitHost_sound false cs
  constructor
  · rintro ⟨read, hread⟩
    unfold parseHostPort at hread
    dsimp only at hread
    split at hread
    · cases hread
    · rename_i name hname
      obtain ⟨hhost, hempty⟩ := readableHost_of_parseVerbatim hname
      split at hread
      · cases hread
      · rename_i hport
        split at hread
        · cases hread
        · rename_i number after hnumber
          refine ⟨hhost, (parsePort_drop_iff hstarts).mp ⟨_, hnumber⟩, fun he => ?_⟩
          exact Decidable.byContradiction fun hne => hport ⟨hempty.mpr he, hne⟩
  · rintro ⟨hhost, hport, he⟩
    obtain ⟨name, hname⟩ := hhost.parseVerbatim
    obtain ⟨⟨number, after⟩, hnumber⟩ := (parsePort_drop_iff hstarts).mpr hport
    have hkind : parseHost .other (splitHost false cs).1 = .ok name := hname
    have hfits : ¬(name.isEmpty = true ∧ (splitHost false cs).2 ≠ []) := by
      rintro ⟨hempty, hne⟩
      exact hne (he ((readableHost_of_parseVerbatim hname).2.mp hempty))
    refine ⟨(name, number, after), ?_⟩
    simp only [parseHostPort, hkind, if_neg hfits, hnumber]

theorem isEmpty_of_parseHostPort {name : Host} {number : Option Nat} {after : List Char}
    (h : parseHostPort .other cs = .ok (name, number, after)) :
    name.isEmpty = true ↔ (splitHost false cs).1 = [] := by
  unfold parseHostPort at h
  dsimp only at h
  split at h
  · cases h
  · rename_i read hread
    have hempty := (readableHost_of_parseVerbatim hread).2
    split at h
    · cases h
    · split at h
      · cases h
      · cases h
        exact hempty

end HostPort

end Retrieval.Url
