import Retrieval.Proofs.Target.Base
import Retrieval.Proofs.Url.Authority

/-! Locations with a scheme of one letter, which is a drive. They are local paths as they stand,
with one exception: two slashes behind the colon have what follows them read as an authority, and
the location is refused where that cannot be done. -/
namespace Retrieval.Target

open Url (HasScheme HasUnreadableAuthority)

variable {location : String} {letter : Char} {rest : List Char}

theorem isSchemeName_letter (h : letter.isAlpha = true) : Url.IsSchemeName [letter] := ⟨h, nofun⟩

theorem length_schemeOf_letter (letter : Char) : (Url.schemeOf [letter]).length = 1 :=
  String.length_ofList

theorem kindOf_of_length {scheme : String} (h : scheme.length = 1) :
    Url.kindOf scheme = .other := by
  have hfile : scheme ≠ "file" := by
    rintro rfl
    revert h
    decide
  have hweb : scheme ∉ ["http", "https", "ws", "wss", "ftp"] := by
    intro hm
    have hlong : ∀ name ∈ ["http", "https", "ws", "wss", "ftp"], name.length ≠ 1 := by decide
    exact hlong scheme hm h
  rw [Url.kindOf, if_neg hfile, if_neg hweb]

/-- A drive is told from other schemes by the length of its name, after the text has been read as a
URL. -/
theorem resolve_of_drive (hl : letter.isAlpha = true)
    (hs : Url.significant location = letter :: ':' :: rest) (base : Option Url) :
    resolve location base =
      match Url.parseScheme none (Url.schemeOf [letter]) (Url.Cut.ofChars rest) with
      | .ok _ => .ok (ofPath location)
      | .error cause => .error (.invalidLocation location cause) := by
  have hname := isSchemeName_letter hl
  have hparse : Url.parse location =
      Url.parseScheme none (Url.schemeOf [letter]) (Url.Cut.ofChars rest) :=
    Url.parseWith_of_hasScheme hname hs none
  have hyields := Url.yields_parseScheme none (Url.schemeOf [letter]) (Url.Cut.ofChars rest)
  rw [resolve_of_schemed ⟨[letter], Url.hasScheme_iff.mpr ⟨hname, rest, hs⟩⟩ base]
  cases hread : Url.parseScheme none (Url.schemeOf [letter]) (Url.Cut.ofChars rest) with
  | error cause =>
    rw [hread] at hyields hparse
    simp only [resolve, hparse]
    split
    · rename_i hok
      cases hok
    · rename_i hrelative
      exact absurd (Except.error.inj hrelative) hyields
    · rename_i hother
      rw [Except.error.inj hother]
  | ok u =>
    rw [hread] at hyields hparse
    have hscheme : u.scheme.length = 1 := by
      rw [show u.scheme = Url.schemeOf [letter] from hyields]
      exact length_schemeOf_letter letter
    simp only [resolve, hparse, if_pos hscheme]

/-- A location with a drive leads to the path that it spells out, under every base and under none,
if there is no authority in it that cannot be read. It is refused otherwise. -/
theorem drive_leads_to_its_path_unless_unreadable (hl : letter.isAlpha = true)
    (hs : Url.significant location = letter :: ':' :: rest) (base : Option Url) :
    (¬HasUnreadableAuthority rest → resolve location base = .ok (ofPath location)) ∧
    (HasUnreadableAuthority rest →
      ∃ cause, resolve location base = .error (.invalidLocation location cause)) := by
  have hkind := kindOf_of_length (length_schemeOf_letter letter)
  have hreads := Url.parseScheme_iff hkind none rest
  rw [resolve_of_drive hl hs base]
  cases hread : Url.parseScheme none (Url.schemeOf [letter]) (Url.Cut.ofChars rest) with
  | ok u =>
    have hno := hreads.mp ⟨u, hread⟩
    exact ⟨fun _ => rfl, fun h => absurd h hno⟩
  | error cause =>
    refine ⟨fun h => ?_, fun _ => ⟨cause, rfl⟩⟩
    obtain ⟨u, hu⟩ := hreads.mpr h
    cases hread.symm.trans hu

/-- Credentials, a host and a port behind a drive do no harm. -/
theorem drive_leads_to_its_path_unless_unreadable_hosted :
    let base : Url := { scheme := "http", host := some (.name "h"), path := .segments [""] }
    resolve "c://u@h:8/a b" (some base) = .ok (ofPath "c://u@h:8/a b") := by
  intro base
  have hs : Url.significant "c://u@h:8/a b" = 'c' :: ':' :: "//u@h:8/a b".toList := by decide
  refine (drive_leads_to_its_path_unless_unreadable (by decide) hs (some base)).1 ?_
  rintro ⟨after, hafter, hno⟩
  obtain rfl : after = "u@h:8/a b".toList := by
    cases hafter
    rfl
  have hhost : Url.ReadableHost ['h'] := by
    refine Or.inl fun c hc => ?_
    rw [List.mem_singleton.mp hc]
    decide
  have hport : Url.ReadablePort [':', '8'] := by
    refine Or.inr ⟨['8'], rfl, ['8'], [], rfl, fun c hc => ?_, by decide, Or.inl rfl⟩
    rw [List.mem_singleton.mp hc]
    decide
  exact hno ⟨['u'], ['h'], [':', '8'], Or.inr rfl, by decide, hhost, hport, nofun, fun _ => nofun⟩

/-- A directory with a space in its name is no host. -/
theorem drive_with_spaced_directory_refused : HasScheme "C://my dir/x" ['C'] ∧
    ∀ base, resolve "C://my dir/x" base =
      .error (.invalidLocation "C://my dir/x" .domainCharacter) := by
  have hs : Url.significant "C://my dir/x" = 'C' :: ':' :: "//my dir/x".toList := by decide
  refine ⟨Url.hasScheme_iff.mpr ⟨isSchemeName_letter (by decide), _, hs⟩, fun base => ?_⟩
  rw [resolve_of_drive (by decide) hs base]
  rfl

end Retrieval.Target
