import Retrieval.Proofs.Url.Scheme
import Retrieval.Target

/-! What the base has to do with where a location leads: nothing if the location has a scheme. One
without a scheme takes that of the base, or is a local path where there is none. -/
namespace Retrieval.Target

open Url (Schemed)

variable {location : String} {target : Target} {e : LoadError} {u : Url}

theorem parse_of_schemed (h : Schemed location) :
    Url.parse location ≠ .error .relativeWithoutBase := by
  obtain ⟨name, hs⟩ := h
  obtain ⟨hname, rest, hrest⟩ := Url.hasScheme_iff.mp hs
  have hyields := Url.yields_parseScheme none (Url.schemeOf name) (Url.Cut.ofChars rest)
  rw [← Url.parseWith_of_hasScheme hname hrest] at hyields
  intro hp
  rw [show Url.parseWith none location = _ from hp] at hyields
  exact hyields rfl

theorem parse_of_not_schemed (h : ¬Schemed location) :
    Url.parse location = .error .relativeWithoutBase :=
  Url.parseWith_of_not_schemed h none

theorem resolve_of_schemed (h : Schemed location) (base : Option Url) :
    resolve location base = resolve location none := by
  have hp := parse_of_schemed h
  unfold resolve
  split
  · rfl
  · rename_i hrelative
    exact absurd hrelative hp
  · rfl

theorem resolve_of_not_schemed (h : ¬Schemed location) (base : Url) :
    resolve location (some base) =
      match base.join location with
      | .ok u => ofUrl location u
      | .error cause => .error (.invalidLocation location cause) := by
  cases hj : base.join location <;> simp only [resolve, parse_of_not_schemed h, hj]

theorem scheme_join (h : ¬Schemed location) {base : Url} (hj : base.join location = .ok u) :
    u.scheme = base.scheme := by
  have hyields := Url.yields_parseReference base (Url.Cut.ofChars (Url.significant location))
  rw [← Url.parseWith_of_not_schemed h, show Url.parseWith (some base) location = _ from hj]
    at hyields
  exact hyields

/-- Only the web and local files are targets. -/
theorem ofUrl_eq_ok (h : ofUrl location u = .ok target) :
    (target = .http u ∧ (u.scheme = "http" ∨ u.scheme = "https")) ∨
      ∃ path, target = .file path ∧ u.scheme = "file" := by
  unfold ofUrl at h
  split at h
  · rename_i hweb
    cases h
    exact Or.inl ⟨rfl, hweb⟩
  · split at h
    · rename_i hfile
      split at h
      · cases h
        exact Or.inr ⟨_, rfl, hfile⟩
      · cases h
    · cases h

/-- All other schemes are refused by name. -/
theorem ofUrl_eq_error (h : ofUrl location u = .error e) :
    ∃ scheme, e = .unsupportedScheme location scheme := by
  unfold ofUrl at h
  split at h
  · cases h
  · split at h
    · split at h
      · cases h
      · cases h
        exact ⟨_, rfl⟩
    · cases h
      exact ⟨_, rfl⟩

/-- A location leads to a path that it spells out, or where a URL leads, or it cannot be read. -/
theorem resolve_cases (location : String) (base : Option Url) :
    resolve location base = .ok (ofPath location) ∨
      (∃ u, resolve location base = ofUrl location u) ∨
      ∃ cause, resolve location base = .error (.invalidLocation location cause) := by
  unfold resolve
  split
  · rename_i u hu
    split
    · exact Or.inl rfl
    · exact Or.inr (Or.inl ⟨u, rfl⟩)
  · split
    · exact Or.inl rfl
    · split
      · exact Or.inr (Or.inl ⟨_, rfl⟩)
      · exact Or.inr (Or.inr ⟨_, rfl⟩)
  · exact Or.inr (Or.inr ⟨_, rfl⟩)

theorem scheme_of_resolve {base : Option Url} (h : resolve location base = .ok (.http u)) :
    u.scheme = "http" ∨ u.scheme = "https" := by
  rcases resolve_cases location base with hpath | ⟨other, hurl⟩ | ⟨cause, herror⟩
  · cases hpath.symm.trans h
  · rcases ofUrl_eq_ok (hurl.symm.trans h) with ⟨hu, hweb⟩ | ⟨path, hp, -⟩
    · cases hu
      exact hweb
    · cases hp
  · cases herror.symm.trans h

theorem error_of_resolve {base : Option Url} (h : resolve location base = .error e) :
    (∃ cause, e = .invalidLocation location cause) ∨
      ∃ scheme, e = .unsupportedScheme location scheme := by
  rcases resolve_cases location base with hpath | ⟨other, hurl⟩ | ⟨cause, herror⟩
  · cases hpath.symm.trans h
  · exact Or.inr (ofUrl_eq_error (hurl.symm.trans h))
  · cases herror.symm.trans h
    exact Or.inl ⟨cause, rfl⟩

/-- A location with a scheme leads to the same place, or fails in the same way, under every base and
under none. One without a scheme is a local path as it stands where there is no base, and can lead
only to the web under a base of the web, and only to a local path under a file. What is led to on
the web is of a scheme of the web, and every failure names the location. -/
theorem base_matters_only_without_scheme (location : String) :
    (Schemed location → ∀ base other, resolve location base = resolve location other) ∧
    (¬Schemed location → resolve location none = .ok (.file (utf8 location)) ∧
      ∀ base target, resolve location (some base) = .ok target →
        (∃ u, target = .http u ∧ u.scheme = base.scheme ∧
          (base.scheme = "http" ∨ base.scheme = "https")) ∨
        (∃ path, target = .file path ∧ base.scheme = "file")) ∧
    ∀ base, (∀ u, resolve location base = .ok (.http u) → u.scheme = "http" ∨ u.scheme = "https") ∧
      ∀ e, resolve location base = .error e →
        (∃ cause, e = .invalidLocation location cause) ∨
          ∃ scheme, e = .unsupportedScheme location scheme := by
  refine ⟨?_, ?_, fun base => ⟨fun u => scheme_of_resolve, fun e => error_of_resolve⟩⟩
  · intro h base other
    exact (resolve_of_schemed h base).trans (resolve_of_schemed h other).symm
  · intro h
    refine ⟨by simp only [resolve, parse_of_not_schemed h, ofPath], ?_⟩
    intro base target hok
    rw [resolve_of_not_schemed h base] at hok
    split at hok
    · rename_i u hj
      have hscheme := scheme_join h hj
      rcases ofUrl_eq_ok hok with ⟨rfl, hweb⟩ | ⟨path, rfl, hfile⟩
      · rw [hscheme] at hweb
        exact Or.inl ⟨u, rfl, hscheme, hweb⟩
      · exact Or.inr ⟨path, rfl, hscheme ▸ hfile⟩
    · cases hok

/-- The scheme of the base is a scheme in a location too, and is none behind a dot. -/
theorem base_matters_only_without_scheme_alike :
    let base : Url := { scheme := "http", host := some (.name "h"), path := .segments [""] }
    Schemed "http:data.bin" ∧
      resolve "http:data.bin" (some base) = resolve "http:data.bin" none ∧
      ¬Schemed "./http:data.bin" ∧
      resolve "./http:data.bin" none = .ok (.file (utf8 "./http:data.bin")) := by
  intro base
  have hschemed : Schemed "http:data.bin" := by decide
  have hplain : ¬Schemed "./http:data.bin" := by decide
  exact ⟨hschemed, (base_matters_only_without_scheme _).1 hschemed (some base) none, hplain,
    ((base_matters_only_without_scheme _).2.1 hplain).1⟩

end Retrieval.Target
