import Retrieval.Url.Parse

/-! Texts with a scheme and texts without. Which of them a text is shows at its front, whatever
query and fragment it has. A text with a scheme is read as a URL of that scheme, and one without as
a URL of the scheme of its base. -/
namespace Retrieval.Url

/-- A letter, and then letters, digits, signs and dots. -/
def IsSchemeName : List Char → Prop
  | [] => False
  | first :: others => first.isAlpha = true ∧
      ∀ c ∈ others, c.isAlphanum = true ∨ c = '+' ∨ c = '-' ∨ c = '.'

/-- Without its tabs and line breaks a text begins, behind control characters and spaces, with this
scheme and a colon. -/
def HasScheme (s : String) (name : List Char) : Prop :=
  IsSchemeName name ∧ ∃ front rest,
    s.toList.filter (fun c => !isBreak c) = front ++ (name ++ ':' :: rest) ∧
      ∀ c ∈ front, c.toNat ≤ 0x20

def Schemed (s : String) : Prop := ∃ name, HasScheme s name

theorem toNat_of_isAlpha {c : Char} (h : c.isAlpha = true) :
    (0x41 ≤ c.toNat ∧ c.toNat ≤ 0x5A) ∨ (0x61 ≤ c.toNat ∧ c.toNat ≤ 0x7A) := by
  have hletter : (decide (c.val ≥ 'A'.val ∧ c.val ≤ 'Z'.val) ||
      (decide (c.val ≥ 'a'.val) && decide (c.val ≤ 'z'.val))) = true := h
  simp only [Bool.or_eq_true, Bool.and_eq_true, decide_eq_true_eq] at hletter
  exact hletter

theorem toNat_of_isSchemeChar {c : Char} (h : isSchemeChar c = true) :
    0x2B ≤ c.toNat ∧ c.toNat ≠ 0x3A ∧ c.toNat ≠ 0x3F := by
  simp only [isSchemeChar, Char.isAlphanum, Bool.or_eq_true, beq_iff_eq] at h
  rcases h with (((hletter | hdigit) | rfl) | rfl) | rfl
  · have hrange := toNat_of_isAlpha hletter
    omega
  · have hrange : 0x30 ≤ c.toNat ∧ c.toNat ≤ 0x39 := Char.isDigit_iff_toNat.mp hdigit
    omega
  all_goals decide

namespace IsSchemeName

variable {name : List Char}

theorem isSchemeChar (h : IsSchemeName name) {c : Char} (hc : c ∈ name) :
    Url.isSchemeChar c = true := by
  cases name with
  | nil => cases hc
  | cons first others =>
    simp only [Url.isSchemeChar, Bool.or_eq_true, beq_iff_eq, or_assoc]
    rcases List.mem_cons.mp hc with rfl | hc
    · exact Or.inl (by rw [Char.isAlphanum, h.1, Bool.true_or])
    · exact h.2 c hc

/-- No character of a scheme name marks its end, a query or a fragment, or is dropped. -/
theorem plain (h : IsSchemeName name) {c : Char} (hc : c ∈ name) :
    c ≠ ':' ∧ c ≠ '#' ∧ c ≠ '?' ∧ isEdgeBlank c = false := by
  obtain ⟨hlow, hcolon, hmark⟩ := toNat_of_isSchemeChar (h.isSchemeChar hc)
  refine ⟨?_, ?_, ?_, ?_⟩
  · rintro rfl
    exact hcolon rfl
  · rintro rfl
    revert hlow
    decide
  · rintro rfl
    exact hmark rfl
  · simp only [isEdgeBlank, decide_eq_false_iff_not]
    omega

end IsSchemeName

section Significant

theorem significant_eq (s : String) : significant s =
    (((s.toList.filter fun c => !isBreak c).dropWhile isEdgeBlank).reverse.dropWhile
      isEdgeBlank).reverse := by
  -- Tabs and line breaks are blanks themselves, so that they can be dropped first.
  have hblank : (fun c => !(!isBreak c) || isEdgeBlank c) = isEdgeBlank := by
    funext c
    by_cases hb : isBreak c = true
    · simp only [isBreak, Bool.or_eq_true, beq_iff_eq] at hb
      rcases hb with (rfl | rfl) | rfl <;> rfl
    · simp only [hb, Bool.not_false, Bool.not_true, Bool.false_or]
  have hdrop (cs : List Char) : (cs.filter fun c => !isBreak c).dropWhile isEdgeBlank =
      (cs.dropWhile isEdgeBlank).filter fun c => !isBreak c := by
    rw [List.dropWhile_filter, hblank]
  rw [hdrop, ← List.filter_reverse, hdrop, ← List.filter_reverse]
  rfl

/-- A text has a scheme if, without its outer blanks and its breaks, a scheme name stands before the
first colon. -/
theorem hasScheme_iff {s : String} {name : List Char} :
    HasScheme s name ↔ IsSchemeName name ∧ ∃ rest, significant s = name ++ ':' :: rest := by
  rw [HasScheme, significant_eq]
  generalize s.toList.filter (fun c => !isBreak c) = text
  refine and_congr_right fun hname => ⟨?_, ?_⟩
  · rintro ⟨front, rest, rfl, hfront⟩
    have hblank : ∀ c ∈ front, isEdgeBlank c = true := fun c hc => decide_eq_true (hfront c hc)
    have hstart : (name ++ ':' :: rest).dropWhile isEdgeBlank = name ++ ':' :: rest := by
      cases name with
      | nil => exact hname.elim
      | cons first others =>
        have hfirst := (hname.plain List.mem_cons_self).2.2.2
        simp only [List.cons_append, List.dropWhile_cons, hfirst, Bool.false_eq_true, if_false]
    have hcolon : (':' :: name.reverse).dropWhile isEdgeBlank = ':' :: name.reverse := rfl
    rw [List.dropWhile_append_of_pos hblank, hstart, List.reverse_append, List.reverse_cons,
      List.append_assoc, List.singleton_append, List.dropWhile_append, hcolon]
    split
    · exact ⟨[], by simp⟩
    · exact ⟨(rest.reverse.dropWhile isEdgeBlank).reverse, by simp⟩
  · rintro ⟨rest, hrest⟩
    let trimmed := text.dropWhile isEdgeBlank
    let tail := (trimmed.reverse.takeWhile isEdgeBlank).reverse
    have htrimmed : trimmed = name ++ ':' :: (rest ++ tail) := by
      calc trimmed = (trimmed.reverse.takeWhile isEdgeBlank ++
            trimmed.reverse.dropWhile isEdgeBlank).reverse := by
            rw [List.takeWhile_append_dropWhile, List.reverse_reverse]
        _ = (name ++ ':' :: rest) ++ tail := by rw [List.reverse_append, hrest]
        _ = name ++ ':' :: (rest ++ tail) := by rw [List.append_assoc, List.cons_append]
    refine ⟨text.takeWhile isEdgeBlank, rest ++ tail, ?_, ?_⟩
    · rw [← htrimmed]
      exact List.takeWhile_append_dropWhile.symm
    · intro c hc
      exact of_decide_eq_true (List.all_eq_true.mp List.all_takeWhile c hc)

end Significant

section Cutting

variable {mark : Char} {front rest cs : List Char}

theorem cutAt_append (h : ∀ c ∈ front, c ≠ mark) :
    cutAt mark (front ++ rest) = (front ++ (cutAt mark rest).1, (cutAt mark rest).2) := by
  have hpass : ∀ c ∈ front, (c != mark) = true := fun c hc => bne_iff_ne.mpr (h c hc)
  rw [cutAt, cutAt, List.dropWhile_append_of_pos hpass, List.takeWhile_append_of_pos hpass]
  split <;> rfl

theorem prefix_cutAt (mark : Char) (cs : List Char) : (cutAt mark cs).1 <+: cs := by
  unfold cutAt
  split
  · exact List.prefix_rfl
  · exact List.takeWhile_prefix _

/-- A text in front that has no mark in it stays in front of what is cut. -/
theorem ofChars_append (h : ∀ c ∈ front, c ≠ '#' ∧ c ≠ '?') :
    Cut.ofChars (front ++ rest) =
      { Cut.ofChars rest with main := front ++ (Cut.ofChars rest).main } := by
  simp only [Cut.ofChars, cutAt_append fun c hc => (h c hc).1, cutAt_append fun c hc => (h c hc).2]

theorem ofChars_cons {c : Char} (h : c ≠ '#' ∧ c ≠ '?') (rest : List Char) :
    Cut.ofChars (c :: rest) = { Cut.ofChars rest with main := c :: (Cut.ofChars rest).main } := by
  have hfront : ∀ d ∈ [c], d ≠ '#' ∧ d ≠ '?' := by
    intro d hd
    rw [List.mem_singleton.mp hd]
    exact h
  exact ofChars_append hfront

theorem ofChars_query (rest : List Char) :
    (Cut.ofChars ('?' :: rest)).main = [] ∧ (Cut.ofChars ('?' :: rest)).query.isSome = true := by
  have hfront : ∀ c ∈ ['?'], c ≠ '#' := by
    intro c hc
    rw [List.mem_singleton.mp hc]
    decide
  have hfragment : cutAt '#' ('?' :: rest) = ('?' :: (cutAt '#' rest).1, (cutAt '#' rest).2) :=
    cutAt_append hfront
  simp only [Cut.ofChars, hfragment]
  exact ⟨rfl, rfl⟩

theorem ofChars_fragment (rest : List Char) :
    (Cut.ofChars ('#' :: rest)).main = [] ∧ (Cut.ofChars ('#' :: rest)).fragment.isSome = true :=
  ⟨rfl, rfl⟩

theorem prefix_main (cs : List Char) : (Cut.ofChars cs).main <+: cs :=
  (prefix_cutAt '?' _).trans (prefix_cutAt '#' cs)

end Cutting

def schemeOf (name : List Char) : String := String.ofList (name.map Char.toLower)

theorem splitScheme?_append {name rest : List Char} (h : IsSchemeName name) :
    splitScheme? (name ++ ':' :: rest) = some (schemeOf name, rest) := by
  have hall : ∀ c ∈ name, isSchemeChar c = true := fun c hc => h.isSchemeChar hc
  have hdrop : (name ++ ':' :: rest).dropWhile isSchemeChar = ':' :: rest :=
    List.dropWhile_append_of_pos hall
  have htake : (name ++ ':' :: rest).takeWhile isSchemeChar = name := by
    rw [List.takeWhile_append_of_pos hall]
    exact List.append_nil name
  cases name with
  | nil => exact h.elim
  | cons first others =>
    have hfirst : first.isAlpha = true := h.1
    rw [List.cons_append] at hdrop htake ⊢
    simp only [splitScheme?, hfirst, if_true, hdrop, htake]
    rfl

/-- A scheme that is split off was a scheme name in front of a colon. -/
theorem splitScheme?_eq_some {cs rest : List Char} {scheme : String}
    (h : splitScheme? cs = some (scheme, rest)) :
    ∃ name, IsSchemeName name ∧ cs = name ++ ':' :: rest ∧ scheme = schemeOf name := by
  unfold splitScheme? at h
  split at h
  · rename_i first others
    split at h
    · rename_i hfirst
      split at h
      · rename_i after hafter
        cases h
        refine ⟨(first :: others).takeWhile isSchemeChar, ?_, ?_, rfl⟩
        · have hscheme : isSchemeChar first = true := by
            simp only [isSchemeChar, Char.isAlphanum, hfirst, Bool.true_or]
          rw [List.takeWhile_cons, if_pos hscheme]
          refine ⟨hfirst, fun c hc => ?_⟩
          have hc' := List.all_eq_true.mp List.all_takeWhile c hc
          simpa only [isSchemeChar, Bool.or_eq_true, beq_iff_eq, or_assoc] using hc'
        · rw [← hafter]
          exact List.takeWhile_append_dropWhile.symm
      · cases h
    · cases h
  · cases h

theorem schemed_iff {s : String} : Schemed s ↔ (splitScheme? (significant s)).isSome = true := by
  constructor
  · rintro ⟨name, hs⟩
    obtain ⟨hname, rest, hrest⟩ := hasScheme_iff.mp hs
    rw [hrest, splitScheme?_append hname]
    rfl
  · intro h
    obtain ⟨⟨scheme, rest⟩, hsplit⟩ := Option.isSome_iff_exists.mp h
    obtain ⟨name, hname, hrest, -⟩ := splitScheme?_eq_some hsplit
    exact ⟨name, hasScheme_iff.mpr ⟨hname, rest, hrest⟩⟩

instance (s : String) : Decidable (Schemed s) := decidable_of_iff _ schemed_iff.symm

/-- Reading a text with a scheme. -/
theorem parseWith_of_hasScheme {s : String} {name rest : List Char} (hname : IsSchemeName name)
    (hs : significant s = name ++ ':' :: rest) (base : Option Url) :
    parseWith base s = parseScheme base (schemeOf name) (Cut.ofChars rest) := by
  have hfront : ∀ c ∈ name ++ [':'], c ≠ '#' ∧ c ≠ '?' := by
    intro c hc
    rcases List.mem_append.mp hc with hc | hc
    · exact ⟨(hname.plain hc).2.1, (hname.plain hc).2.2.1⟩
    · rw [List.mem_singleton.mp hc]
      decide
  have hcut : Cut.ofChars (name ++ ':' :: rest) =
      { Cut.ofChars rest with main := name ++ ':' :: (Cut.ofChars rest).main } := by
    have h : Cut.ofChars (name ++ [':'] ++ rest) =
        { Cut.ofChars rest with main := name ++ [':'] ++ (Cut.ofChars rest).main } :=
      ofChars_append hfront
    rwa [List.append_assoc, List.append_assoc] at h
  simp only [parseWith, hs, hcut, splitScheme?_append hname]

theorem parseWith_of_not_schemed {s : String} (h : ¬Schemed s) (base : Option Url) :
    parseWith base s = parseReference base (Cut.ofChars (significant s)) := by
  unfold parseWith
  dsimp only
  split
  · rename_i scheme rest hsplit
    obtain ⟨name, hname, hmain, -⟩ := splitScheme?_eq_some hsplit
    obtain ⟨more, hmore⟩ := prefix_main (significant s)
    refine absurd ⟨name, hasScheme_iff.mpr ⟨hname, rest ++ more, ?_⟩⟩ h
    rw [← hmore, hmain, List.append_assoc, List.cons_append]
  · rfl

/-- Comes to a URL of this scheme, or fails, and not for want of a base. -/
def Yields (scheme : String) : Except Error Url → Prop
  | .ok u => u.scheme = scheme
  | .error cause => cause ≠ .relativeWithoutBase

section Failing

theorem bracketed_ne_relative (cs : List Char) :
    Host.bracketed cs ≠ .error .relativeWithoutBase := by
  unfold Host.bracketed
  split
  · split <;> nofun
  · nofun

theorem parse_ne_relative (cs : List Char) : Host.parse cs ≠ .error .relativeWithoutBase := by
  unfold Host.parse
  split
  · exact bracketed_ne_relative cs
  · split
    · nofun
    · nofun
    · split
      · split <;> nofun
      · nofun

theorem parseVerbatim_ne_relative (cs : List Char) :
    Host.parseVerbatim cs ≠ .error .relativeWithoutBase := by
  unfold Host.parseVerbatim
  split
  · exact bracketed_ne_relative cs
  · split <;> nofun

theorem parsePort_ne_relative (cs : List Char) : parsePort cs ≠ .error .relativeWithoutBase := by
  unfold parsePort
  dsimp only
  split
  · nofun
  · split
    · nofun
    · split <;> nofun

theorem parseHost_ne_relative (kind : SchemeKind) (cs : List Char) :
    parseHost kind cs ≠ .error .relativeWithoutBase := by
  unfold parseHost
  split
  · split
    · nofun
    · exact parse_ne_relative cs
  · exact parseVerbatim_ne_relative cs

theorem parseHostPort_ne_relative (kind : SchemeKind) (cs : List Char) :
    parseHostPort kind cs ≠ .error .relativeWithoutBase := by
  unfold parseHostPort
  dsimp only
  split
  · rename_i cause hcause
    rintro ⟨⟩
    exact parseHost_ne_relative _ _ hcause
  · split
    · nofun
    · split
      · rename_i cause hcause
        rintro ⟨⟩
        exact parsePort_ne_relative _ hcause
      · nofun

end Failing

section Yielding

variable {scheme : String} {base : Url}

theorem Yields.guard {p : Prop} [Decidable p] {cause : Error} {u : Url}
    (hc : cause ≠ .relativeWithoutBase) (hu : u.scheme = scheme) :
    Yields scheme (if p then .error cause else .ok u) := by
  split
  · exact hc
  · exact hu

theorem yields_parseAuthority (scheme : String) (more : Bool) (cs : List Char) :
    Yields scheme (parseAuthority scheme more cs) := by
  unfold parseAuthority
  dsimp only
  split
  · nofun
  · split
    · rename_i cause hcause
      rintro rfl
      exact parseHostPort_ne_relative _ _ hcause
    · exact Yields.guard nofun rfl

/-- Query and fragment have no part in the scheme. -/
theorem Yields.complete {x : Except Error Url} (h : Yields scheme x) (cut : Cut) :
    Yields scheme (x >>= fun u => pure (Url.complete cut u)) := by
  cases x with
  | error cause => exact h
  | ok u => exact h

theorem scheme_onBase (base : Url) (cut : Cut) : (base.onBase cut).scheme = base.scheme := by
  unfold onBase
  dsimp only
  split <;> rfl

theorem yields_parseRelative (base : Url) (cut : Cut) :
    Yields base.scheme (parseRelative base cut) := by
  unfold parseRelative
  split
  · split
    · exact scheme_onBase base cut
    · rfl
  · rfl
  · exact (yields_parseAuthority _ _ _).complete cut

theorem yields_parseFileHost (cs : List Char) : Yields "file" (parseFileHost cs) := by
  unfold parseFileHost
  dsimp only
  split
  · rfl
  · split
    · rfl
    · cases hhost : Host.parse (cs.takeWhile fun c => !Path.isSeparator .file c) with
      | error cause =>
        rintro rfl
        exact parse_ne_relative _ hhost
      | ok host => rfl

theorem scheme_parseFileRoot (base : Option Url) (rest : List Char) :
    (parseFileRoot base rest).scheme = "file" := by
  unfold parseFileRoot
  split
  · rfl
  · split
    · rfl
    · split <;> rfl

theorem yields_parseFile {base : Option Url} (hb : ∀ b, base = some b → b.scheme = "file")
    (cut : Cut) : Yields "file" (parseFile base cut) := by
  unfold parseFile
  split
  · exact (yields_parseFileHost _).complete cut
  · exact scheme_parseFileRoot _ _
  · rfl
  · rename_i u _
    have hu : u.scheme = "file" := hb u rfl
    split
    · exact (scheme_onBase u cut).trans hu
    · split
      · rfl
      · exact hu

theorem scheme_of_kind_file (h : kindOf scheme = .file) : scheme = "file" := by
  unfold kindOf at h
  split at h
  · assumption
  · split at h <;> cases h

/-- A base of the same scheme can have a part in the reading, and the scheme stays the same. -/
theorem yields_parseScheme (base : Option Url) (scheme : String) (cut : Cut) :
    Yields scheme (parseScheme base scheme cut) := by
  have hsame {b : Url} (hb : base.filter (·.scheme == scheme) = some b) : b.scheme = scheme :=
    beq_iff_eq.mp (Option.filter_eq_some_iff.mp hb).2
  unfold parseScheme
  dsimp only
  split
  · rename_i hkind
    obtain rfl := scheme_of_kind_file hkind
    exact yields_parseFile (fun b hb => hsame hb) cut
  · split
    · rename_i b hb
      split
      · have hrelative := yields_parseRelative b cut
        rwa [hsame hb] at hrelative
      · exact (yields_parseAuthority _ _ _).complete cut
    · exact (yields_parseAuthority _ _ _).complete cut
  · split
    · exact (yields_parseAuthority _ _ _).complete cut
    · rfl
    · rfl

/-- A reference is read with the scheme of its base. -/
theorem yields_parseReference (base : Url) (cut : Cut) :
    Yields base.scheme (parseReference (some base) cut) := by
  unfold parseReference
  dsimp only
  split
  · exact scheme_onBase base cut
  · split
    · nofun
    · rename_i hkind
      have hscheme : base.scheme = "file" := scheme_of_kind_file hkind
      rw [hscheme]
      apply yields_parseFile
      rintro b ⟨⟩
      exact hscheme
    · exact yields_parseRelative base cut

end Yielding

end Retrieval.Url
