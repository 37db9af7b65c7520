import Retrieval.Proofs.Url.Host
import Retrieval.Proofs.Url.Scheme

/-! Which authorities can be read in a URL of no special scheme: credentials up to the last at sign,
a host and a port. Nothing else behind such a scheme can fail to be read. -/
namespace Retrieval.Url

/-- Credentials, a host and a port. What goes with an empty host is no port and no credentials but
empty ones, and an at sign alone needs to be the end of the text. -/
def ReadableAuthority (followed : Prop) (cs : List Char) : Prop :=
  ∃ credentials host port,
    (cs = host ++ port ∧ credentials = [] ∨ cs = credentials ++ '@' :: (host ++ port)) ∧
    '@' ∉ host ++ port ∧ ReadableHost host ∧ ReadablePort port ∧
    (host = [] → port = [] ∧ (credentials = [] ∨ credentials = [':'])) ∧ (followed → cs ≠ ['@'])

section Credentials

variable {mark : Char} {front back cs : List Char}

theorem cutAtLast?_append (h : mark ∉ back) :
    cutAtLast? mark (front ++ mark :: back) = some (front, back) := by
  have hpass : ∀ c ∈ back.reverse, (c != mark) = true := by
    intro c hc
    apply bne_iff_ne.mpr
    rintro rfl
    exact h (List.mem_reverse.mp hc)
  have hreverse : (front ++ mark :: back).reverse = back.reverse ++ mark :: front.reverse := by
    rw [List.reverse_append, List.reverse_cons, List.append_assoc]
    rfl
  rw [cutAtLast?, hreverse, List.dropWhile_append_of_pos hpass, List.takeWhile_append_of_pos hpass]
  simp

theorem cutAtLast?_of_notMem (h : mark ∉ cs) : cutAtLast? mark cs = none := by
  have hpass : ∀ c ∈ cs.reverse, (c != mark) = true := by
    intro c hc
    apply bne_iff_ne.mpr
    rintro rfl
    exact h (List.mem_reverse.mp hc)
  have hnone : cs.reverse.dropWhile (· != mark) = [] := by
    have hall : (cs.reverse ++ []).dropWhile (· != mark) = [] := List.dropWhile_append_of_pos hpass
    rwa [List.append_nil] at hall
  rw [cutAtLast?, hnone]

def credentialsOf (cs : List Char) : List Char × List Char := (cutAtLast? '@' cs).getD ([], cs)

theorem credentialsOf_append (h : '@' ∉ back) :
    credentialsOf (front ++ '@' :: back) = (front, back) := by
  rw [credentialsOf, cutAtLast?_append h]
  rfl

theorem credentialsOf_of_notMem (h : '@' ∉ cs) : credentialsOf cs = ([], cs) := by
  rw [credentialsOf, cutAtLast?_of_notMem h]
  rfl

/-- Credentials go up to the last at sign. -/
theorem credentialsOf_sound (cs : List Char) :
    (cs = (credentialsOf cs).2 ∧ (credentialsOf cs).1 = [] ∨
      cs = (credentialsOf cs).1 ++ '@' :: (credentialsOf cs).2) ∧ '@' ∉ (credentialsOf cs).2 := by
  by_cases hmem : '@' ∈ cs
  · obtain ⟨back, front, hreverse, hback⟩ :=
      List.eq_append_cons_of_mem (List.mem_reverse.mpr hmem)
    have hcs : cs = front.reverse ++ '@' :: back.reverse := by
      rw [← List.reverse_reverse cs, hreverse, List.reverse_append, List.reverse_cons,
        List.append_assoc]
      rfl
    have hlast : '@' ∉ back.reverse := fun hm => hback (List.mem_reverse.mp hm)
    rw [hcs, credentialsOf_append hlast]
    exact ⟨Or.inr rfl, hlast⟩
  · rw [credentialsOf_of_notMem hmem]
    exact ⟨Or.inl ⟨rfl, rfl⟩, hmem⟩

theorem cutAt_eq_nil_iff :
    (cutAt mark cs).1 = [] ∧ (cutAt mark cs).2.getD [] = [] ↔ cs = [] ∨ cs = [mark] := by
  constructor
  · rintro ⟨hfront, hback⟩
    unfold cutAt at hfront hback
    cases hdrop : cs.dropWhile (· != mark) with
    | nil =>
      rw [hdrop] at hfront
      exact Or.inl hfront
    | cons first rest =>
      simp only [hdrop] at hfront hback
      obtain rfl : rest = [] := hback
      have hfirst : (first != mark) = false := by
        have hhead := List.head?_dropWhile_not (· != mark) cs
        rwa [hdrop] at hhead
      have hall : cs = cs.takeWhile (· != mark) ++ cs.dropWhile (· != mark) :=
        List.takeWhile_append_dropWhile.symm
      rw [hfront, hdrop, bne_eq_false_iff_eq.mp hfirst] at hall
      exact Or.inr hall
  · rintro (rfl | rfl)
    · exact ⟨rfl, rfl⟩
    · simp [cutAt]

/-- Credentials show in a URL unless they are empty, with or without their colon. -/
theorem hasCredentials_iff {u : Url}
    (huser : u.user = String.ofList (percentEncode userinfoSet (cutAt ':' cs).1))
    (hpassword : u.password =
      String.ofList (percentEncode userinfoSet ((cutAt ':' cs).2.getD []))) :
    ¬u.hasCredentials = true ↔ cs = [] ∨ cs = [':'] := by
  rw [← cutAt_eq_nil_iff, ← @isEmpty_ofList_percentEncode userinfoSet, ← huser,
    ← @isEmpty_ofList_percentEncode userinfoSet, ← hpassword]
  cases hu : u.user.isEmpty <;> cases hp : u.password.isEmpty <;> simp [hasCredentials, hu, hp]

end Credentials

theorem not_of_guard {p q : Prop} [Decidable (p ∧ q)] {cause : Error} {u v : Url}
    (h : (if p ∧ q then .error cause else .ok v : Except Error Url) = .ok u) (hp : p) : ¬q := by
  intro hq
  rw [if_pos ⟨hp, hq⟩] at h
  cases h

/-- An authority is read if and only if it can be split into parts of the right form. -/
theorem parseAuthority_iff {scheme : String} (hk : kindOf scheme = .other) {more : Bool}
    {cs : List Char} : (∃ u, parseAuthority scheme more cs = .ok u) ↔
      ReadableAuthority (more = true ∨ cs.dropWhile (· != '/') ≠ []) (cs.takeWhile (· != '/')) := by
  have hends : (fun c => !Path.isSeparator .other c) = (· != '/') := by
    funext c
    exact congrArg (!·) (Bool.or_false (c == '/'))
  generalize ha : cs.takeWhile (· != '/') = authority
  constructor
  · -- What was read shows its parts: credentials up to the last at sign, then host and port.
    rintro ⟨u, hu⟩
    simp only [parseAuthority, hk, hends, ha] at hu
    split at hu
    · cases hu
    · rename_i hlone
      split at hu
      · cases hu
      · rename_i name number after hread
        change parseHostPort .other (credentialsOf authority).2 = .ok (name, number, after) at hread
        obtain ⟨hhost, hport, he⟩ := parseHostPort_iff.mp ⟨_, hread⟩
        obtain ⟨hsplit, hat⟩ := credentialsOf_sound authority
        have hall := (splitHost_sound false (credentialsOf authority).2).1
        refine ⟨(credentialsOf authority).1, _, _, ?_, ?_, hhost, hport, fun hempty => ?_, ?_⟩
        · rw [hall]
          exact hsplit
        · rw [hall]
          exact hat
        · refine ⟨he hempty, ?_⟩
          have hname := (isEmpty_of_parseHostPort hread).mpr hempty
          exact (hasCredentials_iff rfl rfl).mp (not_of_guard hu hname)
        · exact fun hfollowed hat => hlone ⟨hat, hfollowed⟩
  · -- Conversely each step of the reading finds the part that is meant for it.
    rintro ⟨credentials, host, port, hsplit, hat, hhost, hport, he, hlone⟩
    have hcredentials : credentialsOf authority = (credentials, host ++ port) := by
      rcases hsplit with ⟨rfl, rfl⟩ | rfl
      · exact credentialsOf_of_notMem hat
      · exact credentialsOf_append hat
    have hparts := splitHost_of_readable hhost hport
    have hread : ∃ read, parseHostPort .other (host ++ port) = .ok read := by
      rw [parseHostPort_iff, hparts]
      exact ⟨hhost, hport, fun hempty => (he hempty).1⟩
    obtain ⟨⟨name, number, after⟩, hread⟩ := hread
    have hempty := isEmpty_of_parseHostPort hread
    rw [hparts] at hempty
    have hpair : (cutAtLast? '@' authority).getD ([], authority) = (credentials, host ++ port) :=
      hcredentials
    have hgoes : ¬(authority = ['@'] ∧ (more = true ∨ cs.dropWhile (· != '/') ≠ [])) :=
      fun h => hlone h.2 h.1
    simp only [parseAuthority, hk, hends, ha, if_neg hgoes, hpair, hread]
    refine ⟨_, if_neg ?_⟩
    rintro ⟨hname, hshown⟩
    exact (hasCredentials_iff rfl rfl).mpr (he (hempty.mp hname)).2 hshown

section Place

def endsAuthority (c : Char) : Bool := c == '/' || c == '?' || c == '#'

/-- What stands behind a scheme begins with two slashes and an authority that cannot be read. -/
def HasUnreadableAuthority (rest : List Char) : Prop :=
  ∃ after, rest = '/' :: '/' :: after ∧
    ¬ReadableAuthority (after.dropWhile (fun c => !endsAuthority c) ≠ [])
      (after.takeWhile fun c => !endsAuthority c)

/-- What begins with the end of an authority has none of it left, and is followed unless empty. -/
theorem ofChars_behind {tail : List Char}
    (h : ∀ mark, tail.head? = some mark → endsAuthority mark = true) :
    (Cut.ofChars tail).main.takeWhile (· != '/') = [] ∧
    (((Cut.ofChars tail).query.isSome || (Cut.ofChars tail).fragment.isSome) = true ∨
      (Cut.ofChars tail).main.dropWhile (· != '/') ≠ [] ↔ tail ≠ []) := by
  cases tail with
  | nil => exact ⟨rfl, by decide⟩
  | cons mark rest =>
    have hmark := h mark rfl
    simp only [endsAuthority, Bool.or_eq_true, beq_iff_eq] at hmark
    rcases hmark with (rfl | rfl) | rfl
    · rw [ofChars_cons (by decide)]
      exact ⟨rfl, iff_of_true (Or.inr (List.cons_ne_nil _ _)) (List.cons_ne_nil _ _)⟩
    · obtain ⟨hmain, hquery⟩ := ofChars_query rest
      rw [hmain, hquery]
      exact ⟨rfl, iff_of_true (Or.inl rfl) (List.cons_ne_nil _ _)⟩
    · obtain ⟨hmain, hfragment⟩ := ofChars_fragment rest
      rw [hmain, hfragment, Bool.or_true]
      exact ⟨rfl, iff_of_true (Or.inl rfl) (List.cons_ne_nil _ _)⟩

/-- The authority ends at the first mark, and what follows it is a path, a query or a fragment. -/
theorem authority_ofChars (cs : List Char) :
    (Cut.ofChars cs).main.takeWhile (· != '/') = cs.takeWhile (fun c => !endsAuthority c) ∧
    (((Cut.ofChars cs).query.isSome || (Cut.ofChars cs).fragment.isSome) = true ∨
      (Cut.ofChars cs).main.dropWhile (· != '/') ≠ [] ↔
        cs.dropWhile (fun c => !endsAuthority c) ≠ []) := by
  let authority := cs.takeWhile fun c => !endsAuthority c
  let tail := cs.dropWhile fun c => !endsAuthority c
  have hinside : ∀ c ∈ authority, c ≠ '/' ∧ c ≠ '?' ∧ c ≠ '#' := by
    intro c hc
    have hend := List.all_eq_true.mp List.all_takeWhile c hc
    simpa [endsAuthority, and_assoc] using hend
  have hpass : ∀ c ∈ authority, (c != '/') = true := fun c hc => bne_iff_ne.mpr (hinside c hc).1
  have hcut : Cut.ofChars cs =
      { Cut.ofChars tail with main := authority ++ (Cut.ofChars tail).main } := by
    rw [← ofChars_append fun c hc => ⟨(hinside c hc).2.2, (hinside c hc).2.1⟩,
      List.takeWhile_append_dropWhile]
  have hstops : ∀ mark, tail.head? = some mark → endsAuthority mark = true := by
    intro mark hmark
    have hstop := List.head?_dropWhile_not (fun c => !endsAuthority c) cs
    rw [hmark] at hstop
    simpa using hstop
  obtain ⟨hnone, hrest⟩ := ofChars_behind hstops
  rw [hcut]
  simp only [List.takeWhile_append_of_pos hpass, List.dropWhile_append_of_pos hpass]
  refine ⟨?_, hrest⟩
  rw [hnone]
  exact List.append_nil authority

theorem parseScheme_of_slashes {scheme : String} (hk : kindOf scheme = .other) (base : Option Url)
    {cut : Cut} {rest : List Char} (h : cut.main = '/' :: '/' :: rest) :
    (∃ u, parseScheme base scheme cut = .ok u) ↔
      ∃ u, parseAuthority scheme (cut.query.isSome || cut.fragment.isSome) rest = .ok u := by
  simp only [parseScheme, hk, h]
  cases parseAuthority scheme (cut.query.isSome || cut.fragment.isSome) rest with
  | error cause => exact ⟨nofun, nofun⟩
  | ok u => exact iff_of_true ⟨_, rfl⟩ ⟨u, rfl⟩

theorem parseScheme_of_no_slashes {scheme : String} (hk : kindOf scheme = .other)
    (base : Option Url) {cut : Cut} (h : ∀ rest, cut.main ≠ '/' :: '/' :: rest) :
    ∃ u, parseScheme base scheme cut = .ok u := by
  simp only [parseScheme, hk]
  split
  · rename_i rest hmain
    exact absurd hmain (h rest)
  · exact ⟨_, rfl⟩
  · exact ⟨_, rfl⟩

/-- Behind a scheme that is not special, an authority is all that can fail to be read. -/
theorem parseScheme_iff {scheme : String} (hk : kindOf scheme = .other) (base : Option Url)
    (rest : List Char) : (∃ u, parseScheme base scheme (Cut.ofChars rest) = .ok u) ↔
      ¬HasUnreadableAuthority rest := by
  by_cases hslashes : ∃ after, rest = '/' :: '/' :: after
  · obtain ⟨after, rfl⟩ := hslashes
    have hcut : Cut.ofChars ('/' :: '/' :: after) =
        { Cut.ofChars after with main := '/' :: '/' :: (Cut.ofChars after).main } := by
      rw [ofChars_cons (by decide), ofChars_cons (by decide)]
    obtain ⟨hauthority, hfollowed⟩ := authority_ofChars after
    rw [hcut, parseScheme_of_slashes hk base rfl, parseAuthority_iff hk, hauthority, hfollowed]
    constructor
    · rintro hread ⟨other, hother, hno⟩
      cases hother
      exact hno hread
    · exact fun h => Classical.byContradiction fun hno => h ⟨after, rfl, hno⟩
  · refine iff_of_true (parseScheme_of_no_slashes hk base fun front hmain => ?_)
      fun ⟨after, hafter, _⟩ => hslashes ⟨after, hafter⟩
    -- What is left of a text when it is cut is a beginning of it.
    obtain ⟨more, hmore⟩ := prefix_main rest
    exact hslashes ⟨front ++ more, by rw [← hmore, hmain]; rfl⟩

end Place

end Retrieval.Url
