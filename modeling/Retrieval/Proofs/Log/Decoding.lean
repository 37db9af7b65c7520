import Retrieval.Log.Options

/-! Settings read from JSON. Each setting is spelled by values of its own kind; an object overlays
the defaults with the settings that it gives, in whatever order and whatever else is in it, and an
array gives the first settings by their position. -/
namespace Retrieval.Log.Options

section Values

variable {j : Json}

theorem decodeText_eq_ok {s : String} : decodeText j = .ok s ↔ j = .text s := by
  cases j <;> simp [decodeText]

theorem decodeFlag_eq_ok {b : Bool} : decodeFlag j = .ok b ↔ j = .boolean b := by
  cases j <;> simp [decodeFlag]

theorem decodeLevel_eq_ok {level : Option String} :
    decodeLevel j = .ok level ↔ j = (level.map Json.text).getD .null := by
  cases level <;> cases j <;> simp [decodeLevel]

theorem toInteger?_eq_some {i : Int} : j.toInteger? = some i ↔
    j = .integer i ∧ -0x8000000000000000 ≤ i ∧ i < 0x10000000000000000 := by
  constructor
  · intro h
    unfold Json.toInteger? at h
    split at h
    · split at h
      · cases h
        exact ⟨rfl, by assumption⟩
      · cases h
    · cases h
  · rintro ⟨rfl, hrange⟩
    rw [Json.integer, Json.toInteger?, if_pos hrange]

theorem toNat_ofNat_toNat {i : Int} (hpos : 0 ≤ i) (hlt : i < 0x10000000000000000) :
    ((UInt64.ofNat i.toNat).toNat : Int) = i := by
  rw [UInt64.toNat_ofNat_of_lt' (by simp only [UInt64.size]; omega)]
  omega

theorem decodeCount_eq_ok_iff_toInteger? {n : UInt64} :
    decodeCount j = .ok n ↔ ∃ i, j.toInteger? = some i ∧ 0 ≤ i ∧ UInt64.ofNat i.toNat = n := by
  unfold decodeCount
  constructor
  · intro h
    split at h
    · rename_i i hi
      split at h
      · rename_i hpos
        exact ⟨i, hi, hpos, Except.ok.inj h⟩
      · cases h
    · cases h
  · rintro ⟨i, hi, hpos, hn⟩
    simp only [hi, if_pos hpos, hn]

theorem decodeCount_eq_ok {n : UInt64} : decodeCount j = .ok n ↔ j = .integer n.toNat := by
  rw [decodeCount_eq_ok_iff_toInteger?]
  constructor
  · rintro ⟨i, hi, hpos, rfl⟩
    obtain ⟨rfl, -, hlt⟩ := toInteger?_eq_some.mp hi
    rw [toNat_ofNat_toNat hpos hlt]
  · rintro rfl
    have hn := n.toNat_lt
    refine ⟨n.toNat, toInteger?_eq_some.mpr ⟨rfl, by omega, by omega⟩, Int.natCast_nonneg _, ?_⟩
    rw [Int.toNat_natCast, UInt64.ofNat_toNat]

theorem ofName?_eq_some {s : String} {f : Format} : Format.ofName? s = some f ↔ s = f.name := by
  unfold Format.ofName?
  constructor
  · intro h
    split at h
    · cases h
      assumption
    · split at h
      · cases h
        assumption
      · cases h
  · rintro rfl
    cases f <;> rfl

theorem decodeFormat_eq_ok {f : Format} :
    decodeFormat j = .ok f ↔ j = .text f.name ∨ (f = .text ∧ j = .text "") := by
  cases j with
  | text s =>
    have hname : f.name ≠ "" := by cases f <;> decide
    by_cases hs : s = ""
    · subst hs
      have hread : decodeFormat (.text "") = .ok .text := rfl
      simp only [hread, Except.ok.injEq, Json.text.injEq, hname.symm, false_or, and_true, eq_comm]
    · simp only [Json.text.injEq, hs, and_false, or_false, ← ofName?_eq_some]
      simp only [decodeFormat, decodeText, bind, Except.bind, if_neg hs]
      cases Format.ofName? s <;> simp [pure, Except.pure, throw, throwThe, MonadExceptOf.throw]
  | _ => simp [decodeFormat, decodeText, bind, Except.bind]

end Values

variable {o p q : Options} {key other : Key} {j : Json} {name : String}
  {members : List (String × Json)}

/-- A value stands for what the settings have under a key. -/
def Spells (o : Options) : Key → Json → Prop
  | .directory, j => j = .text o.directory
  | .level, j => j = (o.level.map Json.text).getD .null
  | .format, j => j = .text o.format.name ∨ (o.format = .text ∧ j = .text "")
  | .maxFiles, j => j = .integer o.maxFiles.toNat
  | .toStdout, j => j = .boolean o.toStdout

def SameAt (o p : Options) : Key → Prop
  | .directory => o.directory = p.directory
  | .level => o.level = p.level
  | .format => o.format = p.format
  | .maxFiles => o.maxFiles = p.maxFiles
  | .toStdout => o.toStdout = p.toStdout

theorem SameAt.refl (o : Options) (key : Key) : o.SameAt o key := by cases key <;> rfl

theorem SameAt.symm (h : o.SameAt p key) : p.SameAt o key := by cases key <;> exact Eq.symm h

theorem SameAt.trans (h : o.SameAt p key) (hq : p.SameAt q key) : o.SameAt q key := by
  cases key <;> exact Eq.trans h hq

theorem eq_of_sameAt (h : ∀ key, o.SameAt p key) : o = p := by
  cases o
  cases p
  simp only [mk.injEq]
  exact ⟨h .directory, h .level, h .format, h .maxFiles, h .toStdout⟩

theorem Spells.congr (h : o.Spells key j) (hs : p.SameAt o key) : p.Spells key j := by
  cases key <;> simp only [Spells, SameAt] at h hs ⊢ <;> rw [hs] <;> exact h

/-- One setting, with the way in which it is decoded, looked up and put in its place. -/
structure IsSlot (key : Key) {α : Type} (decode : Json → Except String α) (get : Options → α)
    (put : Options → α → Options) : Prop where
  set_eq : ∀ o j, o.set key j = (decode j).map (put o)
  spells : ∀ p j, p.Spells key j ↔ decode j = .ok (get p)
  same : ∀ p q, p.SameAt q key ↔ get p = get q
  get_put : ∀ o a, get (put o a) = a
  /-- All other settings stay as they are. -/
  others : ∀ o a other, other ≠ key → (put o a).SameAt o other

/-- Every key decodes into one place of the options and leaves the others alone. -/
theorem exists_isSlot (key : Key) : ∃ (α : Type) (decode : Json → Except String α)
    (get : Options → α) (put : Options → α → Options), IsSlot key decode get put := by
  cases key with
  | directory =>
    exact ⟨_, decodeText, directory, fun o s => { o with directory := s }, fun _ _ => rfl,
      fun _ _ => decodeText_eq_ok.symm, fun _ _ => Iff.rfl, fun _ _ => rfl,
      fun _ _ other ho => by cases other <;> simp [SameAt] at ho ⊢⟩
  | level =>
    exact ⟨_, decodeLevel, level, fun o level => { o with level }, fun _ _ => rfl,
      fun _ _ => decodeLevel_eq_ok.symm, fun _ _ => Iff.rfl, fun _ _ => rfl,
      fun _ _ other ho => by cases other <;> simp [SameAt] at ho ⊢⟩
  | format =>
    exact ⟨_, decodeFormat, format, fun o format => { o with format }, fun _ _ => rfl,
      fun _ _ => decodeFormat_eq_ok.symm, fun _ _ => Iff.rfl, fun _ _ => rfl,
      fun _ _ other ho => by cases other <;> simp [SameAt] at ho ⊢⟩
  | maxFiles =>
    exact ⟨_, decodeCount, maxFiles, fun o maxFiles => { o with maxFiles }, fun _ _ => rfl,
      fun _ _ => decodeCount_eq_ok.symm, fun _ _ => Iff.rfl, fun _ _ => rfl,
      fun _ _ other ho => by cases other <;> simp [SameAt] at ho ⊢⟩
  | toStdout =>
    exact ⟨_, decodeFlag, toStdout, fun o toStdout => { o with toStdout }, fun _ _ => rfl,
      fun _ _ => decodeFlag_eq_ok.symm, fun _ _ => Iff.rfl, fun _ _ => rfl,
      fun _ _ other ho => by cases other <;> simp [SameAt] at ho ⊢⟩

/-- Setting one value changes nothing else. -/
theorem set_eq_ok : o.set key j = .ok p ↔
    p.Spells key j ∧ ∀ other, other ≠ key → p.SameAt o other := by
  obtain ⟨α, decode, get, put, h⟩ := exists_isSlot key
  rw [h.set_eq, h.spells]
  constructor
  · intro hset
    cases hd : decode j with
    | error cause =>
      rw [hd] at hset
      cases hset
    | ok a =>
      rw [hd] at hset
      cases hset
      exact ⟨by rw [h.get_put], h.others o a⟩
  · rintro ⟨hd, hrest⟩
    have hp : put o (get p) = p := by
      apply eq_of_sameAt
      intro other
      by_cases ho : other = key
      · subst ho
        exact (h.same _ _).mpr (h.get_put _ _)
      · exact (h.others o _ other ho).trans (hrest other ho).symm
    rw [hd, Except.map, hp]

/-- Settings that one value stands for under a key are the same there. -/
theorem Spells.unique (hp : p.Spells key j) (hq : q.Spells key j) : p.SameAt q key := by
  obtain ⟨α, decode, get, put, h⟩ := exists_isSlot key
  rw [h.spells] at hp hq
  exact (h.same p q).mpr (Except.ok.inj (hp.symm.trans hq))

def Acceptable (key : Key) (j : Json) : Prop := ∃ o : Options, o.Spells key j

theorem acceptable_format_iff :
    Acceptable .format j ↔ ∃ s ∈ ["", "json", "text"], j = .text s := by
  constructor
  · rintro ⟨o, rfl | ⟨-, rfl⟩⟩
    · cases o.format <;> exact ⟨_, by decide, rfl⟩
    · exact ⟨_, by decide, rfl⟩
  · simp only [List.mem_cons, List.not_mem_nil, or_false]
    rintro ⟨s, rfl | rfl | rfl, rfl⟩
    · exact ⟨{}, Or.inr ⟨rfl, rfl⟩⟩
    · exact ⟨{ format := .json }, Or.inl rfl⟩
    · exact ⟨{}, Or.inl rfl⟩

/-- Whether a value is taken does not depend on the settings so far. -/
theorem exists_set_eq_ok : (∃ p, o.set key j = .ok p) ↔ Acceptable key j := by
  constructor
  · rintro ⟨p, hp⟩
    exact ⟨p, (set_eq_ok.mp hp).1⟩
  · rintro ⟨q, hq⟩
    obtain ⟨α, decode, get, put, h⟩ := exists_isSlot key
    rw [h.spells] at hq
    rw [h.set_eq, hq]
    exact ⟨_, rfl⟩

theorem Key.ofName?_eq_some : Key.ofName? name = some key ↔ key.name = name := by
  constructor
  · intro h
    have hname := List.find?_some h
    exact beq_iff_eq.mp hname
  · rintro rfl
    cases key <;> rfl

theorem Key.name_inj : key.name = other.name ↔ key = other := by
  constructor
  · intro h
    have hkey : Key.ofName? key.name = some key := Key.ofName?_eq_some.mpr rfl
    exact Option.some.inj (hkey.symm.trans (Key.ofName?_eq_some.mpr h.symm))
  · rintro rfl
    rfl

def Once (members : List (String × Json)) : Prop :=
  ∀ key : Key, (members.map Prod.fst).count key.name ≤ 1

/-- Settings that have what the members give and are otherwise like others. -/
structure Overlays (base : Options) (members : List (String × Json)) (o : Options) : Prop where
  given : ∀ key j, (key.name, j) ∈ members → o.Spells key j
  left : ∀ key, key.name ∉ members.map Prod.fst → o.SameAt base key

theorem Once.tail {member : String × Json} (h : Once (member :: members)) : Once members := by
  intro key
  exact Nat.le_trans (List.count_le_count_cons ..) (h key)

theorem Once.head (h : Once ((key.name, j) :: members)) : key.name ∉ members.map Prod.fst := by
  intro hmem
  have honce := h key
  rw [List.map_cons, List.count_cons_self] at honce
  have hpos := List.count_pos_iff.mpr hmem
  omega

/-- A member with an unknown name is passed over. -/
theorem overlays_cons_of_unknown (hname : Key.ofName? name = none) :
    Overlays o ((name, j) :: members) p ↔ Overlays o members p := by
  have hne : ∀ key : Key, key.name ≠ name := by
    intro key h
    rw [Key.ofName?_eq_some.mpr h] at hname
    cases hname
  constructor
  · intro h
    refine ⟨fun key k hk => h.given key k (List.mem_cons_of_mem _ hk), fun key hkey => ?_⟩
    apply h.left key
    simp only [List.map_cons, List.mem_cons, hne key, hkey, or_self, not_false_eq_true]
  · intro h
    refine ⟨fun key k hk => ?_, fun key hkey => ?_⟩
    · rcases List.mem_cons.mp hk with heq | hk
      · exact absurd (Prod.mk.inj heq).1 (hne key)
      · exact h.given key k hk
    · exact h.left key fun hk => hkey (List.mem_cons_of_mem _ hk)

/-- A setting that is given once may be put in its place before the others. -/
theorem overlays_cons (hq : o.set key j = .ok q) (hnew : key.name ∉ members.map Prod.fst) :
    Overlays o ((key.name, j) :: members) p ↔ Overlays q members p := by
  obtain ⟨hspells, hrest⟩ := set_eq_ok.mp hq
  constructor
  · intro h
    refine ⟨fun other k hk => h.given other k (List.mem_cons_of_mem _ hk), fun other ho => ?_⟩
    by_cases hkey : other = key
    · -- No later member gives it again, so that it is left as it was set.
      subst hkey
      exact (h.given other j List.mem_cons_self).unique hspells
    · refine (h.left other ?_).trans (hrest other hkey).symm
      simp only [List.map_cons, List.mem_cons, Key.name_inj, hkey, ho, or_self, not_false_eq_true]
  · intro h
    refine ⟨fun other k hk => ?_, fun other ho => ?_⟩
    · rcases List.mem_cons.mp hk with heq | hk
      · obtain ⟨hname, rfl⟩ := Prod.mk.inj heq
        obtain rfl := Key.name_inj.mp hname
        exact hspells.congr (h.left other hnew)
      · exact h.given other k hk
    · simp only [List.map_cons, List.mem_cons, not_or, Key.name_inj] at ho
      exact (h.left other ho.2).trans (hrest other ho.1)

theorem setMembers_cons :
    o.setMembers ((key.name, j) :: members) = o.set key j >>= fun q => q.setMembers members := by
  rw [setMembers, Key.ofName?_eq_some.mpr rfl]

/-- Members that give no setting twice are read as what overlays the settings so far. -/
theorem setMembers_eq_ok (honce : Once members) :
    o.setMembers members = .ok p ↔ Overlays o members p := by
  -- The settings so far are the base for the members that remain.
  induction members generalizing o with
  | nil =>
    constructor
    · intro h
      cases h
      exact ⟨fun _ _ h => absurd h List.not_mem_nil, fun _ _ => SameAt.refl ..⟩
    · intro h
      rw [eq_of_sameAt fun key => h.left key List.not_mem_nil]
      rfl
  | cons member rest ih =>
    obtain ⟨name, j⟩ := member
    cases hname : Key.ofName? name with
    | none => rw [setMembers, hname, overlays_cons_of_unknown hname, ih honce.tail]
    | some key =>
      obtain rfl := Key.ofName?_eq_some.mp hname
      rw [setMembers_cons]
      cases hset : o.set key j with
      | ok q =>
        rw [overlays_cons hset honce.head]
        exact ih honce.tail
      | error cause =>
        refine iff_of_false (fun h => nomatch h) fun h => ?_
        obtain ⟨q, hq⟩ := (exists_set_eq_ok (o := o)).mpr ⟨p, h.given key j List.mem_cons_self⟩
        cases hset.symm.trans hq

theorem Overlays.perm {others : List (String × Json)} (horder : members.Perm others)
    (h : Overlays o members p) : Overlays o others p :=
  ⟨fun key j hj => h.given key j (horder.mem_iff.mpr hj),
    fun key hkey => h.left key fun hk => hkey ((horder.map _).mem_iff.mp hk)⟩

theorem Once.perm {others : List (String × Json)} (horder : members.Perm others)
    (h : Once members) : Once others := by
  intro key
  rw [← (horder.map _).count_eq]
  exact h key

/-- Members that can all be read overlay any settings. -/
theorem exists_overlays (honce : Once members)
    (h : ∀ key j, (key.name, j) ∈ members → Acceptable key j) : ∃ p, Overlays o members p := by
  induction members generalizing o with
  | nil => exact ⟨o, (setMembers_eq_ok honce).mp rfl⟩
  | cons member rest ih =>
    have hrest : ∀ key j, (key.name, j) ∈ rest → Acceptable key j :=
      fun key k hk => h key k (List.mem_cons_of_mem _ hk)
    obtain ⟨name, j⟩ := member
    cases hname : Key.ofName? name with
    | none =>
      obtain ⟨p, hp⟩ := ih (o := o) honce.tail hrest
      exact ⟨p, (overlays_cons_of_unknown hname).mpr hp⟩
    | some key =>
      obtain rfl := Key.ofName?_eq_some.mp hname
      obtain ⟨q, hq⟩ := (exists_set_eq_ok (o := o)).mpr (h key j List.mem_cons_self)
      obtain ⟨p, hp⟩ := ih (o := q) honce.tail hrest
      exact ⟨p, (overlays_cons hq honce.head).mpr hp⟩

theorem ofJson_object_eq_ok (honce : Once members) :
    ofJson (.object members) = .ok o ↔ Overlays {} members o :=
  setMembers_eq_ok honce

/-- A format without a name may as well be left out. -/
theorem overlays_of_unnamed_format (honce : Once ((Key.format.name, .text "") :: members)) :
    Overlays {} ((Key.format.name, .text "") :: members) o ↔ Overlays {} members o :=
  overlays_cons rfl honce.head

theorem setItems_eq_setMembers {keys : List Key} {items : List Json} :
    o.setItems keys items = o.setMembers ((keys.map Key.name).zip items) := by
  induction keys generalizing o items with
  | nil => rfl
  | cons key keys ih =>
    cases items with
    | nil => rfl
    | cons j rest =>
      rw [setItems, List.map_cons, List.zip_cons_cons, setMembers_cons]
      exact bind_congr fun q => ih

/-- Items give the first settings, and there are no more of them than settings. -/
theorem ofJson_array_eq_ok {items : List Json} : ofJson (.array items) = .ok o ↔
    items.length ≤ 5 ∧ ofJson (.object ((Key.all.map Key.name).zip items)) = .ok o := by
  have hread : ofJson (.object ((Key.all.map Key.name).zip items)) = setItems {} Key.all items :=
    setItems_eq_setMembers.symm
  have hall : Key.all.length = 5 := rfl
  rw [hread]
  simp only [ofJson, hall]
  cases setItems {} Key.all items with
  | error cause => simp [bind, Except.bind]
  | ok q =>
    by_cases hlen : items.length ≤ 5
    · simp [bind, Except.bind, hlen, Nat.not_lt.mpr hlen, pure, Except.pure]
    · simp [bind, Except.bind, hlen, Nat.not_le.mp hlen, throw, throwThe, MonadExceptOf.throw]

theorem ofJson_toJson (o : Options) : ofJson o.toJson = .ok o := by
  rw [toJson, ofJson_object_eq_ok]
  · refine ⟨fun key j hj => ?_, fun key hkey => ?_⟩
    · cases key <;> simp [Key.name] at hj <;> simp [Spells, hj]
    · cases key <;> simp [Key.name] at hkey
  · have hnames : ∀ key : Key, (Key.all.map Key.name).count key.name ≤ 1 := by
      intro key
      cases key <;> decide
    exact hnames

/-- Settings are read back from their own JSON form. An object gives the defaults overlaid with the
settings that it gives, in whatever order and whatever else is in it, as long as each of them can be
read; a format without a name may as well be left out. An array gives the first settings in the
order of their keys. -/
theorem decoded_as_overlay :
    (∀ o : Options, ofJson o.toJson = .ok o) ∧
    (∀ j, Acceptable .format j ↔ ∃ s ∈ ["", "json", "text"], j = .text s) ∧
    (∀ members, Once members →
      ((∃ o, ofJson (.object members) = .ok o) ↔
        ∀ key j, (key.name, j) ∈ members → Acceptable key j) ∧
      (∀ o, ofJson (.object members) = .ok o ↔ Overlays {} members o) ∧
      ∀ others, members.Perm (("log_format", .text "") :: others) →
        ∀ o, ofJson (.object members) = .ok o ↔ ofJson (.object others) = .ok o) ∧
    ∀ items o, ofJson (.array items) = .ok o ↔ items.length ≤ 5 ∧
      ofJson (.object (["dir", "level", "log_format", "max_log_files", "append_stdout"].zip
        items)) = .ok o := by
  refine ⟨ofJson_toJson, fun j => acceptable_format_iff, fun members honce =>
    ⟨⟨fun ⟨o, ho⟩ key j hj => ?_, fun h => ?_⟩, fun o => ofJson_object_eq_ok honce,
      fun others horder o => ?_⟩, fun items o => ofJson_array_eq_ok⟩
  · exact ⟨o, ((ofJson_object_eq_ok honce).mp ho).given key j hj⟩
  · obtain ⟨o, ho⟩ := exists_overlays (o := {}) honce h
    exact ⟨o, (ofJson_object_eq_ok honce).mpr ho⟩
  · have hsplit := honce.perm horder
    rw [ofJson_object_eq_ok honce, ofJson_object_eq_ok hsplit.tail]
    rw [← overlays_of_unnamed_format hsplit]
    exact ⟨Overlays.perm horder, Overlays.perm horder.symm⟩

/-- An object with a key of no setting, and an array of three items. -/
theorem decoded_as_overlay_shapes :
    ofJson (.object [("log_format", .text ""), ("colour", .boolean true), ("level", .text ""),
      ("max_log_files", .integer 7)]) = .ok { level := some "", maxFiles := 7 } ∧
    ofJson (.array [.text "logs", .null, .text "json"]) =
      .ok { directory := "logs", format := .json } := by
  obtain ⟨-, -, hobject, harray⟩ := decoded_as_overlay
  constructor
  · refine ((hobject _ fun key => by cases key <;> decide).2.1 _).mpr
      ⟨fun key j hj => ?_, fun key hkey => ?_⟩
    · cases key <;> simp [Key.name] at hj <;> simp [Spells, hj]
    · cases key <;> simp [Key.name] at hkey <;> rfl
  · refine (harray _ _).mpr ⟨by decide, ((hobject _ fun key => by cases key <;> decide).2.1 _).mpr
      ⟨fun key j hj => ?_, fun key hkey => ?_⟩⟩
    · cases key <;> simp [Key.name] at hj <;> simp [Spells, hj, Format.name]
    · cases key <;> simp [Key.name] at hkey <;> rfl

end Retrieval.Log.Options
