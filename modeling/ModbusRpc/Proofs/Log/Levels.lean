import Mathlib
import ModbusRpc.Log.Setup

/-! # Levels by name

Any text may be given for the name of a level. In upper case it is looked up in a table that holds
much more than levels, but few names without a small letter. Two of these are taken by something
else, which is refused as a level; all other names stand for the default.
-/

namespace ModbusRpc

/-! ### Upper case -/

def IsAscii (cs : List Char) : Prop := ∀ c ∈ cs, c.toNat < 128

instance : DecidablePred IsAscii := fun cs =>
  decidable_of_iff (cs.all fun c => c.toNat < 128) (by simp [IsAscii])

/-- A full mapping to upper case. All its images that are ASCII are those of `upperCase`. -/
def IsUpperCase (upper : Char → List Char) : Prop :=
  ∀ c, IsAscii (upper c) ∨ IsAscii (upperCase c) → upper c = upperCase c

theorem isLower_eq_false_of_mem_upperCase {c d : Char} (h : d ∈ upperCase c) :
    d.isLower = false := by
  have hall : (upperCase c).all (fun d => !d.isLower) = true := by
    unfold upperCase
    split
    -- the last case is that of all characters that are not listed
    case h_11 =>
      rw [List.all_cons, Char.isLower_toUpper_eq_false]
      rfl
    all_goals decide
  exact (Bool.not_eq_true' _).mp (List.all_eq_true.mp hall d h)

/-- Halves of surrogate pairs have no case. -/
def CodePoint.upper (upper : Char → List Char) : CodePoint → Text
  | scalar c => (upper c).map scalar
  | surrogate half => [surrogate half]

def Text.upper (upper : Char → List Char) (t : Text) : Text := t.flatMap (CodePoint.upper upper)

variable {upper : Char → List Char} {t level : Text} {cs : List Char} {s : String}

theorem Text.upper_eq_map_scalar_iff (hu : IsUpperCase upper) (h : IsAscii cs) :
    t.upper upper = cs.map .scalar ↔
      ∃ ds : List Char, t = ds.map .scalar ∧ ds.flatMap upperCase = cs := by
  constructor
  · intro he
    -- with each code point goes its image, a front part of the name
    induction t generalizing cs with
    | nil =>
      obtain rfl := List.map_eq_nil_iff.mp he.symm
      exact ⟨[], rfl, rfl⟩
    | cons p t ih =>
      obtain ⟨as, bs, rfl, ha, hb⟩ := List.append_eq_map_iff.mp (List.flatMap_cons.symm.trans he)
      obtain ⟨ds, rfl, rfl⟩ := ih (fun c hc => h c (List.mem_append_right _ hc)) hb.symm
      cases p with
      | surrogate half =>
        cases as with
        | nil => cases ha
        | cons a as => cases ha
      | scalar c =>
        obtain rfl := List.map_injective_iff.mpr (fun _ _ => CodePoint.scalar.inj) ha
        refine ⟨c :: ds, rfl, ?_⟩
        rw [List.flatMap_cons, hu c (.inl fun d hd => h d (List.mem_append_left _ hd))]
  · rintro ⟨ds, rfl, rfl⟩
    induction ds with
    | nil => rfl
    | cons d ds ih =>
      have hd : upper d = upperCase d :=
        hu d (.inr fun c hc => h c (List.mem_append_left _ hc))
      have hr := ih fun c hc => h c (List.mem_append_right _ hc)
      unfold Text.upper at hr ⊢
      rw [List.map_cons, List.flatMap_cons, hr, List.flatMap_cons, List.map_append,
        CodePoint.upper, hd]

/-- An ASCII name is met in upper case exactly by the texts that `upperText` turns into it. -/
theorem Text.upper_eq_ofString_iff (hu : IsUpperCase upper) (h : IsAscii s.toList) :
    t.upper upper = ofString s ↔ t.toString?.map upperText = some s := by
  rw [ofString, upper_eq_map_scalar_iff hu h, toString?, Option.map_map, Option.map_eq_some_iff]
  refine exists_congr fun ds => and_congr chars?_eq_some_iff.symm ?_
  rw [Function.comp_apply, upperText, String.toList_ofList, ← String.toList_inj,
    String.toList_ofList]

theorem Text.getD_upperText_ne (hu : IsUpperCase upper) (h : IsAscii s.toList) (hs : s ≠ "")
    (hne : t.upper upper ≠ ofString s) : (t.toString?.map upperText).getD "" ≠ s := by
  intro he
  cases hg : t.toString?.map upperText with
  | none => exact hs (by rw [← he, hg, Option.getD_none])
  | some s' =>
    rw [hg, Option.getD_some] at he
    exact hne ((upper_eq_ofString_iff hu h).mpr (he ▸ hg))

theorem Text.upper_ne_of_isLower (hu : IsUpperCase upper) (h : IsAscii s.toList) {c : Char}
    (hc : c ∈ s.toList) (hl : c.isLower) : t.upper upper ≠ ofString s := by
  intro he
  obtain ⟨ds, -, hs⟩ := (upper_eq_map_scalar_iff hu h).mp he
  obtain ⟨d, -, hd⟩ := List.mem_flatMap.mp (hs ▸ hc)
  rw [isLower_eq_false_of_mem_upperCase hd] at hl
  cases hl

/-! ### The table -/

def LevelFault.name : LevelFault → String
  | layout => "BASIC_FORMAT"
  | styles => "_STYLES"

/-- What a name in upper case stands for: a level, something else, or the default. -/
inductive StandsFor (name : Text) : Except LevelFault Nat → Prop where
  | level {p : String × Nat} (hp : p ∈ levelNames) (h : name = Text.ofString p.1) :
    StandsFor name (.ok p.2)
  | fault (fault : LevelFault) (h : name = Text.ofString fault.name) :
    StandsFor name (.error fault)
  | unknown (h : ∀ p ∈ levelNames, name ≠ Text.ofString p.1)
    (hf : ∀ fault : LevelFault, name ≠ Text.ofString fault.name) :
    StandsFor name (.ok defaultThreshold)

/-- A table in which names of levels are looked up. Whatever is no level has with it the words in
which it is refused as one. -/
structure IsLevelTable (table : Text → Option (Except String Nat)) : Prop where
  level : ∀ p ∈ levelNames, table (Text.ofString p.1) = some (.ok p.2)
  fault : ∀ fault : LevelFault, table fault.name = some (.error fault.message)
  other : ∀ name found, table name = some found →
    (∃ p ∈ levelNames, name = Text.ofString p.1) ∨
    (∃ fault : LevelFault, name = Text.ofString fault.name) ∨
    ∃ s : String, name = Text.ofString s ∧ IsAscii s.toList ∧ ∃ c ∈ s.toList, c.isLower

variable {table : Text → Option (Except String Nat)} {r : Except LevelFault Nat}

theorem exists_standsFor (name : Text) : ∃ r, StandsFor name r := by
  by_cases h : ∃ p ∈ levelNames, name = Text.ofString p.1
  · obtain ⟨p, hp, h⟩ := h
    exact ⟨_, .level hp h⟩
  by_cases hf : ∃ fault : LevelFault, name = Text.ofString fault.name
  · obtain ⟨fault, h⟩ := hf
    exact ⟨_, .fault fault h⟩
  exact ⟨_, .unknown (fun p hp hn => h ⟨p, hp, hn⟩) fun fault hn => hf ⟨fault, hn⟩⟩

theorem LevelFault.isAscii_name (fault : LevelFault) : IsAscii fault.name.toList := by
  cases fault <;> decide

namespace StandsFor

theorem levelThreshold_eq (hu : IsUpperCase upper) (h : StandsFor (level.upper upper) r) :
    levelThreshold level = r := by
  have hlevels : ∀ p ∈ levelNames, IsAscii p.1.toList ∧ p.1 ≠ "" ∧ p.1 ≠ "BASIC_FORMAT" ∧
    p.1 ≠ "_STYLES" ∧ levelNames.lookup p.1 = some p.2 := by decide
  unfold levelThreshold
  cases h with
  | @level p hp h =>
    obtain ⟨ha, -, hb, hs, hl⟩ := hlevels p hp
    rw [(Text.upper_eq_ofString_iff hu ha).mp h]
    exact (if_neg hb).trans ((if_neg hs).trans (by rw [Option.getD_some, hl, Option.getD_some]))
  | fault fault h =>
    rw [(Text.upper_eq_ofString_iff hu fault.isAscii_name).mp h]
    cases fault <;> rfl
  | unknown h hf =>
    have hb := Text.getD_upperText_ne hu LevelFault.layout.isAscii_name nofun (hf .layout)
    have hs := Text.getD_upperText_ne hu LevelFault.styles.isAscii_name nofun (hf .styles)
    have hl : levelNames.lookup ((level.toString?.map upperText).getD "") = none := by
      refine List.lookup_eq_none_iff.mpr fun p hp => bne_iff_ne.mpr ?_
      obtain ⟨ha, hn, -⟩ := hlevels p hp
      exact Text.getD_upperText_ne hu ha hn (h p hp)
    exact (if_neg hb).trans ((if_neg hs).trans (by rw [hl, Option.getD_none]))

theorem lookup_eq (hu : IsUpperCase upper) (ht : IsLevelTable table)
    (h : StandsFor (level.upper upper) r) :
    (table (level.upper upper)).getD (.ok defaultThreshold) =
      r.mapError LevelFault.message := by
  cases h with
  | level hp h =>
    rw [h, ht.level _ hp]
    rfl
  | fault fault h =>
    rw [h, ht.fault fault]
    rfl
  | unknown h hf =>
    have hnone : table (level.upper upper) = none := by
      refine Option.eq_none_iff_forall_ne_some.mpr fun found hfound => ?_
      rcases ht.other _ found hfound with ⟨p, hp, hn⟩ | ⟨fault, hn⟩ | ⟨s, hn, ha, c, hc, hl⟩
      · exact h p hp hn
      · exact hf fault hn
      · exact Text.upper_ne_of_isLower hu ha hc hl hn
    rw [hnone]
    rfl

end StandsFor

namespace Log

variable {l : Log}

theorem setup_of_levelThreshold (hl : l.ready = false) (h : levelThreshold level = r) :
    l.setup level = (⟨true, r.toOption.getD l.threshold⟩, r.map fun _ => ()) := by
  unfold setup
  rw [hl, h]
  cases r <;> rfl

/-- A log that is set up at a name has the level of that name, whatever its case, or the default if
the name is unknown. But two names stand for no level: with these the log is ready at the threshold
it had, and the setup is refused in the words for what was found. -/
theorem setup_level (hu : IsUpperCase upper) (ht : IsLevelTable table) (l : Log)
    (hl : l.ready = false) (level : Text) :
    (∀ p ∈ levelNames, level.upper upper = Text.ofString p.1 →
      l.setup level = (⟨true, p.2⟩, .ok ())) ∧
    (∀ fault : LevelFault, level.upper upper = Text.ofString fault.name →
      l.setup level = (⟨true, l.threshold⟩, .error fault)) ∧
    ((∀ p ∈ levelNames, level.upper upper ≠ Text.ofString p.1) →
      (∀ fault : LevelFault, level.upper upper ≠ Text.ofString fault.name) →
      l.setup level = (⟨true, Severity.info.number⟩, .ok ())) ∧
    let found := (table (level.upper upper)).getD (.ok Severity.info.number)
    (l.setup level).1 = ⟨true, found.toOption.getD l.threshold⟩ ∧
      (l.setup level).2.mapError LevelFault.message = found.map fun _ => () := by
  have hsetup : ∀ r, StandsFor (level.upper upper) r →
      l.setup level = (⟨true, r.toOption.getD l.threshold⟩, r.map fun _ => ()) :=
    fun r hr => setup_of_levelThreshold hl (hr.levelThreshold_eq hu)
  refine ⟨fun p hp h => hsetup _ (.level hp h), fun fault h => hsetup _ (.fault fault h),
    fun h hf => hsetup _ (.unknown h hf), ?_⟩
  obtain ⟨r, hr⟩ := exists_standsFor (level.upper upper)
  have hfound : (table (level.upper upper)).getD (.ok Severity.info.number) =
    r.mapError LevelFault.message := hr.lookup_eq hu ht
  rw [hsetup r hr, hfound]
  cases r <;> exact ⟨rfl, rfl⟩

/-- A dotless i has the capital of an i. The letter n with an apostrophe has two characters in upper
case, and so there is no level by that name. -/
theorem setup_level_cases :
    let upper (c : Char) := if c = 'ŉ' then ['ʼ', 'N'] else upperCase c
    let taken : List (Text × Except String Nat) :=
      ("Logger", .error "Level not an integer or a valid string: <class 'logging.Logger'>") ::
      ("BASIC_FORMAT", .error LevelFault.layout.message) ::
      ("_STYLES", .error LevelFault.styles.message) ::
      levelNames.map fun p => (Text.ofString p.1, .ok p.2)
    let table (name : Text) := taken.lookup name
    IsUpperCase upper ∧ IsLevelTable table ∧ ({} : Log).ready = false ∧
      setup {} "crıtıcal" = (⟨true, 50⟩, .ok ()) ∧
      setup {} "basıc_format" = (⟨true, 20⟩, .error .layout) ∧
      setup {} "ŉotset" = (⟨true, 20⟩, .ok ()) := by
  intro upper taken table
  have hu : IsUpperCase upper := by
    intro c hc
    by_cases h : c = 'ŉ'
    · subst h
      revert hc
      decide
    · exact if_neg h
  have ht : IsLevelTable table := by
    refine ⟨?_, fun fault => ?_, fun name found h => ?_⟩
    · decide
    · cases fault <;> rfl
    · obtain ⟨l₁, l₂, hl, -⟩ := List.lookup_eq_some_iff.mp h
      have hm : (name, found) ∈ taken := hl ▸ List.mem_append_right _ (List.mem_cons_self ..)
      rcases List.mem_cons.mp hm with hm | hm
      · exact .inr (.inr ⟨"Logger", congrArg Prod.fst hm, by decide, 'o', by decide, by decide⟩)
      rcases List.mem_cons.mp hm with hm | hm
      · exact .inr (.inl ⟨.layout, congrArg Prod.fst hm⟩)
      rcases List.mem_cons.mp hm with hm | hm
      · exact .inr (.inl ⟨.styles, congrArg Prod.fst hm⟩)
      obtain ⟨p, hp, hm⟩ := List.mem_map.mp hm
      exact .inl ⟨p, hp, congrArg Prod.fst hm.symm⟩
  have hcall := setup_level hu ht {} rfl
  refine ⟨hu, ht, rfl, (hcall "crıtıcal").1 ("CRITICAL", 50) (by decide) (by decide),
    (hcall "basıc_format").2.1 .layout (by decide), (hcall "ŉotset").2.2.1 (by decide) ?_⟩
  intro fault
  cases fault <;> decide

/-- The name of a layout is no more a level than any unknown name, but it is refused. -/
theorem setup_layout : ¬ ∀ level : Text, (setup {} level).2 = .ok () := by
  intro h
  have hl := h "BASIC_FORMAT"
  revert hl
  decide

end Log

end ModbusRpc
