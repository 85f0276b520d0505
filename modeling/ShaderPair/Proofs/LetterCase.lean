import Mathlib.Data.List.Forall2
import Mathlib.Data.List.Nodup
import ShaderPair.Semantic

/-! Letter case. Texts agree when they have the same characters in the same places, up to the case of ASCII
letters. A canonical spelling is the name of a matrix uniform or a text without capitals that agrees with no such
name. The main statement says that a semantic is given the one canonical spelling it agrees with, so that two
semantics are spelled alike exactly when they agree. -/

namespace ShaderPair

namespace Text

def IsCapital (c : Char) : Prop := 0x41 ≤ c.toNat ∧ c.toNat ≤ 0x5A

instance (c : Char) : Decidable (IsCapital c) := inferInstanceAs (Decidable (_ ∧ _))

/-- A capital and the small letter 32 codes after it. -/
def AreCases (capital small : Char) : Prop := IsCapital capital ∧ small.toNat = capital.toNat + 32

instance (capital small : Char) : Decidable (AreCases capital small) := inferInstanceAs (Decidable (_ ∧ _))

def SameLetter (c d : Char) : Prop := c = d ∨ AreCases c d ∨ AreCases d c

instance (c d : Char) : Decidable (SameLetter c d) := inferInstanceAs (Decidable (_ ∨ _))

def AgreeUpToCase (first second : Text) : Prop := List.Forall₂ SameLetter first second

instance (first second : Text) : Decidable (AgreeUpToCase first second) :=
  inferInstanceAs (Decidable (List.Forall₂ _ _ _))

/-! Lower case by codes. -/

theorem toNat_toLower (c : Char) : c.toLower.toNat = if IsCapital c then c.toNat + 32 else c.toNat := by
  have capital : (c.val ≥ 'A'.val ∧ c.val ≤ 'Z'.val) ↔ IsCapital c := by
    simp only [ge_iff_le, UInt32.le_iff_toNat_le]
    rfl
  unfold Char.toLower
  by_cases upper : IsCapital c
  · rw [dif_pos (capital.mpr upper), if_pos upper]
    change (c.val + 32).toNat = c.val.toNat + 32
    have bound : c.val.toNat ≤ 0x5A := upper.2
    rw [UInt32.toNat_add]
    change (c.val.toNat + 32) % 2 ^ 32 = c.val.toNat + 32
    omega
  · rw [dif_neg (mt capital.mp upper), if_neg upper]

theorem toLower_eq_toLower {c d : Char} : c.toLower = d.toLower ↔ SameLetter c d := by
  rw [← Char.toNat_inj, toNat_toLower, toNat_toLower, SameLetter, ← Char.toNat_inj]
  -- Whether each of the two is a capital leaves a statement about their codes.
  split <;> split <;> simp only [AreCases, IsCapital] at * <;> omega

theorem toLower_eq_self {c : Char} (plain : ¬IsCapital c) : c.toLower = c := by
  rw [← Char.toNat_inj, toNat_toLower, if_neg plain]

theorem not_isCapital_toLower (c : Char) : ¬IsCapital c.toLower := by
  rw [IsCapital, toNat_toLower]
  split <;> simp only [IsCapital] at * <;> omega

theorem lower_eq_lower {first second : Text} : lower first = lower second ↔ AgreeUpToCase first second := by
  rw [lower, lower, ← List.forall₂_eq_eq_eq, List.forall₂_map_left_iff, List.forall₂_map_right_iff]
  simp only [toLower_eq_toLower]
  rfl

theorem lower_eq_self {text : Text} (small : ∀ c ∈ text, ¬IsCapital c) : lower text = text := by
  calc lower text = text.map id := List.map_congr_left fun c inside => toLower_eq_self (small c inside)
    _ = text := List.map_id text

theorem small_lower (text : Text) : ∀ c ∈ lower text, ¬IsCapital c := by
  intro c inside
  obtain ⟨given, _, rfl⟩ := List.mem_map.mp inside
  exact not_isCapital_toLower given

theorem sameLetters_iff {first second : Text} :
    sameLetters first second = true ↔ AgreeUpToCase first second := by
  rw [sameLetters, beq_iff_eq, lower_eq_lower]

theorem AgreeUpToCase.symm {first second : Text} (agree : AgreeUpToCase first second) :
    AgreeUpToCase second first :=
  lower_eq_lower.mp (lower_eq_lower.mpr agree).symm

theorem AgreeUpToCase.trans {first second third : Text} (agree : AgreeUpToCase first second)
    (further : AgreeUpToCase second third) : AgreeUpToCase first third :=
  lower_eq_lower.mp ((lower_eq_lower.mpr agree).trans (lower_eq_lower.mpr further))

theorem AgreeUpToCase.exists_sameLetter {first second : Text} (agree : AgreeUpToCase first second) {c : Char}
    (inside : c ∈ first) : ∃ d ∈ second, SameLetter c d := by
  induction agree with
  | nil => cases inside
  | @cons head beside _ _ same _ ih =>
    rcases List.mem_cons.mp inside with rfl | later
    · exact ⟨beside, List.mem_cons_self, same⟩
    · obtain ⟨d, member, found⟩ := ih later
      exact ⟨d, List.mem_cons_of_mem beside member, found⟩

end Text

namespace Semantic

open Text

/-- A spelling that a semantic can be given: capitals stand only in names of matrix uniforms. -/
def IsCanonical (spelling : Text) : Prop :=
  spelling ∈ matrixNames ∨
    (∀ c ∈ spelling, ¬IsCapital c) ∧ ∀ name ∈ matrixNames, ¬AgreeUpToCase name spelling

theorem canonical_cases (semantic : Text) :
    (canonical semantic ∈ matrixNames ∧ AgreeUpToCase (canonical semantic) semantic) ∨
      (canonical semantic = lower semantic ∧ ∀ name ∈ matrixNames, ¬AgreeUpToCase name semantic) := by
  unfold canonical
  cases found : matrixNames.find? fun name => lower name == lower semantic with
  | some name =>
    have same : lower name = lower semantic := by simpa using List.find?_some found
    exact .inl ⟨List.mem_of_find?_eq_some found, lower_eq_lower.mp same⟩
  | none =>
    refine .inr ⟨rfl, ?_⟩
    intro name member agree
    have other := List.find?_eq_none.mp found name member
    exact other (beq_iff_eq.mpr (lower_eq_lower.mpr agree))

theorem agree_canonical (semantic : Text) : AgreeUpToCase (canonical semantic) semantic := by
  obtain ⟨_, agree⟩ | ⟨lowered, _⟩ := canonical_cases semantic
  · exact agree
  · rw [lowered, ← lower_eq_lower]
    exact lower_eq_self (small_lower semantic)

theorem isCanonical_canonical (semantic : Text) : IsCanonical (canonical semantic) := by
  obtain ⟨member, _⟩ | ⟨lowered, apart⟩ := canonical_cases semantic
  · exact .inl member
  · refine .inr ⟨lowered ▸ small_lower semantic, ?_⟩
    intro name member agree
    exact apart name member (agree.trans (agree_canonical semantic))

theorem IsCanonical.eq_of_agree {first second : Text} (left : IsCanonical first) (right : IsCanonical second)
    (agree : AgreeUpToCase first second) : first = second := by
  rcases left with named | ⟨small, apart⟩ <;> rcases right with otherNamed | ⟨otherSmall, otherApart⟩
  · have distinct : (matrixNames.map lower).Nodup := by decide +kernel
    exact List.inj_on_of_nodup_map distinct named otherNamed (lower_eq_lower.mpr agree)
  · exact absurd agree (otherApart first named)
  · exact absurd agree.symm (apart second otherNamed)
  · rw [← lower_eq_self small, ← lower_eq_self otherSmall, lower_eq_lower]
    exact agree

theorem canonical_eq_iff {semantic spelling : Text} :
    canonical semantic = spelling ↔ IsCanonical spelling ∧ AgreeUpToCase spelling semantic := by
  constructor
  · rintro rfl
    exact ⟨isCanonical_canonical semantic, agree_canonical semantic⟩
  · rintro ⟨spelled, agree⟩
    exact (isCanonical_canonical semantic).eq_of_agree spelled ((agree_canonical semantic).trans agree.symm)

theorem canonical_eq_canonical {first second : Text} :
    canonical first = canonical second ↔ AgreeUpToCase first second := by
  rw [canonical_eq_iff, and_iff_right (isCanonical_canonical second)]
  have same := agree_canonical second
  exact ⟨fun agree => (same.symm.trans agree).symm, fun agree => same.trans agree.symm⟩

/-- Each class of semantics that agree has one spelling, which belongs to the class and is its own: the name of a
matrix uniform where there is one in the class, else the text without capitals. -/
theorem canonical_one_per_class (first second : Text) :
    (canonical first = canonical second ↔ AgreeUpToCase first second) ∧
      AgreeUpToCase (canonical first) first ∧
      canonical (canonical first) = canonical first ∧
      (canonical first = second ↔ IsCanonical second ∧ AgreeUpToCase second first) := by
  refine ⟨canonical_eq_canonical, agree_canonical first, ?_, canonical_eq_iff⟩
  exact canonical_eq_canonical.mpr (agree_canonical first)

-- Case is that of ASCII: the accented letters are kept, and apart.
example : canonical "WORLDVIEW" = "worldView" ∧ canonical "COLORÉ" = "colorÉ" ∧
    ¬AgreeUpToCase "COLORÉ" "coloré" := by decide +kernel

end Semantic

end ShaderPair
