import ArrayScene.Text.LetterCase

/-!
# What lower case leaves as it is

No capital of the English alphabet is left in a text in lower case. An underscore, and each small
letter of that alphabet but one, comes from itself and its own capital only; the letter k is also
the lower-case form of the sign for kelvin. So a text in lower case is left as it is by lower case
where that gives plain letters.
-/
namespace ArrayScene.Text

/-- A capital of the English alphabet. -/
def IsCapital (c : Char) : Prop := 0x41 ≤ c.toNat ∧ c.toNat ≤ 0x5A

/-- A small letter of the English alphabet that no sign but its own capital becomes, or an
underscore. -/
def IsPlain (c : Char) : Prop :=
  (0x61 ≤ c.toNat ∧ c.toNat ≤ 0x7A ∧ c.toNat ≠ 0x6B) ∨ c.toNat = 0x5F

instance (c : Char) : Decidable (IsCapital c) :=
  inferInstanceAs (Decidable (_ ∧ _))

instance (c : Char) : Decidable (IsPlain c) :=
  inferInstanceAs (Decidable (_ ∨ _))

theorem caseRuns_image : ∀ run ∈ caseRuns,
    (0x7B : Int) ≤ run.first + run.shift ∨ run = ⟨0x41, 0x5A, 1, 32⟩ ∨
      (run.first = run.last ∧ (run.first : Int) + run.shift = 0x6B) := by
  decide +kernel

theorem caseRuns_source : ∀ run ∈ caseRuns, run = ⟨0x41, 0x5A, 1, 32⟩ ∨ 0x7B ≤ run.first := by
  decide +kernel

/-- A character stays as it is, and is then no capital, or a run takes it elsewhere. -/
theorem lowerChar_cases (c : Char) :
    (lowerChar c = c ∧ ¬IsCapital c) ∨
      ∃ run ∈ caseRuns, run.first ≤ c.toNat ∧ c.toNat ≤ run.last ∧
        lowerChar c = Char.ofNat (Int.toNat (c.toNat + run.shift)) := by
  unfold lowerChar
  cases found : caseRuns.findSome? (·.lower? c.toNat) with
  | none =>
    refine .inl ⟨rfl, fun ⟨above, below⟩ => ?_⟩
    have outside := List.findSome?_eq_none_iff.mp found ⟨0x41, 0x5A, 1, 32⟩ (by decide)
    simp [CaseRun.lower?, above, below, Nat.mod_one] at outside
  | some n =>
    obtain ⟨run, member, lowered⟩ := List.exists_of_findSome?_eq_some found
    unfold CaseRun.lower? at lowered
    split at lowered
    · next inside =>
      cases lowered
      exact .inr ⟨run, member, inside.1, inside.2.1, rfl⟩
    · cases lowered

theorem toNat_ofNat_eq (n : Nat) : (Char.ofNat n).toNat = n ∨ (Char.ofNat n).toNat = 0 := by
  by_cases valid : n.isValidChar
  · exact .inl (congrArg Char.toNat (dif_pos valid))
  · exact .inr (congrArg Char.toNat (dif_neg valid))

theorem not_isCapital_lowerChar (c : Char) : ¬IsCapital (lowerChar c) := by
  rcases lowerChar_cases c with ⟨same, small⟩ | ⟨run, member, above, below, moved⟩
  · rwa [same]
  · intro capital
    rw [moved] at capital
    unfold IsCapital at capital
    have place := toNat_ofNat_eq (Int.toNat (c.toNat + run.shift))
    rcases caseRuns_image run member with far | rfl | ⟨_, kelvin⟩
    · omega
    · dsimp only at above place capital
      omega
    · omega

/-- A plain letter comes from no other small character. -/
theorem eq_of_lowerChar_eq {c d : Char} (small : ¬IsCapital c) (plain : IsPlain d)
    (lowered : lowerChar c = d) : c = d := by
  rcases lowerChar_cases c with ⟨same, _⟩ | ⟨run, member, above, below, moved⟩
  · exact same.symm.trans lowered
  · exfalso
    have place := toNat_ofNat_eq (Int.toNat (c.toNat + run.shift))
    rw [← moved, lowered] at place
    unfold IsPlain at plain
    unfold IsCapital at small
    rcases caseRuns_image run member with far | rfl | ⟨single, kelvin⟩
    · omega
    · exact small ⟨above, below⟩
    · omega

theorem lowerChar_of_isPlain {c : Char} (plain : IsPlain c) : lowerChar c = c := by
  rcases lowerChar_cases c with ⟨same, _⟩ | ⟨run, member, above, below, _⟩
  · exact same
  · exfalso
    unfold IsPlain at plain
    rcases caseRuns_source run member with rfl | far
    · change c.toNat ≤ 0x5A at below
      omega
    · omega

theorem not_isCapital_of_mem_lowerAfter {before cs : List Char} {c : Char}
    (member : c ∈ lowerAfter before cs) : ¬IsCapital c := by
  induction cs generalizing before with
  | nil => cases member
  | cons d rest ih =>
    rw [lowerAfter, List.mem_append] at member
    rcases member with here | later
    · split at here
      · simp only [List.mem_cons, List.not_mem_nil, or_false] at here
        rcases here with rfl | rfl <;> decide
      · split at here
        · rw [List.mem_singleton] at here
          subst here
          split <;> decide
        · rw [List.mem_singleton] at here
          exact here ▸ not_isCapital_lowerChar d
    · exact ih later

/-- A text in lower case has no capital. -/
theorem not_isCapital_of_mem_lower {s : String} {c : Char} (member : c ∈ (lower s).toList) :
    ¬IsCapital c := by
  rw [lower, String.toList_ofList] at member
  exact not_isCapital_of_mem_lowerAfter member

theorem eq_of_lowerAfter_eq {before cs ds : List Char} (small : ∀ c ∈ cs, ¬IsCapital c)
    (plain : ∀ d ∈ ds, IsPlain d) (lowered : lowerAfter before cs = ds) : cs = ds := by
  induction cs generalizing before ds with
  | nil => exact lowered
  | cons c rest ih =>
    subst lowered
    rw [lowerAfter] at plain ⊢
    split at plain
    · exact absurd (plain (Char.ofNat 0x307) (by simp)) (by decide)
    · next dotted =>
      split at plain
      · next sigma =>
        apply absurd (plain _ (List.mem_cons_self ..))
        split <;> decide
      · next ordinary =>
        rw [if_neg dotted, if_neg ordinary]
        obtain ⟨first, others⟩ := List.forall_mem_cons.mp plain
        obtain ⟨small, smallRest⟩ := List.forall_mem_cons.mp small
        exact List.cons_eq_cons.mpr
          ⟨eq_of_lowerChar_eq small first rfl, ih smallRest others rfl⟩

theorem lowerAfter_of_isPlain {before cs : List Char} (plain : ∀ c ∈ cs, IsPlain c) :
    lowerAfter before cs = cs := by
  induction cs generalizing before with
  | nil => rfl
  | cons c rest ih =>
    obtain ⟨first, others⟩ := List.forall_mem_cons.mp plain
    have small : c.toNat ≤ 0x7A := by
      unfold IsPlain at first
      omega
    rw [lowerAfter, if_neg (by omega), if_neg (by omega), lowerChar_of_isPlain first, ih others]
    rfl

/-- Among texts without capitals only a plain text has itself as its lower-case form. -/
theorem lower_eq_iff {s word : String} (small : ∀ c ∈ s.toList, ¬IsCapital c)
    (plain : ∀ c ∈ word.toList, IsPlain c) : lower s = word ↔ s = word := by
  unfold lower
  constructor
  · intro lowered
    have same := congrArg String.toList lowered
    rw [String.toList_ofList] at same
    exact String.toList_inj.mp (eq_of_lowerAfter_eq small plain same)
  · rintro rfl
    rw [lowerAfter_of_isPlain plain, String.ofList_toList]

end ArrayScene.Text
