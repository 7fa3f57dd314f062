import FacetSearch.Text.LowerCase
import Mathlib.Tactic

/-!
# Texts in lower case

Every character that the conversion to lower case gives is one that it leaves as it is: the mappings
of no run lead to a character that is mapped itself. A text of such characters has no capital sigma,
so what stands around its characters does not matter, and it is its own lower-case form.
-/

namespace FacetSearch.Text

/-! ## Characters -/

namespace CaseRun

/-- Where the mapping of the run leads. -/
def target (run : CaseRun) (n : Nat) : Nat := n + run.up - run.down

/-- The mappings of a run lead past the other run, or both go on in steps of two and never meet. -/
def avoids (run other : CaseRun) : Bool :=
  (run.target run.last).blt other.first || other.last.blt (run.target run.first) ||
    (other.step == 2 && (run.step == 2 || run.first == run.last) && run.down.ble run.first &&
      (run.target run.first + other.first) % 2 == 1)

theorem not_contains_of_avoids {run other : CaseRun} (h : run.avoids other = true) {n : Nat}
    (hn : run.contains n = true) : other.contains (run.target n) = false := by
  simp only [contains, Bool.and_eq_true, decide_eq_true_eq, beq_iff_eq] at hn
  obtain ⟨⟨hfirst, hlast⟩, hstep⟩ := hn
  rw [Bool.eq_false_iff]
  simp only [ne_eq, contains, Bool.and_eq_true, decide_eq_true_eq, beq_iff_eq]
  rintro ⟨⟨hfrom, hto⟩, hother⟩
  simp only [avoids, target, Bool.or_eq_true, Bool.and_eq_true, Nat.blt_eq, Nat.ble_eq,
    beq_iff_eq] at h hfrom hto hother
  rcases h with (h | h) | ⟨⟨⟨htwo, hrun⟩, hdown⟩, hodd⟩
  · omega
  · omega
  · rw [htwo] at hother
    rcases hrun with hrun | hrun
    · rw [hrun] at hstep
      omega
    · omega

/-- The one character whose lower-case form is two characters. -/
def dottedCapital : CaseRun := ⟨0x130, 0x130, 1, 0, 0⟩

end CaseRun

theorem avoids_of_mem : lowerCaseRuns.all (fun run ↦ lowerCaseRuns.all run.avoids) = true := by
  decide +kernel

theorem targets_of_mem : ∀ run ∈ lowerCaseRuns, run.avoids .dottedCapital = true ∧
    (run.target run.last < 0xD800 ∨
      0xDFFF < run.target run.first ∧ run.target run.last < 0x110000) := by
  decide +kernel

/-- The conversion leaves the character as it is, wherever it stands. -/
def IsLower (c : Char) : Prop := lowerCaseChar c = [c]

instance : DecidablePred IsLower := fun c ↦ inferInstanceAs (Decidable (lowerCaseChar c = [c]))

theorem isLower_of_not_contains {c : Char} (hdotted : c.toNat ≠ 0x130)
    (hruns : ∀ run ∈ lowerCaseRuns, run.contains c.toNat = false) : IsLower c := by
  have hnone : (lowerCaseRuns.find? fun run ↦ run.contains c.toNat) = none := by
    rw [List.find?_eq_none]
    exact fun run hrun ↦ by simp [hruns run hrun]
  rw [IsLower, lowerCaseChar, if_neg hdotted, hnone]

theorem toNat_ofNat_target {run : CaseRun} (hrun : run ∈ lowerCaseRuns) {n : Nat}
    (hn : run.contains n = true) : (Char.ofNat (run.target n)).toNat = run.target n := by
  simp only [CaseRun.contains, Bool.and_eq_true, decide_eq_true_eq] at hn
  have hvalid : (run.target n).isValidChar := by
    have hbounds := (targets_of_mem run hrun).2
    simp only [CaseRun.target] at hbounds ⊢
    rcases hbounds with hlow | hhigh
    · exact .inl (by omega)
    · exact .inr (by omega)
  rw [Char.ofNat, dif_pos hvalid]
  rfl

/-- What a character becomes stays as it is. -/
theorem isLower_of_mem_lowerCaseChar {c d : Char} (hd : d ∈ lowerCaseChar c) : IsLower d := by
  rw [lowerCaseChar] at hd
  split at hd
  · have hletter : IsLower 'i' := by decide +kernel
    have hdot : IsLower (Char.ofNat 0x307) := by decide +kernel
    rcases List.mem_pair.mp hd with rfl | rfl
    · exact hletter
    · exact hdot
  next hdotted =>
  split at hd
  · next hnone =>
    obtain rfl := List.mem_singleton.mp hd
    rw [List.find?_eq_none] at hnone
    exact isLower_of_not_contains hdotted fun run hrun ↦ by simpa using hnone run hrun
  · next run hfound =>
    have hrun := List.mem_of_find?_eq_some hfound
    have hc := List.find?_some hfound
    have htarget : d.toNat = run.target c.toNat := by
      rw [List.mem_singleton.mp hd]
      exact toNat_ofNat_target hrun hc
    refine isLower_of_not_contains ?_ fun other hother ↦ ?_
    · intro heq
      have hpast := CaseRun.not_contains_of_avoids (targets_of_mem run hrun).1 hc
      rw [← htarget, heq] at hpast
      exact absurd hpast (by decide)
    · have havoids := List.all_eq_true.mp (List.all_eq_true.mp avoids_of_mem run hrun) other hother
      rw [htarget]
      exact CaseRun.not_contains_of_avoids havoids hc

/-! ## Texts -/

theorem isLower_of_mem_lowerCaseAfter {before cs : List Char} {d : Char}
    (hd : d ∈ lowerCaseAfter before cs) : IsLower d := by
  induction cs generalizing before with
  | nil => simp [lowerCaseAfter] at hd
  | cons c rest ih =>
    rcases List.mem_append.mp hd with hd | hd
    · split at hd
      · obtain rfl := List.mem_singleton.mp hd
        decide +kernel
      · exact isLower_of_mem_lowerCaseChar hd
    · exact ih hd

theorem isLower_of_mem_lowerCase {cs : List Char} {d : Char} (hd : d ∈ lowerCase cs) : IsLower d :=
  isLower_of_mem_lowerCaseAfter hd

theorem lowerCaseAfter_eq_self {before cs : List Char} (hcs : ∀ c ∈ cs, IsLower c) :
    lowerCaseAfter before cs = cs := by
  induction cs generalizing before with
  | nil => rfl
  | cons c rest ih =>
    obtain ⟨hc, hrest⟩ := List.forall_mem_cons.mp hcs
    have hsigma : c ≠ capitalSigma := by
      rintro rfl
      exact absurd hc (by decide +kernel)
    rw [lowerCaseAfter, if_neg (fun hfinal ↦ hsigma hfinal.1), hc, ih hrest, List.singleton_append]

/-- A text is in lower case just if each of its characters is. -/
theorem lowerCase_eq_self_iff {cs : List Char} : lowerCase cs = cs ↔ ∀ c ∈ cs, IsLower c := by
  constructor
  · intro heq c hc
    rw [← heq] at hc
    exact isLower_of_mem_lowerCase hc
  · exact lowerCaseAfter_eq_self

end FacetSearch.Text
