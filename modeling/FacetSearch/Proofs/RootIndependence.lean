import FacetSearch.Proofs.PropertyGrammar
import FacetSearch.Proofs.StringMapOrder

/-!
# Independence of roots

What a root stands for is told by the properties whose keys belong to it. Every key belongs to one
root, so property maps without a common root do not interfere: the plan of their union interleaves
their plans in the order of the roots, and it fails exactly when one of them does.
-/

namespace FacetSearch

/-! ## Roots -/

namespace Properties

/-- The properties of both maps; one of the second replaces one of the first with the same key. -/
def union (properties others : Properties) : Properties :=
  .ofList (properties.entries ++ others.entries)

/-- The property maps have the same properties of the root. -/
def AgreeOn (root : String) (properties others : Properties) : Prop :=
  ∀ key, HasRoot key root → properties.get? key = others.get? key

variable {properties others : Properties} {root : String}

theorem get?_union (properties others : Properties) (key : String) :
    (properties.union others).get? key = (others.get? key).or (properties.get? key) := by
  have hfound (map : Properties) :
      ((map.entries.filter fun entry ↦ entry.1 = key).getLast?).map Prod.snd = map.get? key := by
    rw [← StringMap.get?_ofList, StringMap.ofList_entries]
  rw [union, StringMap.get?_ofList, List.filter_append, List.getLast?_append, Option.map_or,
    hfound, hfound]

theorem existsUnique_hasRoot (key : String) : ∃! root, HasRoot key root := by
  refine ⟨rootOf key, rootOf_eq_iff.mp rfl, ?_⟩
  intro root hroot
  exact (rootOf_eq_iff.mpr hroot).symm

instance : Decidable (properties.Declares root) :=
  decidable_of_iff (root ∈ properties.roots) mem_roots_iff

/-- Only the empty key has the empty root. -/
theorem Declares.ne_empty (h : properties.Declares root) (hempty : properties.get? "" = none) :
    root ≠ "" := by
  rintro rfl
  obtain ⟨key, value, hvalue, hroot⟩ := h
  cases hroot with
  | suffixed suffix hroot => exact hroot rfl
  | bare => simp [hempty] at hvalue

theorem declares_union :
    (properties.union others).Declares root ↔ properties.Declares root ∨ others.Declares root := by
  constructor
  · rintro ⟨key, value, hvalue, hroot⟩
    rw [get?_union] at hvalue
    rcases Option.or_eq_some_iff.mp hvalue with hvalue | ⟨-, hvalue⟩
    · exact .inr ⟨key, value, hvalue, hroot⟩
    · exact .inl ⟨key, value, hvalue, hroot⟩
  · rintro (⟨key, value, hvalue, hroot⟩ | ⟨key, value, hvalue, hroot⟩)
    · have hfound : (properties.union others).get? key = some ((others.get? key).getD value) := by
        rw [get?_union, hvalue]
        cases others.get? key <;> rfl
      exact ⟨key, _, hfound, hroot⟩
    · have hfound : (properties.union others).get? key = some value := by
        rw [get?_union, hvalue]
        rfl
      exact ⟨key, value, hfound, hroot⟩

theorem get?_of_not_declares (h : ¬properties.Declares root) {key : String}
    (hkey : HasRoot key root) : properties.get? key = none := by
  rw [Option.eq_none_iff_forall_ne_some]
  exact fun value hvalue ↦ h ⟨key, value, hvalue, hkey⟩

theorem agreeOn_union_left (h : ¬others.Declares root) :
    AgreeOn root (properties.union others) properties := by
  intro key hkey
  rw [get?_union, get?_of_not_declares h hkey]
  rfl

theorem agreeOn_union_right (h : ¬properties.Declares root) :
    AgreeOn root (properties.union others) others := by
  intro key hkey
  rw [get?_union, get?_of_not_declares h hkey]
  cases others.get? key <;> rfl

/-- What is set about a root belongs to it. -/
theorem AgreeOn.get_eq (h : AgreeOn root properties others) (hroot : root ≠ "")
    (suffix : Suffix) : properties.get root suffix = others.get root suffix :=
  h _ (.suffixed suffix hroot)

/-- The roots of a part stand in the same order among those of the whole. -/
theorem filter_roots (h : ∀ root, properties.Declares root → others.Declares root) :
    others.roots.filter (fun root ↦ properties.Declares root) = properties.roots := by
  have hascending (properties : Properties) : properties.roots.Pairwise (· < ·) :=
    (StringSet.ofList _).ascending
  have hnodup {roots : List String} (hroots : roots.Pairwise (· < ·)) : roots.Nodup :=
    hroots.imp String.ne_of_lt
  have hfilter := (hascending others).filter fun root ↦ decide (properties.Declares root)
  have hmem (root : String) :
      root ∈ others.roots.filter (fun root ↦ properties.Declares root) ↔
        root ∈ properties.roots := by
    rw [List.mem_filter, mem_roots_iff, mem_roots_iff, decide_eq_true_eq]
    exact ⟨And.right, fun hroot ↦ ⟨h root hroot, hroot⟩⟩
  have hperm := (List.perm_ext_iff_of_nodup (hnodup hfilter) (hnodup (hascending _))).mpr hmem
  exact hperm.eq_of_pairwise (fun _ _ _ _ hlt hgt ↦ absurd hgt (String.lt_asymm hlt)) hfilter
    (hascending _)

end Properties

/-! ## Plans -/

namespace Planner

open Properties (AgreeOn HasRoot)

variable (planner : Planner) {properties others : Properties} {root : String}

/-- Nothing else is read for a root than the properties whose keys belong to it. -/
theorem planRoot_congr (nested : NestedPlans) (hroot : root ≠ "")
    (h : AgreeOn root properties others) :
    planner.planRoot nested properties root = planner.planRoot nested others root := by
  have hget := h.get_eq hroot
  have htypes : types properties root = types others root := by simp only [types, hget]
  have haliases : aliases properties root = aliases others root := by
    simp only [aliases, htypes, hget]
  have hplanType : planner.planType nested properties root =
      planner.planType nested others root := by
    funext pair
    simp only [planType, isLocalized, intervals, hget]
  rw [planRoot, planRoot, htypes, haliases, hplanType]

theorem faulty_congr (hroot : root ≠ "") (h : AgreeOn root properties others) :
    properties.Faulty root ↔ others.Faulty root := by
  -- The faults do not depend on the planner.
  have planner : Planner := ⟨[], 0⟩
  rw [← (planner.planRoot_settles properties root).error_iff,
    ← (planner.planRoot_settles others root).error_iff, planner.planRoot_congr _ hroot h]

theorem rootEntries_congr (hroot : root ≠ "") (h : AgreeOn root properties others)
    (hsound : ¬others.Faulty root) :
    planner.rootEntries properties root = planner.rootEntries others root := by
  have hproperties := (planner.planRoot_settles properties root).ok_of
    (mt (faulty_congr hroot h).mp hsound)
  have hothers := (planner.planRoot_settles others root).ok_of hsound
  rw [planner.planRoot_congr _ hroot h, hothers] at hproperties
  exact (Except.ok.inj hproperties).symm

/-- The plan of a part of a property map that has all properties of its roots. -/
theorem plan_part {part whole : Properties} (hempty : part.get? "" = none)
    (hpart : ∀ root, part.Declares root → whole.Declares root ∧ AgreeOn root whole part)
    (hsound : ∀ root ∈ whole.roots, ¬whole.Faulty root) :
    planner.plan part =
      .ok ((whole.roots.filter fun root ↦ part.Declares root).flatMap
        (planner.rootEntries whole)) := by
  have hroots := Properties.filter_roots fun root hroot ↦ (hpart root hroot).1
  have hpartsound : ∀ root ∈ part.roots, ¬part.Faulty root := by
    intro root hmem
    have hroot := Properties.mem_roots_iff.mp hmem
    obtain ⟨hwhole, hagree⟩ := hpart root hroot
    rw [← faulty_congr (hroot.ne_empty hempty) hagree]
    exact hsound root (Properties.mem_roots_iff.mpr hwhole)
  have hplan : planner.plan part = .ok (part.roots.flatMap (planner.rootEntries part)) :=
    (planner.plan_settles part).ok_of fun ⟨root, hmem, hfaulty⟩ ↦ hpartsound root hmem hfaulty
  rw [hplan, hroots]
  congr 1
  apply List.flatMap_congr
  intro root hmem
  have hroot := Properties.mem_roots_iff.mp hmem
  exact (planner.rootEntries_congr (hroot.ne_empty hempty) (hpart root hroot).2
    (hpartsound root hmem)).symm

section Union

variable {P Q : Properties} (hdisjoint : ∀ root, ¬(P.Declares root ∧ Q.Declares root))
include hdisjoint

theorem left_part {root : String} (hroot : P.Declares root) :
    (P.union Q).Declares root ∧ AgreeOn root (P.union Q) P :=
  ⟨Properties.declares_union.mpr (.inl hroot),
    Properties.agreeOn_union_left fun hother ↦ hdisjoint root ⟨hroot, hother⟩⟩

theorem right_part {root : String} (hroot : Q.Declares root) :
    (P.union Q).Declares root ∧ AgreeOn root (P.union Q) Q :=
  ⟨Properties.declares_union.mpr (.inr hroot),
    Properties.agreeOn_union_right fun hother ↦ hdisjoint root ⟨hother, hroot⟩⟩

/-- A root at fault is at fault where it is from. -/
theorem exists_faulty_union_iff (hP : P.get? "" = none) (hQ : Q.get? "" = none) :
    (∃ root ∈ (P.union Q).roots, (P.union Q).Faulty root) ↔
      (∃ root ∈ P.roots, P.Faulty root) ∨ ∃ root ∈ Q.roots, Q.Faulty root := by
  have hleft {root : String} (hroot : P.Declares root) :
      (P.union Q).Faulty root ↔ P.Faulty root :=
    faulty_congr (hroot.ne_empty hP) (left_part hdisjoint hroot).2
  have hright {root : String} (hroot : Q.Declares root) :
      (P.union Q).Faulty root ↔ Q.Faulty root :=
    faulty_congr (hroot.ne_empty hQ) (right_part hdisjoint hroot).2
  simp only [Properties.mem_roots_iff, Properties.declares_union]
  constructor
  · rintro ⟨root, hroot | hroot, hfaulty⟩
    · exact .inl ⟨root, hroot, (hleft hroot).mp hfaulty⟩
    · exact .inr ⟨root, hroot, (hright hroot).mp hfaulty⟩
  · rintro (⟨root, hroot, hfaulty⟩ | ⟨root, hroot, hfaulty⟩)
    · exact ⟨root, .inl hroot, (hleft hroot).mpr hfaulty⟩
    · exact ⟨root, .inr hroot, (hright hroot).mpr hfaulty⟩

/-- Property maps without a common root are planned independently. The plan of their union fails if
one of theirs does, and only then; it is made of one block for each root, in the order of the octets
of the roots, and the blocks of the roots of either map are the plan of that map. Every key has one
root, and no other keys have an influence on the block of a root. -/
theorem plan_union (hP : P.get? "" = none) (hQ : Q.get? "" = none) :
    ((∃ fault, planner.plan (P.union Q) = .error fault) ↔
      (∃ fault, planner.plan P = .error fault) ∨ ∃ fault, planner.plan Q = .error fault) ∧
    (∀ plan, planner.plan (P.union Q) = .ok plan →
      ∃ (roots : List String) (block : String → Plan),
        roots.Pairwise (fun a b ↦ Utf8.encode a.toList < Utf8.encode b.toList) ∧
        (∀ root, root ∈ roots ↔ P.Declares root ∨ Q.Declares root) ∧
        (∀ root ∈ roots, planner.planRoot (fun _ ↦ none) (P.union Q) root = .ok (block root)) ∧
        plan = roots.flatMap block ∧
        planner.plan P = .ok ((roots.filter fun root ↦ P.Declares root).flatMap block) ∧
        planner.plan Q = .ok ((roots.filter fun root ↦ Q.Declares root).flatMap block)) ∧
    (∀ key, ∃! root, HasRoot key root) ∧
    ∀ root, root ≠ "" → ∀ properties others : Properties,
      (∀ key, HasRoot key root → properties.get? key = others.get? key) →
        planner.planRoot (fun _ ↦ none) properties root =
          planner.planRoot (fun _ ↦ none) others root := by
  have hunion := planner.plan_settles (P.union Q)
  refine ⟨?failure, ?blocks, Properties.existsUnique_hasRoot, ?locality⟩
  case failure =>
    rw [hunion.error_iff, (planner.plan_settles P).error_iff, (planner.plan_settles Q).error_iff]
    exact exists_faulty_union_iff hdisjoint hP hQ
  case blocks =>
    intro plan hplan
    have hsound : ¬∃ root ∈ (P.union Q).roots, (P.union Q).Faulty root := by
      rw [← hunion.error_iff]
      rintro ⟨fault, hfault⟩
      rw [hplan] at hfault
      cases hfault
    have hrootsound : ∀ root ∈ (P.union Q).roots, ¬(P.union Q).Faulty root :=
      fun root hmem hfaulty ↦ hsound ⟨root, hmem, hfaulty⟩
    refine ⟨(P.union Q).roots, planner.rootEntries (P.union Q), (P.union Q).roots_ascending,
      fun root ↦ Properties.mem_roots_iff.trans Properties.declares_union, ?_, ?_, ?_, ?_⟩
    · exact fun root hmem ↦ (planner.planRoot_settles _ root).ok_of (hrootsound root hmem)
    · exact Except.ok.inj (hplan.symm.trans (hunion.ok_of hsound))
    · exact planner.plan_part hP (fun root ↦ left_part hdisjoint) hrootsound
    · exact planner.plan_part hQ (fun root ↦ right_part hdisjoint) hrootsound
  case locality => exact fun root hroot properties others ↦ planner.planRoot_congr _ hroot

end Union

/-- A root that has a suffix of its own is a root of its own. -/
theorem plan_union_of_suffixed_root :
    let planner : Planner := ⟨[], -1⟩
    let P : Properties := .ofList [("a", ""), ("a.alias", "first"), ("b", "")]
    let Q : Properties := .ofList [("a.type.type", "stats"), ("a.type.alias", "second")]
    (∀ root, ¬(P.Declares root ∧ Q.Declares root)) ∧ P.get? "" = none ∧ Q.get? "" = none ∧
      ((planner.plan (P.union Q)).map Plan.names = .ok ["first", "second", "b"]) ∧
      ∃ (roots : List String) (block : String → Plan),
        (∀ root, root ∈ roots ↔ P.Declares root ∨ Q.Declares root) ∧
        planner.plan P = .ok ((roots.filter fun root ↦ P.Declares root).flatMap block) ∧
        planner.plan Q = .ok ((roots.filter fun root ↦ Q.Declares root).flatMap block) := by
  intro planner P Q
  have hP : P.roots = ["a", "b"] := by decide +kernel
  have hQ : Q.roots = ["a.type"] := by decide +kernel
  have hdisjoint : ∀ root, ¬(P.Declares root ∧ Q.Declares root) := by
    intro root
    rw [← Properties.mem_roots_iff, ← Properties.mem_roots_iff, hP, hQ]
    rintro ⟨hleft, hright⟩
    rw [List.mem_singleton.mp hright] at hleft
    simp at hleft
  have hnames : (planner.plan (P.union Q)).map Plan.names = .ok ["first", "second", "b"] := by
    decide +kernel
  have hemptyP : P.get? "" = none := by decide +kernel
  have hemptyQ : Q.get? "" = none := by decide +kernel
  refine ⟨hdisjoint, hemptyP, hemptyQ, hnames, ?_⟩
  obtain ⟨-, hblocks, -⟩ := planner.plan_union hdisjoint hemptyP hemptyQ
  cases hplan : planner.plan (P.union Q) with
  | error fault =>
    rw [hplan] at hnames
    cases hnames
  | ok plan =>
    obtain ⟨roots, block, -, hroots, -, -, hleft, hright⟩ := hblocks plan hplan
    exact ⟨roots, block, hroots, hleft, hright⟩

end Planner

end FacetSearch
