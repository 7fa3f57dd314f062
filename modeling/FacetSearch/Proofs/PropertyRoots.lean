import FacetSearch.Aggregation.Properties
import FacetSearch.Proofs.OctetOrder
import FacetSearch.Proofs.StringMapLookup

/-!
# Roots of properties

A key ends in at most one of the suffixes, so it has exactly one root: what stands before the suffix
and its dot, or the whole key where nothing would be left. The roots of a property map are listed
once each, in the order of their octets.
-/

namespace FacetSearch.Properties

/-- The root that a key belongs to. -/
inductive HasRoot : String → String → Prop
  /-- The key is a root with a suffix. -/
  | suffixed {root : String} (suffix : Suffix) (hroot : root ≠ "") :
      HasRoot (root ++ "." ++ suffix.text) root
  /-- The key is no root with a suffix. -/
  | bare {key : String}
      (hbare : ∀ root suffix, root ≠ "" → key ≠ root ++ "." ++ Suffix.text suffix) :
      HasRoot key key

/-- Some key belongs to the root. -/
def Declares (properties : Properties) (root : String) : Prop :=
  ∃ key value, properties.get? key = some value ∧ HasRoot key root

theorem toList_suffixed (root : String) (suffix : Suffix) :
    (root ++ "." ++ suffix.text).toList = root.toList ++ '.' :: suffix.text.toList := by
  simp [String.toList_append]

theorem withoutSuffix_eq_some_iff {key root : String} {suffix : Suffix} :
    withoutSuffix key suffix = some root ↔ root ≠ "" ∧ key = root ++ "." ++ suffix.text := by
  have hkey : key = root ++ "." ++ suffix.text ↔
      key.toList.reverse = ('.' :: suffix.text.toList).reverse ++ root.toList.reverse := by
    rw [← String.toList_inj, toList_suffixed, ← List.reverse_append, List.reverse_inj]
  rw [withoutSuffix, hkey]
  constructor
  · intro hsome
    split at hsome
    · next hends =>
      rw [Bool.and_eq_true, List.isPrefixOf_iff_prefix, decide_eq_true_eq] at hends
      obtain ⟨⟨front, hfront⟩, hlength⟩ := hends
      rw [← hfront, List.drop_left] at hsome
      obtain rfl := Option.some.inj hsome
      refine ⟨?_, by rw [← hfront, String.toList_ofList, List.reverse_reverse]⟩
      intro hempty
      have hnil : front = [] := by simpa [String.ext_iff] using hempty
      simp [← hfront, hnil] at hlength
    · cases hsome
  · rintro ⟨hroot, hreversed⟩
    have hnonempty : root.toList ≠ [] := fun hnil ↦ hroot (String.toList_eq_nil_iff.mp hnil)
    have hlength : 0 < root.toList.length := List.length_pos_iff.mpr hnonempty
    rw [hreversed, if_pos, List.drop_left, List.reverse_reverse, String.ofList_toList]
    rw [Bool.and_eq_true, List.isPrefixOf_iff_prefix, decide_eq_true_eq]
    exact ⟨List.prefix_append _ _, by simp [hlength]⟩

/-- The last letters of a key tell which suffix it has. -/
theorem suffix_unique {root other : String} {suffix others : Suffix}
    (h : root ++ "." ++ suffix.text = other ++ "." ++ others.text) : suffix = others := by
  have hreversed := congrArg (fun key ↦ key.toList.reverse) h
  simp only [toList_suffixed, List.reverse_append, List.reverse_cons] at hreversed
  cases suffix <;> cases others <;> simp [Suffix.text] at hreversed ⊢

theorem withoutSuffix_eq_none {root : String} {suffix other : Suffix} (hother : suffix ≠ other) :
    withoutSuffix (root ++ "." ++ suffix.text) other = none := by
  rw [Option.eq_none_iff_forall_ne_some]
  intro rest hrest
  exact hother (suffix_unique (withoutSuffix_eq_some_iff.mp hrest).2)

theorem rootOf_suffixed {root : String} (suffix : Suffix) (hroot : root ≠ "") :
    rootOf (root ++ "." ++ suffix.text) = root := by
  have hown : withoutSuffix (root ++ "." ++ suffix.text) suffix = some root :=
    withoutSuffix_eq_some_iff.mpr ⟨hroot, rfl⟩
  have hothers (other : Suffix) (hother : suffix ≠ other) :
      withoutSuffix (root ++ "." ++ suffix.text) other = none := withoutSuffix_eq_none hother
  cases suffix <;> simp [rootOf, hown, hothers]

theorem rootOf_bare {key : String}
    (hbare : ∀ root suffix, root ≠ "" → key ≠ root ++ "." ++ Suffix.text suffix) :
    rootOf key = key := by
  have hnone (suffix : Suffix) : withoutSuffix key suffix = none := by
    rw [Option.eq_none_iff_forall_ne_some]
    intro root hroot
    obtain ⟨hnonempty, hkey⟩ := withoutSuffix_eq_some_iff.mp hroot
    exact hbare root suffix hnonempty hkey
  simp [rootOf, hnone]

/-- Every key has one root. -/
theorem rootOf_eq_iff {key root : String} : rootOf key = root ↔ HasRoot key root := by
  constructor
  · rintro rfl
    by_cases hsuffixed : ∃ root suffix, root ≠ "" ∧ key = root ++ "." ++ Suffix.text suffix
    · obtain ⟨root, suffix, hroot, rfl⟩ := hsuffixed
      rw [rootOf_suffixed suffix hroot]
      exact .suffixed suffix hroot
    · have hbare : ∀ root suffix, root ≠ "" → key ≠ root ++ "." ++ Suffix.text suffix :=
        fun root suffix hroot hkey ↦ hsuffixed ⟨root, suffix, hroot, hkey⟩
      rw [rootOf_bare hbare]
      exact .bare hbare
  · rintro (⟨suffix, hroot⟩ | hbare)
    · exact rootOf_suffixed suffix hroot
    · exact rootOf_bare hbare

theorem mem_roots_iff {properties : Properties} {root : String} :
    root ∈ properties.roots ↔ properties.Declares root := by
  rw [roots, StringSet.mem_ofList, List.mem_map]
  constructor
  · rintro ⟨key, hkey, hroot⟩
    obtain ⟨value, hvalue⟩ := StringMap.mem_keys_iff.mp hkey
    exact ⟨key, value, hvalue, rootOf_eq_iff.mp hroot⟩
  · rintro ⟨key, value, hvalue, hroot⟩
    exact ⟨key, StringMap.mem_keys_iff.mpr ⟨value, hvalue⟩, rootOf_eq_iff.mpr hroot⟩

/-- The roots are listed in the order of their octets. -/
theorem roots_ascending (properties : Properties) :
    properties.roots.Pairwise fun a b ↦ Utf8.encode a.toList < Utf8.encode b.toList := by
  have hascending : properties.roots.Pairwise (· < ·) := (StringSet.ofList _).ascending
  exact hascending.imp Utf8.encode_toList_lt_iff.mpr

end FacetSearch.Properties
