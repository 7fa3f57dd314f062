import FacetSearch.Source
import FacetSearch.Proofs.JsonValues
import FacetSearch.Proofs.OctetOrder
import Mathlib.Data.Set.Function

/-!
# Texts of sources

Names lead from a source through nested objects to its members. A flattened source has the texts of
these members, each under its names with dots between them. Where the dotted names of members
coincide, the last member in the order of the names counts; names without dots never coincide.
-/

namespace FacetSearch

namespace Json

mutual

/-- The strings, numbers and booleans of a value, in order. An array has those of its elements, and
an object has none. -/
def atoms : Json → List Json
  | .null => []
  | .obj _ => []
  | .str s => [.str s]
  | .bool b => [.bool b]
  | .num n => [.num n]
  | .arr elements => atomsOfElements elements

def atomsOfElements : List Json → List Json
  | [] => []
  | element :: rest => atoms element ++ atomsOfElements rest

end

/-- A string stands for itself, and any other value for its JSON text. -/
def plainText : Json → String
  | .str s => s
  | other => other.compact

/-- The texts with single spaces between them, if there are any. -/
def joined : List String → Option String
  | [] => none
  | texts => some (" ".intercalate texts)

/-- The text of a value that has any strings, numbers or booleans. -/
def text? (value : Json) : Option String := joined (value.atoms.map plainText)

theorem joined_of_ne_nil {texts : List String} (hne : texts ≠ []) :
    joined texts = some (" ".intercalate texts) := by
  obtain ⟨first, rest, rfl⟩ := List.exists_cons_of_ne_nil hne
  rfl

theorem joined_eq_none_iff {texts : List String} : joined texts = none ↔ texts = [] := by
  cases texts <;> simp [joined]

@[simp] theorem joined_toList (text? : Option String) : joined text?.toList = text? := by
  cases text? <;> simp [joined]

/-- What is joined may have been joined in parts before. -/
theorem joined_append_congr {texts parts others pieces : List String}
    (hfirst : joined texts = joined parts) (hsecond : joined others = joined pieces) :
    joined (texts ++ others) = joined (parts ++ pieces) := by
  have hnil : texts = [] ↔ parts = [] := by
    rw [← joined_eq_none_iff, ← joined_eq_none_iff, hfirst]
  have hothers : others = [] ↔ pieces = [] := by
    rw [← joined_eq_none_iff, ← joined_eq_none_iff, hsecond]
  by_cases htexts : texts = []
  · rw [htexts, hnil.mp htexts, List.nil_append, List.nil_append, hsecond]
  by_cases hpieces : others = []
  · rw [hpieces, hothers.mp hpieces, List.append_nil, List.append_nil, hfirst]
  have hparts := mt hnil.mpr htexts
  have hrest := mt hothers.mpr hpieces
  rw [joined_of_ne_nil htexts, joined_of_ne_nil hparts, Option.some.injEq] at hfirst
  rw [joined_of_ne_nil hpieces, joined_of_ne_nil hrest, Option.some.injEq] at hsecond
  rw [joined_of_ne_nil (List.append_ne_nil_of_left_ne_nil htexts others),
    joined_of_ne_nil (List.append_ne_nil_of_left_ne_nil hparts pieces),
    String.intercalate_append_of_ne_nil htexts hpieces,
    String.intercalate_append_of_ne_nil hparts hrest, hfirst, hsecond]

end Json

namespace Source

open Json (atomsOfElements plainText joined)

/-! ## Texts of values -/

mutual

/-- Joining the texts of nested arrays first makes no difference. -/
theorem scalars_eq : (value : Json) → scalars value = value.text?.toList
  | .null | .obj _ => rfl
  | .str _ | .bool _ | .num _ => by simp [scalars, Json.text?, Json.atoms, joined, plainText]
  | .arr elements => by
    rw [Json.text?, Json.atoms, ← joined_scalarsOfElements elements, scalars]
    cases scalarsOfElements elements <;> rfl

theorem joined_scalarsOfElements : (elements : List Json) →
    joined (scalarsOfElements elements) = joined ((atomsOfElements elements).map plainText)
  | [] => rfl
  | element :: rest => by
    have helement : joined (scalars element) = joined (element.atoms.map plainText) := by
      rw [scalars_eq element, Json.joined_toList, Json.text?]
    rw [scalarsOfElements, atomsOfElements, List.map_append]
    exact Json.joined_append_congr helement (joined_scalarsOfElements rest)

end

/-! ## Ways to members -/

/-- The names lead through nested objects to a member with this value. -/
inductive Leads : Entries Json → List String → Json → Prop
  | member {members : Entries Json} {name : String} {value : Json} :
      (name, value) ∈ members → Leads members [name] value
  | within {members inner : Entries Json} {name : String} {names : List String} {value : Json} :
      (name, .obj inner) ∈ members → Leads inner names value → Leads members (name :: names) value

/-- The names lead to a member with this text. An object has none. -/
def Tells (members : Entries Json) (names : List String) (text : String) : Prop :=
  ∃ value, Leads members names value ∧ value.text? = some text

/-- The names with dots between them. -/
def dotted (names : List String) : String := ".".intercalate names

/-- Names are compared one after the other, each by its octets. -/
def Before (names others : List String) : Prop :=
  names.map (fun name ↦ Utf8.encode name.toList) < others.map fun name ↦ Utf8.encode name.toList

instance (names others : List String) : Decidable (Before names others) :=
  inferInstanceAs (Decidable (_ < _))

mutual

/-- The names and texts that are met in a value, object by object. -/
def ways : Json → List (List String × String)
  | .obj members => waysOfMembers members
  | other => other.text?.toList.map fun text ↦ ([], text)

def waysOfMembers : Entries Json → List (List String × String)
  | [] => []
  | (name, value) :: rest =>
    (ways value).map (fun way ↦ (name :: way.1, way.2)) ++ waysOfMembers rest

end

/-! ## What the ways are -/

theorem Leads.ne_nil {members : Entries Json} {names : List String} {value : Json}
    (h : Leads members names value) : names ≠ [] := by
  cases h <;> exact List.cons_ne_nil _ _

theorem not_leads_nil {names : List String} {value : Json} : ¬Leads [] names value := by
  rintro (hmember | ⟨hmember, -⟩) <;> cases hmember

theorem leads_cons_iff {name : String} {value : Json} {rest : Entries Json} {names : List String}
    {found : Json} :
    Leads ((name, value) :: rest) names found ↔
      (names = [name] ∧ found = value) ∨
      (∃ inner below, value = .obj inner ∧ names = name :: below ∧ Leads inner below found) ∨
      Leads rest names found := by
  constructor
  · rintro (hmember | ⟨hmember, hbelow⟩)
    · rcases List.mem_cons.mp hmember with heq | hrest
      · obtain ⟨rfl, rfl⟩ := Prod.mk.inj heq
        exact .inl ⟨rfl, rfl⟩
      · exact .inr (.inr (.member hrest))
    · rcases List.mem_cons.mp hmember with heq | hrest
      · obtain ⟨rfl, rfl⟩ := Prod.mk.inj heq
        exact .inr (.inl ⟨_, _, rfl, rfl, hbelow⟩)
      · exact .inr (.inr (.within hrest hbelow))
  · rintro (⟨rfl, rfl⟩ | ⟨inner, below, rfl, rfl, hbelow⟩ | hrest)
    · exact .member List.mem_cons_self
    · exact .within List.mem_cons_self hbelow
    · cases hrest with
      | member hmember => exact .member (List.mem_cons_of_mem _ hmember)
      | within hmember hbelow => exact .within (List.mem_cons_of_mem _ hmember) hbelow

theorem tells_cons_iff {name : String} {value : Json} {rest : Entries Json} {names : List String}
    {text : String} :
    Tells ((name, value) :: rest) names text ↔
      (names = [name] ∧ value.text? = some text) ∨
      (∃ inner below, value = .obj inner ∧ names = name :: below ∧ Tells inner below text) ∨
      Tells rest names text := by
  simp only [Tells, leads_cons_iff]
  constructor
  · rintro ⟨found, ⟨rfl, rfl⟩ | ⟨inner, below, rfl, rfl, hbelow⟩ | hrest, htext⟩
    · exact .inl ⟨rfl, htext⟩
    · exact .inr (.inl ⟨inner, below, rfl, rfl, found, hbelow, htext⟩)
    · exact .inr (.inr ⟨found, hrest, htext⟩)
  · rintro (⟨rfl, htext⟩ | ⟨inner, below, rfl, rfl, found, hbelow, htext⟩ | ⟨found, hrest, htext⟩)
    · exact ⟨value, .inl ⟨rfl, rfl⟩, htext⟩
    · exact ⟨found, .inr (.inl ⟨inner, below, rfl, rfl, hbelow⟩), htext⟩
    · exact ⟨found, .inr (.inr hrest), htext⟩

mutual

theorem mem_ways_iff : (value : Json) → {names : List String} → {text : String} →
    ((names, text) ∈ ways value ↔
      (names = [] ∧ value.text? = some text) ∨
        ∃ inner, value = .obj inner ∧ Tells inner names text)
  | .null, _, _ | .str _, _, _ | .bool _, _, _ | .num _, _, _ | .arr _, _, _ => by
    simp [ways, Option.mem_toList, and_comm, eq_comm]
  | .obj members, _, _ => by
    rw [ways, mem_waysOfMembers_iff members]
    simp [Json.text?, Json.atoms, joined]

theorem mem_waysOfMembers_iff : (members : Entries Json) → {names : List String} →
    {text : String} → ((names, text) ∈ waysOfMembers members ↔ Tells members names text)
  | [], _, _ => by
    simp only [waysOfMembers, List.not_mem_nil, false_iff]
    exact fun ⟨_, hleads, _⟩ ↦ not_leads_nil hleads
  | (name, value) :: rest, names, text => by
    rw [waysOfMembers, List.mem_append, mem_waysOfMembers_iff rest, tells_cons_iff, ← or_assoc]
    refine or_congr_left ?_
    simp only [List.mem_map, Prod.mk.injEq, Prod.exists, mem_ways_iff value]
    constructor
    · rintro ⟨below, found, (⟨rfl, htext⟩ | ⟨inner, rfl, hbelow⟩), rfl, rfl⟩
      · exact .inl ⟨rfl, htext⟩
      · exact .inr ⟨inner, below, rfl, rfl, hbelow⟩
    · rintro (⟨rfl, htext⟩ | ⟨inner, below, rfl, rfl, hbelow⟩)
      · exact ⟨[], text, .inl ⟨rfl, htext⟩, rfl, rfl⟩
      · exact ⟨below, text, .inr ⟨inner, rfl, hbelow⟩, rfl, rfl⟩

end

/-! ## Dotted names -/

theorem dotted_ne_empty {names : List String} (hne : names ≠ []) (hfilled : "" ∉ names) :
    dotted names ≠ "" := by
  obtain ⟨first, rest, rfl⟩ := List.exists_cons_of_ne_nil hne
  have hfirst : first ≠ "" := fun heq ↦ hfilled (heq ▸ List.mem_cons_self)
  by_cases hrest : rest = []
  · simpa [dotted, hrest] using hfirst
  · rw [dotted, String.intercalate_cons_of_ne_nil hrest]
    simp [hfirst]

/-- The path to a member is extended by its name, unless a name before it is empty. -/
theorem joinPath_dotted {before : List String} (hfilled : "" ∉ before) (name : String) :
    joinPath (dotted before) name = dotted (before ++ [name]) := by
  by_cases hbefore : before = []
  · simp [hbefore, dotted, joinPath]
  · have hpath := dotted_ne_empty hbefore hfilled
    rw [joinPath, if_neg (by simpa using hpath), dotted, dotted,
      String.intercalate_append_of_ne_nil hbefore (List.cons_ne_nil _ _),
      String.intercalate_singleton]

theorem toList_dotted (names : List String) :
    (dotted names).toList = ['.'].intercalate (names.map String.toList) := by
  rw [dotted, String.toList_intercalate]
  rfl

/-- Names without dots are found between the dots. -/
theorem dotted_injOn : Set.InjOn dotted
    {names | names ≠ [] ∧ ∀ name ∈ names, '.' ∉ name.toList} := by
  have hsplit {names : List String} (hne : names ≠ []) (hdots : ∀ name ∈ names, '.' ∉ name.toList) :
      (dotted names).toList.splitOn '.' = names.map String.toList := by
    rw [toList_dotted]
    exact List.splitOn_intercalate '.' (by simpa using hdots) (by simpa using hne)
  rintro names ⟨hne, hdots⟩ others ⟨hothers, hplain⟩ heq
  have hlists := hsplit hne hdots
  rw [heq, hsplit hothers hplain] at hlists
  exact (List.map_injective_iff.mpr fun _ _ ↦ String.toList_inj.mp) hlists.symm

/-! ## What is flattened -/

/-- No name on a way is empty. -/
def NamesFilled (members : Entries Json) : Prop :=
  ∀ names value, Leads members names value → "" ∉ names

theorem NamesFilled.head {name : String} {value : Json} {rest : Entries Json}
    (h : NamesFilled ((name, value) :: rest)) : name ≠ "" := by
  have hname := h [name] value (.member List.mem_cons_self)
  simpa [eq_comm] using hname

theorem NamesFilled.tail {name : String} {value : Json} {rest : Entries Json}
    (h : NamesFilled ((name, value) :: rest)) : NamesFilled rest :=
  fun names found hleads ↦ h names found (leads_cons_iff.mpr (.inr (.inr hleads)))

theorem NamesFilled.inner {name : String} {inner rest : Entries Json}
    (h : NamesFilled ((name, .obj inner) :: rest)) : NamesFilled inner := by
  intro names found hleads hempty
  exact h (name :: names) found (.within List.mem_cons_self hleads) (List.mem_cons_of_mem _ hempty)

mutual

theorem flattenMember_eq : (value : Json) → {before : List String} → "" ∉ before →
    (∀ inner, value = .obj inner → NamesFilled inner) →
    flattenMember (dotted before) value =
      (ways value).map fun way ↦ (dotted (before ++ way.1), way.2)
  | .null, _, _, _ => rfl
  | .str _, _, _, _ | .bool _, _, _, _ | .num _, _, _, _ | .arr _, _, _, _ => by
    simp [flattenMember, ways, scalars_eq]
  | .obj members, _, hbefore, hfilled => flattenMembers_eq members hbefore (hfilled members rfl)

theorem flattenMembers_eq : (members : Entries Json) → {before : List String} → "" ∉ before →
    NamesFilled members →
    flattenMembers (dotted before) members =
      (waysOfMembers members).map fun way ↦ (dotted (before ++ way.1), way.2)
  | [], _, _, _ => rfl
  | (name, value) :: rest, before, hbefore, hfilled => by
    have hpath : "" ∉ before ++ [name] := by
      simpa [hbefore, eq_comm] using hfilled.head
    have hvalue := flattenMember_eq value hpath fun inner heq ↦ NamesFilled.inner (heq ▸ hfilled)
    rw [flattenMembers, joinPath_dotted hbefore, hvalue,
      flattenMembers_eq rest hbefore hfilled.tail, waysOfMembers, List.map_append, List.map_map]
    simp [Function.comp_def]

end

/-! ## The order of the ways -/

theorem before_cons {names others : List String} (h : Before names others) (name : String) :
    Before (name :: names) (name :: others) :=
  List.cons_lt_cons_iff.mpr (.inr ⟨rfl, h⟩)

theorem before_of_lt {name other : String} (h : name < other) (names others : List String) :
    Before (name :: names) (other :: others) :=
  List.cons_lt_cons_iff.mpr (.inl (Utf8.encode_toList_lt_iff.mpr h))

theorem before_irrefl (names : List String) : ¬Before names names := List.lt_irrefl _

theorem before_asymm {names others : List String} (h : Before names others) :
    ¬Before others names := List.lt_asymm h

/-- The first name on a way is that of a member. -/
theorem Tells.exists_head {members : Entries Json} {names : List String} {text : String}
    (h : Tells members names text) : ∃ member ∈ members, ∃ below, names = member.1 :: below := by
  obtain ⟨value, hmember | ⟨hmember, -⟩, -⟩ := h
  · exact ⟨_, hmember, [], rfl⟩
  · exact ⟨_, hmember, _, rfl⟩

mutual

theorem pairwise_ways : (value : Json) → value.Canonical →
    (ways value).Pairwise fun way other ↦ Before way.1 other.1
  | .null, _ | .str _, _ | .bool _, _ | .num _, _ | .arr _, _ => by
    simp only [ways]
    cases Json.text? _ <;> simp
  | .obj members, hcanonical => by
    obtain ⟨hascending, hmembers⟩ := hcanonical
    exact pairwise_waysOfMembers members hascending hmembers

theorem pairwise_waysOfMembers : (members : Entries Json) → members.Ascending →
    Json.CanonicalMembers members →
    (waysOfMembers members).Pairwise fun way other ↦ Before way.1 other.1
  | [], _, _ => .nil
  | (name, value) :: rest, hascending, hcanonical => by
    obtain ⟨hsmallest, hrest⟩ := List.pairwise_cons.mp hascending
    obtain ⟨hvalue, hothers⟩ : value.Canonical ∧ Json.CanonicalMembers rest := hcanonical
    rw [waysOfMembers, List.pairwise_append, List.pairwise_map]
    refine ⟨?within, pairwise_waysOfMembers rest hrest hothers, ?across⟩
    case within => exact (pairwise_ways value hvalue).imp fun h ↦ before_cons h name
    case across =>
      intro way hway other hother
      obtain ⟨below, -, rfl⟩ := List.mem_map.mp hway
      obtain ⟨member, hmember, names, hnames⟩ :=
        Tells.exists_head ((mem_waysOfMembers_iff rest).mp hother)
      rw [hnames]
      exact before_of_lt (hsmallest member hmember) _ _

end

/-- In a list in order, the last item with a property is the one that no other such item comes
after. -/
theorem getLast?_filter_eq_some_iff {α : Type} {r : α → α → Prop} (hirrefl : ∀ a, ¬r a a)
    (hasymm : ∀ a b, r a b → ¬r b a) {list : List α} (hlist : list.Pairwise r) {p : α → Bool}
    {a : α} :
    (list.filter p).getLast? = some a ↔ a ∈ list ∧ p a = true ∧ ∀ b ∈ list, p b = true → ¬r a b := by
  have hkept := hlist.filter p
  constructor
  · intro hlast
    obtain ⟨hmem, hp⟩ := List.mem_filter.mp (List.mem_of_getLast? hlast)
    obtain ⟨before, hsplit⟩ := List.getLast?_eq_some_iff.mp hlast
    refine ⟨hmem, hp, fun b hb hpb ↦ ?_⟩
    have hfound : b ∈ before ++ [a] := hsplit ▸ List.mem_filter.mpr ⟨hb, hpb⟩
    rcases List.mem_append.mp hfound with hbefore | hsame
    · rw [hsplit] at hkept
      exact hasymm b a ((List.pairwise_append.mp hkept).2.2 b hbefore a List.mem_cons_self)
    · exact List.mem_singleton.mp hsame ▸ hirrefl a
  · rintro ⟨hmem, hp, hgreatest⟩
    have ha : a ∈ list.filter p := List.mem_filter.mpr ⟨hmem, hp⟩
    rcases List.eq_nil_or_concat' (list.filter p) with hnil | ⟨before, last, hsplit⟩
    · rw [hnil] at ha
      cases ha
    · have hlast : last ∈ list.filter p := hsplit ▸ List.mem_append_right _ List.mem_cons_self
      have hafter := hgreatest last (List.mem_filter.mp hlast).1 (List.mem_filter.mp hlast).2
      rw [hsplit] at ha hkept ⊢
      rcases List.mem_append.mp ha with hbefore | hsame
      · exact absurd ((List.pairwise_append.mp hkept).2.2 a hbefore last List.mem_cons_self) hafter
      · rw [List.mem_singleton.mp hsame, List.getLast?_concat]

/-! ## Flattened sources -/

/-- With no empty name on a way, the entries of a flattened source are those of the ways, under
their dotted names. -/
theorem flatten_eq (source : StringMap Json) (hfilled : NamesFilled source.entries) :
    flatten source = .ofList ((waysOfMembers source.entries).map fun way ↦ (dotted way.1, way.2)) :=
  congrArg StringMap.ofList (flattenMembers_eq source.entries List.not_mem_nil hfilled)

theorem mem_keys_flatten_iff {source : StringMap Json} (hfilled : NamesFilled source.entries)
    {key : String} :
    key ∈ (flatten source).keys ↔
      ∃ names text, Tells source.entries names text ∧ dotted names = key := by
  rw [flatten_eq source hfilled]
  refine Entries.mem_keys_sorted.trans ?_
  simp only [Entries.keys, List.map_map, List.mem_map, Prod.exists, Function.comp_apply,
    mem_waysOfMembers_iff]

theorem get?_flatten_eq_some_iff {source : StringMap Json}
    (hcanonical : Json.CanonicalMembers source.entries) (hfilled : NamesFilled source.entries)
    {key text : String} :
    (flatten source).get? key = some text ↔
      ∃ names, Tells source.entries names text ∧ dotted names = key ∧
        ∀ others other, Tells source.entries others other → dotted others = key →
          ¬Before names others := by
  have hordered := pairwise_waysOfMembers source.entries source.ascending hcanonical
  rw [flatten_eq source hfilled, StringMap.get?_ofList, List.filter_map, List.getLast?_map]
  simp only [Option.map_eq_some_iff, Prod.exists, Function.comp_def,
    getLast?_filter_eq_some_iff (fun way ↦ before_irrefl way.1) (fun _ _ ↦ before_asymm) hordered,
    mem_waysOfMembers_iff, Prod.forall, decide_eq_true_eq, Prod.mk.injEq]
  constructor
  · rintro ⟨_, _, ⟨names, found, ⟨htells, hkey, hlast⟩, rfl, rfl⟩, rfl⟩
    exact ⟨names, htells, hkey, hlast⟩
  · rintro ⟨names, htells, hkey, hlast⟩
    exact ⟨_, _, ⟨names, text, ⟨htells, hkey, hlast⟩, rfl, rfl⟩, rfl⟩

/-- A flattened source has the dotted names of the members that have a text as its keys. Under a key
is the text of the last of these members, in the order of the names' octets. Without dots in the
names each such member has a key of its own, and its text is found under it. -/
theorem flatten_tells (source : StringMap Json) (hcanonical : (Json.ofMap source).Canonical)
    (hfilled : ∀ names value, Leads source.entries names value → "" ∉ names) :
    (∀ key, key ∈ (flatten source).keys ↔
      ∃ names text, Tells source.entries names text ∧ dotted names = key) ∧
    (∀ key text, (flatten source).get? key = some text ↔
      ∃ names, Tells source.entries names text ∧ dotted names = key ∧
        ∀ others other, Tells source.entries others other → dotted others = key →
          ¬Before names others) ∧
    ((∀ names value, Leads source.entries names value → ∀ name ∈ names, '.' ∉ name.toList) →
      Set.BijOn dotted {names | ∃ text, Tells source.entries names text}
        {key | key ∈ (flatten source).keys} ∧
      ∀ names text, Tells source.entries names text →
        (flatten source).get? (dotted names) = some text) := by
  have hmembers := Json.canonical_ofMap_iff.mp hcanonical
  refine ⟨fun key ↦ mem_keys_flatten_iff hfilled,
    fun key text ↦ get?_flatten_eq_some_iff hmembers hfilled, fun hdots ↦ ?_⟩
  have hinj : Set.InjOn dotted {names | ∃ text, Tells source.entries names text} := by
    apply dotted_injOn.mono
    rintro names ⟨text, value, hleads, -⟩
    exact ⟨hleads.ne_nil, hdots names value hleads⟩
  refine ⟨⟨?maps, hinj, ?onto⟩, ?texts⟩
  case maps =>
    rintro names ⟨text, htells⟩
    exact (mem_keys_flatten_iff hfilled).mpr ⟨names, text, htells, rfl⟩
  case onto =>
    intro key hkey
    obtain ⟨names, text, htells, rfl⟩ := (mem_keys_flatten_iff hfilled).mp hkey
    exact ⟨names, ⟨text, htells⟩, rfl⟩
  case texts =>
    intro names text htells
    refine (get?_flatten_eq_some_iff hmembers hfilled).mpr
      ⟨names, htells, rfl, fun others other hother heq ↦ ?_⟩
    -- The other way has the same dotted names, so it is the same way.
    rw [hinj ⟨other, hother⟩ ⟨text, htells⟩ heq]
    exact before_irrefl names

/-- A member `a.b` comes after the member `b` of `a`, so its text counts. Without dots nothing
coincides, and an array without texts has no key. -/
theorem flatten_tells_of_coinciding :
    let source : StringMap Json := ⟨[("a", .obj [("b", .str "x")]),
      ("a.b", .arr [.str "y", .null, .arr [.bool true, .obj []]])], by decide⟩
    let plain : StringMap Json :=
      ⟨[("name", .obj [("en", .str "x"), ("fr", .arr [.null])])], by decide⟩
    ((Json.ofMap source).Canonical ∧
        (∀ names value, Leads source.entries names value → "" ∉ names) ∧
      (flatten source).get? "a.b" = some "y true") ∧
    (Json.ofMap plain).Canonical ∧
        (∀ names value, Leads plain.entries names value → "" ∉ names) ∧
        (∀ names value, Leads plain.entries names value → ∀ name ∈ names, '.' ∉ name.toList) ∧
      (flatten plain).get? "name.en" = some "x" ∧ "name.fr" ∉ (flatten plain).keys := by
  intro source plain
  have hsource : (Json.ofMap source).Canonical :=
    ⟨source.ascending, ⟨by decide, trivial, trivial⟩,
      ⟨trivial, trivial, ⟨trivial, ⟨by decide, trivial⟩, trivial⟩, trivial⟩, trivial⟩
  have hplain : (Json.ofMap plain).Canonical :=
    ⟨plain.ascending, ⟨by decide, trivial, ⟨trivial, trivial⟩, trivial⟩, trivial⟩
  have hways (names : List String) (value : Json) (h : Leads source.entries names value) :
      names = ["a"] ∨ names = ["a", "b"] ∨ names = ["a.b"] := by
    have hsplit : names = ["a"] ∧ value = .obj [("b", .str "x")] ∨
        names = ["a", "b"] ∧ value = .str "x" ∨
        names = ["a.b"] ∧ value = .arr [.str "y", .null, .arr [.bool true, .obj []]] := by
      simpa [source, leads_cons_iff, not_leads_nil] using h
    exact hsplit.imp And.left (Or.imp And.left And.left)
  have hplainways (names : List String) (value : Json) (h : Leads plain.entries names value) :
      names = ["name"] ∨ names = ["name", "en"] ∨ names = ["name", "fr"] ∧ value = .arr [.null] := by
    have hsplit : names = ["name"] ∧ value = .obj [("en", .str "x"), ("fr", .arr [.null])] ∨
        ∃ below, names = "name" :: below ∧
          (below = ["en"] ∧ value = .str "x" ∨ below = ["fr"] ∧ value = .arr [.null]) := by
      simpa [plain, leads_cons_iff, not_leads_nil] using h
    rcases hsplit with ⟨rfl, -⟩ | ⟨_, rfl, ⟨rfl, -⟩ | ⟨rfl, hvalue⟩⟩
    · exact .inl rfl
    · exact .inr (.inl rfl)
    · exact .inr (.inr ⟨rfl, hvalue⟩)
  have hfilled (names : List String) (value : Json) (h : Leads source.entries names value) :
      "" ∉ names := by
    rcases hways names value h with rfl | rfl | rfl <;> decide
  have hplainfilled (names : List String) (value : Json) (h : Leads plain.entries names value) :
      "" ∉ names := by
    rcases hplainways names value h with rfl | rfl | ⟨rfl, -⟩ <;> decide
  have hdots (names : List String) (value : Json) (h : Leads plain.entries names value) :
      ∀ name ∈ names, '.' ∉ name.toList := by
    rcases hplainways names value h with rfl | rfl | ⟨rfl, -⟩ <;> decide
  obtain ⟨-, hfound, -⟩ := flatten_tells source hsource hfilled
  obtain ⟨hkeys, -, hdotless⟩ := flatten_tells plain hplain hplainfilled
  refine ⟨⟨hsource, hfilled, ?later⟩, hplain, hplainfilled, hdots, ?text, ?absent⟩
  case later =>
    have hlater : Leads source.entries ["a.b"] _ := .member (List.mem_cons_of_mem _ List.mem_cons_self)
    refine (hfound _ _).mpr ⟨["a.b"], ⟨_, hlater, by decide⟩, by decide, ?_⟩
    rintro others other ⟨value, hleads, -⟩ -
    rcases hways others value hleads with rfl | rfl | rfl <;> decide
  case text =>
    have hinner : Leads plain.entries ["name", "en"] (.str "x") :=
      .within List.mem_cons_self (.member List.mem_cons_self)
    exact (hdotless hdots).2 ["name", "en"] "x" ⟨_, hinner, by decide⟩
  case absent =>
    rw [hkeys]
    rintro ⟨names, text, ⟨value, hleads, htext⟩, hname⟩
    rcases hplainways names value hleads with rfl | rfl | ⟨rfl, rfl⟩
    · revert hname; decide
    · revert hname; decide
    · cases htext

end Source

end FacetSearch
