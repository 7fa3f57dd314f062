import FacetSearch.Proofs.JsonText
import FacetSearch.Proofs.JsonValues
import FacetSearch.Proofs.NumberLiterals

/-!
# Reading compact text

The compact text of a value is read to that value, apart from its numbers, for which it is read what
their texts give, and from containers that are nested too deep. A value that was read from a text
has integers of 64 bits only, so what its own text gives depends on its doubles alone.
-/

namespace FacetSearch

namespace Json

/-! ## Parts of values -/

mutual

/-- The number of containers that are nested in one another. -/
def nesting : Json → Nat
  | arr elements => nestingElements elements + 1
  | obj members => nestingMembers members + 1
  | _ => 0

/-- The greatest nesting of an element. -/
def nestingElements : List Json → Nat
  | [] => 0
  | element :: rest => max (nesting element) (nestingElements rest)

/-- The greatest nesting of a member. -/
def nestingMembers : List (String × Json) → Nat
  | [] => 0
  | (_, value) :: rest => max (nesting value) (nestingMembers rest)

end

mutual

/-- The numbers in a value. -/
def numbers : Json → List Number
  | num n => [n]
  | arr elements => numbersElements elements
  | obj members => numbersMembers members
  | _ => []

/-- The numbers in elements. -/
def numbersElements : List Json → List Number
  | [] => []
  | element :: rest => numbers element ++ numbersElements rest

/-- The numbers in the values of members. -/
def numbersMembers : List (String × Json) → List Number
  | [] => []
  | (_, value) :: rest => numbers value ++ numbersMembers rest

end

mutual

/-- What the compact text of a value is read to, however deep its containers are nested. -/
def reread : Json → RawJson
  | null => .null
  | bool b => .bool b
  | num n => (n.reread.map .num).getD .unreadable
  | str s => .str s
  | arr elements => .arr (rereadElements elements)
  | obj members => .obj (rereadMembers members)

/-- What the texts of elements are read to. -/
def rereadElements : List Json → List RawJson
  | [] => []
  | element :: rest => reread element :: rereadElements rest

/-- What the texts of members are read to. -/
def rereadMembers : List (String × Json) → List (Option String × RawJson)
  | [] => []
  | (name, value) :: rest => (some name, reread value) :: rereadMembers rest

end

theorem text_ne_nil (json : Json) : text json ≠ [] := by
  match json with
  | null | bool true | bool false | str _ | arr _ | obj _ => exact List.cons_ne_nil _ _
  | num n => exact n.text_ne_nil

end Json

/-! ## Reading a text as it is written -/

namespace RawJson

open Json (text elementsText membersText laterElements laterMembers quoted reread rereadElements
  rereadMembers)

theorem isSpace_of_isNumeral {c : Char} (hc : IsNumeral c) : isSpace c = false := by
  rw [Bool.eq_false_iff]
  intro hspace
  simp only [isSpace, Bool.or_eq_true, beq_iff_eq] at hspace
  rcases hspace with ((rfl | rfl) | rfl) | rfl <;> exact absurd hc (by decide)

theorem skipSpace_cons {c : Char} (hc : isSpace c = false) (rest : List Char) :
    skipSpace (c :: rest) = c :: rest := by
  simp [skipSpace, hc]

/-- No value begins with a blank. -/
theorem skipSpace_text (json : Json) (rest : List Char) :
    skipSpace (text json ++ rest) = text json ++ rest := by
  match json with
  | .null | .bool true | .bool false => rfl
  | .str _ | .arr _ | .obj _ => rfl
  | .num n =>
    obtain ⟨c, tail, htext, hc⟩ := n.exists_text_eq_cons
    rw [text, htext, List.cons_append, skipSpace_cons (isSpace_of_isNumeral hc)]

/-- What begins as a number does is read as one. -/
theorem readValue_number {c : Char} (hc : IsNumeral c) (fuel : Nat) (rest : List Char) :
    readValue (fuel + 1) (c :: rest) = readNumber (c :: rest) := by
  rw [readValue, skipSpace_cons (isSpace_of_isNumeral hc)]
  split
  all_goals
    first
    | rfl
    | next heq =>
      obtain ⟨rfl, -⟩ := List.cons.inj heq
      exact absurd hc (by decide)

theorem stops_laterElements (elements : List Json) (rest : List Char) :
    Literal.Stops (laterElements elements ++ ']' :: rest) := by
  cases elements <;> exact Literal.stops_cons (by decide) _

theorem stops_laterMembers (members : List (String × Json)) (rest : List Char) :
    Literal.Stops (laterMembers members ++ '}' :: rest) := by
  cases members <;> exact Literal.stops_cons (by decide) _

/-- Elements are read where the bracket does not follow at once. -/
theorem readValue_bracket {cs : List Char} (hcs : ∀ rest, skipSpace cs ≠ ']' :: rest)
    (fuel : Nat) :
    readValue (fuel + 1) ('[' :: cs) =
      (readElements fuel cs).map fun (elements, rest) ↦ (arr elements, rest) := by
  rw [readValue, skipSpace_cons rfl]
  -- The alternative of the empty array is ruled out by the hypothesis.
  simp only

/-- Members are read where the brace does not follow at once. -/
theorem readValue_brace {cs : List Char} (hcs : ∀ rest, skipSpace cs ≠ '}' :: rest)
    (fuel : Nat) :
    readValue (fuel + 1) ('{' :: cs) =
      (readMembers fuel cs).map fun (members, rest) ↦ (obj members, rest) := by
  rw [readValue, skipSpace_cons rfl]
  simp only

theorem skipSpace_elementsText_ne (element : Json) (others : List Json) (tail rest : List Char) :
    skipSpace (elementsText (element :: others) ++ tail) ≠ ']' :: rest := by
  rw [Json.elementsText_cons, List.append_assoc, skipSpace_text]
  exact Json.text_append_ne_bracket element _ _

theorem membersText_append (name : String) (value : Json) (others : List (String × Json))
    (tail : List Char) :
    membersText ((name, value) :: others) ++ tail =
      '"' :: (name.toList.flatMap Json.escapeChar ++
        '"' :: ':' :: (text value ++ (laterMembers others ++ tail))) := by
  simp [Json.membersText_cons, quoted]

theorem skipSpace_membersText_ne (member : String × Json) (others : List (String × Json))
    (tail rest : List Char) :
    skipSpace (membersText (member :: others) ++ tail) ≠ '}' :: rest := by
  rw [membersText_append, skipSpace_cons rfl]
  simp

mutual

/-- The text of a value is read where no number goes on. -/
theorem readValue_text : (json : Json) → {fuel : Nat} → {rest : List Char} →
    2 * (text json).length ≤ fuel + 1 → Literal.Stops rest →
      readValue fuel (text json ++ rest) = some (reread json, rest)
  | json, 0, _, hfuel, _ => by
    have hlength := List.length_pos_iff.mpr json.text_ne_nil
    omega
  | .null, fuel + 1, _, _, _ | .bool true, fuel + 1, _, _, _ | .bool false, fuel + 1, _, _, _ => rfl
  | .num n, fuel + 1, rest, _, hrest => by
    have hread := n.readNumber_text hrest
    obtain ⟨c, tail, htext, hc⟩ := n.exists_text_eq_cons
    rw [text, reread]
    rw [htext, List.cons_append] at hread ⊢
    rw [readValue_number hc, hread]
  | .str s, fuel + 1, rest, _, _ => by
    have hread := readString_escaped s rest
    have htext : text (.str s) ++ rest =
        '"' :: (s.toList.flatMap Json.escapeChar ++ '"' :: rest) := by simp [text, quoted]
    rw [htext, readValue, skipSpace_cons rfl]
    simp only [hread]
    rfl
  | .arr [], fuel + 1, rest, _, _ => rfl
  | .arr (element :: others), fuel + 1, rest, hfuel, _ => by
    have hfewer : 2 * (elementsText (element :: others)).length ≤ fuel := by
      simp only [text, List.length_cons, List.length_append] at hfuel
      omega
    have hread := readElements_text element others rest hfewer
    have htext : text (.arr (element :: others)) ++ rest =
        '[' :: (elementsText (element :: others) ++ ']' :: rest) := by simp [text]
    rw [htext, readValue_bracket (skipSpace_elementsText_ne element others _), hread]
    rfl
  | .obj [], fuel + 1, rest, _, _ => rfl
  | .obj (member :: others), fuel + 1, rest, hfuel, _ => by
    have hfewer : 2 * (membersText (member :: others)).length ≤ fuel := by
      simp only [text, List.length_cons, List.length_append] at hfuel
      omega
    have hread := readMembers_text member others rest hfewer
    have htext : text (.obj (member :: others)) ++ rest =
        '{' :: (membersText (member :: others) ++ '}' :: rest) := by simp [text]
    rw [htext, readValue_brace (skipSpace_membersText_ne member others _), hread]
    rfl

theorem readElements_text : (element : Json) → (others : List Json) → {fuel : Nat} →
    (rest : List Char) → 2 * (elementsText (element :: others)).length ≤ fuel →
      readElements fuel (elementsText (element :: others) ++ ']' :: rest) =
        some (rereadElements (element :: others), rest)
  | element, others, 0, _, hfuel => by
    have hlength := List.length_pos_iff.mpr element.text_ne_nil
    rw [Json.elementsText_cons, List.length_append] at hfuel
    omega
  | element, others, fuel + 1, rest, hfuel => by
    rw [Json.elementsText_cons, List.length_append] at hfuel
    have hvalue : readValue fuel (text element ++ (laterElements others ++ ']' :: rest)) = _ :=
      readValue_text element (by omega) (stops_laterElements others rest)
    rw [Json.elementsText_cons, List.append_assoc, readElements, hvalue]
    cases others with
    | nil => rfl
    | cons next others =>
      have hfewer : 2 * (elementsText (next :: others)).length ≤ fuel := by
        rw [laterElements, List.length_cons] at hfuel
        omega
      have hothers := readElements_text next others rest hfewer
      rw [laterElements, List.cons_append]
      simp only [Option.bind_eq_bind, Option.bind_some]
      rw [skipSpace_cons rfl]
      simp only [hothers]
      rfl

theorem readMembers_text : (member : String × Json) → (others : List (String × Json)) →
    {fuel : Nat} → (rest : List Char) → 2 * (membersText (member :: others)).length ≤ fuel →
      readMembers fuel (membersText (member :: others) ++ '}' :: rest) =
        some (rereadMembers (member :: others), rest)
  | (name, value), others, 0, _, hfuel => by
    rw [Json.membersText_cons] at hfuel
    simp [quoted] at hfuel
  | (name, value), others, fuel + 1, rest, hfuel => by
    rw [Json.membersText_cons] at hfuel
    simp only [List.length_append, List.length_cons] at hfuel
    have hname := readString_escaped name
      (':' :: (text value ++ (laterMembers others ++ '}' :: rest)))
    have hvalue : readValue fuel (text value ++ (laterMembers others ++ '}' :: rest)) = _ :=
      readValue_text value (by omega) (stops_laterMembers others rest)
    rw [membersText_append, readMembers, skipSpace_cons rfl]
    simp only [hname, Option.bind_eq_bind, Option.bind_some]
    rw [skipSpace_cons rfl]
    simp only [hvalue, Option.bind_some]
    cases others with
    | nil => rfl
    | cons next others =>
      have hfewer : 2 * (membersText (next :: others)).length ≤ fuel := by
        rw [laterMembers, List.length_cons] at hfuel
        omega
      have hothers := readMembers_text next others rest hfewer
      rw [laterMembers, List.cons_append, skipSpace_cons rfl]
      simp only [hothers]
      rfl

end

end RawJson

namespace Json

/-- What the compact text of a value is read to where containers may be nested that deep. -/
def reading (depth : Nat) (json : Json) : Option Json := (json.reread.limited depth).toJson?

theorem read_compact (json : Json) : read json.compact = json.reading RawJson.greatestDepth := by
  have hfuel : 2 * (text json).length ≤ 2 * (text json).length + 1 + 1 := by omega
  have hvalue := RawJson.readValue_text json hfuel Literal.stops_nil
  have hread : RawJson.read (text json) = some (json.reread.limited RawJson.greatestDepth) := by
    rw [List.append_nil] at hvalue
    rw [RawJson.read, hvalue, Option.bind_eq_bind, Option.bind_some]
    exact if_pos rfl
  rw [read, compact, String.toList_ofList, hread, Option.bind_some, reading]

/-! ## Values that are read back -/

theorem mem_numbersMembers {n : Number} {members : List (String × Json)} :
    n ∈ numbersMembers members ↔ ∃ member ∈ members, n ∈ member.2.numbers := by
  induction members with
  | nil => simp [numbersMembers]
  | cons member rest ih => simp [numbersMembers, ih]

theorem reading_num (depth : Nat) (n : Number) : (num n).reading depth = n.reread.map num := by
  rw [reading, reread]
  cases n.reread <;> rfl

theorem readingElements_iff {depth : Nat} {elements values : List Json} :
    RawJson.toJsonElements? (RawJson.limitedElements depth (rereadElements elements)) =
        some values ↔
      List.Forall₂ (fun element value ↦ element.reading depth = some value) elements values := by
  induction elements generalizing values with
  | nil => simp [rereadElements, RawJson.limitedElements, RawJson.toJsonElements?, eq_comm]
  | cons element rest ih =>
    simp only [rereadElements, RawJson.limitedElements, RawJson.toJsonElements?,
      Option.bind_eq_bind, Option.bind_eq_some_iff, ih, List.forall₂_cons_left_iff, reading]
    constructor
    · rintro ⟨value, hvalue, others, hothers, hall⟩
      exact ⟨value, others, hvalue, hothers, (Option.some.inj hall).symm⟩
    · rintro ⟨value, others, hvalue, hothers, rfl⟩
      exact ⟨value, hvalue, others, hothers, rfl⟩

/-- The values of members are read from their texts; the names stay. -/
def ReadingMembers (depth : Nat) : List (String × Json) → List (String × Json) → Prop :=
  List.Forall₂ fun member value ↦ value.1 = member.1 ∧ member.2.reading depth = some value.2

theorem readingMembers_iff {depth : Nat} {members values : List (String × Json)} :
    RawJson.toJsonMembers? (RawJson.limitedMembers depth (rereadMembers members)) = some values ↔
      ReadingMembers depth members values := by
  unfold ReadingMembers
  induction members generalizing values with
  | nil => simp [rereadMembers, RawJson.limitedMembers, RawJson.toJsonMembers?, eq_comm]
  | cons member rest ih =>
    simp only [rereadMembers, RawJson.limitedMembers, RawJson.toJsonMembers?,
      Option.bind_eq_bind, Option.bind_eq_some_iff, ih, List.forall₂_cons_left_iff, reading,
      Option.some.injEq]
    constructor
    · rintro ⟨name, rfl, value, hvalue, others, hothers, rfl⟩
      exact ⟨(member.1, value), others, ⟨rfl, hvalue⟩, hothers, rfl⟩
    · rintro ⟨⟨name, value⟩, others, ⟨rfl, hvalue⟩, hothers, rfl⟩
      exact ⟨_, rfl, value, hvalue, others, hothers, rfl⟩

theorem ReadingMembers.keys_eq {depth : Nat} {members values : List (String × Json)}
    (hread : ReadingMembers depth members values) :
    Entries.keys values = Entries.keys members := by
  induction hread with
  | nil => rfl
  | cons hhead _ ih =>
    simp only [Entries.keys, List.map_cons] at ih ⊢
    rw [hhead.1, ih]

theorem ReadingMembers.ascending {depth : Nat} {members values : List (String × Json)}
    (hread : ReadingMembers depth members values) (hascending : Entries.Ascending members) :
    Entries.Ascending values := by
  have hkeys : (Entries.keys members).Pairwise (· < ·) := List.pairwise_map.mpr hascending
  rw [← hread.keys_eq] at hkeys
  exact List.pairwise_map.mp hkeys

theorem ReadingMembers.exists_get? {depth : Nat} {members values : List (String × Json)}
    (hread : ReadingMembers depth members values) {key : String} {json : Json}
    (hmember : Entries.get? members key = some json) :
    ∃ value, json.reading depth = some value ∧ Entries.get? values key = some value := by
  induction hread with
  | nil => cases hmember
  | @cons member value _ _ hhead _ ih =>
    obtain ⟨hname, hvalue⟩ := hhead
    rw [Entries.get?] at hmember ⊢
    rw [hname]
    split at hmember
    · next hkey =>
      cases hmember
      exact ⟨value.2, hvalue, if_pos hkey⟩
    · next hkey =>
      rw [if_neg hkey]
      exact ih hmember

/-- An object is read member by member. -/
theorem reading_obj {depth : Nat} {members : List (String × Json)}
    (hascending : Entries.Ascending members) {value : Json} :
    (obj members).reading (depth + 1) = some value ↔
      ∃ values, ReadingMembers depth members values ∧ value = obj values := by
  rw [reading, reread, RawJson.limited, RawJson.toJson?, Option.map_eq_some_iff]
  simp only [readingMembers_iff]
  refine exists_congr fun values ↦ and_congr_right fun hread ↦ ?_
  rw [ofMembers, (hread.ascending hascending).sorted_eq, eq_comm]

theorem reading_arr {depth : Nat} {elements : List Json} {value : Json} :
    (arr elements).reading (depth + 1) = some value ↔
      ∃ values, List.Forall₂ (fun element value ↦ element.reading depth = some value)
        elements values ∧ value = arr values := by
  rw [reading, reread, RawJson.limited, RawJson.toJson?, Option.map_eq_some_iff]
  simp only [readingElements_iff]
  exact exists_congr fun values ↦ and_congr_right fun _ ↦ eq_comm

theorem reading_obj_self {depth : Nat} {members : List (String × Json)}
    (hascending : Entries.Ascending members) :
    (obj members).reading (depth + 1) = some (obj members) ↔
      ∀ member ∈ members, member.2.reading depth = some member.2 := by
  simp [reading_obj hascending, ReadingMembers, List.forall₂_same]

theorem reading_arr_self {depth : Nat} {elements : List Json} :
    (arr elements).reading (depth + 1) = some (arr elements) ↔
      ∀ element ∈ elements, element.reading depth = some element := by
  simp [reading_arr, List.forall₂_same]

mutual

/-- A value is read back from its compact text if it is not nested too deep and each of its numbers
is read back. -/
theorem reading_self_iff : (json : Json) → json.Canonical → {depth : Nat} →
    (json.reading depth = some json ↔
      json.nesting ≤ depth ∧ ∀ n ∈ json.numbers, n.reread = some n)
  | .null, _, _ | .bool _, _, _ | .str _, _, _ => by
    simp [reading, reread, RawJson.limited, RawJson.toJson?, nesting, numbers]
  | .num n, _, _ => by simp [reading_num, nesting, numbers]
  | .arr _, _, 0 | .obj _, _, 0 => by
    simp [reading, reread, RawJson.limited, RawJson.toJson?, nesting]
  | .arr elements, h, depth + 1 => by
    rw [reading_arr_self, reading_elements_iff elements h, nesting, numbers, Nat.succ_le_succ_iff]
  | .obj members, h, depth + 1 => by
    rw [reading_obj_self h.1, reading_members_iff members h.2, nesting, numbers,
      Nat.succ_le_succ_iff]

theorem reading_elements_iff : (elements : List Json) → CanonicalElements elements →
    {depth : Nat} → ((∀ element ∈ elements, element.reading depth = some element) ↔
      nestingElements elements ≤ depth ∧ ∀ n ∈ numbersElements elements, n.reread = some n)
  | [], _, _ => by simp [nestingElements, numbersElements]
  | element :: rest, h, _ => by
    rw [List.forall_mem_cons, reading_self_iff element h.1, reading_elements_iff rest h.2,
      nestingElements, numbersElements, max_le_iff, List.forall_mem_append]
    tauto

theorem reading_members_iff : (members : List (String × Json)) → CanonicalMembers members →
    {depth : Nat} → ((∀ member ∈ members, member.2.reading depth = some member.2) ↔
      nestingMembers members ≤ depth ∧ ∀ n ∈ numbersMembers members, n.reread = some n)
  | [], _, _ => by simp [nestingMembers, numbersMembers]
  | (name, value) :: rest, h, _ => by
    rw [List.forall_mem_cons, reading_self_iff value h.1, reading_members_iff rest h.2,
      nestingMembers, numbersMembers, max_le_iff, List.forall_mem_append]
    tauto

end

end Json

/-! ## Numbers that a text gives -/

namespace RawJson

mutual

/-- The numbers in a text are integers of 64 bits or doubles. -/
def Fits : RawJson → Prop
  | num n => n.Fits
  | arr elements => FitsElements elements
  | obj members => FitsMembers members
  | _ => True

/-- The numbers in the texts of elements fit. -/
def FitsElements : List RawJson → Prop
  | [] => True
  | element :: rest => Fits element ∧ FitsElements rest

/-- The numbers in the texts of members fit. -/
def FitsMembers : List (Option String × RawJson) → Prop
  | [] => True
  | (_, value) :: rest => Fits value ∧ FitsMembers rest

end

/-- Whatever is read has a property. -/
def Yields {α : Type} (reader : List Char → Option (α × List Char)) (property : α → Prop) : Prop :=
  ∀ {cs a rest}, reader cs = some (a, rest) → property a

theorem Yields.of_map {α β : Type} {reader : List Char → Option (α × List Char)}
    {property : α → Prop} (hreader : Yields reader property) {f : α → β} {cs rest : List Char}
    {b : β} (hread : ((reader cs).map fun (a, rest) ↦ (f a, rest)) = some (b, rest)) :
    ∃ a, property a ∧ f a = b := by
  obtain ⟨⟨a, others⟩, ha, hb⟩ := Option.map_eq_some_iff.mp hread
  exact ⟨a, hreader ha, congrArg Prod.fst hb⟩

theorem yields_readNumber : Yields readNumber Fits := by
  intro cs raw rest hread
  obtain ⟨⟨literal, others⟩, -, hraw⟩ := Option.map_eq_some_iff.mp hread
  obtain ⟨rfl, rfl⟩ := Prod.mk.inj hraw
  cases hvalue : literal.value? with
  | none => trivial
  | some n => exact Number.fits_of_value? hvalue

section Step

variable {fuel : Nat}

theorem yields_readValue (helements : Yields (readElements fuel) FitsElements)
    (hmembers : Yields (readMembers fuel) FitsMembers) : Yields (readValue (fuel + 1)) Fits := by
  intro cs raw rest hread
  rw [readValue] at hread
  split at hread
  iterate 3
    · cases hread
      trivial
  · obtain ⟨⟨s?, others⟩, -, hraw⟩ := Option.map_eq_some_iff.mp hread
    obtain ⟨rfl, rfl⟩ := Prod.mk.inj hraw
    cases s? <;> trivial
  · split at hread
    · cases hread
      trivial
    · obtain ⟨elements, hfits, rfl⟩ := helements.of_map hread
      exact hfits
  · split at hread
    · cases hread
      trivial
    · obtain ⟨members, hfits, rfl⟩ := hmembers.of_map hread
      exact hfits
  · exact yields_readNumber hread

theorem yields_readElements (hvalue : Yields (readValue fuel) Fits)
    (helements : Yields (readElements fuel) FitsElements) :
    Yields (readElements (fuel + 1)) FitsElements := by
  intro cs elements rest hread
  simp only [readElements, Option.bind_eq_bind, Option.bind_eq_some_iff, Prod.exists] at hread
  obtain ⟨element, others, helement, hread⟩ := hread
  split at hread
  · simp only [Option.bind_eq_some_iff, Prod.exists, Option.some.injEq, Prod.mk.injEq] at hread
    obtain ⟨later, others, hlater, rfl, rfl⟩ := hread
    exact ⟨hvalue helement, helements hlater⟩
  · cases hread
    exact ⟨hvalue helement, trivial⟩
  · cases hread

theorem yields_readMembers (hvalue : Yields (readValue fuel) Fits)
    (hmembers : Yields (readMembers fuel) FitsMembers) :
    Yields (readMembers (fuel + 1)) FitsMembers := by
  intro cs members rest hread
  simp only [readMembers] at hread
  split at hread
  swap
  · cases hread
  simp only [Option.bind_eq_bind, Option.bind_eq_some_iff, Prod.exists] at hread
  obtain ⟨name?, others, -, hread⟩ := hread
  split at hread
  swap
  · cases hread
  simp only [Option.bind_eq_some_iff, Prod.exists] at hread
  obtain ⟨value, others, hmember, hread⟩ := hread
  split at hread
  · simp only [Option.bind_eq_some_iff, Prod.exists, Option.some.injEq, Prod.mk.injEq] at hread
    obtain ⟨later, others, hlater, rfl, rfl⟩ := hread
    exact ⟨hvalue hmember, hmembers hlater⟩
  · cases hread
    exact ⟨hvalue hmember, trivial⟩
  · cases hread

end Step

/-- Every number that is read fits. -/
theorem yields_fits (fuel : Nat) :
    Yields (readValue fuel) Fits ∧ Yields (readElements fuel) FitsElements ∧
      Yields (readMembers fuel) FitsMembers := by
  induction fuel with
  | zero =>
    refine ⟨?_, ?_, ?_⟩ <;>
      · intro _ _ _ hread
        cases hread
  | succ fuel ih =>
    obtain ⟨hvalue, helements, hmembers⟩ := ih
    exact ⟨yields_readValue helements hmembers, yields_readElements hvalue helements,
      yields_readMembers hvalue hmembers⟩

mutual

theorem Fits.limited : {raw : RawJson} → raw.Fits → (depth : Nat) → (raw.limited depth).Fits
  | .null, h, _ | .bool _, h, _ | .num _, h, _ | .str _, h, _ | .unreadable, h, _ => h
  | .arr _, _, 0 | .obj _, _, 0 => trivial
  | .arr _, h, depth + 1 => FitsElements.limited h depth
  | .obj _, h, depth + 1 => FitsMembers.limited h depth

theorem FitsElements.limited : {elements : List RawJson} → FitsElements elements →
    (depth : Nat) → FitsElements (limitedElements depth elements)
  | [], _, _ => trivial
  | _ :: _, h, depth => ⟨h.1.limited depth, FitsElements.limited h.2 depth⟩

theorem FitsMembers.limited : {members : List (Option String × RawJson)} → FitsMembers members →
    (depth : Nat) → FitsMembers (limitedMembers depth members)
  | [], _, _ => trivial
  | _ :: _, h, depth => ⟨h.1.limited depth, FitsMembers.limited h.2 depth⟩

end

mutual

theorem Fits.of_toJson? : (raw : RawJson) → {json : Json} → raw.toJson? = some json → raw.Fits →
    ∀ n ∈ json.numbers, n.Fits
  | .null, _, hvalue, _ | .bool _, _, hvalue, _ | .str _, _, hvalue, _ => by
    cases hvalue
    simp [Json.numbers]
  | .num n, _, hvalue, h => by
    cases hvalue
    simpa [Json.numbers, Fits] using h
  | .arr elements, _, hvalue, h => by
    obtain ⟨values, hvalues, rfl⟩ := Option.map_eq_some_iff.mp hvalue
    exact FitsElements.of_toJson? elements hvalues h
  | .obj members, _, hvalue, h => by
    obtain ⟨values, hvalues, rfl⟩ := Option.map_eq_some_iff.mp hvalue
    have hall := FitsMembers.of_toJson? members hvalues h
    intro n hn
    obtain ⟨member, hmember, hn⟩ := Json.mem_numbersMembers.mp hn
    exact hall n (Json.mem_numbersMembers.mpr ⟨member, Entries.mem_sorted hmember, hn⟩)

theorem FitsElements.of_toJson? : (elements : List RawJson) → {values : List Json} →
    toJsonElements? elements = some values → FitsElements elements →
      ∀ n ∈ Json.numbersElements values, n.Fits
  | [], _, hvalues, _ => by
    cases hvalues
    simp [Json.numbersElements]
  | element :: rest, _, hvalues, h => by
    simp only [toJsonElements?, Option.bind_eq_bind, Option.bind_eq_some_iff,
      Option.some.injEq] at hvalues
    obtain ⟨value, hvalue, values, hvalues, rfl⟩ := hvalues
    exact List.forall_mem_append.mpr
      ⟨Fits.of_toJson? element hvalue h.1, FitsElements.of_toJson? rest hvalues h.2⟩

theorem FitsMembers.of_toJson? : (members : List (Option String × RawJson)) →
    {values : List (String × Json)} → toJsonMembers? members = some values →
      FitsMembers members → ∀ n ∈ Json.numbersMembers values, n.Fits
  | [], _, hvalues, _ => by
    cases hvalues
    simp [Json.numbersMembers]
  | (name?, element) :: rest, _, hvalues, h => by
    simp only [toJsonMembers?, Option.bind_eq_bind, Option.bind_eq_some_iff,
      Option.some.injEq] at hvalues
    obtain ⟨name, -, value, hvalue, values, hvalues, rfl⟩ := hvalues
    exact List.forall_mem_append.mpr
      ⟨Fits.of_toJson? element hvalue h.1, FitsMembers.of_toJson? rest hvalues h.2⟩

end

end RawJson

namespace Json

/-- A value as texts give it: members are in order, and integers have 64 bits. -/
structure Textual (json : Json) : Prop where
  canonical : json.Canonical
  fits : ∀ n ∈ json.numbers, n.Fits

theorem textual_of_read {text : String} {json : Json} (hread : read text = some json) :
    json.Textual := by
  simp only [read, RawJson.read, Option.bind_eq_bind, Option.bind_eq_some_iff] at hread
  obtain ⟨limited, ⟨⟨raw, rest⟩, hraw, hlimited⟩, hvalue⟩ := hread
  split at hlimited
  · cases hlimited
    have hfits : raw.Fits := (RawJson.yields_fits _).1 hraw
    exact ⟨RawJson.canonical_of_toJson? _ hvalue,
      (hfits.limited RawJson.greatestDepth).of_toJson? _ hvalue⟩
  · cases hlimited

/-- An object is as a text gives it if its values are. -/
theorem textual_ofMap_iff {members : StringMap Json} :
    (ofMap members).Textual ↔ ∀ key value, members.get? key = some value → value.Textual := by
  have hmember (key : String) (value : Json) :
      members.get? key = some value ↔ (key, value) ∈ members.entries :=
    Entries.get?_eq_some_iff members.ascending
  simp only [hmember]
  constructor
  · intro h key value hvalue
    refine ⟨canonicalMembers_iff.mp h.canonical.2 _ hvalue, fun n hn ↦ h.fits n ?_⟩
    exact mem_numbersMembers.mpr ⟨_, hvalue, hn⟩
  · intro h
    refine ⟨canonical_ofMap_iff.mpr (canonicalMembers_iff.mpr fun member hmember ↦ ?_), ?_⟩
    · exact (h member.1 member.2 hmember).canonical
    · intro n hn
      obtain ⟨member, hmember, hn⟩ := mem_numbersMembers.mp hn
      exact (h member.1 member.2 hmember).fits n hn

theorem Textual.insert {members : StringMap Json} (h : (ofMap members).Textual) (key : String)
    {value : Json} (hvalue : value.Textual) : (ofMap (members.insert key value)).Textual := by
  refine textual_ofMap_iff.mpr fun name found hfound ↦ ?_
  rw [StringMap.get?_insert] at hfound
  split at hfound
  · cases hfound
    exact hvalue
  · exact textual_ofMap_iff.mp h name found hfound

theorem textual_nat {n : Nat} (hn : n < 2 ^ 64) : (nat n).Textual := by
  refine ⟨trivial, fun m hm ↦ ?_⟩
  cases List.mem_singleton.mp hm
  simp only [Number.Fits]
  omega

theorem reading_nat {n : Nat} (hn : n < 2 ^ 64) (depth : Nat) :
    (nat n).reading depth = some (nat n) := by
  have hfits := (textual_nat hn).fits (.int n) (by simp [nat, numbers])
  rw [nat, reading_num, Number.reread_int hfits, Option.map_some]

/-- The double is read from its text. -/
def ReadBack (x : Binary64) : Prop := read (float x).compact = some (float x)

instance (x : Binary64) : Decidable (ReadBack x) := inferInstanceAs (Decidable (_ = _))

theorem readBack_iff (x : Binary64) :
    ReadBack x ↔ (Number.float x).reread = some (.float x) := by
  simp [ReadBack, read_compact, float, reading_num]

/-- A value that a text gave is read back if it is not nested too deep and each of its doubles is
read back. -/
theorem Textual.read_compact_iff {json : Json} (h : json.Textual) :
    read json.compact = some json ↔
      json.nesting ≤ RawJson.greatestDepth ∧
        ∀ x : Binary64, .float x ∈ json.numbers → ReadBack x := by
  rw [read_compact, reading_self_iff json h.canonical]
  refine and_congr_right fun _ ↦ ⟨fun hall x hx ↦ (readBack_iff x).mpr (hall _ hx), ?_⟩
  intro hall n hn
  cases n with
  | int i => exact Number.reread_int (h.fits _ hn)
  | float x => exact (readBack_iff x).mp (hall x hn)

end Json

end FacetSearch
