import FacetSearch.Json.Reader
import FacetSearch.Proofs.DecimalText

/-!
# Compact text tells the value

A value is known from its compact text, also where more text follows: a string ends at its quote, a
container at its bracket, a number where no character of a number follows. Since strings escape the
characters below space, no compact text has a line break, whatever the names and strings in it.
-/

namespace FacetSearch

namespace Text

theorem hexValue_hexDigit {n : Nat} (hn : n < 16) : hexValue (hexDigit n) = some n := by
  have hall : ∀ n < 16, hexValue (hexDigit n) = some n := by decide
  exact hall n hn

theorem le_hexDigit {n : Nat} (hn : n < 16) : 48 ≤ (hexDigit n).toNat := by
  have hall : ∀ n < 16, 48 ≤ (hexDigit n).toNat := by decide
  exact hall n hn

end Text

/-! ## Strings -/

namespace RawJson

open Json (escapeChar)

theorem hexUnit_control {n : Nat} (hn : n < 32) :
    hexUnit '0' '0' (Text.hexDigit (n / 16)) (Text.hexDigit (n % 16)) = some n := by
  have hhigh := Text.hexValue_hexDigit (show n / 16 < 16 by omega)
  have hlow := Text.hexValue_hexDigit (show n % 16 < 16 by omega)
  have hzero : Text.hexValue '0' = some 0 := rfl
  simp only [hexUnit, hzero, hhigh, hlow, Option.bind_eq_bind, Option.bind_some, Option.some.injEq]
  omega

/-- An escaped character is read as one piece, which stands for that character. -/
theorem readPieces_escapeChar (c : Char) (rest : List Char) :
    ∃ piece, readPieces (escapeChar c ++ rest) =
        (readPieces rest).map (fun (pieces, rest) ↦ (piece :: pieces, rest)) ∧
      ∀ pieces, joinPieces (piece :: pieces) = (joinPieces pieces).map (c :: ·) := by
  have hshort {e : Char} (hu : e ≠ 'u') (he : escaped e = some c) :
      readPieces (['\\', e] ++ rest) =
        (readPieces rest).map fun (pieces, rest) ↦ (.char c :: pieces, rest) := by
    rw [List.cons_append, List.cons_append, List.nil_append, readPieces, he]
    · cases readPieces rest <;> rfl
    · intros
      simp_all
  have hescaped {n : Nat} (hc : c.toNat = n) : some (Char.ofNat n) = some c := by
    rw [← hc, Char.ofNat_toNat]
  unfold escapeChar
  split
  · next hc => exact ⟨.char c, hshort (by decide) (by simp [escaped, hc]), fun _ ↦ rfl⟩
  split
  · next hc => exact ⟨.char c, hshort (by decide) (by simp [escaped, hc]), fun _ ↦ rfl⟩
  split
  · next hc => exact ⟨.char c, hshort (by decide) (hescaped hc), fun _ ↦ rfl⟩
  split
  · next hc => exact ⟨.char c, hshort (by decide) (hescaped hc), fun _ ↦ rfl⟩
  split
  · next hc => exact ⟨.char c, hshort (by decide) (hescaped hc), fun _ ↦ rfl⟩
  split
  · next hc => exact ⟨.char c, hshort (by decide) (hescaped hc), fun _ ↦ rfl⟩
  split
  · next hc => exact ⟨.char c, hshort (by decide) (hescaped hc), fun _ ↦ rfl⟩
  split
  · next hcontrol =>
    -- The escape gives the number of the character, which is below the surrogates.
    refine ⟨.unit c.toNat, ?_, fun pieces ↦ ?_⟩
    · simp only [List.cons_append, List.nil_append, readPieces, hexUnit_control hcontrol]
      cases readPieces rest <;> rfl
    · have hhigh : isHighSurrogate c.toNat = false := by
        simp only [isHighSurrogate, Bool.and_eq_false_iff, decide_eq_false_iff_not]
        omega
      have hlow : isLowSurrogate c.toNat = false := by
        simp only [isLowSurrogate, Bool.and_eq_false_iff, decide_eq_false_iff_not]
        omega
      conv_lhs => unfold joinPieces
      simp [hhigh, hlow]
  · next hquote hbackslash _ _ _ _ _ hcontrol =>
    refine ⟨.char c, ?_, fun _ ↦ rfl⟩
    rw [List.singleton_append, readPieces]
    · simp only [hcontrol, hbackslash, or_self, if_false]
      cases readPieces rest <;> rfl
    all_goals simp_all

theorem readString_escaped (s : String) (rest : List Char) :
    readString (s.toList.flatMap escapeChar ++ '"' :: rest) = some (some s, rest) := by
  obtain ⟨pieces, hread, hjoin⟩ : ∃ pieces,
      readPieces (s.toList.flatMap escapeChar ++ '"' :: rest) = some (pieces, rest) ∧
        joinPieces pieces = some s.toList := by
    induction s.toList with
    | nil => exact ⟨[], by simp [readPieces], rfl⟩
    | cons c cs ih =>
      obtain ⟨pieces, hread, hjoin⟩ := ih
      obtain ⟨piece, hpiece, hchar⟩ :=
        readPieces_escapeChar c (cs.flatMap escapeChar ++ '"' :: rest)
      refine ⟨piece :: pieces, ?_, ?_⟩
      · rw [List.flatMap_cons, List.append_assoc, hpiece, hread, Option.map_some]
      · rw [hchar, hjoin, Option.map_some]
  simp [readString, hread, hjoin]

end RawJson

namespace Json

theorem quoted_append_inj {s t : String} {rest others : List Char}
    (hsame : quoted s ++ rest = quoted t ++ others) : s = t ∧ rest = others := by
  simp only [quoted, List.cons_append, List.append_assoc, List.nil_append, List.cons.injEq,
    true_and] at hsame
  have hread := congrArg RawJson.readString hsame
  rw [RawJson.readString_escaped, RawJson.readString_escaped] at hread
  simpa using hread

/-! ## Values -/

/-- The first character of a value that is not a number. -/
def mark : Json → Option Char
  | null => some 'n'
  | bool true => some 't'
  | bool false => some 'f'
  | num _ => none
  | str _ => some '"'
  | arr _ => some '['
  | obj _ => some '{'

/-- The text does not go on as a number does. -/
def Ends (text : List Char) : Prop := ∀ c ∈ text.head?, ¬IsNumeral c

theorem ends_cons {c : Char} {rest : List Char} (hc : ¬IsNumeral c) : Ends (c :: rest) := by
  simpa [Ends] using hc

/-- What kind of value a text begins with is told by its first character. -/
theorem mark_eq (json : Json) (rest : List Char) :
    json.mark = (json.text ++ rest).head?.filter fun c ↦ ¬IsNumeral c := by
  match json with
  | null | bool true | bool false => rfl
  | str _ | arr _ | obj _ => rfl
  | num n =>
    obtain ⟨c, tail, htext, hc⟩ := n.exists_text_eq_cons
    simp [mark, text, htext, Option.filter, hc]

theorem takeWhile_number (n : Number) {rest : List Char} (hrest : Ends rest) :
    (n.text ++ rest).takeWhile (IsNumeral ·) = n.text :=
  (takeWhile_dropWhile_append (fun c hc ↦ decide_eq_true (n.numeral_text c hc))
    fun c hc ↦ decide_eq_false (hrest c hc)).1

theorem number_append_inj {n m : Number} {rest others : List Char} (hrest : Ends rest)
    (hothers : Ends others) (hsame : n.text ++ rest = m.text ++ others) :
    n = m ∧ rest = others := by
  have htext := congrArg (List.takeWhile (IsNumeral ·)) hsame
  rw [takeWhile_number n hrest, takeWhile_number m hothers] at htext
  rw [htext] at hsame
  exact ⟨Number.text_injective htext, List.append_cancel_left hsame⟩

/-- The text of elements after the first. -/
def laterElements : List Json → List Char
  | [] => []
  | element :: rest => ',' :: elementsText (element :: rest)

theorem elementsText_cons (element : Json) (rest : List Json) :
    elementsText (element :: rest) = text element ++ laterElements rest := by
  cases rest <;> simp [elementsText, laterElements]

/-- The text of members after the first. -/
def laterMembers : List (String × Json) → List Char
  | [] => []
  | member :: rest => ',' :: membersText (member :: rest)

theorem ends_laterElements (elements : List Json) (rest : List Char) :
    Ends (laterElements elements ++ ']' :: rest) := by
  cases elements <;> exact ends_cons (by decide)

theorem membersText_cons (name : String) (value : Json) (rest : List (String × Json)) :
    membersText ((name, value) :: rest) =
      quoted name ++ ':' :: (text value ++ laterMembers rest) := by
  cases rest <;> simp [membersText, laterMembers]

/-- The values are of one kind, and the same where they have no parts. -/
def SameKind : Json → Json → Prop
  | null, null | num _, num _ | str _, str _ | arr _, arr _ | obj _, obj _ => True
  | bool x, bool y => x = y
  | _, _ => False

theorem sameKind_of_append_eq {a b : Json} {rest others : List Char}
    (hsame : text a ++ rest = text b ++ others) : SameKind a b := by
  have hmark : a.mark = b.mark := by rw [mark_eq a rest, mark_eq b others, hsame]
  obtain _ | (_ | _) | _ | _ | _ | _ := a <;> obtain _ | (_ | _) | _ | _ | _ | _ := b <;>
    simp [mark, SameKind] at hmark ⊢

/-- No value begins with the bracket that ends an array. -/
theorem text_append_ne_bracket (json : Json) (rest others : List Char) :
    text json ++ rest ≠ ']' :: others := by
  intro hsame
  have hmark := json.mark_eq rest
  rw [hsame] at hmark
  have hbracket : json.mark = some ']' := hmark
  obtain _ | (_ | _) | _ | _ | _ | _ := json <;> simp [mark] at hbracket

theorem ends_laterMembers (members : List (String × Json)) (rest : List Char) :
    Ends (laterMembers members ++ '}' :: rest) := by
  cases members <;> exact ends_cons (by decide)

mutual

/-- A value ends where its text does. -/
theorem text_append_inj : (a b : Json) → {rest others : List Char} → Ends rest → Ends others →
    text a ++ rest = text b ++ others → a = b ∧ rest = others
  | .null, b, _, _, _, _, hsame => by
    have hkind := sameKind_of_append_eq hsame
    cases b with
    | null => exact ⟨rfl, List.append_cancel_left hsame⟩
    | _ => exact hkind.elim
  | .bool x, b, _, _, _, _, hsame => by
    have hkind := sameKind_of_append_eq hsame
    cases b with
    | bool y =>
      obtain rfl : x = y := hkind
      exact ⟨rfl, List.append_cancel_left hsame⟩
    | _ => exact hkind.elim
  | .num n, b, _, _, hrest, hothers, hsame => by
    have hkind := sameKind_of_append_eq hsame
    cases b with
    | num m =>
      obtain ⟨rfl, hrests⟩ := number_append_inj hrest hothers hsame
      exact ⟨rfl, hrests⟩
    | _ => exact hkind.elim
  | .str s, b, _, _, _, _, hsame => by
    have hkind := sameKind_of_append_eq hsame
    cases b with
    | str t =>
      obtain ⟨rfl, hrests⟩ := quoted_append_inj hsame
      exact ⟨rfl, hrests⟩
    | _ => exact hkind.elim
  | .arr xs, b, rest, others, _, _, hsame => by
    have hkind := sameKind_of_append_eq hsame
    cases b with
    | arr ys =>
      have hinner : elementsText xs ++ ']' :: rest = elementsText ys ++ ']' :: others := by
        simpa [text] using hsame
      obtain ⟨rfl, hrests⟩ := elementsText_append_inj xs ys hinner
      exact ⟨rfl, hrests⟩
    | _ => exact hkind.elim
  | .obj xs, b, rest, others, _, _, hsame => by
    have hkind := sameKind_of_append_eq hsame
    cases b with
    | obj ys =>
      have hinner : membersText xs ++ '}' :: rest = membersText ys ++ '}' :: others := by
        simpa [text] using hsame
      obtain ⟨rfl, hrests⟩ := membersText_append_inj xs ys hinner
      exact ⟨rfl, hrests⟩
    | _ => exact hkind.elim

/-- Elements end at the bracket. -/
theorem elementsText_append_inj : (xs ys : List Json) → {rest others : List Char} →
    elementsText xs ++ ']' :: rest = elementsText ys ++ ']' :: others → xs = ys ∧ rest = others
  | [], [], _, _, hsame => ⟨rfl, (List.cons.inj hsame).2⟩
  | [], y :: ys, _, _, hsame => by
    rw [elementsText_cons, List.append_assoc] at hsame
    exact absurd hsame.symm (text_append_ne_bracket y _ _)
  | x :: xs, [], _, _, hsame => by
    rw [elementsText_cons, List.append_assoc] at hsame
    exact absurd hsame (text_append_ne_bracket x _ _)
  | x :: xs, y :: ys, rest, others, hsame => by
    rw [elementsText_cons, elementsText_cons, List.append_assoc, List.append_assoc] at hsame
    obtain ⟨rfl, hlater⟩ := text_append_inj x y (ends_laterElements xs rest)
      (ends_laterElements ys others) hsame
    match xs, ys with
    | [], [] => exact ⟨rfl, (List.cons.inj hlater).2⟩
    | [], _ :: _ => exact absurd (List.cons.inj hlater).1 (by decide)
    | _ :: _, [] => exact absurd (List.cons.inj hlater).1 (by decide)
    | x' :: xs, y' :: ys =>
      obtain ⟨hrest, hrests⟩ :=
        elementsText_append_inj (x' :: xs) (y' :: ys) (List.cons.inj hlater).2
      exact ⟨congrArg (x :: ·) hrest, hrests⟩

/-- Members end at the brace. -/
theorem membersText_append_inj : (xs ys : List (String × Json)) → {rest others : List Char} →
    membersText xs ++ '}' :: rest = membersText ys ++ '}' :: others → xs = ys ∧ rest = others
  | [], [], _, _, hsame => ⟨rfl, (List.cons.inj hsame).2⟩
  | [], (_, _) :: _, _, _, hsame => by
    rw [membersText_cons] at hsame
    exact absurd (List.cons.inj hsame).1 (by decide)
  | (_, _) :: _, [], _, _, hsame => by
    rw [membersText_cons] at hsame
    exact absurd (List.cons.inj hsame).1 (by decide)
  | (name, x) :: xs, (other, y) :: ys, rest, others, hsame => by
    simp only [membersText_cons, List.append_assoc, List.cons_append] at hsame
    obtain ⟨rfl, hvalues⟩ := quoted_append_inj hsame
    obtain ⟨rfl, hlater⟩ := text_append_inj x y (ends_laterMembers xs rest)
      (ends_laterMembers ys others) (List.cons.inj hvalues).2
    match xs, ys with
    | [], [] => exact ⟨rfl, (List.cons.inj hlater).2⟩
    | [], _ :: _ => exact absurd (List.cons.inj hlater).1 (by decide)
    | _ :: _, [] => exact absurd (List.cons.inj hlater).1 (by decide)
    | x' :: xs, y' :: ys =>
      obtain ⟨hrest, hrests⟩ :=
        membersText_append_inj (x' :: xs) (y' :: ys) (List.cons.inj hlater).2
      exact ⟨congrArg ((name, x) :: ·) hrest, hrests⟩

end

/-- No two values have one compact text. -/
theorem compact_injective : Function.Injective compact := by
  intro a b hsame
  have htext : a.text ++ [] = b.text ++ [] := by
    have hlists := congrArg String.toList hsame
    simpa [compact] using hlists
  have hend : Ends [] := by simp [Ends]
  exact (text_append_inj a b hend hend htext).1

/-! ## No line breaks -/

theorem le_of_isNumeral {c : Char} (hc : IsNumeral c) : 32 ≤ c.toNat := by
  rcases hc with hdigit | rfl | rfl | rfl | rfl
  · have hrange : 48 ≤ c.val ∧ c.val ≤ 57 := by simpa [Char.isDigit] using hdigit
    exact le_trans (by decide) (UInt32.le_iff_toNat_le.mp hrange.1)
  all_goals decide

theorem le_of_mem_escapeChar {c e : Char} (he : e ∈ escapeChar c) : 32 ≤ e.toNat := by
  unfold escapeChar at he
  split_ifs at he with _ _ _ _ _ _ _ hcontrol <;>
    simp only [List.mem_cons, List.not_mem_nil, or_false] at he
  on_goal 8 =>
    have hhigh := Text.le_hexDigit (show c.toNat / 16 < 16 by omega)
    have hlow := Text.le_hexDigit (show c.toNat % 16 < 16 by omega)
    rcases he with rfl | rfl | rfl | rfl | rfl | rfl
    all_goals first | decide | omega
  on_goal 8 =>
    subst he
    omega
  all_goals rcases he with rfl | rfl <;> decide

theorem le_of_mem_quoted {s : String} {c : Char} (hc : c ∈ quoted s) : 32 ≤ c.toNat := by
  simp only [quoted, List.mem_cons, List.mem_append, List.not_mem_nil, or_false,
    List.mem_flatMap] at hc
  rcases hc with rfl | ⟨_, -, hc⟩ | rfl
  · decide
  · exact le_of_mem_escapeChar hc
  · decide

mutual

/-- The characters of a compact text are from the space on. -/
theorem le_of_mem_text : (json : Json) → {c : Char} → c ∈ text json → 32 ≤ c.toNat
  | .null, _, hc | .bool true, _, hc => by
    simp only [text, List.mem_cons, List.not_mem_nil, or_false] at hc
    rcases hc with rfl | rfl | rfl | rfl <;> decide
  | .bool false, _, hc => by
    simp only [text, List.mem_cons, List.not_mem_nil, or_false] at hc
    rcases hc with rfl | rfl | rfl | rfl | rfl <;> decide
  | .num n, c, hc => le_of_isNumeral (n.numeral_text c hc)
  | .str s, _, hc => le_of_mem_quoted hc
  | .arr elements, c, hc => by
    simp only [text, List.mem_cons, List.mem_append, List.not_mem_nil, or_false] at hc
    rcases hc with rfl | hc | rfl
    · decide
    · exact le_of_mem_elementsText elements hc
    · decide
  | .obj members, c, hc => by
    simp only [text, List.mem_cons, List.mem_append, List.not_mem_nil, or_false] at hc
    rcases hc with rfl | hc | rfl
    · decide
    · exact le_of_mem_membersText members hc
    · decide

theorem le_of_mem_elementsText : (elements : List Json) → {c : Char} →
    c ∈ elementsText elements → 32 ≤ c.toNat
  | [], _, hc => absurd hc List.not_mem_nil
  | element :: rest, c, hc => by
    rw [elementsText_cons, List.mem_append] at hc
    rcases hc with hc | hc
    · exact le_of_mem_text element hc
    · match rest with
      | [] => exact absurd hc List.not_mem_nil
      | element :: rest =>
        rcases List.mem_cons.mp hc with rfl | hc
        · decide
        · exact le_of_mem_elementsText (element :: rest) hc

theorem le_of_mem_membersText : (members : List (String × Json)) → {c : Char} →
    c ∈ membersText members → 32 ≤ c.toNat
  | [], _, hc => absurd hc List.not_mem_nil
  | (name, value) :: rest, c, hc => by
    rw [membersText_cons, List.mem_append, List.mem_cons, List.mem_append] at hc
    rcases hc with hc | rfl | hc | hc
    · exact le_of_mem_quoted hc
    · decide
    · exact le_of_mem_text value hc
    · match rest with
      | [] => exact absurd hc List.not_mem_nil
      | member :: rest =>
        rcases List.mem_cons.mp hc with rfl | hc
        · decide
        · exact le_of_mem_membersText (member :: rest) hc

end

theorem newline_not_mem_compact (json : Json) : '\n' ∉ json.compact.toList := by
  intro hbreak
  rw [compact, String.toList_ofList] at hbreak
  exact absurd (le_of_mem_text json hbreak) (by decide)

end Json

end FacetSearch
