import FacetSearch.Settings.File
import FacetSearch.Proofs.NumberLiterals
import FacetSearch.Proofs.QuotedStrings

/-!
# Written values are read back

What stands after the equals sign of a line may be a string, an integer of 64 bits, or an array of
strings, which has a line for each as soon as there are two. Up to the end of its last line it is read
as the value that was written.
-/

namespace FacetSearch.Toml

/-! ## Between the parts of a text -/

theorem skipGaps_of_head {cs : List Char} (hcs : ∀ c ∈ cs.head?, isGap c = false) :
    skipGaps cs = cs := (takeWhile_dropWhile_append (List.forall_mem_nil _) hcs).2

/-- A character that begins no blank, comment or line break. -/
def IsSolid (c : Char) : Prop := isGap c = false ∧ c ≠ '#' ∧ c ≠ '\n' ∧ c ≠ '\r'

instance : DecidablePred IsSolid := fun _ ↦ inferInstanceAs (Decidable (_ ∧ _))

theorem skipLines_of_skipGaps {cs rest : List Char} {c : Char} (hcs : skipGaps cs = c :: rest)
    (hc : IsSolid c) (fuel : Nat) : skipLines (fuel + 1) cs = some (c :: rest) := by
  obtain ⟨-, hcomment, hline, hreturn⟩ := hc
  have hskip : skipComment (c :: rest) = some (c :: rest) := by
    rw [skipComment]
    exact fun _ heq ↦ hcomment (List.cons.inj heq).1
  have hbreak : skipLineBreak (c :: rest) = none := by
    rw [skipLineBreak]
    · exact fun _ heq ↦ hline (List.cons.inj heq).1
    · exact fun _ heq ↦ hreturn (List.cons.inj heq).1
  simp [skipLines, hcs, hskip, hbreak]

theorem skipLines_solid {c : Char} (hc : IsSolid c) (fuel : Nat) (rest : List Char) :
    skipLines fuel (c :: rest) = some (c :: rest) := by
  have hcs : skipGaps (c :: rest) = c :: rest := skipGaps_of_head (by simpa using hc.1)
  cases fuel with
  | zero => rfl
  | succ fuel => exact skipLines_of_skipGaps hcs hc fuel

theorem skipLines_lineBreak (fuel : Nat) (rest : List Char) :
    skipLines (fuel + 1) ('\n' :: rest) = skipLines fuel rest := by
  have hcs : skipGaps ('\n' :: rest) = '\n' :: rest := skipGaps_of_head (by simp [isGap])
  simp [skipLines, hcs, skipComment, skipLineBreak]

/-! ## Values -/

/-- The text stands for the value, up to the end of its last line. -/
structure Writes (text : String) (value : Toml) : Prop where
  head : ∃ c ∈ text.toList.head?, isGap c = false
  read : ∀ tail, readValue greatestDepth (text.toList ++ '\n' :: tail) = some (value, '\n' :: tail)

theorem quote_eq_cons (cs : List Char) :
    ∃ mark text, quote cs = mark :: text ∧ (mark = '"' ∨ mark = apostrophe) := by
  simp only [quote]
  split
  · exact ⟨_, _, rfl, .inl rfl⟩
  split
  · exact ⟨_, _, rfl, .inr rfl⟩
  split
  · exact ⟨_, _, rfl, .inl rfl⟩
  split
  · exact ⟨_, _, rfl, .inr rfl⟩
  split
  · exact ⟨_, _, rfl, .inl rfl⟩
  · exact ⟨_, _, rfl, .inl rfl⟩

/-- A value that begins with neither a bracket nor a brace. -/
theorem readValue_scalar {c : Char} (hc : c ≠ '[' ∧ c ≠ '\x7b') (depth : Nat) (rest : List Char) :
    readValue depth (c :: rest) = match readString (c :: rest) with
      | some (text, rest) => some (string (String.ofList text), rest)
      | none => (readToken (splitToken (c :: rest)).1).map fun value ↦
          (value, (splitToken (c :: rest)).2) := by
  rw [readValue.eq_def]
  split
  · next heq => exact absurd (List.cons.inj heq).1 hc.1
  · next heq => exact absurd (List.cons.inj heq).1 hc.2
  · rfl

theorem readValue_quote (cs : List Char) {rest : List Char}
    (hrest : ∀ c ∈ rest.head?, c ≠ '"' ∧ c ≠ apostrophe) (depth : Nat) :
    readValue depth (quote cs ++ rest) = some (string (String.ofList cs), rest) := by
  have hread := readString_quote cs hrest
  obtain ⟨mark, text, htext, hmark⟩ := quote_eq_cons cs
  have hbracket : mark ≠ '[' ∧ mark ≠ '\x7b' := by
    rcases hmark with rfl | rfl <;> decide
  rw [htext, List.cons_append] at hread ⊢
  rw [readValue_scalar hbracket, hread]

theorem writes_quoted (s : String) : Writes (Settings.quoted s) (string s) := by
  obtain ⟨mark, text, htext, hmark⟩ := quote_eq_cons s.toList
  have hgap : isGap mark = false := by
    rcases hmark with rfl | rfl <;> decide
  rw [Settings.quoted]
  refine ⟨⟨mark, by rw [String.toList_ofList, htext]; rfl, hgap⟩, fun tail ↦ ?_⟩
  rw [String.toList_ofList, readValue_quote s.toList (by simpa using by decide), String.ofList_toList]

/-! ### Integers -/

theorem digitIn_of_isDigit {c : Char} (hc : c.isDigit) : (digitIn 10 c).isSome := by
  have hbounds : 48 ≤ c.toNat ∧ c.toNat ≤ 57 := by
    simpa [Char.isDigit, UInt32.le_iff_toNat_le] using hc
  have hsmall : c.toNat - 48 < 10 := by omega
  simp [digitIn, Text.hexValue, hc, Option.filter, hsmall]

theorem ungrouped_of_digits {digits : List Char} (hne : digits ≠ [])
    (hdigits : ∀ c ∈ digits, c.isDigit) : ungrouped 10 digits = some digits := by
  induction digits with
  | nil => exact absurd rfl hne
  | cons c rest ih =>
    obtain ⟨hc, hrest⟩ := List.forall_mem_cons.mp hdigits
    obtain ⟨n, hn⟩ := Option.isSome_iff_exists.mp (digitIn_of_isDigit hc)
    match rest with
    | [] => simp [ungrouped, hn]
    | d :: more =>
      have hd : d ≠ '_' := by
        rintro rfl
        exact absurd (hrest _ List.mem_cons_self) (by decide)
      rw [ungrouped, ih (List.cons_ne_nil _ _) hrest, hn]
      · rfl
      · exact fun h ↦ absurd h (List.cons_ne_nil _ _)
      · exact fun _ heq ↦ hd (List.cons.inj heq).1

theorem readDecimal_toDigits (n : Nat) :
    readDecimal (Nat.toDigits 10 n) = some (Nat.toDigits 10 n) := by
  have hread := ungrouped_of_digits (Nat.toDigits_ne_nil) fun c hc ↦ isDigit_of_mem_toDigits (n := n) hc
  rw [readDecimal, hread]
  split
  · next heq =>
    by_cases hn : n = 0
    · subst hn
      cases heq
    · obtain ⟨first, others, hdigits, hfirst⟩ := exists_toDigits_eq_cons hn
      rw [hdigits] at heq
      exact absurd (List.cons.inj (Option.some.inj heq)).1 hfirst
  · rfl

theorem ne_of_mem_intText {i : Int} {c d : Char} (hc : c ∈ intText i) (hd : d.isDigit = false)
    (hminus : d ≠ '-') : c ≠ d := by
  rintro rfl
  rcases mem_intText hc with hdigit | hsign
  · rw [hd] at hdigit
    cases hdigit
  · exact hminus hsign

theorem withoutSign_intText (i : Int) :
    withoutSign (intText i) = (decide (i < 0), Nat.toDigits 10 i.natAbs) := by
  rw [intText]
  split
  · next hnegative => rw [withoutSign, decide_eq_true hnegative]
  · next hpositive =>
    obtain ⟨first, others, htext⟩ :=
      List.exists_cons_of_ne_nil (@Nat.toDigits_ne_nil i.natAbs 10)
    have hdigit : first.isDigit := isDigit_of_mem_toDigits (htext ▸ List.mem_cons_self)
    have hsign : first ≠ '-' ∧ first ≠ '+' := by
      constructor <;>
        · rintro rfl
          cases hdigit
    rw [htext, withoutSign, decide_eq_false hpositive]
    · exact fun _ heq ↦ hsign.1 (List.cons.inj heq).1
    · exact fun _ heq ↦ hsign.2 (List.cons.inj heq).1

theorem readInteger_intText {i : Int} (hi : fitsInt64 i = true) :
    readInteger (intText i) = some (integer i) := by
  have hvalue : (if decide (i < 0) = true then -((i.natAbs : Nat) : Int) else i.natAbs) = i := by
    split
    · next hnegative =>
      have := of_decide_eq_true hnegative
      omega
    · next hpositive =>
      have := of_decide_eq_false (Bool.eq_false_iff.mpr hpositive)
      omega
  have hbase {base : Char} (hdigit : base.isDigit = false) (hminus : base ≠ '-') (rest : List Char) :
      intText i ≠ '0' :: base :: rest := by
    intro heq
    have hmem : base ∈ intText i := heq ▸ List.mem_cons_of_mem _ List.mem_cons_self
    exact ne_of_mem_intText hmem hdigit hminus rfl
  rw [readInteger]
  · simp only [withoutSign_intText, readDecimal_toDigits, Option.bind_some, digitsValue_toDigits,
      hvalue, boundedInteger, hi, if_true]
  · exact hbase (by decide) (by decide)
  · exact hbase (by decide) (by decide)
  · exact hbase (by decide) (by decide)

theorem readString_of_head {c : Char} (hquote : c ≠ '"') (hmark : c ≠ apostrophe)
    (rest : List Char) : readString (c :: rest) = none := by
  match rest with
  | [] => simp [readString, hquote]
  | [d] => simp [readString, hmark]
  | d :: e :: more => simp [readString, hquote, hmark]

theorem isTokenChar_of_mem_intText {i : Int} {c : Char} (hc : c ∈ intText i) :
    isTokenChar c = true := by
  rcases mem_intText hc with hdigit | rfl
  · simp [isTokenChar, Char.isAlphanum, hdigit]
  · decide

theorem splitToken_lineBreak {token : List Char} (htoken : ∀ c ∈ token, isTokenChar c = true)
    (tail : List Char) : splitToken (token ++ '\n' :: tail) = (token, '\n' :: tail) := by
  have hhead : ∀ c ∈ ('\n' :: tail).head?, isTokenChar c = false := by simp [isTokenChar]
  obtain ⟨htake, hdrop⟩ := takeWhile_dropWhile_append htoken hhead
  simp [splitToken, htake, hdrop]

theorem readToken_intText {i : Int} (hi : fitsInt64 i = true) :
    readToken (intText i) = some (integer i) := by
  have hletter {c : Char} (hdigit : c.isDigit = false) (hminus : c ≠ '-') (rest : List Char) :
      intText i ≠ c :: rest := by
    intro heq
    exact ne_of_mem_intText (heq ▸ List.mem_cons_self) hdigit hminus rfl
  rw [readToken, if_neg (hletter (by decide) (by decide) _),
    if_neg (hletter (by decide) (by decide) _), readInteger_intText hi]
  rfl

theorem toList_toString (i : Int) : (toString i).toList = intText i := by
  cases i with
  | ofNat n =>
    change (Nat.repr n).toList = _
    simp [intText, Nat.repr]
  | negSucc n =>
    change ("-" ++ Nat.repr (n + 1)).toList = _
    simp [intText, Nat.repr]

theorem writes_toString {i : Int} (hi : fitsInt64 i = true) : Writes (toString i) (integer i) := by
  have hlist := toList_toString i
  obtain ⟨first, others, htext⟩ : ∃ first others, intText i = first :: others := by
    apply List.exists_cons_of_ne_nil
    unfold intText
    split <;> simp [Nat.toDigits_ne_nil]
  have hne {d : Char} (hd : d.isDigit = false) (hminus : d ≠ '-') : first ≠ d :=
    ne_of_mem_intText (htext ▸ List.mem_cons_self) hd hminus
  refine ⟨⟨first, by rw [hlist, htext]; rfl, ?_⟩, fun tail ↦ ?_⟩
  · have hblank : first ≠ ' ' := hne (by decide) (by decide)
    have htab : first ≠ '\t' := hne (by decide) (by decide)
    simp [isGap, hblank, htab]
  · have hsplit := splitToken_lineBreak (fun c ↦ isTokenChar_of_mem_intText (i := i)) tail
    have hread := readToken_intText hi
    rw [htext] at hsplit hread
    rw [hlist, htext]
    rw [List.cons_append] at hsplit ⊢
    rw [readValue_scalar ⟨hne (by decide) (by decide), hne (by decide) (by decide)⟩,
      readString_of_head (hne (by decide) (by decide)) (hne (by decide) (by decide)), hsplit, hread]
    rfl

/-! ### Arrays of strings -/

theorem skipLines_indented {gaps cs : List Char} (hgaps : ∀ c ∈ gaps, isGap c = true)
    (hcs : ∃ c ∈ cs.head?, IsSolid c) (fuel : Nat) :
    skipLines (fuel + 2) ('\n' :: (gaps ++ cs)) = some cs := by
  match cs, hcs with
  | c :: rest, ⟨_, rfl, hc⟩ =>
    have hskip : skipGaps (gaps ++ c :: rest) = c :: rest :=
      (takeWhile_dropWhile_append hgaps (by simpa using hc.1)).2
    rw [skipLines_lineBreak, skipLines_of_skipGaps hskip hc]

section Elements

variable {value : ValueReader} {cs more rest tail : List Char} {c : Char} {element : Toml}

theorem readElements_last (hcs : skipLines cs.length cs = some (c :: more)) (hc : c ≠ ']')
    (hvalue : value (c :: more) = some (element, rest))
    (hrest : skipLines rest.length rest = some (']' :: tail)) (fuel : Nat) :
    readElements value (fuel + 1) cs = some ([element], tail) := by
  rw [readElements, hcs]
  simp only [Option.bind_eq_bind, Option.bind_some]
  split
  · next heq => exact absurd (List.cons.inj heq).1 hc
  · simp [hvalue, hrest]

theorem readElements_next (hcs : skipLines cs.length cs = some (c :: more)) (hc : c ≠ ']')
    (hvalue : value (c :: more) = some (element, rest))
    (hrest : skipLines rest.length rest = some (',' :: tail)) (fuel : Nat) :
    readElements value (fuel + 1) cs = (readElements value fuel tail).map fun (elements, rest) ↦
      (element :: elements, rest) := by
  rw [readElements, hcs]
  simp only [Option.bind_eq_bind, Option.bind_some]
  split
  · next heq => exact absurd (List.cons.inj heq).1 hc
  · simp [hvalue, hrest, Option.map_eq_bind]

end Elements

/-- The lines of an array of strings. -/
def elementLines (strings : List String) : List Char :=
  strings.flatMap fun s ↦ [' ', ' ', ' ', ' '] ++ quote s.toList ++ [',', '\n']

theorem readElements_elementLines (depth : Nat) (strings : List String) (tail : List Char)
    (fuel : Nat) :
    readElements (readValue depth) (strings.length + 1 + fuel)
      ('\n' :: (elementLines strings ++ ']' :: tail)) = some (strings.map string, tail) := by
  induction strings with
  | nil =>
    have hskip := @skipLines_indented [] (']' :: tail) (List.forall_mem_nil _)
      ⟨']', rfl, by decide⟩ tail.length
    have hfuel : ([] : List String).length + 1 + fuel = fuel + 1 := by simp [Nat.add_comm]
    rw [hfuel, readElements]
    simp only [elementLines, List.flatMap_nil, List.nil_append] at hskip ⊢
    simp [hskip]
  | cons s strings ih =>
    obtain ⟨mark, text, htext, hmark⟩ := quote_eq_cons s.toList
    have hsolid : IsSolid mark ∧ mark ≠ ']' := by
      rcases hmark with rfl | rfl <;> decide
    set more : List Char := ',' :: '\n' :: (elementLines strings ++ ']' :: tail)
    have hlines : elementLines (s :: strings) ++ ']' :: tail =
        [' ', ' ', ' ', ' '] ++ mark :: (text ++ more) := by
      simp [elementLines, more, htext]
    have hskip := @skipLines_indented [' ', ' ', ' ', ' '] (mark :: (text ++ more))
      (by simp [isGap]) ⟨mark, rfl, hsolid.1⟩
    have hvalue := @readValue_quote s.toList more (by simpa [more] using by decide) depth
    rw [htext, String.ofList_toList] at hvalue
    have hfuel : (s :: strings).length + 1 + fuel = (strings.length + 1 + fuel) + 1 := by
      simp only [List.length_cons]
      omega
    rw [hlines, hfuel, readElements_next (hskip _) hsolid.2 hvalue
      (skipLines_solid (by decide) _ _), ih]
    rfl

theorem length_le_elementLines (strings : List String) :
    strings.length ≤ (elementLines strings).length := by
  induction strings with
  | nil => exact Nat.le_refl 0
  | cons s strings ih =>
    have hlength : (elementLines (s :: strings)).length =
        (quote s.toList).length + 6 + (elementLines strings).length := by
      simp [elementLines]
      omega
    rw [hlength, List.length_cons]
    omega

theorem quotedList_append (s t : String) (strings : List String) (rest : List Char) :
    (Settings.quotedList (s :: t :: strings)).toList ++ rest =
      '[' :: '\n' :: (elementLines (s :: t :: strings) ++ ']' :: rest) := by
  simp [Settings.quotedList, Settings.quoted, elementLines, List.flatMap_map]

theorem readValue_array {depth : Nat} {rest tail : List Char} {elements : List Toml}
    (hread : readElements (readValue depth) (rest.length + 1) rest = some (elements, tail)) :
    readValue (depth + 1) ('[' :: rest) = some (array elements, tail) := by
  rw [readValue]
  simp [hread]

theorem head?_quotedList (strings : List String) :
    (Settings.quotedList strings).toList.head? = some '[' := by
  match strings with
  | [] => rfl
  | [s] => simp [Settings.quotedList]
  | s :: t :: strings => simp [Settings.quotedList]

theorem writes_quotedList (strings : List String) :
    Writes (Settings.quotedList strings) (array (strings.map string)) := by
  refine ⟨⟨'[', head?_quotedList strings, rfl⟩, fun tail ↦ ?_⟩
  match strings with
  | [] => rfl
  | [s] =>
    obtain ⟨mark, text, htext, hmark⟩ := quote_eq_cons s.toList
    have hsolid : IsSolid mark ∧ mark ≠ ']' := by
      rcases hmark with rfl | rfl <;> decide
    have hlist : (Settings.quotedList [s]).toList ++ '\n' :: tail =
        '[' :: mark :: (text ++ ']' :: '\n' :: tail) := by
      simp [Settings.quotedList, Settings.quoted, htext]
    have hvalue := @readValue_quote s.toList (']' :: '\n' :: tail) (by simpa using by decide) 78
    rw [htext, String.ofList_toList] at hvalue
    rw [hlist]
    apply readValue_array
    exact readElements_last (skipLines_solid hsolid.1 _ _) hsolid.2 hvalue
      (skipLines_solid (by decide) _ _) _
  | s :: t :: strings =>
    have hread := readElements_elementLines 78 (s :: t :: strings) ('\n' :: tail)
    obtain ⟨fuel, hfuel⟩ := Nat.exists_eq_add_of_le (length_le_elementLines (s :: t :: strings))
    have henough :
        ('\n' :: (elementLines (s :: t :: strings) ++ ']' :: '\n' :: tail)).length + 1 =
          (s :: t :: strings).length + 1 + (fuel + 3 + tail.length) := by
      rw [List.length_cons, List.length_append, hfuel]
      simp only [List.length_cons]
      omega
    rw [quotedList_append]
    apply readValue_array
    rw [henough, hread]

end FacetSearch.Toml
