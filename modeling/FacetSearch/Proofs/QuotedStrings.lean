import FacetSearch.Toml.Text
import FacetSearch.Proofs.PercentCoding

/-!
# Written strings are read back

Whatever characters a string has, it is read from the form in which it is written, where neither a
quote nor an apostrophe follows. The one danger is in marks: of quotes in a row no more than two are
written as they are, and of those that end the text the closing ones are the last three.
-/

namespace FacetSearch.Toml

/-! ## Escapes -/

/-- The text stands for the character: a letter or mark behind a backslash, or two digits that tell
its code. -/
inductive IsEscape (c : Char) : List Char → Prop
  | letter {e : Char} (he : escaped e = some c) (hother : e ∉ ['u', 'U', ' ', '\t', '\n', '\r']) :
      IsEscape c ['\\', e]
  | code {high low : Char} {n : Nat} (hn : hexNumber ['0', '0', high, low] = some n)
      (hc : charOf n = some c) : IsEscape c ['\\', 'u', '0', '0', high, low]

theorem isEscape_quote : IsEscape '"' ['\\', '"'] := .letter rfl (by decide)

theorem isEscape_of_escape {multiline : Bool} {c : Char} {text : List Char}
    (h : escape multiline c = some text) : IsEscape c text := by
  have hletter {e : Char} {n : Nat} (hc : c.toNat = n) (he : escaped e = some (Char.ofNat n)) :
      escaped e = some c := by
    rw [he, ← hc, Char.ofNat_toNat]
  unfold escape at h
  split at h
  · next hc => exact Option.some.inj h ▸ .letter (by simp [escaped, hc]) (by decide)
  split at h
  · next hc => exact Option.some.inj h ▸ .letter (hletter hc rfl) (by decide)
  split at h
  · next hc => exact Option.some.inj h ▸ .letter (by simp [escaped, hc]) (by decide)
  split at h
  · next hc =>
    split at h
    · cases h
    · exact Option.some.inj h ▸ .letter (by simp [escaped, hc]) (by decide)
  split at h
  · next hc => exact Option.some.inj h ▸ .letter (hletter hc rfl) (by decide)
  split at h
  · next hc => exact Option.some.inj h ▸ .letter (by simp [escaped, hc]) (by decide)
  split at h
  · next hcontrol =>
    have hsmall : c.toNat < 128 := by
      simp only [isControl, Bool.or_eq_true, Bool.and_eq_true, decide_eq_true_eq, beq_iff_eq]
        at hcontrol
      omega
    have hhigh := Text.hexValue_upperHexDigit (show c.toNat / 16 < 16 by omega)
    have hlow := Text.hexValue_upperHexDigit (show c.toNat % 16 < 16 by omega)
    have hzero : Text.hexValue '0' = some 0 := rfl
    have hnumber : hexNumber ['0', '0', Text.upperHexDigit (c.toNat / 16),
        Text.upperHexDigit (c.toNat % 16)] = some c.toNat := by
      simp only [hexNumber, List.foldlM_cons, List.foldlM_nil, hzero, hhigh, hlow, Option.map_some,
        Option.bind_eq_bind, Option.bind_some, Option.pure_def, Option.some.injEq]
      omega
    have hvalid : c.toNat.isValidChar := c.valid
    exact Option.some.inj h ▸ .code hnumber (by rw [charOf, if_pos hvalid, Char.ofNat_toNat])
  · cases h

theorem isPlain_of_not_isControl {c : Char} (h : isControl c = false) (hline : c ≠ '\n') :
    isPlain c = true := by
  simp only [isControl, Bool.or_eq_false_iff, Bool.and_eq_false_iff, decide_eq_false_iff_not,
    beq_eq_false_iff_ne, bne_eq_false_iff_eq] at h
  simp only [isPlain, Bool.or_eq_true, beq_iff_eq, Bool.and_eq_true, decide_eq_true_eq]
  obtain ⟨(hsmall | htab) | hbreak, hdelete⟩ := h
  · exact .inr ⟨by omega, hdelete⟩
  · exact .inl htab
  · exact absurd hbreak hline

/-- What is not escaped may stand as it is. -/
structure StandsPlain (multiline : Bool) (c : Char) : Prop where
  ne_backslash : c ≠ '\\'
  ne_return : c ≠ '\r'
  plain : c ≠ '\n' → isPlain c = true
  oneLine : multiline = false → c ≠ '\n'

theorem standsPlain_of_escape {multiline : Bool} {c : Char} (h : escape multiline c = none) :
    StandsPlain multiline c := by
  unfold escape at h
  split at h
  · cases h
  next hbackslash =>
  iterate 2
    split at h
    · cases h
  split at h
  · next hline =>
    subst hline
    exact ⟨by decide, by decide, absurd rfl, fun hone ↦ by simp [hone] at h⟩
  next hline =>
  split at h
  · cases h
  split at h
  · cases h
  next hreturn =>
  split at h
  · cases h
  next hcontrol =>
  exact ⟨hbackslash, hreturn, isPlain_of_not_isControl (Bool.eq_false_iff.mpr hcontrol),
    fun _ ↦ hline⟩

/-- How the written form of a text begins: no quote is written as it is after as many as are
admitted. -/
theorem escapeText_eq_cons (multiline : Bool) (run : Nat) (c : Char) (others : List Char) :
    ∃ d text, escapeText multiline run (c :: others) = d :: text ∧
      d ≠ '\r' ∧ (d = '\n' → c = '\n') ∧
      (c ≠ '"' ∨ (if multiline then 2 else 0) ≤ run → d ≠ '"') := by
  have hbackslash : '\\' ≠ '\r' ∧ ('\\' = '\n' → c = '\n') ∧
      (c ≠ '"' ∨ (if multiline then 2 else 0) ≤ run → '\\' ≠ '"') :=
    ⟨by decide, fun hline ↦ absurd hline (by decide), fun _ ↦ by decide⟩
  rw [escapeText]
  split
  · next hc =>
    by_cases hrun : (if multiline then 2 else 0) ≤ run
    · rw [if_pos hrun]
      exact ⟨_, _, rfl, hbackslash⟩
    · rw [if_neg hrun]
      exact ⟨_, _, rfl, by decide, fun hline ↦ absurd hline (by decide),
        fun h ↦ absurd h (not_or.mpr ⟨not_not.mpr hc, hrun⟩)⟩
  next hquote =>
  split
  · next text htext =>
    cases isEscape_of_escape htext <;> exact ⟨_, _, rfl, hbackslash⟩
  · next hnone =>
    exact ⟨c, _, rfl, (standsPlain_of_escape hnone).ne_return, id, fun _ ↦ hquote⟩

/-! ## Strings between quotes -/

theorem readBasic_of_isEscape {c : Char} {text : List Char} (h : IsEscape c text)
    (rest : List Char) : readBasic (text ++ rest) = andThen c (readBasic rest) := by
  cases h with
  | letter he hother =>
    simp only [List.mem_cons, not_or] at hother
    rw [List.cons_append, List.cons_append, List.nil_append, readBasic, he]
    · rfl
    · exact fun _ _ _ _ _ hu ↦ absurd hu hother.1
    · exact fun _ _ _ _ _ _ _ _ _ hu ↦ absurd hu hother.2.1
  | code hn hc =>
    simp only [List.cons_append, List.nil_append, readBasic, hn, hc, Option.bind_eq_bind,
      Option.bind_some]

theorem readBasic_plain {c : Char} (h : StandsPlain false c) (hquote : c ≠ '"')
    (rest : List Char) : readBasic (c :: rest) = andThen c (readBasic rest) := by
  rw [readBasic, if_pos ⟨h.plain (h.oneLine rfl), h.ne_backslash⟩]
  · exact hquote
  · exact fun _ _ _ _ _ hc ↦ absurd hc h.ne_backslash
  · exact fun _ _ _ _ _ _ _ _ _ hc ↦ absurd hc h.ne_backslash
  · exact fun _ _ hc ↦ absurd hc h.ne_backslash

theorem readBasic_escapeText (cs : List Char) (run : Nat) (rest : List Char) :
    readBasic (escapeText false run cs ++ '"' :: rest) = some (cs, rest) := by
  induction cs generalizing run with
  | nil => rw [escapeText, List.nil_append, readBasic]
  | cons c others ih =>
    rw [escapeText]
    split
    · next hc =>
      have hread := readBasic_of_isEscape isEscape_quote (escapeText false 0 others ++ '"' :: rest)
      rw [if_neg Bool.false_ne_true, if_pos (Nat.zero_le run), hc]
      rw [ih] at hread
      exact hread
    next hquote =>
    split
    · next text htext =>
      rw [List.append_assoc, readBasic_of_isEscape (isEscape_of_escape htext), ih]
      rfl
    · next hnone =>
      rw [List.cons_append, readBasic_plain (standsPlain_of_escape hnone) hquote, ih]
      rfl

/-! ## Strings that span lines -/

/-- Marks right before the closing ones belong to the string. -/
theorem closing_replicate {mark : Char} {count : Nat} (hcount : count ≤ 2) {rest : List Char}
    (hrest : ∀ c ∈ rest.head?, c ≠ mark) :
    closing mark (List.replicate count mark ++ rest) = (List.replicate count mark, rest) := by
  have hnone : closing mark rest = ([], rest) := by
    cases rest with
    | nil => rfl
    | cons c rest =>
      have hc : c ≠ mark := hrest c rfl
      cases rest <;> simp [closing, hc]
  match count with
  | 0 => simpa using hnone
  | 1 =>
    cases rest with
    | nil => simp [closing]
    | cons c rest =>
      have hc : c ≠ mark := hrest c rfl
      simp [closing, hc]
  | 2 => simp [List.replicate, closing]

theorem readMultiline_of_isEscape {c : Char} {text : List Char} (h : IsEscape c text)
    (rest : List Char) :
    readMultiline .kept (text ++ rest) = andThen c (readMultiline .kept rest) := by
  cases h with
  | letter he hother =>
    simp only [List.mem_cons, List.not_mem_nil, or_false, not_or] at hother
    obtain ⟨hsmall, hlarge, hspace, htab, hline, hreturn⟩ := hother
    -- Whether a line break follows matters only after a backslash and a carriage return.
    by_cases hbreak : ∃ more, rest = '\n' :: more
    · obtain ⟨more, rfl⟩ := hbreak
      simp [readMultiline, he, hsmall, hlarge, hspace, htab, hline, hreturn]
    · have hother : ∀ more, rest ≠ '\n' :: more := not_exists.mp hbreak
      rw [List.cons_append, List.cons_append, List.nil_append, readMultiline]
      · simp [he, hspace, htab, hline, hreturn]
      · exact fun _ _ _ _ _ hu ↦ absurd hu hsmall
      · exact fun _ _ _ _ _ _ _ _ _ hu ↦ absurd hu hlarge
      · exact hother
  | code hn hc =>
    simp [readMultiline, hn, hc]

theorem readMultiline_plain {c : Char} (h : StandsPlain true c) {rest : List Char}
    (hquote : c = '"' → ∀ others, rest ≠ '"' :: '"' :: others) :
    readMultiline .kept (c :: rest) = andThen c (readMultiline .kept rest) := by
  by_cases hline : c = '\n'
  · subst hline
    simp [readMultiline]
  · rw [readMultiline]
    · by_cases hgap : c = ' ' ∨ c = '\t'
      · simp [hgap]
      · simp [hgap, h.plain hline, h.ne_backslash]
    · exact fun _ hc ↦ absurd hc h.ne_return
    · exact hline
    · exact fun others hc hrest ↦ hquote hc others hrest
    · exact fun _ _ _ _ _ hc ↦ absurd hc h.ne_backslash
    · exact fun _ _ _ _ _ _ _ _ _ hc ↦ absurd hc h.ne_backslash
    · exact fun _ _ hc ↦ absurd hc h.ne_backslash

section Multiline

variable {rest : List Char} (hrest : ∀ c ∈ rest.head?, c ≠ '"')
include hrest

/-- A quote that is written as it is: the text ends with it or with the next one, or its first three
characters are not all quotes. -/
theorem readMultiline_quote {run : Nat} {others : List Char}
    (hothers : ∀ run, readMultiline .kept (escapeText true run others ++ '"' :: '"' :: '"' :: rest) =
      some (others, rest)) (hrun : run < 2) :
    readMultiline .kept ('"' :: (escapeText true (run + 1) others ++ '"' :: '"' :: '"' :: rest)) =
      some ('"' :: others, rest) := by
  have hone := hothers (run + 1)
  have hread {text : List Char} (htext : ∀ tail, text ≠ '"' :: '"' :: tail) :
      readMultiline .kept ('"' :: text) = andThen '"' (readMultiline .kept text) :=
    readMultiline_plain ⟨by decide, by decide, fun _ ↦ rfl, fun _ ↦ by decide⟩ fun _ ↦ htext
  match others with
  | [] =>
    have hclosing := @closing_replicate '"' 1 (Nat.le_succ 1) rest hrest
    simpa [escapeText, readMultiline] using hclosing
  | d :: more =>
    by_cases hnext : d ≠ '"' ∨ 2 ≤ run + 1
    · obtain ⟨first, text, htext, -, -, hfirst⟩ := escapeText_eq_cons true (run + 1) d more
      rw [htext, List.cons_append] at hone ⊢
      rw [hread (by simp [hfirst hnext]), hone]
      rfl
    · rw [not_or, not_not] at hnext
      obtain ⟨rfl, hzero⟩ := hnext
      obtain rfl : run = 0 := by omega
      have hwritten : escapeText true 1 ('"' :: more) = '"' :: escapeText true 2 more := by
        rw [escapeText, if_pos rfl, if_pos rfl, if_neg (by decide)]
      rw [hwritten, List.cons_append] at hone ⊢
      match more with
      | [] =>
        have hclosing := @closing_replicate '"' 2 (Nat.le_refl 2) rest hrest
        simpa [escapeText, readMultiline] using hclosing
      | e :: last =>
        obtain ⟨first, text, htext, -, -, hfirst⟩ := escapeText_eq_cons true 2 e last
        rw [htext, List.cons_append] at hone ⊢
        rw [hread (by simp [hfirst (.inr (Nat.le_refl 2))]), hone]
        rfl

theorem readMultiline_escapeText (cs : List Char) (run : Nat) :
    readMultiline .kept (escapeText true run cs ++ '"' :: '"' :: '"' :: rest) = some (cs, rest) := by
  induction cs generalizing run with
  | nil =>
    have hclosing := closing_replicate (Nat.zero_le 2) hrest
    simpa [escapeText, readMultiline] using hclosing
  | cons c others ih =>
    rw [escapeText]
    split
    · next hc =>
      rw [if_pos rfl, hc]
      split
      · have hread := readMultiline_of_isEscape isEscape_quote
          (escapeText true 0 others ++ '"' :: '"' :: '"' :: rest)
        rw [ih] at hread
        exact hread
      · next hrun => exact readMultiline_quote hrest ih (Nat.lt_of_not_le hrun)
    next hquote =>
    split
    · next text htext =>
      rw [List.append_assoc, readMultiline_of_isEscape (isEscape_of_escape htext), ih]
      rfl
    · next hnone =>
      rw [List.cons_append, readMultiline_plain (standsPlain_of_escape hnone) fun hc ↦
        absurd hc hquote, ih]
      rfl

end Multiline

/-! ## Strings between apostrophes -/

theorem le_longestRun (mark : Char) (run : Nat) (cs : List Char) : run ≤ longestRun mark run cs := by
  induction cs generalizing run with
  | nil => exact le_rfl
  | cons c rest ih =>
    rw [longestRun]
    split
    · exact (Nat.le_succ run).trans (ih (run + 1))
    · exact Nat.le_max_left _ _

theorem longestRun_le_cons (mark : Char) (run : Nat) (c : Char) (cs : List Char) :
    longestRun mark 0 cs ≤ longestRun mark run (c :: cs) := by
  have hmono {run other : Nat} (hle : run ≤ other) :
      longestRun mark run cs ≤ longestRun mark other cs := by
    induction cs generalizing run other with
    | nil => exact hle
    | cons d rest ih =>
      rw [longestRun, longestRun]
      split
      · exact ih (Nat.succ_le_succ hle)
      · exact max_le_max_right _ hle
  rw [longestRun]
  split
  · exact hmono (Nat.zero_le _)
  · exact Nat.le_max_right _ _

theorem not_mem_of_longestRun {mark : Char} {cs : List Char} (h : longestRun mark 0 cs = 0) :
    mark ∉ cs := by
  induction cs with
  | nil => exact List.not_mem_nil
  | cons c rest ih =>
    have hrest := longestRun_le_cons mark 0 c rest
    have hc : c ≠ mark := by
      rintro rfl
      have hone := le_longestRun c 1 rest
      rw [longestRun, if_pos rfl] at h
      exact Nat.not_succ_le_zero 0 (hone.trans_eq h)
    rw [List.mem_cons, not_or]
    exact ⟨Ne.symm hc, ih (by omega)⟩

theorem readLiteral_append {cs : List Char}
    (hcs : ∀ c ∈ cs, c ≠ apostrophe ∧ isPlain c = true) (rest : List Char) :
    readLiteral (cs ++ apostrophe :: rest) = some (cs, rest) := by
  induction cs with
  | nil => rw [List.nil_append, readLiteral, if_pos rfl]
  | cons c others ih =>
    obtain ⟨⟨hmark, hplain⟩, hothers⟩ := List.forall_mem_cons.mp hcs
    rw [List.cons_append, readLiteral, if_neg hmark, if_pos hplain, ih hothers]
    rfl

theorem readMultilineLiteral_cons {c : Char} (hc : isPlain c = true) {text : List Char}
    (hlong : 2 ≤ text.length)
    (hmark : c = apostrophe → ∀ tail, text ≠ apostrophe :: apostrophe :: tail) :
    readMultilineLiteral (c :: text) = andThen c (readMultilineLiteral text) := by
  obtain ⟨d, e, tail, rfl⟩ : ∃ d e tail, text = d :: e :: tail := by
    match text, hlong with
    | d :: e :: tail, _ => exact ⟨d, e, tail, rfl⟩
  have hmarks : ¬(c = apostrophe ∧ d = apostrophe ∧ e = apostrophe) := by
    rintro ⟨hfirst, rfl, rfl⟩
    exact hmark hfirst tail rfl
  have hreturn : c ≠ '\r' := by
    rintro rfl
    exact absurd hc (by decide)
  have hline : c ≠ '\n' := by
    rintro rfl
    exact absurd hc (by decide)
  rw [readMultilineLiteral, if_neg hmarks, if_pos hc]
  · exact fun hcr _ ↦ hreturn hcr
  · exact hline

theorem readMultilineLiteral_replicate {rest : List Char}
    (hrest : ∀ c ∈ rest.head?, c ≠ apostrophe) {count : Nat} (hcount : count ≤ 2) :
    readMultilineLiteral (List.replicate count apostrophe ++ (List.replicate 3 apostrophe ++ rest)) =
      some (List.replicate count apostrophe, rest) := by
  have hcomm : List.replicate count apostrophe ++ (List.replicate 3 apostrophe ++ rest) =
      List.replicate 3 apostrophe ++ (List.replicate count apostrophe ++ rest) := by
    rw [← List.append_assoc, ← List.append_assoc, List.replicate_append_replicate,
      List.replicate_append_replicate, Nat.add_comm]
  have hmark : apostrophe ≠ '\r' ∧ apostrophe ≠ '\n' := by decide
  rw [hcomm, ← closing_replicate hcount hrest]
  simp [List.replicate, readMultilineLiteral, hmark]

/-- A text that has no three apostrophes in a row and ends before three of them. -/
theorem readMultilineLiteral_append {rest : List Char} (hrest : ∀ c ∈ rest.head?, c ≠ apostrophe)
    {cs : List Char} (hcs : ∀ c ∈ cs, isPlain c = true ∨ c = '\n')
    (hmarks : longestRun apostrophe 0 cs ≤ 2) :
    readMultilineLiteral (cs ++ (List.replicate 3 apostrophe ++ rest)) = some (cs, rest) := by
  induction cs with
  | nil => exact readMultilineLiteral_replicate hrest (Nat.zero_le 2)
  | cons c others ih =>
    obtain ⟨hc, hothers⟩ := List.forall_mem_cons.mp hcs
    have hread := ih hothers ((longestRun_le_cons apostrophe 0 c others).trans hmarks)
    by_cases hline : c = '\n'
    · rw [hline, List.cons_append, readMultilineLiteral, hread]
      rfl
    have hplain : isPlain c = true := hc.resolve_right hline
    by_cases hall : ∃ count ≤ 2, c :: others = List.replicate count apostrophe
    · obtain ⟨count, hcount, heq⟩ := hall
      rw [heq]
      exact readMultilineLiteral_replicate hrest hcount
    have hmark : c = apostrophe → ∀ tail,
        others ++ (List.replicate 3 apostrophe ++ rest) ≠ apostrophe :: apostrophe :: tail := by
      rintro rfl tail heq
      match others with
      | [] => exact hall ⟨1, by decide, rfl⟩
      | [d] =>
        obtain rfl : d = apostrophe := (List.cons.inj heq).1
        exact hall ⟨2, by decide, rfl⟩
      | d :: e :: more =>
        obtain ⟨rfl, htail⟩ := List.cons.inj heq
        obtain rfl : e = apostrophe := (List.cons.inj htail).1
        have hthree := le_longestRun apostrophe 3 more
        simp only [longestRun, if_true] at hmarks
        exact absurd (hthree.trans hmarks) (by decide)
    rw [List.cons_append, readMultilineLiteral_cons hplain (by simp; omega) hmark, hread]
    rfl

/-! ## Written strings -/

theorem dropLineBreak_eq_self {cs : List Char} (hcs : ∀ c ∈ cs.head?, c ≠ '\n' ∧ c ≠ '\r') :
    dropLineBreak cs = cs := by
  cases cs with
  | nil => rfl
  | cons c rest =>
    obtain ⟨hline, hreturn⟩ := hcs c rfl
    rw [dropLineBreak]
    · exact fun _ hc ↦ hline (List.cons.inj hc).1
    · exact fun _ hc ↦ hreturn (List.cons.inj hc).1

/-- The line break after the opening marks keeps the one that the text begins with. -/
theorem dropLineBreak_leadingBreak {cs text : List Char}
    (htext : '\n' ∉ cs → ∀ c ∈ text.head?, c ≠ '\n' ∧ c ≠ '\r') :
    dropLineBreak (leadingBreak cs ++ text) = text := by
  rw [leadingBreak]
  split
  · rfl
  · next hlines => exact dropLineBreak_eq_self (htext (by simpa using hlines))

section Written

variable {rest : List Char}

theorem readString_quoteBasic (cs : List Char) (hrest : ∀ c ∈ rest.head?, c ≠ '"') :
    readString (quoteBasic cs ++ rest) = some (cs, rest) := by
  have hread := readBasic_escapeText cs 0 rest
  rw [quoteBasic, List.cons_append, List.append_assoc, List.singleton_append, readString, hread]
  intro tail htail
  cases cs with
  | nil =>
    obtain ⟨-, rfl⟩ := List.cons.inj htail
    exact hrest '"' rfl rfl
  | cons c others =>
    obtain ⟨first, text, htext, -, -, hfirst⟩ := escapeText_eq_cons false 0 c others
    rw [htext] at htail
    exact hfirst (.inr (Nat.zero_le 0)) (List.cons.inj htail).1

theorem readString_quoteMultiline (cs : List Char) (hrest : ∀ c ∈ rest.head?, c ≠ '"') :
    readString (quoteMultiline cs ++ rest) = some (cs, rest) := by
  have hread := readMultiline_escapeText hrest cs 0
  have hbreak : dropLineBreak (leadingBreak cs ++
      (escapeText true 0 cs ++ '"' :: '"' :: '"' :: rest)) =
        escapeText true 0 cs ++ '"' :: '"' :: '"' :: rest := by
    refine dropLineBreak_leadingBreak fun hlines ↦ ?_
    cases cs with
    | nil => simp [escapeText]
    | cons c others =>
      obtain ⟨first, text, htext, hreturn, hline, -⟩ := escapeText_eq_cons true 0 c others
      have hc : c ≠ '\n' := fun hc ↦ hlines (hc ▸ List.mem_cons_self)
      rw [htext]
      simpa using ⟨fun hfirst ↦ hc (hline hfirst), hreturn⟩
  rw [← hread, ← hbreak]
  simp [quoteMultiline, readString]

theorem readString_apostrophe {text : List Char} (hne : text ≠ [])
    (htext : ∀ tail, text ≠ apostrophe :: apostrophe :: tail) :
    readString (apostrophe :: text) = readLiteral text := by
  have hquote : apostrophe ≠ '"' := by decide
  match text, hne with
  | [b], _ => simp [readString]
  | b :: c :: tail, _ =>
    have hmarks : ¬(b = apostrophe ∧ c = apostrophe) := by
      rintro ⟨rfl, rfl⟩
      exact htext tail rfl
    simp [readString, hquote, hmarks]

theorem readString_literal {cs : List Char} (hcs : ∀ c ∈ cs, c ≠ apostrophe ∧ isPlain c = true)
    (hrest : ∀ c ∈ rest.head?, c ≠ apostrophe) :
    readString (apostrophe :: (cs ++ [apostrophe]) ++ rest) = some (cs, rest) := by
  have htext : ∀ tail, cs ++ apostrophe :: rest ≠ apostrophe :: apostrophe :: tail := by
    intro tail heq
    cases cs with
    | nil =>
      obtain ⟨-, rfl⟩ := List.cons.inj heq
      exact hrest apostrophe rfl rfl
    | cons c others => exact (hcs c List.mem_cons_self).1 (List.cons.inj heq).1
  rw [List.cons_append, List.append_assoc, List.singleton_append,
    readString_apostrophe (by simp) htext, readLiteral_append hcs]

theorem readString_quoteMultilineLiteral {cs : List Char}
    (hcs : ∀ c ∈ cs, isPlain c = true ∨ c = '\n') (hmarks : longestRun apostrophe 0 cs ≤ 2)
    (hrest : ∀ c ∈ rest.head?, c ≠ apostrophe) :
    readString (quoteMultilineLiteral cs ++ rest) = some (cs, rest) := by
  have hread := readMultilineLiteral_append hrest hcs hmarks
  have hbreak : dropLineBreak (leadingBreak cs ++ (cs ++ (List.replicate 3 apostrophe ++ rest))) =
      cs ++ (List.replicate 3 apostrophe ++ rest) := by
    refine dropLineBreak_leadingBreak fun hlines ↦ ?_
    cases cs with
    | nil => simpa using (by decide : apostrophe ≠ '\n' ∧ apostrophe ≠ '\r')
    | cons c others =>
      have hline : c ≠ '\n' := fun hc ↦ hlines (hc ▸ List.mem_cons_self)
      have hplain := (hcs c List.mem_cons_self).resolve_right hline
      have hreturn : c ≠ '\r' := by
        rintro rfl
        exact absurd hplain (by decide)
      simpa using ⟨hline, hreturn⟩
  have hquote : apostrophe ≠ '"' := by decide
  rw [← hread, ← hbreak]
  simp [quoteMultilineLiteral, readString, hquote, List.replicate]

/-- A string is read from the form in which it is written. -/
theorem readString_quote (cs : List Char) (hrest : ∀ c ∈ rest.head?, c ≠ '"' ∧ c ≠ apostrophe) :
    readString (quote cs ++ rest) = some (cs, rest) := by
  have hquote : ∀ c ∈ rest.head?, c ≠ '"' := fun c hc ↦ (hrest c hc).1
  have hapostrophe : ∀ c ∈ rest.head?, c ≠ apostrophe := fun c hc ↦ (hrest c hc).2
  have hplain (hcontrol : cs.any isControl = false) : ∀ c ∈ cs, isPlain c = true ∨ c = '\n' := by
    intro c hc
    by_cases hline : c = '\n'
    · exact .inr hline
    · have hother := Bool.eq_false_iff.mpr (List.any_eq_false.mp hcontrol c hc)
      exact .inl (isPlain_of_not_isControl hother hline)
  simp only [quote]
  split
  · exact readString_quoteBasic cs hquote
  split
  · next h =>
    simp only [Bool.and_eq_true, Bool.not_eq_true', beq_iff_eq, List.contains_eq_mem,
      decide_eq_false_iff_not] at h
    obtain ⟨⟨hcontrol, hmarks⟩, hlines⟩ := h
    refine readString_literal (fun c hc ↦ ⟨?_, ?_⟩) hapostrophe
    · exact fun hmark ↦ not_mem_of_longestRun hmarks (hmark ▸ hc)
    · exact (hplain hcontrol c hc).resolve_right fun hline ↦ hlines (hline ▸ hc)
  split
  · exact readString_quoteMultiline cs hquote
  split
  · next h =>
    simp only [Bool.and_eq_true, Bool.not_eq_true', decide_eq_true_eq] at h
    exact readString_quoteMultilineLiteral (hplain h.1) h.2 hapostrophe
  split
  · exact readString_quoteMultiline cs hquote
  · exact readString_quoteBasic cs hquote

end Written

end FacetSearch.Toml
