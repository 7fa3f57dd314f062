import FacetSearch.Proofs.StringMapOrder
import FacetSearch.Proofs.WrittenValues

/-!
# Written sections are read back

A document written as sections, each a header in brackets with a line for each of its entries and a
blank line between two, is read as the table of the tables of its sections.
-/

namespace FacetSearch.Toml

/-! ## Keys -/

/-- A key that needs no quotes. -/
def IsBareKey (key : String) : Prop := key.toList ≠ [] ∧ key.toList.all isBareKeyChar = true

instance : DecidablePred IsBareKey := fun _ ↦ inferInstanceAs (Decidable (_ ∧ _))

theorem IsBareKey.exists_cons {key : String} (hkey : IsBareKey key) : ∃ first others,
    key.toList = first :: others ∧ isBareKeyChar first = true ∧
      ∀ c ∈ others, isBareKeyChar c = true := by
  obtain ⟨hne, hall⟩ := hkey
  obtain ⟨first, others, htext⟩ := List.exists_cons_of_ne_nil hne
  rw [htext, List.all_eq_true] at hall
  obtain ⟨hfirst, hothers⟩ := List.forall_mem_cons.mp hall
  exact ⟨first, others, htext, hfirst, hothers⟩

theorem ne_of_isBareKeyChar {c d : Char} (hc : isBareKeyChar c = true)
    (hd : isBareKeyChar d = false) : c ≠ d := by
  rintro rfl
  rw [hc] at hd
  cases hd

theorem solid_of_isBareKeyChar {c : Char} (hc : isBareKeyChar c = true) : IsSolid c := by
  have hne {d : Char} (hd : isBareKeyChar d = false) : c ≠ d := ne_of_isBareKeyChar hc hd
  have hgap : isGap c = false := by
    have hblank : c ≠ ' ' := hne (by decide)
    have htab : c ≠ '\t' := hne (by decide)
    simp [isGap, hblank, htab]
  exact ⟨hgap, hne (by decide), hne (by decide), hne (by decide)⟩

theorem readSegment_bare {key : String} (hkey : IsBareKey key) {rest : List Char}
    (hrest : ∀ c ∈ rest.head?, isBareKeyChar c = false) :
    readSegment (skipGaps (key.toList ++ rest)) = some (key, rest) := by
  obtain ⟨first, others, htext, hfirst, hothers⟩ := hkey.exists_cons
  have hgaps : skipGaps (first :: (others ++ rest)) = first :: (others ++ rest) :=
    skipGaps_of_head (by simpa using (solid_of_isBareKeyChar hfirst).1)
  have hquote : first ≠ '"' := ne_of_isBareKeyChar hfirst (by decide)
  have hmark : first ≠ apostrophe := ne_of_isBareKeyChar hfirst (by decide)
  obtain ⟨htake, hdrop⟩ := takeWhile_dropWhile_append hothers hrest
  rw [htext, List.cons_append, hgaps, readSegment]
  · rw [if_neg hmark, if_pos hfirst, htake, hdrop, ← htext, String.ofList_toList]
  · exact fun heq ↦ hquote heq

theorem readPath_bare {key : String} (hkey : IsBareKey key) {rest : List Char}
    (hrest : ∀ c ∈ rest.head?, isBareKeyChar c = false) (hdot : ∀ c ∈ (skipGaps rest).head?, c ≠ '.') :
    readPath (key.toList ++ rest) = some ([], key, skipGaps rest) := by
  obtain ⟨fuel, hfuel⟩ : ∃ fuel, (key.toList ++ rest).length = fuel + 1 := by
    obtain ⟨first, others, htext, -⟩ := hkey.exists_cons
    exact ⟨(others ++ rest).length, by rw [htext]; rfl⟩
  have hsegments : readKey (fuel + 1) (key.toList ++ rest) = some ([key], skipGaps rest) := by
    rw [readKey, readSegment_bare hkey hrest]
    simp only [Option.bind_eq_bind, Option.bind_some]
    split
    · next heq => exact absurd rfl (hdot '.' (by rw [heq]; rfl))
    · rfl
  rw [readPath, hfuel, hsegments]
  rfl

/-! ## Lines -/

/-- A line of a section, with the value that its text stands for. -/
structure WrittenLine where
  key : String
  text : String
  value : Toml
  bare : IsBareKey key
  writes : Writes text value

namespace WrittenLine

def entry (line : WrittenLine) : String × Toml := (line.key, line.value)

def pair (line : WrittenLine) : Pair := ⟨[], line.key, line.value⟩

/-- The line as it is written. -/
def content (line : WrittenLine) : String := Settings.line line.key line.text

theorem content_append (line : WrittenLine) (tail : List Char) : line.content.toList ++ tail =
    line.key.toList ++ [' ', '=', ' '] ++ (line.text.toList ++ '\n' :: tail) := by
  simp [content, Settings.line]

end WrittenLine

theorem readPair_line (line : WrittenLine) (tail : List Char) :
    readPair (readValue greatestDepth) (line.content.toList ++ tail) =
      some (line.pair, '\n' :: tail) := by
  have hgap : skipGaps ([' ', '=', ' '] ++ (line.text.toList ++ '\n' :: tail)) =
      '=' :: ' ' :: (line.text.toList ++ '\n' :: tail) := rfl
  have hpath := @readPath_bare line.key line.bare
    ([' ', '=', ' '] ++ (line.text.toList ++ '\n' :: tail)) (by simpa using by decide)
    (by rw [hgap]; simp)
  have hvalue : skipGaps (' ' :: (line.text.toList ++ '\n' :: tail)) =
      line.text.toList ++ '\n' :: tail := by
    obtain ⟨c, hc, hfirst⟩ := line.writes.head
    have hhead : (line.text.toList ++ '\n' :: tail).head? = some c := by
      rw [List.head?_append, Option.mem_def.mp hc]
      rfl
    change skipGaps (line.text.toList ++ '\n' :: tail) = _
    apply skipGaps_of_head
    rw [hhead]
    exact fun d hd ↦ Option.some.inj hd ▸ hfirst
  rw [hgap] at hpath
  rw [line.content_append, List.append_assoc, readPair, hpath]
  simp only [Option.bind_eq_bind, Option.bind_some, hvalue, line.writes.read]
  rfl

theorem readLineEnd_lineBreak (tail : List Char) : readLineEnd ('\n' :: tail) = some tail := by
  have hgap : skipGaps ('\n' :: tail) = '\n' :: tail := skipGaps_of_head (by simp [isGap])
  simp [readLineEnd, hgap, skipComment, skipLineBreak]

section Blocks

variable {cs more rest tail : List Char}

theorem readBlocks_pair {c : Char} {pair : Pair} (hcs : skipLines cs.length cs = some (c :: more))
    (hc : c ≠ '[') (hpair : readPair (readValue greatestDepth) (c :: more) = some (pair, rest))
    (hrest : readLineEnd rest = some tail) (fuel : Nat) :
    readBlocks (fuel + 1) cs =
      (readBlocks fuel tail).map fun (pairs, blocks) ↦ (pair :: pairs, blocks) := by
  rw [readBlocks, hcs]
  simp only [Option.bind_eq_bind, Option.bind_some]
  split
  · next heq => cases heq
  · next heq => exact absurd (List.cons.inj heq).1 hc
  · simp [hpair, hrest, Option.map_eq_bind]

theorem readBlocks_header {block : Block} (hcs : skipLines cs.length cs = some ('[' :: more))
    (hmore : ∀ c ∈ more.head?, c ≠ '[') (hheader : readHeader false more = some (block, tail))
    (fuel : Nat) : readBlocks (fuel + 1) cs = (readBlocks fuel tail).map fun (pairs, blocks) ↦
      ([], { block with pairs := pairs } :: blocks) := by
  rw [readBlocks, hcs]
  simp only [Option.bind_eq_bind, Option.bind_some]
  split
  · next heq => exact absurd rfl (hmore '[' rfl)
  · simp [hheader, Option.map_eq_bind]

end Blocks

theorem readBlocks_line (line : WrittenLine) (fuel : Nat) (tail : List Char) :
    readBlocks (fuel + 1) (line.content.toList ++ tail) =
      (readBlocks fuel tail).map fun (pairs, blocks) ↦ (line.pair :: pairs, blocks) := by
  have hpair := readPair_line line tail
  obtain ⟨first, others, htext, hfirst, -⟩ := line.bare.exists_cons
  rw [line.content_append, htext] at hpair ⊢
  exact readBlocks_pair (skipLines_solid (solid_of_isBareKeyChar hfirst) _ _)
    (ne_of_isBareKeyChar hfirst (by decide)) hpair (readLineEnd_lineBreak tail) fuel

theorem readBlocks_lineBreak (fuel : Nat) (tail : List Char) :
    readBlocks (fuel + 1) ('\n' :: tail) = readBlocks (fuel + 1) tail := by
  rw [readBlocks, readBlocks, List.length_cons, skipLines_lineBreak]

/-- The lines one below the other. -/
def linesText (lines : List WrittenLine) : List Char := lines.flatMap fun line ↦ line.content.toList

theorem readBlocks_linesText (lines : List WrittenLine) (fuel : Nat) (tail : List Char) :
    readBlocks (lines.length + fuel) (linesText lines ++ tail) =
      (readBlocks fuel tail).map fun (pairs, blocks) ↦
        (lines.map WrittenLine.pair ++ pairs, blocks) := by
  induction lines with
  | nil => cases h : readBlocks fuel tail <;> simp [linesText, h]
  | cons line lines ih =>
    have htext : linesText (line :: lines) ++ tail = line.content.toList ++ (linesText lines ++ tail) := by
      simp [linesText]
    have hfuel : (line :: lines).length + fuel = lines.length + fuel + 1 := by
      simp only [List.length_cons]
      omega
    rw [htext, hfuel, readBlocks_line, ih, Option.map_map]
    rfl

/-! ## Sections -/

/-- A section, in which no key stands twice. -/
structure WrittenSection where
  name : String
  lines : List WrittenLine
  bare : IsBareKey name
  distinct : (lines.map WrittenLine.key).Nodup

namespace WrittenSection

def entries (paragraph : WrittenSection) : Entries Toml := paragraph.lines.map WrittenLine.entry

def entry (paragraph : WrittenSection) : String × Toml :=
  (paragraph.name, table .header paragraph.entries.sorted)

def block (paragraph : WrittenSection) : Block :=
  ⟨[], paragraph.name, false, paragraph.lines.map WrittenLine.pair⟩

/-- The section as it is written. -/
def content (paragraph : WrittenSection) : String :=
  Settings.paragraph paragraph.name (paragraph.lines.map WrittenLine.content)

theorem content_append (paragraph : WrittenSection) (tail : List Char) :
    paragraph.content.toList ++ tail =
      '[' :: (paragraph.name.toList ++ ']' :: '\n' :: (linesText paragraph.lines ++ tail)) := by
  simp [content, Settings.paragraph, linesText, List.flatMap_map]

end WrittenSection

theorem readHeader_bare {name : String} (hname : IsBareKey name) (tail : List Char) :
    readHeader false (name.toList ++ ']' :: '\n' :: tail) = some (⟨[], name, false, []⟩, tail) := by
  have hgap : skipGaps (']' :: '\n' :: tail) = ']' :: '\n' :: tail := rfl
  have hpath := @readPath_bare name hname (']' :: '\n' :: tail) (by simpa using by decide)
    (by rw [hgap]; simp)
  rw [readHeader, hpath, hgap]
  simp [readLineEnd_lineBreak]

theorem readBlocks_section (paragraph : WrittenSection) (fuel : Nat) (tail : List Char) :
    readBlocks (paragraph.lines.length + fuel + 1) (paragraph.content.toList ++ tail) =
      (readBlocks fuel tail).map fun (pairs, blocks) ↦
        ([], { paragraph.block with pairs := paragraph.block.pairs ++ pairs } :: blocks) := by
  obtain ⟨first, others, htext, hfirst, -⟩ := paragraph.bare.exists_cons
  have hheader := readHeader_bare paragraph.bare (linesText paragraph.lines ++ tail)
  have hhead : ∀ c ∈ (paragraph.name.toList ++ ']' :: '\n' ::
      (linesText paragraph.lines ++ tail)).head?, c ≠ '[' := by
    rw [htext]
    exact fun c hc ↦ Option.some.inj hc ▸ ne_of_isBareKeyChar hfirst (by decide)
  rw [paragraph.content_append,
    readBlocks_header (skipLines_solid (by decide) _ _) hhead hheader, readBlocks_linesText,
    Option.map_map]
  rfl

/-! ## Documents -/

/-- Sections with a blank line between two. -/
def documentText (paragraphs : List WrittenSection) : List Char :=
  ['\n'].intercalate (paragraphs.map fun paragraph ↦ paragraph.content.toList)

/-- The lines of the sections, their headers counted. -/
def lineCount (paragraphs : List WrittenSection) : Nat :=
  (paragraphs.map fun paragraph ↦ paragraph.lines.length + 1).sum

theorem documentText_singleton (paragraph : WrittenSection) :
    documentText [paragraph] = paragraph.content.toList := by
  simp [documentText, List.intercalate]

theorem documentText_cons (paragraph next : WrittenSection) (others : List WrittenSection) :
    documentText (paragraph :: next :: others) =
      paragraph.content.toList ++ '\n' :: documentText (next :: others) := by
  simp [documentText, List.intercalate]

theorem readBlocks_documentText (paragraphs : List WrittenSection) (fuel : Nat) :
    readBlocks (lineCount paragraphs + fuel + 1) (documentText paragraphs) =
      some ([], paragraphs.map WrittenSection.block) := by
  induction paragraphs with
  | nil =>
    change readBlocks (lineCount [] + fuel + 1) [] = _
    rw [readBlocks]
    rfl
  | cons paragraph paragraphs ih =>
    have hfuel : lineCount (paragraph :: paragraphs) + fuel + 1 =
        paragraph.lines.length + (lineCount paragraphs + fuel + 1) + 1 := by
      simp only [lineCount, List.map_cons, List.sum_cons]
      omega
    rw [hfuel]
    match paragraphs with
    | [] =>
      have hnil : paragraph.content.toList = paragraph.content.toList ++ documentText [] :=
        (List.append_nil _).symm
      rw [documentText_singleton, hnil, readBlocks_section, ih]
      simp [WrittenSection.block]
    | next :: others =>
      rw [documentText_cons, readBlocks_section, readBlocks_lineBreak, ih]
      simp [WrittenSection.block]

theorem length_le_linesText (lines : List WrittenLine) : lines.length ≤ (linesText lines).length := by
  induction lines with
  | nil => exact Nat.le_refl 0
  | cons line lines ih =>
    have htext : linesText (line :: lines) = line.content.toList ++ linesText lines := rfl
    have hcontent : 1 ≤ line.content.toList.length := by
      have := congrArg List.length (line.content_append [])
      simp only [List.append_nil, List.length_append, List.length_cons] at this
      omega
    rw [htext, List.length_append, List.length_cons]
    omega

theorem lineCount_le_documentText (paragraphs : List WrittenSection) :
    lineCount paragraphs ≤ (documentText paragraphs).length := by
  have hcontent (paragraph : WrittenSection) :
      paragraph.lines.length + 1 ≤ paragraph.content.toList.length := by
    have hlines := length_le_linesText paragraph.lines
    have := congrArg List.length (paragraph.content_append [])
    simp only [List.append_nil, List.length_append, List.length_cons] at this
    omega
  induction paragraphs with
  | nil => exact Nat.le_refl 0
  | cons paragraph paragraphs ih =>
    have hcount : lineCount (paragraph :: paragraphs) =
        paragraph.lines.length + 1 + lineCount paragraphs := rfl
    have hfirst := hcontent paragraph
    match paragraphs with
    | [] =>
      rw [hcount, documentText_singleton]
      exact hfirst
    | next :: others =>
      rw [hcount, documentText_cons, List.length_append, List.length_cons]
      omega

theorem addPair_of_fresh {entries : Entries Toml} {key : String} (hkey : entries.get? key = none)
    (value : Toml) : addPair key value [] entries = some (entries.insert key value) := by
  simp [addPair, Entries.contains, hkey]

theorem addPairs_lines {lines : List WrittenLine} {entries : Entries Toml}
    (hdistinct : (lines.map WrittenLine.key).Nodup)
    (hfresh : ∀ line ∈ lines, entries.get? line.key = none) :
    addPairs entries (lines.map WrittenLine.pair) = some ((lines.map WrittenLine.entry).foldl
      (fun done entry ↦ Entries.insert done entry.1 entry.2) entries) := by
  induction lines generalizing entries with
  | nil => rfl
  | cons line lines ih =>
    -- None of the keys that are still to come is there, before this line and after it.
    obtain ⟨hline, hlines⟩ := List.nodup_cons.mp hdistinct
    obtain ⟨hfirst, hothers⟩ := List.forall_mem_cons.mp hfresh
    have hstill : ∀ other ∈ lines, (entries.insert line.key line.value).get? other.key = none := by
      intro other hother
      have hne : line.key ≠ other.key := fun heq ↦ hline (heq ▸ List.mem_map_of_mem hother)
      rw [Entries.get?_insert, if_neg hne, hothers other hother]
    have hadd : addPair line.pair.key line.pair.value line.pair.path entries =
        some (entries.insert line.key line.value) := addPair_of_fresh hfirst line.value
    rw [List.map_cons, addPairs, hadd]
    exact ih hlines hstill

theorem addPairs_section (paragraph : WrittenSection) :
    addPairs [] paragraph.block.pairs = some paragraph.entries.sorted :=
  addPairs_lines paragraph.distinct fun _ _ ↦ rfl

theorem addBlocks_sections {paragraphs : List WrittenSection} {entries : Entries Toml}
    (hdistinct : (paragraphs.map WrittenSection.name).Nodup)
    (hfresh : ∀ paragraph ∈ paragraphs, entries.get? paragraph.name = none) :
    addBlocks entries (paragraphs.map WrittenSection.block) =
      some ((paragraphs.map WrittenSection.entry).foldl
        (fun done entry ↦ Entries.insert done entry.1 entry.2) entries) := by
  induction paragraphs generalizing entries with
  | nil => rfl
  | cons paragraph paragraphs ih =>
    obtain ⟨hname, hnames⟩ := List.nodup_cons.mp hdistinct
    obtain ⟨hfirst, hothers⟩ := List.forall_mem_cons.mp hfresh
    set value : Toml := table .header paragraph.entries.sorted
    have hstill : ∀ other ∈ paragraphs,
        (entries.insert paragraph.name value).get? other.name = none := by
      intro other hother
      have hne : paragraph.name ≠ other.name := fun heq ↦ hname (heq ▸ List.mem_map_of_mem hother)
      rw [Entries.get?_insert, if_neg hne, hothers other hother]
    have hadd : addBlock paragraph.block paragraph.block.path entries =
        some (entries.insert paragraph.name value) := by
      change addHeader paragraph.block entries = _
      have hfound : entries.get? paragraph.block.key = none := hfirst
      simp only [addHeader, hfound, addPairs_section]
      rfl
    rw [List.map_cons, addBlocks, hadd]
    exact ih hnames hstill

theorem read_documentText {text : String} {paragraphs : List WrittenSection}
    (htext : text.toList = documentText paragraphs)
    (hdistinct : (paragraphs.map WrittenSection.name).Nodup) :
    read text = some (Entries.sorted (paragraphs.map WrittenSection.entry)) := by
  have hmark : dropMark (documentText paragraphs) = documentText paragraphs := by
    match paragraphs with
    | [] => rfl
    | [paragraph] =>
      rw [documentText_singleton, ← List.append_nil paragraph.content.toList,
        paragraph.content_append]
      rfl
    | paragraph :: next :: others =>
      rw [documentText_cons, paragraph.content_append]
      rfl
  -- Every line has a character, so the length of the text is fuel enough.
  obtain ⟨fuel, hfuel⟩ := Nat.exists_eq_add_of_le (lineCount_le_documentText paragraphs)
  rw [read, htext]
  simp only [hmark, hfuel, readBlocks_documentText]
  exact addBlocks_sections hdistinct fun _ _ ↦ rfl

end FacetSearch.Toml
