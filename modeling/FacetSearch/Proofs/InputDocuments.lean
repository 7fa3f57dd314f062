import FacetSearch.CommandLine.Execute
import FacetSearch.Proofs.JsonText
import FacetSearch.Proofs.ProgramRun
import FacetSearch.Proofs.TextTokens

/-!
# Documents of an input

The command that reindexes takes its input as a whole. Either every line that is not blank stands
for a document, and exactly these documents are reindexed, in order; or the command fails with the
number of the first line that does not, before it calls the engine.
-/

namespace FacetSearch

/-! ## Lines -/

namespace Text

/-- A text and its lines. A line break ends a line, together with a carriage return right before it;
what stands behind the last line break is a line if it is not empty. -/
inductive InLines : List Char → List String → Prop
  | nothing : InLines [] []
  | last {line : List Char} : line ≠ [] → '\n' ∉ line → InLines line [String.ofList line]
  | broken {line rest : List Char} {lines : List String} : '\n' ∉ line →
      line.getLast? ≠ some '\r' → InLines rest lines →
        InLines (line ++ '\n' :: rest) (String.ofList line :: lines)
  | returned {line rest : List Char} {lines : List String} : '\n' ∉ line → InLines rest lines →
      InLines (line ++ '\r' :: '\n' :: rest) (String.ofList line :: lines)

theorem exists_inLines (text : List Char) : ∃ lines, InLines text lines := by
  by_cases hbreak : '\n' ∈ text
  · obtain ⟨line, rest, htext, hline⟩ := List.eq_append_cons_of_mem hbreak
    have hshorter : rest.length < text.length := by simp [htext]; omega
    obtain ⟨lines, hlines⟩ := exists_inLines rest
    rw [htext]
    by_cases hreturn : line.getLast? = some '\r'
    · obtain ⟨start, rfl⟩ := List.getLast?_eq_some_iff.mp hreturn
      rw [List.append_assoc]
      exact ⟨_, .returned (fun hstart ↦ hline (List.mem_append_left _ hstart)) hlines⟩
    · exact ⟨_, .broken hline hreturn hlines⟩
  · cases text with
    | nil => exact ⟨[], .nothing⟩
    | cons c rest => exact ⟨_, .last (List.cons_ne_nil c rest) hbreak⟩
termination_by text.length

end Text

namespace Document

open Text (InLines)

theorem linesOf_cons (line : List Char) {pieces : List (List Char)} (hpieces : pieces ≠ []) :
    linesOf (line :: pieces) = dropReturn line :: linesOf pieces := by
  obtain ⟨piece, others, rfl⟩ := List.exists_cons_of_ne_nil hpieces
  rfl

theorem lines_of_inLines {text : List Char} {lines : List String} (h : InLines text lines) :
    lines = (linesOf (Text.pieces '\n' text)).map String.ofList := by
  have hpieces (rest : List Char) := Text.pieces_ne_nil '\n' rest
  induction h with
  | nothing => rfl
  | @last line hne hline =>
    rw [Text.pieces_of_not_mem hline, linesOf, if_neg (by simpa using hne), List.map_singleton]
  | @broken line rest lines hline hreturn _ ih =>
    rw [Text.pieces_append, Text.pieces_of_not_mem hline, List.singleton_append,
      linesOf_cons line (hpieces rest), dropReturn, if_neg hreturn, List.map_cons, ← ih]
  | @returned line rest lines hline _ ih =>
    have hwhole : '\n' ∉ line ++ ['\r'] := by simpa using hline
    have hsplit : line ++ '\r' :: '\n' :: rest = (line ++ ['\r']) ++ '\n' :: rest := by simp
    have hdropped : dropReturn (line ++ ['\r']) = line := by simp [dropReturn]
    rw [hsplit, Text.pieces_append, Text.pieces_of_not_mem hwhole, List.singleton_append,
      linesOf_cons _ (hpieces rest), hdropped, List.map_cons, ← ih]

theorem inLines_iff {text : String} {lines : List String} :
    InLines text.toList lines ↔ lines = Document.lines text := by
  constructor
  · exact lines_of_inLines
  · rintro rfl
    obtain ⟨lines, hlines⟩ := Text.exists_inLines text.toList
    rw [Document.lines, ← lines_of_inLines hlines]
    exact hlines

/-! ## Documents -/

/-- The document that a line stands for: the value in the line, under the string in its member of
that name, unless that is empty, or under the text of the number there. -/
inductive StandsFor (idField line : String) : Document → Prop
  | named {body : Json} {id : String} : Json.read line = some body →
      body.member? idField = some (.str id) → id ≠ "" → StandsFor idField line ⟨id, body⟩
  | numbered {body : Json} {n : Number} : Json.read line = some body →
      body.member? idField = some (.num n) → StandsFor idField line ⟨(Json.num n).compact, body⟩

/-- The line is neither blank nor does it stand for a document. -/
def Offends (idField line : String) : Prop :=
  ¬Text.Blank line ∧ ∀ document, ¬StandsFor idField line document

/-- The first of the lines that offends has that number; lines are counted from one. -/
def FirstOffending (idField : String) (lines : List String) (number : Nat) : Prop :=
  ∃ before line after, lines = before ++ line :: after ∧ number = before.length + 1 ∧
    Offends idField line ∧ ∀ other ∈ before, ¬Offends idField other

theorem memberId_eq_some_iff {idField id : String} {body : Json} :
    memberId idField body = some id ↔
      (body.member? idField = some (.str id) ∧ id ≠ "") ∨
        ∃ n, body.member? idField = some (.num n) ∧ (Json.num n).compact = id := by
  unfold memberId
  split
  · next hmember => simp [hmember]
  · next s hne hmember =>
    simp only [hmember, Option.some.injEq, Json.str.injEq, reduceCtorEq, false_and, exists_false,
      or_false]
    constructor
    · rintro rfl
      exact ⟨rfl, hne⟩
    · exact And.left
  · next n hmember => simp [hmember]
  · next hstring hother hnumber =>
    simp only [reduceCtorEq, false_iff, not_or, not_and, not_exists]
    exact ⟨fun hmember _ ↦ hother _ hmember, fun n hmember _ ↦ hnumber n hmember⟩

theorem standsFor_iff {idField line : String} {document : Document} :
    StandsFor idField line document ↔ ∃ body id, Json.read line = some body ∧
      memberId idField body = some id ∧ document = ⟨id, body⟩ := by
  simp only [memberId_eq_some_iff]
  constructor
  · rintro (⟨hread, hmember, hid⟩ | ⟨hread, hmember⟩)
    · exact ⟨_, _, hread, .inl ⟨hmember, hid⟩, rfl⟩
    · exact ⟨_, _, hread, .inr ⟨_, hmember, rfl⟩, rfl⟩
  · rintro ⟨body, id, hread, ⟨hmember, hid⟩ | ⟨n, hmember, rfl⟩, rfl⟩
    · exact .named hread hmember hid
    · exact .numbered hread hmember

/-- No document has an empty identifier: the text of a number is not empty. -/
theorem StandsFor.id_ne_empty {idField line : String} {document : Document}
    (h : StandsFor idField line document) : document.id ≠ "" := by
  cases h with
  | named _ _ hid => exact hid
  | @numbered _ n _ _ =>
    intro hempty
    have htext := congrArg String.toList hempty
    rw [Json.compact, String.toList_ofList] at htext
    exact n.text_ne_nil htext

end Document

namespace LineFault

/-- The number of the line that is at fault. -/
def number : LineFault → Nat
  | unreadable number _ | withoutId number _ => number

/-- A fault is told with the number of its line in front. -/
theorem message_eq (fault : LineFault) :
    ∃ rest, fault.message = "Line " ++ toString fault.number ++ ": " ++ rest := by
  cases fault with
  | unreadable number line =>
    have hlabel : ": failed to parse JSON: " = ": " ++ "failed to parse JSON: " := by decide
    refine ⟨"failed to parse JSON: " ++ String.ofList (line.toList.take shownLength), ?_⟩
    change "Line " ++ toString number ++ ": failed to parse JSON: " ++ _ = _
    rw [hlabel]
    simp only [String.append_assoc, LineFault.number]
  | withoutId number idField =>
    have hlabel : ": missing '" = ": " ++ "missing '" := by decide
    refine ⟨"missing '" ++ idField ++ "' member", ?_⟩
    change "Line " ++ toString number ++ ": missing '" ++ idField ++ "' member" = _
    rw [hlabel]
    simp only [String.append_assoc, LineFault.number]

end LineFault

namespace Document

variable {idField line : String}

/-! ## One line -/

theorem ofLine_of_standsFor {document : Document} (h : StandsFor idField line document)
    (number : Nat) : ofLine idField number line = .ok document := by
  obtain ⟨body, id, hread, hid, rfl⟩ := standsFor_iff.mp h
  simp only [ofLine, hread, hid]

theorem ofLine_of_not_standsFor (h : ∀ document, ¬StandsFor idField line document)
    (number : Nat) :
    ∃ fault, ofLine idField number line = .error fault ∧ fault.number = number := by
  unfold ofLine
  cases hread : Json.read line with
  | none => exact ⟨.unreadable number line, rfl, rfl⟩
  | some body =>
    cases hid : memberId idField body with
    | none => exact ⟨.withoutId number idField, by simp only [hid], rfl⟩
    | some id => exact absurd (standsFor_iff.mpr ⟨body, id, hread, hid, rfl⟩) (h _)

theorem exists_standsFor (hline : ¬Offends idField line) (hwritten : ¬Text.Blank line) :
    ∃ document, StandsFor idField line document := by
  by_contra hnone
  exact hline ⟨hwritten, not_exists.mp hnone⟩

theorem ofLinesFrom_of_blank (hline : Text.Blank line) (number : Nat) (rest : List String) :
    ofLinesFrom idField number (line :: rest) = ofLinesFrom idField (number + 1) rest := by
  rw [ofLinesFrom, if_pos (Text.isEmpty_trim_iff.mpr hline)]

theorem ofLinesFrom_of_not_blank (hline : ¬Text.Blank line) (number : Nat) (rest : List String) :
    ofLinesFrom idField number (line :: rest) = do
      let document ← ofLine idField number line
      let others ← ofLinesFrom idField (number + 1) rest
      return document :: others := by
  rw [ofLinesFrom, if_neg (mt Text.isEmpty_trim_iff.mp hline)]

/-! ## All lines -/

/-- The lines that are not blank. -/
def written (lines : List String) : List String := lines.filter fun line ↦ ¬Text.Blank line

theorem written_of_blank (hline : Text.Blank line) (rest : List String) :
    written (line :: rest) = written rest :=
  List.filter_cons_of_neg (by simpa using hline)

theorem written_of_not_blank (hline : ¬Text.Blank line) (rest : List String) :
    written (line :: rest) = line :: written rest :=
  List.filter_cons_of_pos (by simpa using hline)

theorem ofLinesFrom_of_standsFor {lines : List String} {documents : List Document}
    (h : List.Forall₂ (StandsFor idField) (written lines) documents) (number : Nat) :
    ofLinesFrom idField number lines = .ok documents := by
  induction lines generalizing documents number with
  | nil =>
    cases h
    rfl
  | cons line rest ih =>
    by_cases hline : Text.Blank line
    · rw [written_of_blank hline] at h
      rw [ofLinesFrom_of_blank hline, ih h]
    · rw [written_of_not_blank hline] at h
      cases h with
      | cons hfirst hrest =>
        rw [ofLinesFrom_of_not_blank hline, ofLine_of_standsFor hfirst, ih hrest]
        rfl

/-- The lines before the first that offends are passed, whatever documents they stand for. -/
theorem ofLinesFrom_of_offends {before : List String}
    (hbefore : ∀ other ∈ before, ¬Offends idField other) (hline : Offends idField line)
    (after : List String) (number : Nat) :
    ∃ fault, ofLinesFrom idField number (before ++ line :: after) = .error fault ∧
      fault.number = number + before.length := by
  induction before generalizing number with
  | nil =>
    obtain ⟨hwritten, hnone⟩ := hline
    obtain ⟨fault, hfault, hnumber⟩ := ofLine_of_not_standsFor hnone number
    refine ⟨fault, ?_, hnumber⟩
    rw [List.nil_append, ofLinesFrom_of_not_blank hwritten, hfault]
    rfl
  | cons other before ih =>
    obtain ⟨hother, hbefore⟩ := List.forall_mem_cons.mp hbefore
    obtain ⟨fault, hfault, hnumber⟩ := ih hbefore (number + 1)
    refine ⟨fault, ?_, ?_⟩
    · by_cases hblank : Text.Blank other
      · rw [List.cons_append, ofLinesFrom_of_blank hblank, hfault]
      · obtain ⟨document, hdocument⟩ := exists_standsFor hother hblank
        rw [List.cons_append, ofLinesFrom_of_not_blank hblank, ofLine_of_standsFor hdocument,
          hfault]
        rfl
    · rw [hnumber, List.length_cons]
      omega

theorem ids_ne_empty {lines : List String} {documents : List Document}
    (h : List.Forall₂ (StandsFor idField) lines documents) :
    ∀ document ∈ documents, document.id ≠ "" := by
  induction h with
  | nil => simp
  | cons hfirst _ ih => exact List.forall_mem_cons.mpr ⟨hfirst.id_ne_empty, ih⟩

theorem exists_documents {lines : List String} (h : ∀ line ∈ lines, ¬Offends idField line) :
    ∃ documents, List.Forall₂ (StandsFor idField) (written lines) documents := by
  induction lines with
  | nil => exact ⟨[], .nil⟩
  | cons line rest ih =>
    obtain ⟨hline, hrest⟩ := List.forall_mem_cons.mp h
    obtain ⟨documents, hdocuments⟩ := ih hrest
    by_cases hblank : Text.Blank line
    · exact ⟨documents, (written_of_blank hblank rest).symm ▸ hdocuments⟩
    · obtain ⟨document, hdocument⟩ := exists_standsFor hline hblank
      exact ⟨document :: documents,
        (written_of_not_blank hblank rest).symm ▸ .cons hdocument hdocuments⟩

theorem exists_firstOffending {lines : List String} (h : ∃ line ∈ lines, Offends idField line) :
    ∃ number, FirstOffending idField lines number := by
  induction lines with
  | nil => simp at h
  | cons line rest ih =>
    by_cases hline : Offends idField line
    · exact ⟨1, [], line, rest, rfl, rfl, hline, by simp⟩
    · obtain ⟨number, before, other, after, rfl, rfl, hother, hbefore⟩ :=
        ih (by simpa [hline] using h)
      exact ⟨_, line :: before, other, after, rfl, rfl, hother,
        List.forall_mem_cons.mpr ⟨hline, hbefore⟩⟩

end Document

/-! ## The command -/

namespace Program

variable (program : Program Report)

/-- The program indexes these documents anew, calls the engine for nothing else, and reports how
many documents they were and how that came out. -/
def Reindexes (manager : IndexManager) (index : String) (documents : List Document)
    (parent : Option String) : Prop :=
  ∀ {σ : Type} (engine : Engine σ) (state : σ),
    let run := (manager.reindexAll index documents parent).run engine state
    program.run engine state =
      ⟨.ok (Command.shownReindexing index documents.length run.result), run.calls, run.state⟩

/-- The program prints nothing but a failure that names the line of that number, and does not call
the engine. -/
def FailsAtLine (number : Nat) : Prop :=
  ∃ fault : LineFault, fault.number = number ∧
    (∃ rest, fault.message = "Line " ++ toString number ++ ": " ++ rest) ∧
    ∀ {σ : Type} (engine : Engine σ) (state : σ),
      program.run engine state = ⟨.ok (.ofFailure (.line fault)), [], state⟩

end Program

open Document (Offends FirstOffending StandsFor written)

/-- Reindexing takes its input as a whole. If no line offends, the documents for which the lines
stand that are not blank are indexed, one for each of them and in their order, all with an
identifier; otherwise the command fails at the first line that offends, without a call. -/
theorem reindex_takes_whole_input (service : Service) (index idField text : String)
    (file parent : Option String) :
    let command := (Command.reindex index file idField parent).execute service (.ok text)
    (∀ lines, Text.InLines text.toList lines ↔ lines = Document.lines text) ∧
      (((∀ line ∈ Document.lines text, ¬Offends idField line) ∧ ∃ documents,
          List.Forall₂ (StandsFor idField) (written (Document.lines text)) documents ∧
          (∀ document ∈ documents, document.id ≠ "") ∧
          command.Reindexes service.manager index documents parent) ∨
        ∃ number, FirstOffending idField (Document.lines text) number ∧
          command.FailsAtLine number) := by
  refine ⟨fun lines ↦ Document.inLines_iff, ?_⟩
  by_cases hoffends : ∃ line ∈ Document.lines text, Offends idField line
  · obtain ⟨number, before, line, after, hlines, rfl, hline, hbefore⟩ :=
      Document.exists_firstOffending hoffends
    obtain ⟨fault, hfault, hnumber⟩ := Document.ofLinesFrom_of_offends hbefore hline after 1
    have hread : Document.ofText idField text = .error fault := by
      rw [Document.ofText, hlines, hfault]
    have hnumber : fault.number = before.length + 1 := by omega
    refine .inr ⟨_, ⟨before, line, after, hlines, rfl, hline, hbefore⟩, fault, hnumber,
      hnumber ▸ fault.message_eq, fun engine state ↦ ?_⟩
    simp [Command.execute, Command.reindexing, hread]
  · have hnone : ∀ line ∈ Document.lines text, ¬Offends idField line := by
      simpa using hoffends
    obtain ⟨documents, hdocuments⟩ := Document.exists_documents hnone
    have hread : Document.ofText idField text = .ok documents :=
      Document.ofLinesFrom_of_standsFor hdocuments 1
    refine .inl ⟨hnone, documents, hdocuments, Document.ids_ne_empty hdocuments,
      fun engine state ↦ ?_⟩
    simp [Command.execute, Command.reindexing, hread, Program.run_bind, Run.followedBy]

end FacetSearch
