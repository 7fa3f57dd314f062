import FacetSearch.Http.Client
import FacetSearch.Proofs.PercentCoding
import FacetSearch.Proofs.TextTokens

/-!
# Segments of a path

A URL that has been read has no slash within a segment of its path, so its path splits at the
slashes into its segments, and nothing is lost between the segments and the text that is requested.
-/

namespace FacetSearch

/-- No segment has a slash in it. -/
def Slashless (segments : List String) : Prop := ∀ segment ∈ segments, '/' ∉ segment.toList

namespace Slashless

variable {segments others : List String}

theorem nil : Slashless [] := fun _ hmem ↦ absurd hmem List.not_mem_nil

theorem empty : Slashless [""] := by simp [Slashless]

theorem append (h : Slashless segments) (hothers : Slashless others) :
    Slashless (segments ++ others) := by
  intro segment hmem
  exact (List.mem_append.mp hmem).elim (h segment) (hothers segment)

theorem of_subset (h : Slashless segments) (hsubset : others ⊆ segments) : Slashless others :=
  fun segment hmem ↦ h segment (hsubset hmem)

theorem parent (h : Slashless segments) : Slashless (Url.parent segments) := by
  unfold Url.parent
  split
  · exact h
  · exact h.of_subset (List.dropLast_subset segments)

end Slashless

namespace Url

/-! ## Reading a path -/

theorem slash_not_mem_writtenSegment {file : Bool} {before : List String} {piece : List Char}
    (hpiece : '/' ∉ piece) : '/' ∉ (writtenSegment file before piece).toList := by
  unfold writtenSegment
  simp only
  split
  · rw [String.toList_ofList]
    simp only [List.mem_append, List.mem_singleton, not_or]
    exact ⟨fun hmem ↦ hpiece (List.mem_of_mem_take hmem), by decide⟩
  · rw [String.toList_ofList]
    exact Percent.slash_not_mem_encode (.inr hpiece)

theorem slashless_followDots {file : Bool} {before : List String} {pieces : List (List Char)}
    (hbefore : Slashless before) (hpieces : ∀ piece ∈ pieces, '/' ∉ piece) :
    Slashless (followDots file before pieces) := by
  have hwritten {before : List String} (hbefore : Slashless before) {piece : List Char}
      (hpiece : '/' ∉ piece) : Slashless (before ++ [writtenSegment file before piece]) :=
    hbefore.append fun segment hmem ↦ by
      rw [List.mem_singleton.mp hmem]
      exact slash_not_mem_writtenSegment hpiece
  induction pieces generalizing before with
  | nil => exact hbefore
  | cons piece rest ih =>
    obtain ⟨hpiece, hrest⟩ := List.forall_mem_cons.mp hpieces
    cases rest with
    | nil =>
      simp only [followDots]
      split
      · exact hbefore.parent.append .empty
      split
      · exact hbefore.append .empty
      · exact hwritten hbefore hpiece
    | cons next rest =>
      simp only [followDots]
      split
      · exact ih hbefore.parent hrest
      split
      · exact ih hbefore hrest
      · exact ih (hwritten hbefore hpiece) hrest

theorem slashless_readSegments (scheme : String) (cs : List Char) :
    Slashless (readSegments scheme cs) :=
  slashless_followDots .nil fun _ hpiece ↦ Text.separator_not_mem_of_mem_pieces hpiece

theorem slashless_readPath (scheme : String) (cs : List Char) :
    Slashless (readPath scheme cs) := by
  unfold readPath
  split
  · split
    · exact .empty
    · exact .nil
  · exact slashless_readSegments scheme _

theorem slashless_trimmedSegments {segments : List String} (h : Slashless segments) :
    Slashless (trimmedSegments segments) := by
  fun_induction trimmedSegments segments with
  | case1 next rest ih => exact ih (h.of_subset (List.subset_cons_self _ _))
  | case2 => exact h

/-- The path of the URL has no slash within a segment. -/
def Split (url : Url) : Prop := ∀ segments, url.path = .segments segments → Slashless segments

theorem split_withEnd {scheme : String} {authority : Option Authority} {path : List String}
    {rest : List Char} (h : Slashless path) :
    (withEnd scheme authority (.segments path) rest).Split := by
  rintro segments hpath
  obtain rfl := UrlPath.segments.inj hpath
  exact h

theorem split_readNetwork {scheme : String} {cs : List Char} {url : Url}
    (hread : readNetwork scheme cs = .ok url) : url.Split := by
  simp only [readNetwork, bind, Except.bind] at hread
  split at hread
  · cases hread
  · cases hread
    exact split_withEnd (slashless_readPath scheme _)

theorem split_ofFile {host : Host} {path : List String} {rest : List Char} (h : Slashless path) :
    (ofFile host path rest).Split :=
  split_withEnd (slashless_trimmedSegments h)

theorem split_readFileNetwork {cs : List Char} {url : Url}
    (hread : readFileNetwork cs = .ok url) : url.Split := by
  simp only [readFileNetwork, bind, Except.bind] at hread
  split at hread
  · cases hread
    exact split_ofFile (slashless_readPath "file" _)
  split at hread
  · cases hread
  split at hread
  · cases hread
    exact split_ofFile (slashless_readSegments "file" _)
  · cases hread
    exact split_ofFile (slashless_readPath "file" _)

theorem split_readFile {cs : List Char} {url : Url} (hread : readFile cs = .ok url) :
    url.Split := by
  unfold readFile at hread
  split at hread
  · exact split_readFileNetwork hread
  · cases hread
    exact split_ofFile (slashless_readPath "file" _)

theorem split_readOther {scheme : String} {cs : List Char} {url : Url}
    (hread : readOther scheme cs = .ok url) : url.Split := by
  unfold readOther at hread
  split at hread
  · exact split_readNetwork hread
  · cases hread
    exact split_withEnd (slashless_readSegments scheme _)
  · cases hread
    rintro segments hpath
    cases hpath

theorem split_read {text : String} {url : Url} (hread : read text = .ok url) : url.Split := by
  unfold read at hread
  split at hread
  · cases hread
  split at hread
  · exact split_readFile hread
  split at hread
  · exact split_readNetwork hread
  · exact split_readOther hread

/-! ## Splitting a path -/

/-- What the segments of a path stand for: the octets of the texts between its slashes. -/
def steps (url : Url) : List (List UInt8) :=
  ((url.pathString.toList.splitOn '/').drop 1).map Percent.decode

theorem intercalate_slash (first : List Char) (segments : List (List Char)) :
    ['/'].intercalate (first :: segments) =
      first ++ segments.flatMap fun segment ↦ '/' :: segment := by
  induction segments generalizing first with
  | nil => simp [List.intercalate]
  | cons segment rest ih =>
    have hlater := ih segment
    simp only [List.intercalate, List.intersperse_cons_cons, List.flatten_cons] at hlater ⊢
    rw [hlater]
    simp

theorem splitOn_pathText {segments : List String} (h : Slashless segments) :
    (pathText segments).toList.splitOn '/' = [] :: segments.map String.toList := by
  have htext : (pathText segments).toList =
      ['/'].intercalate ([] :: segments.map String.toList) := by
    rw [intercalate_slash, pathText, String.toList_join, List.flatMap_map, List.flatMap_map]
    simp
  rw [htext, List.splitOn_intercalate]
  · intro segment hmem
    rcases List.mem_cons.mp hmem with rfl | hmem
    · exact List.not_mem_nil
    · obtain ⟨text, htext, rfl⟩ := List.mem_map.mp hmem
      exact h text htext
  · exact List.cons_ne_nil _ _

theorem steps_eq {url : Url} {segments : List String} (hpath : url.path = .segments segments)
    (h : Slashless segments) :
    url.steps = segments.map fun segment ↦ Percent.decode segment.toList := by
  simp only [steps, pathString, hpath, splitOn_pathText h, List.drop_one, List.tail_cons,
    List.map_map]
  rfl

end Url

namespace Http

/-- The base of a client is a URL whose path splits into its segments. -/
theorem Client.exists_segments {settings : EngineSettings} {client : Client}
    (hclient : Client.ofSettings settings = .ok client) :
    ∃ segments, client.base.path = .segments segments ∧ Slashless segments := by
  unfold ofSettings at hclient
  split at hclient
  · cases hclient
  · next url hread =>
    split at hclient
    · next hbase =>
      cases hclient
      unfold isBase at hbase
      split at hbase
      · next segments hpath => exact ⟨segments, hpath, Url.split_read hread segments hpath⟩
      · cases hbase
    · cases hclient

end Http

end FacetSearch
