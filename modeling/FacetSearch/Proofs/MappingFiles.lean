import FacetSearch.FileStore
import FacetSearch.Index.Mapping
import FacetSearch.Proofs.TextTokens

/-!
# Files of mappings

A path leads from directory to directory, name by name, and a file is read where it leads. A path
below a directory is followed from where the directory is, so `Mapping.listener` applies the mapping
in the file of the name of a new index there, whatever else is stored.
-/

namespace FacetSearch

namespace FileStore

variable {store : FileStore} {here way last : List String} {dir path : String}

/-! ## Following names -/

/-- Names lead from one way to another. Each of them is looked up in a directory. -/
inductive Leads (store : FileStore) : List String → List String → List String → Prop
  | done {way : List String} : Leads store way [] way
  | stay {way rest last : List String} {name : String}
      (hdirectory : store.entry? way = some .directory) (hname : name = "" ∨ name = ".")
      (hrest : Leads store way rest last) : Leads store way (name :: rest) last
  | up {way rest last : List String} (hdirectory : store.entry? way = some .directory)
      (hrest : Leads store way.dropLast rest last) : Leads store way (".." :: rest) last
  | down {way rest last : List String} {name : String}
      (hdirectory : store.entry? way = some .directory) (hname : name ∉ ["", ".", ".."])
      (hlength : name.utf8ByteSize ≤ longestName) (hrest : Leads store (way ++ [name]) rest last) :
      Leads store way (name :: rest) last

theorem follow_append {names : List String} (h : store.Leads way names last) (rest : List String) :
    store.follow way (names ++ rest) = store.follow last rest := by
  induction h with
  | done => rfl
  | stay hdirectory hname _ ih => simpa only [List.cons_append, follow, hdirectory, if_pos hname]
  | up hdirectory _ ih => simpa [follow, hdirectory]
  | @down _ _ _ name hdirectory hname hlength _ ih =>
    obtain ⟨hempty, hdot, hdots⟩ : name ≠ "" ∧ name ≠ "." ∧ name ≠ ".." := by simpa using hname
    simpa [follow, hdirectory, hempty, hdot, hdots, hlength.not_gt]

theorem follow_eq_ok_iff {names : List String} {entry : FileEntry} :
    store.follow way names = .ok entry ↔
      ∃ last, store.Leads way names last ∧ store.entry? last = some entry := by
  have hnil (way : List String) :
      store.follow way [] = .ok entry ↔ store.entry? way = some entry := by
    rw [follow]
    split <;> simp [*]
  constructor
  · intro hfollow
    induction names generalizing way with
    | nil => exact ⟨way, .done, (hnil way).mp hfollow⟩
    | cons name rest ih =>
      rw [follow] at hfollow
      split at hfollow
      · cases hfollow
      · cases hfollow
      · next hdirectory =>
        split_ifs at hfollow with hstay hup hlength
        · obtain ⟨last, hleads, hentry⟩ := ih hfollow
          exact ⟨last, .stay hdirectory hstay hleads, hentry⟩
        · obtain ⟨last, hleads, hentry⟩ := ih hfollow
          exact ⟨last, hup ▸ .up hdirectory hleads, hentry⟩
        · obtain ⟨last, hleads, hentry⟩ := ih hfollow
          have hname : name ∉ ["", ".", ".."] := by
            simpa [not_or, and_assoc] using And.intro (not_or.mp hstay) hup
          exact ⟨last, .down hdirectory hname (not_lt.mp hlength) hleads, hentry⟩
  · rintro ⟨last, hleads, hentry⟩
    rw [← names.append_nil, follow_append hleads]
    exact (hnil last).mpr hentry

/-! ## Paths -/

/-- The path has a form that a file can have. -/
structure IsPath (path : String) : Prop where
  readable : Char.ofNat 0 ∉ path.toList
  nonempty : path ≠ ""
  fits : path.utf8ByteSize ≤ longestPath

/-- Where a path starts. -/
def start (here : List String) (path : String) : List String :=
  if path.toList.head? = some '/' then [] else here

theorem find_of_isPath (h : IsPath path) :
    store.find here path = store.follow (start here path) (names path) := by
  rw [find, if_neg (by simpa using h.readable), if_neg h.nonempty, if_neg h.fits.not_gt]
  rfl

theorem isPath_of_find {entry : FileEntry} (h : store.find here path = .ok entry) :
    IsPath path := by
  rw [find, ← start] at h
  split_ifs at h with hunreadable hempty hlong
  exact ⟨by simpa using hunreadable, hempty, not_lt.mp hlong⟩

/-- The text of what was found. -/
def contentOf : Except FileFault FileEntry → FileContent
  | .ok (.file content) => .ok content
  | .ok .directory => .error .unreadable
  | .error fault => .error fault

theorem read_eq_contentOf : store.read here path = contentOf (store.find here path) := by
  rw [read]
  cases store.find here path with
  | error fault => rfl
  | ok entry => cases entry <;> rfl

/-- A file is read where a path leads to it. -/
theorem read_eq_ok_iff {content : String} :
    store.read here path = .ok content ↔ IsPath path ∧
      ∃ last, store.Leads (start here path) (names path) last ∧
        store.entry? last = some (.file content) := by
  have hread : store.read here path = .ok content ↔
      store.find here path = .ok (.file content) := by
    rw [read_eq_contentOf]
    unfold contentOf
    split <;> simp [*]
  rw [hread]
  constructor
  · intro hfind
    have hpath := isPath_of_find hfind
    rw [find_of_isPath hpath] at hfind
    exact ⟨hpath, follow_eq_ok_iff.mp hfind⟩
  · rintro ⟨hpath, hleads⟩
    rw [find_of_isPath hpath]
    exact follow_eq_ok_iff.mpr hleads

/-! ## Paths below a directory -/

theorem names_eq_append {front rest : List Char} (hpath : path.toList = front ++ '/' :: rest) :
    names path = names (String.ofList front) ++ names (String.ofList rest) := by
  simp only [names, hpath, Text.pieces_append, List.map_append, String.toList_ofList]

/-- An empty name does not lead anywhere else. -/
theorem follow_empty_cons (name : String) (rest : List String) :
    store.follow way ("" :: name :: rest) = store.follow way (name :: rest) := by
  rw [follow]
  split
  · next hnone => rw [follow, hnone]
  · next hfile => rw [follow, hfile]
  · rw [if_pos (.inl rfl)]

theorem follow_append_congr {rest other : List String}
    (h : ∀ way, store.follow way rest = store.follow way other) (names : List String) :
    store.follow way (names ++ rest) = store.follow way (names ++ other) := by
  induction names generalizing way with
  | nil => exact h way
  | cons name names ih => simp only [List.cons_append, follow, ih]

/-- A path below a directory is followed from where the path of the directory leads. -/
theorem follow_names_joinPaths (hrelative : path.toList.head? ≠ some '/') :
    store.follow way (names (joinPaths dir path)) = store.follow way (names dir ++ names path) := by
  obtain ⟨name, others, hnames⟩ : ∃ name others, names path = name :: others := by
    apply List.exists_cons_of_ne_nil
    simpa [names] using Text.pieces_ne_nil '/' path.toList
  have hskip (way : List String) :
      store.follow way (names path) = store.follow way ("" :: names path) := by
    rw [hnames, follow_empty_cons]
  have hbelow (front : List Char) {whole : String}
      (hwhole : whole.toList = front ++ '/' :: path.toList) :
      names whole = names (String.ofList front) ++ names path := by
    rw [names_eq_append hwhole, String.ofList_toList]
  rw [joinPaths, beq_eq_false_iff_ne.mpr hrelative, Bool.false_or]
  split_ifs with hempty hend
  · obtain rfl : dir = "" := by simpa using hempty
    exact hskip way
  · obtain ⟨front, hfront⟩ := List.getLast?_eq_some_iff.mp (beq_iff_eq.mp hend)
    have hdir : names dir = names (String.ofList front) ++ [""] := names_eq_append hfront
    have hwhole : names (dir ++ path) = names (String.ofList front) ++ names path :=
      hbelow front (by simp [hfront])
    rw [hdir, hwhole, List.append_assoc]
    exact follow_append_congr hskip _
  · rw [hbelow dir.toList (by simp), String.ofList_toList]

theorem head?_joinPaths (hrelative : path.toList.head? ≠ some '/') (hdir : dir ≠ "") :
    (joinPaths dir path).toList.head? = dir.toList.head? := by
  obtain ⟨c, rest, hcons⟩ := List.exists_cons_of_ne_nil (mt String.toList_eq_nil_iff.mp hdir)
  rw [joinPaths, beq_eq_false_iff_ne.mpr hrelative, Bool.false_or, if_neg (by simpa using hdir)]
  split_ifs <;> simp [hcons]

theorem start_joinPaths (hrelative : path.toList.head? ≠ some '/') :
    start here (joinPaths dir path) = start here dir := by
  by_cases hdir : dir = ""
  · simp [hdir, joinPaths, start, hrelative]
  · rw [start, head?_joinPaths hrelative hdir, start]

theorem find_joinPaths (hpath : IsPath (joinPaths dir path))
    (hrelative : path.toList.head? ≠ some '/')
    (hdir : store.Leads (start here dir) (names dir) way) :
    store.find here (joinPaths dir path) = store.follow way (names path) := by
  rw [find_of_isPath hpath, start_joinPaths hrelative, follow_names_joinPaths hrelative,
    follow_append hdir]

end FileStore

/-! ## Mappings -/

namespace Mapping

open FileStore (IsPath longestName names start)

variable {store : FileStore} {here way : List String} {dir index : String}

theorem names_file (hindex : '/' ∉ index.toList) : names (index ++ ".json") = [index ++ ".json"] := by
  have hname : '/' ∉ (index ++ ".json").toList := by simp [hindex]
  rw [names, Text.pieces_of_not_mem hname, List.map_singleton, String.ofList_toList]

theorem file_not_special (index : String) : index ++ ".json" ∉ ["", ".", ".."] := by
  intro hmem
  have hshort : ∀ name ∈ ["", ".", ".."], name.length ≤ 2 := by decide
  have hfile : (index ++ ".json").length = index.length + 5 := String.length_append _ _
  have hlength := hshort _ hmem
  omega

/-- The mapping of a new index is that in the file of its name in the mapping directory. Where there
is none, nothing is done. -/
theorem listener_eq (hdir : store.Leads (start here dir) (names dir) way)
    (hdirectory : store.entry? way = some .directory) (hindex : '/' ∉ index.toList)
    (hname : (index ++ ".json").utf8ByteSize ≤ longestName) (hpath : IsPath (path dir index)) :
    listener (store.read here) dir index =
      match store.entry? (way ++ [index ++ ".json"]) with
      | none => return ()
      | some .directory => .fail .io
      | some (.file content) => (do
        let mapping ← (ofText content : Except Error Json)
        Program.request (.putMapping index mapping)) := by
  have hrelative : (index ++ ".json").toList.head? ≠ some '/' := by
    intro hhead
    have hslash : '/' ∈ (index ++ ".json").toList := List.mem_of_mem_head? hhead
    simp [hindex] at hslash
  have hleads : store.Leads way [index ++ ".json"] (way ++ [index ++ ".json"]) :=
    .down hdirectory (file_not_special index) hname .done
  have hfind : store.find here (path dir index) = store.follow (way ++ [index ++ ".json"]) [] := by
    rw [path, FileStore.find_joinPaths hpath hrelative hdir, names_file hindex]
    exact FileStore.follow_append hleads []
  rw [listener, FileStore.read_eq_contentOf, hfind, FileStore.follow]
  cases store.entry? (way ++ [index ++ ".json"]) with
  | none => rfl
  | some entry => cases entry <;> rfl

-- A name that is a path leads out of the directory.
example : (FileStore.read ⟨[(["maps"], .directory), (["other.json"], .file "\x7b\x7d")]⟩ ["maps"]
    (path "." "../other")) = .ok "\x7b\x7d" := by decide

end Mapping

end FacetSearch
