import FacetSearch.Index.Settings
import FacetSearch.Proofs.JsonReading
import FacetSearch.Proofs.TextTokens

/-!
# Creation bodies

The members that a text of settings gives are divided between two levels: the settings proper stand
in the member `settings` of the body, the sections beside it. Both forms of the text divide alike,
and the body is itself a text of settings: it is made from its own text again, as long as that text
is read back. Doubles need not be read back, since a literal is converted with more than one
rounding.
-/

namespace FacetSearch

namespace IndexSettings

/-! ## What a text of settings gives -/

/-- The members that a text of settings gives: none if it is blank, or else those of its object. -/
def Gives (text : String) (given : StringMap Json) : Prop :=
  Text.Blank text ∧ given = ∅ ∨ ¬Text.Blank text ∧ Json.read text = some (.ofMap given)

/-- The text is neither blank nor that of an object whose member `settings`, if it is there, is an
object too. -/
def Unusable (text : String) : Prop :=
  ¬Text.Blank text ∧ ((∀ members, Json.read text ≠ some (.obj members)) ∨
    ∃ members value, Json.read text = some (.obj members) ∧
      Entries.get? members "settings" = some value ∧ ∀ own, value ≠ .obj own)

/-- The name of a member that is no setting, even where the settings are given bare. -/
def Section (name : String) : Prop := name = "mappings" ∨ name = "aliases"

instance (name : String) : Decidable (Section name) := inferInstanceAs (Decidable (_ ∨ _))

/-- The given members divide into settings proper and other sections. -/
inductive Divides (given own sections : StringMap Json) : Prop
  | wrapped (hown : given.get? "settings" = some (.ofMap own))
      (hsections : ∀ name, sections.get? name =
        if name = "settings" then none else given.get? name)
  | bare (hnone : given.get? "settings" = none)
      (hown : ∀ name, own.get? name = if Section name then none else given.get? name)
      (hsections : ∀ name, sections.get? name = if Section name then given.get? name else none)

/-- The numbers of shards and replicas are those of the settings. -/
structure Counted (settings : IndexSettings) (counted : StringMap Json) : Prop where
  shards : counted.get? "number_of_shards" = some (.nat settings.shards.toNat)
  replicas : counted.get? "number_of_replicas" = some (.nat settings.replicas.toNat)

/-- The body has the sections and, in the member `settings`, the settings with the numbers of shards
and replicas. -/
structure Assembles (settings : IndexSettings) (own sections body : StringMap Json) : Prop where
  sections : ∀ name, name ≠ "settings" → body.get? name = sections.get? name
  settings : ∃ counted : StringMap Json, body.get? "settings" = some (.ofMap counted) ∧
    Counted settings counted ∧ ∀ name, name ≠ "number_of_shards" → name ≠ "number_of_replicas" →
      counted.get? name = own.get? name

/-- The same members, bare and wrapped. -/
structure Wraps (wrapped bare : StringMap Json) : Prop where
  unwrapped : bare.get? "settings" = none
  settings : ∃ own : StringMap Json, wrapped.get? "settings" = some (.ofMap own) ∧
    ∀ name, own.get? name = if Section name then none else bare.get? name
  sections : ∀ name, name ≠ "settings" →
    wrapped.get? name = if Section name then bare.get? name else none

variable {settings : IndexSettings} {given own sections : StringMap Json}

theorem isSection_eq (name : String) : isSection name = decide (Section name) := by
  rw [Bool.eq_iff_iff, decide_eq_true_iff]
  simp [isSection, Section]

theorem divides_erase (hown : given.get? "settings" = some (.ofMap own)) :
    Divides given own (given.erase "settings") := by
  refine .wrapped hown fun name ↦ ?_
  rw [StringMap.get?_erase]
  exact if_congr eq_comm rfl rfl

/-- Bare members divide as they are divided where they are wrapped. -/
theorem Wraps.divides {wrapped bare : StringMap Json} (h : Wraps wrapped bare) :
    ∃ own, wrapped.get? "settings" = some (.ofMap own) ∧
      Divides bare own (wrapped.erase "settings") := by
  obtain ⟨own, hentry, hown⟩ := h.settings
  refine ⟨own, hentry, .bare h.unwrapped hown fun name ↦ ?_⟩
  rw [StringMap.get?_erase]
  split
  · next hname =>
    subst hname
    exact (if_neg (by decide)).symm
  · next hname => exact h.sections name (Ne.symm hname)

theorem members_of_gives (hgives : Gives settings.settings given) :
    settings.members = .ok given.entries := by
  rw [members]
  rcases hgives with ⟨hblank, rfl⟩ | ⟨hwritten, hread⟩
  · rw [if_pos (Text.isEmpty_trim_iff.mpr hblank)]
    rfl
  · rw [if_neg (mt Text.isEmpty_trim_iff.mp hwritten), hread]
    rfl

theorem split_of_divides (hdivides : Divides given own sections) :
    split given.entries = .ok (own.entries, sections.entries) := by
  rw [split]
  cases hdivides with
  | wrapped hown hsections =>
    have hentry : Entries.get? given.entries "settings" = some (.obj own.entries) := hown
    have hrest : given.erase "settings" = sections := by
      apply StringMap.ext_get?
      intro name
      rw [StringMap.get?_erase, hsections]
      exact if_congr eq_comm rfl rfl
    rw [hentry, ← hrest]
    rfl
  | bare hnone hown hsections =>
    have hentry : Entries.get? given.entries "settings" = none := hnone
    have hfilter (kept : String → Bool) {part : StringMap Json}
        (hpart : ∀ name, part.get? name = if kept name then given.get? name else none) :
        given.entries.filter (fun member ↦ kept member.1) = part.entries := by
      apply Entries.Ascending.ext (List.Pairwise.filter _ given.ascending) part.ascending
      intro name
      rw [Entries.get?_filter]
      exact (hpart name).symm
    have howns := hfilter (fun name ↦ !isSection name) (by simpa [isSection_eq] using hown)
    have hothers := hfilter isSection (by simpa [isSection_eq] using hsections)
    rw [hentry, howns, hothers]

/-! ## Making a body -/

/-- The body of the settings proper and the sections. -/
def assembled (settings : IndexSettings) (own sections : StringMap Json) : StringMap Json :=
  sections.insert "settings" (.ofMap
    ((own.insert "number_of_shards" (.nat settings.shards.toNat)).insert "number_of_replicas"
      (.nat settings.replicas.toNat)))

theorem assembles_assembled (settings : IndexSettings) (own sections : StringMap Json) :
    Assembles settings own sections (assembled settings own sections) where
  sections name hname := by simp [assembled, Ne.symm hname]
  settings := by
    refine ⟨_, (StringMap.get?_insert ..).trans (if_pos rfl), ⟨by simp, by simp⟩, ?_⟩
    intro name hshards hreplicas
    simp [Ne.symm hshards, Ne.symm hreplicas]

theorem createBody_of_divides (hgives : Gives settings.settings given)
    (hdivides : Divides given own sections) :
    settings.createBody = .ok (.ofMap (assembled settings own sections)) := by
  rw [createBody, members_of_gives hgives]
  change (split given.entries >>= _) = _
  rw [split_of_divides hdivides]
  rfl

theorem createBody_of_unusable (hunusable : Unusable settings.settings) :
    ∃ error, settings.createBody = .error error ∧ error.kind = .config := by
  obtain ⟨hwritten, hobject⟩ := hunusable
  have hempty : ¬(Text.trim settings.settings.toList).isEmpty = true :=
    mt Text.isEmpty_trim_iff.mp hwritten
  rw [createBody, members, if_neg hempty]
  rcases hobject with hobject | ⟨members, value, hread, hentry, hvalue⟩
  · cases hread : Json.read settings.settings with
    | none => exact ⟨_, rfl, rfl⟩
    | some value =>
      cases value with
      | obj members => exact absurd hread (hobject members)
      | _ => exact ⟨_, rfl, rfl⟩
  · rw [hread]
    change ∃ error, (split members >>= _) = _ ∧ _
    rw [split, hentry]
    cases value with
    | obj own => exact absurd rfl (hvalue own)
    | _ => exact ⟨_, rfl, rfl⟩

theorem exists_divides (given : StringMap Json)
    (hsettings : ∀ value, given.get? "settings" = some value →
      ∃ own : StringMap Json, value = .ofMap own) :
    ∃ own sections, Divides given own sections := by
  cases hentry : given.get? "settings" with
  | some value =>
    obtain ⟨own, rfl⟩ := hsettings value hentry
    exact ⟨own, given.erase "settings", divides_erase hentry⟩
  | none =>
    have hpart (kept : String → Bool) : ∃ part : StringMap Json,
        ∀ name, part.get? name = if kept name then given.get? name else none :=
      ⟨⟨_, List.Pairwise.filter _ given.ascending⟩, Entries.get?_filter given.entries kept⟩
    obtain ⟨own, hown⟩ := hpart fun name ↦ !isSection name
    obtain ⟨sections, hsections⟩ := hpart isSection
    exact ⟨own, sections, .bare hentry (by simpa [isSection_eq] using hown)
      (by simpa [isSection_eq] using hsections)⟩

theorem exists_gives {text : String} (husable : ¬Unusable text) :
    ∃ given own sections, Gives text given ∧ Divides given own sections := by
  by_cases hblank : Text.Blank text
  · obtain ⟨own, sections, hdivides⟩ := exists_divides ∅ (by simp)
    exact ⟨∅, own, sections, .inl ⟨hblank, rfl⟩, hdivides⟩
  · obtain ⟨hobject, hsettings⟩ := not_or.mp (not_and.mp husable hblank)
    obtain ⟨members, hread⟩ : ∃ members, Json.read text = some (.obj members) := by
      simpa using hobject
    obtain ⟨hascending, hcanonical⟩ := (Json.textual_of_read hread).canonical
    have hdivides : ∃ own sections, Divides ⟨members, hascending⟩ own sections := by
      apply exists_divides
      intro value hvalue
      obtain ⟨own, rfl⟩ : ∃ own, value = .obj own := by
        by_contra hother
        exact hsettings ⟨members, value, hread, hvalue, not_exists.mp hother⟩
      have hown := Json.canonicalMembers_iff.mp hcanonical _ (Entries.mem_of_get?_eq_some hvalue)
      exact ⟨⟨own, hown.1⟩, rfl⟩
    obtain ⟨own, sections, hdivides⟩ := hdivides
    exact ⟨⟨members, hascending⟩, own, sections, .inr ⟨hblank, hread⟩, hdivides⟩

/-! ## The body as a text of settings -/

variable {body counted : StringMap Json}

theorem textual_of_gives {text : String} (hgives : Gives text given) :
    (Json.ofMap given).Textual := by
  rcases hgives with ⟨-, rfl⟩ | ⟨-, hread⟩
  · exact Json.textual_ofMap_iff.mpr (by simp)
  · exact Json.textual_of_read hread

theorem textual_of_divides (hgiven : (Json.ofMap given).Textual)
    (hdivides : Divides given own sections) :
    (Json.ofMap own).Textual ∧ (Json.ofMap sections).Textual := by
  have hvalues := Json.textual_ofMap_iff.mp hgiven
  cases hdivides with
  | wrapped hown hsections =>
    refine ⟨hvalues _ _ hown, Json.textual_ofMap_iff.mpr fun name value hvalue ↦ ?_⟩
    rw [hsections, Option.ite_none_left_eq_some] at hvalue
    exact hvalues name value hvalue.2
  | bare hnone hown hsections =>
    constructor <;> refine Json.textual_ofMap_iff.mpr fun name value hvalue ↦ ?_
    · rw [hown, Option.ite_none_left_eq_some] at hvalue
      exact hvalues name value hvalue.2
    · rw [hsections, Option.ite_none_right_eq_some] at hvalue
      exact hvalues name value hvalue.2

theorem textual_assembled (settings : IndexSettings) (hown : (Json.ofMap own).Textual)
    (hsections : (Json.ofMap sections).Textual) :
    (Json.ofMap (assembled settings own sections)).Textual := by
  have hcount (n : UInt32) : (Json.nat n.toNat).Textual :=
    Json.textual_nat (n.toNat_lt.trans (by decide))
  exact (hsections.insert _ ((hown.insert _ (hcount _)).insert _ (hcount _)))

/-- A body with the numbers of shards and replicas is made from a text that gives it. -/
theorem createBody_of_counted (hgives : Gives settings.settings body)
    (hsettings : body.get? "settings" = some (.ofMap counted))
    (hcounted : Counted settings counted) : settings.createBody = .ok (.ofMap body) := by
  rw [createBody_of_divides hgives (divides_erase hsettings), assembled,
    StringMap.insert_of_get?_eq_some hcounted.shards,
    StringMap.insert_of_get?_eq_some hcounted.replicas, StringMap.insert_erase,
    StringMap.insert_of_get?_eq_some hsettings]

/-- The same settings with another text. -/
def withText (settings : IndexSettings) (text : String) : IndexSettings :=
  { settings with settings := text }

/-- What the text of a body gives has the numbers of shards and replicas too, whatever its doubles
are read to. -/
theorem counted_of_read (hread : Json.read (Json.ofMap body).compact = some (.ofMap given))
    (hsettings : body.get? "settings" = some (.ofMap counted))
    (hcounted : Counted settings counted) :
    ∃ others : StringMap Json, given.get? "settings" = some (.ofMap others) ∧
      Counted settings others := by
  rw [Json.read_compact] at hread
  obtain ⟨values, hvalues, hgiven⟩ := (Json.reading_obj body.ascending).mp hread
  cases Json.obj.inj hgiven
  obtain ⟨value, hvalue, hentry⟩ := hvalues.exists_get? hsettings
  obtain ⟨others, hothers, rfl⟩ := (Json.reading_obj counted.ascending).mp hvalue
  have hcount {name : String} {n : UInt32} (hname : counted.get? name = some (.nat n.toNat)) :
      Entries.get? others name = some (.nat n.toNat) := by
    obtain ⟨value, hvalue, hother⟩ := hothers.exists_get? hname
    rw [Json.reading_nat (n.toNat_lt.trans (by decide))] at hvalue
    cases hvalue
    exact hother
  exact ⟨⟨others, hothers.ascending counted.ascending⟩, hentry, hcount hcounted.shards,
    hcount hcounted.replicas⟩

theorem not_blank_compact (body : StringMap Json) : ¬Text.Blank (Json.ofMap body).compact := by
  intro hblank
  have hbrace : '{' ∈ (Json.ofMap body).compact.toList := by
    simp [Json.compact, Json.text, Json.ofMap]
  exact absurd (hblank _ hbrace) (by decide)

/-- A body is made from its own text just if it is read back. -/
theorem createBody_compact_iff (hsettings : body.get? "settings" = some (.ofMap counted))
    (hcounted : Counted settings counted) :
    (settings.withText (Json.ofMap body).compact).createBody = .ok (.ofMap body) ↔
      Json.read (Json.ofMap body).compact = some (.ofMap body) := by
  have hwritten := not_blank_compact body
  constructor
  · intro hcreated
    by_cases hunusable : Unusable (settings.withText (Json.ofMap body).compact).settings
    · obtain ⟨error, herror, -⟩ := createBody_of_unusable hunusable
      cases hcreated.symm.trans herror
    · obtain ⟨given, own, sections, ⟨hblank, -⟩ | ⟨-, hread⟩, -⟩ := exists_gives hunusable
      · exact absurd hblank hwritten
      -- The body made from the text is what the text gives.
      obtain ⟨others, hentry, hothers⟩ := counted_of_read hread hsettings hcounted
      have hsame : (settings.withText (Json.ofMap body).compact).createBody = .ok (.ofMap given) :=
        createBody_of_counted (.inr ⟨hwritten, hread⟩) hentry ⟨hothers.shards, hothers.replicas⟩
      exact hread.trans (congrArg some (Except.ok.inj (hsame.symm.trans hcreated)))
  · intro hread
    exact createBody_of_counted (.inr ⟨hwritten, hread⟩) hsettings
      ⟨hcounted.shards, hcounted.replicas⟩

/-- A text that is not blank is refused if it is not that of an object or the member `settings` is
not an object. The members of any other text go to their levels, and both forms of a text give the
same body. A body is made from its own text again just if it is not nested too deep for the reader
and each of its doubles is read back. -/
theorem createBody_characterized (settings : IndexSettings) :
    ((Unusable settings.settings ∧
        ∃ error, settings.createBody = .error error ∧ error.kind = .config) ∨
      (¬Unusable settings.settings ∧ ∃ given own sections body,
        Gives settings.settings given ∧ Divides given own sections ∧
          Assembles settings own sections body ∧ settings.createBody = .ok (.ofMap body))) ∧
    (∀ text bare wrapped, Gives settings.settings bare → Gives text wrapped → Wraps wrapped bare →
      ∃ body, settings.createBody = .ok body ∧ (settings.withText text).createBody = .ok body) ∧
    ∀ body, settings.createBody = .ok body →
      ((settings.withText body.compact).createBody = .ok body ↔
        body.nesting ≤ RawJson.greatestDepth ∧
          ∀ x : Binary64, .float x ∈ body.numbers → Json.ReadBack x) := by
  refine ⟨?_, ?_, ?_⟩
  · by_cases hunusable : Unusable settings.settings
    · exact .inl ⟨hunusable, createBody_of_unusable hunusable⟩
    · obtain ⟨given, own, sections, hgives, hdivides⟩ := exists_gives hunusable
      exact .inr ⟨hunusable, given, own, sections, _, hgives, hdivides,
        assembles_assembled settings own sections, createBody_of_divides hgives hdivides⟩
  · intro text bare wrapped hbare hwrapped hwraps
    obtain ⟨own, hentry, hdivides⟩ := hwraps.divides
    exact ⟨_, createBody_of_divides hbare hdivides,
      createBody_of_divides hwrapped (divides_erase hentry)⟩
  · intro body hcreated
    by_cases hunusable : Unusable settings.settings
    · obtain ⟨error, herror, -⟩ := createBody_of_unusable hunusable
      cases hcreated.symm.trans herror
    · obtain ⟨given, own, sections, hgives, hdivides⟩ := exists_gives hunusable
      obtain rfl := Except.ok.inj (hcreated.symm.trans (createBody_of_divides hgives hdivides))
      obtain ⟨hown, hsections⟩ := textual_of_divides (textual_of_gives hgives) hdivides
      obtain ⟨counted, hentry, hcounted, -⟩ := (assembles_assembled settings own sections).settings
      rw [createBody_compact_iff hentry hcounted]
      exact (textual_assembled settings hown hsections).read_compact_iff

/-- The body of one setting beside five shards and one replica, and of mappings. -/
def soleSetting (value : Json) : Json :=
  .obj [("mappings", .obj []), ("settings",
    .obj [("number_of_replicas", .nat 1), ("number_of_shards", .nat 5), ("refresh", value)])]

/-- One setting and the mappings, bare and wrapped, and the body again. -/
theorem createBody_characterized_of_refresh :
    let settings : IndexSettings :=
      ⟨5, 1, "\x7b\"mappings\":\x7b\x7d,\"refresh\":0.5\x7d", none⟩
    let wrapped := "\x7b\"settings\":\x7b\"refresh\":0.5\x7d,\"mappings\":\x7b\x7d\x7d"
    let body := soleSetting (.float ⟨false, 4602678819172646912, by decide +kernel⟩)
    settings.createBody = .ok body ∧ (settings.withText wrapped).createBody = .ok body ∧
      (settings.withText body.compact).createBody = .ok body := by
  intro settings wrapped body
  have hcreated : settings.createBody = .ok body := by decide +kernel
  obtain ⟨-, hforms, hagain⟩ := createBody_characterized settings
  let half : Json := .float ⟨false, 4602678819172646912, by decide +kernel⟩
  have hgiven : Gives settings.settings ⟨[("mappings", .obj []), ("refresh", half)], by decide⟩ :=
    .inr ⟨by decide +kernel, by decide +kernel⟩
  have hwrapped : Gives wrapped
      ⟨[("mappings", .obj []), ("settings", .obj [("refresh", half)])], by decide⟩ :=
    .inr ⟨by decide +kernel, by decide +kernel⟩
  have hwraps : Wraps ⟨[("mappings", .obj []), ("settings", .obj [("refresh", half)])], by decide⟩
      ⟨[("mappings", .obj []), ("refresh", half)], by decide⟩ := by
    refine ⟨rfl, ⟨⟨[("refresh", half)], by decide⟩, rfl, fun name ↦ ?_⟩, fun name hname ↦ ?_⟩
    · rcases eq_or_ne name "refresh" with rfl | hrefresh
      · decide +kernel
      · simp only [StringMap.get?, Entries.get?, Section]
        split_ifs <;> simp_all
    · rcases eq_or_ne name "refresh" with rfl | hrefresh
      · decide +kernel
      · simp only [StringMap.get?, Entries.get?, Section]
        split_ifs <;> simp_all
  obtain ⟨first, hfirst, hsecond⟩ := hforms wrapped _ _ hgiven hwrapped hwraps
  cases hfirst.symm.trans hcreated
  refine ⟨hcreated, hsecond, (hagain body hcreated).mpr ⟨by decide +kernel, fun x hx ↦ ?_⟩⟩
  obtain rfl : x = ⟨false, 4602678819172646912, by decide +kernel⟩ := by
    simpa [body, soleSetting, Json.numbers, Json.numbersMembers, Json.nat, Json.float] using hx
  decide +kernel

/-- A literal is read to a double whose text is read to the next smaller one. -/
theorem createBody_changes_double :
    ∃ x y : Binary64,
      (⟨5, 1, "\x7b\"mappings\":\x7b\x7d,\"refresh\":5e32\x7d", none⟩ : IndexSettings).createBody =
          .ok (soleSetting (.float x)) ∧
        (soleSetting (.float x)).nesting ≤ RawJson.greatestDepth ∧
        (⟨5, 1, (soleSetting (.float x)).compact, none⟩ : IndexSettings).createBody =
          .ok (soleSetting (.float y)) ∧ x ≠ y :=
  ⟨⟨false, 5096006472832567709, by decide +kernel⟩, ⟨false, 5096006472832567708, by decide +kernel⟩,
    by decide +kernel⟩

end IndexSettings

end FacetSearch
