import Conformance.CommandLine
import Conformance.Proofs.Suite.Violations

/-!
# Tags from document to selection

The tags of a group are lowered where the group is built and once more where it is
selected; the requested tags are lowered once.  Lowering twice is lowering once, so a
selector compares the tags as they are written on both sides, up to letter case.
-/

namespace Conformance

open Yaml (Value)
open Reading

/-! ## Tags as they are written -/

/-- The entry is the one that lists the tags of a group. -/
def listsTags (entry : Value × Value) : Bool := fieldName entry.1 = .ok "tags"

/-- The tags written in a group's value, of which there are none without such an entry. -/
def WrittenTags (value : Value) (tags : List String) : Prop :=
  ∃ fields lists, entries "struct RawGroup" value = .ok fields ∧
    (fields.filter listsTags).mapM (fun entry => scalars entry.2) = .ok lists ∧
    tags = lists.flatten

theorem fill_eq_ok {α : Type} {name : String} {slot filled : Option α} {reading : Reading α}
    {value : Value} :
    fill name slot reading value = .ok filled ↔
      slot = none ∧ ∃ a, reading value = .ok a ∧ filled = some a := by
  cases slot with
  | some a => simp [fill]
  | none =>
      cases hreading : reading value with
      | error cause => simp [fill, hreading, Except.map]
      | ok a => simp [fill, hreading, Except.map, eq_comm]

/-- What a step does to one slot of the fields: under the slot's name it fills it, under any
other name it leaves it as it is. -/
theorem readFields_slot {α β : Type} {step : α → String → Value → Except ShapeError α}
    (slot : α → Option β) (name : String) (reading : Reading β)
    (hfill : ∀ fields value next, step fields name value = .ok next →
      slot fields = none ∧ ∃ b, reading value = .ok b ∧ slot next = some b)
    (hkeep : ∀ fields other value next, other ≠ name → step fields other value = .ok next →
      slot next = slot fields)
    {start done : α} {entries : List (Value × Value)}
    (hread : readFields step start entries = .ok done) :
    ∃ contents,
      (entries.filter fun entry => fieldName entry.1 = .ok name).mapM
          (fun entry => reading entry.2) = .ok contents ∧
        (slot done).toList = (slot start).toList ++ contents := by
  induction entries generalizing start with
  | nil =>
      have hsame : start = done := Except.ok.inj hread
      exact ⟨[], rfl, by simp [hsame]⟩
  | cons entry rest ih =>
      unfold readFields at hread
      rw [List.foldlM_cons, bind_eq_ok] at hread
      obtain ⟨next, hentry, hrest⟩ := hread
      obtain ⟨found, hfound, hstep⟩ := bind_eq_ok.mp hentry
      obtain ⟨contents, hcontents, hdone⟩ := ih hrest
      by_cases hname : found = name
      · subst hname
        obtain ⟨hempty, b, hb, hfilled⟩ := hfill _ _ _ hstep
        refine ⟨b :: contents, ?_, ?_⟩
        · rw [List.filter_cons_of_pos (by simp [hfound]), List.mapM_cons]
          exact bind_eq_ok.mpr ⟨b, hb, bind_eq_ok.mpr ⟨contents, hcontents, rfl⟩⟩
        · simp [hdone, hempty, hfilled]
      · refine ⟨contents, ?_, ?_⟩
        · rw [List.filter_cons_of_neg (by simp [hfound, hname])]
          exact hcontents
        · rw [hdone, hkeep _ _ _ _ hname hstep]

/-- A draft has the tags that are written in its value. -/
theorem GroupDraft.read_writtenTags {value : Value} {draft : GroupDraft}
    (hread : GroupDraft.read value = .ok draft) : WrittenTags value draft.tags := by
  unfold GroupDraft.read at hread
  obtain ⟨found, hfound, hread⟩ := bind_eq_ok.mp hread
  obtain ⟨done, hdone, hdraft⟩ := bind_eq_ok.mp hread
  have htags : draft.tags = done.tags.getD [] := by
    rw [← Except.ok.inj hdraft]
  obtain ⟨lists, hlists, hslot⟩ :=
    readFields_slot GroupFields.tags "tags" scalars
      (fun fields value next hstep => by
        obtain ⟨filled, hfilled, hnext⟩ := bind_eq_ok.mp hstep
        obtain ⟨hempty, b, hb, rfl⟩ := fill_eq_ok.mp hfilled
        rw [← Except.ok.inj hnext]
        exact ⟨hempty, b, hb, rfl⟩)
      (fun fields other value next hother hstep => by
        split at hstep
        case h_1 => exact absurd rfl hother
        case h_5 => rw [← Except.ok.inj hstep]
        all_goals
          obtain ⟨filled, _, hnext⟩ := bind_eq_ok.mp hstep
          rw [← Except.ok.inj hnext])
      hdone
  refine ⟨found, lists, hfound, hlists, ?_⟩
  rw [htags]
  have hflat : done.tags.toList.flatten = done.tags.getD [] := by
    cases done.tags with
    | none => rfl
    | some tags => simp
  rw [← hflat, hslot]
  rfl

/-! ## Tags up to letter case -/

/-- Some tag of either list is the same, up to letter case. -/
def ShareTag (written requested : List String) : Prop :=
  ∃ tag ∈ written, ∃ request ∈ requested, lowercase tag = lowercase request

/-- The lists have the same tags, up to order, repetition and letter case. -/
def SameTags (first second : List String) : Prop :=
  ∀ tag, tag ∈ first.map lowercase ↔ tag ∈ second.map lowercase

theorem shareTag_iff {written requested : List String} :
    ShareTag written requested ↔
      ∃ tag, tag ∈ written.map lowercase ∧ tag ∈ requested.map lowercase := by
  unfold ShareTag
  constructor
  · intro hshared
    obtain ⟨tag, htag, request, hrequest, hsame⟩ := hshared
    have hlowered : lowercase tag ∈ requested.map lowercase :=
      List.mem_map.mpr ⟨request, hrequest, hsame.symm⟩
    exact ⟨lowercase tag, List.mem_map_of_mem htag, hlowered⟩
  · intro hshared
    obtain ⟨lowered, hwritten, hrequested⟩ := hshared
    obtain ⟨tag, htag, hlowered⟩ := List.mem_map.mp hwritten
    obtain ⟨request, hrequest, hsame⟩ := List.mem_map.mp hrequested
    exact ⟨tag, htag, request, hrequest, hlowered.trans hsame.symm⟩

theorem ShareTag.congr {written written' requested requested' : List String}
    (hwritten : SameTags written written') (hrequested : SameTags requested requested') :
    ShareTag written requested ↔ ShareTag written' requested' := by
  rw [shareTag_iff, shareTag_iff]
  exact exists_congr fun tag => and_congr (hwritten tag) (hrequested tag)

theorem SameTags.eq_nil_iff {first second : List String} (hsame : SameTags first second) :
    first = [] ↔ second = [] := by
  have hnone : first.map lowercase = [] ↔ second.map lowercase = [] := by
    rw [List.eq_nil_iff_forall_not_mem, List.eq_nil_iff_forall_not_mem]
    exact forall_congr' fun tag => not_congr (hsame tag)
  simpa using hnone

/-! ## Selectors -/

theorem tagSet_eq_nil_iff {tags : List String} : tagSet tags = [] ↔ tags = [] := by
  have hmem : (∀ tag, tag ∉ tagSet tags) ↔ ∀ tag, tag ∉ tags := by
    simp only [mem_tagSet, not_exists, not_and]
    exact ⟨fun hnone tag htag => hnone _ tag htag rfl,
      fun hnone _ written hwritten => absurd hwritten (hnone written)⟩
  rw [List.eq_nil_iff_forall_not_mem, List.eq_nil_iff_forall_not_mem, hmem]

/-- Lowering the tags of a group again makes no difference. -/
theorem sharesTag_iff {group : Group} {written requested : List String} {inverted : Bool}
    (htags : group.tags = tagSet written) :
    (TagSelector.ofTags requested inverted).sharesTag group.tags = true ↔
      ShareTag written requested := by
  simp only [TagSelector.sharesTag, TagSelector.ofTags, List.any_eq_true, List.contains_iff_mem,
    mem_tagSet, htags, ShareTag]
  constructor
  · intro hshares
    obtain ⟨lowered, hwritten, request, hrequest, hsame⟩ := hshares
    obtain ⟨tag, htag, hlowered⟩ := hwritten
    rw [← hlowered, lowercase_lowercase] at hsame
    exact ⟨tag, htag, request, hrequest, hsame.symm⟩
  · intro hshared
    obtain ⟨tag, htag, request, hrequest, hsame⟩ := hshared
    refine ⟨lowercase tag, ⟨tag, htag, rfl⟩, request, hrequest, ?_⟩
    rw [lowercase_lowercase, hsame]

/-- A selector that inverts its request selects what shares no tag, and every other selector
what shares one, or everything if nothing is requested. -/
theorem selects_ofTags_iff {group : Group} {written requested : List String} {inverted : Bool}
    (htags : group.tags = tagSet written) :
    (TagSelector.ofTags requested inverted).selects group = true ↔
      if inverted then ¬ShareTag written requested
      else requested = [] ∨ ShareTag written requested := by
  have hshares : (TagSelector.ofTags requested inverted).sharesTag group.tags = true ↔
      ShareTag written requested := sharesTag_iff htags
  unfold TagSelector.selects TagSelector.selectsTags
  cases inverted with
  | true =>
      simp only [TagSelector.ofTags, if_true] at hshares ⊢
      rw [Bool.not_eq_true', ← Bool.not_eq_true, hshares]
  | false =>
      simp only [TagSelector.ofTags, Bool.false_eq_true, if_false] at hshares ⊢
      rw [Bool.or_eq_true, hshares, List.isEmpty_iff, tagSet_eq_nil_iff]

/-! ## From document to selection -/

theorem WrittenTags.unique {value : Value} {tags others : List String}
    (htags : WrittenTags value tags) (hothers : WrittenTags value others) : tags = others := by
  obtain ⟨fields, lists, hfields, hlists, rfl⟩ := htags
  obtain ⟨fields', lists', hfields', hlists', rfl⟩ := hothers
  have hsame : fields = fields' := Except.ok.inj (hfields.symm.trans hfields')
  subst hsame
  have hsame : lists = lists' := Except.ok.inj (hlists.symm.trans hlists')
  rw [hsame]

/-- A group that is built keeps the tags that are written in its value, as a set. -/
theorem buildEntry_tags {key value : Value} {group : Group} {written : List String}
    (hgroup : buildEntry key value = .ok group) (hwritten : WrittenTags value written) :
    group.tags = tagSet written := by
  obtain ⟨name, draft, _, hread, hbuild⟩ := buildEntry_eq_ok.mp hgroup
  obtain ⟨_, drafts, _, _, rfl⟩ := buildGroup_eq_ok.mp hbuild
  rw [hwritten.unique (GroupDraft.read_writtenTags hread)]

/-- The groups that a command line selects, in terms of the tags written in the document and
on the command line.  Without a request to ignore, a group is selected if nothing is requested
or it shares a tag with the request, up to letter case; with it, if it shares none.  So order,
repetition and letter case of the tags on either side make no difference, and a request that
is not empty selects a group in exactly one of the two ways. -/
theorem selector_selects_iff {key value : Value} {group : Group} {written : List String}
    (hgroup : buildEntry key value = .ok group) (hwritten : WrittenTags value written)
    (arguments : Arguments) :
    (arguments.ignore = false →
        (arguments.selector.selects group = true ↔
          arguments.tags = [] ∨ ShareTag written arguments.tags)) ∧
      (arguments.ignore = true →
        (arguments.selector.selects group = true ↔ ¬ShareTag written arguments.tags)) ∧
      (∀ key' value' group' written' (arguments' : Arguments),
        buildEntry key' value' = .ok group' → WrittenTags value' written' →
          SameTags written written' → SameTags arguments.tags arguments'.tags →
            arguments.ignore = arguments'.ignore →
              arguments.selector.selects group = arguments'.selector.selects group') ∧
      (arguments.tags ≠ [] →
        ({ arguments with ignore := true }.selector.selects group = true ↔
          { arguments with ignore := false }.selector.selects group = false)) := by
  have htags := buildEntry_tags hgroup hwritten
  refine ⟨?including, ?ignoring, ?alike, ?opposed⟩
  case including =>
    intro hignore
    rw [Arguments.selector, hignore, selects_ofTags_iff htags]
    simp
  case ignoring =>
    intro hignore
    rw [Arguments.selector, hignore, selects_ofTags_iff htags]
    simp
  case alike =>
    intro key' value' group' written' arguments' hgroup' hwritten' hsame hsame' hignore
    have htags' := buildEntry_tags hgroup' hwritten'
    have hshare := ShareTag.congr hsame hsame'
    rw [Bool.eq_iff_iff, Arguments.selector, Arguments.selector, ← hignore,
      selects_ofTags_iff htags, selects_ofTags_iff htags', hshare, hsame'.eq_nil_iff]
  case opposed =>
    intro hrequest
    unfold Arguments.selector
    rw [← Bool.not_eq_true, selects_ofTags_iff htags, selects_ofTags_iff htags]
    simp [hrequest]

/-- A group's value with tags and without runs. -/
def taggedGroup (tags : List String) : Value :=
  .mapping [(.string "tags", .sequence (tags.map .string)), (.string "runs", .sequence [])]

/-- The arguments of a command line that requests tags. -/
def requesting (ignore : Bool) (tags : List String) : Arguments :=
  { Reader.empty.arguments with ignore, tags }

/-- A tag that ends in a capital sigma, which is lowered to a final one, and the same tags
written in another order and another case. -/
theorem selector_selects_iff_greekTag :
    let group : Group := ⟨"g", "", ["smoke", "οδος"], .one, []⟩
    let respelled : Group := ⟨"h", "", ["smoke", "οδος"], .one, []⟩
    buildEntry (.string "g") (taggedGroup ["Smoke", "ΟΔΟΣ"]) = .ok group ∧
      buildEntry (.string "h") (taggedGroup ["οδος", "SMOKE", "smoke"]) = .ok respelled ∧
      (requesting false ["οδΟΣ"]).selector.selects group = true ∧
      ¬(requesting true ["οδΟΣ"]).selector.selects group = true ∧
      (requesting false ["οδΟΣ"]).selector.selects group =
        (requesting false ["ΟΔΟΣ", "οδος"]).selector.selects respelled ∧
      ((requesting true ["οδΟΣ"]).selector.selects group = true ↔
        (requesting false ["οδΟΣ"]).selector.selects group = false) := by
  intro group respelled
  have hgroup : buildEntry (.string "g") (taggedGroup ["Smoke", "ΟΔΟΣ"]) = .ok group := by
    decide +kernel
  have hrespelled : buildEntry (.string "h") (taggedGroup ["οδος", "SMOKE", "smoke"]) =
      .ok respelled := by
    decide +kernel
  have hwritten : WrittenTags (taggedGroup ["Smoke", "ΟΔΟΣ"]) ["Smoke", "ΟΔΟΣ"] :=
    ⟨_, [["Smoke", "ΟΔΟΣ"]], rfl, rfl, rfl⟩
  have hwritten' : WrittenTags (taggedGroup ["οδος", "SMOKE", "smoke"])
      ["οδος", "SMOKE", "smoke"] :=
    ⟨_, [["οδος", "SMOKE", "smoke"]], rfl, rfl, rfl⟩
  have hshare : ShareTag ["Smoke", "ΟΔΟΣ"] ["οδΟΣ"] :=
    ⟨"ΟΔΟΣ", by decide, "οδΟΣ", by decide, by decide +kernel⟩
  have hsame : SameTags ["Smoke", "ΟΔΟΣ"] ["οδος", "SMOKE", "smoke"] := by
    have hfirst : ["Smoke", "ΟΔΟΣ"].map lowercase = ["smoke", "οδος"] := by decide +kernel
    have hsecond : ["οδος", "SMOKE", "smoke"].map lowercase = ["οδος", "smoke", "smoke"] := by
      decide +kernel
    intro tag
    rw [hfirst, hsecond]
    simp [or_comm]
  have hsame' : SameTags ["οδΟΣ"] ["ΟΔΟΣ", "οδος"] := by
    have hfirst : ["οδΟΣ"].map lowercase = ["οδος"] := by decide +kernel
    have hsecond : ["ΟΔΟΣ", "οδος"].map lowercase = ["οδος", "οδος"] := by decide +kernel
    intro tag
    rw [hfirst, hsecond]
    simp
  obtain ⟨hincluding, _, halike, hopposed⟩ :=
    selector_selects_iff hgroup hwritten (requesting false ["οδΟΣ"])
  obtain ⟨_, hignoring, _, _⟩ := selector_selects_iff hgroup hwritten (requesting true ["οδΟΣ"])
  have hselected : (requesting false ["οδΟΣ"]).selector.selects group = true :=
    (hincluding rfl).mpr (.inr hshare)
  refine ⟨hgroup, hrespelled, hselected, ?_, ?_, hopposed (by decide)⟩
  · intro hkept
    exact (hignoring rfl).mp hkept hshare
  · exact halike _ _ _ _ (requesting false ["ΟΔΟΣ", "οδος"]) hrespelled hwritten' hsame hsame' rfl

end Conformance
