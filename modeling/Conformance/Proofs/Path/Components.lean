import Conformance.Path
import Mathlib.Tactic

/-!
# Components of joined paths

Joining writes one text behind another with a slash between them, and slashes are
where a text is cut; so the names in a joined path are those of its two parts.  Which
components they become depends on how the text begins, hence on the first part alone,
unless that is empty.  A path is told from another one by its names if it is written
plainly: relative, without empty pieces and without `.`.
-/

namespace Conformance

namespace Path

/-! ## Cutting -/

theorem cutSlashes_slash (rest : List Char) : cutSlashes ('/' :: rest) = [] :: cutSlashes rest :=
  rfl

theorem cutSlashes_ne_nil (text : List Char) : cutSlashes text ≠ [] := by
  fun_cases cutSlashes text
  all_goals simp

/-- A character that is no slash belongs to the first piece. -/
theorem cutSlashes_cons {c : Char} (hc : c ≠ '/') {text piece : List Char}
    {more : List (List Char)} (htext : cutSlashes text = piece :: more) :
    cutSlashes (c :: text) = (c :: piece) :: more := by
  unfold cutSlashes
  split
  · simp_all
  · simp_all
  · simp_all

theorem cutSlashes_append (first rest : List Char) :
    cutSlashes (first ++ '/' :: rest) = cutSlashes first ++ cutSlashes rest := by
  induction first with
  | nil => rfl
  | cons c later ih =>
      rw [List.cons_append]
      by_cases hc : c = '/'
      · rw [hc, cutSlashes_slash, cutSlashes_slash, ih, List.cons_append]
      · obtain ⟨piece, more, hlater⟩ := List.exists_cons_of_ne_nil (cutSlashes_ne_nil later)
        rw [hlater, List.cons_append] at ih
        rw [cutSlashes_cons hc hlater, cutSlashes_cons hc ih, List.cons_append]

theorem intercalate_cutSlashes (text : List Char) :
    ['/'].intercalate (cutSlashes text) = text := by
  induction text with
  | nil => rfl
  | cons c rest ih =>
      obtain ⟨piece, more, hrest⟩ := List.exists_cons_of_ne_nil (cutSlashes_ne_nil rest)
      rw [hrest] at ih
      by_cases hc : c = '/'
      · rw [hc, cutSlashes_slash, hrest, ← ih]
        cases more with
        | nil => simp [List.intercalate]
        | cons next later => simp [List.intercalate]
      · rw [cutSlashes_cons hc hrest, ← ih]
        cases more with
        | nil => simp [List.intercalate]
        | cons next later => simp [List.intercalate]

/-- The nonempty pieces of a text. -/
def pieces (text : List Char) : List (List Char) := (cutSlashes text).filter (!·.isEmpty)

theorem segments_eq_pieces (p : Path) : p.segments = (pieces p.text.toList).map String.ofList :=
  rfl

theorem pieces_append (first rest : List Char) :
    pieces (first ++ '/' :: rest) = pieces first ++ pieces rest := by
  unfold pieces
  rw [cutSlashes_append, List.filter_append]

/-- A text that does not begin with a slash has a piece that is not empty. -/
theorem pieces_ne_nil {text : List Char} (hsome : text ≠ []) (hhead : text.head? ≠ some '/') :
    pieces text ≠ [] := by
  obtain ⟨c, rest, rfl⟩ := List.exists_cons_of_ne_nil hsome
  have hc : c ≠ '/' := by simpa using hhead
  obtain ⟨piece, more, hrest⟩ := List.exists_cons_of_ne_nil (cutSlashes_ne_nil rest)
  rw [pieces, cutSlashes_cons hc hrest]
  simp

/-! ## Joining -/

/-- The names in a path: its components without the one that says where it begins. -/
def names (p : Path) : List Component := p.segments.filterMap Component.ofSegment?

section

variable {p q : Path}

theorem join_of_isEmpty (hp : p.isEmpty = true) : p.join q = q := by
  simp [join, hp]

/-- A relative path is joined with a slash between the texts, of which the first may
have written one already. -/
theorem toList_join (hq : q.isAbsolute = false) (hp : p.isEmpty = false) :
    ∃ first, (p.text.toList = first ++ ['/'] ∨ p.text.toList = first) ∧
      (p.join q).text.toList = first ++ '/' :: q.text.toList := by
  unfold join
  simp only [hq, hp, Bool.or_self, Bool.false_eq_true, if_false]
  by_cases hslash : p.endsInSlash
  · obtain ⟨first, hfirst⟩ : ∃ first, p.text.toList = first ++ ['/'] :=
      List.getLast?_eq_some_iff.mp (by simpa [endsInSlash] using hslash)
    refine ⟨first, .inl hfirst, ?_⟩
    simp [hslash, String.toList_append, hfirst]
  · refine ⟨p.text.toList, .inr rfl, ?_⟩
    simp [hslash, String.toList_append]

theorem segments_join (hq : q.isAbsolute = false) (hp : p.isEmpty = false) :
    (p.join q).segments = p.segments ++ q.segments := by
  obtain ⟨first, hfirst, htext⟩ := toList_join hq hp
  have hpieces : pieces p.text.toList = pieces first := by
    rcases hfirst with hslash | hsame
    · rw [hslash, pieces_append]
      exact List.append_nil _
    · rw [hsame]
  simp only [segments_eq_pieces, htext, pieces_append, hpieces, List.map_append]

theorem names_join (hq : q.isAbsolute = false) (hp : p.isEmpty = false) :
    (p.join q).names = p.names ++ q.names := by
  rw [names, segments_join hq hp, List.filterMap_append]
  rfl

theorem isAbsolute_join (hq : q.isAbsolute = false) (hp : p.isEmpty = false) :
    (p.join q).isAbsolute = p.isAbsolute := by
  obtain ⟨first, hfirst, htext⟩ := toList_join hq hp
  have hhead : (p.join q).text.toList.head? = p.text.toList.head? := by
    rw [htext]
    cases hfirst with
    | inl hslash =>
        rw [hslash]
        cases first with
        | nil => rfl
        | cons c rest => rfl
    | inr hsame =>
        rw [hsame]
        cases first with
        | nil => simp [isEmpty, String.toList_eq_nil_iff.mp hsame] at hp
        | cons c rest => rfl
  simp only [isAbsolute, hhead]

theorem components_of_absolute (hp : p.isAbsolute = true) : p.components = .root :: p.names := by
  simp [components, hp, names]

theorem components_of_relative (hp : p.isAbsolute = false) :
    p.components =
      if p.segments.head? = some "." then .current :: p.names else p.names := by
  simp [components, hp, names]

/-- The components of a relative path, behind another one, are its names. -/
theorem components_join (hq : q.isAbsolute = false) (hp : p.isEmpty = false) :
    (p.join q).components = p.components ++ q.names := by
  have habsolute := isAbsolute_join hq hp
  cases hroot : p.isAbsolute with
  | true =>
      rw [hroot] at habsolute
      rw [components_of_absolute habsolute, components_of_absolute hroot, names_join hq hp,
        List.cons_append]
  | false =>
      rw [hroot] at habsolute
      have hsegments : p.segments ≠ [] := by
        rw [segments_eq_pieces, Ne, List.map_eq_nil_iff]
        apply pieces_ne_nil
        · simpa [isEmpty] using hp
        · simpa [isAbsolute] using hroot
      have hhead : (p.segments ++ q.segments).head? = p.segments.head? :=
        List.head?_append_of_ne_nil _ hsegments
      rw [components_of_relative habsolute, components_of_relative hroot, names_join hq hp,
        segments_join hq hp, hhead]
      split
      · rw [List.cons_append]
      · rfl

end

/-! ## Plain paths -/

/-- The path is relative, and neither empty nor `.` stands between its slashes. -/
def IsPlain (p : Path) : Prop :=
  ∀ piece ∈ cutSlashes p.text.toList, piece ≠ [] ∧ piece ≠ ['.']

instance (p : Path) : Decidable p.IsPlain := List.decidableBAll ..

namespace IsPlain

variable {p q : Path}

theorem segments_eq (hp : p.IsPlain) :
    p.segments = (cutSlashes p.text.toList).map String.ofList := by
  have hall : (cutSlashes p.text.toList).filter (!·.isEmpty) = cutSlashes p.text.toList := by
    rw [List.filter_eq_self]
    intro piece hpiece
    simpa using (hp piece hpiece).1
  rw [segments, hall]

theorem ne_dot (hp : p.IsPlain) {name : String} (hname : name ∈ p.segments) : name ≠ "." := by
  rw [hp.segments_eq, List.mem_map] at hname
  obtain ⟨piece, hpiece, rfl⟩ := hname
  intro hdot
  have hpieces := congrArg String.toList hdot
  rw [String.toList_ofList] at hpieces
  exact (hp piece hpiece).2 hpieces

theorem isAbsolute_eq_false (hp : p.IsPlain) : p.isAbsolute = false := by
  rw [isAbsolute, decide_eq_false_iff_not]
  intro hhead
  obtain ⟨rest, hrest⟩ := List.head?_eq_some_iff.mp hhead
  have hempty : [] ∈ cutSlashes p.text.toList := by
    rw [hrest, cutSlashes_slash]
    exact List.mem_cons_self ..
  exact (hp [] hempty).1 rfl

theorem components_eq_names (hp : p.IsPlain) : p.components = p.names := by
  rw [components_of_relative hp.isAbsolute_eq_false]
  split
  · rename_i hdot
    exact absurd rfl (hp.ne_dot (List.mem_of_mem_head? hdot))
  · rfl

/-- The names in a plain path are its segments, as they are written. -/
theorem map_text_names (hp : p.IsPlain) : p.names.map Component.text = p.segments := by
  have hname : ∀ name ∈ p.segments,
      (Component.ofSegment? name).map Component.text = some name := by
    intro name hname
    have hdot := hp.ne_dot hname
    by_cases hparent : name = ".."
    · rw [hparent]
      rfl
    · simp [Component.ofSegment?, hdot, hparent, Component.text]
  rw [names, List.map_filterMap, List.filterMap_congr hname, List.filterMap_some]

theorem eq_of_names_eq (hp : p.IsPlain) (hq : q.IsPlain) (hnames : p.names = q.names) :
    p = q := by
  have hsegments : p.segments = q.segments := by
    rw [← hp.map_text_names, hnames, hq.map_text_names]
  rw [hp.segments_eq, hq.segments_eq] at hsegments
  have hpieces : cutSlashes p.text.toList = cutSlashes q.text.toList :=
    List.map_injective_iff.mpr (fun _ _ => String.ofList_injective) hsegments
  have htext := congrArg ['/'].intercalate hpieces
  rw [intercalate_cutSlashes, intercalate_cutSlashes] at htext
  cases p
  cases q
  rw [Path.mk.injEq]
  exact String.toList_injective htext

end IsPlain

/-! ## Going down by names -/

/-- The name may be that of an entry of a directory. -/
@[mk_iff] structure IsProperName (name : String) : Prop where
  nonempty : name ≠ ""
  notCurrent : name ≠ "."
  notParent : name ≠ ".."
  noSlash : '/' ∉ name.toList

instance (name : String) : Decidable (IsProperName name) :=
  decidable_of_iff' _ (isProperName_iff name)

theorem slash_notMem_of_mem_cutSlashes {text piece : List Char} (hpiece : piece ∈ cutSlashes text) :
    '/' ∉ piece := by
  induction text generalizing piece with
  | nil =>
      rw [List.mem_singleton.mp hpiece]
      exact List.not_mem_nil
  | cons c rest ih =>
      by_cases hc : c = '/'
      · rw [hc, cutSlashes_slash, List.mem_cons] at hpiece
        rcases hpiece with rfl | hpiece
        · exact List.not_mem_nil
        · exact ih hpiece
      · obtain ⟨head, more, hrest⟩ := List.exists_cons_of_ne_nil (cutSlashes_ne_nil rest)
        rw [cutSlashes_cons hc hrest, List.mem_cons] at hpiece
        rcases hpiece with rfl | hpiece
        · rw [List.mem_cons, not_or]
          exact ⟨Ne.symm hc, ih (hrest ▸ List.mem_cons_self ..)⟩
        · exact ih (hrest ▸ List.mem_cons_of_mem _ hpiece)

/-- A segment that is not followed elsewhere is a proper name. -/
theorem isProperName_of_mem_segments {p : Path} {name : String} (hname : name ∈ p.segments)
    (hcurrent : name ≠ ".") (hparent : name ≠ "..") : IsProperName name := by
  obtain ⟨piece, hpiece, hsame⟩ := List.mem_map.mp hname
  obtain ⟨hcut, hsome⟩ := List.mem_filter.mp hpiece
  have hslash : '/' ∉ piece := slash_notMem_of_mem_cutSlashes hcut
  rw [← hsame] at hcurrent hparent ⊢
  refine ⟨?_, hcurrent, hparent, ?_⟩
  · simpa using hsome
  · simpa using hslash

/-- The path that is reached from another one by names. -/
def descend (p : Path) (names : List String) : Path :=
  names.foldl (fun path name => path.join ⟨name⟩) p

theorem cutSlashes_of_not_mem {text : List Char} (htext : '/' ∉ text) :
    cutSlashes text = [text] := by
  induction text with
  | nil => rfl
  | cons c rest ih =>
      rw [List.mem_cons, not_or] at htext
      exact cutSlashes_cons (Ne.symm htext.1) (ih htext.2)

namespace IsProperName

variable {name : String}

theorem names_eq (hname : IsProperName name) : names ⟨name⟩ = [.normal name] := by
  have hpieces : pieces name.toList = [name.toList] := by
    simp [pieces, cutSlashes_of_not_mem hname.noSlash, hname.nonempty]
  simp [names, segments_eq_pieces, hpieces, Component.ofSegment?, hname.notCurrent,
    hname.notParent]

theorem isAbsolute_eq_false (hname : IsProperName name) : isAbsolute ⟨name⟩ = false := by
  rw [isAbsolute, decide_eq_false_iff_not]
  exact fun hhead => hname.noSlash (List.mem_of_mem_head? hhead)

end IsProperName

theorem isEmpty_join {p q : Path} (hq : q.isAbsolute = false) (hp : p.isEmpty = false) :
    (p.join q).isEmpty = false := by
  obtain ⟨first, _, htext⟩ := toList_join hq hp
  have hsome : (p.join q).text.toList ≠ [] := by simp [htext]
  simpa [isEmpty] using hsome

/-- The names by which one goes down are the components that are added. -/
theorem components_descend {p : Path} (hp : p.isEmpty = false) {names : List String}
    (hnames : ∀ name ∈ names, IsProperName name) :
    (p.descend names).components = p.components ++ names.map .normal := by
  induction names generalizing p with
  | nil => exact (List.append_nil _).symm
  | cons name rest ih =>
      have hname := hnames name (List.mem_cons_self ..)
      have hrelative := hname.isAbsolute_eq_false
      have hrest := ih (isEmpty_join hrelative hp) fun later hlater =>
        hnames later (List.mem_cons_of_mem _ hlater)
      rw [descend, List.foldl_cons, ← descend, hrest, components_join hrelative hp,
        hname.names_eq, List.append_assoc]
      rfl

end Path

end Conformance
