import Conformance.CommandLine
import Conformance.Proofs.Association
import Conformance.Proofs.Computation
import Mathlib.Data.List.TakeWhile

/-!
# The order of a command line

Options that carry their values with them can be written in any order and anywhere among the
tags.  A reader takes up each word on its own: no option is left waiting for a value, so a
word only adds to what was read before, and what is asked for in the end is a matter of
membership.  Only the tags have an order of their own.
-/

namespace Conformance

/-! ## Words -/

/-- A word of a command line on which every value is attached to its option. -/
inductive CommandWord where
  | given (option : ValueOption) (value : String)
  | raised (flag : Flag)
  | tag (word : String)
deriving DecidableEq, Repr

namespace CommandWord

def text : CommandWord → String
  | .given option value => "--" ++ option.longName ++ "=" ++ value
  | .raised flag => "--" ++ flag.longName
  | .tag word => word

def given? : CommandWord → Option (ValueOption × String)
  | .given option value => some (option, value)
  | _ => none

def raised? : CommandWord → Option Flag
  | .raised flag => some flag
  | _ => none

def tag? : CommandWord → Option String
  | .tag word => some word
  | _ => none

/-- The word can be read: a value fits its option, a flag asks for no text, and a tag does
not look like an option. -/
def Readable : CommandWord → Prop
  | .given option value => valueError? option value = none
  | .raised flag => flag = .ignore ∨ flag = .noColor
  | .tag word => word.toList.head? ≠ some '-'

end CommandWord

/-! ## One word -/

theorem ValueOption.ofLong?_longName (option : ValueOption) :
    OptionName.ofLong? option.longName = some (.value option) := by
  cases option <;> decide

theorem Flag.ofLong?_longName (flag : Flag) :
    OptionName.ofLong? flag.longName = some (.flag flag) := by
  cases flag <;> decide

theorem ValueOption.equals_notMem_longName (option : ValueOption) :
    ∀ c ∈ option.longName.toList, c ≠ '=' := by
  have hnone : '=' ∉ option.longName.toList := by cases option <;> decide
  exact fun c hc => ne_of_mem_of_not_mem hc hnone

theorem Flag.equals_notMem_longName (flag : Flag) : ∀ c ∈ flag.longName.toList, c ≠ '=' := by
  have hnone : '=' ∉ flag.longName.toList := by cases flag <;> decide
  exact fun c hc => ne_of_mem_of_not_mem hc hnone

theorem Flag.longName_toList_ne_nil (flag : Flag) : flag.longName.toList ≠ [] := by
  cases flag <;> decide

namespace Reader

/-- No option waits for its value, and options are still recognised. -/
structure IsSettled (r : Reader) : Prop where
  pending : r.pending = none
  tagsOnly : r.tagsOnly = false

variable {r : Reader}

theorem IsSettled.settle (hsettled : r.IsSettled) : r.settle = .ok r := by
  unfold Reader.settle
  rw [hsettled.pending]

theorem assign_eq_ok {option : ValueOption} {value : String}
    (hfits : valueError? option value = none) (hfresh : option ∉ r.values.map Prod.fst) :
    r.assign option value = .ok { r with values := r.values ++ [(option, value)] } := by
  have hunknown : ¬r.values.any (·.1 = option) = true := by
    rw [List.any_eq_true]
    intro hknown
    obtain ⟨entry, hentry, hsame⟩ := hknown
    have hmem : entry.1 ∈ r.values.map Prod.fst := List.mem_map_of_mem hentry
    rw [of_decide_eq_true hsame] at hmem
    exact hfresh hmem
  rw [assign, if_neg hunknown, hfits]

theorem IsSettled.addWord_option (hsettled : r.IsSettled) {word : String} {body : List Char}
    (hword : word.toList = '-' :: '-' :: body) (hbody : body ≠ []) :
    r.addWord word = r.addLong body := by
  obtain ⟨c, rest, rfl⟩ := List.exists_cons_of_ne_nil hbody
  unfold Reader.addWord
  rw [hsettled.tagsOnly, hword]
  rfl

theorem IsSettled.addWord_given (hsettled : r.IsSettled) {option : ValueOption} {value : String}
    (hfits : valueError? option value = none)
    (hfresh : option ∉ r.values.map Prod.fst) :
    r.addWord (CommandWord.given option value).text =
      .ok { r with values := r.values ++ [(option, value)] } := by
  have hword : (CommandWord.given option value).text.toList =
      '-' :: '-' :: (option.longName.toList ++ '=' :: value.toList) := by
    simp [CommandWord.text]
  have hname : (option.longName.toList ++ '=' :: value.toList).takeWhile (· ≠ '=') =
      option.longName.toList := by
    rw [List.takeWhile_append_of_pos (by simpa using option.equals_notMem_longName)]
    simp
  have hvalue : (option.longName.toList ++ '=' :: value.toList).dropWhile (· ≠ '=') =
      '=' :: value.toList := by
    rw [List.dropWhile_append_of_pos (by simpa using option.equals_notMem_longName)]
    simp
  rw [hsettled.addWord_option hword (by simp), addLong, hname, hvalue]
  simp only [String.ofList_toList, ValueOption.ofLong?_longName]
  rw [addOption, hsettled.settle]
  exact assign_eq_ok hfits hfresh

theorem IsSettled.addWord_raised (hsettled : r.IsSettled) {flag : Flag}
    (hflag : flag = .ignore ∨ flag = .noColor) (hfresh : flag ∉ r.flags) :
    r.addWord (CommandWord.raised flag).text = .ok { r with flags := r.flags ++ [flag] } := by
  have hword : (CommandWord.raised flag).text.toList = '-' :: '-' :: flag.longName.toList := by
    simp [CommandWord.text]
  have hname : flag.longName.toList.takeWhile (· ≠ '=') = flag.longName.toList := by
    rw [List.takeWhile_eq_self_iff]
    simpa using flag.equals_notMem_longName
  have hvalue : flag.longName.toList.dropWhile (· ≠ '=') = [] := by
    rw [List.dropWhile_eq_nil_iff]
    simpa using flag.equals_notMem_longName
  rw [hsettled.addWord_option hword flag.longName_toList_ne_nil, addLong, hname, hvalue,
    String.ofList_toList, Flag.ofLong?_longName]
  simp only [addFlag, hsettled.settle]
  cases hflag with
  | inl hignore => simp [bind, Except.bind, hignore, hignore ▸ hfresh]
  | inr hnoColor => simp [bind, Except.bind, hnoColor, hnoColor ▸ hfresh]

theorem IsSettled.addWord_plain (hsettled : r.IsSettled) {word : String}
    (htag : word.toList.head? ≠ some '-') : r.addWord word = r.addPlain word := by
  unfold Reader.addWord
  rw [hsettled.tagsOnly, if_neg Bool.false_ne_true]
  split
  case h_1 hword => simp [hword] at htag
  case h_2 hword => simp [hword] at htag
  case h_3 hword => simp [hword] at htag
  case h_4 => rfl

theorem IsSettled.addWord_tag (hsettled : r.IsSettled) {word : String}
    (htag : word.toList.head? ≠ some '-') :
    r.addWord word = .ok { r with tags := r.tags ++ [word] } := by
  have hplain : r.addPlain word = r.addTag word := by
    unfold addPlain
    rw [hsettled.pending]
  rw [hsettled.addWord_plain htag, hplain, addTag, hsettled.settle]
  rfl

/-! ## All words -/

/-- The reader with everything that words add to it. -/
def taking (r : Reader) (words : List CommandWord) : Reader :=
  { r with
    values := r.values ++ words.filterMap CommandWord.given?
    flags := r.flags ++ words.filterMap CommandWord.raised?
    tags := r.tags ++ words.filterMap CommandWord.tag? }

/-- No option has two values, and no flag is raised twice. -/
structure IsUnambiguous (r : Reader) : Prop where
  values : (r.values.map Prod.fst).Nodup
  flags : r.flags.Nodup

theorem taking_nil : r.taking [] = r := by
  simp [taking]

theorem taking_cons (word : CommandWord) (words : List CommandWord) :
    r.taking (word :: words) = (r.taking [word]).taking words := by
  have hsplit : word :: words = [word] ++ words := rfl
  rw [hsplit]
  simp only [taking, List.filterMap_append, List.append_assoc]

theorem IsSettled.taking (hsettled : r.IsSettled) (words : List CommandWord) :
    (r.taking words).IsSettled :=
  ⟨hsettled.pending, hsettled.tagsOnly⟩

/-- What was read before is as unambiguous as what is read in the end. -/
theorem IsUnambiguous.of_taking {words : List CommandWord}
    (hunambiguous : (r.taking words).IsUnambiguous) : r.IsUnambiguous := by
  obtain ⟨hvalues, hflags⟩ := hunambiguous
  simp only [Reader.taking, List.map_append] at hvalues hflags
  exact ⟨hvalues.of_append_left, hflags.of_append_left⟩

/-- A reader takes up one word. -/
theorem IsSettled.addWord (hsettled : r.IsSettled) {word : CommandWord}
    (hreadable : word.Readable) (hunambiguous : (r.taking [word]).IsUnambiguous) :
    r.addWord word.text = .ok (r.taking [word]) := by
  obtain ⟨hvalues, hflags⟩ := hunambiguous
  cases word with
  | given option value =>
      have hfresh : option ∉ r.values.map Prod.fst := by
        simp only [Reader.taking, CommandWord.given?, List.filterMap_cons, List.filterMap_nil,
          List.map_append, List.nodup_append] at hvalues
        intro hmem
        exact hvalues.2.2 option hmem option (by simp) rfl
      rw [hsettled.addWord_given hreadable hfresh]
      simp [Reader.taking, CommandWord.given?, CommandWord.raised?, CommandWord.tag?]
  | raised flag =>
      have hfresh : flag ∉ r.flags := by
        simp only [Reader.taking, CommandWord.raised?, List.filterMap_cons, List.filterMap_nil,
          List.nodup_append] at hflags
        intro hmem
        exact hflags.2.2 flag hmem flag (by simp) rfl
      rw [hsettled.addWord_raised hreadable hfresh]
      simp [Reader.taking, CommandWord.given?, CommandWord.raised?, CommandWord.tag?]
  | tag word =>
      have htag : r.addWord (CommandWord.tag word).text =
          .ok { r with tags := r.tags ++ [word] } := hsettled.addWord_tag hreadable
      rw [htag]
      simp [Reader.taking, CommandWord.given?, CommandWord.raised?, CommandWord.tag?]

/-- A reader takes up all words, one after another. -/
theorem IsSettled.foldlM_addWord (hsettled : r.IsSettled) {words : List CommandWord}
    (hreadable : ∀ word ∈ words, word.Readable)
    (hunambiguous : (r.taking words).IsUnambiguous) :
    (words.map CommandWord.text).foldlM Reader.addWord r = .ok (r.taking words) := by
  induction words generalizing r with
  | nil =>
      rw [taking_nil]
      rfl
  | cons word rest ih =>
      obtain ⟨hword, hrest⟩ := List.forall_mem_cons.mp hreadable
      rw [taking_cons] at hunambiguous ⊢
      rw [List.map_cons, List.foldlM_cons, hsettled.addWord hword hunambiguous.of_taking]
      exact ih (hsettled.taking [word]) hrest hunambiguous

end Reader

/-! ## Command lines -/

/-- What a command line says, apart from the order of its words. -/
structure CommandLine where
  value : ValueOption → Option String
  ignore : Bool
  noColor : Bool
  tags : List String

namespace CommandLine

/-- The values fit their options, and no tag looks like an option. -/
structure IsValid (line : CommandLine) : Prop where
  paths : ∀ option value, option ≠ .timeout → line.value option = some value → value ≠ ""
  timeout : ∀ value, line.value .timeout = some value → (Binary64.ofText? value).isSome = true
  tags : ∀ tag ∈ line.tags, tag.toList.head? ≠ some '-'

/-- The words of the options, in one of their orders. -/
def options (line : CommandLine) : List CommandWord :=
  ValueOption.all.filterMap (fun option => (line.value option).map (.given option)) ++
    (if line.ignore then [.raised .ignore] else []) ++
    (if line.noColor then [.raised .noColor] else [])

/-- The words are the options in any order, with the tags anywhere among them in theirs. -/
structure SpelledBy (line : CommandLine) (words : List CommandWord) : Prop where
  options : (words.filter (·.tag?.isNone)).Perm line.options
  tags : words.filterMap CommandWord.tag? = line.tags

/-- The values that are given, and the declared default of every other option. -/
def arguments (line : CommandLine) : Arguments where
  file := ((line.value .file).map Path.mk).getD Settings.default.specFile
  ignore := line.ignore
  dir := ((line.value .dir).map Path.mk).getD Settings.default.base
  out := ((line.value .out).map Path.mk).getD Settings.default.outDirectory
  compiler := ((line.value .compiler).map Path.mk).getD Settings.default.compiler
  assembly := ((line.value .assembly).map Path.mk).getD Settings.default.assembly
  timeout := (line.value .timeout).bind Binary64.ofText?
  noColor := line.noColor
  report := (line.value .report).map Path.mk
  tags := line.tags

variable {line : CommandLine} {words : List CommandWord}

/-- The options that have a value, each with its value. -/
def values (line : CommandLine) : List (ValueOption × String) :=
  ValueOption.all.filterMap fun option => (line.value option).map (option, ·)

def flags (line : CommandLine) : List Flag :=
  (if line.ignore then [.ignore] else []) ++ (if line.noColor then [.noColor] else [])

theorem mem_values {option : ValueOption} {value : String} :
    (option, value) ∈ line.values ↔ line.value option = some value := by
  have hall : option ∈ ValueOption.all := by cases option <;> decide
  simp only [values, List.mem_filterMap, Option.map_eq_some_iff, Prod.mk.injEq]
  constructor
  · intro hlisted
    obtain ⟨other, _, text, hother, hoption, htext⟩ := hlisted
    rw [← hoption, ← htext]
    exact hother
  · intro hvalue
    exact ⟨option, hall, value, hvalue, rfl, rfl⟩

theorem values_nodup (line : CommandLine) : (line.values.map Prod.fst).Nodup := by
  have hkeys : line.values.map Prod.fst =
      ValueOption.all.filter fun option => (line.value option).isSome := by
    rw [values, List.map_filterMap, ← List.filterMap_eq_filter]
    apply List.filterMap_congr
    intro option _
    cases hvalue : line.value option with
    | none => simp [Option.guard, hvalue]
    | some value => simp [Option.guard, hvalue]
  have hall : ValueOption.all.Nodup := by decide
  rw [hkeys]
  exact hall.filter _

theorem lookup_values (option : ValueOption) : line.values.lookup option = line.value option := by
  ext value
  rw [lookup_eq_some_iff line.values_nodup, mem_values]

theorem flags_nodup (line : CommandLine) : line.flags.Nodup := by
  unfold flags
  cases line.ignore <;> cases line.noColor <;> decide

theorem filterMap_given?_options (line : CommandLine) :
    line.options.filterMap CommandWord.given? = line.values := by
  have hgiven : ∀ option : ValueOption, ((line.value option).map (CommandWord.given option)).bind
      CommandWord.given? = (line.value option).map (option, ·) := by
    intro option
    cases line.value option with
    | none => rfl
    | some value => rfl
  unfold options values
  rw [List.filterMap_append, List.filterMap_append, List.filterMap_filterMap]
  simp only [hgiven]
  cases line.ignore <;> cases line.noColor <;> simp [CommandWord.given?]

theorem filterMap_raised?_options (line : CommandLine) :
    line.options.filterMap CommandWord.raised? = line.flags := by
  have hnone : ∀ option : ValueOption, ((line.value option).map (CommandWord.given option)).bind
      CommandWord.raised? = none := by
    intro option
    cases line.value option with
    | none => rfl
    | some value => rfl
  unfold options flags
  rw [List.filterMap_append, List.filterMap_append, List.filterMap_filterMap]
  simp only [hnone]
  cases line.ignore <;> cases line.noColor <;> simp [CommandWord.raised?]

/-- What is read of option words is read of them apart from the tags. -/
theorem filterMap_filter_options {α : Type} {view : CommandWord → Option α}
    (hview : ∀ tag, view (.tag tag) = none) (words : List CommandWord) :
    (words.filter (·.tag?.isNone)).filterMap view = words.filterMap view := by
  rw [List.filterMap_filter]
  apply List.filterMap_congr
  intro word _
  cases word with
  | given option value => rfl
  | raised flag => rfl
  | tag tag => exact (hview tag).symm

namespace SpelledBy

theorem values_perm (hwords : line.SpelledBy words) :
    (words.filterMap CommandWord.given?).Perm line.values := by
  rw [← filterMap_filter_options (fun _ => rfl), ← filterMap_given?_options]
  exact hwords.options.filterMap _

theorem flags_perm (hwords : line.SpelledBy words) :
    (words.filterMap CommandWord.raised?).Perm line.flags := by
  rw [← filterMap_filter_options (fun _ => rfl), ← filterMap_raised?_options]
  exact hwords.options.filterMap _

theorem isUnambiguous (hwords : line.SpelledBy words) :
    (Reader.empty.taking words).IsUnambiguous := by
  constructor
  · have hkeys := (hwords.values_perm.map Prod.fst).nodup_iff.mpr line.values_nodup
    simpa [Reader.taking, Reader.empty] using hkeys
  · have hflags := hwords.flags_perm.nodup_iff.mpr line.flags_nodup
    simpa [Reader.taking, Reader.empty] using hflags

/-- What is read in the end does not depend on the order of the words. -/
theorem arguments_eq (hwords : line.SpelledBy words) :
    (Reader.empty.taking words).arguments = line.arguments := by
  have hvalue (option : ValueOption) :
      (words.filterMap CommandWord.given?).lookup option = line.value option := by
    rw [lookup_eq_of_perm hwords.values_perm line.values_nodup, lookup_values]
  have hignore : (words.filterMap CommandWord.raised?).contains .ignore = line.ignore := by
    rw [hwords.flags_perm.contains_eq]
    unfold flags
    cases line.ignore <;> cases line.noColor <;> decide
  have hnoColor : (words.filterMap CommandWord.raised?).contains .noColor = line.noColor := by
    rw [hwords.flags_perm.contains_eq]
    unfold flags
    cases line.ignore <;> cases line.noColor <;> decide
  simp only [Reader.arguments, Reader.taking, Reader.empty, List.nil_append, hvalue, hignore,
    hnoColor, hwords.tags, arguments]

end SpelledBy

/-- Every command line can be spelled: its options first, then its tags. -/
theorem spelledBy_options (line : CommandLine) :
    line.SpelledBy (line.options ++ line.tags.map .tag) := by
  have hoptions : ∀ word ∈ line.options, word.tag? = none := by
    intro word hword
    simp only [options, List.mem_append, List.mem_filterMap, Option.map_eq_some_iff,
      List.mem_ite_nil_right, List.mem_singleton, or_assoc] at hword
    rcases hword with hgiven | hignore | hnoColor
    · obtain ⟨option, _, value, _, hgiven⟩ := hgiven
      rw [← hgiven]
      rfl
    · rw [hignore.2]
      rfl
    · rw [hnoColor.2]
      rfl
  have hnone : line.options.filterMap CommandWord.tag? = [] :=
    List.filterMap_eq_nil_iff.mpr hoptions
  constructor
  · have hall : line.options.filter (·.tag?.isNone) = line.options :=
      List.filter_eq_self.mpr fun word hword => by simp [hoptions word hword]
    rw [List.filter_append, hall]
    simp [List.filter_map, Function.comp_def, CommandWord.tag?]
  · rw [List.filterMap_append, hnone, List.filterMap_map]
    simp [Function.comp_def, CommandWord.tag?]

namespace IsValid

theorem valueError?_eq_none (hvalid : line.IsValid) {option : ValueOption} {value : String}
    (hvalue : line.value option = some value) : valueError? option value = none := by
  by_cases htimeout : option = .timeout
  · subst htimeout
    have hnumber := hvalid.timeout value hvalue
    have hsome : value ≠ "" := by
      intro hempty
      rw [hempty] at hnumber
      exact absurd hnumber (by decide)
    simp [valueError?, hsome, Option.isSome_iff_ne_none.mp hnumber]
  · have hsome := hvalid.paths option value htimeout hvalue
    cases option <;> simp_all [valueError?]

theorem readable (hvalid : line.IsValid) (hwords : line.SpelledBy words) :
    ∀ word ∈ words, word.Readable := by
  intro word hword
  cases word with
  | given option value =>
      have hmem : (option, value) ∈ words.filterMap CommandWord.given? :=
        List.mem_filterMap.mpr ⟨_, hword, rfl⟩
      rw [hwords.values_perm.mem_iff, mem_values] at hmem
      exact hvalid.valueError?_eq_none hmem
  | raised flag =>
      have hmem : flag ∈ words.filterMap CommandWord.raised? :=
        List.mem_filterMap.mpr ⟨_, hword, rfl⟩
      rw [hwords.flags_perm.mem_iff] at hmem
      unfold flags at hmem
      rcases List.mem_append.mp hmem with hignore | hnoColor
      · left
        simpa using (List.mem_ite_nil_right.mp hignore).2
      · right
        simpa using (List.mem_ite_nil_right.mp hnoColor).2
  | tag tag =>
      have hmem : tag ∈ words.filterMap CommandWord.tag? :=
        List.mem_filterMap.mpr ⟨_, hword, rfl⟩
      rw [hwords.tags] at hmem
      exact hvalid.tags tag hmem

end IsValid

end CommandLine

theorem Reader.empty_isSettled : Reader.empty.IsSettled := ⟨rfl, rfl⟩

/-- However its words are ordered, a valid command line is read, and as the same arguments: what
is given has its value, everything else its default, and the tags keep their order.  So the
settings of the session and its selector do not depend on the order either. -/
theorem parse_of_spelledBy {line : CommandLine} (hvalid : line.IsValid)
    {words : List CommandWord} (hwords : line.SpelledBy words) :
    Arguments.parse (words.map CommandWord.text) = .ok line.arguments ∧
      ∀ others, line.SpelledBy others →
        (Arguments.parse (others.map CommandWord.text)).map Arguments.settings =
            (Arguments.parse (words.map CommandWord.text)).map Arguments.settings ∧
          (Arguments.parse (others.map CommandWord.text)).map Arguments.selector =
            (Arguments.parse (words.map CommandWord.text)).map Arguments.selector := by
  have hparse (spelled : List CommandWord) (hspelled : line.SpelledBy spelled) :
      Arguments.parse (spelled.map CommandWord.text) = .ok line.arguments := by
    have hread := Reader.empty_isSettled.foldlM_addWord (hvalid.readable hspelled)
      hspelled.isUnambiguous
    have hsettled := Reader.empty_isSettled.taking spelled
    unfold Arguments.parse
    rw [hread, ← hspelled.arguments_eq]
    exact bind_eq_ok.mpr ⟨_, rfl, bind_eq_ok.mpr ⟨_, hsettled.settle, rfl⟩⟩
  refine ⟨hparse words hwords, ?_⟩
  intro others hothers
  rw [hparse words hwords, hparse others hothers]
  exact ⟨rfl, rfl⟩

/-- A command line with two values, a flag and two tags. -/
def sampleLine : CommandLine where
  value
    | .file => some "all.yaml"
    | .timeout => some "2.5"
    | _ => none
  ignore := true
  noColor := false
  tags := ["Smoke", "FAST"]

theorem sampleLine_isValid : sampleLine.IsValid where
  paths option value hpath hvalue := by
    cases option <;> simp_all [sampleLine]
    subst hvalue
    decide
  timeout value hvalue := by
    cases hvalue
    decide +kernel
  tags := by decide

/-- The command line with its options among the tags, the last option first. -/
def sampleWords : List CommandWord :=
  [.tag "Smoke", .given .timeout "2.5", .raised .ignore, .tag "FAST", .given .file "all.yaml"]

theorem parse_of_spelledBy_sampleLine :
    sampleLine.IsValid ∧ sampleLine.SpelledBy sampleWords ∧
      Arguments.parse ["Smoke", "--timeout=2.5", "--ignore", "FAST", "--file=all.yaml"] =
        .ok
          { file := ⟨"all.yaml"⟩
            ignore := true
            dir := ⟨"_test"⟩
            out := ⟨"tmp"⟩
            compiler := ⟨"speroc"⟩
            assembly := ⟨"out.s"⟩
            timeout := some (.ofRatio false 5 2)
            noColor := false
            report := none
            tags := ["Smoke", "FAST"] } ∧
      (Arguments.parse ["--file=all.yaml", "--timeout=2.5", "--ignore", "Smoke", "FAST"]).map
          Arguments.settings =
        (Arguments.parse ["Smoke", "--timeout=2.5", "--ignore", "FAST", "--file=all.yaml"]).map
          Arguments.settings := by
  have hwords : sampleLine.SpelledBy sampleWords := ⟨by decide, rfl⟩
  have htexts : sampleWords.map CommandWord.text =
      ["Smoke", "--timeout=2.5", "--ignore", "FAST", "--file=all.yaml"] := by decide
  have htimeout : Binary64.ofText? "2.5" = some (.ofRatio false 5 2) := by decide +kernel
  obtain ⟨hparse, hothers⟩ := parse_of_spelledBy sampleLine_isValid hwords
  refine ⟨sampleLine_isValid, hwords, ?_, ?_⟩
  · rw [← htexts, hparse, ← htimeout]
    rfl
  · rw [← htexts]
    exact (hothers _ sampleLine.spelledBy_options).1

end Conformance
