import Conformance.Proofs.Json.Grammar

/-!
# A text spells one value

A text is a document of one value at most.  It is read from left to right, and where a phrase ends
is told by what may follow it.  A number ends before a character that no number contains, a string
with the first quote that is not escaped; blanks are followed by something that is no
blank; and a list of entries goes on behind a comma only.
-/

namespace Conformance

namespace Json

/-! ## Classes of characters -/

section

variable {kind : Char → Bool} {first first' rest rest' : List Char}

/-- The text does not begin with a character of the kind. -/
def NotBefore (kind : Char → Bool) (text : List Char) : Prop := ∀ c ∈ text.head?, kind c = false

@[simp]
theorem notBefore_nil : NotBefore kind [] := by simp [NotBefore]

@[simp]
theorem notBefore_cons {c : Char} : NotBefore kind (c :: rest) ↔ kind c = false := by
  simp [NotBefore]

/-- There is one way only to cut a text where characters of a kind end. -/
theorem span_unique (hfirst : AllOf kind first) (hfirst' : AllOf kind first')
    (hrest : NotBefore kind rest) (hrest' : NotBefore kind rest')
    (hsame : first ++ rest = first' ++ rest') : first = first' ∧ rest = rest' := by
  have htake : ∀ {first rest : List Char}, AllOf kind first → NotBefore kind rest →
      (first ++ rest).takeWhile kind = first := by
    intro first rest hfirst hrest
    rw [List.takeWhile_append_of_pos hfirst]
    cases rest with
    | nil => simp
    | cons c rest => simp [hrest c rfl]
  obtain rfl : first = first' := by
    rw [← htake hfirst hrest, hsame, htake hfirst' hrest']
  exact ⟨rfl, List.append_cancel_left hsame⟩

end

/-! ## Numbers -/

/-- The characters that numbers are made of. -/
def isNumberChar (c : Char) : Bool := c.isDigit || c ∈ ['-', '+', '.', 'e', 'E']

theorem isNumberChar_of_isDigit {digits : List Char} (hdigits : AllOf Char.isDigit digits) :
    AllOf isNumberChar digits := by
  intro c hc
  simp [isNumberChar, hdigits c hc]

section

variable {text text' : List Char}

theorem IsFraction.allOf {part : ℚ} (hfraction : IsFraction text part) :
    AllOf isNumberChar text := by
  cases hfraction with
  | absent => exact allOf_nil
  | digits hdigits _ =>
      exact (isNumberChar_of_isDigit hdigits).cons (by decide)

theorem IsExponent.allOf {power : Int} (hexponent : IsExponent text power) :
    AllOf isNumberChar text := by
  cases hexponent with
  | absent => exact allOf_nil
  | @digits mark sign digits _ hmark hsign hdigits _ =>
      have hmarks : ∀ c ∈ ['e', 'E'], isNumberChar c = true := by simp [isNumberChar]
      have hsigns : AllOf isNumberChar sign := by
        cases hsign with
        | absent => exact allOf_nil
        | plus => simp [AllOf, isNumberChar]
        | minus => simp [AllOf, isNumberChar]
      have hstart : AllOf isNumberChar (mark :: sign) :=
        List.forall_mem_cons.mpr ⟨hmarks mark hmark, hsigns⟩
      exact hstart.append (isNumberChar_of_isDigit hdigits)

theorem IsUnsigned.allOf {value : ℚ} (hnumber : IsUnsigned text value) :
    AllOf isNumberChar text := by
  obtain ⟨hwhole, hfraction, hexponent⟩ := hnumber
  exact (isNumberChar_of_isDigit hwhole.digits).append (hfraction.allOf.append hexponent.allOf)

theorem IsNumber.allOf {value : ℚ} (hnumber : IsNumber text value) : AllOf isNumberChar text := by
  cases hnumber with
  | positive hunsigned => exact hunsigned.allOf
  | negative hunsigned =>
      exact hunsigned.allOf.cons (by decide)

theorem IsUnsigned.head {value : ℚ} (hnumber : IsUnsigned text value) :
    ∃ c rest, text = c :: rest ∧ c.isDigit = true := by
  obtain ⟨hwhole, _, _⟩ := hnumber
  obtain ⟨c, rest, rfl⟩ := List.exists_cons_of_ne_nil hwhole.nonempty
  exact ⟨c, _, rfl, hwhole.digits c (List.mem_cons_self ..)⟩

theorem IsNumber.head {value : ℚ} (hnumber : IsNumber text value) :
    ∃ c rest, text = c :: rest ∧ (c = '-' ∨ c.isDigit = true) := by
  cases hnumber with
  | positive hunsigned =>
      obtain ⟨c, rest, htext, hc⟩ := hunsigned.head
      exact ⟨c, rest, htext, .inr hc⟩
  | negative hunsigned => exact ⟨'-', _, rfl, .inl rfl⟩

/-! A number is read from left to right: what comes next does not begin like what was read. -/

theorem notBefore_of_allOf {kind other : Char → Bool} (hall : AllOf kind text) (hsome : text ≠ [])
    (hkinds : ∀ c, kind c = true → other c = false) : NotBefore other text := by
  obtain ⟨c, rest, rfl⟩ := List.exists_cons_of_ne_nil hsome
  rw [notBefore_cons]
  exact hkinds c (hall c (List.mem_cons_self ..))

/-- A sign, of which there may be one in front of the digits of an exponent. -/
def isSignChar (c : Char) : Bool := c = '+' || c = '-'

theorem isSignChar_of_isDigit {c : Char} (hc : c.isDigit = true) : isSignChar c = false := by
  rw [isSignChar, Bool.or_eq_false_iff, decide_eq_false_iff_not, decide_eq_false_iff_not]
  constructor
  · intro hplus
    simp [hplus] at hc
  · intro hminus
    simp [hminus] at hc

theorem IsSign.allOf {unit : Int} (hsign : IsSign text unit) : AllOf isSignChar text := by
  cases hsign <;> simp [AllOf, isSignChar]

theorem IsSign.unique {unit unit' : Int} (hsign : IsSign text unit) (hsign' : IsSign text unit') :
    unit = unit' := by
  cases hsign <;> cases hsign' <;> rfl

theorem IsExponent.notBefore {power : Int} (hexponent : IsExponent text power) :
    NotBefore Char.isDigit text ∧ text.head? ≠ some '.' := by
  cases hexponent with
  | absent => simp
  | @digits mark _ _ _ hmark _ _ _ =>
      have hmarks : ∀ c ∈ ['e', 'E'], c.isDigit = false ∧ c ≠ '.' := by simp
      obtain ⟨hdigit, hpoint⟩ := hmarks mark hmark
      simp [hdigit, hpoint]

theorem IsExponent.unique {power power' : Int} (hexponent : IsExponent text power)
    (hexponent' : IsExponent text' power') (hsame : text = text') : power = power' := by
  cases hexponent with
  | absent =>
      cases hexponent' with
      | absent => rfl
      | digits => cases hsame
  | digits _ hsign hdigits hsome =>
      cases hexponent' with
      | absent => cases hsame
      | digits _ hsign' hdigits' hsome' =>
          have hstart := notBefore_of_allOf hdigits hsome fun _ => isSignChar_of_isDigit
          have hstart' := notBefore_of_allOf hdigits' hsome' fun _ => isSignChar_of_isDigit
          obtain ⟨rfl, rfl⟩ :=
            span_unique hsign.allOf hsign'.allOf hstart hstart' (List.cons.inj hsame).2
          rw [hsign.unique hsign']

theorem IsFraction.unique {part part' : ℚ} {rest rest' : List Char}
    (hfraction : IsFraction text part) (hfraction' : IsFraction text' part')
    (hrest : NotBefore Char.isDigit rest ∧ rest.head? ≠ some '.')
    (hrest' : NotBefore Char.isDigit rest' ∧ rest'.head? ≠ some '.')
    (hsame : text ++ rest = text' ++ rest') : part = part' ∧ rest = rest' := by
  cases hfraction with
  | absent =>
      cases hfraction' with
      | absent => exact ⟨rfl, hsame⟩
      | digits => exact absurd (congrArg List.head? hsame) hrest.2
  | digits hdigits _ =>
      cases hfraction' with
      | absent => exact absurd (congrArg List.head? hsame.symm) hrest'.2
      | digits hdigits' _ =>
          obtain ⟨rfl, rfl⟩ :=
            span_unique hdigits hdigits' hrest.1 hrest'.1 (List.cons.inj hsame).2
          exact ⟨rfl, rfl⟩

theorem IsFraction.notBefore {part : ℚ} {rest : List Char} (hfraction : IsFraction text part)
    (hrest : NotBefore Char.isDigit rest) : NotBefore Char.isDigit (text ++ rest) := by
  cases hfraction with
  | absent => exact hrest
  | digits => simp

theorem IsUnsigned.unique {value value' : ℚ} (hnumber : IsUnsigned text value)
    (hnumber' : IsUnsigned text' value') (hsame : text = text') : value = value' := by
  obtain ⟨hwhole, hfraction, hexponent⟩ := hnumber
  obtain ⟨hwhole', hfraction', hexponent'⟩ := hnumber'
  obtain ⟨rfl, hrest⟩ := span_unique hwhole.digits hwhole'.digits
    (hfraction.notBefore hexponent.notBefore.1) (hfraction'.notBefore hexponent'.notBefore.1) hsame
  obtain ⟨rfl, hrest⟩ :=
    hfraction.unique hfraction' hexponent.notBefore hexponent'.notBefore hrest
  rw [hexponent.unique hexponent' hrest]

/-- A number has one value. -/
theorem IsNumber.unique {value value' : ℚ} (hnumber : IsNumber text value)
    (hnumber' : IsNumber text value') : value = value' := by
  cases hnumber with
  | positive hunsigned =>
      cases hnumber' with
      | positive hunsigned' => exact hunsigned.unique hunsigned' rfl
      | negative hunsigned' =>
          obtain ⟨c, rest, hc, hdigit⟩ := hunsigned.head
          cases hc
          simp at hdigit
  | negative hunsigned =>
      generalize htext : '-' :: _ = text at hnumber'
      cases hnumber' with
      | positive hunsigned' =>
          obtain ⟨c, rest, rfl, hdigit⟩ := hunsigned'.head
          cases htext
          simp at hdigit
      | negative hunsigned' => rw [hunsigned.unique hunsigned' (List.cons.inj htext).2]

end

/-! ## Strings -/

section

variable {text text' rest rest' : List Char}

theorem length_of_unit? {digits : List Char} {value : Nat} (hunit : unit? digits = some value) :
    digits.length = 4 := by
  match digits with
  | [_, _, _, _] => rfl
  | [] | [_] | [_, _] | [_, _, _] | _ :: _ :: _ :: _ :: _ :: _ => simp [unit?] at hunit

theorem unit?_unique {digits digits' : List Char} {value value' : Nat}
    (hunit : unit? digits = some value) (hunit' : unit? digits' = some value')
    (hsame : digits ++ rest = digits' ++ rest') : value = value' ∧ rest = rest' := by
  obtain ⟨rfl, rfl⟩ := List.append_inj hsame
    ((length_of_unit? hunit).trans (length_of_unit? hunit').symm)
  exact ⟨Option.some.inj (hunit.symm.trans hunit'), rfl⟩

/-- No character is one of the units that come in pairs. -/
theorem toNat_ne_surrogate {c : Char} {offset : Nat} (hoffset : offset < 0x400) :
    c.toNat ≠ 0xD800 + offset := by
  have hvalid : c.toNat < 0xD800 ∨ 0xDFFF < c.toNat ∧ c.toNat < 0x110000 := c.valid
  omega

theorem u_notMem_shortEscapes {c : Char} : ('u', c) ∉ shortEscapes := by
  simp [shortEscapes]

theorem shortEscapes_unique {mark c c' : Char} (hc : (mark, c) ∈ shortEscapes)
    (hc' : (mark, c') ∈ shortEscapes) : c = c' := by
  have hmarks : (shortEscapes.map Prod.fst).Nodup := by decide
  exact (Prod.mk.inj (List.inj_on_of_nodup_map hmarks hc hc' rfl)).2

theorem IsChar.unique {c c' : Char} (hchar : IsChar text c) (hchar' : IsChar text' c')
    (hsame : text ++ rest = text' ++ rest') : c = c' ∧ rest = rest' := by
  cases hchar with
  | plain _ _ hslash =>
      cases hchar' with
      | plain => exact List.cons.inj hsame
      | short | unit | pair => exact absurd (List.cons.inj hsame).1 hslash
  | short hmark =>
      cases hchar' with
      | plain _ _ hslash => exact absurd (List.cons.inj hsame).1.symm hslash
      | short hmark' =>
          obtain ⟨rfl, hrest⟩ := List.cons.inj (List.cons.inj hsame).2
          exact ⟨shortEscapes_unique hmark hmark', hrest⟩
      | unit | pair =>
          obtain ⟨rfl, -⟩ := List.cons.inj (List.cons.inj hsame).2
          exact absurd hmark u_notMem_shortEscapes
  | unit hunit =>
      cases hchar' with
      | plain _ _ hslash => exact absurd (List.cons.inj hsame).1.symm hslash
      | short hmark' =>
          obtain ⟨rfl, -⟩ := List.cons.inj (List.cons.inj hsame).2
          exact absurd hmark' u_notMem_shortEscapes
      | unit hunit' =>
          obtain ⟨hvalue, hrest⟩ := unit?_unique hunit hunit' (by simpa using hsame)
          exact ⟨Char.toNat_inj.mp hvalue, hrest⟩
      | pair hfirst _ hhigh =>
          obtain ⟨hvalue, -⟩ := unit?_unique hunit hfirst (by simpa using hsame)
          exact absurd hvalue (toNat_ne_surrogate hhigh)
  | pair hfirst hsecond hhigh _ hc =>
      cases hchar' with
      | plain _ _ hslash => exact absurd (List.cons.inj hsame).1.symm hslash
      | short hmark' =>
          obtain ⟨rfl, -⟩ := List.cons.inj (List.cons.inj hsame).2
          exact absurd hmark' u_notMem_shortEscapes
      | unit hunit' =>
          obtain ⟨hvalue, -⟩ := unit?_unique hunit' hfirst (by simpa using hsame.symm)
          exact absurd hvalue (toNat_ne_surrogate hhigh)
      | pair hfirst' hsecond' _ _ hc' =>
          obtain ⟨hvalue, hrest⟩ := unit?_unique hfirst hfirst' (by simpa using hsame)
          obtain ⟨hvalue', hrest⟩ := unit?_unique hsecond hsecond' (by simpa using hrest)
          exact ⟨Char.toNat_inj.mp (by omega), hrest⟩

/-- A quote begins no character, so a string ends with the first one. -/
theorem IsChar.head {c : Char} (hchar : IsChar text c) :
    ∃ first later, text = first :: later ∧ first ≠ '"' := by
  cases hchar with
  | plain _ hquote _ => exact ⟨_, _, rfl, hquote⟩
  | short | unit | pair => exact ⟨_, _, rfl, by decide⟩

theorem IsBody.unique {chars chars' : List Char} (hbody : IsBody text chars)
    (hbody' : IsBody text' chars') (hsame : text ++ '"' :: rest = text' ++ '"' :: rest') :
    chars = chars' ∧ rest = rest' := by
  induction hbody generalizing text' chars' with
  | nil =>
      cases hbody' with
      | nil => exact ⟨rfl, (List.cons.inj hsame).2⟩
      | cons hchar' _ =>
          obtain ⟨first, later, rfl, hquote⟩ := hchar'.head
          exact absurd (List.cons.inj hsame).1.symm hquote
  | cons hchar _ ih =>
      cases hbody' with
      | nil =>
          obtain ⟨first, later, rfl, hquote⟩ := hchar.head
          exact absurd (List.cons.inj hsame).1 hquote
      | cons hchar' hlater' =>
          rw [List.append_assoc, List.append_assoc] at hsame
          obtain ⟨rfl, hlater⟩ := hchar.unique hchar' hsame
          obtain ⟨rfl, hrest⟩ := ih hlater' hlater
          exact ⟨rfl, hrest⟩

theorem IsString.unique {value value' : String} (hstring : IsString text value)
    (hstring' : IsString text' value') (hsame : text ++ rest = text' ++ rest') :
    value = value' ∧ rest = rest' := by
  obtain ⟨hbody⟩ := hstring
  obtain ⟨hbody'⟩ := hstring'
  obtain ⟨hvalue, hrest⟩ := hbody.unique hbody' (by simpa using hsame)
  exact ⟨String.toList_injective hvalue, hrest⟩

end

/-! ## Documents -/

/-- The character that a value begins with; a zero for all numbers. -/
def Value.mark : Value → Char
  | .null => 'n'
  | .bool true => 't'
  | .bool false => 'f'
  | .number _ => '0'
  | .string _ => '"'
  | .array _ => '['
  | .object _ => '\x7b'

/-- The mark of the values that begin with a character. -/
def markOf (c : Char) : Char := if c = '-' || c.isDigit then '0' else c

/-- What stands between values: blanks, commas and closing brackets. -/
def isSeparator (c : Char) : Bool := isBlank c || c = ',' || c = ']' || c = '\x7d'

theorem isBlank_eq_false {c : Char} (hc : isSeparator c = false) : isBlank c = false := by
  simp only [isSeparator, Bool.or_eq_false_iff] at hc
  exact hc.1.1.1

theorem Value.isSeparator_eq_false {value : Value} {c : Char} (hc : markOf c = value.mark) :
    isSeparator c = false := by
  have hmark : isSeparator value.mark = false := by
    cases value with
    | bool b =>
        cases b with
        | false => rfl
        | true => rfl
    | _ => rfl
  by_contra hsep
  have hself : markOf c = c := by
    have hseparators : ∀ d ∈ [' ', '\t', '\n', '\r', ',', ']', '\x7d'], markOf d = d := by simp [markOf]
    apply hseparators
    rw [Bool.not_eq_false] at hsep
    simpa [isSeparator, isBlank, or_assoc] using hsep
  rw [← hc, hself] at hmark
  exact hsep hmark

section

variable {text text' rest rest' : List Char}

theorem Spells.head {value : Value} (hvalue : Spells text (.value value)) :
    ∃ c later, text = c :: later ∧ markOf c = value.mark := by
  cases hvalue with
  | word hword =>
      cases hword
      all_goals exact ⟨_, _, rfl, rfl⟩
  | number hnumber =>
      obtain ⟨c, later, htext, hc⟩ := hnumber.head
      exact ⟨c, later, htext, by simp [markOf, Value.mark, hc]⟩
  | string hstring =>
      obtain ⟨-⟩ := hstring
      exact ⟨_, _, rfl, rfl⟩
  | array | object => exact ⟨_, _, rfl, rfl⟩

/-- An entry begins, behind blanks, with something that stands between no values. -/
theorem Spells.entry_head {entry : Entry} (hentry : Spells text (.entry entry)) :
    ∃ before c later, text = before ++ c :: later ∧ AllOf isBlank before ∧
      isSeparator c = false := by
  cases hentry with
  | item hbefore hvalue _ =>
      obtain ⟨c, later, rfl, hc⟩ := hvalue.head
      exact ⟨_, c, _, rfl, hbefore, Value.isSeparator_eq_false hc⟩
  | member hbefore hkey _ _ =>
      obtain ⟨-⟩ := hkey
      exact ⟨_, '"', _, rfl, hbefore, by decide⟩

/-- The text begins with a closing bracket, if with anything. -/
def Closes (text : List Char) : Prop := ∀ c ∈ text.head?, c = ']' ∨ c = '\x7d'

/-- The text begins with a comma or a closing bracket, if with anything. -/
def EndsEntry (text : List Char) : Prop := ∀ c ∈ text.head?, c = ',' ∨ c = ']' ∨ c = '\x7d'

/-- What may follow a phrase. -/
def Phrase.MayPrecede : Phrase → List Char → Prop
  | .value _, rest => NotBefore isNumberChar rest
  | .entry _, rest => EndsEntry rest
  | .entries _, rest => Closes rest

/-- Two phrases of one sort. -/
def Phrase.SameSort : Phrase → Phrase → Prop
  | .value _, .value _ => True
  | .entry _, .entry _ => True
  | .entries _, .entries _ => True
  | _, _ => False

/-- Among the phrases of its sort this one alone is spelled by the beginning of a text that begins
like this, and it is told where it ends. -/
def Phrase.IsOnly (phrase : Phrase) (text : List Char) : Prop :=
  ∀ {text' rest rest' : List Char} {phrase' : Phrase}, Spells text' phrase' →
    phrase.SameSort phrase' → phrase.MayPrecede rest → phrase'.MayPrecede rest' →
    text ++ rest = text' ++ rest' → phrase = phrase' ∧ rest = rest'

/-! Values are told apart by their marks. -/

/-- For a value it is enough to look at the values with its mark. -/
theorem isOnly_value {value : Value} (hvalue : Spells text (.value value))
    (honly : ∀ {text' rest rest' : List Char} {value' : Value}, Spells text' (.value value') →
      value'.mark = value.mark → NotBefore isNumberChar rest → NotBefore isNumberChar rest' →
      text ++ rest = text' ++ rest' → value = value' ∧ rest = rest') :
    (Phrase.value value).IsOnly text := by
  intro text' rest rest' phrase' hspells hsort hrest hrest' hsame
  cases phrase' with
  | value value' =>
      obtain ⟨c, later, htext, hc⟩ := hvalue.head
      obtain ⟨c', later', htext', hc'⟩ := hspells.head
      have hbegin : c = c' := by
        rw [htext, htext'] at hsame
        exact (List.cons.inj hsame).1
      have hmark : value'.mark = value.mark := by rw [← hc, ← hc', hbegin]
      obtain ⟨rfl, hrests⟩ := honly hspells hmark hrest hrest' hsame
      exact ⟨rfl, hrests⟩
  | entry | entries => cases hsort

theorem IsWord.mark_mem {value : Value} (hword : IsWord text value) :
    value.mark ∈ ['n', 't', 'f'] := by
  cases hword
  all_goals decide

theorem IsWord.unique {value value' : Value} (hword : IsWord text value)
    (hword' : IsWord text' value') (hmark : value'.mark = value.mark) :
    text = text' ∧ value = value' := by
  cases hword <;> cases hword' <;> simp [Value.mark] at hmark ⊢

theorem isOnly_word {value : Value} (hword : IsWord text value) :
    (Phrase.value value).IsOnly text := by
  refine isOnly_value (.word hword) fun hspells hmark _ _ hsame => ?_
  have hwords := hword.mark_mem
  rw [← hmark] at hwords
  cases hspells with
  | word hword' =>
      obtain ⟨htext, hvalue⟩ := hword.unique hword' hmark
      rw [htext] at hsame
      exact ⟨hvalue, List.append_cancel_left hsame⟩
  | _ => simp [Value.mark] at hwords

theorem isOnly_number {value : ℚ} (hnumber : IsNumber text value) :
    (Phrase.value (.number value)).IsOnly text := by
  refine isOnly_value (.number hnumber) fun hspells hmark hrest hrest' hsame => ?_
  cases hspells with
  | number hnumber' =>
      obtain ⟨htext, hrests⟩ := span_unique hnumber.allOf hnumber'.allOf hrest hrest' hsame
      rw [← htext] at hnumber'
      exact ⟨congrArg Value.number (hnumber.unique hnumber'), hrests⟩
  | word hword' =>
      have hwords := hword'.mark_mem
      rw [hmark] at hwords
      simp [Value.mark] at hwords
  | _ => simp [Value.mark] at hmark

theorem isOnly_string {value : String} (hstring : IsString text value) :
    (Phrase.value (.string value)).IsOnly text := by
  refine isOnly_value (.string hstring) fun hspells hmark _ _ hsame => ?_
  cases hspells with
  | string hstring' =>
      obtain ⟨hvalue, hrests⟩ := hstring.unique hstring' hsame
      exact ⟨congrArg Value.string hvalue, hrests⟩
  | word hword' =>
      have hwords := hword'.mark_mem
      rw [hmark] at hwords
      simp [Value.mark] at hwords
  | _ => simp [Value.mark] at hmark

/-- Of two bracketed lists of entries that begin alike, the closing brackets stand in the same
place. -/
theorem entries_unique {opening closing : Char} {body body' : List Char}
    {entries entries' : List Entry} (hclosing : closing = ']' ∨ closing = '\x7d')
    (honly : (Phrase.entries entries).IsOnly body) (hbody' : Spells body' (.entries entries'))
    (hsame : opening :: (body ++ [closing]) ++ rest = opening :: (body' ++ [closing]) ++ rest') :
    entries = entries' ∧ rest = rest' := by
  have hcloses : ∀ rest, Closes (closing :: rest) := fun rest c hc =>
    Option.some.inj hc ▸ hclosing
  obtain ⟨hentries, hrests⟩ :=
    honly hbody' trivial (hcloses rest) (hcloses rest') (by simpa using hsame)
  exact ⟨Phrase.entries.inj hentries, (List.cons.inj hrests).2⟩

theorem isOnly_array {body : List Char} {items : List Value}
    (hbody : Spells body (.entries (items.map .item)))
    (honly : (Phrase.entries (items.map .item)).IsOnly body) :
    (Phrase.value (.array items)).IsOnly ('[' :: (body ++ [']'])) := by
  refine isOnly_value (.array hbody) fun hspells hmark _ _ hsame => ?_
  cases hspells with
  | array hbody' =>
      obtain ⟨hentries, hrests⟩ := entries_unique (.inl rfl) honly hbody' hsame
      have hinjective : Function.Injective Entry.item := fun _ _ => Entry.item.inj
      have hitems := List.map_injective_iff.mpr hinjective hentries
      exact ⟨congrArg Value.array hitems, hrests⟩
  | word hword' =>
      have hwords := hword'.mark_mem
      rw [hmark] at hwords
      simp [Value.mark] at hwords
  | _ => simp [Value.mark] at hmark

theorem isOnly_object {body : List Char} {members : List (String × Value)}
    (hbody : Spells body (.entries (members.map .ofMember)))
    (honly : (Phrase.entries (members.map .ofMember)).IsOnly body) :
    (Phrase.value (.object members)).IsOnly ('\x7b' :: (body ++ ['\x7d'])) := by
  refine isOnly_value (.object hbody) fun hspells hmark _ _ hsame => ?_
  cases hspells with
  | object hbody' =>
      obtain ⟨hentries, hrests⟩ := entries_unique (.inr rfl) honly hbody' hsame
      have hinjective : Function.Injective Entry.ofMember := by
        intro member other hmember
        obtain ⟨hname, hvalue⟩ := Entry.member.inj hmember
        exact Prod.ext hname hvalue
      have hmembers := List.map_injective_iff.mpr hinjective hentries
      exact ⟨congrArg Value.object hmembers, hrests⟩
  | word hword' =>
      have hwords := hword'.mark_mem
      rw [hmark] at hwords
      simp [Value.mark] at hwords
  | _ => simp [Value.mark] at hmark

/-! Entries are told apart by what stands behind the first string or value. -/

theorem Spells.notBefore {value : Value} (hvalue : Spells text (.value value))
    (rest : List Char) : NotBefore isBlank (text ++ rest) := by
  obtain ⟨c, later, rfl, hc⟩ := hvalue.head
  simpa using isBlank_eq_false (Value.isSeparator_eq_false hc)

theorem EndsEntry.notBefore_blank (hrest : EndsEntry rest) : NotBefore isBlank rest := by
  have hends : ∀ c ∈ [',', ']', '\x7d'], isBlank c = false := by simp [isBlank]
  intro c hc
  apply hends
  simpa using hrest c hc

theorem EndsEntry.notBefore_number (hrest : EndsEntry rest) : NotBefore isNumberChar rest := by
  have hends : ∀ c ∈ [',', ']', '\x7d'], isNumberChar c = false := by simp [isNumberChar]
  intro c hc
  apply hends
  simpa using hrest c hc

@[simp]
theorem endsEntry_comma (rest : List Char) : EndsEntry (',' :: rest) := by
  simp [EndsEntry]

theorem Closes.endsEntry (hrest : Closes rest) : EndsEntry rest := fun c hc => .inr (hrest c hc)

theorem notBefore_blanks {blanks : List Char} (hblanks : AllOf isBlank blanks)
    (hrest : NotBefore isNumberChar rest) : NotBefore isNumberChar (blanks ++ rest) := by
  cases blanks with
  | nil => exact hrest
  | cons c later =>
      have hblank : isBlank c = true := hblanks c (List.mem_cons_self ..)
      have hnumbers : ∀ d ∈ [' ', '\t', '\n', '\r'], isNumberChar d = false := by simp [isNumberChar]
      rw [List.cons_append, notBefore_cons]
      apply hnumbers
      simpa [isBlank, or_assoc] using hblank

/-- A colon follows the name of a member, and no item. -/
theorem not_item_and_member {before before' key after after' later : List Char} {name : String}
    {value : Value} (hbefore : AllOf isBlank before) (hkey : IsString key name)
    (hafter : AllOf isBlank after) (hbefore' : AllOf isBlank before')
    (hvalue' : Spells text' (.value value)) (hafter' : AllOf isBlank after')
    (hrest' : EndsEntry rest')
    (hsame : before ++ (key ++ (after ++ ':' :: later)) = before' ++ (text' ++ (after' ++ rest'))) :
    False := by
  obtain ⟨-, hvalues⟩ := span_unique hbefore hbefore' ((Spells.string hkey).notBefore _)
    (hvalue'.notBefore _) hsame
  have hcolon : NotBefore isNumberChar (':' :: later) := by simp [isNumberChar]
  obtain ⟨-, hbehind⟩ := isOnly_string hkey hvalue' trivial (notBefore_blanks hafter hcolon)
    (notBefore_blanks hafter' hrest'.notBefore_number) hvalues
  obtain ⟨-, rfl⟩ :=
    span_unique hafter hafter' (by simp [isBlank]) hrest'.notBefore_blank hbehind
  simpa using hrest' ':' rfl

theorem isOnly_item {before after : List Char} {value : Value} (hbefore : AllOf isBlank before)
    (hvalue : Spells text (.value value)) (hafter : AllOf isBlank after)
    (honly : (Phrase.value value).IsOnly text) :
    (Phrase.entry (.item value)).IsOnly (before ++ (text ++ after)) := by
  intro text' rest rest' phrase' hspells hsort hrest hrest' hsame
  replace hrest : EndsEntry rest := hrest
  cases hspells with
  | item hbefore' hvalue' hafter' =>
      replace hrest' : EndsEntry rest' := hrest'
      obtain ⟨-, hvalues⟩ := span_unique hbefore hbefore' (hvalue.notBefore (after ++ rest))
        (hvalue'.notBefore _) (by simpa using hsame)
      obtain ⟨hequal, hbehind⟩ := honly hvalue' trivial
        (notBefore_blanks hafter hrest.notBefore_number)
        (notBefore_blanks hafter' hrest'.notBefore_number) hvalues
      obtain ⟨-, hrests⟩ :=
        span_unique hafter hafter' hrest.notBefore_blank hrest'.notBefore_blank hbehind
      exact ⟨by rw [Phrase.value.inj hequal], hrests⟩
  | member hbefore' hkey' hafter' _ =>
      exact (not_item_and_member hbefore' hkey' hafter' hbefore hvalue hafter hrest
        (by simpa using hsame.symm)).elim
  | _ => cases hsort

theorem isOnly_member {before key after : List Char} {name : String} {value : Value}
    (hbefore : AllOf isBlank before) (hkey : IsString key name) (hafter : AllOf isBlank after)
    (honly : (Phrase.entry (.item value)).IsOnly text) :
    (Phrase.entry (.member name value)).IsOnly
      (before ++ (key ++ (after ++ ':' :: text))) := by
  intro text' rest rest' phrase' hspells hsort hrest hrest' hsame
  cases hspells with
  | item hbefore' hvalue' hafter' =>
      exact (not_item_and_member hbefore hkey hafter hbefore' hvalue' hafter' hrest'
        (by simpa using hsame)).elim
  | member hbefore' hkey' hafter' hitem' =>
      obtain ⟨-, hkeys⟩ := span_unique hbefore hbefore' ((Spells.string hkey).notBefore _)
        ((Spells.string hkey').notBefore _) (by simpa using hsame)
      obtain ⟨rfl, hbehind⟩ := hkey.unique hkey' hkeys
      obtain ⟨-, hitems⟩ :=
        span_unique hafter hafter' (by simp [isBlank]) (by simp [isBlank]) hbehind
      obtain ⟨hequal, hrests⟩ := honly hitem' trivial hrest hrest' (List.cons.inj hitems).2
      exact ⟨by rw [Entry.item.inj (Phrase.entry.inj hequal)], hrests⟩
  | _ => cases hsort

/-! A list of entries goes on behind a comma only. -/

/-- Blanks before a closing bracket are no entry. -/
theorem not_blanks_and_entry {blanks later : List Char} {entry : Entry}
    (hblanks : AllOf isBlank blanks) (hentry : Spells text (.entry entry)) (hrest : Closes rest)
    (hsame : blanks ++ rest = text ++ later) : False := by
  obtain ⟨before, c, more, htext, hbefore, hc⟩ := hentry.entry_head
  have hblank : NotBefore isBlank (c :: (more ++ later)) := by
    simpa using isBlank_eq_false hc
  have hsplit : blanks ++ rest = before ++ c :: (more ++ later) := by
    simpa [htext] using hsame
  obtain ⟨_, hfollows⟩ :=
    span_unique hblanks hbefore hrest.endsEntry.notBefore_blank hblank hsplit
  have hcloses : c = ']' ∨ c = '\x7d' := by
    apply hrest
    rw [hfollows]
    rfl
  cases hcloses with
  | inl hbracket => simp [hbracket, isSeparator] at hc
  | inr hbrace => simp [hbrace, isSeparator] at hc

theorem isOnly_none {blanks : List Char} (hblanks : AllOf isBlank blanks) :
    (Phrase.entries []).IsOnly blanks := by
  intro text' rest rest' phrase' hspells hsort hrest hrest' hsame
  replace hrest : Closes rest := hrest
  cases hspells with
  | none hblanks' =>
      obtain ⟨-, hrests⟩ := span_unique hblanks hblanks' hrest.endsEntry.notBefore_blank
        (Closes.endsEntry hrest').notBefore_blank hsame
      exact ⟨rfl, hrests⟩
  | last hentry' => exact (not_blanks_and_entry hblanks hentry' hrest hsame).elim
  | more hentry' _ =>
      exact (not_blanks_and_entry hblanks hentry' hrest (by simpa using hsame)).elim
  | _ => cases hsort

theorem isOnly_last {entry : Entry} (hentry : Spells text (.entry entry))
    (honly : (Phrase.entry entry).IsOnly text) : (Phrase.entries [entry]).IsOnly text := by
  intro text' rest rest' phrase' hspells hsort hrest hrest' hsame
  cases hspells with
  | none hblanks' => exact (not_blanks_and_entry hblanks' hentry hrest' hsame.symm).elim
  | last hentry' =>
      obtain ⟨hequal, hrests⟩ := honly hentry' trivial (Closes.endsEntry hrest)
        (Closes.endsEntry hrest') hsame
      exact ⟨by rw [Phrase.entry.inj hequal], hrests⟩
  | more hentry' _ =>
      obtain ⟨-, rfl⟩ := honly hentry' trivial (Closes.endsEntry hrest) (endsEntry_comma _)
        (by simpa using hsame)
      simpa using hrest ',' rfl
  | _ => cases hsort

theorem isOnly_more {later : List Char} {entry next : Entry} {entries : List Entry}
    (hentry : Spells text (.entry entry)) (honly : (Phrase.entry entry).IsOnly text)
    (hlater : (Phrase.entries (next :: entries)).IsOnly later) :
    (Phrase.entries (entry :: next :: entries)).IsOnly (text ++ ',' :: later) := by
  intro text' rest rest' phrase' hspells hsort hrest hrest' hsame
  cases hspells with
  | none hblanks' =>
      exact (not_blanks_and_entry hblanks' hentry hrest' (by simpa using hsame.symm)).elim
  | last hentry' =>
      obtain ⟨-, rfl⟩ := honly hentry' trivial (endsEntry_comma (later ++ rest))
        (Closes.endsEntry hrest') (by simpa using hsame)
      simpa using hrest' ',' rfl
  | more hentry' hlater' =>
      obtain ⟨hequal, hrests⟩ := honly hentry' trivial (endsEntry_comma (later ++ rest))
        (endsEntry_comma _) (by simpa using hsame)
      obtain ⟨hentries, hrests⟩ := hlater hlater' trivial hrest hrest' (List.cons.inj hrests).2
      exact ⟨by rw [Phrase.entry.inj hequal, Phrase.entries.inj hentries], hrests⟩
  | _ => cases hsort

theorem Spells.isOnly {phrase : Phrase} (hspells : Spells text phrase) : phrase.IsOnly text := by
  induction hspells with
  | word hword => exact isOnly_word hword
  | number hnumber => exact isOnly_number hnumber
  | string hstring => exact isOnly_string hstring
  | array hbody honly => exact isOnly_array hbody honly
  | object hbody honly => exact isOnly_object hbody honly
  | item hbefore hvalue hafter honly => exact isOnly_item hbefore hvalue hafter honly
  | member hbefore hkey hafter _ honly => exact isOnly_member hbefore hkey hafter honly
  | none hblanks => exact isOnly_none hblanks
  | last hentry honly => exact isOnly_last hentry honly
  | more hentry _ honly hlater => exact isOnly_more hentry honly hlater

end

/-- A text is a document of one value at most. -/
theorem IsDocument.unique {text : String} {value value' : Value} (hvalue : IsDocument text value)
    (hvalue' : IsDocument text value') : value = value' := by
  have hend : EndsEntry [] := by simp [EndsEntry]
  obtain ⟨hequal, -⟩ := hvalue.isOnly hvalue' trivial hend hend rfl
  exact Entry.item.inj (Phrase.entry.inj hequal)

end Json

end Conformance
