import Conformance.Json
import Conformance.Proofs.Json.Grammar

/-!
# Rendered documents

A document that is laid out line by line is a spelling of its value, at every level of
indentation: every escape stands for its character, the digits of a number for the number, and
between the brackets of a block there are only its entries, blanks and commas.
-/

namespace Conformance

namespace Json

/-! ## Strings -/

theorem isChar_escapeChar (c : Char) : IsChar (escapeChar c) c := by
  have hshort {mark : Char} (hc : (mark, c) ∈ shortEscapes) : IsChar ['\\', mark] c := .short hc
  unfold escapeChar
  split_ifs with hquote hslash hback htab hline hfeed hreturn hcontrol
  · exact hshort (by simp [shortEscapes, hquote])
  · exact hshort (by simp [shortEscapes, hslash])
  · exact hshort (by simp [shortEscapes, hback])
  · exact hshort (by simp [shortEscapes, htab])
  · exact hshort (by simp [shortEscapes, hline])
  · exact hshort (by simp [shortEscapes, hfeed])
  · exact hshort (by simp [shortEscapes, hreturn])
  · have hunits : ∀ n < 0x20, unit? ('0' :: '0' :: hexPair n) = some n := by decide
    exact .unit (hunits c.toNat hcontrol)
  · exact .plain (Nat.le_of_not_lt hcontrol) hquote hslash

theorem isString_stringText (text : String) : IsString (stringText text).toList text := by
  have hbody : ∀ chars : List Char, IsBody (chars.flatMap escapeChar) chars := by
    intro chars
    induction chars with
    | nil => exact .nil
    | cons c chars ih => exact .cons (isChar_escapeChar c) ih
  rw [stringText, String.toList_ofList]
  exact .quoted (hbody text.toList)

/-! ## Numbers -/

theorem head?_toDigits {n : Nat} (hn : 0 < n) : (Nat.toDigits 10 n).head? ≠ some '0' := by
  induction n using Nat.strong_induction_on with
  | _ n ih =>
      rw [Nat.toDigits_eq_if (by decide)]
      split
      · interval_cases n <;> decide
      · rw [List.head?_append_of_ne_nil _ Nat.toDigits_ne_nil]
        exact ih (n / 10) (by omega) (by omega)

theorem isWhole_toDigits (n : Nat) : IsWhole (Nat.toDigits 10 n) where
  digits _ hc := Nat.isDigit_of_mem_toDigits (by decide) (by decide) hc
  nonempty := Nat.toDigits_ne_nil
  leading hhead := by
    rcases Nat.eq_zero_or_pos n with rfl | hn
    · rfl
    · exact absurd hhead (head?_toDigits hn)

theorem isNumber_toString (n : Nat) : IsNumber (toString n).toList n := by
  have hvalue : ((digitsValue (Nat.toDigits 10 n) : ℚ) + 0) * 10 ^ (0 : Int) = n := by
    simp [digitsValue]
  have hparts := IsUnsigned.parts (isWhole_toDigits n) .absent .absent
  rw [hvalue, List.append_nil, List.append_nil] at hparts
  rw [Nat.toString_eq_ofList_toDigits, String.toList_ofList]
  exact .positive hparts

/-! ## Blocks -/

section

variable {before after text : List Char}

theorem Spells.pad_item {value : Value} (hitem : Spells text (.entry (.item value)))
    (hbefore : AllOf isBlank before) (hafter : AllOf isBlank after) :
    Spells (before ++ (text ++ after)) (.entry (.item value)) := by
  cases hitem with
  | item hinner hvalue hinner' =>
      have hpadded := Spells.item (hbefore.append hinner) hvalue (hinner'.append hafter)
      simpa using hpadded

/-- More blanks around an entry make no difference. -/
theorem Spells.pad {entry : Entry} (hentry : Spells text (.entry entry))
    (hbefore : AllOf isBlank before) (hafter : AllOf isBlank after) :
    Spells (before ++ (text ++ after)) (.entry entry) := by
  cases hentry with
  | item hinner hvalue hinner' =>
      exact (Spells.item hinner hvalue hinner').pad_item hbefore hafter
  | member hinner hkey hcolon hitem =>
      have hpadded := Spells.member (hbefore.append hinner) hkey hcolon
        (hitem.pad_item allOf_nil hafter)
      simpa using hpadded

theorem Spells.entry {value : Value} (hvalue : Spells text (.value value)) :
    Spells text (.entry (.item value)) := by
  simpa using Spells.item allOf_nil hvalue allOf_nil

end

theorem isBlank_indent (level : Nat) : AllOf isBlank (indent level).toList := by
  intro c hc
  rw [indent, String.toList_ofList] at hc
  rw [List.eq_of_mem_replicate hc]
  rfl

/-- The entries, and how each is written. -/
def Written (entries : List Entry) (texts : List String) : Prop :=
  List.Forall₂ (fun entry text => Spells text.toList (.entry entry)) entries texts

theorem isBlank_newline_indent (level : Nat) : AllOf isBlank ('\n' :: (indent level).toList) :=
  AllOf.cons (by decide) (isBlank_indent level)

/-- Entries, one per line, are separated by commas. -/
theorem Written.lines {entries : List Entry} {texts : List String} (hwritten : Written entries texts)
    (hsome : entries ≠ []) (level : Nat) :
    Spells ('\n' :: (String.intercalate ",\n" (texts.map fun text => indent (level + 1) ++ text) ++
      "\n" ++ indent level).toList) (.entries entries) := by
  induction hwritten with
  | nil => exact absurd rfl hsome
  | @cons entry text entries texts hentry hlater ih =>
      cases hlater with
      | nil =>
          have hpadded :=
            hentry.pad (isBlank_newline_indent (level + 1)) (isBlank_newline_indent level)
          simpa using Spells.last hpadded
      | cons hnext hmore =>
          have hpadded := hentry.pad (isBlank_newline_indent (level + 1)) allOf_nil
          have hall := Spells.more hpadded (ih (by simp))
          simpa [String.intercalate_cons_cons] using hall

/-- Between its brackets a block has the entries and nothing else. -/
theorem Written.block {entries : List Entry} {texts : List String} (hwritten : Written entries texts)
    (opening closing : String) (level : Nat) :
    ∃ body, (block opening closing level texts).toList =
        opening.toList ++ (body ++ closing.toList) ∧ Spells body (.entries entries) := by
  unfold Json.block
  by_cases hnone : texts = []
  · subst hnone
    cases hwritten
    exact ⟨[], by simp, .none allOf_nil⟩
  · have hsome : entries ≠ [] := by
      intro hempty
      rw [hempty] at hwritten
      cases hwritten
      exact hnone rfl
    refine ⟨_, ?_, hwritten.lines hsome level⟩
    simp [hnone]

/-! ## Documents -/

mutual

/-- What a document stands for. -/
def meaning : Json → Value
  | .null => .null
  | .bool value => .bool value
  | .number value => .number value
  | .string value => .string value
  | .array items => .array (meanings items)
  | .object fields => .object (fieldMeanings fields)

def meanings : List Json → List Value
  | [] => []
  | item :: rest => item.meaning :: meanings rest

def fieldMeanings : List (String × Json) → List (String × Value)
  | [] => []
  | (key, value) :: rest => (key, value.meaning) :: fieldMeanings rest

end

theorem member_written {key : String} {value : Value} {text : String}
    (hvalue : Spells text.toList (.value value)) :
    Spells (stringText key ++ ": " ++ text).toList (.entry (.member key value)) := by
  have hblank : AllOf isBlank [' '] := allOf_nil.cons (by decide)
  have hitem := (Spells.entry hvalue).pad_item hblank allOf_nil
  have hmember := Spells.member allOf_nil (isString_stringText key) allOf_nil hitem
  simpa using hmember

mutual

/-- A rendered document is a spelling of what it stands for. -/
theorem spells_render (level : Nat) : (document : Json) →
    Spells (document.render level).toList (.value document.meaning)
  | .null => by simpa [render, meaning] using Spells.word .null
  | .bool true => by simpa [render, meaning] using Spells.word .true
  | .bool false => by simpa [render, meaning] using Spells.word .false
  | .number value => by simpa [render, meaning] using Spells.number (isNumber_toString value)
  | .string value => by simpa [render, meaning] using Spells.string (isString_stringText value)
  | .array items => by
      obtain ⟨body, htext, hbody⟩ := (written_items (level + 1) items).block "[" "]" level
      rw [render, htext, meaning]
      exact .array hbody
  | .object fields => by
      obtain ⟨body, htext, hbody⟩ :=
        (written_fields (level + 1) fields).block "\x7b" "\x7d" level
      rw [render, htext, meaning]
      exact .object hbody

theorem written_items (level : Nat) : (items : List Json) →
    Written ((meanings items).map .item) (renderItems level items)
  | [] => .nil
  | item :: rest => .cons (spells_render level item).entry (written_items level rest)

theorem written_fields (level : Nat) : (fields : List (String × Json)) →
    Written ((fieldMeanings fields).map .ofMember) (renderFields level fields)
  | [] => .nil
  | (_, value) :: rest =>
      .cons (member_written (spells_render level value)) (written_fields level rest)

end

end Json

end Conformance
