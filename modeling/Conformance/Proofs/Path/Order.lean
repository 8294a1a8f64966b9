import Conformance.Proofs.Path.Components
import Conformance.Text.Utf8
import Mathlib.Data.List.Lex
import Mathlib.Data.Prod.Lex
import Mathlib.Data.String.Basic

/-!
# Paths in order

Paths are compared component by component, names by their bytes.  The order is linear
because it is that of a key: for each component its rank, and behind it the bytes of a name.
Characters of a text may be compared instead of its bytes, as a greater character has
greater bytes at the first place where the two differ.
-/

namespace Conformance

/-! ## Texts by their bytes -/

/-- The bytes of a text as numbers. -/
def byteCodes (text : String) : List ℕ := (bytesOfText text).map UInt8.toNat

/-- The bytes of a character as numbers. -/
def charCodes (c : Char) : List ℕ := (String.utf8EncodeChar c).map UInt8.toNat

theorem byteCodes_eq_flatMap (text : String) :
    byteCodes text = text.toList.flatMap charCodes := by
  unfold byteCodes bytesOfText bytesOfChars
  rw [List.map_flatMap]
  rfl

theorem charCodes_ne_nil (c : Char) : charCodes c ≠ [] := by
  unfold charCodes
  rw [Ne, List.map_eq_nil_iff]
  exact String.utf8EncodeChar_ne_nil

theorem char_toNat_lt (c : Char) : c.val.toNat < 1114112 := by
  rcases c.valid with hlow | ⟨_, hhigh⟩
  · exact lt_trans hlow (by decide)
  · exact hhigh

/-- The bytes of a character by its number: a first one that tells how many follow, and
six bits in each that follows. -/
theorem charCodes_eq (c : Char) :
    charCodes c =
      let v := c.val.toNat
      if v ≤ 127 then [v]
      else if v ≤ 2047 then [v / 64 + 192, v % 64 + 128]
      else if v ≤ 65535 then [v / 4096 + 224, v / 64 % 64 + 128, v % 64 + 128]
      else [v / 262144 + 240, v / 4096 % 64 + 128, v / 64 % 64 + 128, v % 64 + 128] := by
  have hbound := char_toNat_lt c
  unfold charCodes String.utf8EncodeChar
  generalize c.val.toNat = v at hbound ⊢
  dsimp only
  split_ifs <;>
    simp only [List.map_cons, List.map_nil, UInt8.toNat_ofNat', List.cons.injEq, and_true]
  all_goals omega

/-- Of two characters the greater one has greater bytes, whatever comes behind. -/
theorem charCodes_append_lt {c d : Char} (hlt : c < d) (first second : List ℕ) :
    charCodes c ++ first < charCodes d ++ second := by
  have hvalues : c.val.toNat < d.val.toNat := hlt
  have hbound := char_toNat_lt d
  rw [charCodes_eq, charCodes_eq]
  generalize c.val.toNat = v at hvalues ⊢
  generalize d.val.toNat = w at hvalues hbound ⊢
  dsimp only
  split_ifs <;> simp only [List.cons_append, List.nil_append, List.cons_lt_cons_iff]
  all_goals omega

theorem flatMap_charCodes_lt {first second : List Char} (hlt : first < second) :
    first.flatMap charCodes < second.flatMap charCodes := by
  induction hlt with
  | @nil d rest =>
      obtain ⟨code, more, hcodes⟩ := List.exists_cons_of_ne_nil (charCodes_ne_nil d)
      rw [List.flatMap_nil, List.flatMap_cons, hcodes, List.cons_append]
      exact List.nil_lt_cons ..
  | rel hhead =>
      rw [List.flatMap_cons, List.flatMap_cons]
      exact charCodes_append_lt hhead _ _
  | cons _ ih =>
      rw [List.flatMap_cons, List.flatMap_cons]
      exact List.Lex.append_left _ ih _

theorem byteCodes_strictMono : StrictMono byteCodes := by
  intro first second hlt
  rw [byteCodes_eq_flatMap, byteCodes_eq_flatMap]
  exact flatMap_charCodes_lt (String.lt_iff_toList_lt.mp hlt)

/-! ## Paths by their components -/

namespace Path

/-- What a component is compared by. -/
def Component.key : Component → ℕ ×ₗ List ℕ
  | .normal name => toLex (Component.rank (.normal name), byteCodes name)
  | component => toLex (component.rank, [])

/-- What a path is compared by. -/
def key (p : Path) : List (ℕ ×ₗ List ℕ) := p.components.map Component.key

theorem Component.fst_key (component : Component) :
    (ofLex component.key).1 = component.rank := by
  cases component with
  | normal name => rfl
  | _ => rfl

theorem Component.key_injective : Function.Injective Component.key := by
  intro a b hkey
  have hrank : a.rank = b.rank := by
    rw [← fst_key a, ← fst_key b, hkey]
  cases a with
  | normal name =>
      cases b with
      | normal other =>
          have hcodes : byteCodes name = byteCodes other := by
            simpa [Component.key, Component.rank] using hkey
          rw [byteCodes_strictMono.injective hcodes]
      | root => cases hrank
      | parent => cases hrank
      | current => cases hrank
  | root =>
      cases b with
      | root => rfl
      | _ => cases hrank
  | parent =>
      cases b with
      | parent => rfl
      | _ => cases hrank
  | current =>
      cases b with
      | current => rfl
      | _ => cases hrank

theorem Component.le_iff {a b : Component} : a.le b = true ↔ a.key ≤ b.key := by
  cases a <;> cases b <;>
    simp [Component.le, Component.key, Component.rank, Prod.Lex.toLex_le_toLex,
      byteCodes_strictMono.le_iff_le]

theorem cons_le_cons_iff {α : Type} [LinearOrder α] {a b : α} {as bs : List α} :
    a :: as ≤ b :: bs ↔ a < b ∨ a = b ∧ as ≤ bs := by
  rw [le_iff_lt_or_eq, List.cons_lt_cons_iff, List.cons.injEq, or_assoc, ← and_or_left,
    ← le_iff_lt_or_eq]

theorem componentsLe_iff {as bs : List Component} :
    componentsLe as bs = true ↔ as.map Component.key ≤ bs.map Component.key := by
  induction as generalizing bs with
  | nil => exact iff_of_true rfl (not_lt.mp (List.not_lt_nil _))
  | cons a as ih =>
      cases bs with
      | nil => simp [componentsLe]
      | cons b bs =>
          rw [List.map_cons, List.map_cons, cons_le_cons_iff, componentsLe]
          by_cases hsame : a = b
          · simp [hsame, ih]
          · have hkey : a.key ≠ b.key := fun h => hsame (Component.key_injective h)
            simp [hsame, hkey, Component.le_iff, lt_iff_le_and_ne]

/-- The order of paths is that of their keys. -/
theorem le_iff {p q : Path} : p.le q = true ↔ p.key ≤ q.key := componentsLe_iff

theorem key_eq_iff {p q : Path} : p.key = q.key ↔ p.components = q.components :=
  (List.map_injective_iff.mpr Component.key_injective).eq_iff

end Path

end Conformance
