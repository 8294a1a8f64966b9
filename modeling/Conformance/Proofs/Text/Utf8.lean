import Conformance.Text.Utf8
import Mathlib.Tactic

/-!
# Reading text byte by byte

A byte below `0x80` stands for a character of its own wherever it comes, and every longer
sequence stands for a character from `0x80` on (`PendingChar.IsLong` is the invariant of a
sequence under way).  So bytes may be read in pieces that are cut at such a byte, and a
control character is read exactly where its byte was.  The bytes of a text are read back as
that text.
-/

namespace Conformance

theorem toNat_ofNat_of_isValidChar {code : Nat} (hcode : code.isValidChar) :
    (Char.ofNat code).toNat = code := by
  rw [Char.ofNat, dif_pos hcode]
  rfl

/-! ## The first byte of a sequence -/

section

variable {b : UInt8}

theorem startSequence_of_one (hb : b.toNat < 0x80) :
    startSequence b = ([some (Char.ofNat b.toNat)], none) :=
  if_pos (UInt8.lt_iff_toNat_lt.mpr hb)

theorem startSequence_of_two (hlow : 0xC2 ≤ b.toNat) (hhigh : b.toNat ≤ 0xDF) :
    startSequence b = ([], some ⟨b.toNat - 0xC0, 1, 0x80, 0xBF⟩) := by
  unfold startSequence
  simp only [UInt8.lt_iff_toNat_lt, UInt8.le_iff_toNat_le, UInt8.reduceToNat]
  rw [if_neg (by omega), if_pos ⟨hlow, hhigh⟩]

/-- After `0xE0` a short code is left out, after `0xED` the surrogates are. -/
theorem startSequence_of_three (hlow : 0xE0 ≤ b.toNat) (hhigh : b.toNat ≤ 0xEF) :
    startSequence b =
      ([], some ⟨b.toNat - 0xE0, 2, if b.toNat = 0xE0 then 0xA0 else 0x80,
        if b.toNat = 0xED then 0x9F else 0xBF⟩) := by
  unfold startSequence
  simp only [UInt8.lt_iff_toNat_lt, UInt8.le_iff_toNat_le, ← UInt8.toNat_inj, UInt8.reduceToNat]
  generalize b.toNat = n at *
  interval_cases n <;> rfl

/-- After `0xF0` a short code is left out, after `0xF4` what is beyond the last character. -/
theorem startSequence_of_four (hlow : 0xF0 ≤ b.toNat) (hhigh : b.toNat ≤ 0xF4) :
    startSequence b =
      ([], some ⟨b.toNat - 0xF0, 3, if b.toNat = 0xF0 then 0x90 else 0x80,
        if b.toNat = 0xF4 then 0x8F else 0xBF⟩) := by
  unfold startSequence
  simp only [UInt8.lt_iff_toNat_lt, UInt8.le_iff_toNat_le, ← UInt8.toNat_inj, UInt8.reduceToNat]
  generalize b.toNat = n at *
  interval_cases n <;> rfl

theorem startSequence_of_none (hb : 0x80 ≤ b.toNat) (hill : b.toNat < 0xC2 ∨ 0xF4 < b.toNat) :
    startSequence b = ([none], none) := by
  unfold startSequence
  simp only [UInt8.lt_iff_toNat_lt, UInt8.le_iff_toNat_le, ← UInt8.toNat_inj, UInt8.reduceToNat]
  generalize b.toNat = n at *
  repeat rw [if_neg (by omega)]

end

/-! ## A sequence under way -/

namespace PendingChar

/-- The least code a sequence can end with. -/
def leastCode (p : PendingChar) : Nat :=
  (p.code * 64 + p.low.toNat % 64) * 64 ^ (p.missing - 1)

/-- The first code that is too great for a sequence. -/
def endCode (p : PendingChar) : Nat :=
  (p.code * 64 + p.high.toNat % 64 + 1) * 64 ^ (p.missing - 1)

/-- Whatever comes next, a sequence ends with a character that takes more than one byte. -/
structure IsLong (p : PendingChar) : Prop where
  low : 0x80 ≤ p.low.toNat
  high : p.high.toNat ≤ 0xBF
  least : 0x80 ≤ p.leastCode
  valid : p.endCode ≤ 0xD800 ∨ 0xE000 ≤ p.leastCode ∧ p.endCode ≤ 0x110000

section

variable {p : PendingChar} {b : UInt8}

/-- One more byte of a sequence. -/
def push (p : PendingChar) (b : UInt8) : PendingChar :=
  ⟨p.code * 64 + b.toNat % 64, p.missing - 1, 0x80, 0xBF⟩

theorem IsLong.within (hp : p.IsLong) (hlow : p.low ≤ b) (hhigh : b ≤ p.high) :
    0x80 ≤ b.toNat ∧ p.low.toNat % 64 ≤ b.toNat % 64 ∧ b.toNat % 64 ≤ p.high.toNat % 64 := by
  rw [UInt8.le_iff_toNat_le] at hlow hhigh
  have hleast := hp.low
  have hmost := hp.high
  omega

theorem IsLong.push (hp : p.IsLong) (hmissing : 1 < p.missing) (hlow : p.low ≤ b)
    (hhigh : b ≤ p.high) : (p.push b).IsLong := by
  obtain ⟨-, hlow, hhigh⟩ := hp.within hlow hhigh
  obtain ⟨more, hmore⟩ : ∃ more, p.missing = more + 2 := ⟨p.missing - 2, by omega⟩
  have hleast : p.leastCode ≤ (p.push b).leastCode := by
    have hcode : (p.push b).leastCode = (p.code * 64 + b.toNat % 64) * 64 ^ (more + 1) := by
      simp [leastCode, PendingChar.push, hmore, Nat.pow_succ', Nat.mul_assoc]
    rw [hcode, leastCode, hmore]
    exact Nat.mul_le_mul_right _ (by omega)
  have hend : (p.push b).endCode ≤ p.endCode := by
    have hcode : (p.push b).endCode = (p.code * 64 + b.toNat % 64 + 1) * 64 ^ (more + 1) := by
      have hlast : (p.code * 64 + b.toNat % 64) * 64 + 63 + 1 =
          (p.code * 64 + b.toNat % 64 + 1) * 64 := by omega
      simp only [endCode, PendingChar.push, hmore, UInt8.reduceToNat]
      rw [hlast, Nat.mul_assoc, ← Nat.pow_succ']
      rfl
    rw [hcode, endCode, hmore]
    exact Nat.mul_le_mul_right _ (by omega)
  refine ⟨le_rfl, le_rfl, hp.least.trans hleast, ?_⟩
  rcases hp.valid with hbelow | ⟨habove, hmost⟩
  · exact .inl (hend.trans hbelow)
  · exact .inr ⟨habove.trans hleast, hend.trans hmost⟩

/-- The last byte of a sequence completes a character. -/
theorem IsLong.toNat_ofNat (hp : p.IsLong) (hmissing : p.missing ≤ 1) (hlow : p.low ≤ b)
    (hhigh : b ≤ p.high) :
    0x80 ≤ (Char.ofNat (p.push b).code).toNat := by
  obtain ⟨-, hlow, hhigh⟩ := hp.within hlow hhigh
  obtain ⟨-, -, hleast, hvalid⟩ := hp
  have hlast : p.missing - 1 = 0 := by omega
  simp only [leastCode, endCode, hlast, Nat.pow_zero, Nat.mul_one] at hleast hvalid
  have hcode : (p.push b).code = p.code * 64 + b.toNat % 64 := rfl
  have hchar : (p.push b).code.isValidChar := by
    cases hvalid with
    | inl hbelow =>
        left
        omega
    | inr hbetween =>
        right
        omega
  rw [toNat_ofNat_of_isValidChar hchar]
  omega

end

end PendingChar

/-! ## Byte by byte -/

/-- A state of the reader between two bytes. -/
def Pending (pending : Option PendingChar) : Prop :=
  ∀ p, pending = some p → p.IsLong

section

variable {pending : Option PendingChar} {b : UInt8}

theorem pending_none : Pending none := nofun

theorem decodeByte_continue {p : PendingChar} (hlow : p.low ≤ b) (hhigh : b ≤ p.high) :
    decodeByte (some p) b =
      if p.missing ≤ 1 then ([some (Char.ofNat (p.push b).code)], none)
      else ([], some (p.push b)) :=
  if_pos ⟨hlow, hhigh⟩

theorem decodeByte_restart {p : PendingChar} (hout : ¬(p.low ≤ b ∧ b ≤ p.high)) :
    decodeByte (some p) b = (none :: (startSequence b).1, (startSequence b).2) :=
  if_neg hout

/-- A byte below `0x80` ends whatever is under way. -/
theorem decodeByte_of_one (hpending : Pending pending) (hb : b.toNat < 0x80) :
    decodeByte pending b = (decodeFrom pending [] ++ [some (Char.ofNat b.toNat)], none) := by
  cases pending with
  | none => exact startSequence_of_one hb
  | some p =>
      have hout : ¬(p.low ≤ b ∧ b ≤ p.high) := by
        intro hin
        have hlong : 0x80 ≤ b.toNat := ((hpending p rfl).within hin.1 hin.2).1
        omega
      rw [decodeByte_restart hout, startSequence_of_one hb]
      rfl

/-- From `0x80` on a byte starts a long sequence or is no part of any text. -/
theorem startSequence_of_long (hb : 0x80 ≤ b.toNat) :
    startSequence b = ([none], none) ∨ ∃ p, p.IsLong ∧ startSequence b = ([], some p) := by
  by_cases hill : b.toNat < 0xC2 ∨ 0xF4 < b.toNat
  · exact .inl (startSequence_of_none hb hill)
  obtain ⟨hleast, hmost⟩ := not_or.mp hill
  right
  rcases Nat.lt_or_ge b.toNat 0xE0 with htwo | hmore
  · have hstart := startSequence_of_two (b := b) (by omega) (by omega)
    refine ⟨_, ⟨le_rfl, le_rfl, ?_, .inl ?_⟩, hstart⟩
    · simp only [PendingChar.leastCode, UInt8.reduceToNat]
      omega
    · simp only [PendingChar.endCode, UInt8.reduceToNat]
      omega
  rcases Nat.lt_or_ge b.toNat 0xF0 with hthree | hfour
  · have hstart := startSequence_of_three hmore (Nat.le_of_lt_succ hthree)
    refine ⟨_, ?_, hstart⟩
    generalize b.toNat = n at *
    interval_cases n
    all_goals exact ⟨by decide, by decide, by decide, by decide⟩
  · have hstart := startSequence_of_four hfour (Nat.le_of_not_lt hmost)
    refine ⟨_, ?_, hstart⟩
    generalize b.toNat = n at *
    interval_cases n
    all_goals exact ⟨by decide, by decide, by decide, by decide⟩

/-- A byte from `0x80` on completes no character below `0x80`, and it leaves a trace. -/
theorem decodeByte_of_long (hpending : Pending pending) (hb : 0x80 ≤ b.toNat) :
    (∀ c, some c ∈ (decodeByte pending b).1 → 0x80 ≤ c.toNat) ∧
      Pending (decodeByte pending b).2 ∧
      ((decodeByte pending b).1 = [] → (decodeByte pending b).2 ≠ none) := by
  have hstart : (∀ c, some c ∉ (startSequence b).1) ∧ Pending (startSequence b).2 ∧
      ((startSequence b).1 = [] → (startSequence b).2 ≠ none) := by
    cases startSequence_of_long hb with
    | inl hill =>
        rw [hill]
        exact ⟨by simp, pending_none, by simp⟩
    | inr hstarts =>
        obtain ⟨p, hp, hopen⟩ := hstarts
        have hpending' : Pending (some p) := by
          intro q hq
          rw [← Option.some.inj hq]
          exact hp
        rw [hopen]
        exact ⟨by simp, hpending', by simp⟩
  cases pending with
  | none => exact ⟨fun c hc => absurd hc (hstart.1 c), hstart.2⟩
  | some p =>
      have hp := hpending p rfl
      by_cases hin : p.low ≤ b ∧ b ≤ p.high
      · rw [decodeByte_continue hin.1 hin.2]
        split
        case isTrue hlast =>
          refine ⟨?_, pending_none, by simp⟩
          intro c hc
          have hchar : c = Char.ofNat (p.push b).code := by
            simpa using hc
          rw [hchar]
          exact hp.toNat_ofNat hlast hin.1 hin.2
        case isFalse hmore =>
          refine ⟨by simp, ?_, by simp⟩
          intro q hq
          rw [← Option.some.inj hq]
          exact hp.push (by omega) hin.1 hin.2
      · rw [decodeByte_restart hin]
        refine ⟨?_, hstart.2.1, by simp⟩
        intro c hc
        have hread : some c ∈ (startSequence b).1 := by
          simpa using hc
        exact absurd hread (hstart.1 c)

theorem decodeByte_pending (hpending : Pending pending) (b : UInt8) :
    Pending (decodeByte pending b).2 := by
  rcases Nat.lt_or_ge b.toNat 0x80 with hone | hlong
  · rw [decodeByte_of_one hpending hone]
    exact pending_none
  · exact (decodeByte_of_long hpending hlong).2.1

/-! ## Byte strings -/

theorem decodeFrom_cons (pending : Option PendingChar) (b : UInt8) (rest : Bytes) :
    decodeFrom pending (b :: rest) =
      (decodeByte pending b).1 ++ decodeFrom (decodeByte pending b).2 rest := rfl

/-- Bytes may be read in two parts if the second begins below `0x80`. -/
theorem decodeFrom_append (hpending : Pending pending) (hb : b.toNat < 0x80) (before rest : Bytes) :
    decodeFrom pending (before ++ b :: rest) =
      decodeFrom pending before ++ some (Char.ofNat b.toNat) :: decodeFrom none rest := by
  induction before generalizing pending with
  | nil =>
      rw [List.nil_append, decodeFrom_cons, decodeByte_of_one hpending hb, List.append_assoc]
      rfl
  | cons first before ih =>
      rw [List.cons_append, decodeFrom_cons, decodeFrom_cons,
        ih (decodeByte_pending hpending first), List.append_assoc]

/-- No bytes are dropped without a trace. -/
theorem decodeFrom_eq_nil_iff (hpending : Pending pending) (bytes : Bytes) :
    decodeFrom pending bytes = [] ↔ pending = none ∧ bytes = [] := by
  induction bytes generalizing pending with
  | nil =>
      cases pending with
      | none => simp [decodeFrom]
      | some p => simp [decodeFrom]
  | cons first rest ih =>
      rw [decodeFrom_cons, List.append_eq_nil_iff, ih (decodeByte_pending hpending first)]
      refine ⟨?_, nofun⟩
      intro hnothing
      obtain ⟨hout, hnext, _⟩ := hnothing
      rcases Nat.lt_or_ge first.toNat 0x80 with hone | hlong
      · simp [decodeByte_of_one hpending hone] at hout
      · exact absurd hnext ((decodeByte_of_long hpending hlong).2.2 hout)

/-- A character below `0x80` is read only where its byte is. -/
theorem mem_of_mem_decodeFrom (hpending : Pending pending) {c : Char} {bytes : Bytes}
    (hc : some c ∈ decodeFrom pending bytes) (hlow : c.toNat < 0x80) :
    ∃ b ∈ bytes, b.toNat = c.toNat := by
  induction bytes generalizing pending with
  | nil =>
      cases pending with
      | none => simp [decodeFrom] at hc
      | some p => simp [decodeFrom] at hc
  | cons first rest ih =>
      rw [decodeFrom_cons, List.mem_append] at hc
      cases hc with
      | inl hout =>
          refine ⟨first, List.mem_cons_self, ?_⟩
          rcases Nat.lt_or_ge first.toNat 0x80 with hone | hlong
          · have hchar : c = Char.ofNat first.toNat := by
              rw [decodeByte_of_one hpending hone] at hout
              cases pending with
              | none => simpa [decodeFrom] using hout
              | some p => simpa [decodeFrom] using hout
            rw [hchar, toNat_ofNat_of_isValidChar (.inl (by omega))]
          · have hlarge : 0x80 ≤ c.toNat := (decodeByte_of_long hpending hlong).1 c hout
            omega
      | inr hlater =>
          obtain ⟨b, hb, hchar⟩ := ih (decodeByte_pending hpending first) hlater
          exact ⟨b, List.mem_cons_of_mem first hb, hchar⟩

end

theorem getLast?_of_getLast?_decodeFrom (hpending : Pending pending) {c : Char} {bytes : Bytes}
    (hbytes : bytes ≠ []) (hlast : (decodeFrom pending bytes).getLast? = some (some c))
    (hlow : c.toNat < 0x80) : ∃ b, bytes.getLast? = some b ∧ b.toNat = c.toNat := by
  induction bytes generalizing pending with
  | nil => exact absurd rfl hbytes
  | cons first rest ih =>
      by_cases hrest : rest = []
      · subst hrest
        obtain ⟨b, hb, hchar⟩ :=
          mem_of_mem_decodeFrom hpending (List.mem_of_getLast? hlast) hlow
        exact ⟨first, rfl, by rwa [List.mem_singleton.mp hb] at hchar⟩
      · have hnext := decodeByte_pending hpending first
        have hlater : decodeFrom (decodeByte pending first).2 rest ≠ [] := fun hnil =>
          hrest ((decodeFrom_eq_nil_iff hnext rest).mp hnil).2
        rw [decodeFrom_cons, List.getLast?_append_of_ne_nil _ hlater] at hlast
        rw [List.getLast?_cons_of_ne_nil hrest]
        exact ih hnext hrest hlast

/-! ## Lenient reading -/

/-- The characters of a byte string, read leniently. -/
def lenientChars (bytes : Bytes) : List Char :=
  (decodeUtf8 bytes).map (·.getD '\uFFFD')

section

variable {b : UInt8} {bytes : Bytes} {c : Char}

@[simp]
theorem toList_lenientText (bytes : Bytes) : (lenientText bytes).toList = lenientChars bytes :=
  String.toList_ofList

theorem lenientChars_append (hb : b.toNat < 0x80) (before rest : Bytes) :
    lenientChars (before ++ b :: rest) =
      lenientChars before ++ Char.ofNat b.toNat :: lenientChars rest := by
  simp [lenientChars, decodeUtf8, decodeFrom_append pending_none hb]

theorem lenientChars_eq_nil_iff (bytes : Bytes) : lenientChars bytes = [] ↔ bytes = [] := by
  simp [lenientChars, decodeUtf8, decodeFrom_eq_nil_iff pending_none]

theorem mem_of_mem_lenientChars (hc : c ∈ lenientChars bytes) (hlow : c.toNat < 0x80) :
    ∃ b ∈ bytes, b.toNat = c.toNat := by
  obtain ⟨read, hread, rfl⟩ := List.mem_map.mp hc
  cases read with
  | none => exact absurd hlow (by decide)
  | some c => exact mem_of_mem_decodeFrom pending_none hread hlow

/-- The text ends in a character below `0x80` exactly if the bytes end in its byte. -/
theorem getLast?_lenientChars (hlow : b.toNat < 0x80) :
    (lenientChars bytes).getLast? = some (Char.ofNat b.toNat) ↔ bytes.getLast? = some b := by
  have hchar : (Char.ofNat b.toNat).toNat = b.toNat :=
    toNat_ofNat_of_isValidChar (.inl (by omega))
  constructor
  · intro hlast
    have hbytes : bytes ≠ [] := by
      intro hnone
      rw [hnone] at hlast
      cases hlast
    rw [lenientChars, List.getLast?_map, Option.map_eq_some_iff] at hlast
    obtain ⟨read, hread, hc⟩ := hlast
    cases read with
    | none =>
        have hreplacement : Char.toNat '\uFFFD' = b.toNat := (congrArg Char.toNat hc).trans hchar
        have hcode : Char.toNat '\uFFFD' = 0xFFFD := rfl
        omega
    | some c =>
        obtain rfl : c = Char.ofNat b.toNat := hc
        obtain ⟨last, hlast, hbyte⟩ :=
          getLast?_of_getLast?_decodeFrom pending_none hbytes hread (by rwa [hchar])
        rwa [UInt8.toNat_inj.mp (hbyte.trans hchar)] at hlast
  · intro hlast
    obtain ⟨before, hbytes⟩ := List.getLast?_eq_some_iff.mp hlast
    rw [hbytes, lenientChars_append hlow]
    exact List.getLast?_concat

end

/-! ## Writing and reading back -/

section

variable {b : UInt8} {v : Nat}

theorem decodeFrom_start {p : PendingChar} (hstart : startSequence b = ([], some p))
    (rest : Bytes) : decodeFrom none (b :: rest) = decodeFrom (some p) rest := by
  rw [decodeFrom_cons]
  change (startSequence b).1 ++ decodeFrom (startSequence b).2 rest = _
  rw [hstart]
  rfl

/-- A byte that carries the last six bits of a number is one that may follow. -/
theorem within_follow (v : Nat) :
    (0x80 : UInt8).toNat ≤ v % 64 + 128 ∧ v % 64 + 128 ≤ (0xBF : UInt8).toNat := by
  simp only [UInt8.reduceToNat]
  omega

theorem decodeFrom_follow {code missing : Nat} {low high : UInt8}
    (hwithin : low.toNat ≤ v % 64 + 128 ∧ v % 64 + 128 ≤ high.toNat) (rest : Bytes) :
    decodeFrom (some ⟨code, missing, low, high⟩) (UInt8.ofNat (v % 64 + 128) :: rest) =
      if missing ≤ 1 then some (Char.ofNat (code * 64 + v % 64)) :: decodeFrom none rest
      else decodeFrom (some ⟨code * 64 + v % 64, missing - 1, 0x80, 0xBF⟩) rest := by
  have hbyte : (UInt8.ofNat (v % 64 + 128)).toNat = v % 64 + 128 := by
    rw [UInt8.toNat_ofNat', Nat.mod_eq_of_lt (by omega)]
  have hbits : (v % 64 + 128) % 64 = v % 64 := by omega
  rw [decodeFrom_cons, decodeByte_continue, PendingChar.push, hbyte, hbits]
  · split
    · rfl
    · rfl
  · rw [UInt8.le_iff_toNat_le, hbyte]
    exact hwithin.1
  · rw [UInt8.le_iff_toNat_le, hbyte]
    exact hwithin.2

theorem decodeFrom_one (hv : v < 0x80) (rest : Bytes) :
    decodeFrom none (UInt8.ofNat v :: rest) = some (Char.ofNat v) :: decodeFrom none rest := by
  have hbyte : (UInt8.ofNat v).toNat = v :=
    UInt8.toNat_ofNat_of_lt' (hv.trans (by decide))
  have happend := decodeFrom_append (b := UInt8.ofNat v) pending_none (by rwa [hbyte]) [] rest
  rwa [hbyte] at happend

theorem decodeFrom_two (hlow : 0x80 ≤ v) (hhigh : v < 0x800) (rest : Bytes) :
    decodeFrom none (UInt8.ofNat (v / 64 % 32 + 192) :: UInt8.ofNat (v % 64 + 128) :: rest) =
      some (Char.ofNat v) :: decodeFrom none rest := by
  have hbyte : (UInt8.ofNat (v / 64 % 32 + 192)).toNat = v / 64 + 192 := by
    rw [UInt8.toNat_ofNat', Nat.mod_eq_of_lt (by omega)]
    omega
  have hcode : (v / 64 + 192 - 192) * 64 + v % 64 = v := by omega
  rw [decodeFrom_start (startSequence_of_two (by omega) (by omega)), hbyte,
    decodeFrom_follow (within_follow v), if_pos le_rfl, hcode]

theorem decodeFrom_three (hlow : 0x800 ≤ v) (hhigh : v < 0x10000) (hvalid : v.isValidChar)
    (rest : Bytes) :
    decodeFrom none (UInt8.ofNat (v / 4096 % 16 + 224) :: UInt8.ofNat (v / 64 % 64 + 128) ::
        UInt8.ofNat (v % 64 + 128) :: rest) =
      some (Char.ofNat v) :: decodeFrom none rest := by
  have hbyte : (UInt8.ofNat (v / 4096 % 16 + 224)).toNat = v / 4096 + 224 := by
    rw [UInt8.toNat_ofNat', Nat.mod_eq_of_lt (by omega)]
    omega
  have hcode : ((v / 4096 + 224 - 224) * 64 + v / 64 % 64) * 64 + v % 64 = v := by omega
  have hwithin :
      (if v / 4096 + 224 = 0xE0 then 0xA0 else 0x80 : UInt8).toNat ≤ v / 64 % 64 + 128 ∧
        v / 64 % 64 + 128 ≤ (if v / 4096 + 224 = 0xED then 0x9F else 0xBF : UInt8).toNat := by
    unfold Nat.isValidChar at hvalid
    constructor
    · split
      all_goals
        simp only [UInt8.reduceToNat]
        omega
    · split
      all_goals
        simp only [UInt8.reduceToNat]
        omega
  have hstart := startSequence_of_three (b := UInt8.ofNat (v / 4096 % 16 + 224))
    (by omega) (by omega)
  rw [decodeFrom_start hstart, hbyte, decodeFrom_follow hwithin, if_neg (by decide),
    decodeFrom_follow (within_follow v), if_pos le_rfl, hcode]

theorem decodeFrom_four (hlow : 0x10000 ≤ v) (hhigh : v < 0x110000) (rest : Bytes) :
    decodeFrom none (UInt8.ofNat (v / 262144 % 8 + 240) :: UInt8.ofNat (v / 4096 % 64 + 128) ::
        UInt8.ofNat (v / 64 % 64 + 128) :: UInt8.ofNat (v % 64 + 128) :: rest) =
      some (Char.ofNat v) :: decodeFrom none rest := by
  have hbyte : (UInt8.ofNat (v / 262144 % 8 + 240)).toNat = v / 262144 + 240 := by
    rw [UInt8.toNat_ofNat', Nat.mod_eq_of_lt (by omega)]
    omega
  have hcode : (((v / 262144 + 240 - 240) * 64 + v / 4096 % 64) * 64 + v / 64 % 64) * 64 +
      v % 64 = v := by omega
  have hwithin :
      (if v / 262144 + 240 = 0xF0 then 0x90 else 0x80 : UInt8).toNat ≤ v / 4096 % 64 + 128 ∧
        v / 4096 % 64 + 128 ≤ (if v / 262144 + 240 = 0xF4 then 0x8F else 0xBF : UInt8).toNat := by
    constructor
    · split
      all_goals
        simp only [UInt8.reduceToNat]
        omega
    · split
      all_goals
        simp only [UInt8.reduceToNat]
        omega
  have hstart := startSequence_of_four (b := UInt8.ofNat (v / 262144 % 8 + 240))
    (by omega) (by omega)
  rw [decodeFrom_start hstart, hbyte, decodeFrom_follow hwithin, if_neg (by decide),
    decodeFrom_follow (within_follow (v / 64)), if_neg (by decide),
    decodeFrom_follow (within_follow v), if_pos le_rfl, hcode]

/-- A character is read where its bytes are. -/
theorem decodeFrom_utf8EncodeChar (c : Char) (rest : Bytes) :
    decodeFrom none (String.utf8EncodeChar c ++ rest) = some c :: decodeFrom none rest := by
  have hvalid : c.toNat.isValidChar := c.valid
  have hchar : Char.ofNat c.toNat = c := Char.ofNat_toNat c
  unfold String.utf8EncodeChar
  simp only [Char.toNat_val]
  generalize c.toNat = v at *
  rw [← hchar]
  by_cases hone : v ≤ 0x7f
  · rw [if_pos hone]
    exact decodeFrom_one (by omega) rest
  rw [if_neg hone]
  by_cases htwo : v ≤ 0x7ff
  · rw [if_pos htwo]
    exact decodeFrom_two (by omega) (by omega) rest
  rw [if_neg htwo]
  by_cases hthree : v ≤ 0xffff
  · rw [if_pos hthree]
    exact decodeFrom_three (by omega) (by omega) hvalid rest
  · rw [if_neg hthree]
    unfold Nat.isValidChar at hvalid
    exact decodeFrom_four (by omega) (by omega) rest

theorem decodeUtf8_bytesOfChars (text : List Char) :
    decodeUtf8 (bytesOfChars text) = text.map some := by
  induction text with
  | nil => rfl
  | cons c text ih =>
      change decodeFrom none (String.utf8EncodeChar c ++ bytesOfChars text) = _
      rw [decodeFrom_utf8EncodeChar]
      exact congrArg (some c :: ·) ih

theorem textOfBytes?_eq_some_iff {bytes : Bytes} {text : String} :
    textOfBytes? bytes = some text ↔ decodeUtf8 bytes = text.toList.map some := by
  have hread (read : List (Option Char)) (chars : List Char) :
      read.mapM id = some chars ↔ read = chars.map some := by
    induction read generalizing chars with
    | nil =>
        cases chars with
        | nil => simp
        | cons c later => simp
    | cons first read ih =>
        cases first with
        | none =>
            cases chars with
            | nil => simp
            | cons c later => simp
        | some d =>
            cases chars with
            | nil => simp [Option.bind_eq_some_iff]
            | cons c later => simp [Option.bind_eq_some_iff, ih, and_comm]
  unfold textOfBytes?
  rw [Option.map_eq_some_iff]
  constructor
  · intro hdecoded
    obtain ⟨chars, hchars, htext⟩ := hdecoded
    rw [← htext, String.toList_ofList]
    exact (hread _ _).mp hchars
  · intro hchars
    exact ⟨text.toList, (hread _ _).mpr hchars, String.ofList_toList⟩

/-- What is written for a text is read back as that text. -/
theorem textOfBytes?_bytesOfText (text : String) : textOfBytes? (bytesOfText text) = some text :=
  textOfBytes?_eq_some_iff.mpr (decodeUtf8_bytesOfChars text.toList)

theorem bytesOfText_inj {first second : String} :
    bytesOfText first = bytesOfText second ↔ first = second := by
  refine ⟨fun hbytes => ?_, congrArg bytesOfText⟩
  have htext := textOfBytes?_bytesOfText first
  rw [hbytes, textOfBytes?_bytesOfText] at htext
  exact (Option.some.inj htext).symm

/-- Bytes that are the bytes of a text are read leniently as that text too. -/
theorem lenientText_of_textOfBytes? {bytes : Bytes} {text : String}
    (htext : textOfBytes? bytes = some text) : lenientText bytes = text := by
  simp [lenientText, textOfBytes?_eq_some_iff.mp htext, Function.comp_def]

end

end Conformance
