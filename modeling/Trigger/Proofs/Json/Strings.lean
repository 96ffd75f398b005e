import Trigger.Json.Reader
import Trigger.Json.Writer

/-!
# Strings of JSON

Whatever its characters are, a string is written on one line of printable ASCII, and what was
written is read back as the string. A character goes to one of three places: it stands for itself,
it has a letter or a unit of its own behind a backslash, or it is a pair of surrogates.
-/

namespace Trigger.Json

/-- All characters of a text are printable ones of ASCII, so it is one line. -/
def IsLine (s : List Char) : Prop := ∀ c ∈ s, ' ' ≤ c ∧ c ≤ '~'

section

variable {s t : List Char} {c : Char}

/-- The empty text is part of a line. -/
theorem isLine_nil : IsLine [] := fun _ h => absurd h List.not_mem_nil

/-- A text with one more character. -/
theorem isLine_cons : IsLine (c :: s) ↔ (' ' ≤ c ∧ c ≤ '~') ∧ IsLine s := List.forall_mem_cons

/-- Two texts behind each other. -/
theorem isLine_append : IsLine (s ++ t) ↔ IsLine s ∧ IsLine t := List.forall_mem_append

end

/-! ## Units of sixteen bits -/

/-- A hexadecimal digit is read back. -/
theorem hexValue?_hexDigit : ∀ d < 16, hexValue? (Text.hexDigit d) = some d := by decide

/-- A hexadecimal digit is printable. -/
theorem hexDigit_printable : ∀ d < 16, ' ' ≤ Text.hexDigit d ∧ Text.hexDigit d ≤ '~' := by decide

/-- The digits of a number are printable. -/
theorem isLine_hexDigits (width n : Nat) : IsLine (Text.hexDigits width n) := by
  induction width generalizing n with
  | zero => exact isLine_nil
  | succ width ih =>
    have hdigit := hexDigit_printable (n % 16) (Nat.mod_lt n (by decide))
    exact isLine_append.mpr ⟨ih (n / 16), isLine_cons.mpr ⟨hdigit, isLine_nil⟩⟩

/-- The escape for a unit is printable. -/
theorem isLine_escapeUnit (n : Nat) : IsLine (escapeUnit n) :=
  isLine_cons.mpr ⟨by decide, isLine_cons.mpr ⟨by decide, isLine_hexDigits 4 n⟩⟩

/-- The four digits of a unit are read back. -/
theorem readUnit?_hexDigits {n : Nat} (hn : n < 0x10000) (rest : List Char) :
    readUnit? (Text.hexDigits 4 n ++ rest) = some (n, rest) := by
  have hdigit (k : Nat) : hexValue? (Text.hexDigit (k % 16)) = some (k % 16) :=
    hexValue?_hexDigit _ (Nat.mod_lt k (by decide))
  have hsum :
      ((n / 16 / 16 / 16 % 16 * 16 + n / 16 / 16 % 16) * 16 + n / 16 % 16) * 16 + n % 16 = n := by
    omega
  change readUnit? (Text.hexDigit (n / 16 / 16 / 16 % 16) :: Text.hexDigit (n / 16 / 16 % 16) ::
    Text.hexDigit (n / 16 % 16) :: Text.hexDigit (n % 16) :: rest) = _
  simp only [readUnit?, hdigit, Option.bind_eq_bind, Option.bind_some, hsum, Option.pure_def]

/-- A character of the first plane is read back from its unit. -/
theorem readEscapedUnit?_char {c : Char} (hc : c.toNat < 0x10000) (rest : List Char) :
    readEscapedUnit? (Text.hexDigits 4 c.toNat ++ rest) = some (c, rest) := by
  have hvalid : c.toNat.isValidChar := c.valid
  have hnone : ¬ (0xD800 ≤ c.toNat ∧ c.toNat < 0xDC00) := by
    rcases hvalid with h | h <;> omega
  have hchar : charOfUnit c.toNat = c := by rw [charOfUnit, if_pos hvalid, Char.ofNat_toNat]
  rw [readEscapedUnit?, readUnit?_hexDigits hc]
  simp only [Option.bind_eq_bind, Option.bind_some, if_neg hnone, hchar, Option.pure_def]

/-- A character beyond the first plane is read back from its two units. -/
theorem readEscapedUnit?_pair {c : Char} (hc : 0x10000 ≤ c.toNat) (rest : List Char) :
    readEscapedUnit? (Text.hexDigits 4 (0xD800 + (c.toNat - 0x10000) / 0x400) ++
      '\\' :: 'u' :: (Text.hexDigits 4 (0xDC00 + (c.toNat - 0x10000) % 0x400) ++ rest)) =
      some (c, rest) := by
  have hlast : c.toNat < 0x110000 := by
    rcases c.valid with h | h
    · exact Nat.lt_trans h (by decide)
    · exact h.2
  obtain ⟨high, hhigh⟩ : ∃ n, n = 0xD800 + (c.toNat - 0x10000) / 0x400 := ⟨_, rfl⟩
  obtain ⟨low, hlow⟩ : ∃ n, n = 0xDC00 + (c.toNat - 0x10000) % 0x400 := ⟨_, rfl⟩
  have hsum : 0x10000 + (high - 0xD800) * 0x400 + (low - 0xDC00) = c.toNat := by omega
  rw [← hhigh, ← hlow, readEscapedUnit?, readUnit?_hexDigits (by omega)]
  simp only [Option.bind_eq_bind, Option.bind_some]
  rw [if_pos (by omega), readUnit?_hexDigits (by omega)]
  simp only [Option.bind_some]
  rw [if_pos (by omega), hsum, Char.ofNat_toNat]
  rfl

/-! ## Characters -/

/-- A character is written in printable ones. -/
theorem isLine_writeChar (c : Char) : IsLine (writeChar c) := by
  have hescape {d : Char} (hd : ' ' ≤ d ∧ d ≤ '~') : IsLine ['\\', d] :=
    isLine_cons.mpr ⟨by decide, isLine_cons.mpr ⟨hd, isLine_nil⟩⟩
  rw [writeChar]
  split
  · rename_i h
    rcases h with rfl | rfl <;> exact hescape (by decide)
  split
  · rename_i h
    exact isLine_cons.mpr ⟨h, isLine_nil⟩
  iterate 5
    split
    · exact hescape (by decide)
  split
  · exact isLine_escapeUnit _
  · exact isLine_append.mpr ⟨isLine_escapeUnit _, isLine_escapeUnit _⟩

/-- A letter behind a backslash is read as what it stands for. -/
theorem readString?_escape {e c : Char} (he : unescape? e = some c) (fuel : Nat)
    (rest : List Char) : readString? (fuel + 1) ('\\' :: e :: rest) =
      (readString? fuel rest).map fun r => (c :: r.1, r.2) := by
  have hunit : e ≠ 'u' := by
    rintro rfl
    cases he
  rw [readString?]
  · rw [he]
    cases readString? fuel rest <;> rfl
  · exact hunit

/-- A unit, or a pair of them, is read as the character that it stands for. -/
theorem readString?_unit {s rest : List Char} {c : Char}
    (h : readEscapedUnit? s = some (c, rest)) (fuel : Nat) :
    readString? (fuel + 1) ('\\' :: 'u' :: s) =
      (readString? fuel rest).map fun r => (c :: r.1, r.2) := by
  rw [readString?, h]
  cases hread : readString? fuel rest <;> simp [hread]

/-- A written character is read back, and the rest of the string after it. -/
theorem readString?_writeChar (c : Char) (fuel : Nat) (rest : List Char) :
    readString? (fuel + 1) (writeChar c ++ rest) =
      (readString? fuel rest).map fun r => (c :: r.1, r.2) := by
  rw [writeChar]
  split
  · rename_i h
    rcases h with rfl | rfl <;> exact readString?_escape rfl fuel rest
  rename_i hspecial
  rw [not_or] at hspecial
  split
  · rename_i h
    have hplain : ¬ c < ' ' := Char.not_lt.mpr h.1
    change readString? (fuel + 1) (c :: rest) = _
    rw [readString?]
    · rw [if_neg hplain]
      cases readString? fuel rest <;> rfl
    · exact hspecial.1
    · exact fun _ heq => absurd heq hspecial.2
    · exact fun _ _ heq => absurd heq hspecial.2
  iterate 5
    split
    · rename_i h
      subst h
      exact readString?_escape rfl fuel rest
  split
  · rename_i h
    exact readString?_unit (readEscapedUnit?_char h rest) fuel
  · rename_i h
    have hpair := readEscapedUnit?_pair (Nat.le_of_not_lt h) rest
    refine (congrArg _ ?_).trans (readString?_unit hpair fuel)
    simp [escapeUnit]

/-! ## Strings -/

/-- The characters of a string are written in printable ones. -/
theorem isLine_writeString (s : List Char) : IsLine (writeString s) := by
  have hinner : IsLine (s.flatMap writeChar) := by
    intro d hd
    obtain ⟨c, -, hc⟩ := List.mem_flatMap.mp hd
    exact isLine_writeChar c d hc
  exact isLine_cons.mpr ⟨by decide, isLine_append.mpr ⟨hinner,
    isLine_cons.mpr ⟨by decide, isLine_nil⟩⟩⟩

/-- A character takes up some room. -/
theorem writeChar_ne_nil (c : Char) : writeChar c ≠ [] := by
  fun_cases writeChar c <;> simp [escapeUnit]

/-- The text between the quotes is not shorter than the string. -/
theorem length_le_flatMap_writeChar (s : List Char) : s.length ≤ (s.flatMap writeChar).length := by
  induction s with
  | nil => exact Nat.le_refl 0
  | cons c s ih =>
    have hroom := List.length_pos_iff.mpr (writeChar_ne_nil c)
    rw [List.flatMap_cons, List.length_append, List.length_cons]
    omega

/-- What was written for a string is read back up to its closing quote. -/
theorem readString?_flatMap_writeChar (s rest : List Char) {fuel : Nat} (hfuel : s.length < fuel) :
    readString? fuel (s.flatMap writeChar ++ '"' :: rest) = some (s, rest) := by
  induction s generalizing fuel with
  | nil =>
    obtain ⟨fuel, rfl⟩ := Nat.exists_eq_succ_of_ne_zero (Nat.ne_of_gt hfuel)
    rfl
  | cons c s ih =>
    obtain ⟨fuel, rfl⟩ := Nat.exists_eq_succ_of_ne_zero (Nat.ne_of_gt (Nat.zero_lt_of_lt hfuel))
    rw [List.flatMap_cons, List.append_assoc, readString?_writeChar,
      ih (Nat.lt_of_succ_lt_succ hfuel)]
    rfl

end Trigger.Json
