import Trigger.Proofs.Decimal.Readback
import Trigger.Proofs.Json.Strings

/-!
# Numbers of JSON

A number is written as digits, with a fraction or a power of ten behind them unless it is an
integer. Where no character follows that a number can go on with, all of it is read, and nothing
more: as the same integer, or as the floating-point number that the digits stand for.
-/

namespace Trigger.Json

open Trigger.Decimal (Scaled Magnitude magnitude isNegative)

variable {ds rest whole fraction exponent : List Char} {negative : Bool}

/-- What comes behind a value: nothing, a comma or a closing bracket. -/
def Ends (rest : List Char) : Prop := ∀ c ∈ rest.head?, c = ',' ∨ c = ']' ∨ c = '\x7d'

/-- A row of digits that is not empty. -/
structure IsDigits (ds : List Char) : Prop where
  ne_nil : ds ≠ []
  isDigit : ∀ c ∈ ds, c.isDigit = true

/-- The three parts of a number without its sign. -/
structure IsNumeral (whole fraction exponent : List Char) : Prop where
  isDigits : IsDigits whole
  /-- A number does not start with a zero unless that is all before the point. -/
  eq_zero : whole.head? = some '0' → whole = ['0']
  fraction_cases : fraction = [] ∨ ∃ ds, IsDigits ds ∧ fraction = '.' :: ds
  exponent_cases :
    exponent = [] ∨ ∃ c ds, (c = '+' ∨ c = '-') ∧ IsDigits ds ∧ exponent = 'e' :: c :: ds

/-- A text behind an optional sign. -/
def signed (negative : Bool) (s : List Char) : List Char := if negative then '-' :: s else s

/-- What stands behind the text stands behind the whole. -/
theorem signed_append (negative : Bool) (s rest : List Char) :
    signed negative s ++ rest = signed negative (s ++ rest) := by
  cases negative <;> rfl

/-! ## Characters -/

/-- The codes of digits. -/
theorem isDigit_iff {c : Char} : c.isDigit = true ↔ 48 ≤ c.toNat ∧ c.toNat ≤ 57 := by
  rw [Char.isDigit, Bool.and_eq_true, decide_eq_true_eq, decide_eq_true_eq]
  rfl

/-- A digit is no other character. -/
theorem ne_of_isDigit {c d : Char} (hc : c.isDigit = true) (hd : d.isDigit = false) : c ≠ d := by
  rintro rfl
  rw [hc] at hd
  cases hd

/-- A digit is printable. -/
theorem printable_of_isDigit {c : Char} (hc : c.isDigit = true) : ' ' ≤ c ∧ c ≤ '~' := by
  have hcode := isDigit_iff.mp hc
  have hlow : ' '.toNat = 32 := rfl
  have hhigh : '~'.toNat = 126 := rfl
  rw [Char.le_def, Char.le_def, UInt32.le_iff_toNat_le, UInt32.le_iff_toNat_le]
  change ' '.toNat ≤ c.toNat ∧ c.toNat ≤ '~'.toNat
  omega

/-- A row of digits is printable. -/
theorem IsDigits.isLine (h : IsDigits ds) : IsLine ds :=
  fun c hc => printable_of_isDigit (h.isDigit c hc)

/-- A number is printable. -/
theorem IsNumeral.isLine (h : IsNumeral whole fraction exponent) :
    IsLine (signed negative (whole ++ fraction ++ exponent)) := by
  have hfraction : IsLine fraction := by
    rcases h.fraction_cases with rfl | ⟨ds, hds, rfl⟩
    · exact isLine_nil
    · exact isLine_cons.mpr ⟨by decide, hds.isLine⟩
  have hexponent : IsLine exponent := by
    rcases h.exponent_cases with rfl | ⟨c, ds, hc, hds, rfl⟩
    · exact isLine_nil
    · refine isLine_cons.mpr ⟨by decide, isLine_cons.mpr ⟨?_, hds.isLine⟩⟩
      rcases hc with rfl | rfl <;> decide
  have hall := isLine_append.mpr ⟨isLine_append.mpr ⟨h.isDigits.isLine, hfraction⟩, hexponent⟩
  cases negative with
  | false => exact hall
  | true => exact isLine_cons.mpr ⟨by decide, hall⟩

/-- The character behind a value is none that a number goes on with. -/
theorem Ends.head (h : Ends rest) :
    ∀ c ∈ rest.head?, c.isDigit = false ∧ c ≠ '.' ∧ c ≠ 'e' ∧ c ≠ 'E' := by
  intro c hc
  rcases h c hc with rfl | rfl | rfl <;> decide

/-! ## Reading the parts -/

/-- Digits are read up to a character that is none. -/
theorem digits?_append (h : IsDigits ds) (hrest : ∀ c ∈ rest.head?, c.isDigit = false) :
    digits? (ds ++ rest) = some (ds, rest) := by
  obtain ⟨htake, hdrop⟩ := Lexeme.takeWhile_append_of_head h.isDigit hrest
  rw [digits?, htake, hdrop, if_neg (by simpa using h.ne_nil)]

/-- The digits before the point are read up to a character that is no digit. -/
theorem IsNumeral.wholePart? (h : IsNumeral whole fraction exponent)
    (hrest : ∀ c ∈ rest.head?, c.isDigit = false) :
    wholePart? (whole ++ rest) = some (whole, rest) := by
  by_cases hzero : whole.head? = some '0'
  · rw [h.eq_zero hzero]
    rfl
  · obtain ⟨c, cs, rfl⟩ := List.exists_cons_of_ne_nil h.isDigits.ne_nil
    have hc : c ≠ '0' := fun heq => hzero (congrArg some heq)
    have hread := digits?_append h.isDigits hrest
    rw [List.cons_append] at hread ⊢
    rw [Json.wholePart?]
    · exact hread
    · rintro rest' heq
      exact absurd (List.cons.inj heq).1 hc

/-- A fraction is read up to a character that is neither a digit nor a point. -/
theorem IsNumeral.fractionPart (h : IsNumeral whole fraction exponent)
    (hrest : ∀ c ∈ rest.head?, c.isDigit = false ∧ c ≠ '.') :
    fractionPart (fraction ++ rest) = (fraction.drop 1, rest) := by
  rcases h.fraction_cases with rfl | ⟨ds, hds, rfl⟩
  · rw [List.nil_append, Json.fractionPart.eq_def]
    split
    · rename_i rest'
      exact absurd rfl (hrest '.' rfl).2
    · rfl
  · rw [List.cons_append, Json.fractionPart, digits?_append hds fun c hc => (hrest c hc).1]
    rfl

/-- A power of ten is read up to the end of the value. -/
theorem IsNumeral.exists_exponentPart (h : IsNumeral whole fraction exponent) :
    ∃ e : Option Int, e.isNone = exponent.isEmpty ∧
      ∀ rest, Ends rest → exponentPart (exponent ++ rest) = (e, rest) := by
  rcases h.exponent_cases with rfl | ⟨c, ds, hc, hds, rfl⟩
  · refine ⟨none, rfl, fun rest hrest => ?_⟩
    cases rest with
    | nil => rfl
    | cons c rest =>
      have hhead := hrest.head c rfl
      rw [List.nil_append, exponentPart, if_neg (by simp [hhead.2.2])]
  · refine ⟨some (if c = '-' then -(Decimal.ofDigits ds : Int) else Decimal.ofDigits ds), rfl,
      fun rest hrest => ?_⟩
    have hdigits := digits?_append hds fun c hc => (hrest.head c hc).1
    rw [List.cons_append, List.cons_append, exponentPart, if_pos (.inl rfl)]
    rcases hc with rfl | rfl <;> rw [Decimal.sign] <;> simp [hdigits]

/-- Neither a digit nor a point stands behind the fraction. -/
theorem IsNumeral.head_exponent (h : IsNumeral whole fraction exponent) (hrest : Ends rest) :
    ∀ c ∈ (exponent ++ rest).head?, c.isDigit = false ∧ c ≠ '.' := by
  rcases h.exponent_cases with rfl | ⟨c, ds, -, -, rfl⟩
  · exact fun c hc => ⟨(hrest.head c hc).1, (hrest.head c hc).2.1⟩
  · rintro c hc
    obtain rfl := Option.some.inj hc
    decide

/-- No digit stands behind those before the point. -/
theorem IsNumeral.head_fraction (h : IsNumeral whole fraction exponent) (hrest : Ends rest) :
    ∀ c ∈ (fraction ++ (exponent ++ rest)).head?, c.isDigit = false := by
  rcases h.fraction_cases with rfl | ⟨ds, -, rfl⟩
  · exact fun c hc => (h.head_exponent hrest c hc).1
  · rintro c hc
    obtain rfl := Option.some.inj hc
    decide

/-- A fraction has digits behind its point. -/
theorem IsNumeral.isEmpty_drop (h : IsNumeral whole fraction exponent) :
    (fraction.drop 1).isEmpty = fraction.isEmpty := by
  rcases h.fraction_cases with rfl | ⟨ds, hds, rfl⟩
  · rfl
  · simpa using hds.ne_nil

/-! ## Reading numbers -/

/-- A number is read whole, as the integer that its digits stand for or as a floating-point one. -/
theorem IsNumeral.exists_read (h : IsNumeral whole fraction exponent) :
    ∃ x : Float, ∀ negative rest, Ends rest →
      readNumber? (signed negative (whole ++ (fraction ++ (exponent ++ rest)))) =
        if fraction.isEmpty && exponent.isEmpty then
          some (.int (if negative then -(Decimal.ofDigits whole : Int) else Decimal.ofDigits whole),
            rest)
        else some (.float (if negative then -x else x), rest) := by
  obtain ⟨e, hnone, hexponent⟩ := h.exists_exponentPart
  refine ⟨Decimal.ofParts whole (fraction.drop 1) (e.getD 0), fun negative rest hrest => ?_⟩
  have hwhole := h.wholePart? (h.head_fraction hrest)
  have hfraction := h.fractionPart (h.head_exponent hrest)
  cases negative with
  | true =>
    change readNumber? ('-' :: (whole ++ (fraction ++ (exponent ++ rest)))) = _
    unfold readNumber?
    simp only [hwhole, hfraction, hexponent rest hrest, h.isEmpty_drop, hnone,
      Option.bind_eq_bind, Option.bind_some, if_true, Option.pure_def]
  | false =>
    obtain ⟨c, cs, rfl⟩ := List.exists_cons_of_ne_nil h.isDigits.ne_nil
    have hc : c ≠ '-' := ne_of_isDigit (h.isDigits.isDigit c List.mem_cons_self) rfl
    change readNumber? (c :: cs ++ (fraction ++ (exponent ++ rest))) = _
    unfold readNumber?
    split
    rename_i heq
    split at heq
    · rename_i hminus
      exact absurd (List.cons.inj hminus).1 hc
    · cases heq
      simp only [hwhole, hfraction, hexponent rest hrest, h.isEmpty_drop, hnone,
        Option.bind_eq_bind, Option.bind_some, Bool.false_eq_true, if_false, Option.pure_def]

/-! ## Integers -/

/-- The digits of a natural number start with a zero only for zero. -/
theorem head?_toDigits {n : Nat} (hn : 0 < n) : (Nat.toDigits 10 n).head? ≠ some '0' := by
  induction n using Nat.strongRecOn with
  | ind n ih =>
    rw [Nat.toDigits_eq_if (by decide)]
    split
    · rename_i hdigit
      interval_cases n <;> decide
    · have hhead := ih (n / 10) (by omega) (by omega)
      have hne : Nat.toDigits 10 (n / 10) ≠ [] := Nat.toDigits_ne_nil
      obtain ⟨c, cs, hcs⟩ := List.exists_cons_of_ne_nil hne
      rw [hcs] at hhead ⊢
      exact hhead

/-- The digits of a natural number are a row of digits. -/
theorem isDigits_toDigits (n : Nat) : IsDigits (Nat.toDigits 10 n) :=
  ⟨Nat.toDigits_ne_nil, fun _ => Nat.isDigit_of_mem_toDigits (by decide) (by decide)⟩

/-- The digits of a natural number are a numeral. -/
theorem isNumeral_toDigits (n : Nat) : IsNumeral (Nat.toDigits 10 n) [] [] where
  isDigits := isDigits_toDigits n
  eq_zero hhead := by
    rcases Nat.eq_zero_or_pos n with rfl | hn
    · rfl
    · exact absurd hhead (head?_toDigits hn)
  fraction_cases := .inl rfl
  exponent_cases := .inl rfl

/-- An integer is written as the digits of its magnitude behind its sign. -/
theorem toString_eq_signed (i : Int) :
    (toString i).toList = signed (decide (i < 0)) (Nat.toDigits 10 i.natAbs) := by
  cases i with
  | ofNat n => exact Decimal.toList_ofNat n
  | negSucc n =>
    rw [Decimal.toList_negSucc, decide_eq_true (Int.negSucc_lt_zero n)]
    rfl

/-- An integer is read back. -/
theorem readNumber?_int (i : Int) (hrest : Ends rest) :
    readNumber? ((toString i).toList ++ rest) = some (.int i, rest) := by
  obtain ⟨x, hread⟩ := (isNumeral_toDigits i.natAbs).exists_read
  have hvalue := hread (decide (i < 0)) rest hrest
  simp only [List.isEmpty_nil, Bool.and_self, if_true, List.nil_append, Lexeme.ofDigits_toDigits,
    decide_eq_true_eq] at hvalue
  have hsign : (if i < 0 then -(i.natAbs : Int) else i.natAbs) = i := by split <;> omega
  rw [toString_eq_signed, signed_append, hvalue, hsign]

/-! ## Floating-point numbers -/

/-- A single zero. -/
theorem isDigits_zero : IsDigits ['0'] := ⟨by simp, by simp⟩

/-- Zeros are digits. -/
theorem isDigit_of_mem_zeros {k : Nat} {c : Char} (hc : c ∈ List.replicate k '0') :
    c.isDigit = true := by
  obtain rfl := (List.mem_replicate.mp hc).2
  rfl

/-- Digits behind a row of zeros. -/
theorem isDigits_zeros_append {k : Nat} (h : IsDigits ds) :
    IsDigits (List.replicate k '0' ++ ds) := by
  refine ⟨fun hnil => h.ne_nil (List.append_eq_nil_iff.mp hnil).2, fun c hc => ?_⟩
  rcases List.mem_append.mp hc with hc | hc
  · exact isDigit_of_mem_zeros hc
  · exact h.isDigit c hc

/-- What is left of a row of digits. -/
theorem IsDigits.drop {n : Nat} (h : IsDigits ds) (hn : n < ds.length) : IsDigits (ds.drop n) := by
  refine ⟨fun hnil => ?_, fun c hc => h.isDigit c (List.mem_of_mem_drop hc)⟩
  exact absurd (List.drop_eq_nil_iff.mp hnil) (Nat.not_le_of_lt hn)

/-- A row of digits that does not start with a zero. -/
structure IsLeading (ds : List Char) : Prop extends IsDigits ds where
  head?_ne : ds.head? ≠ some '0'

namespace IsLeading

/-- What such a row of digits starts with. -/
theorem take {n : Nat} (h : IsLeading ds) (hn : 0 < n) : IsLeading (ds.take n) := by
  have hhead : (ds.take n).head? = ds.head? := by rw [List.head?_take, if_neg (Nat.ne_of_gt hn)]
  refine ⟨⟨fun hnil => ?_, fun c hc => h.isDigit c (List.mem_of_mem_take hc)⟩, hhead ▸ h.head?_ne⟩
  exact (List.take_eq_nil_iff.mp hnil).elim (Nat.ne_of_gt hn) h.ne_nil

/-- Such a row of digits in front of a row of zeros. -/
theorem append_zeros (h : IsLeading ds) (k : Nat) : IsLeading (ds ++ List.replicate k '0') := by
  have hhead : (ds ++ List.replicate k '0').head? = ds.head? :=
    List.head?_append_of_ne_nil _ h.ne_nil
  refine ⟨⟨fun hnil => h.ne_nil (List.append_eq_nil_iff.mp hnil).1, fun c hc => ?_⟩,
    hhead ▸ h.head?_ne⟩
  rcases List.mem_append.mp hc with hc | hc
  · exact h.isDigit c hc
  · exact isDigit_of_mem_zeros hc

/-- Such a row of digits before a fraction. -/
theorem isNumeral_fraction (h : IsLeading whole) (hds : IsDigits ds) :
    IsNumeral whole ('.' :: ds) [] :=
  ⟨h.toIsDigits, fun hzero => absurd hzero h.head?_ne, .inr ⟨ds, hds, rfl⟩, .inl rfl⟩

/-- The first digit of such a row, the others as a fraction, and a power of ten. -/
theorem isNumeral_power {c : Char} {cs : List Char} (h : IsLeading ds) (hc : c = '+' ∨ c = '-')
    (hcs : IsDigits cs) :
    IsNumeral (ds.take 1) (if ds.length = 1 then [] else '.' :: ds.drop 1) ('e' :: c :: cs) := by
  have hfirst := h.take (n := 1) (by decide)
  refine ⟨hfirst.toIsDigits, fun hzero => absurd hzero hfirst.head?_ne, ?_,
    .inr ⟨c, cs, hc, hcs, rfl⟩⟩
  have hpositive : 0 < ds.length := List.length_pos_iff.mpr h.ne_nil
  split
  · exact .inl rfl
  · exact .inr ⟨_, h.toIsDigits.drop (by omega), rfl⟩

end IsLeading

/-- The text of a decimal other than zero is a numeral with a fraction or a power of ten. -/
theorem exists_isNumeral_text {d : Scaled} (hd : 0 < d.digits) :
    ∃ whole fraction exponent, d.text.toList = whole ++ fraction ++ exponent ∧
      IsNumeral whole fraction exponent ∧ (fraction.isEmpty && exponent.isEmpty) = false := by
  have hdigits : (toString d.digits).toList = Nat.toDigits 10 d.digits := String.toList_ofList
  obtain ⟨ds, hds⟩ : ∃ ds, ds = Nat.toDigits 10 d.digits := ⟨_, rfl⟩
  have hrow : IsLeading ds := hds ▸ ⟨isDigits_toDigits d.digits, head?_toDigits hd⟩
  obtain ⟨point, hpoint⟩ : ∃ p, p = (ds.length : Int) + d.exponent := ⟨_, rfl⟩
  rw [Scaled.text, hdigits, ← hds]
  dsimp only
  rw [← hpoint]
  split
  · split
    · -- All digits are behind the point.
      refine ⟨['0'], '.' :: (List.replicate (-point).toNat '0' ++ ds), [], ?_,
        ⟨isDigits_zero, fun _ => rfl, .inr ⟨_, isDigits_zeros_append hrow.toIsDigits, rfl⟩,
          .inl rfl⟩, rfl⟩
      rw [String.toList_ofList, List.append_nil]
      rfl
    split
    · -- All digits are before the point.
      refine ⟨_, ['.', '0'], [], ?_,
        (hrow.append_zeros (point.toNat - ds.length)).isNumeral_fraction isDigits_zero, rfl⟩
      rw [String.toList_ofList, List.append_nil]
    · -- The point stands between two digits.
      refine ⟨ds.take point.toNat, '.' :: ds.drop point.toNat, [], ?_,
        (hrow.take (by omega)).isNumeral_fraction (hrow.toIsDigits.drop (by omega)), rfl⟩
      rw [String.toList_ofList, List.append_nil]
  · -- One digit stands before the point, and a power of ten behind the digits.
    have htext : (toString (point - 1).natAbs).toList = Nat.toDigits 10 (point - 1).natAbs :=
      String.toList_ofList
    have hsign : (if point - 1 < 0 then '-' else '+') = '+' ∨
        (if point - 1 < 0 then '-' else '+') = '-' := by
      split
      · exact .inr rfl
      · exact .inl rfl
    have hpower := isDigits_zeros_append (isDigits_toDigits (point - 1).natAbs)
      (k := 2 - (Nat.toDigits 10 (point - 1).natAbs).length)
    refine ⟨_, _, _, ?_, hrow.isNumeral_power hsign hpower, ?_⟩
    · rw [String.toList_ofList, htext]
      simp only [List.append_assoc, List.cons_append]
    · simp

/-- The text of a finite number is a numeral with a fraction or a power of ten. -/
theorem exists_isNumeral_float {x : Float} (hnan : x.isNaN = false) (hinf : x.isInf = false) :
    ∃ whole fraction exponent,
      (Decimal.text x).toList = signed (isNegative x) (whole ++ fraction ++ exponent) ∧
      IsNumeral whole fraction exponent ∧ (fraction.isEmpty && exponent.isEmpty) = false := by
  have hsign : (Decimal.text x).toList = signed (isNegative x) (magnitude x).text.toList := by
    rw [Decimal.text, hnan, hinf, if_neg (by decide), if_neg (by decide), String.toList_append]
    cases isNegative x <;> rfl
  rw [hsign, Magnitude.text]
  split
  · exact ⟨['0'], ['.', '0'], [], rfl,
      ⟨isDigits_zero, fun _ => rfl, .inr ⟨_, isDigits_zero, rfl⟩, .inl rfl⟩, rfl⟩
  · rename_i hmantissa
    have habove := Decimal.isAbove_shortest hmantissa (Decimal.neg_lt_exponent_magnitude x)
    obtain ⟨whole, fraction, exponent, htext, hnumeral⟩ := exists_isNumeral_text habove.pos
    exact ⟨whole, fraction, exponent, congrArg _ htext, hnumeral⟩

/-! ## Numbers as values -/

/-- The number that is read where a floating-point number was written. -/
def reread (x : Float) : Float :=
  if x.isNaN then Decimal.nan
  else if x.isInf then if isNegative x then -Decimal.infinity else Decimal.infinity
  else
    match readNumber? (Decimal.text x).toList with
    | some (.float y, _) => y
    | _ => x

/-- A number is not taken for a word. -/
theorem IsNumeral.readWord? (h : IsNumeral whole fraction exponent) :
    readWord? (signed negative (whole ++ rest)) = none := by
  obtain ⟨c, cs, rfl⟩ := List.exists_cons_of_ne_nil h.isDigits.ne_nil
  have hc {d : Char} (hd : d.isDigit = false) : (d == c) = false :=
    beq_eq_false_iff_ne.mpr (ne_of_isDigit (h.isDigits.isDigit c List.mem_cons_self) hd).symm
  rw [Json.readWord?, List.findSome?_eq_none_iff]
  rintro ⟨word, v⟩ hmem
  have hword : word ∈ ["null", "true", "false", "NaN", "Infinity", "-Infinity"] :=
    List.mem_map_of_mem (f := Prod.fst) hmem
  have hprefix : word.toList.isPrefixOf (signed negative (c :: (cs ++ rest))) = false := by
    simp only [List.mem_cons, List.not_mem_nil, or_false] at hword
    cases negative with
    | false =>
      change word.toList.isPrefixOf (c :: (cs ++ rest)) = false
      rcases hword with rfl | rfl | rfl | rfl | rfl | rfl <;>
        exact congrArg (· && _) (hc rfl)
    | true =>
      rcases hword with rfl | rfl | rfl | rfl | rfl | rfl
      case inr.inr.inr.inr.inr => exact congrArg (· && _) (hc (d := 'I') rfl)
      all_goals rfl
  have hnone : after? word (signed negative (c :: cs ++ rest)) = none := by
    rw [after?, List.cons_append, hprefix, if_neg Bool.false_ne_true]
  exact congrArg (Option.map _) hnone

/-- An integer is read back as a value. -/
theorem read_int (i : Int) (hrest : Ends rest) :
    (readWord? ((toString i).toList ++ rest)).or (readNumber? ((toString i).toList ++ rest)) =
      some (.int i, rest) := by
  have hword : readWord? ((toString i).toList ++ rest) = none := by
    rw [toString_eq_signed, signed_append, (isNumeral_toDigits i.natAbs).readWord?]
  rw [hword, readNumber?_int i hrest]
  rfl

/-- A finite number is read as the same one whatever comes behind it. -/
theorem exists_readNumber? {x : Float} (hnan : x.isNaN = false) (hinf : x.isInf = false) :
    ∃ y, ∀ rest, Ends rest →
      readNumber? ((Decimal.text x).toList ++ rest) = some (.float y, rest) := by
  obtain ⟨whole, fraction, exponent, htext, hnumeral, hpoint⟩ := exists_isNumeral_float hnan hinf
  obtain ⟨y, hread⟩ := hnumeral.exists_read
  refine ⟨if isNegative x then -y else y, fun rest hrest => ?_⟩
  have hvalue := hread (isNegative x) rest hrest
  rw [hpoint, if_neg (by decide)] at hvalue
  rw [htext, signed_append, List.append_assoc, List.append_assoc, hvalue]

/-- A floating-point number is read back as a value. -/
theorem read_float (x : Float) (hrest : Ends rest) :
    (readWord? (writeFloat x ++ rest)).or (readNumber? (writeFloat x ++ rest)) =
      some (.float (reread x), rest) := by
  by_cases hnan : x.isNaN = true
  · rw [writeFloat, if_pos hnan, reread, if_pos hnan]
    rfl
  by_cases hinf : x.isInf = true
  · rw [writeFloat, if_neg hnan, if_pos hinf, reread, if_neg hnan, if_pos hinf]
    cases isNegative x <;> rfl
  rw [writeFloat, if_neg hnan, if_neg hinf, reread, if_neg hnan, if_neg hinf]
  rw [Bool.not_eq_true] at hnan hinf
  obtain ⟨whole, fraction, exponent, htext, hnumeral, -⟩ := exists_isNumeral_float hnan hinf
  have hword : readWord? ((Decimal.text x).toList ++ rest) = none := by
    rw [htext, signed_append, List.append_assoc, List.append_assoc, hnumeral.readWord?]
  obtain ⟨y, hy⟩ := exists_readNumber? hnan hinf
  have hself := hy [] (fun c hc => nomatch hc)
  rw [List.append_nil] at hself
  rw [hword, hy rest hrest, hself]
  rfl

/-- A floating-point number is written in printable characters. -/
theorem isLine_writeFloat (x : Float) : IsLine (writeFloat x) := by
  rw [writeFloat]
  split
  · simp [IsLine]
  split
  · split <;> simp [IsLine]
  rename_i hnan hinf
  obtain ⟨whole, fraction, exponent, htext, hnumeral, -⟩ :=
    exists_isNumeral_float (Bool.eq_false_iff.mpr hnan) (Bool.eq_false_iff.mpr hinf)
  exact htext ▸ hnumeral.isLine

/-- An integer is written in printable characters. -/
theorem isLine_int (i : Int) : IsLine (toString i).toList := by
  have hline : IsLine (signed (decide (i < 0)) (Nat.toDigits 10 i.natAbs ++ [] ++ [])) :=
    (isNumeral_toDigits i.natAbs).isLine
  rwa [List.append_nil, List.append_nil, ← toString_eq_signed] at hline

end Trigger.Json
