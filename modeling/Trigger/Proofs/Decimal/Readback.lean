import Trigger.Proofs.Decimal.Numerals
import Trigger.Proofs.Decimal.Shortest
import Trigger.Proofs.Printing.Tokens

/-!
# Texts of numbers as positions

The text of an integer is read as the same position as the integer. So is the text of a
floating-point number, unless there is a point in it: it is the text of an integer, or it has one
digit and a power of ten and is outside as the number is, or it is no numeral at all.
-/

namespace Trigger.Decimal

open Float.Model
open Float.Model.UnpackedFloat
open Trigger.Lexeme (isDigit_toDigits ofDigits_toDigits)
open Trigger.Value (atNumber atPosition itemAt numberText)
open Trigger.Text (isDigit isSpace trim trimStart trimEnd)

variable {α : Type} {items : List α} {x : Float} {ds : List Char}

/-! ## Rows of digits -/

/-- The digits of ASCII are digits. -/
theorem isDigit_of_isDigit {c : Char} (h : Lexeme.isDigit c = true) : isDigit c = true := by
  obtain ⟨hlow, hhigh⟩ := Lexeme.isDigit_iff.mp h
  rw [isDigit, Text.digitRanges, Text.inRanges.eq_2, if_neg (by omega), Bool.or_eq_true]
  exact .inl (decide_eq_true hhigh)

/-- A natural number is read back, also behind zeros. -/
theorem ofDigits_zeros_toDigits (k n : Nat) :
    ofDigits (List.replicate k '0' ++ Nat.toDigits 10 n) = n := by
  have hzeros : ofDigits (List.replicate k '0') = 0 := by
    induction k with
    | zero => rfl
    | succ k ih => exact ih
  rw [ofDigits, List.foldl_append]
  change (Nat.toDigits 10 n).foldl _ (ofDigits (List.replicate k '0')) = n
  rw [hzeros]
  exact ofDigits_toDigits n

/-- The characters that integers and powers of ten are written with. -/
def isNumeral (c : Char) : Bool := Lexeme.isDigit c || c == 'e' || c == '+' || c == '-'

/-- The digits of a natural number are such characters. -/
theorem isNumeral_toDigits (n : Nat) : ∀ c ∈ Nat.toDigits 10 n, isNumeral c = true := by
  intro c hc
  simp [isNumeral, isDigit_toDigits n c hc]

/-- A text of such characters is not trimmed. -/
theorem trim_of_isNumeral {s : List Char} (h : ∀ c ∈ s, isNumeral c = true) : trim s = s := by
  have hspace {c : Char} (hc : isNumeral c = true) : isSpace c = false := by
    simp only [isNumeral, Bool.or_eq_true, beq_iff_eq] at hc
    rcases hc with ((hc | rfl) | rfl) | rfl
    · exact Lexeme.isSpace_eq_false (Lexeme.continuesName_of_isDigit hc)
    all_goals decide
  have hstart {s : List Char} (h : ∀ c ∈ s, isNumeral c = true) : s.dropWhile isSpace = s := by
    cases s with
    | nil => rfl
    | cons c s => exact List.dropWhile_cons_of_neg (by simp [hspace (h c (by simp))])
  rw [trim, trimStart, hstart h, trimEnd, hstart (fun c hc => h c (List.mem_reverse.mp hc)),
    List.reverse_reverse]

/-- A row of digits, with a sign and an exponent, is read as the number that it stands for. -/
theorem ofText?_digits (hne : ds ≠ []) (hds : ∀ c ∈ ds, Lexeme.isDigit c = true) {rest : List Char}
    (hrest : rest = [] ∨ ∃ r, rest = 'e' :: r) :
    ofText? (ds ++ rest) = (exponentPart? rest).map (ofParts ds []) ∧
      ofText? ('-' :: (ds ++ rest)) = (exponentPart? rest).map fun e => -ofParts ds [] e := by
  have hstop : rest.takeWhile isDigit = [] ∧ rest.dropWhile isDigit = rest := by
    rcases hrest with rfl | ⟨r, rfl⟩ <;> exact ⟨rfl, rfl⟩
  have hdigits : ∀ c ∈ ds, isDigit c = true := fun c hc => isDigit_of_isDigit (hds c hc)
  have hwhole : (ds ++ rest).takeWhile isDigit = ds := by
    rw [List.takeWhile_append_of_pos hdigits, hstop.1, List.append_nil]
  have hafter : (ds ++ rest).dropWhile isDigit = rest := by
    rw [List.dropWhile_append_of_pos hdigits, hstop.2]
  have hsign : sign (ds ++ rest) = (false, ds ++ rest) := by
    obtain ⟨c, cs, rfl⟩ := List.exists_cons_of_ne_nil hne
    have hc : Lexeme.isDigit c = true := hds c (by simp)
    rw [List.cons_append, sign]
    · rintro rest' heq
      obtain ⟨rfl, -⟩ := List.cons.inj heq
      exact absurd hc (by decide)
    · rintro rest' heq
      obtain ⟨rfl, -⟩ := List.cons.inj heq
      exact absurd hc (by decide)
  have hsome {f : Int → Float} : (if ds = [] ∧ ([] : List Char) = [] then none
      else (exponentPart? rest).map f) = (exponentPart? rest).map f := if_neg fun h => hne h.1
  constructor
  · rw [ofText?, hsign]
    dsimp only
    rw [hwhole, hafter]
    rcases hrest with rfl | ⟨r, rfl⟩ <;> exact hsome
  · rw [ofText?, sign]
    dsimp only
    rw [hwhole, hafter]
    rcases hrest with rfl | ⟨r, rfl⟩ <;> exact hsome

/-- A row of digits without a fraction. -/
theorem ofParts_toDigits (n : Nat) (e : Int) : ofParts (Nat.toDigits 10 n) [] e = ofDecimal n e := by
  rw [ofParts, List.append_nil, ofDigits_toDigits, List.length_nil, Int.natCast_zero, Int.sub_zero]

/-- The digits of a natural number, with or without a sign, are read as that number. -/
theorem ofText?_toDigits (n : Nat) : ofText? (Nat.toDigits 10 n) = some (ofDecimal n 0) ∧
    ofText? ('-' :: Nat.toDigits 10 n) = some (-ofDecimal n 0) := by
  have hread := ofText?_digits Nat.toDigits_ne_nil (isDigit_toDigits n) (.inl rfl)
  rw [List.append_nil, exponentPart?, Option.map_some, Option.map_some, ofParts_toDigits] at hread
  exact hread

/-! ## Integers -/

/-- The text of a natural number. -/
theorem toList_ofNat (n : Nat) : (toString (Int.ofNat n)).toList = Nat.toDigits 10 n :=
  String.toList_ofList

/-- The text of a negative integer. -/
theorem toList_negSucc (n : Nat) :
    (toString (Int.negSucc n)).toList = '-' :: Nat.toDigits 10 (n + 1) := by
  change ("-" ++ String.ofList (Nat.toDigits 10 (n + 1))).toList = _
  rw [String.toList_append, String.toList_ofList, String.toList_ofList]
  rfl

/-- The characters of an integer. -/
theorem isNumeral_toString (i : Int) : ∀ c ∈ (toString i).toList, isNumeral c = true := by
  cases i with
  | ofNat n =>
    rw [toList_ofNat]
    exact isNumeral_toDigits n
  | negSucc n =>
    rw [toList_negSucc, List.forall_mem_cons]
    exact ⟨by decide, isNumeral_toDigits (n + 1)⟩

/-- The text of an integer stands for the position that the integer does. -/
theorem itemAt_toString (i : Int) (hlength : items.length ≤ 2 ^ 53) :
    itemAt items (.str (toString i)) = .ok (atPosition items i) := by
  rw [itemAt, trim_of_isNumeral (isNumeral_toString i)]
  cases i with
  | ofNat n =>
    rw [toList_ofNat, (ofText?_toDigits n).1]
    exact congrArg Except.ok ((atNumber_ofDecimal n hlength).trans (atPosition_natCast items n).symm)
  | negSucc n =>
    rw [toList_negSucc, (ofText?_toDigits (n + 1)).2]
    exact congrArg Except.ok (atNumber_neg_ofDecimal (Nat.succ_pos n) hlength)

/-- In longer lists an odd position above `2 ^ 53` is not a floating-point number, and its text is
read as the position before it. -/
theorem itemAt_toString_beyond (items : List α) :
    itemAt items (.int 9007199254740993) = .ok items[9007199254740993]? ∧
      itemAt items (.str (toString (9007199254740993 : Int))) = .ok items[9007199254740992]? := by
  have hdigits : (toString (9007199254740993 : Int)).toList = Nat.toDigits 10 9007199254740993 :=
    toList_ofNat 9007199254740993
  obtain ⟨x, hx⟩ : ∃ x, x = ofDecimal 9007199254740993 0 := ⟨_, rfl⟩
  have hposition : (x.isFinite && isIntegral x) = true ∧ truncate x = 9007199254740992 := by
    rw [hx]
    decide +kernel
  refine ⟨congrArg Except.ok (atPosition_natCast items 9007199254740993), ?_⟩
  rw [itemAt, trim_of_isNumeral (isNumeral_toString _), hdigits,
    (ofText?_toDigits 9007199254740993).1, ← hx]
  change Except.ok (atNumber items x) = _
  rw [atNumber, if_pos hposition.1, hposition.2]
  exact congrArg Except.ok (atPosition_natCast items 9007199254740992)

/-! ## Floating-point numbers -/

/-- A decimal without a point in its text has one digit and a power of ten. -/
theorem toList_text {d : Scaled} (hpoint : '.' ∉ d.text.toList) :
    (d.digits < 10 ∧ (16 ≤ d.exponent ∨ d.exponent ≤ -5)) ∧
      ∃ k, d.text.toList = Nat.toDigits 10 d.digits ++ 'e' :: (if d.exponent < 0 then '-' else '+') ::
        (List.replicate k '0' ++ Nat.toDigits 10 d.exponent.natAbs) := by
  have hdigits (n : Nat) : (toString n).toList = Nat.toDigits 10 n := String.toList_ofList
  obtain ⟨ds, hds⟩ : ∃ ds, ds = Nat.toDigits 10 d.digits := ⟨_, rfl⟩
  rw [Scaled.text, hdigits, ← hds] at hpoint ⊢
  dsimp only at hpoint ⊢
  rw [hdigits] at hpoint ⊢
  by_cases hnear : -4 < (ds.length : Int) + d.exponent ∧ (ds.length : Int) + d.exponent ≤ 16
  · rw [if_pos hnear] at hpoint
    refine absurd ?_ hpoint
    split
    · simp
    · split <;> simp
  rw [if_neg hnear, String.toList_ofList] at hpoint ⊢
  by_cases hone : ds.length = 1
  · have hfew : d.digits < 10 ^ 1 :=
      (Nat.length_toDigits_le_iff (by decide) (by decide)).mp (hds ▸ Nat.le_of_eq hone)
    have hpower : (ds.length : Int) + d.exponent - 1 = d.exponent := by omega
    rw [hpower, if_pos hone, List.append_nil, List.take_of_length_le (Nat.le_of_eq hone)]
    exact ⟨⟨hfew, by omega⟩, 2 - (Nat.toDigits 10 d.exponent.natAbs).length, by simp⟩
  · rw [if_neg hone] at hpoint
    exact absurd (by simp) hpoint

/-- An exponent is read back. -/
theorem exponentPart?_toDigits (e : Int) (k : Nat) :
    exponentPart? ('e' :: (if e < 0 then '-' else '+') ::
      (List.replicate k '0' ++ Nat.toDigits 10 e.natAbs)) = some e := by
  obtain ⟨ds, hds⟩ : ∃ ds, ds = List.replicate k '0' ++ Nat.toDigits 10 e.natAbs := ⟨_, rfl⟩
  have hvalue : ofDigits ds = e.natAbs := hds ▸ ofDigits_zeros_toDigits k e.natAbs
  have hne : ds ≠ [] := by simp [hds]
  have hall : ds.all isDigit = true := by
    rw [List.all_eq_true, hds]
    intro c hc
    rcases List.mem_append.mp hc with hc | hc
    · obtain rfl := (List.mem_replicate.mp hc).2
      rfl
    · exact isDigit_of_isDigit (isDigit_toDigits _ c hc)
  rw [← hds, exponentPart?, if_pos (.inl rfl)]
  by_cases hneg : e < 0
  · rw [if_pos hneg, sign]
    dsimp only
    rw [if_pos ⟨hne, hall⟩, if_pos rfl, hvalue]
    congr 1
    omega
  · rw [if_neg hneg, sign]
    dsimp only
    rw [if_pos ⟨hne, hall⟩, if_neg (by decide), hvalue]
    congr 1
    omega

/-- A decimal without a point in its text is read as a number outside, unless it is too small. -/
theorem isOutside_ofDecimal_of_isAbove {d : Scaled} (h : d.IsAbove 1075) (hdigit : d.digits < 10)
    (hfar : 16 ≤ d.exponent ∨ d.exponent ≤ -5) :
    IsOutside (ofDecimal d.digits d.exponent).toModel.unpack := by
  rcases hfar with hgreat | hsmall
  · have hexponent : d.exponent = d.exponent.toNat := by omega
    have hpower : 53 ≤ (10 ^ d.exponent.toNat).log2 :=
      (Nat.le_log2 (Nat.ne_of_gt (Nat.pow_pos (by decide)))).mpr
        (Nat.le_trans (by decide : 2 ^ 53 ≤ 10 ^ 16) (Nat.pow_le_pow_right (by decide) (by omega)))
    rw [hexponent]
    exact isOutside_ofDecimal h.pos (by omega)
  · have hexponent : d.exponent = -((-d.exponent).toNat : Int) := by omega
    have hnone : d.exponent.toNat = 0 := by omega
    have hleast := h
    rw [Scaled.IsAbove, hnone, Nat.pow_zero, Nat.mul_one] at hleast
    rw [hexponent]
    exact isOutside_ofDecimal_neg h.pos hdigit (by omega) hleast

/-- The characters of a decimal without a point in its text. -/
theorem isNumeral_text {d : Scaled} (hpoint : '.' ∉ d.text.toList) :
    ∀ c ∈ d.text.toList, isNumeral c = true := by
  obtain ⟨-, k, htext⟩ := toList_text hpoint
  intro c hc
  rw [htext, List.mem_append, List.mem_cons, List.mem_cons, List.mem_append] at hc
  rcases hc with hc | rfl | rfl | hc | hc
  · exact isNumeral_toDigits _ c hc
  · decide
  · split <;> decide
  · obtain rfl := (List.mem_replicate.mp hc).2
    decide
  · exact isNumeral_toDigits _ c hc

/-- A decimal without a point in its text, with or without a sign, stands for no position. -/
theorem itemAt_text {d : Scaled} (h : d.IsAbove 1075) (hpoint : '.' ∉ d.text.toList)
    (hlength : items.length ≤ 2 ^ 53) :
    itemAt items (.str d.text) = .ok none ∧ itemAt items (.str ("-" ++ d.text)) = .ok none := by
  obtain ⟨⟨hdigit, hfar⟩, k, htext⟩ := toList_text hpoint
  have houtside := isOutside_ofDecimal_of_isAbove h hdigit hfar
  have hcharacters := isNumeral_text hpoint
  obtain ⟨rest, hrest⟩ : ∃ rest, rest = (if d.exponent < 0 then '-' else '+') ::
      (List.replicate k '0' ++ Nat.toDigits 10 d.exponent.natAbs) := ⟨_, rfl⟩
  have hexponent : exponentPart? ('e' :: rest) = some d.exponent :=
    hrest ▸ exponentPart?_toDigits d.exponent k
  have hread := ofText?_digits Nat.toDigits_ne_nil (isDigit_toDigits d.digits) (.inr ⟨rest, rfl⟩)
  rw [hexponent, hrest, ← htext] at hread
  have hminus : ("-" ++ d.text).toList = '-' :: d.text.toList := by
    rw [String.toList_append]
    rfl
  constructor
  · rw [itemAt, trim_of_isNumeral hcharacters, hread.1, Option.map_some, ofParts_toDigits]
    exact congrArg Except.ok (atNumber_of_isOutside houtside hlength)
  · rw [itemAt, hminus, trim_of_isNumeral (List.forall_mem_cons.mpr ⟨by decide, hcharacters⟩),
      hread.2, Option.map_some, ofParts_toDigits]
    exact congrArg Except.ok (atNumber_of_isOutside (unpack_neg _ ▸ houtside.neg) hlength)

/-- A number is finite if it is neither infinite nor not a number. -/
theorem isFinite_eq (x : Float) : x.isFinite = (!x.isNaN && !x.isInf) := by
  change x.toModel.unpack.isFinite = (!x.toModel.unpack.isNaN && !x.toModel.unpack.isInf)
  cases x.toModel.unpack <;> rfl

/-- The exponent of a number is not less than that of the least one. -/
theorem neg_lt_exponent_magnitude (x : Float) : -((1075 : Nat) : Int) < (magnitude x).exponent := by
  rw [magnitude]
  split
  · exact (by decide : -((1075 : Nat) : Int) < -1074)
  · dsimp only
    omega

/-- The text of a floating-point number without a point is a word, the text of an integer, or that
of a decimal above the least number, with or without a sign. -/
theorem numberText_cases (hpoint : '.' ∉ (numberText x).toList) :
    (x.isFinite = false ∧ numberText x ∈ ["NaN", "-Infinity", "Infinity"]) ∨
    ((x.isFinite = true ∧ isIntegral x = true) ∧ numberText x = toString (truncate x)) ∨
    ((isIntegral x && decide (x.abs < 1e21)) = false ∧ ∃ d : Scaled, d.IsAbove 1075 ∧
      '.' ∉ d.text.toList ∧ (numberText x = d.text ∨ numberText x = "-" ++ d.text)) := by
  by_cases hnan : x.isNaN = true
  · left
    rw [numberText, if_pos hnan, isFinite_eq, hnan]
    exact ⟨rfl, by simp⟩
  by_cases hinf : x.isInf = true
  · left
    rw [numberText, if_neg hnan, if_pos hinf, isFinite_eq, hinf, Bool.not_true, Bool.and_false]
    exact ⟨rfl, by split <;> simp⟩
  right
  rw [numberText, if_neg hnan, if_neg hinf] at hpoint ⊢
  by_cases hinteger : (isIntegral x && decide (x.abs < 1e21)) = true
  · left
    rw [if_pos hinteger, isFinite_eq, Bool.eq_false_iff.mpr hnan, Bool.eq_false_iff.mpr hinf]
    exact ⟨⟨rfl, (Bool.and_eq_true_iff.mp hinteger).1⟩, rfl⟩
  right
  rw [if_neg hinteger] at hpoint ⊢
  rw [text, if_neg hnan, if_neg hinf, Magnitude.text] at hpoint ⊢
  by_cases hzero : (magnitude x).mantissa = 0
  · rw [if_pos hzero, String.toList_append] at hpoint
    exact absurd (List.mem_append_right _ (by decide : '.' ∈ "0.0".toList)) hpoint
  rw [if_neg hzero] at hpoint ⊢
  rw [String.toList_append] at hpoint
  refine ⟨Bool.eq_false_iff.mpr hinteger, _, isAbove_shortest hzero (neg_lt_exponent_magnitude x),
    fun h => hpoint (List.mem_append_right _ h), ?_⟩
  split
  · exact .inr rfl
  · exact .inl String.empty_append

/-- The text of a floating-point number without a point stands for the position that the number
does. -/
theorem itemAt_numberText (hpoint : '.' ∉ (numberText x).toList) (hlength : items.length ≤ 2 ^ 53) :
    itemAt items (.str (numberText x)) = .ok (atNumber items x) := by
  rcases numberText_cases hpoint with ⟨hfinite, hword⟩ | ⟨⟨hfinite, hintegral⟩, htext⟩ |
    ⟨hfar, d, habove, hplain, htext⟩
  · rw [atNumber_of_not_finite hfinite]
    simp only [List.mem_cons, List.not_mem_nil, or_false] at hword
    rcases hword with hword | hword | hword <;> rw [hword] <;> rfl
  · rw [htext, itemAt_toString _ hlength, atNumber, hfinite, hintegral]
    rfl
  · have hnone : atNumber items x = none := by
      by_cases hintegral : isIntegral x = true
      · rw [hintegral, Bool.true_and, decide_eq_false_iff_not] at hfar
        exact atNumber_of_isOutside (isOutside_of_not_lt hfar) hlength
      · rw [atNumber, Bool.eq_false_iff.mpr hintegral, Bool.and_false, if_neg (by decide)]
    have hposition := itemAt_text habove hplain hlength
    rw [hnone]
    rcases htext with htext | htext <;> rw [htext]
    · exact hposition.1
    · exact hposition.2

/-- The text of a floating-point number without a point is one of three words, or made up of the
characters of integers and powers of ten. -/
theorem word_or_isNumeral (hpoint : '.' ∉ (numberText x).toList) :
    numberText x ∈ ["NaN", "-Infinity", "Infinity"] ∨
      ∀ c ∈ (numberText x).toList, isNumeral c = true := by
  rcases numberText_cases hpoint with ⟨-, hword⟩ | ⟨-, htext⟩ | ⟨-, d, -, hplain, htext⟩
  · exact .inl hword
  · exact .inr (htext ▸ isNumeral_toString _)
  · right
    rcases htext with htext | htext <;> rw [htext]
    · exact isNumeral_text hplain
    · intro c hc
      rw [String.toList_append, List.mem_append] at hc
      rcases hc with hc | hc
      · obtain rfl := List.mem_singleton.mp hc
        decide
      · exact isNumeral_text hplain c hc

end Trigger.Decimal
