import Trigger.Proofs.Printing.Basic

/-!
# Tokens of printed texts

A lexeme reads back if its text, followed by a blank or by nothing, is read as this one lexeme. The
lexemes that are printed do so, hence lexemes with single blanks between them are read one by one.
-/

namespace Trigger.Lexeme

/-- Nothing or a blank comes next. -/
def Separated : List Char → Prop
  | [] => True
  | c :: _ => c = ' '

/-- The text of a lexeme is read as this one lexeme if it stands apart from what follows. -/
def ReadsBack (x : Lexeme) : Prop :=
  ∃ c cs, x.written = c :: cs ∧ Text.isSpace c = false ∧
    ∀ rest, Separated rest → readAt c (cs ++ rest) = .ok ([x], cs.length)

/-- What stands apart starts with a blank, if with anything. -/
theorem Separated.eq_blank {rest : List Char} (h : Separated rest) : ∀ c ∈ rest.head?, c = ' ' := by
  cases rest with
  | nil => exact fun c hc => nomatch hc
  | cons d rest =>
    intro c hc
    exact (Option.some.inj hc).symm.trans h

/-- A property of characters ends where the next character does not have it. -/
theorem takeWhile_append_of_head {p : Char → Bool} {cs rest : List Char}
    (h : ∀ c ∈ cs, p c = true) (hrest : ∀ c ∈ rest.head?, p c = false) :
    (cs ++ rest).takeWhile p = cs ∧ (cs ++ rest).dropWhile p = rest := by
  have hstop : rest.takeWhile p = [] ∧ rest.dropWhile p = rest := by
    cases rest with
    | nil => exact ⟨rfl, rfl⟩
    | cons c rest => simp [hrest c rfl]
  rw [List.takeWhile_append_of_pos h, List.dropWhile_append_of_pos h, hstop.1, hstop.2,
    List.append_nil]
  exact ⟨rfl, rfl⟩

/-! ## Characters of words and numbers -/

/-- The codes of the digits. -/
theorem isDigit_iff {c : Char} : isDigit c = true ↔ 48 ≤ c.toNat ∧ c.toNat ≤ 57 := by
  simp [isDigit, Char.le_def, UInt32.le_iff_toNat_le]

/-- The codes of the characters that a name can start with. -/
theorem startsName_iff {c : Char} :
    startsName c = true ↔ c = '_' ∨ c = '$' ∨ (97 ≤ c.toNat ∧ c.toNat ≤ 122) ∨
      (65 ≤ c.toNat ∧ c.toNat ≤ 90) := by
  simp [startsName, Char.le_def, UInt32.le_iff_toNat_le, or_assoc]

/-- A name starts with no digit. -/
theorem isDigit_eq_false_of_startsName {c : Char} (h : startsName c = true) :
    isDigit c = false := by
  rw [← Bool.not_eq_true, isDigit_iff]
  rcases startsName_iff.mp h with rfl | rfl | h | h
  · decide
  · decide
  all_goals omega

/-- A character that a name can start with is one that it can go on with. -/
theorem continuesName_of_startsName {c : Char} (h : startsName c = true) :
    continuesName c = true := by
  rw [continuesName, h, Bool.true_or]

/-- A digit is a character that a name can go on with. -/
theorem continuesName_of_isDigit {c : Char} (h : isDigit c = true) : continuesName c = true := by
  rw [continuesName, h, Bool.or_true]

/-- A character of a word is different from every other character. -/
theorem ne_of_continuesName {c d : Char} (h : continuesName c = true)
    (hd : continuesName d = false) : c ≠ d := by
  intro heq
  rw [heq, hd] at h
  cases h

/-- No long operator starts with a character of a word. -/
theorem longOperator?_eq_none {c : Char} {rest : List Char} (h : continuesName c = true) :
    longOperator? (c :: rest) = none := by
  unfold longOperator?
  split
  case h_10 => rfl
  all_goals
    rename_i heq
    obtain ⟨rfl, -⟩ := List.cons.inj heq
    exact absurd h (by decide)

/-- A character of a word is no lexeme by itself. -/
theorem ofChar?_eq_none {c : Char} (h : continuesName c = true) : ofChar? c = none := by
  unfold ofChar?
  split
  case h_17 => rfl
  all_goals exact absurd h (by decide)

/-- A character of a word is no white space. -/
theorem isSpace_eq_false {c : Char} (h : continuesName c = true) : Text.isSpace c = false := by
  have hcode : 36 = c.toNat ∨ 48 ≤ c.toNat ∧ c.toNat ≤ 122 := by
    rw [continuesName, Bool.or_eq_true, startsName_iff, isDigit_iff] at h
    rcases h with (rfl | rfl | h | h) | h
    · exact .inr (by decide)
    · exact .inl rfl
    all_goals exact .inr (by omega)
  simp only [Text.isSpace, Text.spaceRanges, Text.inRanges]
  rcases hcode with h | h <;> simp <;> omega

/-! ## Words and numbers -/

/-- A word that the next character does not go on with is read as what it stands for. -/
theorem readAt_word {c : Char} {cs rest : List Char} (hc : startsName c = true)
    (hcs : ∀ d ∈ cs, continuesName d = true) (hrest : ∀ d ∈ rest.head?, continuesName d = false) :
    readAt c (cs ++ rest) = .ok ([ofWord (String.ofList (c :: cs))], cs.length) := by
  have hword : continuesName c = true := continuesName_of_startsName hc
  have hnumber : startsNumber c (cs ++ rest) = false := by
    have hpoint : c ≠ '.' := ne_of_continuesName hword (by decide)
    simp [startsNumber, isDigit_eq_false_of_startsName hc, hpoint]
  have hquote : ¬ (c = '\'' ∨ c = '"') := by
    intro hquote
    obtain rfl | rfl := hquote <;> exact absurd hc (by decide)
  rw [readAt, if_neg (ne_of_continuesName hword (by decide))]
  simp only [longOperator?_eq_none hword, hnumber, ofChar?_eq_none hword, if_neg hquote, hc,
    (takeWhile_append_of_head hcs hrest).1, if_true, Bool.false_eq_true, if_false]

/-- A lexeme that a word stands for and that is written as the word reads back. -/
theorem readsBack_of_ofWord {x : Lexeme} {c : Char} {cs : List Char}
    (hx : ofWord (String.ofList (c :: cs)) = x) (hwritten : x.written = c :: cs)
    (hc : startsName c = true) (hcs : cs.all continuesName = true) : ReadsBack x := by
  refine ⟨c, cs, hwritten, isSpace_eq_false (continuesName_of_startsName hc), ?_⟩
  intro rest hrest
  have hstop : ∀ d ∈ rest.head?, continuesName d = false := by
    intro d hd
    rw [hrest.eq_blank d hd]
    decide
  rw [readAt_word hc (List.all_eq_true.mp hcs) hstop, hx]

/-- The value of a digit is the distance of its code from that of zero. -/
theorem digitValue?_of_isDigit {c : Char} (h : isDigit c = true) :
    Text.digitValue? c = some (c.toNat - '0'.toNat) := by
  obtain ⟨hlow, hhigh⟩ := isDigit_iff.mp h
  rw [Text.digitValue?, Text.digitRanges, Text.digitValueIn, if_neg (by omega), if_pos hhigh,
    Nat.mod_eq_of_lt (by omega)]
  rfl

/-- A row of digits stands for the same number whatever the script. -/
theorem ofDigits_eq_ofDigitChars {cs : List Char} (h : ∀ c ∈ cs, isDigit c = true) :
    Decimal.ofDigits cs = Nat.ofDigitChars 10 cs 0 := by
  have hfold (n : Nat) : cs.foldl (fun n c => 10 * n + (Text.digitValue? c).getD 0) n =
      Nat.ofDigitChars 10 cs n := by
    induction cs generalizing n with
    | nil => rfl
    | cons c cs ih =>
      rw [List.foldl_cons, Nat.ofDigitChars_cons, digitValue?_of_isDigit (h c (by simp))]
      exact ih (fun d hd => h d (by simp [hd])) _
  exact hfold 0

/-- A natural number is written with digits. -/
theorem isDigit_toDigits (n : Nat) : ∀ d ∈ Nat.toDigits 10 n, isDigit d = true := by
  intro d hd
  have hd' : d.isDigit = true := Nat.isDigit_of_mem_toDigits (by decide) (by decide) hd
  rw [Char.isDigit, Bool.and_eq_true, decide_eq_true_eq, decide_eq_true_eq] at hd'
  exact isDigit_iff.mpr hd'

/-- The digits of a natural number stand for it. -/
theorem ofDigits_toDigits (n : Nat) : Decimal.ofDigits (Nat.toDigits 10 n) = n := by
  rw [ofDigits_eq_ofDigitChars (isDigit_toDigits n), Nat.ofDigitChars_ten_toDigits]

/-- A natural number reads back. -/
theorem readsBack_int (n : Nat) : ReadsBack (.constant (.int n)) := by
  have hdigits := isDigit_toDigits n
  have hvalue := ofDigits_toDigits n
  obtain ⟨c, cs, hcs⟩ := List.exists_cons_of_ne_nil (Nat.toDigits_ne_nil (n := n) (b := 10))
  rw [hcs] at hdigits hvalue
  have hc : isDigit c = true := hdigits c (by simp)
  have hword : continuesName c = true := continuesName_of_isDigit hc
  refine ⟨c, cs, hcs, isSpace_eq_false hword, fun rest hrest => ?_⟩
  have hstop : ∀ d ∈ rest.head?, isDigit d = false := by
    intro d hd
    rw [hrest.eq_blank d hd]
    decide
  have hsplit := takeWhile_append_of_head hdigits hstop
  have hnumber : readNumber (c :: (cs ++ rest)) = (.int n, cs.length + 1) := by
    have hpoint (d : Char) (rest' : List Char) : rest ≠ '.' :: d :: rest' := by
      intro heq
      subst heq
      exact absurd hrest (show '.' ≠ ' ' by decide)
    rw [readNumber, ← List.cons_append, hsplit.1, hsplit.2, hvalue]
    split
    · exact absurd rfl (hpoint _ _)
    · rfl
  have hstart : startsNumber c (cs ++ rest) = true := by rw [startsNumber, hc, Bool.true_or]
  rw [readAt, if_neg (ne_of_continuesName hword (by decide))]
  simp only [longOperator?_eq_none hword, hstart, if_true, hnumber, Nat.add_sub_cancel]

/-! ## Strings -/

/-- A closing quote ends a string. -/
theorem readString_quote (rest : List Char) : readString '"' ('"' :: rest) = some ([], 1) := by
  rw [readString.eq_def]
  rfl

/-- A character that is neither a quote nor a backslash stands for itself. -/
theorem readString_plain {c : Char} (hquote : c ≠ '"') (hbackslash : c ≠ '\\')
    (rest : List Char) : readString '"' (c :: rest) =
      (readString '"' rest).map fun (s, n) => (c :: s, n + 1) := by
  rw [readString.eq_def]
  simp only [if_neg hbackslash, if_neg hquote]

/-- An escaped string is read up to its closing quote. -/
theorem readString_escaped (s rest : List Char) :
    readString '"' (s.flatMap escaped ++ '"' :: rest) =
      some (s, (s.flatMap escaped).length + 1) := by
  induction s with
  | nil => exact readString_quote rest
  | cons c s ih =>
    rw [List.flatMap_cons, List.append_assoc, escaped]
    by_cases hc : c = '"' ∨ c = '\\'
    · have hunescape : unescape c = c := by rcases hc with rfl | rfl <;> rfl
      rw [if_pos hc, List.cons_append, List.cons_append, List.nil_append, readString, if_pos rfl,
        ih]
      simp only [Option.map_some, hunescape, List.cons_append, List.nil_append, List.length_cons]
    · obtain ⟨hquote, hbackslash⟩ := not_or.mp hc
      rw [if_neg hc, List.cons_append, List.nil_append, readString_plain hquote hbackslash, ih]
      simp only [Option.map_some, List.cons_append, List.nil_append, List.length_cons]

/-- A string reads back. -/
theorem readsBack_str (s : String) : ReadsBack (.constant (.str s)) := by
  refine ⟨'"', s.toList.flatMap escaped ++ ['"'], rfl, by decide, fun rest _ => ?_⟩
  have hstart {more read : List Char} {n : Nat} (h : readString '"' more = some (read, n)) :
      readAt '"' more = .ok ([.constant (.str (String.ofList read))], n) := by
    have hlong : longOperator? ('"' :: more) = none := rfl
    have hnumber : startsNumber '"' more = false := rfl
    have hchar : ofChar? '"' = none := rfl
    rw [readAt, if_neg (by decide)]
    simp only [hlong, hnumber, hchar, h, Bool.false_eq_true, if_false, if_pos, or_true]
  rw [List.append_assoc, List.cons_append, List.nil_append, hstart (readString_escaped _ _)]
  simp only [String.ofList_toList, List.length_append, List.length_cons, List.length_nil]

/-! ## Operators, brackets and marks -/

/-- A lexeme whose text is read as it whatever stands apart from it reads back. -/
theorem readsBack_of_fixed {x : Lexeme} {c : Char} {cs : List Char} (hwritten : x.written = c :: cs)
    (hspace : Text.isSpace c = false) (hend : readAt c cs = .ok ([x], cs.length))
    (hblank : ∀ rest, readAt c (cs ++ ' ' :: rest) = .ok ([x], cs.length)) : ReadsBack x := by
  refine ⟨c, cs, hwritten, hspace, fun rest hrest => ?_⟩
  cases rest with
  | nil => rw [List.append_nil, hend]
  | cons d rest =>
    obtain rfl : d = ' ' := hrest
    exact hblank rest

/-- An operator reads back. -/
theorem readsBack_operator {op : BinaryOperator} (hop : ∀ s, op ≠ .other s) :
    ReadsBack (.operator op) := by
  cases op with
  | other s => exact absurd rfl (hop s)
  | _ => exact readsBack_of_fixed rfl rfl rfl fun _ => rfl

/-- The lexemes that have a text of their own, apart from constants and words. -/
theorem readsBack_mark {x : Lexeme}
    (hx : x ∈ [.and, .or, .not, .openRound, .closeRound, .openSquare, .closeSquare, .dot, .comma,
      .colon, .doubleArrow]) : ReadsBack x := by
  simp only [List.mem_cons, List.not_mem_nil, or_false] at hx
  rcases hx with rfl | rfl | rfl | rfl | rfl | rfl | rfl | rfl | rfl | rfl | rfl <;>
    exact readsBack_of_fixed rfl rfl rfl fun _ => rfl

/-! ## Rows of lexemes -/

/-- A lexeme that stands apart is the first token of a text. -/
theorem readFrom_append {x : Lexeme} (h : ReadsBack x) {rest : List Char} (hrest : Separated rest)
    (position : Nat) : Token.readFrom position (x.written ++ rest) =
      (Token.readFrom (position + x.written.length) rest).map (⟨x, position⟩ :: ·) := by
  obtain ⟨c, cs, hwritten, hspace, hread⟩ := h
  rw [hwritten, List.cons_append, Token.readFrom, hspace, hread rest hrest]
  simp only [Bool.false_eq_true, if_false, List.drop_left, List.length_cons, List.map_cons,
    List.map_nil, List.cons_append, List.nil_append, Nat.add_assoc, Nat.add_comm 1]
  rfl

/-- A blank between tokens is dropped. -/
theorem readFrom_blank (rest : List Char) (position : Nat) :
    Token.readFrom position (' ' :: rest) = Token.readFrom (position + 1) rest := by
  rw [Token.readFrom, if_pos (by decide)]

/-- Lexemes that read back are read one by one. -/
theorem readFrom_spaced {xs : List Lexeme} (h : ∀ x ∈ xs, ReadsBack x) (position : Nat) :
    ∃ tokens, Token.readFrom position (spaced xs) = .ok tokens ∧
      tokens.map (·.lexeme) = xs := by
  induction xs generalizing position with
  | nil => exact ⟨[], by rw [spaced, List.map_nil, List.intercalate_nil, Token.readFrom], rfl⟩
  | cons x xs ih =>
    have hx : ReadsBack x := h x (by simp)
    have hxs : ∀ y ∈ xs, ReadsBack y := fun y hy => h y (by simp [hy])
    cases xs with
    | nil =>
      have hread := readFrom_append hx (show Separated [] from trivial) position
      rw [List.append_nil, Token.readFrom] at hread
      refine ⟨[⟨x, position⟩], ?_, rfl⟩
      rw [spaced, List.map_cons, List.map_nil, List.intercalate_singleton, hread]
      rfl
    | cons y ys =>
      obtain ⟨tokens, htokens, hlexemes⟩ := ih hxs (position + x.written.length + 1)
      refine ⟨⟨x, position⟩ :: tokens, ?_, by rw [List.map_cons, hlexemes]⟩
      rw [spaced, List.map_cons, List.map_cons, List.intercalate_cons_cons, List.append_assoc,
        List.cons_append, List.nil_append, ← List.map_cons, ← spaced,
        readFrom_append hx (show Separated (' ' :: _) from rfl), readFrom_blank, htokens]
      rfl

end Trigger.Lexeme
