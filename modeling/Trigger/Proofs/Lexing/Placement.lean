import Trigger.Proofs.Lexing.Row

/-!
# Places of tokens

The tokens of a text start at characters of it that are no white space, in ascending order. What was
read of a text is read in the same way if the text ends right behind it. Hence where a text has no
tokens, the part of it before the error has some.
-/

namespace Trigger

namespace Lexeme

variable {s rest : List Char}

/-! ## Texts that end earlier -/

/-- A row of characters with a property ends in a text if it is no longer than the text. -/
theorem takeWhile_append_of_le {p : Char → Bool}
    (h : ((s ++ rest).takeWhile p).length ≤ s.length) :
    (s ++ rest).takeWhile p = s.takeWhile p ∧
      (s ++ rest).dropWhile p = s.dropWhile p ++ rest := by
  induction s with
  | nil =>
    have hnil : rest.takeWhile p = [] := List.eq_nil_of_length_eq_zero (Nat.le_zero.mp h)
    refine ⟨hnil, ?_⟩
    have hsplit := List.takeWhile_append_dropWhile (p := p) (l := rest)
    rw [hnil] at hsplit
    exact hsplit
  | cons c s ih =>
    by_cases hc : p c = true
    · simp only [List.cons_append, List.takeWhile_cons_of_pos hc, List.length_cons,
        Nat.add_le_add_iff_right] at h
      simp [hc, ih h]
    · simp [hc]

/-- A string takes its closing quote at least. -/
theorem readString_pos {quote : Char} {content : List Char} {n : Nat}
    (h : readString quote s = some (content, n)) : 0 < n := by
  rw [readString.eq_def] at h
  split at h
  · cases h
  · split at h
    · split at h
      · cases h
      · obtain ⟨_, -, heq⟩ := Option.map_eq_some_iff.mp h
        cases heq
        omega
    · split at h
      · cases h
        omega
      · obtain ⟨_, -, heq⟩ := Option.map_eq_some_iff.mp h
        cases heq
        omega

/-- A string that lies in a text is read in the text alone. -/
theorem readString_of_append {quote : Char} {content : List Char} {n : Nat}
    (h : readString quote (s ++ rest) = some (content, n)) (hn : n ≤ s.length) :
    readString quote s = some (content, n) := by
  fun_induction readString quote s generalizing content n with
  | case1 =>
    have hpos := readString_pos h
    rw [List.length_nil] at hn
    omega
  | case2 =>
    cases rest with
    | nil => exact absurd h (by simp [readString])
    | cons d rest =>
      rw [List.cons_append, List.nil_append, readString, if_pos rfl] at h
      obtain ⟨⟨more, m⟩, -, heq⟩ := Option.map_eq_some_iff.mp h
      cases heq
      simp at hn
  | case3 d s ih =>
    rw [List.cons_append, List.cons_append, readString, if_pos rfl] at h
    obtain ⟨⟨more, m⟩, hmore, heq⟩ := Option.map_eq_some_iff.mp h
    cases heq
    simp only [List.length_cons] at hn
    rw [ih hmore (by omega)]
    rfl
  | case4 s hbackslash =>
    rw [List.cons_append, readString.eq_def] at h
    simpa [hbackslash] using h
  | case5 c s hbackslash hquote ih =>
    rw [List.cons_append, readString.eq_def] at h
    simp only [if_neg hbackslash, if_neg hquote] at h
    obtain ⟨⟨more, m⟩, hmore, heq⟩ := Option.map_eq_some_iff.mp h
    cases heq
    rw [List.length_cons] at hn
    rw [ih hmore (by omega)]
    rfl

/-- A pattern takes its closing tilde at least. -/
theorem readPattern_pos {pattern : List Char} {n : Nat} (h : readPattern s = some (pattern, n)) :
    0 < n := by
  rw [readPattern.eq_def] at h
  split at h
  · cases h
  · split at h
    · cases h
      omega
    · split at h
      · split at h
        · cases h
        · obtain ⟨_, -, heq⟩ := Option.map_eq_some_iff.mp h
          cases heq
          omega
      · obtain ⟨_, -, heq⟩ := Option.map_eq_some_iff.mp h
        cases heq
        omega

/-- A pattern that lies in a text is read in the text alone. -/
theorem readPattern_of_append {pattern : List Char} {n : Nat}
    (h : readPattern (s ++ rest) = some (pattern, n)) (hn : n ≤ s.length) :
    readPattern s = some (pattern, n) := by
  fun_induction readPattern s generalizing pattern n with
  | case1 =>
    have hpos := readPattern_pos h
    rw [List.length_nil] at hn
    omega
  | case2 s =>
    rw [List.cons_append, readPattern.eq_def] at h
    simpa using h
  | case3 htilde =>
    cases rest with
    | nil => exact absurd h (by simp [readPattern])
    | cons d rest =>
      rw [List.cons_append, List.nil_append, readPattern, if_neg htilde, if_pos rfl] at h
      obtain ⟨⟨more, m⟩, -, heq⟩ := Option.map_eq_some_iff.mp h
      cases heq
      simp at hn
  | case4 d s htilde ih =>
    rw [List.cons_append, List.cons_append, readPattern, if_neg htilde, if_pos rfl] at h
    obtain ⟨⟨more, m⟩, hmore, heq⟩ := Option.map_eq_some_iff.mp h
    cases heq
    simp only [List.length_cons] at hn
    rw [ih hmore (by omega)]
    rfl
  | case5 c s htilde hbackslash ih =>
    rw [List.cons_append, readPattern.eq_def] at h
    simp only [if_neg hbackslash, if_neg htilde] at h
    obtain ⟨⟨more, m⟩, hmore, heq⟩ := Option.map_eq_some_iff.mp h
    cases heq
    rw [List.length_cons] at hn
    rw [ih hmore (by omega)]
    rfl

/-- A text that starts with an operator does so with more text behind it. -/
theorem longOperator?_isSome_append (h : (longOperator? s).isSome = true) (rest : List Char) :
    (longOperator? (s ++ rest)).isSome = true := by
  fun_cases longOperator? s
  case case5 t _ | case6 t _ =>
    -- a third equals sign makes another operator of the two characters
    rw [List.cons_append, List.cons_append]
    obtain _ | ⟨c, tail⟩ := t ++ rest
    · rfl
    · by_cases hc : c = '=' <;> simp [longOperator?, hc]
  case case10 => simp_all [longOperator?]
  all_goals rfl

/-- An operator that lies in a text is read in the text alone. -/
theorem longOperator?_of_append {x : Lexeme} {n : Nat}
    (h : longOperator? (s ++ rest) = some (x, n)) (hn : n ≤ s.length) :
    longOperator? s = some (x, n) := by
  obtain ⟨k, hk⟩ := Nat.exists_eq_add_of_le' hn
  have hs : s = (s ++ rest).take (k + n) := by rw [← hk, List.take_left]
  rw [hs]
  clear hs hk hn
  generalize s ++ rest = text at h ⊢
  have hthird {t : List Char} (ht : ∀ tail, t = '=' :: tail → False) :
      ∀ tail, t.take k = '=' :: tail → False := by
    intro tail htail
    obtain _ | k := k
    · cases htail
    · obtain _ | ⟨e, t⟩ := t
      · cases htail
      · cases htail
        exact ht t rfl
  fun_cases longOperator? text
  case case5 t ht =>
    rw [longOperator?.eq_5 _ ht] at h
    cases h
    exact longOperator?.eq_5 _ (hthird ht)
  case case6 t ht =>
    rw [longOperator?.eq_6 _ ht] at h
    cases h
    exact longOperator?.eq_6 _ (hthird ht)
  case case10 => simp [longOperator?] at h
  all_goals
    cases h
    rfl

/-- Where a point and a digit follow the digits, there is a fraction. -/
theorem readNumber_of_point {d : Char} {t : List Char} (hs : s.dropWhile isDigit = '.' :: d :: t)
    (hd : isDigit d = true) :
    readNumber s =
      (.float (Decimal.ofParts (s.takeWhile isDigit) ((d :: t).takeWhile isDigit) 0),
        (s.takeWhile isDigit).length + 1 + ((d :: t).takeWhile isDigit).length) := by
  simp only [readNumber, hs, if_pos hd]

/-- Where no point and digit follow the digits, the number is an integer. -/
theorem readNumber_of_not_point
    (hs : ∀ d t, s.dropWhile isDigit = '.' :: d :: t → ¬ isDigit d = true) :
    readNumber s =
      (.int (Decimal.ofDigits (s.takeWhile isDigit)), (s.takeWhile isDigit).length) := by
  unfold readNumber
  split
  · next d t heq => rw [if_neg (hs d t heq)]
  · rfl

/-- A number takes the digits at the start. -/
theorem length_takeWhile_le_readNumber : (s.takeWhile isDigit).length ≤ (readNumber s).2 := by
  by_cases hpoint : ∃ d t, s.dropWhile isDigit = '.' :: d :: t ∧ isDigit d = true
  · obtain ⟨d, t, hs, hd⟩ := hpoint
    rw [readNumber_of_point hs hd]
    dsimp only
    omega
  · have hnumber := readNumber_of_not_point fun d t hs hd => hpoint ⟨d, t, hs, hd⟩
    exact Nat.le_of_eq (congrArg Prod.snd hnumber).symm

/-- A number that lies in a text is read in the text alone. -/
theorem readNumber_of_append (h : (readNumber (s ++ rest)).2 ≤ s.length) :
    readNumber (s ++ rest) = readNumber s := by
  obtain ⟨htake, hdrop⟩ :=
    takeWhile_append_of_le (Nat.le_trans length_takeWhile_le_readNumber h)
  have hlength : (s.takeWhile isDigit).length + (s.dropWhile isDigit).length = s.length := by
    rw [← List.length_append, List.takeWhile_append_dropWhile]
  by_cases hpoint : ∃ d t, (s ++ rest).dropWhile isDigit = '.' :: d :: t ∧ isDigit d = true
  · obtain ⟨d, t, hall, hd⟩ := hpoint
    rw [readNumber_of_point hall hd] at h ⊢
    have hfraction : 0 < ((d :: t).takeWhile isDigit).length := by
      rw [List.takeWhile_cons_of_pos hd]
      exact Nat.succ_pos _
    rw [htake] at h ⊢
    rw [hdrop] at hall
    -- the point and the digit lie in the text, since the number does
    match hs : s.dropWhile isDigit with
    | [] | [_] =>
      simp only [hs, List.length_nil, List.length_cons] at hlength
      omega
    | _ :: e :: after =>
      simp only [hs, List.cons_append, List.cons.injEq] at hall
      obtain ⟨rfl, rfl, rfl⟩ := hall
      have hle : ((e :: after ++ rest).takeWhile isDigit).length ≤ (e :: after).length := by
        simp only [hs, List.length_cons] at hlength
        simp only [List.cons_append, List.length_cons] at h ⊢
        omega
      have hsame := (takeWhile_append_of_le hle).1
      rw [List.cons_append] at hsame
      rw [readNumber_of_point hs hd, hsame]
  · have hall (d t) (hs : (s ++ rest).dropWhile isDigit = '.' :: d :: t) : ¬ isDigit d = true :=
      fun hd => hpoint ⟨d, t, hs, hd⟩
    rw [readNumber_of_not_point hall, htake, readNumber_of_not_point fun d t hs => ?_]
    exact hall d (t ++ rest) (by rw [hdrop, hs]; rfl)

/-- A number that starts in a text and lies in it starts in the text alone. -/
theorem startsNumber_of_append {c : Char} (hstart : startsNumber c (s ++ rest) = true)
    (h : (readNumber (c :: (s ++ rest))).2 ≤ (c :: s).length) : startsNumber c s = true := by
  by_cases hc : isDigit c = true
  · simp [startsNumber, hc]
  cases s with
  | cons d s => exact hstart
  | nil =>
    -- a point that starts a number is followed by a digit, which belongs to it
    simp only [startsNumber, hc, Bool.false_or, Bool.and_eq_true, beq_iff_eq] at hstart
    obtain ⟨rfl, hdigit⟩ := hstart
    obtain _ | ⟨d, t⟩ := rest
    · simp at hdigit
    · have hd : isDigit d = true := by simpa using hdigit
      rw [List.nil_append, readNumber_of_point (List.dropWhile_cons_of_neg hc) hd,
        List.takeWhile_cons_of_neg hc, List.takeWhile_cons_of_pos hd] at h
      simp only [List.length_cons, List.length_nil] at h
      omega

/-- Where no number starts in a text, none starts in the text alone. -/
theorem startsNumber_eq_false_of_append {c : Char} (h : ¬ startsNumber c (s ++ rest) = true) :
    startsNumber c s = false := by
  cases s with
  | nil => simp_all [startsNumber]
  | cons d s => exact (Bool.not_eq_true _).mp h

/-- What starts with a character and lies in a text is read in the text alone. -/
theorem readAt_of_append {c : Char} {xs : List Lexeme} {n : Nat}
    (h : readAt c (s ++ rest) = .ok (xs, n)) (hn : n ≤ s.length) : readAt c s = .ok (xs, n) := by
  have hlong (hnone : longOperator? (c :: (s ++ rest)) = none) : longOperator? (c :: s) = none := by
    rw [← Option.not_isSome_iff_eq_none]
    intro hsome
    have hall := longOperator?_isSome_append hsome rest
    rw [List.cons_append, hnone] at hall
    cases hall
  revert h
  fun_cases readAt c (s ++ rest)
  case case1 | case6 | case9 =>
    intro h
    cases h
  case case2 htilde pattern m hpattern modes =>
    rintro ⟨⟩
    have hle : m ≤ s.length := Nat.le_trans (Nat.le_add_right _ _) hn
    have hmodes : ((s.drop m ++ rest).takeWhile isMode).length ≤ (s.drop m).length := by
      rw [← List.drop_append_of_le_length hle, List.length_drop]
      exact Nat.le_sub_of_add_le' hn
    have hsame : modes = (s.drop m).takeWhile isMode := by
      rw [← (takeWhile_append_of_le hmodes).1, ← List.drop_append_of_le_length hle]
    simp only [readAt, if_pos htilde, readPattern_of_append hpattern hle, hsame]
  case case3 htilde x m hx =>
    rintro ⟨⟩
    have hle : m ≤ (c :: s).length := by
      rw [List.length_cons]
      omega
    simp only [readAt, if_neg htilde, longOperator?_of_append (s := c :: s) hx hle]
  case case4 htilde hx hnumeral number m heq =>
    rintro ⟨⟩
    have hle : (readNumber (c :: s ++ rest)).2 ≤ (c :: s).length := by
      rw [List.cons_append, heq, List.length_cons]
      dsimp only
      omega
    have hnumber := readNumber_of_append hle
    rw [List.cons_append, heq] at hnumber
    simp only [readAt, if_neg htilde, hlong hx, startsNumber_of_append hnumeral hle, if_true,
      ← hnumber]
  case case5 htilde hx hnumeral x hchar =>
    rintro ⟨⟩
    simp only [readAt, if_neg htilde, hlong hx, startsNumber_eq_false_of_append hnumeral,
      Bool.false_eq_true, if_false, hchar]
  case case7 htilde hx hnumeral hchar hquote content m hcontent =>
    rintro ⟨⟩
    simp only [readAt, if_neg htilde, hlong hx, startsNumber_eq_false_of_append hnumeral,
      Bool.false_eq_true, if_false, hchar, if_pos hquote, readString_of_append hcontent hn]
  case case8 htilde hx hnumeral hchar hquote hname more =>
    rintro ⟨⟩
    have hmore := (takeWhile_append_of_le (p := continuesName) hn).1
    simp only [readAt, if_neg htilde, hlong hx, startsNumber_eq_false_of_append hnumeral,
      Bool.false_eq_true, if_false, hchar, if_neg hquote, if_pos hname, ← hmore]
    rfl

end Lexeme

namespace Token

variable {position : Nat} {s : List Char}

/-- What starts with a character lies in the text behind it. -/
theorem le_of_readAt {c : Char} {xs : List Lexeme} {n : Nat}
    (h : Lexeme.readAt c s = .ok (xs, n)) : n ≤ s.length :=
  (Lexeme.readAt_append h (show Lexeme.Detached [] from trivial)).2

/-- Where a text has no tokens, something is left of it, and the part in front of that has
tokens. -/
theorem readFrom_eq_error {error : LexError} (h : readFrom position s = .error error) :
    ∃ s₁ s₂ tokens, s = s₁ ++ s₂ ∧ s₂ ≠ [] ∧ error.position = position + s₁.length ∧
      readFrom position s₁ = .ok tokens := by
  fun_induction readFrom position s with
  | case1 => cases h
  | case2 position c s hspace ih =>
    obtain ⟨s₁, s₂, tokens, rfl, hne, hposition, hread⟩ := ih h
    refine ⟨c :: s₁, s₂, tokens, rfl, hne, ?_, by rw [readFrom, if_pos hspace, hread]⟩
    rw [hposition, List.length_cons, Nat.add_assoc, Nat.add_comm 1]
  | case3 position c s hspace cause hat =>
    cases h
    exact ⟨[], c :: s, [], rfl, List.cons_ne_nil c s, rfl, by rw [readFrom]⟩
  | case4 position c s hspace xs n hat ih =>
    have hmore : readFrom (position + 1 + n) (s.drop n) = .error error := by
      cases hmore : readFrom (position + 1 + n) (s.drop n) with
      | error e =>
        rw [hmore] at h
        cases h
        rfl
      | ok more =>
        rw [hmore] at h
        cases h
    obtain ⟨s₁, s₂, tokens, hsplit, hne, hposition, hread⟩ := ih hmore
    have htaken : (s.take n).length = n := List.length_take_of_le (le_of_readAt hat)
    have hs : s = s.take n ++ s₁ ++ s₂ := by
      rw [List.append_assoc, ← hsplit, List.take_append_drop]
    have hwhole : Lexeme.readAt c (s.take n ++ s₁ ++ s₂) = .ok (xs, n) := hs ▸ hat
    have hfirst : Lexeme.readAt c (s.take n ++ s₁) = .ok (xs, n) := by
      refine Lexeme.readAt_of_append hwhole ?_
      rw [List.length_append, htaken]
      exact Nat.le_add_right _ _
    have hrest : (s.take n ++ s₁).drop n = s₁ := List.drop_left' htaken
    refine ⟨c :: (s.take n ++ s₁), s₂, xs.map (⟨·, position⟩) ++ tokens, congrArg (c :: ·) hs, hne,
      ?_, ?_⟩
    · rw [hposition, List.length_cons, List.length_append, htaken]
      omega
    · rw [readFrom, if_neg hspace, hfirst]
      simp only [hrest, hread]
      rfl

/-- The tokens of a text start at characters of it that are no white space. -/
theorem starts_of_readFrom {tokens : List Token} (h : readFrom position s = .ok tokens) :
    ∀ t ∈ tokens, ∃ i c, t.position = position + i ∧ s[i]? = some c ∧ Text.isSpace c = false := by
  fun_induction readFrom position s generalizing tokens with
  | case1 =>
    cases h
    exact fun t ht => absurd ht List.not_mem_nil
  | case2 position c s hspace ih =>
    intro t ht
    obtain ⟨i, d, hposition, hd, hnot⟩ := ih h t ht
    exact ⟨i + 1, d, by omega, hd, hnot⟩
  | case3 => cases h
  | case4 position c s hspace xs n hat ih =>
    obtain ⟨more, hmore, heq⟩ := bind_eq_ok_iff.mp h
    cases heq
    intro t ht
    obtain hfirst | hlater := List.mem_append.mp ht
    · obtain ⟨x, -, rfl⟩ := List.mem_map.mp hfirst
      exact ⟨0, c, rfl, rfl, (Bool.not_eq_true _).mp hspace⟩
    · obtain ⟨i, d, hposition, hd, hnot⟩ := ih hmore t hlater
      rw [List.getElem?_drop] at hd
      exact ⟨n + i + 1, d, by omega, hd, hnot⟩

/-- The tokens of a text are in ascending order of their positions. -/
theorem ordered_of_readFrom {tokens : List Token} (h : readFrom position s = .ok tokens) :
    (tokens.map (·.position)).Pairwise (· ≤ ·) := by
  fun_induction readFrom position s generalizing tokens with
  | case1 =>
    cases h
    exact .nil
  | case2 position c s hspace ih => exact ih h
  | case3 => cases h
  | case4 position c s hspace xs n hat ih =>
    obtain ⟨more, hmore, heq⟩ := bind_eq_ok_iff.mp h
    cases heq
    have hlater : ∀ t ∈ more, position ≤ t.position := by
      intro t ht
      obtain ⟨i, -, hposition, -⟩ := starts_of_readFrom hmore t ht
      omega
    rw [List.map_append, List.pairwise_append]
    refine ⟨?_, ih hmore, ?_⟩
    · rw [List.map_map, List.pairwise_map]
      exact List.pairwise_of_forall fun _ _ => Nat.le_refl _
    · simpa using fun _ _ t ht => hlater t ht

/-- Where marks lie in a text: the end stands behind all tokens and at the end of the text, the
tokens start at characters that are no white space, and no mark is in front of an earlier one. -/
structure Placed (text : String) (marks : List Mark) : Prop where
  ends : ∃ tokens : List Token, marks = tokens.map .token ++ [.stop text.length]
  starts : ∀ t, Mark.token t ∈ marks →
    ∃ c, text.toList[t.position]? = some c ∧ Text.isSpace c = false
  ordered : (marks.map Mark.position).Pairwise (· ≤ ·)

/-- The tokens of a text start at characters of it that are no white space. -/
theorem starts_of_readAll {text : String} {tokens : List Token} (h : readAll text = .ok tokens)
    {t : Token} (ht : t ∈ tokens) :
    ∃ c, text.toList[t.position]? = some c ∧ Text.isSpace c = false := by
  obtain ⟨i, c, hposition, hc, hnot⟩ := starts_of_readFrom h t ht
  rw [Nat.zero_add] at hposition
  exact ⟨c, hposition ▸ hc, hnot⟩

/-- The tokens of a text start in front of its end. -/
theorem position_lt_of_readAll {text : String} {tokens : List Token}
    (h : readAll text = .ok tokens) {t : Token} (ht : t ∈ tokens) : t.position < text.length := by
  obtain ⟨c, hc, -⟩ := starts_of_readAll h ht
  rw [← String.length_toList]
  exact (List.getElem?_eq_some_iff.mp hc).1

/-- The marks of a text are placed in it. -/
theorem placed_of_row {text : String} {marks : List Mark} (h : row text = .ok marks) :
    Placed text marks := by
  obtain ⟨tokens, htokens, rfl⟩ := row_eq_ok_iff.mp h
  refine ⟨⟨tokens, rfl⟩, fun t ht => starts_of_readAll htokens ?_, ?_⟩
  · simpa using ht
  · rw [List.map_append, List.pairwise_append, List.map_map]
    refine ⟨ordered_of_readFrom htokens, List.pairwise_singleton _ _, ?_⟩
    simpa [Mark.position] using fun t ht => Nat.le_of_lt (position_lt_of_readAll htokens ht)

/-- No mark of a row is behind the end of the text. -/
theorem Placed.position_le {text : String} {marks : List Mark} (h : Placed text marks) {m : Mark}
    (hm : m ∈ marks) : m.position ≤ text.length := by
  cases m with
  | token t =>
    obtain ⟨c, hc, -⟩ := h.starts t hm
    have hlt := (List.getElem?_eq_some_iff.mp hc).1
    rw [String.length_toList] at hlt
    exact Nat.le_of_lt hlt
  | stop position =>
    obtain ⟨tokens, rfl⟩ := h.ends
    obtain rfl : position = text.length := by simpa using hm
    exact Nat.le_refl _

/-- Where a text has no row, the error is at one of its characters, and the part of the text in
front of it has a row. -/
theorem row_eq_error {text : String} {error : LexError} (h : row text = .error error) :
    error.position < text.length ∧
      ∃ marks, row (String.ofList (text.toList.take error.position)) = .ok marks := by
  obtain ⟨s₁, s₂, tokens, hsplit, hne, hposition, hread⟩ :=
    readFrom_eq_error (row_eq_error_iff.mp h)
  rw [Nat.zero_add] at hposition
  constructor
  · rw [← String.length_toList, hsplit, List.length_append, hposition]
    have hpos : 0 < s₂.length := List.length_pos_iff.mpr hne
    omega
  · rw [hsplit, hposition, List.take_left]
    refine ⟨_, row_eq_ok_iff.mpr ⟨tokens, ?_, rfl⟩⟩
    rw [readAll, String.toList_ofList, hread]

end Token

end Trigger
