import Trigger.Proofs.Outcome
import Trigger.Proofs.Printing.Tokens

/-!
# Tokens of texts side by side

A text is detached from what stands before it if no token can go on with its first character. The
tokens of a text with a detached one behind it are those of the first and then those of the second,
which are the same wherever it stands, apart from their positions.
-/

namespace Trigger

namespace Lexeme

/-- No token can go on with what comes next. -/
def Detached : List Char → Prop
  | [] => True
  | c :: _ => continuesName c = false ∧ c ∉ ['.', '=', '>', '&', '|']

variable {s rest : List Char}

/-- A property of characters that go on with a name ends where a text is detached. -/
theorem takeWhile_append_of_detached {p : Char → Bool}
    (hp : ∀ c, p c = true → continuesName c = true)
    (hrest : Detached rest) : (s ++ rest).takeWhile p = s.takeWhile p ∧
      (s ++ rest).dropWhile p = s.dropWhile p ++ rest := by
  have hstop : rest.takeWhile p = [] ∧ rest.dropWhile p = rest := by
    cases rest with
    | nil => exact ⟨rfl, rfl⟩
    | cons c rest =>
      have hc : ¬ p c = true := fun h => by simpa [hrest.1] using hp c h
      exact ⟨List.takeWhile_cons_of_neg hc, List.dropWhile_cons_of_neg hc⟩
  induction s with
  | nil => exact hstop
  | cons c s ih =>
    by_cases hc : p c = true
    · simp [hc, ih]
    · simp [hc]

/-- What follows the closing quote of a string is not read. -/
theorem readString_append {quote : Char} {content : List Char} {n : Nat}
    (h : readString quote s = some (content, n)) (rest : List Char) :
    readString quote (s ++ rest) = some (content, n) ∧ n ≤ s.length := by
  fun_induction readString quote s generalizing content n with
  | case1 => cases h
  | case2 => cases h
  | case3 d s ih =>
    obtain ⟨⟨more, m⟩, hmore, heq⟩ := Option.map_eq_some_iff.mp h
    obtain ⟨rfl, rfl⟩ := Prod.mk.inj heq
    obtain ⟨hread, hle⟩ := ih hmore
    rw [List.cons_append, List.cons_append, readString, if_pos rfl, hread]
    simp only [List.length_cons]
    exact ⟨rfl, by omega⟩
  | case4 s hbackslash =>
    obtain ⟨rfl, rfl⟩ := Prod.mk.inj (Option.some.inj h)
    rw [List.cons_append, readString.eq_def]
    simp [hbackslash]
  | case5 c s hbackslash hquote ih =>
    obtain ⟨⟨more, m⟩, hmore, heq⟩ := Option.map_eq_some_iff.mp h
    obtain ⟨rfl, rfl⟩ := Prod.mk.inj heq
    obtain ⟨hread, hle⟩ := ih hmore
    rw [List.cons_append, readString.eq_def]
    simp [hbackslash, hquote, hread, hle]

/-- What follows the closing tilde of a pattern is not read. -/
theorem readPattern_append {pattern : List Char} {n : Nat}
    (h : readPattern s = some (pattern, n)) (rest : List Char) :
    readPattern (s ++ rest) = some (pattern, n) ∧ n ≤ s.length := by
  fun_induction readPattern s generalizing pattern n with
  | case1 => cases h
  | case2 s =>
    obtain ⟨rfl, rfl⟩ := Prod.mk.inj (Option.some.inj h)
    rw [List.cons_append, readPattern.eq_def]
    simp
  | case3 => cases h
  | case4 d s htilde ih =>
    obtain ⟨⟨more, m⟩, hmore, heq⟩ := Option.map_eq_some_iff.mp h
    obtain ⟨rfl, rfl⟩ := Prod.mk.inj heq
    obtain ⟨hread, hle⟩ := ih hmore
    rw [List.cons_append, List.cons_append, readPattern, if_neg htilde, if_pos rfl, hread]
    simp only [List.length_cons]
    exact ⟨rfl, by omega⟩
  | case5 c s htilde hbackslash ih =>
    obtain ⟨⟨more, m⟩, hmore, heq⟩ := Option.map_eq_some_iff.mp h
    obtain ⟨rfl, rfl⟩ := Prod.mk.inj heq
    obtain ⟨hread, hle⟩ := ih hmore
    rw [List.cons_append, readPattern.eq_def]
    simp [hbackslash, htilde, hread, hle]

/-- No operator goes on into a detached text. -/
theorem longOperator?_append (hs : s ≠ []) (hrest : Detached rest) :
    longOperator? (s ++ rest) = longOperator? s := by
  cases rest with
  | nil => rw [List.append_nil]
  | cons d rest =>
    have hd := hrest.2
    simp only [List.mem_cons, List.not_mem_nil, or_false, not_or] at hd
    obtain ⟨-, heq, hgt, hand, hor⟩ := hd
    have hthird (t : List Char) (h : ∀ tail, t = '=' :: tail → False) :
        ∀ tail, t ++ d :: rest = '=' :: tail → False := by
      intro tail htail
      cases t with
      | nil => exact heq (List.cons.inj htail).1
      | cons e t => exact h t (by rw [(List.cons.inj htail).1])
    -- a first and a second character of an operator are both in front of the detached text
    have hnone {a b : Char} (hb : d ≠ b) (h : ∀ t, s = a :: b :: t → False) :
        ∀ tail, s ++ d :: rest = a :: b :: tail → False := by
      intro tail htail
      obtain _ | ⟨c, _ | ⟨e, t⟩⟩ := s
      · exact hs rfl
      · cases htail
        exact hb rfl
      · cases htail
        exact h t rfl
    fun_cases longOperator? s
    case case5 t hne => exact longOperator?.eq_5 _ (hthird t hne)
    case case6 t hne => exact longOperator?.eq_6 _ (hthird t hne)
    case case10 _ _ h3 h4 h5 h6 h7 h8 h9 =>
      exact longOperator?.eq_10 _ (fun _ => hnone heq h5 _) (fun _ => hnone heq h6 _)
        (hnone hand h3) (hnone hor h4) (hnone heq h5)
        (hnone heq h6) (hnone heq h7) (hnone heq h8)
        (hnone hgt h9)
    all_goals rfl

/-- A long operator lies within the text. -/
theorem longOperator?_le {x : Lexeme} {n : Nat} (h : longOperator? s = some (x, n)) :
    n ≤ s.length := by
  fun_cases longOperator? s <;> simp_all [longOperator?] <;> omega

/-- No number goes on into a detached text. -/
theorem readNumber_append (hrest : Detached rest) : readNumber (s ++ rest) = readNumber s := by
  have hdigit (c : Char) : isDigit c = true → continuesName c = true := continuesName_of_isDigit
  obtain ⟨hwhole, hafter⟩ := takeWhile_append_of_detached (s := s) hdigit hrest
  unfold readNumber
  rw [hwhole, hafter]
  obtain _ | ⟨d, _ | ⟨e, t⟩⟩ := s.dropWhile isDigit
  · cases rest with
    | nil => rfl
    | cons c rest =>
      have hpoint : c ≠ '.' := by
        rintro rfl
        exact hrest.2 (by simp)
      simp [hpoint]
  · cases rest with
    | nil => rfl
    | cons c rest =>
      have hc : isDigit c = false := by
        rw [← Bool.not_eq_true]
        exact fun h => by simpa [hrest.1] using hdigit c h
      by_cases hd : d = '.' <;> simp [hd, hc]
  · have hfraction := (takeWhile_append_of_detached (s := e :: t) hdigit hrest).1
    rw [List.cons_append] at hfraction
    by_cases hd : d = '.' <;> simp [hd, hfraction]

/-- A number lies within the text. -/
theorem readNumber_le : (readNumber s).2 ≤ s.length := by
  have hlength : (s.takeWhile isDigit).length + (s.dropWhile isDigit).length = s.length := by
    rw [← List.length_append, List.takeWhile_append_dropWhile]
  unfold readNumber
  split
  · rename_i c more hafter
    rw [hafter] at hlength
    have hfraction := (List.takeWhile_prefix isDigit (l := c :: more)).length_le
    simp only [List.length_cons] at hlength hfraction
    split <;> dsimp only <;> omega
  · dsimp only
    omega
/-- Whether a number starts does not change with a detached text behind. -/
theorem startsNumber_append (c : Char) (hrest : Detached rest) :
    startsNumber c (s ++ rest) = startsNumber c s := by
  cases s with
  | cons d s => rfl
  | nil =>
    cases rest with
    | nil => rfl
    | cons d rest =>
      have hd : isDigit d = false := by
        rw [← Bool.not_eq_true]
        exact fun h => by simpa [hrest.1] using continuesName_of_isDigit h
      simp [startsNumber, hd]

/-- A letter after a pattern is one that a name can go on with. -/
theorem continuesName_of_isMode {c : Char} (h : isMode c = true) : continuesName c = true := by
  have hmem : c ∈ "gimsuvy".toList := List.contains_iff_mem.mp h
  have hall : "gimsuvy".toList.all continuesName = true := by decide
  exact List.all_eq_true.mp hall c hmem

/-- What starts with a character does not change with a detached text behind, and lies in front of
that text. -/
theorem readAt_append {c : Char} {xs : List Lexeme} {n : Nat} (h : readAt c s = .ok (xs, n))
    (hrest : Detached rest) : readAt c (s ++ rest) = .ok (xs, n) ∧ n ≤ s.length := by
  have hlong : longOperator? (c :: (s ++ rest)) = longOperator? (c :: s) :=
    longOperator?_append (s := c :: s) (by simp) hrest
  have hnumber : readNumber (c :: (s ++ rest)) = readNumber (c :: s) :=
    readNumber_append (s := c :: s) hrest
  have hstart : startsNumber c (s ++ rest) = startsNumber c s := startsNumber_append c hrest
  revert h
  fun_cases readAt c s
  case case1 | case6 | case9 =>
    intro h
    cases h
  case case2 htilde pattern m hpattern modes =>
    rintro ⟨⟩
    obtain ⟨hread, hle⟩ := readPattern_append hpattern rest
    have hmodes := takeWhile_append_of_detached (s := s.drop m) (fun _ => continuesName_of_isMode)
      hrest
    have hlength := (List.takeWhile_prefix isMode (l := s.drop m)).length_le
    rw [List.length_drop] at hlength
    simp only [readAt, if_pos htilde, hread, List.drop_append_of_le_length hle, hmodes.1]
    exact ⟨rfl, show m + (s.drop m |>.takeWhile isMode).length ≤ s.length by omega⟩
  case case3 htilde x m hx =>
    rintro ⟨⟩
    have hle := longOperator?_le hx
    rw [List.length_cons] at hle
    simp only [readAt, if_neg htilde, hlong, hx]
    exact ⟨trivial, by omega⟩
  case case4 htilde hx hnumeral number m heq =>
    rintro ⟨⟩
    have hle := readNumber_le (s := c :: s)
    rw [heq, List.length_cons] at hle
    simp only [readAt, if_neg htilde, hlong, hx, hstart, if_pos hnumeral, hnumber, heq]
    exact ⟨trivial, by omega⟩
  case case5 htilde hx hnumeral x hchar =>
    rintro ⟨⟩
    simp only [readAt, if_neg htilde, hlong, hx, hstart, if_neg hnumeral, hchar]
    exact ⟨trivial, by omega⟩
  case case7 htilde hx hnumeral hchar hquote content m hcontent =>
    rintro ⟨⟩
    obtain ⟨hread, hle⟩ := readString_append hcontent rest
    simp only [readAt, if_neg htilde, hlong, hx, hstart, if_neg hnumeral, hchar, if_pos hquote,
      hread]
    exact ⟨trivial, hle⟩
  case case8 htilde hx hnumeral hchar hquote hname more =>
    rintro ⟨⟩
    have hmore := takeWhile_append_of_detached (p := continuesName) (s := s) (fun _ h => h) hrest
    simp only [readAt, if_neg htilde, hlong, hx, hstart, if_neg hnumeral, hchar, if_neg hquote,
      if_pos hname, hmore.1]
    exact ⟨rfl, (List.takeWhile_prefix continuesName).length_le⟩

end Lexeme

namespace Token

open Lexeme (Detached)

/-- The tokens of a text are followed by those of a detached text behind it. -/
theorem readFrom_append {position : Nat} {s rest : List Char} {tokens : List Token}
    (h : readFrom position s = .ok tokens) (hrest : Detached rest) :
    readFrom position (s ++ rest) =
      (readFrom (position + s.length) rest).map (tokens ++ ·) := by
  fun_induction readFrom position s generalizing tokens with
  | case1 position =>
    cases h
    rw [List.nil_append, List.length_nil, Nat.add_zero]
    cases readFrom position rest <;> rfl
  | case2 position c s hspace ih =>
    rw [List.cons_append, readFrom, if_pos hspace, ih h, List.length_cons, Nat.add_assoc,
      Nat.add_comm 1]
  | case3 => cases h
  | case4 position c s hspace xs n hat ih =>
    obtain ⟨more, hmore, heq⟩ := bind_eq_ok_iff.mp h
    cases heq
    obtain ⟨hread, hle⟩ := Lexeme.readAt_append hat hrest
    have hend : position + 1 + n + (s.drop n).length = position + (c :: s).length := by
      rw [List.length_drop, List.length_cons]
      omega
    rw [List.cons_append, readFrom, if_neg hspace, hread]
    simp only [List.drop_append_of_le_length hle, ih hmore, hend]
    cases readFrom (position + (c :: s).length) rest with
    | error e => rfl
    | ok last => exact congrArg Except.ok (List.append_assoc _ _ _).symm

/-- A token so many characters further on. -/
def shift (d : Nat) (t : Token) : Token := ⟨t.lexeme, t.position + d⟩

/-- The tokens of a text that stands further on are the same further on, and so is an error. -/
theorem readFrom_add (position d : Nat) (s : List Char) :
    readFrom (position + d) s =
      ((readFrom position s).map (·.map (shift d))).mapError fun e => ⟨e.cause, e.position + d⟩ := by
  fun_induction readFrom position s with
  | case1 position =>
    rw [readFrom]
    rfl
  | case2 position c s hspace ih =>
    rw [readFrom, if_pos hspace, Nat.add_right_comm, ih]
  | case3 position c s hspace cause hat =>
    rw [readFrom, if_neg hspace, hat]
    rfl
  | case4 position c s hspace xs n hat ih =>
    have hnext : position + d + 1 + n = position + 1 + n + d := by omega
    rw [readFrom, if_neg hspace, hat]
    simp only [hnext, ih]
    cases readFrom (position + 1 + n) (s.drop n) with
    | error e => rfl
    | ok more =>
      refine congrArg Except.ok ?_
      simp only [List.map_append, List.map_map]
      rfl

end Token

end Trigger
