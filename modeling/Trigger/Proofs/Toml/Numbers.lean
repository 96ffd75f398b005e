import Trigger.Proofs.Toml.Cut

/-!
# Numbers, dates and words before a cut

A word, a number or a date is made of visible characters, apart from the blank that a time can stand
behind. So it is read in the same way whether or not something follows that starts with white space,
and nothing is found in one case that is not found in the other.
-/

namespace Trigger.Toml

/-- A step that gives the same up to a change, before steps that do. -/
theorem bind_eq_map_bind {α β : Type} {x y : Option α} {f : α → α} {k : α → Option β} {g : β → β}
    (hx : x = y.map f) (hk : ∀ a, k (f a) = (k a).map g) : x.bind k = (y.bind k).map g := by
  subst hx
  cases y with
  | none => rfl
  | some a => exact hk a

variable {T : List Char → Prop} {w : List Char}

section Append

variable (hT : IsTail T) (hw : T w)
include hT hw

/-! ## Digits -/

/-- Digits end before white space, and an underscore in front of it is none of them. -/
theorem readDigits_append {isDigit : Char → Bool}
    (hdigit : ∀ c, isDigit c = true → 33 ≤ c.toNat ∧ c.toNat ≤ 126) (hline : isDigit '_' = false)
    (s : List Char) : readDigits isDigit (s ++ w) = extend w (readDigits isDigit s) := by
  have hstop : readDigits isDigit w = ([], w) := by
    cases w with
    | nil => rfl
    | cons c w =>
      have hc := eq_false_of_isSpace hdigit c (hT.isSpace hw)
      rw [readDigits.eq_3 _ _ _ (fun _ _ h => absurd h (hT.ne hw (by decide))), hc]
      rfl
  induction s using readDigits.induct isDigit with
  | case1 => exact hstop
  | case2 c rest hc _ _ _ ih =>
    rw [List.cons_append, List.cons_append, readDigits, readDigits, if_pos hc, if_pos hc, ih]
    rfl
  | case3 c rest hc =>
    rw [List.cons_append, List.cons_append, readDigits, readDigits, if_neg hc, if_neg hc]
    rfl
  | case4 c rest hunder hc _ _ _ ih =>
    have hne : c ≠ '_' := fun h => by simp [h, hline] at hc
    rw [List.cons_append, readDigits.eq_3 _ _ _ (fun _ _ h => absurd h hne),
      readDigits.eq_3 _ _ _ hunder, if_pos hc, if_pos hc, ih]
    rfl
  | case5 c rest hunder hc =>
    rw [readDigits.eq_3 _ _ _ hunder, if_neg hc]
    by_cases hne : c = '_'
    · subst hne
      cases rest with
      | cons d rest => exact (hunder d rest rfl rfl).elim
      | nil =>
        cases w with
        | nil => rw [List.append_nil, readDigits.eq_3 _ _ _ hunder, if_neg hc]; rfl
        | cons d w =>
          have hd := eq_false_of_isSpace hdigit d (hT.isSpace hw)
          rw [List.singleton_append, readDigits, hd]
          rfl
    · rw [List.cons_append, readDigits.eq_3 _ _ _ (fun _ _ h => absurd h hne), if_neg hc]
      rfl

/-- Digits of which there must be one stand before the cut. -/
theorem readDigits?_append {isDigit : Char → Bool}
    (hdigit : ∀ c, isDigit c = true → 33 ≤ c.toNat ∧ c.toNat ≤ 126) (hline : isDigit '_' = false)
    (s : List Char) : readDigits? isDigit (s ++ w) = (readDigits? isDigit s).map (extend w) := by
  cases s with
  | nil =>
    cases w with
    | nil => rfl
    | cons c w =>
      rw [List.nil_append, readDigits?, eq_false_of_isSpace hdigit c (hT.isSpace hw)]
      rfl
  | cons c s =>
    rw [List.cons_append, readDigits?, readDigits?, ← List.cons_append,
      readDigits_append hT hw hdigit hline]
    split <;> rfl

/-! ## Numbers -/

/-- An integer in another base is the same whatever is cut off. -/
theorem readBased?_append (s : List Char) :
    readBased? (s ++ w) = (readBased? s).map (extend w) := by
  have hoctal (c : Char) (h : (decide ('0' ≤ c) && decide (c ≤ '7')) = true) :
      33 ≤ c.toNat ∧ c.toNat ≤ 126 := by
    rw [Bool.and_eq_true, decide_eq_true_eq, decide_eq_true_eq] at h
    exact toNat_of_le h (by decide) (by decide)
  have hbinary (c : Char) (h : (c == '0' || c == '1') = true) :
      33 ≤ c.toNat ∧ c.toNat ≤ 126 := by
    rw [Bool.or_eq_true, beq_iff_eq, beq_iff_eq] at h
    obtain rfl | rfl := h <;> decide
  by_cases hx : ∃ rest, s = 'x' :: rest
  · obtain ⟨rest, rfl⟩ := hx
    exact bind_eq_map_bind (readDigits?_append hT hw toNat_of_isHexDigit rfl rest) fun _ => rfl
  by_cases ho : ∃ rest, s = 'o' :: rest
  · obtain ⟨rest, rfl⟩ := ho
    exact bind_eq_map_bind (readDigits?_append hT hw hoctal rfl rest) fun _ => rfl
  by_cases hb : ∃ rest, s = 'b' :: rest
  · obtain ⟨rest, rfl⟩ := hb
    exact bind_eq_map_bind (readDigits?_append hT hw hbinary rfl rest) fun _ => rfl
  rw [readBased?.eq_4 _ (hT.not_cons_of_append hw (by decide) hx)
      (hT.not_cons_of_append hw (by decide) ho) (hT.not_cons_of_append hw (by decide) hb),
    readBased?.eq_4 _ (fun rest h => hx ⟨rest, h⟩) (fun rest h => ho ⟨rest, h⟩)
      fun rest h => hb ⟨rest, h⟩]
  rfl

/-- A sign stands before the cut. -/
theorem sign_append (s : List Char) : Decimal.sign (s ++ w) = extend w (Decimal.sign s) := by
  cases s with
  | nil =>
    cases w with
    | nil => rfl
    | cons c w =>
      exact Decimal.sign.eq_3 _ (fun _ h => hT.ne hw (by decide) (List.cons.inj h).1)
        fun _ h => hT.ne hw (by decide) (List.cons.inj h).1
  | cons c s =>
    by_cases hminus : c = '-'
    · subst hminus
      rfl
    by_cases hplus : c = '+'
    · subst hplus
      rfl
    have hplain (s : List Char) : Decimal.sign (c :: s) = (false, c :: s) :=
      Decimal.sign.eq_3 _ (fun _ h => hminus (List.cons.inj h).1)
        fun _ h => hplus (List.cons.inj h).1
    rw [List.cons_append, hplain, hplain]
    rfl

/-- The digits before the point stand before the cut. -/
theorem readWhole?_append (s : List Char) :
    readWhole? (s ++ w) = (readWhole? s).map (extend w) := by
  by_cases hzero : ∃ rest, s = '0' :: rest
  · obtain ⟨rest, rfl⟩ := hzero
    rfl
  · rw [readWhole?.eq_2 _ (hT.not_cons_of_append hw (by decide) hzero),
      readWhole?.eq_2 _ (fun rest h => hzero ⟨rest, h⟩)]
    exact readDigits?_append hT hw toNat_of_isDigit rfl s

/-- A fraction is the same whatever is cut off. -/
theorem readFraction_append (s : List Char) :
    readFraction (s ++ w) = extend w (readFraction s) := by
  by_cases hpoint : ∃ rest, s = '.' :: rest
  · obtain ⟨rest, rfl⟩ := hpoint
    rw [List.cons_append, readFraction, readFraction,
      readDigits?_append hT hw toNat_of_isDigit rfl]
    cases readDigits? Char.isDigit rest <;> rfl
  · rw [readFraction.eq_2 _ (hT.not_cons_of_append hw (by decide) hpoint),
      readFraction.eq_2 _ (fun rest h => hpoint ⟨rest, h⟩)]
    rfl

/-- An exponent is the same whatever is cut off. -/
theorem readExponent_append (s : List Char) :
    readExponent (s ++ w) = extend w (readExponent s) := by
  cases s with
  | nil =>
    cases w with
    | nil => rfl
    | cons c w =>
      have hletter : ¬(c = 'e' ∨ c = 'E') := by
        rintro (h | h)
        · exact hT.ne hw (by decide) h
        · exact hT.ne hw (by decide) h
      rw [List.nil_append, readExponent]
      obtain ⟨negative, rest⟩ := Decimal.sign w
      dsimp only
      rw [if_neg hletter]
      rfl
  | cons c s =>
    rw [List.cons_append, readExponent, readExponent, sign_append hT hw]
    obtain ⟨negative, rest⟩ := Decimal.sign s
    dsimp only [extend]
    by_cases hletter : c = 'e' ∨ c = 'E'
    · rw [if_pos hletter, if_pos hletter, readDigits?_append hT hw toNat_of_isDigit rfl]
      cases readDigits? Char.isDigit rest <;> rfl
    · rw [if_neg hletter, if_neg hletter]
      rfl

/-- A decimal number is the same whatever is cut off. -/
theorem readDecimal?_append (s : List Char) :
    readDecimal? (s ++ w) = (readDecimal? s).map (extend w) := by
  rw [readDecimal?, readDecimal?, sign_append hT hw]
  obtain ⟨negative, rest⟩ := Decimal.sign s
  refine bind_eq_map_bind (readWhole?_append hT hw rest) fun r => ?_
  obtain ⟨whole, rest⟩ := r
  simp only [extend, readFraction_append hT hw, readExponent_append hT hw]
  split <;> rfl

/-- A number is the same whatever is cut off. -/
theorem readNumber?_append (s : List Char) :
    readNumber? (s ++ w) = (readNumber? s).map (extend w) := by
  by_cases hzero : ∃ rest, s = '0' :: rest
  · obtain ⟨rest, rfl⟩ := hzero
    have hdecimal := readDecimal?_append hT hw ('0' :: rest)
    rw [List.cons_append] at hdecimal
    rw [List.cons_append, readNumber?, readNumber?, readBased?_append hT hw, hdecimal,
      Option.map_or]
  · rw [readNumber?.eq_2 _ (hT.not_cons_of_append hw (by decide) hzero),
      readNumber?.eq_2 _ (fun rest h => hzero ⟨rest, h⟩)]
    exact readDecimal?_append hT hw s

/-! ## Dates and times -/

/-- A number of so many digits has no white space in it, so it stands before the cut. -/
theorem readField?_append (width low high : Nat) (s : List Char) :
    readField? width low high (s ++ w) = (readField? width low high s).map (extend w) := by
  unfold readField?
  by_cases hlength : width ≤ s.length
  · dsimp only
    rw [List.take_append_of_le_length hlength, List.drop_append_of_le_length hlength]
    split <;> rfl
  · have hshort : (s.take width).length ≠ width := by
      rw [List.length_take]
      omega
    have hlong (hwidth : ((s ++ w).take width).length = width)
        (hdigits : ((s ++ w).take width).all Char.isDigit = true) : False := by
      obtain ⟨c, hmem, hspace⟩ := hT.exists_isSpace_of_take hw hlength hwidth
      have hdigit := List.all_eq_true.mp hdigits c hmem
      rw [eq_false_of_isSpace toNat_of_isDigit c hspace] at hdigit
      exact Bool.false_ne_true hdigit
    dsimp only
    rw [if_neg fun h => hlong h.1 h.2.1, if_neg fun h => hshort h.1]
    rfl

/-- A date stands before the cut. -/
theorem afterDate?_append (s : List Char) :
    afterDate? (s ++ w) = (afterDate? s).map (· ++ w) := by
  refine bind_eq_map_bind (readField?_append hT hw 4 1 9999 s) fun year => ?_
  refine bind_eq_map_bind (after?_append hT hw (by decide) _) fun _ => ?_
  refine bind_eq_map_bind (readField?_append hT hw 2 1 12 _) fun month => ?_
  refine bind_eq_map_bind (after?_append hT hw (by decide) _) fun _ => ?_
  exact bind_eq_map_bind (readField?_append hT hw 2 1 (daysIn year.1 month.1) _) fun _ => rfl

/-- A time of day stands before the cut, with the fraction of a second if there is one. -/
theorem afterTime?_append (s : List Char) :
    afterTime? (s ++ w) = (afterTime? s).map (· ++ w) := by
  refine bind_eq_map_bind (readField?_append hT hw 2 0 23 s) fun _ => ?_
  refine bind_eq_map_bind (after?_append hT hw (by decide) _) fun _ => ?_
  refine bind_eq_map_bind (readField?_append hT hw 2 0 59 _) fun _ => ?_
  refine bind_eq_map_bind (after?_append hT hw (by decide) _) fun _ => ?_
  refine bind_eq_map_bind (readField?_append hT hw 2 0 59 _) fun r => ?_
  obtain ⟨_, rest⟩ := r
  dsimp only [extend]
  by_cases hpoint : ∃ more, rest = '.' :: more
  · obtain ⟨more, rfl⟩ := hpoint
    cases more with
    | nil =>
      cases w with
      | nil => rfl
      | cons c w =>
        have hdigit := eq_false_of_isSpace toNat_of_isDigit c (hT.isSpace hw)
        change (if c.isDigit = true then some (w.dropWhile Char.isDigit)
          else some ('.' :: c :: w)) = _
        rw [hdigit]
        rfl
    | cons c more =>
      have hdigits := takeWhile_append hT hw (eq_false_of_isSpace toNat_of_isDigit) more
      change (if c.isDigit = true then some ((more ++ w).dropWhile Char.isDigit)
          else some ('.' :: c :: (more ++ w))) =
        (if c.isDigit = true then some (more.dropWhile Char.isDigit)
          else some ('.' :: c :: more)).map (· ++ w)
      rw [hdigits.2]
      split <;> rfl
  · split
    · rename_i heq
      exact (hT.not_cons_of_append hw (by decide) hpoint _ heq).elim
    · split
      · exact absurd ⟨_, rfl⟩ hpoint
      · rfl

/-- The distance from universal time stands before the cut. -/
theorem afterOffset?_append (s : List Char) :
    afterOffset? (s ++ w) = (afterOffset? s).map (· ++ w) := by
  cases s with
  | nil =>
    cases w with
    | nil => rfl
    | cons c w =>
      have hne {d : Char} (hd : Text.isSpace d = false) : c ≠ d := hT.ne hw hd
      rw [List.nil_append, afterOffset?, if_neg, if_neg]
      · rfl
      · rintro (h | h)
        · exact hne (by decide) h
        · exact hne (by decide) h
      · rintro (h | h)
        · exact hne (by decide) h
        · exact hne (by decide) h
  | cons c s =>
    rw [List.cons_append, afterOffset?, afterOffset?]
    by_cases hzone : c = 'Z' ∨ c = 'z'
    · rw [if_pos hzone, if_pos hzone]
      rfl
    by_cases hsign : c = '+' ∨ c = '-'
    · rw [if_neg hzone, if_neg hzone, if_pos hsign, if_pos hsign]
      refine bind_eq_map_bind (readField?_append hT hw 2 0 23 s) fun _ => ?_
      refine bind_eq_map_bind (after?_append hT hw (by decide) _) fun _ => ?_
      exact bind_eq_map_bind (readField?_append hT hw 2 0 59 _) fun _ => rfl
    · rw [if_neg hzone, if_neg hzone, if_neg hsign, if_neg hsign]
      rfl

/-- A date stands before the cut, with a time if there is one: none starts in what is cut off. -/
theorem afterDateTime?_append (s : List Char) :
    afterDateTime? (s ++ w) = (afterDateTime? s).map (· ++ w) := by
  refine bind_eq_map_bind (afterDate?_append hT hw s) fun rest => ?_
  cases rest with
  | nil =>
    cases w with
    | nil => rfl
    | cons c w =>
      have hnone : (if c = 'T' ∨ c = 't' ∨ c = ' ' then afterTime? w else none) = none := by
        split
        case isTrue h =>
          have hreturn : c ≠ '\r' := by obtain rfl | rfl | rfl := h <;> decide
          exact afterTime?_append hT (hT.tail hw hreturn) []
        case isFalse => rfl
      dsimp only [List.nil_append]
      rw [hnone]
      rfl
  | cons c rest =>
    dsimp only [List.cons_append]
    by_cases hletter : c = 'T' ∨ c = 't' ∨ c = ' '
    · rw [if_pos hletter, if_pos hletter, afterTime?_append hT hw]
      cases afterTime? rest with
      | none => rfl
      | some rest =>
        dsimp only [Option.map_some]
        rw [afterOffset?_append hT hw]
        cases afterOffset? rest <;> rfl
    · rw [if_neg hletter, if_neg hletter]
      rfl

/-- A moment is the same whatever is cut off. -/
theorem readMoment?_append (s : List Char) :
    readMoment? (s ++ w) = (readMoment? s).map (extend w) := by
  unfold readMoment?
  rw [afterDateTime?_append hT hw, afterTime?_append hT hw, ← Option.map_or]
  cases hrest : (afterDateTime? s).or (afterTime? s) with
  | none => rfl
  | some rest =>
    have hlength : s.length + w.length - (rest.length + w.length) = s.length - rest.length := by
      omega
    simp only [Option.map_some, Option.bind_eq_bind, Option.bind_some, List.length_append, hlength]
    rw [List.take_append_of_le_length (Nat.sub_le _ _)]
    rfl

/-! ## Words -/

/-- A word stands before the cut. -/
theorem readWord?_append (s : List Char) :
    readWord? (s ++ w) = (readWord? s).map (extend w) := by
  have hvisible : words.all (fun p => !p.1.toList.any Text.isSpace) = true := by decide
  unfold readWord?
  generalize words = table at hvisible
  induction table with
  | nil => rfl
  | cons p table ih =>
    obtain ⟨word, v⟩ := p
    rw [List.all_cons, Bool.and_eq_true, Bool.not_eq_true'] at hvisible
    have hword : after? word.toList (s ++ w) = (after? word.toList s).map (· ++ w) :=
      after?_append hT hw hvisible.1 s
    rw [List.findSome?_cons, List.findSome?_cons]
    dsimp only
    rw [hword]
    cases after? word.toList s with
    | none => exact ih hvisible.2
    | some rest => rfl

end Append

/-! ## What is left

What each reader leaves is the end of what it reads. -/

section Suffix

variable {s rest : List Char}

/-- Digits stand at the start of a text. -/
theorem suffix_readDigits (isDigit : Char → Bool) (s : List Char) :
    (readDigits isDigit s).2 <:+ s := by
  induction s using readDigits.induct isDigit with
  | case1 => exact List.suffix_refl []
  | case2 c rest hc _ _ _ ih =>
    rw [readDigits, if_pos hc]
    exact ih.trans ((List.suffix_cons c rest).trans (List.suffix_cons '_' _))
  | case3 c rest hc => simp only [readDigits, if_neg hc, List.suffix_rfl]
  | case4 c rest hunder hc _ _ _ ih =>
    rw [readDigits.eq_3 _ _ _ hunder, if_pos hc]
    exact ih.trans (List.suffix_cons c rest)
  | case5 c rest hunder hc =>
    simp only [readDigits.eq_3 _ _ _ hunder, if_neg hc, List.suffix_rfl]

/-- Digits of which there must be one stand at the start of a text. -/
theorem suffix_of_readDigits? {isDigit : Char → Bool} {ds : List Char}
    (h : readDigits? isDigit s = some (ds, rest)) : rest <:+ s := by
  unfold readDigits? at h
  split at h
  · split at h
    · obtain rfl : (readDigits isDigit _).2 = rest := congrArg Prod.snd (Option.some.inj h)
      exact suffix_readDigits isDigit _
    · exact nomatch h
  · exact nomatch h

/-- An integer in another base stands at the start of a text. -/
theorem suffix_of_readBased? {v : TomlValue} (h : readBased? s = some (v, rest)) : rest <:+ s := by
  unfold readBased? at h
  split at h
  case h_4 => exact nomatch h
  all_goals
    obtain ⟨⟨ds, more⟩, hds, h⟩ := Option.bind_eq_some_iff.mp h
    obtain rfl := congrArg Prod.snd (Option.some.inj h)
    exact (suffix_of_readDigits? hds).trans (List.suffix_cons _ _)

/-- A sign stands at the start of a text. -/
theorem suffix_sign (s : List Char) : (Decimal.sign s).2 <:+ s := by
  unfold Decimal.sign
  split
  · exact List.suffix_cons _ _
  · exact List.suffix_cons _ _
  · exact List.suffix_refl _

/-- The digits before the point stand at the start of a text. -/
theorem suffix_of_readWhole? {ds : List Char} (h : readWhole? s = some (ds, rest)) :
    rest <:+ s := by
  unfold readWhole? at h
  split at h
  · obtain rfl := congrArg Prod.snd (Option.some.inj h)
    exact List.suffix_cons _ _
  · exact suffix_of_readDigits? h

/-- A fraction stands at the start of a text. -/
theorem suffix_readFraction (s : List Char) : (readFraction s).2 <:+ s := by
  unfold readFraction
  split
  · rename_i more
    cases hdigits : readDigits? Char.isDigit more with
    | none => exact List.suffix_refl _
    | some r =>
      obtain ⟨ds, rest⟩ := r
      exact (suffix_of_readDigits? hdigits).trans (List.suffix_cons _ _)
  · exact List.suffix_refl _

/-- An exponent stands at the start of a text. -/
theorem suffix_readExponent (s : List Char) : (readExponent s).2 <:+ s := by
  cases s with
  | nil => exact List.suffix_refl _
  | cons c s =>
    have hsign := suffix_sign s
    rw [readExponent]
    generalize Decimal.sign s = signed at hsign ⊢
    dsimp only
    split
    · rename_i ds rest hdigits
      split at hdigits
      · exact (suffix_of_readDigits? hdigits).trans (hsign.trans (List.suffix_cons c s))
      · exact nomatch hdigits
    · exact List.suffix_refl _

/-- A decimal number stands at the start of a text. -/
theorem suffix_of_readDecimal? {v : TomlValue} (h : readDecimal? s = some (v, rest)) :
    rest <:+ s := by
  unfold readDecimal? at h
  obtain ⟨⟨whole, more⟩, hwhole, h⟩ := Option.bind_eq_some_iff.mp h
  have hrest : (readExponent (readFraction more).2).2 = rest := by
    dsimp only at h
    split at h <;> exact congrArg Prod.snd (Option.some.inj h)
  rw [← hrest]
  exact (suffix_readExponent _).trans
    ((suffix_readFraction more).trans ((suffix_of_readWhole? hwhole).trans (suffix_sign s)))

/-- A number stands at the start of a text. -/
theorem suffix_of_readNumber? {v : TomlValue} (h : readNumber? s = some (v, rest)) :
    rest <:+ s := by
  unfold readNumber? at h
  split at h
  · rcases Option.or_eq_some_iff.mp h with h | ⟨-, h⟩
    · exact (suffix_of_readBased? h).trans (List.suffix_cons _ _)
    · exact suffix_of_readDecimal? h
  · exact suffix_of_readDecimal? h

/-- A number of so many digits stands at the start of a text. -/
theorem suffix_of_readField? {width low high n : Nat}
    (h : readField? width low high s = some (n, rest)) : rest <:+ s := by
  unfold readField? at h
  dsimp only at h
  split at h
  · obtain rfl := congrArg Prod.snd (Option.some.inj h)
    exact List.drop_suffix width s
  · exact nomatch h

/-- A date stands at the start of a text. -/
theorem suffix_of_afterDate? (h : afterDate? s = some rest) : rest <:+ s := by
  obtain ⟨⟨year, r₁⟩, h₁, h⟩ := Option.bind_eq_some_iff.mp h
  obtain ⟨r₂, h₂, h⟩ := Option.bind_eq_some_iff.mp h
  obtain ⟨⟨month, r₃⟩, h₃, h⟩ := Option.bind_eq_some_iff.mp h
  obtain ⟨r₄, h₄, h⟩ := Option.bind_eq_some_iff.mp h
  obtain ⟨⟨day, r₅⟩, h₅, h⟩ := Option.bind_eq_some_iff.mp h
  obtain rfl := Option.some.inj h
  exact (suffix_of_readField? h₅).trans ((suffix_of_after? h₄).trans
    ((suffix_of_readField? h₃).trans ((suffix_of_after? h₂).trans (suffix_of_readField? h₁))))

/-- A time of day stands at the start of a text. -/
theorem suffix_of_afterTime? (h : afterTime? s = some rest) : rest <:+ s := by
  obtain ⟨⟨hour, r₁⟩, h₁, h⟩ := Option.bind_eq_some_iff.mp h
  obtain ⟨r₂, h₂, h⟩ := Option.bind_eq_some_iff.mp h
  obtain ⟨⟨minute, r₃⟩, h₃, h⟩ := Option.bind_eq_some_iff.mp h
  obtain ⟨r₄, h₄, h⟩ := Option.bind_eq_some_iff.mp h
  obtain ⟨⟨second, r₅⟩, h₅, h⟩ := Option.bind_eq_some_iff.mp h
  have hseconds : r₅ <:+ s := (suffix_of_readField? h₅).trans ((suffix_of_after? h₄).trans
    ((suffix_of_readField? h₃).trans ((suffix_of_after? h₂).trans (suffix_of_readField? h₁))))
  refine List.IsSuffix.trans ?_ hseconds
  dsimp only at h
  split at h
  · rename_i c more
    split at h
    · obtain rfl := Option.some.inj h
      exact (List.dropWhile_suffix _).trans ((List.suffix_cons c more).trans (List.suffix_cons _ _))
    · exact Option.some.inj h ▸ List.suffix_refl _
  · exact Option.some.inj h ▸ List.suffix_refl _

/-- The distance from universal time stands at the start of a text. -/
theorem suffix_of_afterOffset? (h : afterOffset? s = some rest) : rest <:+ s := by
  cases s with
  | nil => exact nomatch h
  | cons c s =>
    rw [afterOffset?] at h
    refine List.IsSuffix.trans ?_ (List.suffix_cons c s)
    split at h
    · exact Option.some.inj h ▸ List.suffix_refl _
    · split at h
      · obtain ⟨⟨hour, r₁⟩, h₁, h⟩ := Option.bind_eq_some_iff.mp h
        obtain ⟨r₂, h₂, h⟩ := Option.bind_eq_some_iff.mp h
        obtain ⟨⟨minute, r₃⟩, h₃, h⟩ := Option.bind_eq_some_iff.mp h
        obtain rfl := Option.some.inj h
        exact (suffix_of_readField? h₃).trans
          ((suffix_of_after? h₂).trans (suffix_of_readField? h₁))
      · exact nomatch h

/-- A date stands at the start of a text, together with a time. -/
theorem suffix_of_afterDateTime? (h : afterDateTime? s = some rest) : rest <:+ s := by
  obtain ⟨date, hdate, h⟩ := Option.bind_eq_some_iff.mp h
  refine List.IsSuffix.trans ?_ (suffix_of_afterDate? hdate)
  dsimp only at h
  split at h
  · rename_i time htime
    have htime' : time <:+ date := by
      split at htime
      · split at htime
        · exact (suffix_of_afterTime? htime).trans (List.suffix_cons _ _)
        · exact nomatch htime
      · exact nomatch htime
    obtain rfl := Option.some.inj h
    cases hoffset : afterOffset? time with
    | none => exact htime'
    | some rest => exact (suffix_of_afterOffset? hoffset).trans htime'
  · exact Option.some.inj h ▸ List.suffix_refl _

/-- What follows a moment is the end of the text. -/
theorem suffix_of_afterMoment? (h : (afterDateTime? s).or (afterTime? s) = some rest) :
    rest <:+ s := by
  rcases Option.or_eq_some_iff.mp h with h | ⟨-, h⟩
  · exact suffix_of_afterDateTime? h
  · exact suffix_of_afterTime? h

/-- A moment stands at the start of a text. -/
theorem suffix_of_readMoment? {v : TomlValue} (h : readMoment? s = some (v, rest)) :
    rest <:+ s := by
  obtain ⟨more, hmore, h⟩ := Option.bind_eq_some_iff.mp h
  obtain rfl := congrArg Prod.snd (Option.some.inj h)
  exact suffix_of_afterMoment? hmore

/-- A word stands at the start of a text. -/
theorem suffix_of_readWord? {v : TomlValue} (h : readWord? s = some (v, rest)) : rest <:+ s := by
  obtain ⟨⟨word, w⟩, -, hword⟩ := List.exists_of_findSome?_eq_some h
  obtain ⟨more, hafter, hmore⟩ := Option.map_eq_some_iff.mp hword
  obtain rfl := congrArg Prod.snd hmore
  exact suffix_of_after? hafter

end Suffix

/-- Values that are neither strings nor made of others are read before a cut. -/
theorem stable_readScalar (hT : IsTail T) :
    Stable T fun s => (readWord? s).or ((readMoment? s).or (readNumber? s)) := by
  refine stable_of_append (fun w hw t => ?_) (fun t v rest h => ?_)
  · rw [readWord?_append hT hw, readMoment?_append hT hw, readNumber?_append hT hw, Option.map_or,
      Option.map_or]
  · rcases Option.or_eq_some_iff.mp h with h | ⟨-, h⟩
    · exact suffix_of_readWord? h
    rcases Option.or_eq_some_iff.mp h with h | ⟨-, h⟩
    · exact suffix_of_readMoment? h
    · exact suffix_of_readNumber? h

end Trigger.Toml
