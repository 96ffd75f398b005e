import Trigger.Pattern.Cache

/-!
# The text of a whole word

The pattern of a whole word is what its text is read as without regard to case. In that text every
character of the term stands for itself: one with a meaning of its own stands behind a backslash.
The assertions on both sides are read the same whatever stands between them.
-/

namespace Trigger

namespace Pattern

open Reading

variable {s : ReaderState} {u : PatternUnit} {rest : List PatternUnit} {c : Char}

/-! ## Steps of the reader -/

namespace Reading

/-- A step goes on where another one ends. -/
theorem run_bind_of_ok {α β : Type} {x : Reading α} {f : α → Reading β} {a : α} {t : ReaderState}
    (h : x.run s = .ok (a, t)) : (x >>= f).run s = (f a).run t := by
  rw [StateT.run_bind, h]
  rfl

/-- The unit that comes next. -/
theorem peek_run (hu : u ≠ .dangling) :
    peek.run { s with rest := u :: rest } = .ok (some u, { s with rest := u :: rest }) := by
  cases u with
  | dangling => exact absurd rfl hu
  | plain | escaped => rfl

/-- The next unit is taken, unless a lone backslash comes behind it. -/
theorem next_run (hu : u ≠ .dangling) (hrest : rest.head? ≠ some .dangling) :
    next.run { s with rest := u :: rest } = .ok (some u, { s with rest }) := by
  cases u with
  | dangling => exact absurd rfl hu
  | plain | escaped =>
    rcases rest with _ | ⟨v, rest⟩
    · rfl
    · cases v with
      | dangling => exact absurd rfl hrest
      | plain | escaped => rfl

end Reading

/-! ## Escaped characters -/

/-- No letter for a class. -/
theorem classLetter_eq_none (h : c.isAlphanum = false) : classLetter c = none := by
  unfold classLetter
  split <;> first | rfl | cases h

/-- No letter for a control character. -/
theorem controlLetter_eq_none (h : c.isAlphanum = false) (hc : c ≠ '\\') :
    controlLetter c = none := by
  unfold controlLetter
  split <;> first | rfl | contradiction

/-- Behind a backslash, a character that is neither a letter nor a digit stands for itself. -/
theorem readEscape_of_not_isAlphanum (f : PatternFlags) (h : c.isAlphanum = false) :
    readEscape f c = pure (.set (codeSet f c.toNat)) := by
  by_cases hc : c = '\\'
  · subst hc
    rfl
  have hne {d : Char} (hd : d.isAlphanum = true) : c ≠ d := fun heq => by simp [heq, hd] at h
  obtain ⟨halpha, hdigit⟩ := Bool.or_eq_false_iff.mp h
  rw [readEscape]
  simp only [hne (d := 'A') rfl, hne (d := 'Z') rfl, hne (d := 'b') rfl, hne (d := 'B') rfl,
    hne (d := 'x') rfl, hne (d := 'u') rfl, hne (d := 'U') rfl, hne (d := '0') rfl, if_false,
    classLetter_eq_none h, controlLetter_eq_none h hc, halpha, hdigit]
  rfl

/-- The characters with a meaning of their own are neither letters nor digits. -/
theorem isAlphanum_of_mem_specials (h : c ∈ specials) : c.isAlphanum = false := by
  have hall : specials.all (! ·.isAlphanum) = true := by decide
  simpa using List.all_eq_true.mp hall c h

/-- The unit that a character of a term is cut into. -/
def literalUnit (c : Char) : PatternUnit := if specials.contains c then .escaped c else .plain c

/-- The units of a term. -/
theorem units_escape (term rest : List Char) :
    units (escape term ++ rest) = term.map literalUnit ++ units rest := by
  induction term with
  | nil => rfl
  | cons c term ih =>
    have hescape : escape (c :: term) =
        (if specials.contains c then ['\\', c] else [c]) ++ escape term := List.flatMap_cons
    rw [hescape, List.map_cons, List.cons_append, literalUnit, ← ih]
    by_cases hc : specials.contains c = true
    · rw [if_pos hc, if_pos hc]
      rfl
    · have hne : c ≠ '\\' := by
        rintro rfl
        exact hc (by decide)
      rw [if_neg hc, if_neg hc]
      simp [units, hne]

/-- No such unit is a lone backslash. -/
theorem literalUnit_ne_dangling (c : Char) : literalUnit c ≠ .dangling := by
  rw [literalUnit]
  split <;> simp

/-! ## Sequences -/

/-- The modes of whole words. -/
def anyCase : PatternFlags := { ignoreCase := true }

/-- The piece of a character of a term. -/
def literal (c : Char) : Piece := .set (.single .folded c)

/-- A character of a term is read as itself. -/
theorem readSequence_literal (c : Char) (hrest : rest.head? ≠ some .dangling) (first : Bool)
    (pieces : List Piece) (fuel : Nat) :
    (readSequence anyCase first pieces (fuel + 1)).run { s with rest := literalUnit c :: rest } =
      (readSequence anyCase first (literal c :: pieces) fuel).run { s with rest } := by
  have hu := literalUnit_ne_dangling c
  rw [readSequence, run_bind_of_ok (peek_run hu)]
  by_cases hc : specials.contains c = true
  · have hescaped : literalUnit c = .escaped c := if_pos hc
    rw [hescaped] at hu ⊢
    dsimp only
    rw [run_bind_of_ok (next_run hu hrest), readEscape_of_not_isAlphanum _
      (isAlphanum_of_mem_specials (by simpa using hc)), pure_bind]
    rfl
  · have hplain : literalUnit c = .plain c := if_neg hc
    have hne {d : Char} (hd : specials.contains d = true) : c ≠ d := fun heq => hc (heq ▸ hd)
    rw [hplain] at hu ⊢
    dsimp only
    rw [if_neg (by simp [hne (d := '|') rfl, hne (d := ')') rfl]),
      run_bind_of_ok (next_run hu hrest)]
    simp only [hne (d := '[') rfl, hne (d := '.') rfl, hne (d := '^') rfl, hne (d := '$') rfl,
      hne (d := '*') rfl, hne (d := '+') rfl, hne (d := '?') rfl, hne (d := '{') rfl,
      hne (d := '(') rfl, anyCase]
    rfl

/-- No lone backslash comes first behind the start of a term. -/
theorem head?_literals (term : List Char) (hrest : rest.head? ≠ some .dangling) :
    (term.map literalUnit ++ rest).head? ≠ some .dangling := by
  cases term with
  | nil => exact hrest
  | cons c term => simpa using literalUnit_ne_dangling c

/-- The characters of a term are read one after the other. -/
theorem readSequence_literals (term : List Char) (hrest : rest.head? ≠ some .dangling)
    (first : Bool) (pieces : List Piece) (fuel : Nat) :
    (readSequence anyCase first pieces (fuel + term.length)).run
        { s with rest := term.map literalUnit ++ rest } =
      (readSequence anyCase first ((term.map literal).reverse ++ pieces) fuel).run
        { s with rest } := by
  induction term generalizing pieces with
  | nil => rfl
  | cons c term ih =>
    rw [List.map_cons, List.cons_append, List.length_cons, ← Nat.add_assoc,
      readSequence_literal c (head?_literals term hrest), ih, List.map_cons, List.reverse_cons,
      List.append_assoc]
    rfl

/-- No word character comes before. -/
def notBehindWord : Piece := ⟨.behind true 1 (.one wordSet), .zero, .other⟩

/-- No word character comes next. -/
def notAheadWord : Piece := ⟨.ahead true (.one wordSet), .zero, .other⟩

/-- The assertion in front of a term. -/
theorem readSequence_notBehindWord (hrest : rest.head? ≠ some .dangling) (fuel : Nat) :
    (readSequence anyCase true [] (fuel + 8)).run
        { rest := units "(?<!\\w)".toList ++ rest, flags := anyCase } =
      (readSequence anyCase true [notBehindWord] (fuel + 7)).run { rest, flags := anyCase } := by
  rcases rest with _ | ⟨u, rest⟩
  · rfl
  · cases u with
    | dangling => exact absurd rfl hrest
    | plain | escaped => rfl

/-- The assertion behind a term is the end of its text. -/
theorem readSequence_notAheadWord (pieces : List Piece) (fuel : Nat) :
    (readSequence anyCase true pieces (fuel + 8)).run
        { rest := units "(?!\\w)".toList, flags := anyCase } =
      .ok (.sequence (notAheadWord :: pieces), { rest := [], flags := anyCase }) :=
  rfl

/-- The characters of a term in a sequence. -/
theorem tree_sequence (term : List Char) :
    (Piece.sequence (notAheadWord :: ((term.map literal).reverse ++ [notBehindWord]))).tree =
      (wholeWord term).tree := by
  have hletters : ((term.map literal).foldr (fun q after : Piece =>
      ⟨.seq q.tree after.tree, q.width.plus after.width, .other⟩) notAheadWord).tree =
        lettersThen notAheadWord.tree term := by
    induction term with
    | nil => rfl
    | cons c term ih =>
      rw [List.map_cons, List.foldr_cons, lettersThen, ← ih]
      rfl
  rw [Piece.sequence, List.foldl_append, List.foldl_reverse]
  exact congrArg (PatternTree.seq notBehindWord.tree) hletters

/-! ## The whole text -/

/-- The units of the text of a whole word. -/
theorem units_wholeWordSource (term : List Char) :
    units (wholeWordSource term).toList =
      units "(?<!\\w)".toList ++ (term.map literalUnit ++ units "(?!\\w)".toList) := by
  have htext : (wholeWordSource term).toList =
      "(?<!\\w)".toList ++ (escape term ++ "(?!\\w)".toList) := by
    simp [wholeWordSource]
  rw [htext, ← units_escape]
  rfl

/-- The text of a whole word is read as one sequence. -/
theorem readAlternatives_wholeWordSource (term : List Char) (fuel : Nat) :
    (readAlternatives anyCase true (fuel + term.length + 10)).run
        { rest := units (wholeWordSource term).toList, flags := anyCase } =
      .ok (.sequence (notAheadWord :: ((term.map literal).reverse ++ [notBehindWord])),
        { rest := [], flags := anyCase }) := by
  have hend : (units "(?!\\w)".toList).head? ≠ some .dangling := by decide
  have hfuel : fuel + term.length + 9 = fuel + 1 + term.length + 8 := by omega
  have hfuel' : fuel + 1 + term.length + 7 = fuel + 8 + term.length := by omega
  have hliterals := @readSequence_literals { rest := [], flags := anyCase } _ term hend true
    [notBehindWord] (fuel + 8)
  have hsequence : (readSequence anyCase true [] (fuel + term.length + 9)).run
      { rest := units (wholeWordSource term).toList, flags := anyCase } =
        .ok (.sequence (notAheadWord :: ((term.map literal).reverse ++ [notBehindWord])),
          { rest := [], flags := anyCase }) := by
    rw [units_wholeWordSource, hfuel, readSequence_notBehindWord (head?_literals term hend), hfuel']
    exact hliterals.trans (readSequence_notAheadWord _ fuel)
  rw [readAlternatives, run_bind_of_ok hsequence]
  rfl

/-- The text of a whole word is read as its pattern. -/
theorem read_wholeWordSource (term : List Char) :
    read (wholeWordSource term) { ignoreCase := true } = .ok (wholeWord term) := by
  obtain ⟨us, hus⟩ : ∃ us, us = units (wholeWordSource term).toList := ⟨_, rfl⟩
  have hlength : us.length = term.length + 11 := by
    rw [hus, units_wholeWordSource, List.length_append, List.length_append, List.length_map]
    change 6 + (term.length + 5) = _
    omega
  have hfuel : 4 * us.length + 4 = 3 * term.length + 38 + term.length + 10 := by omega
  have hrun := readAlternatives_wholeWordSource term (3 * term.length + 38)
  rw [← hfuel, ← hus] at hrun
  rw [read, ← hus]
  change (readAlternatives anyCase true (4 * us.length + 4)).run { rest := us, flags := anyCase } >>= _ = _
  rw [hrun]
  change Except.ok (Pattern.mk (wholeWordSource term) anyCase 0 _) = _
  rw [tree_sequence]
  rfl

end Pattern

/-- The cache hands out for a term what it reads for the text of the term as a whole word. -/
theorem PatternCache.read_wholeWordSource (cache : PatternCache) (term : List Char) :
    cache.read (Pattern.wholeWordSource term) (some "i") =
      (.ok (cache.wholeWord term).1, (cache.wholeWord term).2) := by
  have hmodes : PatternFlags.ofLetters "i" = { ignoreCase := true } := by decide
  refine Prod.ext ((cache.readKey_fst _).trans ?_) rfl
  rw [PatternKey.read, Option.getD_some, hmodes]
  exact Pattern.read_wholeWordSource term

end Trigger
