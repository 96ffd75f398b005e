import Trigger.Proofs.Callback.Text
import Trigger.Proofs.Grammar.Respelling
import Trigger.Proofs.Lexing.Row

/-!
# Pattern literals

A pattern between tildes stands for a call of `regex`. Its tokens are those of the call, written out
with the pattern and its modes as strings, except for the first one: the literal has a plain name
where the written call has a word for a test. Behind a colon the word would be the test of a query.
Everywhere else the two stand for the same tree, or neither stands for one.
-/

namespace Trigger

namespace Lexeme

/-- Patterns in which each backslash has a character behind it that it escapes and that is no
tilde. -/
inductive IsPatternText : List Char → Prop
  | nil : IsPatternText []
  | plain {c : Char} {s : List Char} (hc : c ≠ '\\') (h : IsPatternText s) : IsPatternText (c :: s)
  | escape {c : Char} {s : List Char} (hc : c ≠ '~') (h : IsPatternText s) :
      IsPatternText ('\\' :: c :: s)

/-- A text with a backslash in front of each tilde. -/
def shielded (s : List Char) : List Char := s.flatMap fun c => if c = '~' then ['\\', c] else [c]

/-- The text of a pattern between tildes with its modes behind it. -/
def patternLiteral (pattern modes : List Char) : String :=
  String.ofList ('~' :: (shielded pattern ++ '~' :: modes))

/-- The text of a call of `regex` with a pattern and its modes, if there are any. -/
def patternCallText (pattern modes : List Char) : String :=
  "regex(" ++ String.ofList (constant (.str (String.ofList pattern))).written ++
    (if modes = [] then "" else
      ", " ++ String.ofList (constant (.str (String.ofList modes))).written) ++ ")"

/-- The lexemes of a call with a pattern and its modes, if there are any. -/
def callWith (name : Lexeme) (pattern modes : List Char) : List Lexeme :=
  name :: .openRound :: .constant (.str (String.ofList pattern)) ::
    ((if modes = [] then [] else [.comma, .constant (.str (String.ofList modes))]) ++ [.closeRound])

variable {pattern modes s rest : List Char} {ys : List Lexeme}

/-! ## The literal -/

/-- A pattern with its tildes escaped is read back up to the tilde that closes it. -/
theorem readPattern_shielded (h : IsPatternText pattern) (rest : List Char) :
    readPattern (shielded pattern ++ '~' :: rest) = some (pattern, (shielded pattern).length + 1) := by
  induction h with
  | nil =>
    change readPattern ('~' :: rest) = some ([], 1)
    rw [readPattern.eq_def]
    exact if_pos rfl
  | @plain c s hc h ih =>
    rw [shielded, List.flatMap_cons, ← shielded]
    by_cases htilde : c = '~'
    · rw [if_pos htilde]
      simp only [List.cons_append, List.nil_append]
      rw [readPattern, if_neg (by decide), if_pos rfl, ih]
      simp only [Option.map_some, if_pos htilde, List.length_cons]
    · rw [if_neg htilde, List.cons_append, List.nil_append, List.cons_append, readPattern.eq_def]
      simp only [if_neg htilde, if_neg hc, ih, Option.map_some, List.length_cons]
  | @escape c s hc h ih =>
    rw [shielded, List.flatMap_cons, List.flatMap_cons, ← shielded, if_neg (by decide), if_neg hc]
    simp only [List.cons_append, List.nil_append]
    rw [readPattern, if_neg (by decide), if_pos rfl, ih]
    simp only [Option.map_some, if_neg hc, List.length_cons]

/-- A pattern between tildes is read as a call of the name `regex`, up to its last mode. -/
theorem readAt_patternLiteral (hpattern : IsPatternText pattern)
    (hmodes : ∀ c ∈ modes, isMode c = true) :
    readAt '~' (shielded pattern ++ '~' :: modes) =
      .ok (callWith (.name "regex") pattern modes, (shielded pattern ++ '~' :: modes).length) := by
  have hdrop : (shielded pattern ++ '~' :: modes).drop ((shielded pattern).length + 1) = modes := by
    rw [List.drop_append]
    simp
  have htake : modes.takeWhile isMode = modes := List.takeWhile_eq_self_iff.mpr hmodes
  have hlength : (shielded pattern).length + 1 + modes.length =
      (shielded pattern ++ '~' :: modes).length := by
    rw [List.length_append, List.length_cons]
    omega
  rw [readAt, if_pos rfl, readPattern_shielded hpattern]
  simp only [hdrop, htake, hlength]
  cases modes <;> rfl

/-- The tokens of a pattern between tildes all have the position of the first tilde. -/
theorem readAll_patternLiteral (hpattern : IsPatternText pattern)
    (hmodes : ∀ c ∈ modes, isMode c = true) :
    Token.readAll (patternLiteral pattern modes) =
      .ok ((callWith (.name "regex") pattern modes).map (⟨·, 0⟩)) := by
  rw [Token.readAll, patternLiteral, String.toList_ofList, Token.readFrom,
    if_neg (by decide), readAt_patternLiteral hpattern hmodes]
  simp only [List.drop_length]
  rw [Token.readFrom]
  simp only [pure, Except.pure, bind, Except.bind, List.append_nil]

/-! ## The written call -/

/-- A string in front of a text that no token goes on into. -/
theorem Spells.string (h : Spells rest ys) (s : String) (hdetached : Detached rest) :
    Spells ((constant (.str s)).written ++ rest) (.constant (.str s) :: ys) :=
  (readsBack_str s).spells.append h hdetached

/-- The written call is made up of the lexemes of the literal, but for the name. -/
theorem spells_patternCallText (pattern modes : List Char) :
    Spells (patternCallText pattern modes).toList
      (callWith (.keyword .regex "regex") pattern modes) := by
  have hclose : Spells [')'] [.closeRound] := spells_nil.cons (by decide) rfl
  have hcall {rest : List Char} {ys : List Lexeme} (h : Spells rest ys) (hdetached : Detached rest) :
      Spells ("regex".toList ++ '(' :: ((constant (.str (String.ofList pattern))).written ++ rest))
        (.keyword .regex "regex" :: .openRound :: .constant (.str (String.ofList pattern)) :: ys) :=
    ((h.string _ hdetached).cons (by decide) rfl).word (x := "regex") (by decide) (by simp; decide)
  by_cases hmodes : modes = []
  · simpa [patternCallText, callWith, hmodes] using hcall hclose ⟨by decide, by decide⟩
  · have hsecond := ((hclose.string (String.ofList modes) ⟨by decide, by decide⟩).blank).cons
      (c := ',') (x := .comma) (by decide) rfl
    simpa [patternCallText, callWith, hmodes] using hcall hsecond ⟨by decide, by decide⟩

end Lexeme

namespace Expr

open Grammar (Derives Respelled)
open Lexeme

variable {stop : Nat} {before after : List Token} {a b : Lexeme} {pattern modes : List Char}

/-- Tokens of a call that differ from those of another one in how the name is spelled stand for the
same trees among other tokens, if no colon stands in front of them. -/
theorem ofTokens_respelled {name : String} (ha : Grammar.Names a name) (hb : Grammar.Names b name)
    {xs ys : List Token} (hxs : xs.map (·.lexeme) = callWith a pattern modes)
    (hys : ys.map (·.lexeme) = callWith b pattern modes)
    (hbefore : before.getLast?.map (·.lexeme) ≠ some .colon) {e : Expr}
    (h : ofTokens stop (before ++ xs ++ after) = .ok e) :
    ofTokens stop (before ++ ys ++ after) = .ok e := by
  have hspelled : Respelled a b ((before ++ xs ++ after).map (·.lexeme))
      ((before ++ ys ++ after).map (·.lexeme)) := by
    refine ⟨before.map (·.lexeme), (callWith a pattern modes).tail ++ after.map (·.lexeme), ?_, ?_,
      ?_, ?_⟩
    · simp [hxs, callWith]
    · simp [hys, callWith]
    · rwa [List.getLast?_map]
    · rintro x ⟨⟩
      rfl
  exact Grammar.ofTokens_of_derives ((Grammar.derives_of_ofTokens h).respelled ha hb hspelled)

/-- A pattern between tildes has the tokens of a call of the name `regex`. Unless a colon stands in
front of them, they stand among other tokens for the tree that the written call stands for there,
or neither stands for a tree. -/
theorem patternLiteral_stands_for_call (hpattern : IsPatternText pattern)
    (hmodes : ∀ c ∈ modes, isMode c = true) :
    Token.row (patternLiteral pattern modes) =
        .ok ((callWith (.name "regex") pattern modes).map (fun x => .token ⟨x, 0⟩) ++
          [.stop (patternLiteral pattern modes).length]) ∧
    ∃ call, Token.readAll (patternCallText pattern modes) = .ok call ∧
      call.map (·.lexeme) = callWith (.keyword .regex "regex") pattern modes ∧
      ∀ (stop position : Nat) (before after : List Token),
        before.getLast?.map (·.lexeme) ≠ some .colon →
        let literal := (callWith (.name "regex") pattern modes).map (⟨·, position⟩)
        (∃ e, ofTokens stop (before ++ literal ++ after) = .ok e ∧
          ofTokens stop (before ++ call ++ after) = .ok e) ∨
        ((∃ error, ofTokens stop (before ++ literal ++ after) = .error error) ∧
          ∃ error, ofTokens stop (before ++ call ++ after) = .error error) := by
  obtain ⟨call, hcall, hlexemes⟩ := spells_patternCallText pattern modes
  refine ⟨?_, call, hcall, hlexemes, ?_⟩
  · exact Token.row_eq_ok_iff.mpr ⟨_, readAll_patternLiteral hpattern hmodes, by rw [List.map_map]; rfl⟩
  · intro stop position before after hbefore literal
    have hliteral : literal.map (·.lexeme) = callWith (.name "regex") pattern modes := by
      rw [List.map_map]
      exact List.map_id _
    have hname : Grammar.Names (.name "regex") "regex" := .name _
    have hword : Grammar.Names (.keyword .regex "regex") "regex" := .keyword _ _
    cases hfirst : ofTokens stop (before ++ literal ++ after) with
    | ok e => exact .inl ⟨e, rfl, ofTokens_respelled hname hword hliteral hlexemes hbefore hfirst⟩
    | error error =>
      refine .inr ⟨⟨error, rfl⟩, ?_⟩
      cases hsecond : ofTokens stop (before ++ call ++ after) with
      | error error' => exact ⟨error', rfl⟩
      | ok e =>
        rw [ofTokens_respelled hword hname hlexemes hliteral hbefore hsecond] at hfirst
        cases hfirst

/-- Behind a point, a pattern with an escaped tilde and its modes are the arguments of a method. -/
theorem patternLiteral_stands_for_call_of_method :
    let pattern := "a~\\d".toList
    let modes := "gi".toList
    let lexemes : List Lexeme := [.name "regex", .openRound, .constant (.str "a~\\d"), .comma,
      .constant (.str "gi"), .closeRound]
    let before : List Token := [⟨.name "x", 0⟩, ⟨.dot, 1⟩]
    let e : Expr := .call (.member (.name "x") "regex")
      [.literal (.str "a~\\d"), .literal (.str "gi")]
    IsPatternText pattern ∧ (∀ c ∈ modes, isMode c = true) ∧
      Token.row "~a\\~\\d~gi" = .ok (lexemes.map (fun x => .token ⟨x, 0⟩) ++ [.stop 9]) ∧
      before.getLast?.map (fun t => t.lexeme) ≠ some .colon ∧
      ∃ call, Token.readAll "regex(\"a~\\\\d\", \"gi\")" = .ok call ∧
        ofTokens 11 (before ++ lexemes.map (⟨·, 2⟩) ++ []) = .ok e ∧
        ofTokens 11 (before ++ call ++ []) = .ok e := by
  intro pattern modes lexemes before e
  have hpattern : IsPatternText pattern :=
    .plain (by decide) (.plain (by decide) (.escape (by decide) .nil))
  have hmodes : ∀ c ∈ modes, isMode c = true := List.all_eq_true.mp (by decide)
  have hbefore : before.getLast?.map (fun t => t.lexeme) ≠ some .colon := nofun
  have hlexemes : callWith (.name "regex") pattern modes = lexemes := rfl
  have hliteral : patternLiteral pattern modes = "~a\\~\\d~gi" := rfl
  have hwritten : patternCallText pattern modes = "regex(\"a~\\\\d\", \"gi\")" := by decide +kernel
  have hlength : "~a\\~\\d~gi".length = 9 := by decide
  obtain ⟨hrow, call, hcall, -, hsame⟩ := patternLiteral_stands_for_call hpattern hmodes
  rw [hliteral, hlexemes, hlength] at hrow
  rw [hwritten] at hcall
  have hstring (s : String) : Derives [.constant (.str s)] (.item .round (.literal (.str s))) :=
    .plain (derives_row_mono (.unsigned (.alone (.start (.constant (.str s))))) (Nat.zero_le 6))
  have hargs : Derives [.constant (.str "a~\\d"), .comma, .constant (.str "gi")]
      (.list .round [.literal (.str "a~\\d"), .literal (.str "gi")]) :=
    .someItems (.moreItems (hstring _) (.lastItem (hstring _)))
  have hmethod : Derives (.name "x" :: .dot :: lexemes) (.row 6 e) :=
    derives_row_mono (.unsigned (.alone (.method (.start (.name (.name "x"))) (.name "regex") hargs)))
      (Nat.zero_le 6)
  have hfirst : ofTokens 11 (before ++ lexemes.map (⟨·, 2⟩) ++ []) = .ok e :=
    Grammar.ofTokens_of_derives hmethod
  refine ⟨hpattern, hmodes, hrow, hbefore, call, hcall, hfirst, ?_⟩
  have hsame' := hsame 11 2 before [] hbefore
  rw [hlexemes] at hsame'
  rcases hsame' with ⟨e', hfirst', hsecond⟩ | ⟨⟨error, hfirst'⟩, -⟩
  · rwa [Except.ok.inj (hfirst.symm.trans hfirst')]
  · exact nomatch hfirst.symm.trans hfirst'

end Expr

end Trigger
