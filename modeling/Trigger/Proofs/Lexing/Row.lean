import Trigger.Proofs.Lexing.Seam

/-!
# Rows of texts apart from each other

White space is detached from every token in front of it. Hence a text, white space and a second text
have the marks of the first one without its end and then those of the second one, which stand
further on. Where the second text has no tokens, the whole has none for the same reason, which is
met further on.
-/

namespace Trigger

/-- White space is detached from what stands before it. -/
theorem Lexeme.detached_of_isSpace {c : Char} (h : Text.isSpace c = true) (rest : List Char) :
    Detached (c :: rest) := by
  constructor
  · rw [← Bool.not_eq_true]
    intro hname
    rw [isSpace_eq_false hname] at h
    cases h
  · intro hmem
    have hmarks : ['.', '=', '>', '&', '|'].all (fun d => !Text.isSpace d) = true := by decide
    have hc := List.all_eq_true.mp hmarks c hmem
    rw [h] at hc
    cases hc

/-- A mark so many characters further on. -/
def Mark.shift (d : Nat) : Mark → Mark
  | .token t => .token (t.shift d)
  | .stop position => .stop (position + d)

namespace Token

variable {text : String}

/-- A text has a row exactly if it has tokens, and its end stands behind them. -/
theorem row_eq_ok_iff {marks : List Mark} : row text = .ok marks ↔
    ∃ tokens, readAll text = .ok tokens ∧ tokens.map .token ++ [.stop text.length] = marks := by
  rw [row, bind_eq_ok_iff]
  exact exists_congr fun tokens => and_congr_right fun _ => ⟨Except.ok.inj, congrArg Except.ok⟩

/-- A text has no row exactly if it has no tokens, for the same reason. -/
theorem row_eq_error_iff {error : LexError} :
    row text = .error error ↔ readAll text = .error error := by
  rw [row]
  cases readAll text with
  | error error' =>
    exact ⟨fun h => congrArg _ (Except.error.inj h), fun h => congrArg _ (Except.error.inj h)⟩
  | ok tokens => exact ⟨fun h => (nomatch h), fun h => (nomatch h)⟩

/-- A text has a row, or there is a reason why it has none. -/
theorem row_cases (text : String) :
    (∃ marks, row text = .ok marks) ∨ ∃ error, row text = .error error := by
  cases row text with
  | ok marks => exact .inl ⟨marks, rfl⟩
  | error error => exact .inr ⟨error, rfl⟩

/-- The tokens of a text behind another one and white space are its own, further on. -/
theorem readAll_append_space {s₁ : String} {tokens : List Token} (h : readAll s₁ = .ok tokens)
    {w : Char} (hw : Text.isSpace w = true) (s₂ : String) :
    readAll (s₁ ++ String.singleton w ++ s₂) =
      ((readAll s₂).map fun more => tokens ++ more.map (shift (s₁.length + 1))).mapError
        fun e => ⟨e.cause, s₁.length + 1 + e.position⟩ := by
  have hchars : (s₁ ++ String.singleton w ++ s₂).toList = s₁.toList ++ w :: s₂.toList := by simp
  have hmoved := readFrom_add 0 (s₁.length + 1) s₂.toList
  have hspace : readFrom s₁.length (w :: s₂.toList) = readFrom (0 + (s₁.length + 1)) s₂.toList := by
    rw [readFrom, if_pos hw, Nat.zero_add]
  rw [readAll, hchars, readFrom_append h (Lexeme.detached_of_isSpace hw _), Nat.zero_add,
    String.length_toList, hspace, hmoved, readAll]
  cases readFrom 0 s₂.toList with
  | error e =>
    have hposition : e.position + (s₁.length + 1) = s₁.length + 1 + e.position := Nat.add_comm _ _
    exact congrArg (fun p => Except.error (LexError.mk e.cause p)) hposition
  | ok more => rfl

/-- The row of a text, white space and a second text is that of the first text without its end and
then that of the second one further on, and there is one exactly if the second text has one. Where
it has none, the reason is the same and is met further on. -/
theorem row_append_space {s₁ : String} {marks : List Mark} (h : row s₁ = .ok marks) {w : Char}
    (hw : Text.isSpace w = true) (s₂ : String) :
    ((∃ all, row (s₁ ++ String.singleton w ++ s₂) = .ok all) ↔ ∃ more, row s₂ = .ok more) ∧
    (∀ more, row s₂ = .ok more →
      row (s₁ ++ String.singleton w ++ s₂) =
        .ok (marks.dropLast ++ more.map (Mark.shift (s₁.length + 1)))) ∧
    ∀ e, row s₂ = .error e →
      row (s₁ ++ String.singleton w ++ s₂) = .error ⟨e.cause, s₁.length + 1 + e.position⟩ := by
  obtain ⟨tokens, htokens, hmarks⟩ := row_eq_ok_iff.mp h
  have hfirst : marks.dropLast = tokens.map .token := by rw [← hmarks, List.dropLast_concat]
  have hall := readAll_append_space htokens hw s₂
  have hok (more) (hmore : row s₂ = .ok more) : row (s₁ ++ String.singleton w ++ s₂) =
      .ok (marks.dropLast ++ more.map (Mark.shift (s₁.length + 1))) := by
    obtain ⟨tokens', htokens', rfl⟩ := row_eq_ok_iff.mp hmore
    rw [htokens'] at hall
    refine row_eq_ok_iff.mpr ⟨_, hall, ?_⟩
    simp [hfirst, Mark.shift, Function.comp_def, String.length_append, Nat.add_comm]
  have herror (e) (he : row s₂ = .error e) :
      row (s₁ ++ String.singleton w ++ s₂) = .error ⟨e.cause, s₁.length + 1 + e.position⟩ := by
    rw [row_eq_error_iff.mp he] at hall
    exact row_eq_error_iff.mpr hall
  refine ⟨⟨?_, fun ⟨more, hmore⟩ => ⟨_, hok more hmore⟩⟩, hok, herror⟩
  rintro ⟨all, hwhole⟩
  refine (row_cases s₂).resolve_right ?_
  rintro ⟨e, he⟩
  rw [herror e he] at hwhole
  cases hwhole

/-- Behind a blank, an equals sign starts a token of its own, and the end of a string is missed. -/
theorem row_append_space_equals :
    let marks : List Mark := [.token ⟨.name "a", 0⟩, .token ⟨.operator .looseEq, 1⟩, .stop 2]
    let more : List Mark :=
      [.token ⟨.operator .looseEq, 0⟩, .token ⟨.constant (.int 1), 1⟩, .stop 2]
    row "a=" = .ok marks ∧ Text.isSpace '\u3000' = true ∧ row "=1" = .ok more ∧
      row "='" = .error ⟨.unterminatedString, 1⟩ ∧
      row ("a=" ++ String.singleton '\u3000' ++ "=1") =
        .ok [.token ⟨.name "a", 0⟩, .token ⟨.operator .looseEq, 1⟩, .token ⟨.operator .looseEq, 3⟩,
          .token ⟨.constant (.int 1), 4⟩, .stop 5] ∧
      row ("a=" ++ String.singleton '\u3000' ++ "='") = .error ⟨.unterminatedString, 4⟩ := by
  intro marks more
  have hfirst : row "a=" = .ok marks := by with_unfolding_all rfl
  have hspace : Text.isSpace '\u3000' = true := by decide
  have hmore : row "=1" = .ok more := by with_unfolding_all rfl
  have herror : row "='" = .error ⟨.unterminatedString, 1⟩ := by with_unfolding_all rfl
  obtain ⟨-, hok, -⟩ := row_append_space hfirst hspace "=1"
  obtain ⟨-, -, hwrong⟩ := row_append_space hfirst hspace "='"
  exact ⟨hfirst, hspace, hmore, herror, hok _ hmore, hwrong _ herror⟩

end Token

end Trigger
