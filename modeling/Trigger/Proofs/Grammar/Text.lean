import Trigger.Proofs.Grammar.Completeness

/-!
# Texts that stand for trees

A text stands for a tree exactly when it has tokens and these make up the tree in the grammar.
-/

namespace Trigger.Expr

open Grammar (Derives)

/-- A text is read as a tree exactly when its lexemes make up the tree. -/
theorem read_eq_ok_iff_derives {text : String} {e : Expr} :
    Expr.read text = .ok e ↔
      ∃ tokens, Token.readAll text = .ok tokens ∧ Derives (tokens.map (·.lexeme)) (.row 6 e) := by
  unfold Expr.read
  cases Token.readAll text with
  | error error => simp
  | ok tokens =>
    dsimp only
    constructor
    · intro h
      cases htree : ofTokens text.length tokens with
      | error error =>
        rw [htree] at h
        cases h
      | ok tree =>
        rw [htree] at h
        cases h
        exact ⟨tokens, rfl, Grammar.derives_of_ofTokens htree⟩
    · rintro ⟨_, ⟨⟩, hderives⟩
      rw [Grammar.ofTokens_of_derives hderives]

end Trigger.Expr
