import Trigger.Proofs.Grammar.Text
import Trigger.Proofs.Lexing.Seam
import Trigger.Proofs.Printing.RoundTrip

/-!
# Texts put together

The lexemes of a text do not depend on where it stands, and what follows in brackets, after a blank
or after a comma does not change them. Hence texts that can be read on their own can be put in round
brackets between connectives, behind a sign and as the arguments of a call, and stand there for the
trees that they stand for on their own.
-/

namespace Trigger

/-- The spellings of the connectives. -/
def Connective.spellings : List (String × Connective) :=
  [("+", .binary .add), ("-", .binary .sub), ("*", .binary .mul), ("/", .binary .div),
    ("%", .binary .rem), ("<", .binary .lt), ("<=", .binary .le), (">", .binary .gt),
    (">=", .binary .ge), ("=", .binary .looseEq), ("==", .binary .looseEq),
    ("!=", .binary .looseNe), ("===", .binary .strictEq), ("!==", .binary .strictNe),
    ("&&", .logical .and), ("AND", .logical .and), ("||", .logical .or), ("OR", .logical .or)]

/-- No class is looser than the last one. -/
theorem Connective.rank_le (c : Connective) : c.rank ≤ 6 := by
  unfold Connective.rank
  split <;> decide

/-- Each connective that is spelled has a class of strength. -/
theorem Connective.rank_ne_zero_of_mem {op : String} {c : Connective}
    (h : (op, c) ∈ Connective.spellings) : c.rank ≠ 0 := by
  have hall : ∀ entry ∈ Connective.spellings, entry.2.rank ≠ 0 := by decide
  exact hall (op, c) h

namespace Lexeme

/-- A text is made up of lexemes. -/
def Spells (s : List Char) (xs : List Lexeme) : Prop :=
  ∃ tokens, Token.readFrom 0 s = .ok tokens ∧ tokens.map (·.lexeme) = xs

variable {s rest : List Char} {xs ys : List Lexeme}

/-- A text is made up of the same lexemes wherever it stands. -/
theorem Spells.readFrom (h : Spells s xs) (position : Nat) :
    ∃ tokens, Token.readFrom position s = .ok tokens ∧ tokens.map (·.lexeme) = xs := by
  obtain ⟨tokens, htokens, rfl⟩ := h
  refine ⟨tokens.map (Token.shift position), ?_, by rw [List.map_map]; rfl⟩
  have hmoved := Token.readFrom_add 0 position s
  rw [Nat.zero_add, htokens] at hmoved
  exact hmoved

/-- A text without characters has no lexemes. -/
theorem spells_nil : Spells [] [] := ⟨[], by rw [Token.readFrom], rfl⟩

/-- A text with a detached one behind it. -/
theorem Spells.append (h : Spells s xs) (hrest : Spells rest ys) (hdetached : Detached rest) :
    Spells (s ++ rest) (xs ++ ys) := by
  obtain ⟨tokens, htokens, rfl⟩ := h
  obtain ⟨more, hmore, rfl⟩ := hrest.readFrom (0 + s.length)
  refine ⟨tokens ++ more, ?_, List.map_append⟩
  rw [Token.readFrom_append htokens hdetached, hmore]
  rfl

/-- A lexeme in front of a text. -/
theorem Spells.cons {c : Char} {x : Lexeme} (h : Spells rest ys) (hspace : Text.isSpace c = false)
    (hread : readAt c rest = .ok ([x], 0)) : Spells (c :: rest) (x :: ys) := by
  obtain ⟨more, hmore, rfl⟩ := h.readFrom (0 + 1)
  refine ⟨⟨x, 0⟩ :: more, ?_, rfl⟩
  rw [Token.readFrom, hspace, hread]
  simp only [Bool.false_eq_true, if_false, List.drop_zero, Nat.add_zero, hmore]
  rfl

/-- A blank in front of a text. -/
theorem Spells.blank (h : Spells rest ys) : Spells (' ' :: rest) ys := by
  obtain ⟨more, hmore, rfl⟩ := h.readFrom (0 + 1)
  exact ⟨more, by rw [readFrom_blank, hmore], rfl⟩

/-- A text that is one lexeme. -/
theorem spells_singleton {c : Char} {cs : List Char} {x : Lexeme} (hspace : Text.isSpace c = false)
    (hread : readAt c cs = .ok ([x], cs.length)) : Spells (c :: cs) [x] := by
  refine ⟨[⟨x, 0⟩], ?_, rfl⟩
  rw [Token.readFrom, hspace, hread]
  simp only [Bool.false_eq_true, if_false, List.drop_length]
  rw [Token.readFrom]
  rfl

/-- A lexeme that reads back is its own text's only lexeme. -/
theorem ReadsBack.spells {x : Lexeme} (h : x.ReadsBack) : Spells x.written [x] := by
  obtain ⟨c, cs, hwritten, hspace, hread⟩ := h
  have hend : readAt c cs = .ok ([x], cs.length) := by simpa using hread [] trivial
  exact hwritten ▸ spells_singleton hspace hend

/-- A text in round brackets, with a text behind it. -/
theorem Spells.round (h : Spells s xs) (hrest : Spells rest ys) :
    Spells ('(' :: (s ++ ')' :: rest)) (.openRound :: xs ++ .closeRound :: ys) :=
  (h.append (hrest.cons (by decide) rfl) ⟨by decide, by decide⟩).cons (by decide) rfl

/-- A connective is one lexeme in each of its spellings. -/
theorem spells_connective {op : String} {c : Connective} (h : (op, c) ∈ Connective.spellings) :
    ∃ x, Spells op.toList [x] ∧ x.connective? = some c := by
  simp only [Connective.spellings, List.mem_cons, Prod.mk.injEq, List.not_mem_nil, or_false] at h
  rcases h with ⟨rfl, rfl⟩ | ⟨rfl, rfl⟩ | ⟨rfl, rfl⟩ | ⟨rfl, rfl⟩ | ⟨rfl, rfl⟩ | ⟨rfl, rfl⟩ |
    ⟨rfl, rfl⟩ | ⟨rfl, rfl⟩ | ⟨rfl, rfl⟩ | ⟨rfl, rfl⟩ | ⟨rfl, rfl⟩ | ⟨rfl, rfl⟩ | ⟨rfl, rfl⟩ |
    ⟨rfl, rfl⟩ | ⟨rfl, rfl⟩ | ⟨rfl, rfl⟩ | ⟨rfl, rfl⟩ | ⟨rfl, rfl⟩ <;>
    exact ⟨_, spells_singleton rfl rfl, rfl⟩

end Lexeme

namespace Expr

open Grammar (Derives Joins)
open Lexeme (Spells Detached)

variable {xs ys : List Lexeme} {a b e : Expr}

/-- A text stands for a tree exactly when its lexemes make up the tree. -/
theorem read_eq_ok_iff {text : String} :
    Expr.read text = .ok e ↔ ∃ xs, Spells text.toList xs ∧ Derives xs (.row 6 e) := by
  rw [read_eq_ok_iff_derives]
  constructor
  · rintro ⟨tokens, htokens, hderives⟩
    exact ⟨_, ⟨tokens, htokens, rfl⟩, hderives⟩
  · rintro ⟨_, ⟨tokens, htokens, rfl⟩, hderives⟩
    exact ⟨tokens, htokens, hderives⟩

/-- A row in round brackets is an operand of every class. -/
theorem derives_round (h : Derives xs (.row 6 e)) (k : Nat) :
    Derives (.openRound :: xs ++ [.closeRound]) (.row k e) := by
  have hprimary : Derives (.openRound :: xs ++ [.closeRound]) (.primary e) := .round h
  exact derives_row_mono (.unsigned (.alone (.start hprimary))) (Nat.zero_le k)

/-- Rows in round brackets with a connective between them are joined by it. -/
theorem derives_join_round {x : Lexeme} {c : Connective} (hx : x.connective? = some c)
    (hrank : c.rank ≠ 0) (ha : Derives xs (.row 6 a)) (hb : Derives ys (.row 6 b)) :
    Derives (.openRound :: xs ++ .closeRound :: x :: .openRound :: ys ++ [.closeRound])
      (.row 6 (c.join a b)) := by
  obtain ⟨k, hk⟩ := Nat.exists_eq_succ_of_ne_zero hrank
  have hjoins : Joins (k + 1) x c := Grammar.joins_iff.mpr ⟨hx, hk, Nat.succ_pos k⟩
  have hle : k + 1 ≤ 6 := by
    have hc := c.rank_le
    omega
  have hrow := Derives.join (derives_round ha (k + 1)) hjoins (derives_round hb k)
  simpa using derives_row_mono hrow hle

/-- A call of a name with two arguments. -/
theorem derives_call_pair {f : String} (hname : IsName f) (ha : Derives xs (.row 6 a))
    (hb : Derives ys (.row 6 b)) :
    Derives (.ofWord f :: .openRound :: xs ++ .comma :: ys ++ [.closeRound])
      (.row 6 (.call (.name f) [a, b])) := by
  have hitems : Derives (xs ++ .comma :: ys) (.list .round [a, b]) :=
    .someItems (.moreItems (.plain ha) (.lastItem (.plain hb)))
  have hcall : Derives ([.ofWord f] ++ .openRound :: (xs ++ .comma :: ys) ++ [.closeRound])
      (.chain (.call (.name f) [a, b])) := .call (.start (.name hname.names)) hitems
  simpa using derives_row_mono (.unsigned (.alone hcall)) (Nat.zero_le 6)

/-! ## Texts -/

variable {e₁ e₂ : String} {n₁ n₂ : Expr}

/-- Two texts in round brackets with a connective between them. -/
theorem read_join (h₁ : Expr.read e₁ = .ok n₁) (h₂ : Expr.read e₂ = .ok n₂) {op : String}
    {c : Connective} (hop : (op, c) ∈ Connective.spellings) :
    Expr.read ("(" ++ e₁ ++ ") " ++ op ++ " (" ++ e₂ ++ ")") = .ok (c.join n₁ n₂) := by
  obtain ⟨xs, hxs, hn₁⟩ := read_eq_ok_iff.mp h₁
  obtain ⟨ys, hys, hn₂⟩ := read_eq_ok_iff.mp h₂
  obtain ⟨x, hx, hconnective⟩ := Lexeme.spells_connective hop
  have hright : Spells (' ' :: '(' :: (e₂.toList ++ [')'])) (.openRound :: ys ++ [.closeRound]) :=
    (hys.round Lexeme.spells_nil).blank
  have hmiddle := (hx.append hright ⟨by decide, by decide⟩).blank
  refine read_eq_ok_iff.mpr ⟨_, ?_, derives_join_round hconnective
    (Connective.rank_ne_zero_of_mem hop) hn₁ hn₂⟩
  simpa using hxs.round hmiddle

/-- A text in round brackets behind the sign of negation. -/
theorem read_not (h : Expr.read e₁ = .ok n₁) :
    Expr.read ("!(" ++ e₁ ++ ")") = .ok (.unary .not n₁) := by
  obtain ⟨xs, hxs, hn₁⟩ := read_eq_ok_iff.mp h
  have hround := (hxs.round Lexeme.spells_nil).cons (c := '!') (x := .not) (by decide) rfl
  have hsign := derives_row_mono (.sign .not (derives_round hn₁ 0)) (Nat.zero_le 6)
  refine read_eq_ok_iff.mpr ⟨_, ?_, hsign⟩
  simpa using hround

/-- Two texts as the arguments of a call. -/
theorem read_call_pair (h₁ : Expr.read e₁ = .ok n₁) (h₂ : Expr.read e₂ = .ok n₂) {f : String}
    (hname : IsName f) :
    Expr.read (f ++ "(" ++ e₁ ++ ", " ++ e₂ ++ ")") = .ok (.call (.name f) [n₁, n₂]) := by
  obtain ⟨xs, hxs, hn₁⟩ := read_eq_ok_iff.mp h₁
  obtain ⟨ys, hys, hn₂⟩ := read_eq_ok_iff.mp h₂
  have hf : Spells f.toList [.ofWord f] := by
    simpa [written_of_names hname.names] using hname.readsBack.spells
  have hclose : Spells (e₂.toList ++ [')']) (ys ++ [.closeRound]) :=
    hys.append (Lexeme.spells_nil.cons (by decide) rfl) ⟨by decide, by decide⟩
  have hcomma := hclose.blank.cons (c := ',') (x := .comma) (by decide) rfl
  have hargs := (hxs.append hcomma ⟨by decide, by decide⟩).cons (c := '(') (x := .openRound)
    (by decide) rfl
  refine read_eq_ok_iff.mpr ⟨_, ?_, derives_call_pair hname hn₁ hn₂⟩
  simpa using hf.append hargs ⟨by decide, by decide⟩

/-- Texts that can be read on their own stand for the same trees in round brackets around any
connective, behind the sign of negation and as the arguments of a call. -/
theorem read_composed (h₁ : Expr.read e₁ = .ok n₁) (h₂ : Expr.read e₂ = .ok n₂) :
    (∀ op c, (op, c) ∈ Connective.spellings →
      Expr.read ("(" ++ e₁ ++ ") " ++ op ++ " (" ++ e₂ ++ ")") = .ok (c.join n₁ n₂)) ∧
    Expr.read ("!(" ++ e₁ ++ ")") = .ok (.unary .not n₁) ∧
    ∀ f, IsName f →
      Expr.read (f ++ "(" ++ e₁ ++ ", " ++ e₂ ++ ")") = .ok (.call (.name f) [n₁, n₂]) :=
  ⟨fun _ _ hop => read_join h₁ h₂ hop, read_not h₁, fun _ hname => read_call_pair h₁ h₂ hname⟩

/-- A bracket in a string closes nothing, and a looser connective stays inside. -/
theorem read_composed_quoted_bracket :
    let n₁ := logical .or (literal (.str ")")) (name "b")
    let n₂ := query "owner" .equals (literal (.int 1))
    Expr.read "\")\" || b" = .ok n₁ ∧ Expr.read "owner : 1" = .ok n₂ ∧
      ("AND", .logical .and) ∈ Connective.spellings ∧ IsName "contains" ∧
      Expr.read ("(" ++ "\")\" || b" ++ ") " ++ "AND" ++ " (" ++ "owner : 1" ++ ")") =
        .ok (.logical .and n₁ n₂) ∧
      Expr.read ("contains" ++ "(" ++ "\")\" || b" ++ ", " ++ "owner : 1" ++ ")") =
        .ok (.call (.name "contains") [n₁, n₂]) := by
  intro n₁ n₂
  have h₁ : Expr.read "\")\" || b" = .ok n₁ :=
    read_of_wellFormed (.logical (by simp) (.str ")") (.name (by decide))) (by decide +kernel)
  have h₂ : Expr.read "owner : 1" = .ok n₂ :=
    read_of_wellFormed (.query (by simp) (by decide) (.int 1 (by decide))) (by decide +kernel)
  have hop : ("AND", .logical .and) ∈ Connective.spellings := by decide
  have hname : IsName "contains" := by decide
  obtain ⟨hjoin, -, hcall⟩ := read_composed h₁ h₂
  exact ⟨h₁, h₂, hop, hname, hjoin _ _ hop, hcall _ hname⟩

end Expr

end Trigger
