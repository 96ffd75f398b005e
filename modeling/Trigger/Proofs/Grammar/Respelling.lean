import Trigger.Proofs.Grammar.Completeness

/-!
# Names that are spelled in two ways

A word for a test of record queries is a plain name wherever it is not part of a query. So a name and
a word for a test with the same spelling can stand for each other in front of an opening bracket,
unless a colon stands before them: the row of lexemes makes up the same trees with either of them.
-/

namespace Trigger.Grammar

/-- Two rows that differ in one place only, where one has the lexeme `a` and the other one `b`. No
colon stands before that place, and nothing but an opening bracket behind it. -/
def Respelled (a b : Lexeme) (xs ys : List Lexeme) : Prop :=
  ∃ l r, xs = l ++ a :: r ∧ ys = l ++ b :: r ∧ l.getLast? ≠ some .colon ∧
    ∀ x ∈ r.head?, x = .openRound

namespace Respelled

variable {a b x : Lexeme} {xs ys zs : List Lexeme}

/-- The place is the first one, or it lies behind. -/
theorem of_cons (h : Respelled a b (x :: ys) zs) :
    (x = a ∧ zs = b :: ys ∧ ∀ y ∈ ys.head?, y = .openRound) ∨
      ∃ ys', Respelled a b ys ys' ∧ zs = x :: ys' := by
  obtain ⟨l, r, hxs, rfl, hl, hr⟩ := h
  cases l with
  | nil =>
    obtain ⟨rfl, rfl⟩ := List.cons.inj hxs
    exact .inl ⟨rfl, rfl, hr⟩
  | cons y l =>
    obtain ⟨rfl, rfl⟩ := List.cons.inj hxs
    refine .inr ⟨l ++ b :: r, ⟨l, r, rfl, rfl, ?_, hr⟩, rfl⟩
    cases l with
    | nil => simp
    | cons z l => simpa using hl

/-- The place lies behind a lexeme that is another one. -/
theorem of_cons_ne (h : Respelled a b (x :: ys) zs) (hx : x ≠ a) :
    ∃ ys', Respelled a b ys ys' ∧ zs = x :: ys' :=
  h.of_cons.resolve_left fun h => hx h.1

/-- The place lies in the first or in the second of two rows. -/
theorem of_append (h : Respelled a b (xs ++ ys) zs) :
    (∃ xs', Respelled a b xs xs' ∧ zs = xs' ++ ys) ∨
      ∃ ys', Respelled a b ys ys' ∧ zs = xs ++ ys' := by
  obtain ⟨l, r, hsplit, rfl, hl, hr⟩ := h
  rcases List.append_eq_append_iff.mp hsplit with ⟨l', rfl, rfl⟩ | ⟨_ | ⟨y, r'⟩, rfl, hys⟩
  · refine .inr ⟨l' ++ b :: r, ⟨l', r, rfl, rfl, fun hlast => hl ?_, hr⟩, List.append_assoc _ _ _⟩
    rw [List.getLast?_append, hlast]
    rfl
  · refine .inr ⟨b :: r, ⟨[], r, hys.symm, rfl, by simp, hr⟩, by simp⟩
  · obtain ⟨rfl, rfl⟩ := List.cons.inj hys
    refine .inl ⟨l ++ b :: r', ⟨l, r', rfl, rfl, hl, fun x hx => hr x ?_⟩, by simp⟩
    change x ∈ (r' ++ ys).head?
    rw [List.head?_append, hx]
    rfl

/-- There is a place. -/
theorem ne_nil (h : Respelled a b xs ys) : xs ≠ [] := by
  obtain ⟨l, r, rfl, -⟩ := h
  exact List.append_ne_nil_of_right_ne_nil l (List.cons_ne_nil a r)

/-- The place lies in front of a colon or behind it. In front, it is not the last one, so that a word
for a test there is no last one either; behind, it is not the first one. -/
theorem of_append_colon (h : Respelled a b (xs ++ .colon :: ys) zs) (ha : a ≠ .colon)
    (hb : b ≠ .dot) :
    (∃ xs', Respelled a b xs xs' ∧ (EndsInKeyword xs' → EndsInKeyword xs) ∧
        zs = xs' ++ .colon :: ys) ∨
      ∃ ys', Respelled a b ys ys' ∧ ys'.head? = ys.head? ∧ zs = xs ++ .colon :: ys' := by
  obtain ⟨l, r, hsplit, rfl, hl, hr⟩ := h
  rcases List.append_eq_append_iff.mp hsplit with ⟨l', rfl, hys⟩ | ⟨r', rfl, hys⟩
  · obtain _ | ⟨y, _ | ⟨z, l'⟩⟩ := l'
    · exact absurd (List.cons.inj hys).1.symm ha
    · obtain ⟨rfl, -⟩ := List.cons.inj hys
      exact absurd List.getLast?_concat hl
    · obtain ⟨rfl, rfl⟩ := List.cons.inj hys
      exact .inr ⟨_, ⟨z :: l', r, rfl, rfl, by simpa using hl, hr⟩, rfl, by simp⟩
  · obtain _ | ⟨y, _ | ⟨z, r'⟩⟩ := r'
    · exact absurd (List.cons.inj hys).1 ha
    · obtain ⟨-, rfl⟩ := List.cons.inj hys
      exact nomatch hr _ rfl
    · obtain ⟨rfl, rfl⟩ := List.cons.inj hys
      refine .inl ⟨_, ⟨l, z :: r', rfl, rfl, hl, by simpa using hr⟩, ?_, by simp⟩
      -- the point is the last but one lexeme, so the place is in front of both
      rintro ⟨ws, op, spelling, hends⟩
      rcases List.append_eq_append_iff.mp hends with ⟨_ | ⟨_, d⟩, rfl, hd⟩ | ⟨_ | ⟨_, _ | ⟨_, d⟩⟩, rfl, hd⟩
      · exact absurd (List.cons.inj hd).1 hb
      · exact ⟨l ++ a :: d, op, spelling, by simp [(List.cons.inj hd).2]⟩
      · exact absurd (List.cons.inj hd).1.symm hb
      · simp at hd
      · simp at hd

/-- The place lies in front of a last lexeme that is another one. -/
theorem of_concat_ne (h : Respelled a b (xs ++ [x]) zs) (hx : x ≠ a) :
    ∃ xs', Respelled a b xs xs' ∧ zs = xs' ++ [x] := by
  refine h.of_append.resolve_right fun ⟨ys', hys', _⟩ => ?_
  obtain ⟨_, hnil, -⟩ := hys'.of_cons_ne hx
  exact hnil.ne_nil rfl

end Respelled

/-- Whether lexemes start with a word for a test is decided by the first one. -/
theorem startsWithKeyword_iff {xs : List Lexeme} :
    StartsWithKeyword xs ↔ ∃ op spelling, xs.head? = some (.keyword op spelling) := by
  constructor
  · rintro ⟨op, spelling, ys, rfl⟩
    exact ⟨op, spelling, rfl⟩
  · rintro ⟨op, spelling, h⟩
    obtain ⟨ys, rfl⟩ := List.head?_eq_some_iff.mp h
    exact ⟨op, spelling, ys, rfl⟩

/-- A lexeme is one name at most. -/
theorem Names.unique {x : Lexeme} {p q : String} (hp : Names x p) (hq : Names x q) : p = q := by
  cases hp <;> cases hq <;> rfl

section

variable {a b : Lexeme} {s : String}

/-- Rows that differ in the spelling of a name make up the same phrases. -/
theorem Derives.respelled (ha : Names a s) (hb : Names b s) {xs ys : List Lexeme} {p : Phrase}
    (h : Derives xs p) (hspelled : Respelled a b xs ys) : Derives ys p := by
  have hne {x : Lexeme} (hx : ∀ t, ¬ Names x t) : x ≠ a := fun h => hx s (h ▸ ha)
  have hround : Lexeme.openRound ≠ a := hne nofun
  have hclose : Lexeme.closeRound ≠ a := hne nofun
  have hdot : Lexeme.dot ≠ a := hne nofun
  have hcolon : a ≠ .colon := (hne (x := .colon) nofun).symm
  have hpoint : b ≠ .dot := by
    rintro rfl
    cases hb
  have hname {x : Lexeme} {t : String} (hx : Names x t) (h : x = a) : Names b t := by
    subst h
    exact hx.unique ha ▸ hb
  induction h generalizing ys with
  | operand h ih => exact .operand (ih hspelled)
  | unsigned h ih => exact .unsigned (ih hspelled)
  | alone h ih => exact .alone (ih hspelled)
  | start h ih => exact .start (ih hspelled)
  | someItems h ih => exact .someItems (ih hspelled)
  | lastItem h ih => exact .lastItem (ih hspelled)
  | plain h ih => exact .plain (ih hspelled)
  | join hleft hjoin hright ihleft ihright =>
    rcases hspelled.of_append with ⟨xs', hxs, rfl⟩ | ⟨zs, hzs, rfl⟩
    · exact .join (ihleft hxs) hjoin hright
    · obtain ⟨ys', hys, rfl⟩ := hzs.of_cons_ne (hne fun t ht => by cases ht <;> cases hjoin)
      exact .join hleft hjoin (ihright hys)
  | sign hsign h ih =>
    obtain ⟨ys', hys, rfl⟩ := hspelled.of_cons_ne (hne fun t ht => by cases ht <;> cases hsign)
    exact .sign hsign (ih hys)
  | query hleft hend hfield hright hstart ihleft ihright =>
    rcases hspelled.of_append_colon hcolon hpoint with ⟨xs', hxs, hends, rfl⟩ | ⟨ys', hys, hhead, rfl⟩
    · exact .query (ihleft hxs) (hend ∘ hends) hfield hright hstart
    · refine .query hleft hend hfield (ihright hys) fun hstarts => hstart ?_
      rw [startsWithKeyword_iff] at hstarts ⊢
      rwa [← hhead]
  | queryColon hleft hend hfield hright ihleft ihright =>
    rcases hspelled.of_append_colon hcolon hpoint with ⟨xs', hxs, hends, rfl⟩ | ⟨zs, hzs, hhead, rfl⟩
    · exact .queryColon (ihleft hxs) (hend ∘ hends) hfield hright
    · rcases hzs.of_cons with ⟨rfl, rfl, -⟩ | ⟨ys', hys, rfl⟩
      · obtain rfl := Option.some.inj hhead
        exact .queryColon hleft hend hfield hright
      · exact .queryColon hleft hend hfield (ihright hys)
  | queryDot hleft hfield hright ihleft ihright =>
    rcases hspelled.of_append with ⟨xs', hxs, rfl⟩ | ⟨zs, hzs, rfl⟩
    · exact .queryDot (ihleft hxs) hfield hright
    · obtain ⟨zs, htest, rfl⟩ := hzs.of_cons_ne hdot
      rcases htest.of_cons with ⟨-, -, hnext⟩ | ⟨zs, hmark, rfl⟩
      · exact nomatch hnext _ rfl
      · obtain ⟨ys', hys, rfl⟩ := hmark.of_cons_ne hcolon.symm
        exact .queryDot hleft hfield (ihright hys)
  | property h hx ih =>
    rcases hspelled.of_append with ⟨xs', hxs, rfl⟩ | ⟨zs, hzs, rfl⟩
    · exact .property (ih hxs) hx
    · obtain ⟨zs, hlast, rfl⟩ := hzs.of_cons_ne hdot
      rcases hlast.of_cons with ⟨hplace, rfl, -⟩ | ⟨zs, hnil, -⟩
      · exact .property h (hname hx hplace)
      · exact absurd rfl hnil.ne_nil
  | method h hx hargs ih ihargs =>
    obtain ⟨zs, hzs, rfl⟩ := hspelled.of_concat_ne hclose
    rcases hzs.of_append with ⟨xs', hxs, rfl⟩ | ⟨zs, hbehind, rfl⟩
    · exact .method (ih hxs) hx hargs
    · obtain ⟨zs, hmethod, rfl⟩ := hbehind.of_cons_ne hdot
      rcases hmethod.of_cons with ⟨hplace, rfl, -⟩ | ⟨zs, hbracket, rfl⟩
      · exact .method h (hname hx hplace) hargs
      · obtain ⟨ys', hys, rfl⟩ := hbracket.of_cons_ne hround
        exact .method h hx (ihargs hys)
  | index h hkey ih ihkey =>
    obtain ⟨zs, hzs, rfl⟩ := hspelled.of_concat_ne (hne nofun)
    rcases hzs.of_append with ⟨xs', hxs, rfl⟩ | ⟨zs, hbehind, rfl⟩
    · exact .index (ih hxs) hkey
    · obtain ⟨ys', hys, rfl⟩ := hbehind.of_cons_ne (hne nofun)
      exact .index h (ihkey hys)
  | call h hargs ih ihargs =>
    obtain ⟨zs, hzs, rfl⟩ := hspelled.of_concat_ne hclose
    rcases hzs.of_append with ⟨xs', hxs, rfl⟩ | ⟨zs, hbehind, rfl⟩
    · exact .call (ih hxs) hargs
    · obtain ⟨ys', hys, rfl⟩ := hbehind.of_cons_ne hround
      exact .call h (ihargs hys)
  | constant c =>
    obtain ⟨zs, hnil, -⟩ := hspelled.of_cons_ne (hne nofun)
    exact absurd rfl hnil.ne_nil
  | name hx =>
    rcases hspelled.of_cons with ⟨hplace, rfl, -⟩ | ⟨zs, hnil, -⟩
    · exact .name (hname hx hplace)
    · exact absurd rfl hnil.ne_nil
  | round h ih =>
    obtain ⟨zs, hzs, rfl⟩ := hspelled.of_concat_ne hclose
    obtain ⟨xs', hxs, rfl⟩ := hzs.of_cons_ne hround
    exact .round (ih hxs)
  | square h ih =>
    obtain ⟨zs, hzs, rfl⟩ := hspelled.of_concat_ne (hne nofun)
    obtain ⟨xs', hxs, rfl⟩ := hzs.of_cons_ne (hne nofun)
    exact .square (ih hxs)
  | noItems bracket => exact absurd rfl hspelled.ne_nil
  | moreItems h hrest ih ihrest =>
    rcases hspelled.of_append with ⟨xs', hxs, rfl⟩ | ⟨zs, hzs, rfl⟩
    · exact .moreItems (ih hxs) hrest
    · obtain ⟨ys', hys, rfl⟩ := hzs.of_cons_ne (hne nofun)
      exact .moreItems h (ihrest hys)
  | arrow h ih =>
    rcases hspelled.of_cons with ⟨-, -, hnext⟩ | ⟨zs, hzs, rfl⟩
    · exact nomatch hnext _ rfl
    · obtain ⟨xs', hxs, rfl⟩ := hzs.of_cons_ne (hne nofun)
      exact .arrow (ih hxs)
  | arrowRound h ih =>
    obtain ⟨zs, hzs, rfl⟩ := hspelled.of_cons_ne hround
    rcases hzs.of_cons with ⟨-, -, hnext⟩ | ⟨zs, hbracket, rfl⟩
    · exact nomatch hnext _ rfl
    · obtain ⟨zs, harrow, rfl⟩ := hbracket.of_cons_ne hclose
      obtain ⟨xs', hxs, rfl⟩ := harrow.of_cons_ne (hne nofun)
      exact .arrowRound (ih hxs)

end

end Trigger.Grammar
