import Trigger.Function.Builtin
import Trigger.Proofs.Text.Search

/-!
# Terms and the lower case of texts

A term is looked for in lower case, and so is the text, each on its own. The lower case of a text is
that of its parts, each one where it stands: around it nothing but the letters next to a capital
sigma matter, which is a final sigma behind a letter and not in front of one. So a term that stands
in a text is found there exactly if each of its capital sigmas is a final one in the term where it
is one in the text. A term that ends in a capital sigma is missed inside of a longer word.
-/

namespace Trigger

namespace Text

/-! ## Parts of a text -/

/-- Whether a capital sigma between two texts is a final one. -/
def isFinalSigma (before after : List Char) : Bool := casedNext before.reverse && !casedNext after

/-- The lower case of a part of a text that stands after `before` (in reverse) and in front of
`after`. -/
def lowerBetween (before : List Char) : (part after : List Char) → List Char
  | [], _ => []
  | c :: part, after => lowerAt before c (part ++ after) ++ lowerBetween (c :: before) part after

/-- The lower case of a text is that of a first part and then that of the rest. -/
theorem lowerAfter_append (before part after : List Char) :
    lowerAfter before (part ++ after) =
      lowerBetween before part after ++ lowerAfter (part.reverse ++ before) after := by
  induction part generalizing before with
  | nil => rfl
  | cons c part ih =>
    rw [List.cons_append, lowerAfter, ih, lowerBetween, List.append_assoc, List.reverse_cons,
      List.append_assoc]
    rfl

/-- The lower case of a text is that of the text as a part of itself. -/
theorem lower_eq_lowerBetween (s : List Char) : lower s = lowerBetween [] s [] := by
  have h := lowerAfter_append [] s []
  rwa [List.append_nil, lowerAfter, List.append_nil] at h

/-- The lower case of a part stands in that of the text. -/
theorem lowerBetween_isInfix (before part after : List Char) :
    lowerBetween before.reverse part after <:+: lower (before ++ part ++ after) := by
  rw [lower, List.append_assoc, lowerAfter_append, List.append_nil, lowerAfter_append,
    ← List.append_assoc]
  exact List.infix_append _ _ _

/-- The lower case of a capital sigma. -/
theorem lowerAt_sigma (before after : List Char) :
    lowerAt before.reverse 'Σ' after = [if isFinalSigma before after then 'ς' else 'σ'] := rfl

/-- A character has as many lower-case ones in one place as in another. -/
theorem length_lowerAt {before after before' after' : List Char} (c : Char) :
    (lowerAt before c after).length = (lowerAt before' c after').length := by
  unfold lowerAt
  split
  · rfl
  · split <;> rfl

/-- A character has the same lower case in two places unless it is a capital sigma that is final in
one of them only. -/
theorem lowerAt_eq_iff {before after before' after' : List Char} (c : Char) :
    lowerAt before.reverse c after = lowerAt before'.reverse c after' ↔
      (c = 'Σ' → isFinalSigma before after = isFinalSigma before' after') := by
  by_cases hsigma : c = 'Σ'
  · subst hsigma
    rw [lowerAt_sigma, lowerAt_sigma]
    cases isFinalSigma before after <;> cases isFinalSigma before' after' <;> simp
  · simp [lowerAt, hsigma]

/-- A part has the same lower case in two places exactly if each of its capital sigmas is final in
both of them or in none. -/
theorem lowerBetween_eq_iff {before after before' after' part : List Char} :
    lowerBetween before.reverse part after = lowerBetween before'.reverse part after' ↔
      ∀ p q, part = p ++ 'Σ' :: q →
        isFinalSigma (before ++ p) (q ++ after) = isFinalSigma (before' ++ p) (q ++ after') := by
  induction part generalizing before before' with
  | nil => simp [lowerBetween]
  | cons c part ih =>
    have hrest := @ih (before ++ [c]) (before' ++ [c])
    simp only [List.reverse_append, List.reverse_singleton, List.singleton_append] at hrest
    have hsplit : lowerBetween before.reverse (c :: part) after =
        lowerBetween before'.reverse (c :: part) after' ↔
        lowerAt before.reverse c (part ++ after) = lowerAt before'.reverse c (part ++ after') ∧
          lowerBetween (c :: before.reverse) part after =
            lowerBetween (c :: before'.reverse) part after' :=
      ⟨fun h => List.append_inj h (length_lowerAt c), fun h => by
        rw [lowerBetween, lowerBetween, h.1, h.2]⟩
    rw [hsplit, lowerAt_eq_iff, hrest]
    constructor
    · rintro ⟨hhead, htail⟩ p q hpart
      cases p with
      | nil =>
        obtain ⟨rfl, rfl⟩ := List.cons.inj hpart
        simpa using hhead rfl
      | cons d p =>
        obtain ⟨rfl, rfl⟩ := List.cons.inj hpart
        simpa using htail p q rfl
    · intro h
      refine ⟨?_, fun p q hpart => ?_⟩
      · rintro rfl
        simpa using h [] part rfl
      · simpa using h (c :: p) q (congrArg (c :: ·) hpart)

/-- A part has the lower case that it has on its own exactly if each of its capital sigmas is final
in the text where it is final in the part. -/
theorem lowerBetween_eq_lower_iff {before after part : List Char} :
    lowerBetween before.reverse part after = lower part ↔
      ∀ p q, part = p ++ 'Σ' :: q →
        isFinalSigma (before ++ p) (q ++ after) = isFinalSigma p q := by
  rw [lower_eq_lowerBetween]
  simpa using @lowerBetween_eq_iff before after [] [] part

end Text

namespace Builtin

open Text (isFinalSigma)

/-- A string is a term of a text if its lower case is a part of that of the text. -/
theorem hasTerm_str {text : List Char} {term : String} :
    hasTerm text (.str term) = true ↔ Text.lower term.toList <:+: Text.lower text :=
  Text.contains_iff_isInfix

/-- A string that stands in a text, with capital sigmas that are final there where they are final in
the string, is one of its terms. -/
theorem hasTerm_of_part {before after : List Char} {term : String}
    (hsigma : ∀ p q, term.toList = p ++ 'Σ' :: q →
      isFinalSigma (before ++ p) (q ++ after) = isFinalSigma p q) :
    hasTerm (before ++ term.toList ++ after) (.str term) = true :=
  hasTerm_str.mpr (Text.lowerBetween_eq_lower_iff.mpr hsigma ▸ Text.lowerBetween_isInfix ..)

/-- A term that stands in a text is found by all three predicates, if each of its capital sigmas is
final in the text where it is final in the term; this is so for every term without a capital
sigma. -/
theorem finds_part (settings : BuiltinSettings) {text term : String} {before after : List Char}
    (htext : text.toList = before ++ term.toList ++ after)
    (hsigma : ∀ p q, term.toList = p ++ 'Σ' :: q →
      isFinalSigma (before ++ p) (q ++ after) = isFinalSigma p q) :
    call settings .any [.str text, .str term] = pure (.bool true) ∧
      call settings .all [.str text, .str term] = pure (.bool true) ∧
      call settings .none [.str text, .str term] = pure (.bool false) := by
  have hterm : hasTerm (Value.str text).textOrEmpty.toList (.str term) = true :=
    htext ▸ hasTerm_of_part hsigma
  refine ⟨?_, ?_, ?_⟩ <;> simp [call, hterm]

/-- A word that ends in a capital sigma is found in front of a full stop, where it also ends. -/
theorem finds_part_at_end_of_word :
    "Η ΟΔΟΣ.".toList = "Η ".toList ++ "ΟΔΟΣ".toList ++ ".".toList ∧
    (∀ p q, "ΟΔΟΣ".toList = p ++ 'Σ' :: q →
      isFinalSigma ("Η ".toList ++ p) (q ++ ".".toList) = isFinalSigma p q) ∧
    call {} .any [.str "Η ΟΔΟΣ.", .str "ΟΔΟΣ"] = pure (.bool true) := by
  have hsigma : ∀ p q, "ΟΔΟΣ".toList = p ++ 'Σ' :: q →
      isFinalSigma ("Η ".toList ++ p) (q ++ ".".toList) = isFinalSigma p q :=
    Text.lowerBetween_eq_lower_iff.mp (by decide)
  exact ⟨rfl, hsigma, (finds_part {} (by rfl) hsigma).1⟩

/-- A term that ends in a capital sigma is missed where the word goes on: the term has a final sigma
and the text has none. -/
theorem misses_part_of_word :
    "ΑΣΑ".toList = [] ++ "ΑΣ".toList ++ "Α".toList ∧
      call {} .any [.str "ΑΣΑ", .str "ΑΣ"] = pure (.bool false) ∧
      call {} .all [.str "ΑΣΑ", .str "ΑΣ"] = pure (.bool false) ∧
      call {} .none [.str "ΑΣΑ", .str "ΑΣ"] = pure (.bool true) := by
  have hterm : hasTerm (Value.str "ΑΣΑ").textOrEmpty.toList (.str "ΑΣ") = false := by decide
  refine ⟨rfl, ?_, ?_, ?_⟩ <;> simp [call, hterm]

end Builtin

end Trigger
