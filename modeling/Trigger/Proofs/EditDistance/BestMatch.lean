import Trigger.Function.Builtin
import Trigger.Proofs.Decimal.Ratio
import Trigger.Proofs.EditDistance.Table

/-!
# The best match

A scan keeps the candidate that is most similar to a target among those that reach a threshold, and
of equals the first one. It starts from a similarity of minus one, below which none is: a distance is
not greater than the greater one of the two lengths. Hence the scan finds a candidate if and only if
one reaches the threshold, be it negative or not a number, and looking for a similar word agrees with
finding the best one.
-/

namespace Trigger

namespace Similarity

variable {α : Type} {score : α → Float} {threshold : Float} {items : List α} {c : α}

/-! ## The range of similarities -/

/-- As many edits as the longer text has characters are enough. -/
theorem aligned_max : (a b : List Char) → Aligned a b (max a.length b.length)
  | [], b => by simpa using Aligned.nil_left b
  | c :: a, [] => by simpa using Aligned.nil_right (c :: a)
  | c :: a, d :: b => by
    simpa only [List.length_cons, Nat.succ_max_succ] using (aligned_max a b).replace c d

/-- A similarity that reaches a threshold is greater than minus one. -/
theorem neg_one_lt_similarity {a b : List Char} (h : threshold ≤ similarity a b) :
    -1.0 < similarity a b := by
  refine Decimal.neg_one_lt ?_ h
  unfold similarity
  dsimp only
  split
  · trivial
  · next hne =>
    exact Decimal.isNonnegative_one_sub_div (Nat.pos_of_ne_zero hne)
      ((least_distance a b).le (aligned_max a b))

/-! ## The scan -/

/-- An item is the first one of those with the greatest score, and its score reaches a threshold. -/
structure IsFirstBest (score : α → Float) (threshold : Float) (items : List α) (c : α) : Prop where
  reaches : threshold ≤ score c
  greatest : ∀ o ∈ items, ¬score c < score o
  first : ∃ before after, items = before ++ c :: after ∧ ∀ o ∈ before, ¬(score o == score c) = true

/-- What a scan has found among the items it has seen. -/
def Found (score : α → Float) (threshold : Float) (seen : List α) : Option (α × Float) → Prop
  | none => ∀ o ∈ seen, ¬threshold ≤ score o
  | some (c, x) => x = score c ∧ IsFirstBest score threshold seen c

/-- What a scan has found behind one more item. -/
def advance (score : α → Float) (threshold : Float) (found : Option (α × Float)) (c : α) :
    Option (α × Float) :=
  if threshold ≤ score c && (found.map (·.2)).getD (-1.0) < score c then some (c, score c) else found

/-- One more item is seen. -/
theorem Found.advance {seen : List α} {found : Option (α × Float)}
    (h : Found score threshold seen found) (hleast : threshold ≤ score c → -1.0 < score c) :
    Found score threshold (seen ++ [c]) (advance score threshold found c) := by
  unfold Similarity.advance
  split
  case isTrue hnew =>
    obtain ⟨hreaches, hrecord⟩ : threshold ≤ score c ∧ (found.map (·.2)).getD (-1.0) < score c := by
      simpa using hnew
    have hbeaten (o : α) (ho : o ∈ seen) : ¬score c ≤ score o := by
      intro hle
      cases found with
      | none => exact h o ho (Decimal.le_trans hreaches hle)
      | some best =>
        obtain ⟨hscore, hbest⟩ := h
        exact hbest.greatest o ho (hscore ▸ Decimal.lt_of_lt_of_le hrecord hle)
    refine ⟨rfl, hreaches, fun o ho hlt => ?_, seen, [], rfl, fun o ho heq => ?_⟩
    · rcases List.mem_append.mp ho with ho | ho
      · exact hbeaten o ho (Decimal.le_of_lt hlt)
      · obtain rfl := List.mem_singleton.mp ho
        exact Decimal.lt_irrefl _ hlt
    · exact hbeaten o ho (Decimal.ge_of_beq heq)
  case isFalse hold =>
    cases found with
    | none =>
      intro o ho
      rcases List.mem_append.mp ho with ho | ho
      · exact h o ho
      · obtain rfl := List.mem_singleton.mp ho
        intro hreaches
        exact hold (by simpa [hreaches] using hleast hreaches)
    | some best =>
      obtain ⟨hscore, hreaches, hgreatest, before, after, rfl, hfirst⟩ := h
      refine ⟨hscore, hreaches, fun o ho hlt => ?_, before, after ++ [c], by simp, hfirst⟩
      rcases List.mem_append.mp ho with ho | ho
      · exact hgreatest o ho hlt
      · obtain rfl := List.mem_singleton.mp ho
        have hreaches' := Decimal.le_trans hreaches (Decimal.le_of_lt hlt)
        exact hold (by simpa [hscore, hreaches'] using hlt)

/-- All items are seen, one after the other. -/
theorem Found.foldl {seen : List α} {found : Option (α × Float)}
    (h : Found score threshold seen found)
    (hleast : ∀ c ∈ items, threshold ≤ score c → -1.0 < score c) :
    Found score threshold (seen ++ items) (items.foldl (Similarity.advance score threshold) found) := by
  induction items generalizing seen found with
  | nil => simpa using h
  | cons c items ih =>
    have hstep := h.advance (hleast c (List.mem_cons_self ..))
    rw [List.foldl_cons, List.append_cons]
    exact ih hstep fun o ho => hleast o (List.mem_cons_of_mem c ho)

/-- The best candidate is the first one of those most similar to the target, and there is none only
if no candidate reaches the threshold. -/
theorem found_best (textOf : α → List Char) (target : List Char) (threshold : Float)
    (candidates : List α) :
    Found (fun c => similarity (Text.lower (textOf c)) (Text.lower target)) threshold candidates
      (best textOf target threshold candidates) := by
  have hnone : Found (fun c => similarity (Text.lower (textOf c)) (Text.lower target)) threshold []
      none := fun _ h => nomatch h
  exact hnone.foldl fun _ _ h => neg_one_lt_similarity h

end Similarity

namespace Builtin

open Similarity

/-- The threshold that a call asks for. It can be left out. -/
def thresholdOf (settings : BuiltinSettings) : List Value → Except Fault Float
  | [] => .ok settings.fuzzyThreshold
  | [v] => if v.isNullish then .ok settings.fuzzyThreshold else v.toNumber
  | _ => .error .wrongArguments

/-- How similar a run of word characters is to a word, without regard to case. -/
def closeness (word run : List Char) : Float := similarity (Text.lower run) (Text.lower word)

variable {settings : BuiltinSettings} {text word : Value} {args : List Value}

/-- A threshold that is given or left out is read before anything is looked for. -/
theorem numberOr_eq (settings : BuiltinSettings) (v : Value) :
    numberOr settings.fuzzyThreshold v = Eval.ofExcept (thresholdOf settings [v]) := by
  rw [numberOr, thresholdOf]
  split <;> rfl

/-- Looking for a similar word. -/
theorem call_fuzzy (settings : BuiltinSettings) (text word : Value) (args : List Value) :
    call settings .fuzzy (text :: word :: args) = do
      let x ← Eval.ofExcept (thresholdOf settings args)
      return .bool (hasSimilar text.textOrEmpty.toList word.textOrEmpty.toList x) := by
  rcases args with _ | ⟨v, _ | ⟨w, args⟩⟩
  · rfl
  · rw [← numberOr_eq]
    rfl
  · rfl

/-- Finding the word that is most similar. -/
theorem call_fuzzyFind (settings : BuiltinSettings) (text word : Value) (args : List Value) :
    call settings .fuzzyFind (text :: word :: args) = do
      let x ← Eval.ofExcept (thresholdOf settings args)
      return call.bestMatch text.textOrEmpty.toList word x := by
  rcases args with _ | ⟨v, _ | ⟨w, args⟩⟩
  · rfl
  · rw [← numberOr_eq]
    rfl
  · rfl

/-- There is a similar word if and only if there is a best one. -/
theorem hasSimilar_eq_isSome (text word : List Char) (x : Float) :
    hasSimilar text word x = (best id word x (candidates text word)).isSome := by
  have hfound := found_best id word x (candidates text word)
  cases hbest : best id word x (candidates text word) with
  | none =>
    rw [hbest] at hfound
    refine List.any_eq_false.mpr fun run hrun => ?_
    simpa [isClose] using hfound run hrun
  | some best =>
    rw [hbest] at hfound
    obtain ⟨-, hreaches, -, before, after, hwords, -⟩ := hfound
    refine List.any_eq_true.mpr ⟨best.1, ?_, by simpa [isClose] using hreaches⟩
    rw [hwords]
    exact List.mem_append_right _ (List.mem_cons_self ..)

/-- Looking for a similar word agrees with finding the best one. Both calls fail alike where the
threshold is no number, and else the one answers whether the other one finds a word. The word found
is a candidate that reaches the threshold, none is more similar, and none before it is as similar.
If no word is found, then no candidate reaches the threshold. -/
theorem fuzzy_agrees (settings : BuiltinSettings) (text word : Value) (args : List Value) :
    let word' := word.textOrEmpty.toList
    let words := candidates text.textOrEmpty.toList word'
    (∀ fault, thresholdOf settings args = .error fault →
      call settings .fuzzy (text :: word :: args) = throw fault ∧
      call settings .fuzzyFind (text :: word :: args) = throw fault) ∧
    ∀ x, thresholdOf settings args = .ok x → ∃ found : Option (List Char),
      call settings .fuzzy (text :: word :: args) = pure (.bool found.isSome) ∧
      call settings .fuzzyFind (text :: word :: args) =
        pure ((found.map (.str ∘ String.ofList)).getD .null) ∧
      (∀ run, found = some run → IsFirstBest (closeness word') x words run) ∧
      (found = Option.none → ∀ run ∈ words, ¬x ≤ closeness word' run) := by
  intro word' words
  constructor
  · intro fault hfault
    rw [call_fuzzy, call_fuzzyFind, hfault]
    exact ⟨rfl, rfl⟩
  · intro x hx
    have hfound := found_best id word' x words
    have hfuzzy : call settings .fuzzy (text :: word :: args) =
        pure (.bool (hasSimilar text.textOrEmpty.toList word' x)) := by
      rw [call_fuzzy, hx]
      rfl
    have hfind : call settings .fuzzyFind (text :: word :: args) =
        pure (call.bestMatch text.textOrEmpty.toList word x) := by
      rw [call_fuzzyFind, hx]
      rfl
    rw [hfuzzy, hfind, hasSimilar_eq_isSome, call.bestMatch]
    cases hbest : best id word' x words with
    | none =>
      rw [hbest] at hfound
      exact ⟨Option.none, rfl, rfl, fun _ h => (nomatch h), fun _ => hfound⟩
    | some best =>
      rw [hbest] at hfound
      refine ⟨some best.1, rfl, rfl, ?_, fun h => nomatch h⟩
      rintro run ⟨⟩
      exact hfound.2

/-- The word that is most similar is the match. -/
theorem bestMatch_of_best {text run : List Char} {word : Value} {x score : Float}
    (h : best id word.textOrEmpty.toList x (candidates text word.textOrEmpty.toList) =
      some (run, score)) : call.bestMatch text word x = .str (String.ofList run) := by
  rw [call.bestMatch, h]

/-- Two words that differ from a third one in one letter of five are at the threshold that is asked
for if none is given, and the first of them is found. -/
theorem fuzzy_agrees_at_default :
    let word' := "Hello".toList
    let words := candidates "hallo, hullo".toList word'
    thresholdOf {} [] = .ok 0.8 ∧
      call {} .fuzzy [.str "hallo, hullo", .str "Hello"] = pure (.bool true) ∧
      call {} .fuzzyFind [.str "hallo, hullo", .str "Hello"] = pure (.str "hallo") ∧
      IsFirstBest (closeness word') 0.8 words "hallo".toList := by
  intro word' words
  obtain ⟨found, hfuzzy, hfind, hbest, -⟩ :=
    (fuzzy_agrees {} (.str "hallo, hullo") (.str "Hello") []).2 0.8 rfl
  have hfirst : (best id word' 0.8 words).map (·.1) = some "hallo".toList := by decide +kernel
  have hmatch : call.bestMatch "hallo, hullo".toList (.str "Hello") 0.8 = .str "hallo" := by
    obtain ⟨⟨run, score⟩, hrun, rfl⟩ := Option.map_eq_some_iff.mp hfirst
    exact bestMatch_of_best hrun
  have hcall : call {} .fuzzyFind [.str "hallo, hullo", .str "Hello"] = pure (.str "hallo") := by
    rw [call_fuzzyFind]
    exact congrArg (pure : Value → Eval Value) hmatch
  have hresult := congrArg (fun x : Eval Value => (x.run.run {}).1) (hfind.symm.trans hcall)
  cases found with
  | none => exact nomatch hresult
  | some run =>
    have hrun : String.ofList run = "hallo" := Value.str.inj (Except.ok.inj hresult)
    obtain rfl : run = "hallo".toList := by rw [← hrun, String.toList_ofList]
    exact ⟨rfl, hfuzzy, hcall, hbest _ rfl⟩

end Builtin

end Trigger
