import Mathlib.Data.List.Forall2
import Trigger.Proofs.Renumbering.Evaluation

/-!
# Scopes that agree

Surroundings agree if their scopes do one by one: a name of an accord has matching values in two
scopes, and a base has values that share their members. The scopes have the same labels, so a name
is found in the same one of both rows.
-/

namespace Trigger

variable {A : Accord}

/-- What a name stands for in two evaluations, as far as it is used. -/
structure Accord.Means (A : Accord) (name : String) (v w : Value) : Prop where
  matched : A.names name → Value.Matched A v w
  shares : A.bases name → Value.SharesMembers A v w

/-- Matching values mean the same. -/
theorem Value.Matched.means {v w : Value} (h : Value.Matched A v w) (name : String) :
    A.Means name v w :=
  ⟨fun _ => h, fun _ => .same h⟩

variable {rt rt' : Runtime}

/-- Two scopes in which the names that are used mean the same. -/
def ScopesAgree (A : Accord) (rt rt' : Runtime) (scope scope' : Value) : Prop :=
  ∀ name, A.names name ∨ A.bases name → Option.Rel (A.Means name)
    (ScopeChain.lookupIn rt name scope) (ScopeChain.lookupIn rt' name scope')

/-- Scopes that share their members agree. -/
theorem Value.SharesMembers.scopesAgree (hrt : RuntimesAgree A rt rt') {v w : Value}
    (h : Value.SharesMembers A v w) : ScopesAgree A rt rt' v w := by
  intro name _
  obtain ⟨hv, hw⟩ | ⟨a, b, hv, hw, hab⟩ := cases_of_rel (h.lookupIn hrt name)
  · rw [hv, hw]
    exact .none
  · rw [hv, hw]
    exact .some (hab.means name)

/-- Two rows of scopes with the same labels that agree one by one. -/
abbrev ChainsAgree (A : Accord) (rt rt' : Runtime) : ScopeChain → ScopeChain → Prop :=
  List.Forall₂ fun a b => a.1 = b.1 ∧ ScopesAgree A rt rt' a.2 b.2

/-- A name that is used is found in the same scope of both rows, and means the same. -/
theorem ChainsAgree.resolve {chain chain' : ScopeChain} (h : ChainsAgree A rt rt' chain chain')
    {name : String} (hname : A.names name ∨ A.bases name) :
    Option.Rel (fun found found' => found.2 = found'.2 ∧ A.Means name found.1 found'.1)
      (chain.resolve rt name) (chain'.resolve rt' name) := by
  induction h with
  | nil => exact .none
  | @cons a b rest rest' hscopes _ ih =>
    obtain ⟨label, scope⟩ := a
    obtain ⟨label', scope'⟩ := b
    obtain ⟨hlabel, hscopes⟩ := hscopes
    rw [ScopeChain.resolve, ScopeChain.resolve]
    obtain ⟨hv, hw⟩ | ⟨v, w, hv, hw, hmeans⟩ := cases_of_rel (hscopes name hname)
    · rw [hv, hw]
      exact ih
    · rw [hv, hw]
      exact .some ⟨hlabel, hmeans⟩

/-- Surroundings agree if their runtimes, scopes, texts and subjects do and they have the same
host. -/
theorem aroundsAgree_of_chains {a b : Surroundings} (hrt : RuntimesAgree A a.runtime b.runtime)
    (hscopes : ChainsAgree A a.runtime b.runtime a.scopes b.scopes) (htext : a.text = b.text)
    (hsubject : SubjectsAgree A a.subject b.subject) (hhost : a.host = b.host) :
    AroundsAgree A a b where
  runtime := hrt
  resolve := by
    intro x hx
    obtain ⟨ha, hb⟩ | ⟨found, found', ha, hb, hlabel, hmeans⟩ :=
      cases_of_rel (hscopes.resolve (.inl hx))
    · rw [ha, hb]
      rfl
    · rw [ha, hb]
      exact congrArg some (Prod.ext (hmeans.matched hx).1 hlabel.symm)
  within := by
    intro x found hx hfound
    obtain ⟨ha, -⟩ | ⟨found, found', ha, -, -, hmeans⟩ :=
      cases_of_rel (hscopes.resolve (.inl hx))
    · rw [ha] at hfound
      cases hfound
    · rw [ha] at hfound
      obtain rfl := Option.some.inj hfound
      exact (hmeans.matched hx).2
  text := fun _ _ _ _ _ => htext
  bases := by
    intro x hx
    unfold ScopeChain.valueOf
    obtain ⟨ha, hb⟩ | ⟨found, found', ha, hb, -, hmeans⟩ :=
      cases_of_rel (hscopes.resolve (.inr hx))
    · rw [ha, hb]
      exact .same (Value.matched_of_isData rfl)
    · rw [ha, hb]
      exact hmeans.shares hx
  subject := hsubject
  host := fun _ => hhost

end Trigger
