import Trigger.Proofs.Comparison.Symmetry
import Trigger.Proofs.Mention.Influence
import Trigger.Proofs.Renumbering.Scopes

/-!
# Hidden attributes

The members of an object are its attributes whose names do not start with an underscore. An
expression that takes members of an object, uses it as a number or a truth value or compares it with
a constant, but does nothing else with it, has the same outcome for every object with these members,
whatever its hidden attributes are, as far as it comes out the same if arrow functions do not show
the scene in which they are made. The text of an object on the other hand shows all its attributes,
and two objects are equal only if they are one object or have the same ones.
-/

namespace Trigger

/-! ## Objects that differ in hidden attributes -/

namespace Value

/-- The names of attributes that are no members. -/
def IsHidden (name : String) : Prop := name.toList.head? = some '_'

/-- Two objects with the same members, which are plain data. -/
inductive DiffersInHidden : Value → Value → Prop where
  | objects {attributes others : Fields}
      (same : ∀ name, ¬ IsHidden name → others.lookup name = attributes.lookup name)
      (data : ∀ name v, ¬ IsHidden name → attributes.lookup name = some v → v.isData = true) :
      DiffersInHidden (.object attributes) (.object others)

/-- The same data, or objects that differ in hidden attributes if the name may stand for them. -/
def AlikeAt (objects : List String) (name : String) (v w : Value) : Prop :=
  (v = w ∧ v.isData = true) ∨ name ∈ objects ∧ DiffersInHidden v w

/-- The values of all names are alike. -/
def FieldsAlike (objects : List String) (fields others : Fields) : Prop :=
  ∀ name, Option.Rel (AlikeAt objects name) (fields.lookup name) (others.lookup name)

variable {objects : List String} {v w : Value} {fields others : Fields}

/-- Objects that differ in hidden attributes in the other order. -/
theorem DiffersInHidden.symm (h : DiffersInHidden v w) : DiffersInHidden w v := by
  cases h with
  | objects same data =>
    refine .objects (fun name hname => (same name hname).symm) fun name u hname hu => ?_
    exact data name u hname (same name hname ▸ hu)

/-- Values that are alike in the other order. -/
theorem AlikeAt.symm {name : String} (h : AlikeAt objects name v w) :
    AlikeAt objects name w v := by
  obtain ⟨rfl, hdata⟩ | ⟨hname, hdiffers⟩ := h
  · exact .inl ⟨rfl, hdata⟩
  · exact .inr ⟨hname, hdiffers.symm⟩

/-- Fields that are alike in the other order. -/
theorem FieldsAlike.symm (h : FieldsAlike objects fields others) :
    FieldsAlike objects others fields := by
  intro name
  obtain ⟨hnone, hnone'⟩ | ⟨v, w, hv, hw, halike⟩ := cases_of_rel (h name)
  · rw [hnone, hnone']
    exact .none
  · rw [hv, hw]
    exact .some halike.symm

/-- Fields that are alike in front of others. -/
theorem FieldsAlike.append {rest rest' : Fields} (h : FieldsAlike objects fields others)
    (hrest : FieldsAlike objects rest rest') :
    FieldsAlike objects (fields ++ rest) (others ++ rest') := by
  intro name
  rw [List.lookup_append, List.lookup_append]
  obtain ⟨hnone, hnone'⟩ | ⟨v, w, hv, hw, halike⟩ := cases_of_rel (h name)
  · rw [hnone, hnone']
    exact hrest name
  · rw [hv, hw]
    exact .some halike

/-- Objects that differ in hidden attributes share their members. -/
theorem DiffersInHidden.shares {A : Accord} (h : DiffersInHidden v w) : SharesMembers A v w := by
  cases h with
  | @objects attributes others same data =>
    refine .objects fun name => ?_
    unfold shownAttribute
    by_cases hname : name.toList.head? = some '_'
    · rw [if_pos hname, if_pos hname]
      exact matched_of_isData rfl
    · rw [if_neg hname, if_neg hname]
      simp only [same name hname]
      cases hfound : attributes.lookup name with
      | none => exact matched_of_isData rfl
      | some u => exact matched_of_isData (data name u hname hfound)

/-- A hidden attribute in front of others is no member. -/
theorem lookup_cons_of_isHidden {key name : String} (hkey : IsHidden key) (hname : ¬ IsHidden name)
    (u : Value) (rest : Fields) : List.lookup name ((key, u) :: rest) = rest.lookup name :=
  lookup_cons_of_ne fun heq => hname (heq ▸ hkey)

/-- Values that are alike share their members. -/
theorem AlikeAt.shares {A : Accord} {name : String} (h : AlikeAt objects name v w) :
    SharesMembers A v w := by
  obtain ⟨rfl, hdata⟩ | ⟨-, hdiffers⟩ := h
  · exact .same (matched_of_isData hdata)
  · exact hdiffers.shares

/-- Values that are alike at a name that stands for no object match. -/
theorem AlikeAt.matched {A : Accord} {name : String} (h : AlikeAt objects name v w)
    (hname : name ∉ objects) : Matched A v w := by
  obtain ⟨rfl, hdata⟩ | ⟨hobject, -⟩ := h
  · exact matched_of_isData hdata
  · exact absurd hobject hname

end Value

/-! ## Expressions that take only members of objects -/

namespace Expr

/-- Whether an expression is the name of an object. -/
def isObject (objects : List String) : Expr → Bool
  | .name x => decide (x ∈ objects)
  | _ => false

mutual

/-- Whether an expression takes only members of objects, or uses them as numbers or truth values, or
compares them with constants. -/
def asksMembers (objects : List String) : Expr → Bool
  | .literal _ => true
  | .name x => !decide (x ∈ objects)
  | .member obj _ => asksMembers objects obj || obj.isObject objects
  | .index obj key => (asksMembers objects obj || obj.isObject objects) && asksMembers objects key
  | .call callee args => asksMembers objects callee && allAskMembers objects args
  | .unary _ operand => asksMembers objects operand || operand.isObject objects
  | .binary op left right =>
    asksMembers objects left && asksMembers objects right
      || op.isNumeric && (asksMembers objects left || left.isObject objects)
        && (asksMembers objects right || right.isObject objects)
      || op.isEquality && left.isObject objects && right.isConstant
  | .logical op left right =>
    (asksMembers objects left || decide (op = .and) && left.isObject objects)
      && asksMembers objects right
  | .arrow _ body => asksMembers objects body
  | .list items => allAskMembers objects items
  | .query field _ value =>
    (!decide (headName field ∈ objects) || decide (2 ≤ (Value.pathNames field).length))
      && asksMembers objects value
  | .foreign _ => true

/-- Whether some expressions take only members of objects. -/
def allAskMembers (objects : List String) : List Expr → Bool
  | [] => true
  | e :: rest => asksMembers objects e && allAskMembers objects rest

end

/-- What is known of an expression: names among which its own are, and whether it may have arrow
functions. -/
structure Frontier where
  names : List String
  hasArrow : Bool

/-- What is known of an expression itself. -/
def frontier (e : Expr) : Frontier := ⟨e.names, e.hasArrow⟩

/-- The names are among those that are known, and there are arrow functions only where they are. -/
structure Frontier.Covers (known : Frontier) (names : List String) (hasArrow : Bool) : Prop where
  names : ∀ x ∈ names, x ∈ known.names
  arrows : hasArrow = true → known.hasArrow = true

/-- What is known of two parts of an expression is known of each of them. -/
theorem Frontier.Covers.parts {known : Frontier} {names names' : List String} {arrow arrow' : Bool}
    (h : known.Covers (names ++ names') (arrow || arrow')) :
    known.Covers names arrow ∧ known.Covers names' arrow' := by
  obtain ⟨hnames, hnames'⟩ := List.forall_mem_append.mp h.names
  refine ⟨⟨hnames, fun harrow => h.arrows ?_⟩, ⟨hnames', fun harrow => h.arrows ?_⟩⟩
  · rw [harrow, Bool.true_or]
  · rw [harrow, Bool.or_true]

/-- The accord of two evaluations in which names stand for objects that differ in hidden
attributes. -/
def memberAccord (known : Frontier) (objects : List String) (distance : Nat) : Accord where
  distance
  names := fun x => x ∈ known.names ∧ x ∉ objects
  heads := (· ∉ objects)
  bases := (· ∈ objects)
  arrows := known.hasArrow = true
  hosts := False
  all_of_hosts := False.elim

variable {known : Frontier} {objects : List String} {distance : Nat}

/-- The name of an object is a base. -/
theorem isBase_of_isObject {e : Expr} (h : e.isObject objects = true) :
    e.IsBase (memberAccord known objects distance) := by
  cases e with
  | name x =>
    rw [isObject, decide_eq_true_iff] at h
    exact h
  | _ => cases h

mutual

/-- An expression with plain data that takes only members of objects is within the accord. -/
theorem within_of_asksMembers : ∀ e : Expr, e.Plain → e.asksMembers objects = true →
    known.Covers e.names e.hasArrow → e.Within (memberAccord known objects distance)
  | .literal v, h, _, _ => ⟨Value.within_of_isData v h, Value.renumber_of_isData v h⟩
  | .name x, _, hasks, hknown => by
    rw [asksMembers, Bool.not_eq_true', decide_eq_false_iff_not] at hasks
    exact ⟨hknown.names x List.mem_cons_self, hasks⟩
  | .member obj _, h, hasks, hknown => by
    rw [asksMembers, Bool.or_eq_true] at hasks
    exact hasks.imp (within_of_asksMembers obj h · hknown) isBase_of_isObject
  | .index obj key, h, hasks, hknown => by
    rw [asksMembers, Bool.and_eq_true, Bool.or_eq_true] at hasks
    exact ⟨hasks.1.imp (within_of_asksMembers obj h.1 · hknown.parts.1) isBase_of_isObject,
      within_of_asksMembers key h.2 hasks.2 hknown.parts.2⟩
  | .call callee args, h, hasks, hknown => by
    rw [asksMembers, Bool.and_eq_true] at hasks
    exact ⟨within_of_asksMembers callee h.1 hasks.1 hknown.parts.1,
      allWithin_of_allAskMembers args h.2 hasks.2 hknown.parts.2⟩
  | .unary _ operand, h, hasks, hknown => by
    rw [asksMembers, Bool.or_eq_true] at hasks
    exact hasks.imp (within_of_asksMembers operand h · hknown) isBase_of_isObject
  | .binary op left right, h, hasks, hknown => by
    have hleft := (within_of_asksMembers left h.1 · hknown.parts.1)
    have hright := (within_of_asksMembers right h.2 · hknown.parts.2)
    simp only [asksMembers, Bool.or_eq_true, Bool.and_eq_true, and_assoc] at hasks
    obtain (⟨hl, hr⟩ | ⟨hop, hl, hr⟩) | ⟨hop, hobject, hconstant⟩ := hasks
    · exact .inl ⟨hleft hl, hright hr⟩
    · exact .inr (.inl ⟨hop, hl.imp hleft isBase_of_isObject, hr.imp hright isBase_of_isObject⟩)
    · exact .inr (.inr ⟨hop, isBase_of_isObject hobject, hconstant⟩)
  | .logical op left right, h, hasks, hknown => by
    rw [asksMembers, Bool.and_eq_true, Bool.or_eq_true, Bool.and_eq_true,
      decide_eq_true_iff] at hasks
    exact ⟨hasks.1.imp (within_of_asksMembers left h.1 · hknown.parts.1)
        (And.imp_right isBase_of_isObject),
      within_of_asksMembers right h.2 hasks.2 hknown.parts.2⟩
  | .arrow _ body, h, hasks, hknown =>
    have harrow := hknown.arrows rfl
    ⟨harrow, within_of_asksMembers body h hasks ⟨hknown.names, fun _ => harrow⟩⟩
  | .list items, h, hasks, hknown => allWithin_of_allAskMembers items h hasks hknown
  | .query field _ value, h, hasks, hknown => by
    rw [asksMembers, Bool.and_eq_true, Bool.or_eq_true, Bool.not_eq_true',
      decide_eq_false_iff_not, decide_eq_true_iff] at hasks
    refine ⟨?_, within_of_asksMembers value h hasks.2 hknown⟩
    by_cases hhead : headName field ∈ objects
    · exact .inr ⟨hhead, hasks.1.resolve_left (not_not_intro hhead)⟩
    · exact .inl hhead
  | .foreign _, _, _, _ => trivial

/-- Expressions with plain data that take only members of objects are within the accord. -/
theorem allWithin_of_allAskMembers : ∀ es : List Expr, PlainAll es →
    allAskMembers objects es = true → known.Covers (namesAll es) (hasArrowAny es) →
    AllWithin (memberAccord known objects distance) es
  | [], _, _, _ => trivial
  | e :: rest, h, hasks, hknown => by
    rw [allAskMembers, Bool.and_eq_true] at hasks
    exact ⟨within_of_asksMembers e h.1 hasks.1 hknown.parts.1,
      allWithin_of_allAskMembers rest h.2 hasks.2 hknown.parts.2⟩

end

end Expr

/-! ## Surroundings that are alike -/

/-- The data of two evaluations in a context: the same plain data, or two records in which names
stand for objects that differ in hidden attributes, or two such objects. A record has a name of its
own, which then stands for no object, or for one. -/
inductive DataAlike (names objects : List String) : ContextKind → Value → Value → Prop where
  | same {context : ContextKind} {data : Value} (h : data.isData = true) :
      DataAlike names objects context data data
  | records {fields others : Fields} (h : Value.FieldsAlike objects fields others)
      (hname : "record" ∉ names) (hobject : "record" ∉ objects) :
      DataAlike names objects .object (.map fields) (.map others)
  | objects {data data' : Value} (h : Value.DiffersInHidden data data')
      (hobject : "record" ∈ objects) : DataAlike names objects .object data data'

section

variable {known : Expr.Frontier} {names objects : List String} {distance : Nat}
  {fields others rest rest' : Fields} {data data' : Value} {rt rt' : Runtime}

/-- Data that are alike in the other order. -/
theorem DataAlike.symm {context : ContextKind} (h : DataAlike names objects context data data') :
    DataAlike names objects context data' data := by
  cases h with
  | same h => exact .same h
  | records h hname hobject => exact .records h.symm hname hobject
  | objects h hobject => exact .objects h.symm hobject

/-- Values that are alike mean the same. -/
theorem Value.AlikeAt.means {name : String} {v w : Value} (h : AlikeAt objects name v w) :
    (Expr.memberAccord known objects distance).Means name v w :=
  ⟨fun hname => h.matched hname.2, fun _ => h.shares⟩

/-- Fields of which each is alike or agrees with the rest make up scopes that agree. -/
theorem Value.FieldsAlike.scopesAgree_append (h : FieldsAlike objects fields others)
    (hrest : ScopesAgree (Expr.memberAccord known objects distance) rt rt' (.map rest) (.map rest')) :
    ScopesAgree (Expr.memberAccord known objects distance) rt rt' (.map (fields ++ rest))
      (.map (others ++ rest')) := by
  intro name hname
  rw [ScopeChain.lookupIn, ScopeChain.lookupIn, List.lookup_append, List.lookup_append]
  obtain ⟨hnone, hnone'⟩ | ⟨v, w, hv, hw, halike⟩ := cases_of_rel (h name)
  · rw [hnone, hnone']
    exact hrest name hname
  · rw [hv, hw]
    exact .some halike.means

/-- Mappings whose fields are alike agree as scopes. -/
theorem Value.FieldsAlike.scopesAgree (h : FieldsAlike objects fields others) :
    ScopesAgree (Expr.memberAccord known objects distance) rt rt' (.map fields) (.map others) := by
  have hempty : ScopesAgree (Expr.memberAccord known objects distance) rt rt' (.map []) (.map []) :=
    fun _ _ => .none
  simpa only [List.append_nil] using h.scopesAgree_append hempty

/-- Mappings whose fields are alike agree as subjects. -/
theorem Value.FieldsAlike.subjectsAgree (h : FieldsAlike objects fields others) :
    SubjectsAgree (Expr.memberAccord known objects distance) (.map fields) (.map others) := by
  refine .inr ⟨_, _, rfl, rfl, fun name hname => ?_, fun name _ => ?_⟩
  · obtain ⟨hnone, hnone'⟩ | ⟨v, w, hv, hw, halike⟩ := cases_of_rel (h name)
    · rw [hnone, hnone']
      exact ⟨rfl, fun u hu => nomatch hu⟩
    · rw [hv, hw]
      refine ⟨congrArg some (halike.matched hname).1, fun u hu => ?_⟩
      obtain rfl := Option.some.inj hu
      exact (halike.matched hname).2
  · obtain ⟨hnone, hnone'⟩ | ⟨v, w, hv, hw, halike⟩ := cases_of_rel (h name)
    · rw [hnone, hnone']
      exact .same (Value.matched_of_isData rfl)
    · rw [hv, hw]
      exact halike.shares

/-- Values that are alike are alike as the only entries of mappings. -/
theorem Value.AlikeAt.fieldsAlike {name : String} {v w : Value} (h : AlikeAt objects name v w) :
    FieldsAlike objects [(name, v)] [(name, w)] := by
  intro x
  by_cases hx : x = name
  · subst hx
    rw [List.lookup_cons_self, List.lookup_cons_self]
    exact .some h
  · rw [lookup_cons_of_ne hx, lookup_cons_of_ne hx]
    exact .none

/-- Records that are alike agree as scopes. -/
theorem DataAlike.scopesAgree
    (hrt : RuntimesAgree (Expr.memberAccord known objects distance) rt rt')
    (h : DataAlike names objects .object data data') :
    ScopesAgree (Expr.memberAccord known objects distance) rt rt' data data' := by
  cases h with
  | same h => exact (Value.SharesMembers.same (Value.matched_of_isData h)).scopesAgree hrt
  | records h => exact h.scopesAgree
  | objects h => exact h.shares.scopesAgree hrt

/-- Records that are alike agree as subjects. -/
theorem DataAlike.subjectsAgree (h : DataAlike names objects .object data data') :
    SubjectsAgree (Expr.memberAccord known objects distance) data data' := by
  cases h with
  | same h => exact .inl (.same (Value.matched_of_isData h))
  | records h => exact h.subjectsAgree
  | objects h => exact .inl h.shares

/-- Records that are alike agree under their own name, if that is used at all. -/
theorem DataAlike.named (h : DataAlike known.names objects .object data data') :
    ScopesAgree (Expr.memberAccord known objects distance) rt rt' (.map [("record", data)])
      (.map [("record", data')]) := by
  cases h with
  | same h => exact (Value.AlikeAt.fieldsAlike (.inl ⟨rfl, h⟩)).scopesAgree
  | objects h hobject => exact (Value.AlikeAt.fieldsAlike (.inr ⟨hobject, h⟩)).scopesAgree
  | records _ hname hobject =>
    intro x hx
    have hother : x ≠ "record" := by
      rintro rfl
      exact hx.elim (fun hx => hname hx.1) hobject
    rw [ScopeChain.lookupIn, ScopeChain.lookupIn, lookup_cons_of_ne hother,
      lookup_cons_of_ne hother]
    exact .none

/-- Names, data and records that are alike make up surroundings that agree, if arrow functions do
not show them. -/
theorem aroundsAgree_alike (settings : BuiltinSettings) {host : Host}
    (huniform : host.language.IsUniform) (hscene : known.hasArrow = true → host.showsScene = false)
    {context : ContextKind} {ambient ambient' bindings bindings' : Fields}
    (hambient : Value.FieldsAlike objects ambient ambient')
    (hbindings : Value.FieldsAlike objects bindings bindings')
    (hdata : DataAlike known.names objects context data data') :
    AroundsAgree (Expr.memberAccord known objects distance)
      (Evaluator.surroundings (ownEnvironment settings ambient host) context data bindings)
      (Evaluator.surroundings (ownEnvironment settings ambient' host) context data' bindings') := by
  have hruntimes := runtimesAgree_surroundings huniform settings ambient ambient' context data data'
    bindings bindings' (A := Expr.memberAccord known objects distance) hscene
  have hnames := hbindings.append hambient
  have hbuiltins := (Value.SharesMembers.same (fixed_builtins settings).matched).scopesAgree hruntimes
  have hglobals := (Value.SharesMembers.same fixed_globals.matched).scopesAgree hruntimes
  cases context with
  | object =>
    exact aroundsAgree_of_chains hruntimes
      (.cons ⟨rfl, hdata.scopesAgree hruntimes⟩ (.cons ⟨rfl, hbuiltins⟩
        (.cons ⟨rfl, hnames.scopesAgree_append hdata.named⟩ (.cons ⟨rfl, hglobals⟩ .nil))))
      rfl hdata.subjectsAgree rfl
  | text =>
    cases hdata with
    | same hdata =>
      have hall := hnames.append (Value.AlikeAt.fieldsAlike
        (.inl ⟨rfl, rfl⟩ : Value.AlikeAt objects "text" (.str data.textOrEmpty) _))
      exact aroundsAgree_of_chains hruntimes
        (.cons ⟨rfl, hbuiltins⟩ (.cons ⟨rfl, hall.scopesAgree⟩ (.cons ⟨rfl, hglobals⟩ .nil)))
        rfl hall.subjectsAgree rfl

end

/-! ## What shows all attributes -/

namespace Value

/-- The attributes of an object are described one by one. -/
theorem shownAttributes_eq_map (attributes : Fields) :
    shownAttributes attributes = attributes.map fun (k, v) => k ++ "=" ++ shown v := by
  induction attributes with
  | nil => rfl
  | cons entry attributes ih =>
    obtain ⟨k, v⟩ := entry
    rw [shownAttributes, ih, List.map_cons]

/-- Each of some rows is a part of all of them with a separator between each two. -/
theorem infix_intercalate {α : Type} {row : List α} {rows : List (List α)} (separator : List α)
    (h : row ∈ rows) : row <:+: separator.intercalate rows := by
  induction rows with
  | nil => cases h
  | cons first rows ih =>
    cases rows with
    | nil =>
      rw [List.mem_singleton.mp h, List.intercalate_singleton]
    | cons second rows =>
      rw [List.intercalate_cons_cons]
      obtain rfl | h := List.mem_cons.mp h
      · exact ((List.prefix_append _ _).trans (List.prefix_append _ _)).isInfix
      · exact (ih h).trans (List.suffix_append _ _).isInfix

/-- The text of an object shows the names and the descriptions of all its attributes. -/
theorem attribute_infix_toText {attributes : Fields} {name : String} {v : Value}
    (h : (name, v) ∈ attributes) :
    (name ++ "=" ++ v.shown).toList <:+: (toText (.object attributes)).toList := by
  have hmem : (name ++ "=" ++ v.shown).toList ∈ (shownAttributes attributes).map String.toList := by
    rw [shownAttributes_eq_map]
    exact List.mem_map_of_mem (List.mem_map_of_mem h)
  have htext : toText (.object attributes) =
      "namespace(" ++ ", ".intercalate (shownAttributes attributes) ++ ")" := rfl
  have hjoined := infix_intercalate ", ".toList hmem
  rw [← String.toList_intercalate] at hjoined
  refine hjoined.trans ?_
  rw [htext, String.toList_append, String.toList_append]
  exact List.infix_append _ _ _

/-- Objects that are not one object are equal only if each attribute of the first one is also one of
the second. -/
theorem attribute_of_looseEquals {language : Language} {attributes others : Fields}
    (hdistinct : language.identical (.object attributes) (.object others) = false)
    (h : looseEquals language (.object attributes) (.object others) = .ok true) {name : String}
    {v : Value} (hv : (name, v) ∈ attributes) :
    ∃ w, others.lookup name = some w ∧ sameItem language v w = true := by
  have hequals : looseEquals language (.object attributes) (.object others) =
      .ok (attributes.length == others.length && sameEntries language attributes others) := by
    simp [looseEquals, strictEquals, unbox, kind, same, pure, Except.pure, hdistinct]
  rw [hequals] at h
  obtain ⟨-, hsame⟩ := Bool.and_eq_true_iff.mp (Except.ok.inj h)
  exact sameEntries_eq_true_iff.mp hsame (name, v) hv

end Value

/-! ## Outcomes -/

namespace Evaluator

variable {ev : Evaluator} {objects : List String} {ambient ambient' bindings bindings' : Fields}
  {data data' : Value} {host : Host}

/-- Runs that take only members of objects have the same outcome for objects that differ in hidden
attributes, if arrow functions do not show their scene and the first run gives no larger numbers. -/
theorem run_of_alike_of_le (hplain : ev.body.Plain) (hasks : ev.body.asksMembers objects = true)
    (settings : BuiltinSettings) (huniform : host.language.IsUniform)
    (hscene : ev.body.hasArrow = true → host.showsScene = false)
    (hambient : Value.FieldsAlike objects ambient ambient')
    (hbindings : Value.FieldsAlike objects bindings bindings')
    (hdata : DataAlike ev.body.names objects ev.context data data') {effects effects' : Effects}
    (hle : effects.nextId ≤ effects'.nextId) :
    SameOutcome (ev.run (ownEnvironment settings ambient host) data bindings effects).1
      (ev.run (ownEnvironment settings ambient' host) data' bindings' effects').1 := by
  obtain ⟨distance, hdistance⟩ := Nat.exists_eq_add_of_le hle
  have hwithin : ev.body.Within (Expr.memberAccord ev.body.frontier objects distance) :=
    Expr.within_of_asksMembers ev.body hplain hasks ⟨fun _ hx => hx, fun harrow => harrow⟩
  have haround : AroundsAgree (Expr.memberAccord ev.body.frontier objects distance)
      (surroundings (ownEnvironment settings ambient host) ev.context data bindings)
      (surroundings (ownEnvironment settings ambient' host) ev.context data' bindings') :=
    aroundsAgree_alike settings huniform hscene hambient hbindings hdata
  have hrun := Evaluator.run_inStep haround hwithin effects effects' hdistance
  exact Outcomes.mono (fun _ _ => sameIfData_of_matched) hrun.1

/-- Runs that take only members of objects have the same outcome for objects that differ in hidden
attributes, if arrow functions do not show their scene. -/
theorem run_of_alike (hplain : ev.body.Plain) (hasks : ev.body.asksMembers objects = true)
    (settings : BuiltinSettings) (host : Host) (huniform : host.language.IsUniform)
    (hscene : ev.body.hasArrow = true → host.showsScene = false)
    (hambient : Value.FieldsAlike objects ambient ambient')
    (hbindings : Value.FieldsAlike objects bindings bindings')
    (hdata : DataAlike ev.body.names objects ev.context data data') (effects effects' : Effects) :
    SameOutcome (ev.run (ownEnvironment settings ambient host) data bindings effects).1
      (ev.run (ownEnvironment settings ambient' host) data' bindings' effects').1 := by
  obtain hle | hle := Nat.le_total effects.nextId effects'.nextId
  · exact run_of_alike_of_le hplain hasks settings huniform hscene hambient hbindings hdata hle
  · exact (run_of_alike_of_le hplain hasks settings huniform hscene hambient.symm hbindings.symm
      hdata.symm hle).symm

/-- An expression that takes only members of objects, or uses them as numbers or truth values or
compares them with constants, has the same outcome for objects that differ in nothing but hidden
attributes: it fails alike, or gives the same value as far as that is plain data, if it has no arrow
function or comes out the same when arrow functions do not show their scene. The text of an object
shows its hidden attributes, and equal objects have the same ones, so an expression that makes a text
of an object or compares it with another one is not among them. -/
theorem run_of_asksMembers {text : String} {context : ContextKind} {target : Option String}
    (hev : ofText text context target = .ok ev) (hasks : ev.body.asksMembers objects = true)
    (settings : BuiltinSettings) (host : Host) (huniform : host.language.IsUniform)
    (hambient : Value.FieldsAlike objects ambient ambient')
    (hbindings : Value.FieldsAlike objects bindings bindings')
    (hdata : DataAlike ev.body.names objects context data data') (effects effects' : Effects) :
    let env := ownEnvironment settings ambient host
    let env' := ownEnvironment settings ambient' host
    ((ev.body.hasArrow = true →
        SameOutcome (ev.run env data bindings effects).1
            (ev.run (ownEnvironment settings ambient host.discreet) data bindings effects).1 ∧
          SameOutcome (ev.run env' data' bindings' effects').1
            (ev.run (ownEnvironment settings ambient' host.discreet) data' bindings' effects').1) →
        SameOutcome (ev.run env data bindings effects).1
          (ev.run env' data' bindings' effects').1) ∧
      (∀ (attributes : Fields) (name : String) (v : Value), (name, v) ∈ attributes →
        (name ++ "=" ++ v.shown).toList <:+: (Value.toText (.object attributes)).toList) ∧
      ∀ (attributes others : Fields) (name : String) (v : Value), (name, v) ∈ attributes →
        host.language.identical (.object attributes) (.object others) = false →
        Value.looseEquals host.language (.object attributes) (.object others) = .ok true →
          ∃ w, others.lookup name = some w ∧ Value.sameItem host.language v w = true := by
  intro env env'
  obtain ⟨-, hcontext, -, -⟩ := parts_of_ofText hev
  have hplain := plain_of_ofText hev
  subst hcontext
  refine ⟨fun hshown => ?_, fun _ _ _ => Value.attribute_infix_toText,
    fun _ _ _ _ hv hdistinct hequal => Value.attribute_of_looseEquals hdistinct hequal hv⟩
  have hdiscreet := run_of_alike hplain hasks settings host.discreet huniform (fun _ => rfl) hambient
    hbindings hdata effects effects'
  refine SameOutcome.of_discreet (fun hnoArrow => ?_) hdiscreet hshown
  exact run_of_alike hplain hasks settings host huniform (by simp [hnoArrow]) hambient hbindings
    hdata effects effects'

/-- A name that is guarded by its object is the same whatever the object hides. -/
theorem run_of_asksMembers_of_guarded :
    let host : Host := .standard fun name _ => .ok (.str name)
    let env := ownEnvironment {} [] host
    let ev : Evaluator := ⟨"npc && npc . name", .object, none,
      .logical .and (.name "npc") (.member (.name "npc") "name")⟩
    let record : Value := .map [("npc", .object [("name", .str "Ada"), ("_k", .int 1)])]
    let record' : Value :=
      .map [("npc", .object [("_k", .null), ("_n", .null), ("name", .str "Ada")])]
    SameOutcome (ev.run env record [] {}).1 (ev.run env record' [] { nextId := 3 }).1 := by
  intro host env ev record record'
  have hread : Expr.read "npc && npc . name" = .ok ev.body :=
    Expr.read_of_wellFormed (.logical (by simp) (.name (by decide))
      (.member (.name (by decide)) (by decide))) (by decide +kernel)
  have hev : ofText "npc && npc . name" .object none = .ok ev := by
    rw [ofText, hread]
    rfl
  have hdiffers : Value.DiffersInHidden (.object [("name", .str "Ada"), ("_k", .int 1)])
      (.object [("_k", .null), ("_n", .null), ("name", .str "Ada")]) := by
    have hk : Value.IsHidden "_k" := rfl
    have hn : Value.IsHidden "_n" := rfl
    refine .objects (fun name hname => ?_) fun name v hname hv => ?_
    · rw [Value.lookup_cons_of_isHidden hk hname, Value.lookup_cons_of_isHidden hn hname,
        List.lookup_cons, List.lookup_cons, Value.lookup_cons_of_isHidden hk hname]
    · rw [List.lookup_cons, Value.lookup_cons_of_isHidden hk hname] at hv
      split at hv
      · obtain rfl := Option.some.inj hv
        rfl
      · cases hv
  have hrecords : DataAlike ev.body.names ["npc"] .object record record' :=
    .records (Value.AlikeAt.fieldsAlike (.inr ⟨List.mem_cons_self, hdiffers⟩)) (by decide)
      (by decide)
  have hnone : Value.FieldsAlike ["npc"] [] [] := fun _ => .none
  exact (run_of_asksMembers hev (by decide) {} host Language.standard_isUniform hnone hnone hrecords
    {} { nextId := 3 }).1 fun harrow => absurd harrow (by decide)

/-- The text of an object tells it from one that differs from it in a hidden attribute. -/
theorem text_shows_hidden_attribute :
    let host : Host := .standard fun name _ => .ok (.str name)
    let env := ownEnvironment {} [] host
    let ev : Evaluator := ⟨"String ( o )", .text, none, .call (.name "String") [.name "o"]⟩
    let bindings : Fields := [("o", .object [])]
    let bindings' : Fields := [("o", .object [("_k", .int 1)])]
    ofText "String ( o )" .text none = .ok ev ∧ Value.FieldsAlike ["o"] bindings bindings' ∧
      (ev.run env (.str "") bindings {}).1 = .ok (.str "namespace()") ∧
      (ev.run env (.str "") bindings' {}).1 = .ok (.str "namespace(_k=1)") ∧
      ¬ SameOutcome (ev.run env (.str "") bindings {}).1 (ev.run env (.str "") bindings' {}).1 := by
  intro host env ev bindings bindings'
  have hread : Expr.read "String ( o )" = .ok ev.body :=
    Expr.read_of_wellFormed (.call (by decide) (List.forall_mem_singleton.mpr
      (.argument (.name (by decide))))) (by decide +kernel)
  have hev : ofText "String ( o )" .text none = .ok ev := by
    rw [ofText, hread]
    rfl
  have hdiffers : Value.DiffersInHidden (.object []) (.object [("_k", .int 1)]) := by
    have hk : Value.IsHidden "_k" := rfl
    exact .objects (fun _ hname => Value.lookup_cons_of_isHidden hk hname _ _)
      fun _ _ _ hv => by cases hv
  refine ⟨hev, Value.AlikeAt.fieldsAlike (.inr ⟨List.mem_cons_self, hdiffers⟩), rfl, rfl, ?_⟩
  intro hsame
  have hequal : Value.str "namespace()" = .str "namespace(_k=1)" := hsame.2 rfl
  exact absurd (Value.str.inj hequal) (by decide)

end Evaluator

end Trigger
