import Trigger.Expr.Reader
import Trigger.Proofs.Decimal.Readback
import Trigger.Proofs.Lookup.Agreement
import Trigger.Proofs.Renumbering.Accord
import Trigger.Value.Standard

/-!
# Paths and members

A path of names leads step by step to the members that an expression asks for one by one. In data a
key without a point in its text, be it a string or a number, asks for the same member as its text:
mappings are looked up by texts, and a numeral stands for the position that the number does. The
language gives attributes to numbers and truth values, but no attribute is named by the text of a
number. Hence the value of a chain of members and constant keys that starts at a field of a record is
where the path of the chain leads.
-/

namespace Trigger

namespace Value

variable {rt : Runtime} {v w key : Value} {name : String} {entries : Fields}

/-- Nothing has no members. -/
theorem property_of_isNullish (h : v.isNullish = true) : v.property rt name = .undefined := by
  cases v <;> first | rfl | cases h

/-- A path leads to a member of what it leads to without its last name. -/
theorem follow_append (v : Value) (names : List String) :
    v.follow rt (names ++ [name]) = (v.follow rt names).property rt name := by
  induction names generalizing v with
  | nil =>
    rw [List.nil_append, follow, follow, follow]
    split
    · rename_i hnullish
      exact (property_of_isNullish hnullish).symm
    · rfl
  | cons first rest ih =>
    rw [List.cons_append, follow, follow]
    split
    · rfl
    · exact ih _

/-- A path leads to a member of what it leads to up to its last point. -/
theorem resolvePath_append (v : Value) (path : String) (hname : '.' ∉ name.toList) :
    v.resolvePath rt (path ++ "." ++ name) = (v.resolvePath rt path).property rt name := by
  rw [resolvePath, pathNames_append, pathNames_of_not_mem hname, follow_append]
  rfl

/-! ## Data -/

/-- Data as it is read from a file, without functions and objects. No list and no text has more than
`2 ^ 53` items, so that every position is a floating-point number. -/
inductive IsData : Value → Prop
  | null : IsData .null
  | bool (b : Bool) : IsData (.bool b)
  | int (i : Int) : IsData (.int i)
  | float (x : Float) : IsData (.float x)
  | str {s : String} (h : s.length ≤ 2 ^ 53) : IsData (.str s)
  | list {items : List Value} (hitems : ∀ v ∈ items, IsData v) (h : items.length ≤ 2 ^ 53) :
      IsData (.list .list items)
  | map {entries : List (String × Value)} (h : ∀ entry ∈ entries, IsData entry.2) :
      IsData (.map entries)

/-- The texts of numbers that can stand in a path: those without a point. -/
inductive IsNumberText : String → Prop
  | int (i : Int) : IsNumberText (toString i)
  | float {x : Float} (h : '.' ∉ (numberText x).toList) : IsNumberText (numberText x)

/-- The text of a number is one of three words or a numeral. -/
theorem IsNumberText.word_or_isNumeral {s : String} (h : IsNumberText s) :
    s ∈ ["NaN", "-Infinity", "Infinity"] ∨ ∀ c ∈ s.toList, Decimal.isNumeral c = true := by
  cases h with
  | int i => exact .inr (Decimal.isNumeral_toString i)
  | float h => exact Decimal.word_or_isNumeral h

/-- A text with a character that stands in no numeral, which is none of the three words, is not the
text of a number. -/
theorem not_isNumberText {s : String} (hword : s ∉ ["NaN", "-Infinity", "Infinity"])
    (hchar : s.toList.all Decimal.isNumeral = false) : ¬IsNumberText s := by
  intro h
  rcases h.word_or_isNumeral with h | h
  · exact hword h
  · exact Bool.false_ne_true (hchar.symm.trans (List.all_eq_true.mpr h))

/-- Data, and what the language makes of them: its objects, in which nothing is named by the text of
a number. -/
inductive IsRegular : Value → Prop
  | null : IsRegular .null
  | bool (b : Bool) : IsRegular (.bool b)
  | int (i : Int) : IsRegular (.int i)
  | float (x : Float) : IsRegular (.float x)
  | str {s : String} (h : s.length ≤ 2 ^ 53) : IsRegular (.str s)
  | list {kind : ListKind} {items : List Value} (hitems : ∀ v ∈ items, IsRegular v)
      (h : items.length ≤ 2 ^ 53) : IsRegular (.list kind items)
  | map {entries : List (String × Value)} (h : ∀ entry ∈ entries, IsRegular entry.2) :
      IsRegular (.map entries)
  | native (kind : NativeKind) {parts : List (String × Value)}
      (h : ∀ entry ∈ parts, IsRegular entry.2) (hnames : ∀ entry ∈ parts, ¬IsNumberText entry.1) :
      IsRegular (.native kind parts)

/-- Data are regular. -/
theorem IsData.isRegular (h : v.IsData) : v.IsRegular := by
  induction h with
  | null => exact .null
  | bool b => exact .bool b
  | int i => exact .int i
  | float x => exact .float x
  | str h => exact .str h
  | list _ h ih => exact .list ih h
  | map _ ih => exact .map ih

end Value

/-- A language in which no attribute is named by the text of a number, and the attributes of regular
values are regular. -/
structure Language.IsRegular (language : Language) : Prop where
  named : ∀ v name, Value.IsNumberText name → language.attributeOf v name = none
  closed : ∀ v name w, v.IsRegular → language.attributeOf v name = some w → w.IsRegular

namespace Value

variable {rt : Runtime} {v w key : Value} {name : String} {entries : Fields}

/-- The constants between brackets whose texts can stand in a path: strings and numbers without a
point in their texts. -/
inductive IsKey : Value → Prop
  | str {s : String} (h : '.' ∉ s.toList) : IsKey (.str s)
  | int (i : Int) : IsKey (.int i)
  | float {x : Float} (h : '.' ∉ (numberText x).toList) : IsKey (.float x)

/-- There is no point in the text of an integer. -/
theorem IsKey.point_not_mem (h : IsKey key) : '.' ∉ key.toText.toList := by
  cases h with
  | str h => exact h
  | float h => exact h
  | int i =>
    intro hmem
    exact absurd (Decimal.isNumeral_toString i '.' hmem) (by decide)

/-- A key is looked up among items as its text is. -/
theorem itemAt_toText {α : Type} {items : List α} (h : IsKey key)
    (hlength : items.length ≤ 2 ^ 53) : itemAt items (.str key.toText) = itemAt items key := by
  cases h with
  | str h => rfl
  | int i => exact Decimal.itemAt_toString i hlength
  | float h => exact Decimal.itemAt_numberText h hlength

/-- A key asks for the length if its text does. -/
theorem isLength_toText (h : IsKey key) : (Value.str key.toText).isLength = key.isLength := by
  have hlength : ¬IsNumberText "length" := not_isNumberText (by decide) (by decide)
  have hother (hnumber : IsNumberText key.toText) : (key.toText == "length") = false :=
    beq_false_of_ne fun heq => hlength (heq ▸ hnumber)
  cases h with
  | str h => rfl
  | int i => exact hother (.int i)
  | float h => exact hother (.float h)

/-- Keys can be looked up in mappings. -/
theorem isHashable_of_isKey (h : IsKey key) : key.isHashable = true := by cases h <;> rfl

/-- There is a member for every name. -/
theorem member_str (rt : Runtime) (v : Value) (name : String) :
    v.member rt (.str name) = .ok (v.property rt name) := by
  have hexists : ∃ w, v.member rt (.str name) = .ok w := by
    cases v with
    | null | undefined | map => exact ⟨_, rfl⟩
    | list kind items | str s =>
      rw [member]
      split <;> exact ⟨_, rfl⟩
    | _ => exact ⟨_, rfl⟩
  obtain ⟨w, hw⟩ := hexists
  rw [property, hw]

/-- The text of a number asks for no attribute of data or of an object of the language. -/
theorem hostAttribute_of_isNumberText (hlanguage : rt.IsRegular) (h : v.IsRegular)
    (hname : IsNumberText name) : hostAttribute rt v name = none := by
  have hother := hlanguage.named v name hname
  unfold hostAttribute
  split
  · rfl
  · cases h with
    | @native kind parts _ hnames =>
      have hpart : parts.lookup name = none := by
        refine List.lookup_eq_none_iff.mpr fun entry hentry => bne_iff_ne.mpr ?_
        rintro rfl
        exact hnames entry hentry hname
      simp only [hpart, Option.none_or, hother]
    | _ => exact hother

/-- A key asks for the same member as its text. -/
theorem member_of_isKey (hlanguage : rt.IsRegular) (hv : v.IsRegular ∨ v = .undefined)
    (h : IsKey key) : v.member rt key = .ok (v.property rt key.toText) := by
  rw [← member_str]
  rcases hv with hv | rfl
  · have hattribute (hnumber : IsNumberText key.toText) :=
      hostAttribute_of_isNumberText hlanguage hv hnumber
    cases hv with
    | null => rfl
    | str hlength =>
      rw [member, member, isLength_toText h, itemAt_toText h (String.length_toList ▸ hlength)]
    | list _ hlength => rw [member, member, isLength_toText h, itemAt_toText h hlength]
    | map =>
      rw [member, member, entryAt, entryAt, if_pos (isHashable_of_isKey h)]
      rfl
    | _ =>
      cases h with
      | str => rfl
      | int i =>
        simp only [member, hattribute (.int i)]
        rfl
      | float h =>
        simp only [member, hattribute (.float h)]
        rfl
  · rfl

/-- The attributes of regular values are regular. -/
theorem IsRegular.hostAttribute (hlanguage : rt.IsRegular) (h : v.IsRegular) {u : Value}
    (hu : hostAttribute rt v name = some u) : u.IsRegular := by
  unfold Value.hostAttribute at hu
  split at hu
  · cases hu
  · cases h with
    | @native kind parts hparts hnames =>
      rw [Option.or_eq_some_iff] at hu
      rcases hu with hpart | ⟨-, hother⟩
      · obtain ⟨before, after, rfl, -⟩ := List.lookup_eq_some_iff.mp hpart
        exact hparts (name, u) (by simp)
      · exact hlanguage.closed _ name u (.native kind hparts hnames) hother
    | null => exact hlanguage.closed _ name u .null hu
    | bool b => exact hlanguage.closed _ name u (.bool b) hu
    | int i => exact hlanguage.closed _ name u (.int i) hu
    | float x => exact hlanguage.closed _ name u (.float x) hu
    | str hlength => exact hlanguage.closed _ name u (.str hlength) hu
    | list hitems hlength => exact hlanguage.closed _ name u (.list hitems hlength) hu
    | map hentries => exact hlanguage.closed _ name u (.map hentries) hu

/-- The members of regular values are regular or undefined. -/
theorem IsRegular.property (hlanguage : rt.IsRegular) (h : v.IsRegular) (name : String) :
    (v.property rt name).IsRegular ∨ v.property rt name = .undefined := by
  have hmember := member_str rt v name
  have hattribute : ((Value.hostAttribute rt v name).getD .undefined).IsRegular ∨
      (Value.hostAttribute rt v name).getD .undefined = .undefined := by
    cases hfound : Value.hostAttribute rt v name with
    | none => exact .inr rfl
    | some u => exact .inl (h.hostAttribute hlanguage hfound)
  cases h with
  | null => exact .inr rfl
  | str =>
    rw [member] at hmember
    split at hmember
    · exact .inl (Except.ok.inj hmember ▸ .int _)
    · obtain ⟨found, -, hvalue⟩ := bind_eq_ok_iff.mp hmember
      cases found with
      | none => exact .inr (Except.ok.inj hvalue).symm
      | some c =>
        have hlength : (String.singleton c).length ≤ 2 ^ 53 := by simp
        exact .inl (Except.ok.inj hvalue ▸ .str hlength)
  | list hitems =>
    rw [member] at hmember
    split at hmember
    · exact .inl (Except.ok.inj hmember ▸ .int _)
    · obtain ⟨found, hfound, hvalue⟩ := bind_eq_ok_iff.mp hmember
      cases found with
      | none => exact .inr (Except.ok.inj hvalue).symm
      | some a => exact .inl (Except.ok.inj hvalue ▸ hitems a (mem_of_itemAt hfound))
  | map hentries =>
    rw [member] at hmember
    obtain ⟨found, hfound, hvalue⟩ := bind_eq_ok_iff.mp hmember
    cases found with
    | none => exact .inr (Except.ok.inj hvalue).symm
    | some a =>
      obtain ⟨before, after, rfl, -⟩ := List.lookup_eq_some_iff.mp (Except.ok.inj hfound)
      exact .inl (Except.ok.inj hvalue ▸ hentries ((Value.str name).toText, a) (by simp))
  | _ => exact hattribute

/-- What regular values lead to is regular or undefined, step by step. -/
theorem isRegular_property (hlanguage : rt.IsRegular) (h : v.IsRegular ∨ v = .undefined)
    (name : String) : (v.property rt name).IsRegular ∨ v.property rt name = .undefined := by
  rcases h with h | rfl
  · exact h.property hlanguage name
  · exact .inr rfl

end Value

/-! ## The standard language -/

namespace Language

/-- The names of attributes of data. -/
theorem mem_of_dataAttribute {v w : Value} {name : String} (h : dataAttribute v name = some w) :
    name ∈ ["real", "numerator", "imag", "denominator", "pattern", "groups", "flags"] := by
  unfold dataAttribute integerPart at h
  split at h <;> grind

/-- The names of methods. -/
theorem mem_of_methodNames {v : Value} {name : String} (h : name ∈ methodNames v) :
    name ∈ ["as_integer_ratio", "bit_count", "bit_length", "conjugate", "is_integer", "fullmatch",
      "match", "search", "end", "group", "groups", "span", "start"] := by
  unfold methodNames at h
  split at h <;> grind

/-- The attributes of the standard language have words as their names, and are data or methods. -/
theorem standard_isRegular : standard.IsRegular where
  named v name hname := by
    change standardAttribute v name = none
    have hwords {words : List String} (h : name ∈ words) (hall : words.all (fun word =>
        word ∉ ["NaN", "-Infinity", "Infinity"] && !word.toList.all Decimal.isNumeral) = true) :
        False := by
      have hword := List.all_eq_true.mp hall name h
      rw [Bool.and_eq_true, decide_eq_true_eq, Bool.not_eq_true'] at hword
      exact Value.not_isNumberText hword.1 hword.2 hname
    have hdata : dataAttribute v name = none := by
      cases hfound : dataAttribute v name with
      | none => rfl
      | some w => exact (hwords (mem_of_dataAttribute hfound) (by decide)).elim
    have hmethod : name ∉ methodNames v := fun h => hwords (mem_of_methodNames h) (by decide)
    rw [standardAttribute, hdata, if_neg hmethod, Option.or_none]
  closed v name w hv hw := by
    change standardAttribute v name = some w at hw
    rw [standardAttribute, Option.or_eq_some_iff] at hw
    rcases hw with hdata | ⟨-, hmethod⟩
    · cases hv <;> simp only [dataAttribute, integerPart] at hdata <;>
        grind [Value.IsRegular.int, Value.IsRegular.float]
    · split at hmethod
      · next hname =>
        obtain rfl := Option.some.inj hmethod
        have hshort : name.length ≤ 2 ^ 53 := by
          have hall : ∀ word ∈ ["as_integer_ratio", "bit_count", "bit_length", "conjugate",
              "is_integer", "fullmatch", "match", "search", "end", "group", "groups", "span",
              "start"], word.length ≤ 2 ^ 53 := by decide
          exact hall name (mem_of_methodNames hname)
        have hself : ¬Value.IsNumberText "_self" := Value.not_isNumberText (by decide) (by decide)
        have hname : ¬Value.IsNumberText "_name" := Value.not_isNumberText (by decide) (by decide)
        exact .native _
          (List.forall_mem_cons.mpr ⟨hv, List.forall_mem_singleton.mpr (.str hshort)⟩)
          (List.forall_mem_cons.mpr ⟨hself, List.forall_mem_singleton.mpr hname⟩)
      · cases hmethod

end Language

/-! ## Chains of members -/

namespace Expr

variable {base : String} {entries : Fields} {e : Expr} {f : Frame} {v : Value}

/-- A chain of properties and of constants in brackets behind a name. -/
inductive IsPath (base : String) : Expr → Prop
  | name : IsPath base (.name base)
  | member {obj : Expr} (h : IsPath base obj) (property : String) :
      IsPath base (.member obj property)
  | index {obj : Expr} {key : Value} (h : IsPath base obj) (hkey : key.IsKey) :
      IsPath base (.index obj (.literal key))

/-- The names in a chain have no point. -/
def HasPlainNames : Expr → Prop
  | .name x => '.' ∉ x.toList
  | .member obj property => obj.HasPlainNames ∧ '.' ∉ property.toList
  | .index obj _ => obj.HasPlainNames
  | _ => True

/-- A chain that starts at a field of a record has the value that its path leads to. -/
theorem IsPath.evaluate_eq (h : IsPath base e) (hlanguage : f.runtime.IsRegular)
    (hnames : e.HasPlainNames) (hdata : (Value.map entries).IsRegular)
    (hbase : entries.lookup base = some v) (hscope : f.scopes.valueOf f.runtime base = v) :
    ∃ field, e.fieldPath? = some field ∧
      (((Value.map entries).resolvePath f.runtime field).IsRegular ∨
        (Value.map entries).resolvePath f.runtime field = .undefined) ∧
      ∀ apply, evaluate apply f e = pure ((Value.map entries).resolvePath f.runtime field) := by
  induction h with
  | name =>
    have hfield : (Value.map entries).resolvePath f.runtime base = v :=
      Value.resolvePath_of_lookup hnames hbase
    refine ⟨base, rfl, ?_, fun apply => ?_⟩
    · have hproperty := hdata.property hlanguage base
      have hentry : (Value.map entries).property f.runtime base = v := by
        change (entries.lookup base).getD .undefined = v
        rw [hbase, Option.getD_some]
      rwa [hfield, ← hentry]
    · rw [evaluate, hscope, hfield]
  | member _ property ih =>
    obtain ⟨field, hpath, hvalue, heval⟩ := ih hnames.1
    have hstep : (Value.map entries).resolvePath f.runtime (field ++ "." ++ property) =
        ((Value.map entries).resolvePath f.runtime field).property f.runtime property :=
      Value.resolvePath_append _ field hnames.2
    refine ⟨field ++ "." ++ property, by rw [fieldPath?, hpath]; rfl, ?_, fun apply => ?_⟩
    · rw [hstep]
      exact Value.isRegular_property hlanguage hvalue property
    · rw [evaluate, heval apply, pure_bind, hstep]
  | index _ hkey ih =>
    rename_i key _
    obtain ⟨field, hpath, hvalue, heval⟩ := ih hnames
    have hstep : (Value.map entries).resolvePath f.runtime (field ++ "." ++ key.toText) =
        ((Value.map entries).resolvePath f.runtime field).property f.runtime key.toText :=
      Value.resolvePath_append _ field hkey.point_not_mem
    refine ⟨field ++ "." ++ key.toText, by rw [fieldPath?, hpath]; rfl, ?_, fun apply => ?_⟩
    · rw [hstep]
      exact Value.isRegular_property hlanguage hvalue key.toText
    · rw [evaluate, heval apply, pure_bind, evaluate, pure_bind,
        Value.member_of_isKey hlanguage hvalue hkey, hstep]
      rfl

end Expr

end Trigger
