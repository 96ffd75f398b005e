import Trigger.Config.Basic
import Trigger.Config.Standard
import Trigger.Proofs.Outcome

/-!
# Settings that were accepted

Where a section is accepted by a library that does what is relied on, every setting of the schema has
a value that its type allows, be it given or not, since a default is allowed as well. The standard
schema library does what is relied on.
-/

namespace Trigger

open Toml (TomlValue Entries)

variable {schema : Schema} {entries : Entries} {values : SettingValues} {name : String}
variable {v : SettingValue} {s : Setting}

/-! ## Accepted sections -/

/-- Every setting of an accepted section has a value that its type allows. -/
theorem SchemaLibrary.Lawful.exists_allows {library : SchemaLibrary} (h : library.Lawful)
    (hcheck : library.check schema entries = .ok values) (hs : s ∈ schema.settings) :
    ∃ v, values.lookup s.name = some v ∧ s.type.Allows v := by
  cases hgiven : entries.lookup s.name with
  | none => exact ⟨s.default, h.default_of_absent hcheck s hs hgiven, s.allows_default⟩
  | some given => exact h.allows_of_given hcheck s hs (by simp [hgiven])

namespace SettingValues

/-- A setting that is one of some texts. -/
theorem text_mem {names : List String} (hv : values.lookup name = some v)
    (h : (SettingType.choice names).Allows v) : values.text name ∈ names := by
  cases v with
  | text s => rwa [text, hv]
  | _ => exact h.elim

/-- A setting that is an integer with a bound. -/
theorem le_integer {least : Int} (hv : values.lookup name = some v)
    (h : (SettingType.integer least).Allows v) : least ≤ values.integer name := by
  cases v with
  | integer i => rwa [integer, hv]
  | _ => exact h.elim

/-- A setting that is a number between bounds. -/
theorem number_within {least greatest : Float} (hv : values.lookup name = some v)
    (h : (SettingType.number least greatest).Allows v) :
    least ≤ values.number name ∧ values.number name ≤ greatest := by
  cases v with
  | number x => rwa [number, hv]
  | _ => exact h.elim

end SettingValues

/-! ## The standard library -/

namespace SchemaLibrary

/-- What is made of an outcome that is a result. -/
theorem exists_of_map {ε α β : Type} {f : α → β} {x : Except ε α} {b : β}
    (h : x.map f = .ok b) : ∃ a, x = .ok a ∧ f a = b := by
  cases x with
  | ok a => exact ⟨a, rfl, Except.ok.inj h⟩
  | error e => exact nomatch h

/-- An integer that is read is not below its bound. -/
theorem le_of_integerFrom {least i : Int} {given : TomlValue} (h : integerFrom least given = .ok i) :
    least ≤ i := by
  obtain ⟨j, -, hj⟩ := bind_eq_ok_iff.mp h
  split at hj
  · obtain rfl := Except.ok.inj hj
    assumption
  · exact nomatch hj

/-- A number that is read is within its bounds. -/
theorem within_of_numberWithin {least greatest x : Float} {given : TomlValue}
    (h : numberWithin least greatest given = .ok x) : least ≤ x ∧ x ≤ greatest := by
  obtain ⟨y, -, hy⟩ := bind_eq_ok_iff.mp h
  split at hy
  · split at hy
    · obtain rfl := Except.ok.inj hy
      exact ⟨‹_›, ‹_›⟩
    · exact nomatch hy
  · exact nomatch hy

/-- A choice that is read is one of the texts. -/
theorem mem_of_choice {names : List String} {given : TomlValue} {s : String}
    (h : choice names given = .ok s) : s ∈ names := by
  unfold choice at h
  split at h
  · split at h
    · obtain rfl := Except.ok.inj h
      assumption
    · exact nomatch h
  · exact nomatch h

/-- A value that is read is allowed by its type. -/
theorem allows_of_valueOf {type : SettingType} {given : TomlValue} (h : valueOf type given = .ok v) :
    type.Allows v := by
  cases type with
  | text | optionalText | boolean =>
    obtain ⟨a, -, rfl⟩ := exists_of_map h
    trivial
  | integer least =>
    obtain ⟨i, hi, rfl⟩ := exists_of_map h
    exact le_of_integerFrom hi
  | number least greatest =>
    obtain ⟨x, hx, rfl⟩ := exists_of_map h
    exact within_of_numberWithin hx
  | choice names =>
    obtain ⟨s, hs, rfl⟩ := exists_of_map h
    exact mem_of_choice hs

/-- Of settings with distinct names, each one that has a value has its own. -/
theorem lookup_valuesOf {settings : List Setting} (hdistinct : (settings.map (·.name)).Nodup)
    (hs : s ∈ settings) (hv : settingOf entries s = .ok v) :
    (valuesOf entries settings).lookup s.name = some v := by
  induction settings with
  | nil => exact nomatch hs
  | cons first rest ih =>
    rw [List.map_cons, List.nodup_cons] at hdistinct
    rcases List.mem_cons.mp hs with rfl | hrest
    · rw [valuesOf, hv]
      exact List.lookup_cons_self
    · have hne : (s.name == first.name) = false := by
        refine beq_false_of_ne fun heq => hdistinct.1 ?_
        exact heq ▸ List.mem_map_of_mem hrest
      -- the first setting is passed over, whether it has a value or is left out
      rw [valuesOf]
      split
      · rw [List.lookup_cons, hne]
        exact ih hdistinct.2 hrest
      · exact ih hdistinct.2 hrest

/-- In a section that is accepted, each setting has its value. -/
theorem settingOf_of_check (hcheck : standard.check schema entries = .ok values)
    (hs : s ∈ schema.settings) :
    ∃ v, settingOf entries s = .ok v ∧ values.lookup s.name = some v := by
  have hissues : issues schema entries = [] ∧ values = valuesOf entries schema.settings := by
    unfold standard at hcheck
    dsimp only at hcheck
    split at hcheck
    · exact ⟨‹_›, (Except.ok.inj hcheck).symm⟩
    · exact nomatch hcheck
  obtain ⟨hnone, rfl⟩ := hissues
  have hissue : issueOf entries s = none :=
    List.filterMap_eq_nil_iff.mp (List.append_eq_nil_iff.mp hnone).1 s hs
  cases hv : settingOf entries s with
  | ok v => exact ⟨v, rfl, lookup_valuesOf schema.distinct hs hv⟩
  | error issue =>
    rw [issueOf, hv] at hissue
    exact nomatch hissue

/-- The standard schema library does what is relied on. -/
theorem lawful_standard : standard.Lawful where
  default_of_absent hcheck s hs habsent := by
    obtain ⟨v, hv, hlookup⟩ := settingOf_of_check hcheck hs
    rw [settingOf, habsent] at hv
    rw [hlookup, Except.ok.inj hv]
  allows_of_given hcheck s hs hgiven := by
    obtain ⟨v, hv, hlookup⟩ := settingOf_of_check hcheck hs
    obtain ⟨given, hentry⟩ := Option.ne_none_iff_exists'.mp hgiven
    rw [settingOf, hentry] at hv
    exact ⟨v, hlookup, allows_of_valueOf hv⟩

end SchemaLibrary

end Trigger
