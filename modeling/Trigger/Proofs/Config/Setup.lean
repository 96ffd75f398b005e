import Trigger.Config.Reader
import Trigger.Config.Setup
import Trigger.Proofs.Config.Schema
import Trigger.Proofs.Text.Utf8

/-!
# Engines for configurations that were accepted

What is checked when a configuration is read covers what is checked when an engine is made for it,
with one exception: the level of the log can be any text, and two texts stand, in any case, for
something that is no level. Every engine that is made has the settings of its configuration, which
are within their bounds.
-/

namespace Trigger

variable {library : SchemaLibrary} {c : Config}

/-! ## Accepted configurations -/

/-- A setting of a section that is accepted has a value that its type allows. -/
theorem Config.exists_allows_of_sectionOf (hlibrary : library.Lawful) {entries : Toml.Entries}
    {name : String} {schema : Schema} {values : SettingValues}
    (h : sectionOf library entries name schema = .ok values) {s : Setting}
    (hs : s ∈ schema.settings) : ∃ v, values.lookup s.name = some v ∧ s.type.Allows v := by
  have hchecked : ∃ inner, library.check schema inner = .ok values := by
    unfold sectionOf at h
    dsimp only at h
    split at h
    · split at h
      · obtain rfl := Except.ok.inj h
        exact ⟨[], ‹_›⟩
      · exact nomatch h
    · split at h
      · obtain rfl := Except.ok.inj h
        exact ⟨_, ‹_›⟩
      · exact nomatch h
    · exact nomatch h
  obtain ⟨inner, hinner⟩ := hchecked
  exact hlibrary.exists_allows hinner hs

section

variable {entries : Toml.Entries} {name : String} {values : SettingValues}

/-- The context in an accepted section is a known one. -/
theorem EngineSettings.context_mem (hlibrary : library.Lawful)
    (h : Config.sectionOf library entries name schema = .ok values) :
    (ofValues values).defaultContext ∈ ["text", "object"] := by
  obtain ⟨v, hv, hallows⟩ := Config.exists_allows_of_sectionOf hlibrary h List.mem_cons_self
  exact SettingValues.text_mem hv hallows

/-- The bound of the cache in an accepted section is not negative. -/
theorem EngineSettings.cacheBound_nonneg (hlibrary : library.Lawful)
    (h : Config.sectionOf library entries name schema = .ok values) :
    0 ≤ (ofValues values).cacheBound := by
  obtain ⟨v, hv, hallows⟩ := Config.exists_allows_of_sectionOf hlibrary h
    (List.mem_cons_of_mem _ (List.mem_cons_of_mem _ List.mem_cons_self))
  exact SettingValues.le_integer hv hallows

/-- The threshold in an accepted section lies between zero and one. -/
theorem MatchSettings.fuzzyThreshold_within (hlibrary : library.Lawful)
    (h : Config.sectionOf library entries name schema = .ok values) :
    0.0 ≤ (ofValues values).fuzzyThreshold ∧ (ofValues values).fuzzyThreshold ≤ 1.0 := by
  obtain ⟨v, hv, hallows⟩ := Config.exists_allows_of_sectionOf hlibrary h List.mem_cons_self
  exact SettingValues.number_within hv hallows

/-- The distance of words in an accepted section is not negative. -/
theorem MatchSettings.nearReach_nonneg (hlibrary : library.Lawful)
    (h : Config.sectionOf library entries name schema = .ok values) :
    0 ≤ (ofValues values).nearReach := by
  obtain ⟨v, hv, hallows⟩ := Config.exists_allows_of_sectionOf hlibrary h
    (List.mem_cons_of_mem _ List.mem_cons_self)
  exact SettingValues.le_integer hv hallows

end

namespace Config

/-- The settings of a configuration are within their bounds. -/
structure IsWithinBounds (c : Config) : Prop where
  context : c.engine.defaultContext ∈ ["text", "object"]
  cacheBound : 0 ≤ c.engine.cacheBound
  fuzzyThreshold : 0.0 ≤ c.matching.fuzzyThreshold ∧ c.matching.fuzzyThreshold ≤ 1.0
  nearReach : 0 ≤ c.matching.nearReach

/-- The settings of an accepted configuration are within their bounds. -/
theorem isWithinBounds_of_ofEntries (hlibrary : library.Lawful) {entries : Toml.Entries}
    (h : ofEntries library entries = .ok c) : c.IsWithinBounds := by
  unfold ofEntries at h
  obtain ⟨project, -, h⟩ := bind_eq_ok_iff.mp h
  obtain ⟨log, -, h⟩ := bind_eq_ok_iff.mp h
  obtain ⟨engine, hengine, h⟩ := bind_eq_ok_iff.mp h
  obtain ⟨matching, hmatching, h⟩ := bind_eq_ok_iff.mp h
  obtain ⟨records, -, h⟩ := bind_eq_ok_iff.mp h
  obtain rfl := Except.ok.inj h
  exact ⟨EngineSettings.context_mem hlibrary hengine,
    EngineSettings.cacheBound_nonneg hlibrary hengine,
    MatchSettings.fuzzyThreshold_within hlibrary hmatching,
    MatchSettings.nearReach_nonneg hlibrary hmatching⟩

/-- A file that is accepted stands for a table that is. -/
theorem exists_entries {bytes : List UInt8} (h : ofBytes library bytes = .ok c) :
    ∃ entries, ofEntries library entries = .ok c := by
  unfold ofBytes at h
  obtain ⟨entries, -, h⟩ := bind_eq_ok_iff.mp h
  refine ⟨entries, ?_⟩
  split at h
  · rename_i hread
    exact hread.trans (congrArg _ (Except.ok.inj h))
  · exact nomatch h

end Config

/-! ## Levels -/

/-- The texts that stand, in any case, for something of a log that is no level. -/
def Logger.otherNames : List String := ["BASIC_FORMAT", "_STYLES"]

/-- A text is taken as the name of a level unless it stands for something else. -/
theorem Logger.exists_levelOf_iff (name : String) :
    (∃ level, levelOf name = .ok level) ↔
      String.ofList (Text.upper name.toList) ∉ otherNames := by
  obtain ⟨upper, hupper⟩ : ∃ s, s = String.ofList (Text.upper name.toList) := ⟨_, rfl⟩
  rw [levelOf, ← hupper, otherNames]
  by_cases hformat : upper = "BASIC_FORMAT"
  · simp [hformat]
  by_cases hstyles : upper = "_STYLES"
  · simp [hstyles]
  · simp [hformat, hstyles]

/-! ## Engines -/

/-- An engine is new and has the settings of a configuration. -/
structure Engine.IsSetBy (e : Engine) (c : Config) : Prop where
  context : e.defaultContext.name = c.engine.defaultContext
  target : e.defaultTarget = c.engine.defaultTarget
  logFailures : e.logFailures = c.engine.logFailures
  titleField : e.titleField = c.records.titleField
  bindings : e.bindings = []
  bound : (e.cache.bound : Int) = c.engine.cacheBound
  cache : e.cache = { bound := e.cache.bound }
  builtins : e.builtins = Builtin.entries
    { fuzzyThreshold := c.matching.fuzzyThreshold, nearReach := .within c.matching.nearReach }
  globals : e.globals = GlobalFunction.entries

/-- Settings within their bounds are those of an engine. -/
theorem Engine.exists_ofOptions (h : c.IsWithinBounds) :
    ∃ e, Engine.ofOptions c.engineOptions = .ok e ∧ e.IsSetBy c := by
  obtain ⟨kind, hkind, hname⟩ : ∃ kind, ContextKind.ofName? c.engineOptions.defaultContext =
      some kind ∧ kind.name = c.engine.defaultContext := by
    have hcontext : c.engineOptions.defaultContext = c.engine.defaultContext := rfl
    rw [hcontext]
    rcases List.mem_cons.mp h.context with htext | hobject
    · exact ⟨.text, by rw [htext]; rfl, htext.symm⟩
    · obtain hobject := List.mem_singleton.mp hobject
      exact ⟨.object, by rw [hobject]; rfl, hobject.symm⟩
  have hbound : boundedCache (κ := CacheKey) (α := Compiled) c.engineOptions.cacheBound =
      .ok { bound := c.engine.cacheBound.toNat } := if_neg (Int.not_lt.mpr h.cacheBound)
  unfold Engine.ofOptions
  rw [hkind]
  dsimp only
  rw [hbound]
  exact ⟨_, rfl, hname, rfl, rfl, rfl, rfl, Int.toNat_of_nonneg h.cacheBound, rfl, rfl, rfl⟩

/-- A configuration gives an engine where its level and its settings are taken. -/
theorem Engine.ofConfig_eq_ok_iff {e : Engine} :
    Engine.ofConfig c = .ok e ↔
      (∃ level, Logger.levelOf c.log.level = .ok level) ∧
        Engine.ofOptions c.engineOptions = .ok e := by
  unfold Engine.ofConfig
  cases Logger.levelOf c.log.level with
  | error error => simp
  | ok level =>
    rw [id]
    cases Engine.ofOptions c.engineOptions <;> simp

/-- A configuration that was read from a file gives an engine unless the level of its log stands for
something that is no level. Every engine that it gives has its settings, and these are within their
bounds: the context is known, the bound of the cache and the distance of words are not negative, and
the threshold lies between zero and one. -/
theorem Engine.ofConfig_of_accepted (hlibrary : library.Lawful) {bytes : List UInt8}
    (h : Config.ofBytes library bytes = .ok c) :
    ((∃ e, Engine.ofConfig c = .ok e) ↔
        String.ofList (Text.upper c.log.level.toList) ∉ Logger.otherNames) ∧
      (∀ e, Engine.ofConfig c = .ok e → e.IsSetBy c) ∧ c.IsWithinBounds := by
  obtain ⟨entries, hentries⟩ := Config.exists_entries h
  have hbounds := Config.isWithinBounds_of_ofEntries hlibrary hentries
  obtain ⟨e, he, hset⟩ := Engine.exists_ofOptions hbounds
  refine ⟨?_, fun e' he' => ?_, hbounds⟩
  · rw [← Logger.exists_levelOf_iff]
    constructor
    · rintro ⟨e', he'⟩
      exact (Engine.ofConfig_eq_ok_iff.mp he').1
    · exact fun hlevel => ⟨e, Engine.ofConfig_eq_ok_iff.mpr ⟨hlevel, he⟩⟩
  · obtain rfl := Except.ok.inj (he.symm.trans (Engine.ofConfig_eq_ok_iff.mp he').2)
    exact hset

/-! ## Files by their text -/

/-- The configuration that a text stands for, if it is accepted. -/
def Config.ofText? (library : SchemaLibrary) (t : List Char) : Option Config :=
  (Toml.read? t).bind fun entries => (ofEntries library entries).toOption

/-- A text that is accepted is accepted as a file. -/
theorem Config.ofBytes_encode {t : List Char} (h : ofText? library t = some c) :
    ofBytes library (Text.encode t) = .ok c := by
  obtain ⟨entries, hread, hentries⟩ := Option.bind_eq_some_iff.mp h
  have htable : tableOf (Text.encode t) = .ok entries := by
    rw [tableOf, Text.decode?_encode, Option.bind_some, hread]
  refine bind_eq_ok_iff.mpr ⟨entries, htable, ?_⟩
  cases hof : ofEntries library entries with
  | ok c' =>
    rw [hof] at hentries
    exact congrArg Except.ok (Option.some.inj hentries)
  | error e =>
    rw [hof] at hentries
    exact nomatch hentries

/-- A text that is accepted with a property of its configuration. -/
theorem Config.exists_ofBytes_encode {α : Type} {t : List Char} {f : Config → α} {a : α}
    (h : (ofText? library t).map f = some a) :
    ∃ c, ofBytes library (Text.encode t) = .ok c ∧ f c = a := by
  obtain ⟨c, hc, hf⟩ := Option.map_eq_some_iff.mp h
  exact ⟨c, ofBytes_encode hc, hf⟩

/-- A file that only gives a bound for the cache, as a text, gives an engine with this bound and with
the defaults for all else. -/
theorem Engine.ofConfig_of_file :
    let bytes := Text.encode "[engine]\ncache_max_entries = \"3\"\n".toList
    SchemaLibrary.standard.Lawful ∧
      ∃ c e, Config.ofBytes .standard bytes = .ok c ∧ Engine.ofConfig c = .ok e ∧ e.IsSetBy c ∧
        c.IsWithinBounds ∧ e.cache.bound = 3 := by
  intro bytes
  obtain ⟨c, hc, hsettings⟩ : ∃ c, Config.ofBytes .standard bytes = .ok c ∧
      (c.log.level, c.engine.cacheBound) = ("INFO", 3) :=
    Config.exists_ofBytes_encode (by decide +kernel)
  obtain ⟨hlevel, hthree⟩ := Prod.mk.inj hsettings
  obtain ⟨hengine, hset, hbounds⟩ :=
    Engine.ofConfig_of_accepted SchemaLibrary.lawful_standard hc
  obtain ⟨e, he⟩ := hengine.mpr (by rw [hlevel]; decide +kernel)
  have hbound : e.cache.bound = 3 := Int.ofNat.inj ((hset e he).bound.trans hthree)
  exact ⟨SchemaLibrary.lawful_standard, c, e, hc, he, hset e he, hbounds, hbound⟩

/-- Not every configuration that is accepted gives an engine. -/
theorem Engine.accepted_without_engine :
    ¬∀ bytes c, Config.ofBytes .standard bytes = .ok c → ∃ e, Engine.ofConfig c = .ok e := by
  intro hall
  obtain ⟨c, hc, hlevel⟩ := Config.exists_ofBytes_encode (f := fun c => c.log.level)
    (a := "basic_format")
    (show (Config.ofText? .standard "[logging]\nlevel = \"basic_format\"\n".toList).map _ = _ by
      decide +kernel)
  obtain ⟨e, he⟩ := hall _ c hc
  have hname := (Logger.exists_levelOf_iff c.log.level).mp (Engine.ofConfig_eq_ok_iff.mp he).1
  rw [hlevel] at hname
  exact hname (by decide +kernel)

end Trigger
