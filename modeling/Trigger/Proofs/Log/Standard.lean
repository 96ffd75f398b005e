import Trigger.Proofs.Log.Line
import Trigger.Proofs.Lookup.Entries

/-!
# The fields that every record has

The object that a record is written as has the name of the logger and the message under `name` and
`message`, since further fields with the names of attributes are left out. The level and the time
are attributes under other names than `level` and `time`, so further fields with these names are not
left out, and take their places.
-/

namespace Trigger

open Value

namespace Fields

variable {fields others : Fields} {x : String}

/-- Of a row of fields with distinct keys that are set, the one with a key counts, and where there
is none, what was there before. -/
theorem lookup_update_of_nodup (h : (others.map Prod.fst).Nodup) :
    (fields.update others).lookup x = (others.lookup x).or (fields.lookup x) := by
  induction others generalizing fields with
  | nil => rfl
  | cons entry rest ih =>
    obtain ⟨k, v⟩ := entry
    rw [List.map_cons, List.nodup_cons] at h
    have hstep : fields.update ((k, v) :: rest) = (fields.set k v).update rest := rfl
    by_cases hx : x = k
    · subst hx
      rw [hstep, lookup_update_of_not_mem h.1, lookup_set_self, List.lookup_cons, beq_self_eq_true]
      rfl
    · rw [hstep, ih h.2, lookup_set_of_ne (Ne.symm hx), lookup_cons_of_ne hx]

/-- A test on keys keeps the value of each key that passes it. -/
theorem lookup_filter_key (test : String → Bool) (hx : test x = true) (fields : Fields) :
    (fields.filter fun e => test e.1).lookup x = fields.lookup x := by
  induction fields with
  | nil => rfl
  | cons entry rest ih =>
    obtain ⟨k, v⟩ := entry
    by_cases hk : x = k
    · subst hk
      rw [List.filter_cons, if_pos hx, List.lookup_cons, List.lookup_cons, beq_self_eq_true]
    · rw [lookup_cons_of_ne hk, List.filter_cons]
      split
      · rw [lookup_cons_of_ne hk, ih]
      · exact ih

end Fields

/-- The value that is read for a key is that of the value written under it. -/
theorem Json.lookup_decodedEntries (entries : Fields) (x : String) :
    (decodedEntries entries).lookup x = (entries.lookup x).map decoded := by
  induction entries with
  | nil => rfl
  | cons entry rest ih =>
    obtain ⟨k, v⟩ := entry
    rw [decodedEntries, List.lookup_cons, List.lookup_cons, ih]
    cases x == k <;> rfl

namespace LogRecord

variable {zone : TimeZone} {r : LogRecord} {message : String}

/-- The time of a record as it is written. -/
def time (zone : TimeZone) (r : LogRecord) : String := (Moment.inZone zone r.created).text

/-- An object carries the level, the name of the logger, the message and the time of a record. -/
structure IsCarriedBy (zone : TimeZone) (r : LogRecord) (message : String) (fields : Fields) :
    Prop where
  level : fields.lookup "level" = some (.str r.level)
  name : fields.lookup "name" = some (.str r.name)
  message : fields.lookup "message" = some (.str message)
  time : fields.lookup "time" = some (.str (r.time zone))

/-- A name of an attribute stands for what every record has, and any other one first of all for a
further field. -/
theorem lookup_payload (hdistinct : (r.extra.map Prod.fst).Nodup) (x : String) :
    (Fields.update (r.standardFields zone message) r.furtherFields).lookup x =
      if x ∈ attributeNames then (r.standardFields zone message).lookup x
      else (r.extra.lookup x).or ((r.standardFields zone message).lookup x) := by
  split
  · rename_i hx
    exact Fields.lookup_update_of_not_mem (not_mem_furtherFields hx) _
  · rename_i hx
    have hkept : ((!attributeNames.contains x) = true) := by simpa using hx
    have hfurther : (r.furtherFields.map Prod.fst).Nodup :=
      hdistinct.sublist (List.filter_sublist.map Prod.fst)
    have hlookup : r.furtherFields.lookup x = r.extra.lookup x :=
      Fields.lookup_filter_key (fun k => !attributeNames.contains k) hkept r.extra
    rw [Fields.lookup_update_of_nodup hfurther, hlookup]

/-- The object that the line of a record is read as. -/
theorem read?_line (zone : TimeZone) (hmessage : r.message = .ok message)
    (hdistinct : (r.extra.map Prod.fst).Nodup) :
    ∃ line fields, r.line zone = .ok line ∧ Json.read? (String.ofList line) = some (.map fields) ∧
      ∀ x, fields.lookup x = Option.map Json.decoded
        (if x ∈ attributeNames then (r.standardFields zone message).lookup x
          else (r.extra.lookup x).or ((r.standardFields zone message).lookup x)) := by
  obtain ⟨payload, hpayload⟩ :
      ∃ p, p = Fields.update (r.standardFields zone message) r.furtherFields := ⟨_, rfl⟩
  have hnodup : ((Json.decodedEntries payload).map Prod.fst).Nodup := by
    rw [Json.keys_decodedEntries, hpayload]
    exact Fields.nodup_update (r.nodup_standardFields zone message) _
  refine ⟨Json.write .compact (.map payload), Json.decodedEntries payload,
    hpayload ▸ line_of_message hmessage, ?_, fun x => ?_⟩
  · rw [Json.read?_write Json.isSpaced_compact, Json.decoded, Fields.ofList_of_nodup hnodup]
  · rw [Json.lookup_decodedEntries, hpayload, lookup_payload hdistinct]

/-- The object that a record is written as carries what the record itself says if and only if no
further field says anything else under `level` or `time`. It always carries the name of the logger
and the message. -/
theorem isCarriedBy_iff (zone : TimeZone) (hmessage : r.message = .ok message)
    (hdistinct : (r.extra.map Prod.fst).Nodup) :
    ∃ line fields, r.line zone = .ok line ∧ Json.read? (String.ofList line) = some (.map fields) ∧
      (fields.lookup "name" = some (.str r.name) ∧
        fields.lookup "message" = some (.str message)) ∧
      (r.IsCarriedBy zone message fields ↔
        (∀ v, r.extra.lookup "level" = some v → Json.decoded v = .str r.level) ∧
          ∀ v, r.extra.lookup "time" = some v → Json.decoded v = .str (r.time zone)) := by
  obtain ⟨line, fields, hline, hread, hlookup⟩ := read?_line zone hmessage hdistinct
  have hname : fields.lookup "name" = some (.str r.name) := hlookup "name"
  have htext : fields.lookup "message" = some (.str message) := hlookup "message"
  have hlevel : fields.lookup "level" =
      Option.map Json.decoded ((r.extra.lookup "level").or (some (.str r.level))) := hlookup "level"
  have htime : fields.lookup "time" =
      Option.map Json.decoded ((r.extra.lookup "time").or (some (.str (r.time zone)))) :=
    hlookup "time"
  have hkept (found : Option Value) (s : String) :
      Option.map Json.decoded (found.or (some (.str s))) = some (.str s) ↔
        ∀ v, found = some v → Json.decoded v = .str s := by
    cases found with
    | none => exact ⟨fun _ v h => (nomatch h), fun _ => rfl⟩
    | some v =>
      exact ⟨fun h w hw => Option.some.inj hw ▸ Option.some.inj h, fun h => congrArg some (h v rfl)⟩
  refine ⟨line, fields, hline, hread, ⟨hname, htext⟩, ?_⟩
  rw [← hkept, ← hkept, ← hlevel, ← htime]
  exact ⟨fun h => ⟨h.level, h.time⟩, fun h => ⟨h.1, hname, htext, h.2⟩⟩

/-- A further field with another name takes nothing's place. -/
theorem isCarriedBy_beside_entries :
    ∃ line fields, LogRecord.line .universal
        { level := "INFO", name := "n", template := "m",
          extra := [("entries", .int 2)] } = .ok line ∧
      Json.read? (String.ofList line) = some (.map fields) ∧
      LogRecord.IsCarriedBy .universal
        { level := "INFO", name := "n", template := "m",
          extra := [("entries", .int 2)] } "m" fields := by
  obtain ⟨line, fields, hline, hread, -, hcarried⟩ := isCarriedBy_iff .universal
    (r := { level := "INFO", name := "n", template := "m", extra := [("entries", .int 2)] })
    rfl (by simp)
  exact ⟨line, fields, hline, hread, hcarried.mpr ⟨fun _ h => (nomatch h), fun _ h => (nomatch h)⟩⟩

/-- A further field that a logger accepts, under the name of the level. -/
theorem level_is_replaced :
    LogRecord.clashes
        { level := "INFO", name := "n", template := "m", extra := [("level", .str "x")] } = false ∧
      ∃ line fields, LogRecord.line .universal
          { level := "INFO", name := "n", template := "m",
            extra := [("level", .str "x")] } = .ok line ∧
        Json.read? (String.ofList line) = some (.map fields) ∧
        fields.lookup "level" = some (.str "x") ∧
        ¬LogRecord.IsCarriedBy .universal
          { level := "INFO", name := "n", template := "m",
            extra := [("level", .str "x")] } "m" fields := by
  obtain ⟨line, fields, hline, hread, hlookup⟩ := read?_line .universal
    (r := { level := "INFO", name := "n", template := "m", extra := [("level", .str "x")] })
    rfl (by simp)
  have hlevel : fields.lookup "level" = some (.str "x") := hlookup "level"
  refine ⟨by decide, line, fields, hline, hread, hlevel, fun hcarried => ?_⟩
  have hown := hlevel.symm.trans hcarried.level
  simp at hown

end LogRecord

end Trigger
