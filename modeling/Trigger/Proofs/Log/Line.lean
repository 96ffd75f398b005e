import Trigger.Log.Basic
import Trigger.Proofs.Json.Plain
import Trigger.Proofs.Lookup.Agreement

/-!
# Records as lines

Whatever stands in the message and in the further fields of a record, the record is one line of
printable ASCII, and reading the line as JSON gives its fields back. No string can end the line, or
its own literal, and so pass for another field.
-/

namespace Trigger

open Value

namespace Fields

variable {fields others : Fields} {key : String} {v : Value}

/-- Setting a key to a value that JSON has a form for. -/
theorem fieldsAreJson_set (hfields : fieldsAreJson fields = true) (hv : v.isJson = true) :
    fieldsAreJson (fields.set key v) = true := by
  induction fields with
  | nil => rw [set, fieldsAreJson, hv, fieldsAreJson]; rfl
  | cons entry rest ih =>
    obtain ⟨k, w⟩ := entry
    rw [fieldsAreJson, Bool.and_eq_true] at hfields
    rw [set]
    split
    · rw [fieldsAreJson, hv, hfields.2]; rfl
    · rw [fieldsAreJson, hfields.1, ih hfields.2]; rfl

/-- Setting keys to values that JSON has forms for. -/
theorem fieldsAreJson_update (hfields : fieldsAreJson fields = true)
    (hothers : fieldsAreJson others = true) : fieldsAreJson (fields.update others) = true := by
  induction others generalizing fields with
  | nil => exact hfields
  | cons entry rest ih =>
    obtain ⟨k, w⟩ := entry
    rw [fieldsAreJson, Bool.and_eq_true] at hothers
    exact ih (fieldsAreJson_set hfields hothers.1) hothers.2

/-- Some of the values that JSON has forms for. -/
theorem fieldsAreJson_filter (hfields : fieldsAreJson fields = true)
    (test : String × Value → Bool) : fieldsAreJson (fields.filter test) = true := by
  induction fields with
  | nil => rfl
  | cons entry rest ih =>
    obtain ⟨k, w⟩ := entry
    rw [fieldsAreJson, Bool.and_eq_true] at hfields
    rw [List.filter_cons]
    split
    · rw [fieldsAreJson, hfields.1, ih hfields.2]; rfl
    · exact ih hfields.2

end Fields

namespace LogRecord

variable {zone : TimeZone} {r : LogRecord} {message : String}

/-- The fields of a record whose message formats. -/
theorem payload_of_message (h : r.message = .ok message) :
    r.payload zone = .ok (Fields.update (r.standardFields zone message) r.furtherFields) := by
  rw [payload, h]
  rfl

/-- The line of a record whose message formats. -/
theorem line_of_message (h : r.message = .ok message) :
    r.line zone = .ok (Json.write .compact
      (.map (Fields.update (r.standardFields zone message) r.furtherFields))) := by
  rw [line, payload_of_message h]
  rfl

/-- The fields that every record has are distinct. -/
theorem nodup_standardFields (zone : TimeZone) (r : LogRecord) (message : String) :
    ((r.standardFields zone message).map Prod.fst).Nodup := by
  rw [standardFields]
  cases r.failure <;> simp

/-- The fields that every record has are strings. -/
theorem fieldsAreJson_standardFields (zone : TimeZone) (r : LogRecord) (message : String) :
    fieldsAreJson (r.standardFields zone message) = true := by
  rw [standardFields]
  cases r.failure <;> rfl

/-- No further field with the name of an attribute is written. -/
theorem not_mem_furtherFields {name : String} (h : name ∈ attributeNames) :
    name ∉ r.furtherFields.map Prod.fst := by
  rintro hmem
  obtain ⟨⟨k, v⟩, hentry, rfl⟩ := List.mem_map.mp hmem
  have hkept := (List.mem_filter.mp hentry).2
  simp [h] at hkept

/-- The message is written under its name. -/
theorem lookup_message (zone : TimeZone) (r : LogRecord) (message : String) :
    (Fields.update (r.standardFields zone message) r.furtherFields).lookup "message" =
      some (.str message) :=
  Fields.lookup_update_of_not_mem (not_mem_furtherFields (by decide)) _

/-- A record whose message formats and whose further fields JSON has forms for is one line of
printable ASCII, which is read as an object with its fields. The literal of each string in it stands
in the line and is read as that string. -/
theorem line_reads_back (zone : TimeZone) (hmessage : r.message = .ok message)
    (hextra : fieldsAreJson r.extra = true) :
    ∃ line payload, r.line zone = .ok line ∧ r.payload zone = .ok payload ∧
      (∀ c ∈ line, ' ' ≤ c ∧ c ≤ '~') ∧
      Json.read? (String.ofList line) = some ((Value.map payload).mapFloats Json.reread) ∧
      (∀ s ∈ (Value.map payload).strings, Json.writeString s.toList <:+: line ∧
        Json.read? (String.ofList (Json.writeString s.toList)) = some (.str s)) ∧
      payload.lookup "message" = some (.str message) := by
  obtain ⟨payload, hpayload⟩ :
      ∃ p, p = Fields.update (r.standardFields zone message) r.furtherFields := ⟨_, rfl⟩
  have hjson : (Value.map payload).isJson = true := by
    rw [isJson, Bool.and_eq_true, decide_eq_true_eq, hpayload]
    exact ⟨Fields.nodup_update (r.nodup_standardFields zone message) _,
      Fields.fieldsAreJson_update (r.fieldsAreJson_standardFields zone message)
        (Fields.fieldsAreJson_filter hextra _)⟩
  have hcomma : Json.IsLine Json.Style.compact.comma := by simp [Json.IsLine, Json.Style.compact]
  have hcolon : Json.IsLine Json.Style.compact.colon := by simp [Json.IsLine, Json.Style.compact]
  refine ⟨Json.write .compact (.map payload), payload, hpayload ▸ line_of_message hmessage,
    hpayload ▸ payload_of_message hmessage, Json.isLine_write hcomma hcolon _, ?_,
    fun s hs => ?_, ?_⟩
  · rw [Json.read?_write Json.isSpaced_compact, Json.decoded_of_isJson _ hjson]
  · exact ⟨Json.writeString_infix_write _ hs, Json.read?_writeString s⟩
  · exact hpayload ▸ r.lookup_message zone message

/-- A quote, a line end and a character beyond the first plane in a logged expression. -/
theorem line_reads_back_of_expression :
    ∃ line, LogRecord.line .universal
        { level := "WARNING", name := "n", template := "m",
          extra := [("expression", .str "\"\n😀")] } = .ok line ∧
      (∀ c ∈ line, ' ' ≤ c ∧ c ≤ '~') ∧
      Json.read? (String.ofList line) = some (.map
        [("level", .str "WARNING"), ("name", .str "n"), ("message", .str "m"),
          ("time", .str "1970-01-01T00:00:00"), ("expression", .str "\"\n😀")]) := by
  obtain ⟨line, payload, hline, hpayload, hchars, hread, -, -⟩ := line_reads_back
    .universal (r := { level := "WARNING", name := "n", template := "m",
                       extra := [("expression", .str "\"\n😀")] }) rfl rfl
  have hfields : Except.ok payload = Except.ok (ε := TemplateError)
      [("level", .str "WARNING"), ("name", .str "n"), ("message", .str "m"),
        ("time", .str "1970-01-01T00:00:00"), ("expression", .str "\"\n😀")] :=
    hpayload.symm.trans rfl
  obtain rfl := Except.ok.inj hfields
  exact ⟨line, hline, hchars, hread⟩

end LogRecord

end Trigger
