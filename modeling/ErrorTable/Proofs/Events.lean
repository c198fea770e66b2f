/-
What an event says.

Who reads a log knows an event by its message, and finds what it is about in its fields. No two
kinds of events share a message, so what is known by its message is one kind of event
(`isWrite_iff` and the like).

A record shows the event as a text: it starts with the level (`isErrorRecord_record`), and the
message and the value of every field stand in it (`message_infix_record`, `field_infix_record`).
-/
import ErrorTable.Log.Record

namespace ErrorTable

namespace Event

/-- The value of the field with a name, if the event has one. -/
def field? (event : Event) (name : String) : Option FieldValue :=
  event.fields.lookup name

/-! ## Events by their messages -/

/-- The event warns that a legacy directive is ignored. -/
def isLegacyIgnored (event : Event) : Bool :=
  event.level = .warn && event.message = "OUTPUT_FILE= is ignored; writing to the OUTPUT= target"

/-- The event warns that a table has no name. -/
def isUnnamedTable (event : Event) : Bool :=
  event.level = .warn &&
    event.message = "No OUTPUT_VAR= directive; the table will be declared without a name"

/-- The event says that a fragment has been written. -/
def isWrite (event : Event) : Bool :=
  event.message = "Wrote error table"

/-- The event says that an output file does not hold its fragment. -/
def isStale (event : Event) : Bool :=
  event.message = "Generated error table is out of date"

theorem isLegacyIgnored_iff {event : Event} : event.isLegacyIgnored = true ↔
    ∃ input legacy output, event = .legacyIgnored input legacy output := by
  cases event <;> simp [isLegacyIgnored, level, message, DirectiveKey.name]

theorem isUnnamedTable_iff {event : Event} :
    event.isUnnamedTable = true ↔ ∃ input, event = .unnamedTable input := by
  cases event <;> simp [isUnnamedTable, level, message, DirectiveKey.name]

theorem isWrite_iff {event : Event} :
    event.isWrite = true ↔ ∃ input output entries, event = .wrote input output entries := by
  cases event <;> simp [isWrite, message, DirectiveKey.name]

theorem isStale_iff {event : Event} :
    event.isStale = true ↔ ∃ input output, event = .outOfDate input output := by
  cases event <;> simp [isStale, message, DirectiveKey.name]

/-! ## Records -/

/-- The record of an error, by the level that it starts with. -/
def isErrorRecord (record : String) : Bool :=
  "ERROR ".toList.isPrefixOf record.toList

/-- The fields of an event as its record shows them, each behind a space. -/
def shownFields (event : Event) : List Char :=
  event.fields.flatMap fun field => ' ' :: (field.1.toList ++ '=' :: field.2.render.toList)

theorem toList_record (event : Event) : event.record.toList =
    event.paddedLevel.toList ++ ' ' :: (event.target.toList ++ ": ".toList ++
      event.message.toList ++ event.shownFields ++ ['\n']) := by
  simp [record, shownFields, List.flatMap_map]

theorem paddedLevel_eq (event : Event) : event.paddedLevel =
    match event.level with
    | .error => "ERROR"
    | .warn => " WARN"
    | .info => " INFO"
    | .debug => "DEBUG"
    | .trace => "TRACE" := by
  rw [paddedLevel]
  cases event.level <;> decide +kernel

/-- An error is known by the level at the start of its record. -/
theorem isErrorRecord_record (event : Event) :
    isErrorRecord event.record = decide (event.level = .error) := by
  rw [isErrorRecord, toList_record, paddedLevel_eq]
  cases event.level <;> rfl

theorem message_infix_record (event : Event) :
    event.message.toList <:+: event.record.toList :=
  ⟨event.paddedLevel.toList ++ ' ' :: (event.target.toList ++ ": ".toList),
    event.shownFields ++ ['\n'], by simp [toList_record]⟩

/-- A record shows the value of every field, behind its name. -/
theorem field_infix_record {event : Event} {name : String} {value : FieldValue}
    (h : event.field? name = some value) :
    (name ++ "=" ++ value.render).toList <:+: event.record.toList := by
  obtain ⟨before, after, hfields, -⟩ := List.lookup_eq_some_iff.1 h
  have hshown : (name ++ "=" ++ value.render).toList <:+: event.shownFields := by
    rw [shownFields, hfields, List.flatMap_append, List.flatMap_cons]
    exact ⟨before.flatMap _ ++ [' '], after.flatMap _, by simp; rfl⟩
  refine hshown.trans ⟨event.paddedLevel.toList ++ ' ' :: (event.target.toList ++ ": ".toList ++
    event.message.toList), ['\n'], ?_⟩
  simp [toList_record]

theorem record_infix_join {event : Event} {events : List Event} (h : event ∈ events) :
    event.record.toList <:+: (String.join (events.map record)).toList := by
  obtain ⟨before, after, rfl⟩ := List.append_of_mem h
  exact ⟨(String.join (before.map record)).toList, (String.join (after.map record)).toList,
    by simp⟩

end Event

end ErrorTable
