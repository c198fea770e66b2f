/-
Records: events as lines of a log.
-/
import ErrorTable.Log.Filter
import ErrorTable.Text.Quoted

namespace ErrorTable

/-- A field's value as a log line shows it. -/
def FieldValue.render : FieldValue → String
  | plain text => text
  | quoted text => Text.quote text
  | number value => toString value

namespace Event

/-- The width of the level at the start of a log line. -/
def levelWidth : Nat := 5

/-- The level, filled up with spaces on the left. -/
def paddedLevel (event : Event) : String :=
  String.ofList (List.replicate (levelWidth - event.level.name.length) ' ') ++ event.level.name

/-- The log line of an event, with its line feed: level, target, message and fields. -/
def record (event : Event) : String :=
  let fields := event.fields.map fun (name, value) => " " ++ name ++ "=" ++ value.render
  event.paddedLevel ++ " " ++ event.target ++ ": " ++ event.message ++ String.join fields ++ "\n"

end Event

/-- The log of a run under a filter: the records of the events shown, in order. -/
def Filter.log (filter : Filter) (events : List Event) : String :=
  String.join ((events.filter filter.shows).map Event.record)

end ErrorTable
