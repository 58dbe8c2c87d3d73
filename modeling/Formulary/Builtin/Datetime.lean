-- The Datetime plugin: moments from texts and numbers, their text under a pattern, and
-- their fields.
import Formulary.Builtin.Arguments
import Formulary.Calendar.Reader
import Formulary.Plugin

namespace Formulary.Builtin

/-! ## Moments -/

/-- The moment that a text stands for. -/
def parseDatetime (text : String) : Except Fault Datetime :=
  match Calendar.parse? text with
  | some d => .ok d
  | none => .error (.invalidData "datetime")

/-- The text of a moment under a pattern. -/
def formatDatetime (d : Datetime) (pattern : String) : Except Fault String :=
  match Calendar.format? d pattern with
  | some s => .ok s
  | none => .error (.invalidData "format")

/-- The moment so many milliseconds from the epoch; a fraction does not count. -/
def datetimeOfMillis (args : List Value) : Except Fault Datetime := do
  match Datetime.ofEpochMillis? (← integerArg "datetime" args 0) with
  | some d => .ok d
  | none => .error (.invalidData "datetime")

/-- The method that makes a moment of a text or of a number of milliseconds. -/
def datetimeConversion : Method where
  name := "datetime"
  description := some "Datetime from text or epoch milliseconds"
  inputs := [required "value" (.union .number .text)]
  output := .datetime
  run := fun args => do
    match ← argument args 0 with
    | .text s => .datetime <$> parseDatetime s
    | .number _ => .datetime <$> datetimeOfMillis args
    | v => .error (.argumentType v.type (.union .number .text))

def formatMethod : Method where
  name := "format"
  description := some "Format a datetime with a strftime pattern"
  inputs := [required "date" .datetime, optional "format" .text]
  output := .text
  run := fun args => do
    let d ← datetimeArg args 0
    let pattern ← if args.length ≤ 1 then pure Calendar.defaultPattern else textArg args 1
    .text <$> formatDatetime d pattern

/-- The method that gives the moment that the clock shows. -/
def nowMethod (now : Datetime) : Method where
  name := "now"
  description := some "Current local time"
  inputs := []
  output := .datetime
  run := fun _ => .ok (.datetime now)

/-! ## Fields -/

/-- What a field is called in the names of its methods. -/
def fieldName : Datetime.Field → String
  | .year => "Year"
  | .month => "Month"
  | .date => "Date"
  | .hours => "Hours"
  | .minutes => "Minutes"
  | .seconds => "Seconds"
  | .milliseconds => "Milliseconds"

/-- What a field is called elsewhere. -/
def fieldWord : Datetime.Field → String
  | .year => "year"
  | .month => "month"
  | .date => "date"
  | .hours => "hours"
  | .minutes => "minutes"
  | .seconds => "seconds"
  | .milliseconds => "milliseconds"

def getter (field : Datetime.Field) : Method where
  name := "get" ++ fieldName field
  description := some (fieldName field ++ " of a datetime")
  inputs := [required "date" .datetime]
  output := .number
  run := fun args => do
    let d ← datetimeArg args 0
    pure (.number (.ofInt (d.get field)))

def setter (field : Datetime.Field) : Method where
  name := "set" ++ fieldName field
  description := some ("Replace the " ++ fieldWord field ++ " of a datetime")
  inputs := [required "date" .datetime, required (fieldWord field) .number]
  output := .datetime
  run := fun args => do
    let d ← datetimeArg args 0
    match d.set field (← integerArg (fieldWord field) args 1) with
    | some d => pure (.datetime d)
    | none => .error (.invalidData (fieldWord field))

/-- The fields that have methods, in their order. -/
def fields : List Datetime.Field :=
  [.year, .month, .date, .hours, .minutes, .seconds, .milliseconds]

/-- The Datetime plugin of a host whose clock shows `now`. -/
def datetime (now : Datetime) : Plugin where
  name := "Datetime"
  methods :=
    [datetimeConversion, formatMethod, nowMethod now] ++
      fields.flatMap fun field => [getter field, setter field]
  vars := []

end Formulary.Builtin
