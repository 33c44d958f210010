import Watchface.Dictionary.Reading
import Watchface.Message

/-!
The latest weather report, and how messages change it.

A message carries any of the fields of a report.  Fields that can be read
replace those of the report before; the others keep their value.  The time of
arrival says when the report is due for a refresh and when it is hidden.
-/

namespace Watchface

namespace Weather

def maxSamples : Nat := 30

structure Report where
  tempLow : Int16
  tempHigh : Int16
  tempCurrent : Int16
  icon : UInt8
  precipitation : Bytes
  /-- The time of the first sample, in seconds. -/
  precipitationStart : UInt32
  /-- The time of arrival, in seconds. -/
  receivedAt : UInt32
  deriving DecidableEq, Repr

namespace Report

def blank : Report := ⟨0, 0, 0, 0, [], 0, 0⟩

/-- Seconds since the arrival; a clock that went back gives zero. -/
def age (report : Report) (now : UInt32) : UInt32 :=
  if report.receivedAt ≤ now then now - report.receivedAt else 0

end Report

inductive Reading where
  | tempLow (degrees : Int16)
  | tempHigh (degrees : Int16)
  | tempCurrent (degrees : Int16)
  | icon (index : UInt8)
  | precipitation (samples : Bytes)
  | precipitationLength (length : UInt8)
  | precipitationStart (time : UInt32)
  deriving DecidableEq, Repr

def readField (field : WeatherField) (tuple : Tuple) : Except ReadError Reading :=
  match field with
  | .tempLow => tuple.readInt16.map .tempLow
  | .tempHigh => tuple.readInt16.map .tempHigh
  | .tempCurrent => tuple.readInt16.map .tempCurrent
  | .icon => tuple.readUInt8.map .icon
  | .precipitation =>
      tuple.readBytes.map fun samples => .precipitation (samples.take maxSamples)
  | .precipitationLength => tuple.readUInt8.map .precipitationLength
  | .precipitationStart => tuple.readUInt32.map .precipitationStart

def reading? (tuple : Tuple) : Option (Except ReadError Reading) :=
  match Topic.ofKey tuple.key with
  | .message (.weather field) => some (readField field tuple)
  | _ => none

def isFailure (tuple : Tuple) : Bool := Topic.ofKey tuple.key == .message .weatherFailed

/-- A report in the making: a length says how many of its samples count. -/
structure Draft where
  report : Report
  length : Option UInt8
  deriving DecidableEq, Repr

namespace Draft

def put (draft : Draft) : Reading → Draft
  | .tempLow degrees => { draft with report.tempLow := degrees }
  | .tempHigh degrees => { draft with report.tempHigh := degrees }
  | .tempCurrent degrees => { draft with report.tempCurrent := degrees }
  | .icon index => { draft with report.icon := index }
  | .precipitation samples => { draft with report.precipitation := samples }
  | .precipitationLength length => { draft with length := some length }
  | .precipitationStart time => { draft with report.precipitationStart := time }

/-- The samples are cut last, wherever in the message their length stands. -/
def finish (draft : Draft) (now : UInt32) : Report :=
  let samples := draft.report.precipitation
  let counted := match draft.length with
    | none => samples
    | some length => samples.take length.toNat
  { draft.report with precipitation := counted, receivedAt := now }

end Draft

structure Update where
  /-- Some field was read, so there is a new report. -/
  received : Bool
  failed : Bool
  /-- The number of fields that could not be read. -/
  rejected : Nat
  deriving DecidableEq, Repr

end Weather

structure Weather where
  report : Option Weather.Report
  failed : Bool
  deriving DecidableEq, Repr

namespace Weather

def empty : Weather := ⟨none, false⟩

def merge (weather : Weather) (message : Dictionary) (now : UInt32) : Update × Weather :=
  let results := message.tuples.filterMap reading?
  let readings := results.filterMap Except.toOption
  let update : Update :=
    { received := !readings.isEmpty
      failed := message.tuples.any isFailure
      rejected := results.countP fun result => result.toOption.isNone }
  let draft := readings.foldl Draft.put ⟨weather.report.getD .blank, none⟩
  if update.received then (update, ⟨some (draft.finish now), false⟩)
  else (update, { weather with failed := weather.failed || update.failed })

/--
Is a fetch due?  It is if there is no report at all, and else once the report
is as old as the refresh interval; an interval of 0 never comes round.
-/
def isDue (weather : Weather) (now : UInt32) (refreshMinutes : UInt16) : Bool :=
  match weather.report with
  | none => true
  | some report =>
      refreshMinutes != 0 && decide (refreshMinutes.toUInt32 * 60 ≤ report.age now)

/-- The report to draw: one that is expired is hidden, and 0 minutes never expire. -/
def shown? (weather : Weather) (now : UInt32) (expirationMinutes : UInt16) : Option Report :=
  weather.report.filter fun report =>
    expirationMinutes == 0 || decide (report.age now < expirationMinutes.toUInt32 * 60)

end Weather

end Watchface
