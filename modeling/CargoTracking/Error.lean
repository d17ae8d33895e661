import CargoTracking.Identifier

/-!
# Errors

The causes for which an operation is refused, and their wording.
-/

namespace CargoTracking

/-- A missing or unusable argument of an operation. -/
inductive ArgumentFault
  | noOriginOrDestination
  | noDeadline
  | noTrackingId
  | noTrackingIdOrItinerary
  | noTrackingIdOrDestination
  | noCompletionTime
  | noTrackingIdOrLocation
  | noEventKind
  deriving DecidableEq

def ArgumentFault.message : ArgumentFault → String
  | noOriginOrDestination => "origin and destination are required"
  | noDeadline => "arrival deadline is required"
  | noTrackingId => "tracking id is required"
  | noTrackingIdOrItinerary => "tracking id and a non-empty itinerary are required"
  | noTrackingIdOrDestination => "tracking id and destination are required"
  | noCompletionTime => "completion time is required"
  | noTrackingIdOrLocation => "tracking id and location are required"
  | noEventKind => "event type is required"

/-- A column of the durable records that holds a time as text. -/
inductive TimeColumn
  | arrivalDeadline
  | loadTime
  | unloadTime
  | registeredAt
  | completedAt
  deriving DecidableEq

def TimeColumn.name : TimeColumn → String
  | arrivalDeadline => "arrival_deadline"
  | loadTime => "load_time"
  | unloadTime => "unload_time"
  | registeredAt => "registered_at"
  | completedAt => "completed_at"

/-- A text in the durable records that stands for nothing. -/
inductive RecordFault
  | time (column : TimeColumn)
  | eventKind (text : String)
  deriving DecidableEq

def RecordFault.message : RecordFault → String
  | time column => "invalid " ++ column.name
  | eventKind text => "invalid event_type: " ++ text

inductive Error
  | unknownCargo (id : TrackingId)
  | unknownVoyage (number : VoyageNumber)
  | unknownLocation (code : UnLocode)
  | invalidArgument (fault : ArgumentFault)
  | corruptRecord (fault : RecordFault)
  deriving DecidableEq

def Error.message : Error → String
  | unknownCargo id => "unknown cargo: " ++ id.text
  | unknownVoyage number => "unknown voyage: " ++ number.text
  | unknownLocation code => "unknown location: " ++ code.text
  | invalidArgument fault => "invalid argument: " ++ fault.message
  | corruptRecord fault => "storage error: corrupt row: " ++ fault.message

end CargoTracking
