import CargoTracking.Inspection

/-!
# Registration

Reports of handling become events of a cargo's history.  A report has to be complete, and what it
refers to has to exist; whether it makes sense for the cargo's itinerary is not asked.
-/

namespace CargoTracking

/-- A report that a cargo was handled.  An empty voyage number means that there is no voyage. -/
structure Report where
  trackingId : TrackingId
  kind : EventKind
  location : UnLocode
  voyageNumber : VoyageNumber
  completedAt : Option Instant
  deriving DecidableEq

/-- When the report is complete: when it was completed, and else what is missing. -/
def Report.completion (report : Report) : Except ArgumentFault Instant :=
  match report.completedAt with
  | none => .error .noCompletionTime
  | some completedAt =>
    if report.trackingId.isEmpty || report.location.isEmpty then .error .noTrackingIdOrLocation
    else if report.kind = .notHandled then .error .noEventKind
    else .ok completedAt

namespace Registration

open Service

variable {σ : Type} [CargoStore σ]

/-- The event of a report whose cargo, voyage and location exist, looked up in this order. -/
def event (directory : Directory) (now registeredAt completedAt : Instant) (report : Report)
    (store : σ) : Except Error HandlingEvent := do
  let cargo ← CargoStore.find store report.trackingId now
  let voyage ←
    if report.voyageNumber.isEmpty then pure none
    else some <$> directory.findVoyage report.voyageNumber
  let location ← directory.findLocation report.location
  return {
    trackingId := cargo.trackingId
    activity := ⟨report.kind, location.unLocode, voyage.map (·.number)⟩
    registeredAt, completedAt }

/-- Registers a report at the present time: records its event and inspects the cargo. -/
def register (directory : Directory) (now : Instant) (report : Report) : Service σ Unit := do
  match report.completion with
  | .error fault =>
    log (.incomplete report.trackingId fault)
    throw (.invalidArgument fault)
  | .ok completedAt =>
    match event directory now now completedAt report (← get).store with
    | .error cause =>
      log (.refused report.trackingId cause)
      throw cause
    | .ok event =>
      Inspection.record now event
      log (.registered event)

end Registration

end CargoTracking
