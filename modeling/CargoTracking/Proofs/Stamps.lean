import CargoTracking.Proofs.Operations

/-!
# Stamps of the clock

When an event was registered and when a delivery was derived is all that an operation takes from the
clock.  Nothing else depends on it: whatever is made of values without their stamps is what is made
of the values, without its stamps.
-/

namespace CargoTracking

/-- The instant that stands in the place of a stamp. -/
def Instant.epoch : Instant := { nanos := 0 }

def HandlingEvent.unstamped (event : HandlingEvent) : HandlingEvent :=
  { event with registeredAt := .epoch }

def History.unstamped (history : History) : History := ⟨history.events.map .unstamped⟩

def Delivery.unstamped (delivery : Delivery) : Delivery :=
  { delivery with
    lastEvent := delivery.lastEvent.map .unstamped
    calculatedAt := .epoch }

def Cargo.unstamped (cargo : Cargo) : Cargo := { cargo with delivery := cargo.delivery.unstamped }

/-- The cargo with its delivery, but calculated at another time. -/
def Cargo.dated (cargo : Cargo) (time : Instant) : Cargo :=
  { cargo with delivery := { cargo.delivery with calculatedAt := time } }

def Notice.unstamped : Notice → Notice
  | misdirected cargo => misdirected cargo.unstamped
  | arrived cargo => arrived cargo.unstamped

/-- Results that are the same after something is forgotten. -/
theorem cases_of_map_eq {ε α β : Type} {forget : α → β} {x y : Except ε α}
    (h : x.map forget = y.map forget) :
    (∃ e, x = .error e ∧ y = .error e) ∨
      ∃ a b, x = .ok a ∧ y = .ok b ∧ forget a = forget b := by
  cases x with
  | error e =>
    cases y with
    | error e' => cases h; exact .inl ⟨e, rfl, rfl⟩
    | ok b => cases h
  | ok a =>
    cases y with
    | error e' => cases h
    | ok b => exact .inr ⟨a, b, rfl, rfl, Except.ok.inj h⟩

theorem ok_of_toOption {ε α : Type} {x : Except ε α} {a : α} (h : x.toOption = some a) :
    x = .ok a := by
  cases x with
  | error e => cases h
  | ok b => rw [Option.some.inj h]

/-- What is forgotten of the results is forgotten of each of them. -/
theorem map_mapM {ε α β γ : Type} (f : α → Except ε β) (forget : β → γ) (l : List α) :
    (l.mapM f).map (List.map forget) = l.mapM fun a => (f a).map forget := by
  induction l with
  | nil => rfl
  | cons a l ih =>
    rw [List.mapM_cons, List.mapM_cons, ← ih]
    -- The first failure ends both.
    cases f a with
    | error e => rfl
    | ok b => cases l.mapM f <;> rfl

namespace History

theorem unstamped_append (history : History) (event : HandlingEvent) :
    (history.append event).unstamped = history.unstamped.append event.unstamped := by
  simp only [unstamped, append, List.map_append, List.map_cons, List.map_nil]

theorem later_unstamped (best : Option HandlingEvent) (event : HandlingEvent) :
    later (best.map .unstamped) event.unstamped = (later best event).map .unstamped := by
  cases best with
  | none => rfl
  | some b =>
    show (if b.completedAt ≤ event.completedAt then some event.unstamped else some b.unstamped) =
      (if b.completedAt ≤ event.completedAt then some event else some b).map .unstamped
    -- The choice between the two looks at the times of completion only.
    by_cases h : b.completedAt ≤ event.completedAt
    · rw [if_pos h, if_pos h]
      rfl
    · rw [if_neg h, if_neg h]
      rfl

theorem foldl_later_unstamped (events : List HandlingEvent) (best : Option HandlingEvent) :
    (events.map .unstamped).foldl later (best.map .unstamped) =
      (events.foldl later best).map .unstamped := by
  induction events generalizing best with
  | nil => rfl
  | cons event events ih => rw [List.map_cons, List.foldl_cons, later_unstamped, ih, List.foldl_cons]

theorem last?_unstamped (history : History) :
    history.unstamped.last? = history.last?.map .unstamped :=
  foldl_later_unstamped history.events none

end History

namespace Delivery

theorem unstamped_ofLastEvent (spec : RouteSpecification) (itinerary : Itinerary)
    (last : Option HandlingEvent) (now : Instant) :
    (ofLastEvent spec itinerary last now).unstamped =
      ofLastEvent spec itinerary (last.map .unstamped) .epoch := by
  cases last <;> rfl

theorem unstamped_derive (spec : RouteSpecification) (itinerary : Itinerary) (history : History)
    (now : Instant) :
    (derive spec itinerary history now).unstamped =
      derive spec itinerary history.unstamped .epoch := by
  rw [derive, unstamped_ofLastEvent, derive, History.last?_unstamped]

end Delivery

namespace Cargo

theorem unstamped_assign (cargo : Cargo) (itinerary : Itinerary) (now : Instant) :
    (cargo.assign itinerary now).unstamped = cargo.unstamped.assign itinerary .epoch := by
  unfold assign unstamped Delivery.updateOnRouting
  rw [Delivery.unstamped_ofLastEvent]
  rfl

theorem unstamped_redirect (cargo : Cargo) (destination : UnLocode) (now : Instant) :
    (cargo.redirect destination now).unstamped = cargo.unstamped.redirect destination .epoch := by
  unfold redirect respecify unstamped Delivery.updateOnRouting
  rw [Delivery.unstamped_ofLastEvent]
  rfl

theorem unstamped_deriveFrom (cargo : Cargo) (history : History) (now : Instant) :
    (cargo.deriveFrom history now).unstamped =
      cargo.unstamped.deriveFrom history.unstamped .epoch := by
  unfold deriveFrom unstamped
  rw [Delivery.unstamped_derive]

end Cargo

theorem BookedCargo.of_unstamped (cargo : Cargo) : of cargo.unstamped = of cargo := rfl

theorem TrackedCargo.of_unstamped (cargo : Cargo) (history : History) :
    of cargo.unstamped history.unstamped = of cargo history := by
  unfold of History.unstamped
  rw [List.map_map]
  rfl

theorem Inspection.notices_unstamped (before : Delivery) (cargo : Cargo) :
    (notices before cargo).map .unstamped = notices before.unstamped cargo.unstamped := by
  unfold notices
  -- The conditions of the notices do not look at stamps.
  rw [List.map_append, apply_ite (List.map Notice.unstamped), apply_ite (List.map Notice.unstamped)]
  rfl

end CargoTracking
