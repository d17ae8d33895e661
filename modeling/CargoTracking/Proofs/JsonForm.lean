import CargoTracking.Json.Form
import CargoTracking.Proofs.Records

/-!
# The JSON form loses nothing

Each type of the model reads its values back from their form.  A record reads its own members and
nothing else, a missing one as `null`, and writes all of them, so that whatever it reads has one
normal form, which is the form of what was read.
-/

namespace CargoTracking

/-! ## Members of a record -/

namespace Json

variable {names : List String} {members : List (String × Json)}

theorem fields?_eq_map (members : List (String × Json)) (names : List String) :
    (object members).fields? names = some (names.map (member members)) := rfl

/-- Members with names of their own are found under them. -/
theorem fields?_object (h : (members.map Prod.fst).Nodup) :
    (object members).fields? (members.map Prod.fst) = some (members.map Prod.snd) := by
  rw [fields?_eq_map, List.map_map, Option.some.injEq]
  refine List.map_congr_left fun m hm => ?_
  induction members with
  | nil => cases hm
  | cons first rest ih =>
    obtain ⟨hfirst, hrest⟩ := List.nodup_cons.mp h
    rcases List.mem_cons.mp hm with rfl | hm
    · rw [Function.comp, member, List.lookup_cons_self, Option.getD_some]
    · -- An earlier member of the name would be a second one.
      have hne : m.1 ≠ first.1 := by
        rintro heq
        exact hfirst (heq ▸ List.mem_map_of_mem hm)
      have hlookup : (first :: rest).lookup m.1 = rest.lookup m.1 := by
        rw [List.lookup_cons, beq_false_of_ne hne]
      rw [Function.comp, member, hlookup]
      exact ih hrest hm

theorem member_append_of_ne {name other : String} {value : Json} (before after : List (String × Json))
    (h : name ≠ other) :
    member (before ++ (other, value) :: after) name = member (before ++ after) name := by
  simp only [member, List.lookup_append, List.lookup_cons, beq_false_of_ne h]

theorem member_append_null (members : List (String × Json)) (name other : String) :
    member (members ++ [(other, null)]) name = member members name := by
  simp only [member, List.lookup_append, List.lookup_cons, List.lookup_nil]
  cases members.lookup name with
  | some value => rfl
  | none => cases name == other <;> rfl

theorem fields?_unknown {other : String} {value : Json} (before after : List (String × Json))
    (h : other ∉ names) :
    (object (before ++ (other, value) :: after)).fields? names =
      (object (before ++ after)).fields? names := by
  rw [fields?_eq_map, fields?_eq_map, Option.some.injEq]
  refine List.map_congr_left fun name hname => member_append_of_ne before after ?_
  rintro rfl
  exact h hname

theorem fields?_null (members : List (String × Json)) (name : String) :
    (object (members ++ [(name, null)])).fields? names = (object members).fields? names := by
  rw [fields?_eq_map, fields?_eq_map, Option.some.injEq]
  exact List.map_congr_left fun other _ => member_append_null members other name

end Json

/-! ## Values that are no records -/

open LawfulJsonForm (ofJson?_toJson)

attribute [simp] ofJson?_toJson

/-- No value of the type is written as `null`, so that an absent one differs from all of them. -/
class NeverNull (α : Type) [JsonForm α] : Prop where
  toJson_ne_null (a : α) : toJson a ≠ .null

namespace JsonForm

instance : LawfulJsonForm String := ⟨fun _ => rfl⟩

instance : LawfulJsonForm Bool := ⟨fun _ => rfl⟩

instance : LawfulJsonForm Instant :=
  ⟨fun t => show Instant.ofString? t.text = some t from Instant.ofString?_text t⟩

instance : LawfulJsonForm UnLocode := ⟨fun _ => rfl⟩

instance : LawfulJsonForm VoyageNumber := ⟨fun _ => rfl⟩

instance : LawfulJsonForm TrackingId := ⟨fun _ => rfl⟩

instance : LawfulJsonForm EventKind := ⟨fun kind => by cases kind <;> rfl⟩

instance : LawfulJsonForm TransportStatus := ⟨fun status => by cases status <;> rfl⟩

instance : LawfulJsonForm RoutingStatus := ⟨fun status => by cases status <;> rfl⟩

instance : NeverNull Instant := ⟨fun t => show Json.string t.text ≠ .null from Json.noConfusion⟩

instance : NeverNull UnLocode := ⟨nofun⟩

instance : NeverNull VoyageNumber := ⟨nofun⟩

variable {α : Type} [JsonForm α]

instance [LawfulJsonForm α] : LawfulJsonForm (List α) where
  ofJson?_toJson _ := mapM_map_eq_pure fun a _ => ofJson?_toJson a

theorem ofJson?_some {json : Json} (h : json ≠ .null) :
    (ofJson? json : Option (Option α)) = (ofJson? json).map some := by
  cases json with
  | null => exact absurd rfl h
  | bool | number | string | array | object => rfl

instance [LawfulJsonForm α] [NeverNull α] : LawfulJsonForm (Option α) where
  ofJson?_toJson
    | none => rfl
    | some a => by
      show ofJson? (toJson a) = _
      rw [ofJson?_some (NeverNull.toJson_ne_null a), ofJson?_toJson, Option.map_some]

end JsonForm

/-! ## Records -/

/-- A type whose values are written with the named members, and read from these alone. -/
class RecordForm (α : Type) [JsonForm α] where
  names : List String
  values : α → List Json
  names_nodup : names.Nodup := by decide
  length_values (a : α) : (values a).length = names.length := by intro; rfl
  toJson_eq (a : α) : toJson a = .object (names.zip (values a)) := by intro; rfl
  ofJson?_congr {json json' : Json} (h : json.fields? names = json'.fields? names) :
    (ofJson? json : Option α) = ofJson? json'
  ofJson?_values (a : α) : ofJson? (.array (values a)) = some a

namespace RecordForm

variable {α : Type} [JsonForm α] [RecordForm α]

theorem names_toJson (a : α) :
    ∃ members, toJson a = .object members ∧ members.map Prod.fst = names α :=
  ⟨_, toJson_eq a, List.map_fst_zip (Nat.le_of_eq (length_values a).symm)⟩

/-- A record is read from its object as from the array of its values. -/
instance (priority := low) : LawfulJsonForm α where
  ofJson?_toJson a := by
    have hnames : ((names α).zip (values a)).map Prod.fst = names α :=
      List.map_fst_zip (Nat.le_of_eq (length_values a).symm)
    have hvalues : ((names α).zip (values a)).map Prod.snd = values a :=
      List.map_snd_zip (Nat.le_of_eq (length_values a))
    have hnodup : (((names α).zip (values a)).map Prod.fst).Nodup := by
      rw [hnames]
      exact names_nodup
    have hobject := Json.fields?_object hnodup
    have harray : (Json.array (values a)).fields? (names α) = some (values a) :=
      if_pos (length_values a)
    rw [hnames, hvalues, ← harray] at hobject
    rw [toJson_eq, ofJson?_congr hobject, ofJson?_values]

instance (priority := low) : NeverNull α where
  toJson_ne_null a := by
    rw [toJson_eq]
    exact nofun

end RecordForm

namespace JsonForm

instance : RecordForm Location where
  names := ["un_locode", "name"]
  values l := [toJson l.unLocode, toJson l.name]
  ofJson?_congr h := by simp only [ofJson?, h]
  ofJson?_values l := by
    unfold instLocation
    simp [Json.fields?]

instance : RecordForm CarrierMovement where
  names := ["departureLocation", "arrivalLocation", "departureTime", "arrivalTime"]
  values m := [toJson m.departureLocation, toJson m.arrivalLocation, toJson m.departureTime,
    toJson m.arrivalTime]
  ofJson?_congr h := by simp only [ofJson?, h]
  ofJson?_values m := by
    unfold instCarrierMovement
    simp [Json.fields?]

instance : RecordForm Schedule where
  names := ["carrier_movements"]
  values s := [toJson s.carrierMovements]
  ofJson?_congr h := by simp only [ofJson?, h]
  ofJson?_values s := by
    unfold instSchedule
    simp [Json.fields?]

instance : RecordForm Voyage where
  names := ["number", "schedule"]
  values v := [toJson v.number, toJson v.schedule]
  ofJson?_congr h := by simp only [ofJson?, h]
  ofJson?_values v := by
    unfold instVoyage
    simp [Json.fields?]

instance : RecordForm Leg where
  names := ["voyageNumber", "loadLocation", "unloadLocation", "loadTime", "unloadTime"]
  values leg := [toJson leg.voyageNumber, toJson leg.loadLocation, toJson leg.unloadLocation,
    toJson leg.loadTime, toJson leg.unloadTime]
  ofJson?_congr h := by simp only [ofJson?, h]
  ofJson?_values leg := by
    unfold instLeg
    simp [Json.fields?]

instance : RecordForm Itinerary where
  names := ["legs"]
  values itinerary := [toJson itinerary.legs]
  ofJson?_congr h := by simp only [ofJson?, h]
  ofJson?_values itinerary := by
    unfold instItinerary
    simp [Json.fields?]

instance : RecordForm RouteSpecification where
  names := ["origin", "destination", "arrivalDeadline"]
  values spec := [toJson spec.origin, toJson spec.destination, toJson spec.arrivalDeadline]
  ofJson?_congr h := by simp only [ofJson?, h]
  ofJson?_values spec := by
    unfold instRouteSpecification
    simp [Json.fields?]

instance : RecordForm Activity where
  names := ["type", "location", "voyageNumber"]
  values a := [toJson a.kind, toJson a.location, toJson a.voyageNumber]
  ofJson?_congr h := by simp only [ofJson?, h]
  ofJson?_values a := by
    unfold instActivity
    simp [Json.fields?]

instance : RecordForm HandlingEvent where
  names := ["trackingId", "activity", "registeredAt", "completedAt"]
  values e := [toJson e.trackingId, toJson e.activity, toJson e.registeredAt, toJson e.completedAt]
  ofJson?_congr h := by simp only [ofJson?, h]
  ofJson?_values e := by
    unfold instHandlingEvent
    simp [Json.fields?]

instance : RecordForm History where
  names := ["events"]
  values h := [toJson h.events]
  ofJson?_congr h := by simp only [ofJson?, h]
  ofJson?_values h := by
    unfold instHistory
    simp [Json.fields?]

instance : RecordForm Delivery where
  names := ["lastEvent", "lastKnownLocation", "currentVoyage", "transportStatus", "eta",
    "nextExpectedActivity", "isMisdirected", "isUnloadedAtDestination", "routingStatus",
    "calculatedAt"]
  values d := [toJson d.lastEvent, toJson d.lastKnownLocation, toJson d.currentVoyage,
    toJson d.transportStatus, toJson d.eta, toJson d.nextExpectedActivity, toJson d.isMisdirected,
    toJson d.isUnloadedAtDestination, toJson d.routingStatus, toJson d.calculatedAt]
  ofJson?_congr h := by simp only [ofJson?, h]
  ofJson?_values d := by
    unfold instDelivery
    simp [Json.fields?]

instance : RecordForm Cargo where
  names := ["trackingId", "origin", "routeSpecification", "itinerary", "delivery"]
  values c := [toJson c.trackingId, toJson c.origin, toJson c.routeSpecification,
    toJson c.itinerary, toJson c.delivery]
  ofJson?_congr h := by simp only [ofJson?, h]
  ofJson?_values c := by
    unfold instCargo
    simp [Json.fields?]

end JsonForm

/-! ## Normal forms -/

/-- The JSON value as it is written after it was read. -/
def normalForm? (α : Type) [JsonForm α] (json : Json) : Option Json :=
  (ofJson? json : Option α).map toJson

/-- Nothing is lost by writing a value and reading it, or by reading it and writing it twice. -/
structure Lossless (α : Type) [JsonForm α] : Prop where
  reads_back (a : α) : ofJson? (toJson a) = some a
  distinguishes : Function.Injective (toJson : α → Json)
  same_value {json normal : Json} :
    normalForm? α json = some normal → (ofJson? normal : Option α) = ofJson? json
  normal_once {json normal : Json} :
    normalForm? α json = some normal → normalForm? α normal = some normal

/-- Beside that, the normal form of a record has all members of the record and no others. -/
structure LosslessRecord (α : Type) [JsonForm α] [RecordForm α] : Prop extends Lossless α where
  complete {json normal : Json} : normalForm? α json = some normal →
    ∃ members, normal = .object members ∧ members.map Prod.fst = RecordForm.names α
  without_unknown {other : String} {value : Json} {before after : List (String × Json)} :
    other ∉ RecordForm.names α → normalForm? α (.object (before ++ (other, value) :: after)) =
      normalForm? α (.object (before ++ after))
  with_missing {name : String} {members : List (String × Json)} :
    name ∉ members.map Prod.fst →
      normalForm? α (.object (members ++ [(name, .null)])) = normalForm? α (.object members)

section

variable {α : Type} [JsonForm α]

theorem normalForm?_eq_some_iff {json normal : Json} :
    normalForm? α json = some normal ↔ ∃ a : α, ofJson? json = some a ∧ toJson a = normal :=
  Option.map_eq_some_iff

theorem lossless [LawfulJsonForm α] : Lossless α where
  reads_back := ofJson?_toJson
  distinguishes a b hab := by
    have hread := congrArg (ofJson? : Json → Option α) hab
    rw [ofJson?_toJson, ofJson?_toJson] at hread
    exact Option.some.inj hread
  same_value h := by
    obtain ⟨a, hread, rfl⟩ := normalForm?_eq_some_iff.mp h
    rw [ofJson?_toJson, hread]
  normal_once h := by
    obtain ⟨a, -, rfl⟩ := normalForm?_eq_some_iff.mp h
    exact normalForm?_eq_some_iff.mpr ⟨a, ofJson?_toJson a, rfl⟩

theorem normalForm?_congr [RecordForm α] {json json' : Json}
    (h : json.fields? (RecordForm.names α) = json'.fields? (RecordForm.names α)) :
    normalForm? α json = normalForm? α json' := by
  rw [normalForm?, normalForm?, RecordForm.ofJson?_congr h]

theorem losslessRecord [RecordForm α] : LosslessRecord α where
  toLossless := lossless
  complete h := by
    obtain ⟨a, -, rfl⟩ := normalForm?_eq_some_iff.mp h
    exact RecordForm.names_toJson a
  without_unknown h := normalForm?_congr (Json.fields?_unknown _ _ h)
  with_missing _ := normalForm?_congr (Json.fields?_null _ _)

end

/-- Every value of the model comes back from its JSON form, an absent code is not an empty one, and
whatever JSON value is read has a normal form that is read as the same value. -/
theorem json_loses_nothing :
    (LosslessRecord Cargo ∧ LosslessRecord Delivery ∧ LosslessRecord History ∧
      LosslessRecord HandlingEvent ∧ LosslessRecord Activity ∧ LosslessRecord Itinerary ∧
      LosslessRecord Leg ∧ LosslessRecord RouteSpecification ∧ LosslessRecord Voyage ∧
      LosslessRecord Schedule ∧ LosslessRecord CarrierMovement ∧ LosslessRecord Location) ∧
    (Lossless TrackingId ∧ Lossless UnLocode ∧ Lossless VoyageNumber ∧ Lossless Instant ∧
      Lossless EventKind ∧ Lossless TransportStatus ∧ Lossless RoutingStatus) ∧
    (Lossless (Option HandlingEvent) ∧ Lossless (Option Activity) ∧ Lossless (Option Instant) ∧
      Lossless (Option UnLocode) ∧ Lossless (Option VoyageNumber)) ∧
    (Lossless (List HandlingEvent) ∧ Lossless (List Leg) ∧ Lossless (List CarrierMovement)) ∧
    toJson (none : Option UnLocode) ≠ toJson (some (UnLocode.mk "")) ∧
    toJson (none : Option VoyageNumber) ≠ toJson (some (VoyageNumber.mk "")) := by
  refine ⟨?records, ?values, ?options, ?lists, ?location, ?voyage⟩
  case records =>
    exact ⟨losslessRecord, losslessRecord, losslessRecord, losslessRecord, losslessRecord,
      losslessRecord, losslessRecord, losslessRecord, losslessRecord, losslessRecord,
      losslessRecord, losslessRecord⟩
  case values =>
    exact ⟨lossless, lossless, lossless, lossless, lossless, lossless, lossless⟩
  case options => exact ⟨lossless, lossless, lossless, lossless, lossless⟩
  case lists => exact ⟨lossless, lossless, lossless⟩
  case location => exact lossless.distinguishes.ne nofun
  case voyage => exact lossless.distinguishes.ne nofun

example : normalForm? Activity (.object
      [("location", .string "CNHKG"), ("remark", .bool true), ("type", .string "receive")]) =
    some (.object
      [("type", .string "receive"), ("location", .string "CNHKG"), ("voyageNumber", .null)]) := rfl

end CargoTracking
