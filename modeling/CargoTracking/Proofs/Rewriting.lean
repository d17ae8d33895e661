import CargoTracking.Proofs.Effects
import CargoTracking.Proofs.Plan

/-!
# Storing what was found

A record may say the same in many ways: its legs stand at any positions, in their order, and a time
has many texts.  Storing the cargo that was found of it leaves one of them, the one that is written
for the cargo.  Nothing that can be asked of the store tells the difference.
-/

namespace CargoTracking

open CargoStore Service

/-- The cargo was stored, by a record of its own, and every request is answered as before. -/
structure Rewritten (before : RecordStore) (id : TrackingId) (cargo : Cargo)
    (outcome : Outcome RecordStore Unit) : Prop where
  result : outcome.result = .ok ()
  record : outcome.world.store.cargos[id]? = some (.ofCargo cargo)
  found : ∀ now, find outcome.world.store id now = .ok (cargo.dated now)
  finds : ∀ other now, find outcome.world.store other now = find before other now
  histories : ∀ other, history outcome.world.store other = history before other
  ids : trackingIds outcome.world.store = trackingIds before

namespace RecordStore

variable {store : RecordStore} {id : TrackingId} {now : Instant} {cargo : Cargo}

/-- The origin that is kept is the one that was found. -/
theorem getElem?_store_of_find (h : store.find id now = .ok cargo) :
    (store.store cargo).cargos[id]? = some (.ofCargo cargo) := by
  obtain ⟨record, _, _, _, hrecord, _, _, _, rfl⟩ := find_eq_ok_iff.mp h
  unfold RecordStore.store
  dsimp only
  rw [hrecord]
  exact Std.TreeMap.getElem?_insert_self

/-- The record that was written stands for the cargo, and the history is the one that was read. -/
theorem find_store_of_find (h : store.find id now = .ok cargo) (later : Instant) :
    (store.store cargo).find id later = .ok (cargo.dated later) := by
  have hrecord := getElem?_store_of_find h
  obtain ⟨_, _, _, reports, _, _, _, hhistory, rfl⟩ := find_eq_ok_iff.mp h
  rw [find_eq_ok_iff]
  exact ⟨_, _, _, reports, hrecord, CargoRecord.readSpecification_ofCargo _,
    CargoRecord.readItinerary_ofCargo _, (history_store store _ id).trans hhistory, rfl⟩

theorem rewritten (h : store.find id now = .ok cargo) :
    Rewritten store id cargo ((storeCargo cargo).perform store) where
  result := rfl
  record := getElem?_store_of_find h
  found := find_store_of_find h
  finds other later := by
    have hid := trackingId_of_find h
    show (store.store cargo).find other later = store.find other later
    by_cases hother : other = id
    · rw [hother, find_store_of_find h, find_dated h]
    · have hne : cargo.trackingId ≠ other := fun heq => hother (heq.symm.trans hid)
      exact find_store_of_ne hne store later
  histories := history_store store cargo
  ids := trackingIds_store_of_mem (store.keyed.mem_trackingIds h)

end RecordStore

/-- Whatever the records are, a cargo that was found can be stored back: it is found again as it
was, and no other request is answered otherwise. -/
theorem store_found_harmless {store : RecordStore} {id : TrackingId} {now : Instant} {cargo : Cargo}
    (h : find store id now = .ok cargo) :
    Rewritten store id cargo ((storeCargo cargo).perform store) :=
  RecordStore.rewritten h

/-- Records as nobody but their reader would write them, and beside them one that cannot be read. -/
def handwritten : RecordStore where
  cargos := (∅ : Std.TreeMap TrackingId CargoRecord)
    |>.insert ⟨"3F2A9C1B"⟩ {
      origin := "CNHKG", specOrigin := "CNHKG", destination := "SESTO"
      arrivalDeadline := some "2009-03-18T01:00+01"
      legs := (∅ : Std.TreeMap Int LegRecord)
        |>.insert 7 ⟨"V200", "USNYC", "SESTO", "20090310T000000Z", "2009-03-16 00:00Z"⟩
        |>.insert (-3) ⟨"V100", "CNHKG", "USNYC", "2009-03-03T00:00Z", "2009-03-09t00:00:00.0z"⟩ }
    |>.insert ⟨"9D1E77A0"⟩ ⟨"CNHKG", "CNHKG", "SESTO", some "soon", ∅⟩
  events :=
    [⟨"3F2A9C1B", " LOAD ", "CNHKG", some "V100", "2009-03-20T00:00Z", "2009-03-03T09:00+09:00"⟩]

/-- The legs are now at 0 and 1, and their times are written in full.  The cargo is found as it was,
and its neighbour is not found for the same reason as before. -/
theorem rewritten_of_handwritten :
    let id : TrackingId := ⟨"3F2A9C1B"⟩
    let cargo : Cargo := {
      trackingId := id, origin := ⟨"CNHKG"⟩, routeSpecification := sampleSpecification
      itinerary := sampleItinerary
      delivery := .derive sampleSpecification sampleItinerary
        ⟨[sampleEvent (.onVoyage .load ⟨"CNHKG"⟩ ⟨"V100"⟩) 3]⟩ (sampleDay 21) }
    let after := ((storeCargo cargo).perform handwritten).world.store
    find handwritten id (sampleDay 21) = .ok cargo ∧
      find after id (sampleDay 22) = .ok (cargo.dated (sampleDay 22)) ∧
      find after ⟨"9D1E77A0"⟩ (sampleDay 22) = .error (.corruptRecord (.time .arrivalDeadline)) ∧
      (handwritten.cargos[id]?.map (·.legs.keys)) = some [-3, 7] ∧
      (after.cargos[id]?.map (·.legs.keys)) = some [0, 1] := by
  intro id cargo after
  have hfind : find handwritten id (sampleDay 21) = .ok cargo := ok_of_toOption (by decide +kernel)
  have hrewritten := store_found_harmless hfind
  have hother := hrewritten.finds ⟨"9D1E77A0"⟩ (sampleDay 22)
  exact ⟨hfind, hrewritten.found _, hother.trans rfl, by decide +kernel, by decide +kernel⟩

end CargoTracking
