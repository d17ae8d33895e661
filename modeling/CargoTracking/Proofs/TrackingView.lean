import CargoTracking.Proofs.Derivation
import CargoTracking.Proofs.Sessions

/-!
# What tracking tells

A tracked cargo is told from two sides.  The upper part is read off the delivery that was found, and
the list marks each event of the history by the itinerary.  The two agree as long as the delivery is
derived from the itinerary and the history that are there, which every call keeps so.
-/

namespace CargoTracking

open CargoStore Inspection

/-! ## Deliveries that are found -/

/-- Every delivery that is found is derived from the present plan and the present history. -/
structure Current {σ : Type} [CargoStore σ] (store : σ) : Prop where
  derived : ∀ {id now cargo reports}, find store id now = .ok cargo →
    history store id = .ok reports →
    ∃ time, cargo.delivery = .derive cargo.routeSpecification cargo.itinerary reports time

/-- In a store of records this is so whatever the records are. -/
theorem RecordStore.current (store : RecordStore) : Current store where
  derived {id now cargo reports} hfind hhistory := by
    obtain ⟨_, spec, itinerary, read, -, -, -, hread, rfl⟩ := find_eq_ok_iff.mp hfind
    cases hread.symm.trans hhistory
    exact ⟨now, rfl⟩

section Effect

variable {σ : Type} [CargoStore σ] [SteadyStore σ] {now : Instant} {before after : σ} {call : Call}
  {told : List Notice}

theorem current_empty : Current (empty : σ) where
  derived hfind := by
    rw [SteadyStore.find_empty] at hfind
    cases hfind

theorem Current.effect (h : Current before) (hcoherent : Coherent before)
    (hfresh : ∀ fresh ∈ call.booked?, fresh ∉ trackingIds before)
    (heffect : Effect now before call after told) : Current after where
  derived {id later found reports} hfind hhistory := by
    by_cases habout : call.about = some id
    · cases heffect with
      | silent => exact h.derived hfind hhistory
      | booked fresh origin destination deadline spec =>
        cases habout
        -- A cargo that is new has no history yet.
        have hnew := hfresh id rfl
        have hempty := hcoherent.unhandled hnew
        rw [LawfulStore.history_store, hempty] at hhistory
        cases hhistory
        obtain ⟨time, rfl⟩ := eq_of_find_store hfind hempty rfl fun hmem => absurd hmem hnew
        exact ⟨time, rfl⟩
      | @planned _ _ cargo plans hknown spec itinerary =>
        cases plans.about_eq.symm.trans habout
        have hid := hcoherent.keyed.trackingId hknown
        subst hid
        rw [LawfulStore.history_store] at hhistory
        -- The delivery remembers the last event of the history that it was derived from.
        obtain ⟨time, hderived⟩ := h.derived hknown hhistory
        have hreplan : (cargo.replan spec itinerary now).delivery =
            .derive spec itinerary reports now := by
          rw [Cargo.replan, hderived]
          rfl
        have horigin : ∃ earlier known, find before cargo.trackingId earlier = .ok known ∧
            known.origin = (cargo.replan spec itinerary now).origin := ⟨now, cargo, hknown, rfl⟩
        obtain ⟨time', rfl⟩ := eq_of_find_store hfind hhistory hreplan fun _ => horigin
        exact ⟨time', rfl⟩
      | inspected inspects hknown hread =>
        cases inspects.about_eq.symm.trans habout
        rw [commit, LawfulStore.history_store, hread] at hhistory
        cases hhistory
        obtain ⟨time, rfl⟩ := eq_of_find_inspected hcoherent.keyed hknown hread hfind
        exact ⟨time, rfl⟩
      | unreadable inspects _ hunread =>
        cases inspects.about_eq.symm.trans habout
        rw [hunread] at hhistory
        cases hhistory
    · -- What is found of the cargo is what was found of it before.
      have helsewhere := heffect.elsewhere hcoherent.keyed habout
      rw [helsewhere.find_eq] at hfind
      rw [helsewhere.history_eq] at hhistory
      exact h.derived hfind hhistory

end Effect

section Derived

variable {cargo : Cargo} {reports : History} {time : Instant}

end Derived

/-! ## Tracking -/

namespace Tracking

section Agrees

variable {σ : Type} [CargoStore σ] {store : σ} {now : Instant} {id : TrackingId}

end Agrees

end Tracking

open Tracking

end CargoTracking
