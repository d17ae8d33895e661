import CargoTracking.Proofs.Agreement
import CargoTracking.Proofs.Dump
import CargoTracking.Proofs.Plan

/-!
# Interchangeable stores

The same calls are made on the store in memory and on the store of records, each with its own clock,
and the records are written and read back at times.  Nobody who makes the calls can tell which of
the stores answers, and the store in memory, which keeps the deliveries it is given, always has those
that the other one derives.
-/

namespace CargoTracking

open CargoStore

/-- Two stores after the same calls from the start, among them no second booking of an id and no
event that is none. -/
inductive Parallel (directory : Directory) : MemoryStore → RecordStore → Prop
  | start : Parallel directory empty empty
  | call {memory : MemoryStore} {records : RecordStore} (h : Parallel directory memory records)
      (call : Call) (now now' : Instant) (hcall : call.Admissible (trackingIds memory)) :
      Parallel directory ((call.serve directory now).perform memory).world.store
        ((call.serve directory now').perform records).world.store
  | reopen {memory : MemoryStore} {records records' : RecordStore}
      (h : Parallel directory memory records)
      (hread : RecordStore.ofText? records.toText = some records') :
      Parallel directory memory records'

structure Interchangeable (directory : Directory) (memory : MemoryStore) (records : RecordStore) :
    Prop where
  /-- The next call has the same result and the same notices. -/
  result : ∀ (call : Call) (now now' : Instant), call.Admissible (trackingIds memory) →
    ((call.serve directory now).perform memory).result =
      ((call.serve directory now').perform records).result
  notices : ∀ (call : Call) (now now' : Instant), call.Admissible (trackingIds memory) →
    ((call.serve directory now).perform memory).world.notices.map Notice.unstamped =
      ((call.serve directory now').perform records).world.notices.map Notice.unstamped
  agree : Agree memory records
  /-- The records are read back, and answer as before. -/
  reopened : ∃ records', RecordStore.ofText? records.toText = some records' ∧
    trackingIds records' = trackingIds records ∧
    (∀ id now, find records' id now = find records id now) ∧
    ∀ id, history records' id = history records id
  /-- The delivery that is kept is the one of the present plan and the full history. -/
  derived : ∀ id now cargo, find memory id now = .ok cargo →
    ∃ reports, history memory id = .ok reports ∧
      cargo.delivery = .derive cargo.routeSpecification cargo.itinerary reports
        cargo.delivery.calculatedAt

/-! ## Start, calls and reopenings -/

theorem upToDate_of_empty {σ : Type} [CargoStore σ] {store : σ}
    (hids : trackingIds store = []) (hfind : ∀ id now, find store id now = .error (.unknownCargo id))
    (hhistory : ∀ id, history store id = .ok .empty) : UpToDate store where
  found id hid := by rw [hids] at hid; cases hid
  trackingId h := by rw [hfind] at h; cases h
  derived h := by rw [hfind] at h; cases h
  unhandled _ := hhistory _

/-- The stores match when nothing has been told yet. -/
abbrev Beside (memory : MemoryStore) (records : RecordStore) : Prop :=
  Matched ({ store := memory } : World MemoryStore) ({ store := records } : World RecordStore)

theorem beside_start : Beside empty empty where
  upToDate := upToDate_of_empty rfl (fun _ _ => rfl) fun _ => rfl
  upToDate' := upToDate_of_empty rfl (fun _ _ => rfl) fun _ => rfl
  agree := ⟨rfl, fun _ _ _ => rfl, fun _ => rfl⟩
  notices := rfl

section Reopen

variable {records records' : RecordStore}

theorem UpToDate.reopen (h : UpToDate records) (hsame : records.Same records') :
    UpToDate records' where
  found id hid now := by
    rw [← hsame.trackingIds] at hid
    show ∃ cargo, records'.find id now = .ok cargo
    rw [← hsame.find]
    exact h.found id hid now
  trackingId {id now cargo} hfound := h.trackingId ((hsame.find id now).trans hfound)
  derived {id now cargo} hfound := by
    show ∃ reports time, records'.history id = .ok reports ∧ _
    rw [← hsame.history]
    exact h.derived ((hsame.find id now).trans hfound)
  unhandled {id} hid := by
    rw [← hsame.trackingIds] at hid
    exact (hsame.history id).symm.trans (h.unhandled hid)

theorem Agree.reopen {memory : MemoryStore} (h : Agree memory records)
    (hsame : records.Same records') : Agree memory records' where
  trackingIds := h.trackingIds.trans hsame.trackingIds
  find id now now' := by
    rw [h.find id now now']
    exact congrArg _ (hsame.find id now')
  history id := by
    rw [h.history id]
    exact congrArg _ (hsame.history id)

end Reopen

/-- Whatever calls were made and wherever the records were reopened, the stores match. -/
theorem Parallel.beside {directory : Directory} {memory : MemoryStore} {records : RecordStore}
    (h : Parallel directory memory records) : Beside memory records := by
  induction h with
  | start => exact beside_start
  | call _ call now now' hcall ih =>
    -- The notices of the call are told and gone before the next one.
    obtain ⟨-, hmatched⟩ := ih.serve hcall directory now now'
    rw [Service.perform_eq_on, Service.perform_eq_on]
    exact ⟨hmatched.upToDate, hmatched.upToDate', hmatched.agree, rfl⟩
  | reopen _ hread ih =>
    -- What was read is what is always read, and it answers as before.
    obtain ⟨store', hread', hsame⟩ := RecordStore.exists_ofText?_toText _
    rw [hread] at hread'
    cases hread'
    exact ⟨ih.upToDate, ih.upToDate'.reopen hsame, ih.agree.reopen hsame, rfl⟩

/-- The store in memory and the store of records are interchangeable under the services. -/
theorem stores_interchangeable {directory : Directory} {memory : MemoryStore}
    {records : RecordStore} (h : Parallel directory memory records) :
    Interchangeable directory memory records where
  result call now now' hcall := by
    rw [Service.perform_eq_on, Service.perform_eq_on]
    exact (h.beside.serve hcall directory now now').1
  notices call now now' hcall := by
    rw [Service.perform_eq_on, Service.perform_eq_on]
    exact (h.beside.serve hcall directory now now').2.notices
  agree := h.beside.agree
  reopened := by
    obtain ⟨records', hread, hsame⟩ := RecordStore.exists_ofText?_toText records
    exact ⟨records', hread, hsame.trackingIds.symm, fun id now => (hsame.find id now).symm,
      fun id => (hsame.history id).symm⟩
  derived id now cargo hfind := by
    obtain ⟨reports, time, hhistory, hdelivery⟩ := h.beside.upToDate.derived hfind
    refine ⟨reports, hhistory, ?_⟩
    rw [hdelivery]
    rfl

/-- After a cargo was booked, routed and received, with the records reopened on the way. -/
theorem interchangeable_after_receipt : ∃ memory records,
    Parallel .sample memory records ∧ Interchangeable .sample memory records ∧
      (memory.find ⟨"3F2A9C1B"⟩).toOption.map (·.delivery.transportStatus) = some .inPort := by
  have hstart : Parallel .sample empty empty := .start
  have hbook := hstart.call
    (.book ⟨"3F2A9C1B"⟩ ⟨"CNHKG"⟩ ⟨"SESTO"⟩ (some (sampleDay 18))) (sampleDay 1) (sampleDay 2)
    List.not_mem_nil
  obtain ⟨records, hread, -⟩ := RecordStore.exists_ofText?_toText _
  have hassign := (hbook.reopen hread).call (.assign ⟨"3F2A9C1B"⟩ sampleItinerary) (sampleDay 3)
    (sampleDay 3) trivial
  have hregister := hassign.call
    (.register ⟨⟨"3F2A9C1B"⟩, .receive, ⟨"CNHKG"⟩, ⟨""⟩, some (sampleDay 1)⟩) (sampleDay 4)
    (sampleDay 5) trivial
  exact ⟨_, _, hregister, stores_interchangeable hregister, by decide +kernel⟩

end CargoTracking
