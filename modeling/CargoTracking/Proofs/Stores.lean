import CargoTracking.Proofs.Records
import CargoTracking.Store.Memory

/-!
# What every store guarantees

The laws that the store in memory and the store of records have in common.  They hold whatever the
store holds, also for records that stand for nothing.  Only the stored delivery may differ: one
store returns the one it was given, the other one the delivery that it derives.
-/

namespace CargoTracking

open CargoStore

class LawfulStore (σ : Type) [CargoStore σ] : Prop where
  sorted_trackingIds (store : σ) : (trackingIds store).Pairwise fun a b => compare a b = .lt
  findAll_eq (store : σ) (now : Instant) :
    findAll store now = (trackingIds store).mapM fun id => find store id now
  find_of_not_mem {store : σ} {id : TrackingId} (h : id ∉ trackingIds store) (now : Instant) :
    find store id now = .error (.unknownCargo id)
  history_of_find {store : σ} {id : TrackingId} {now : Instant} {cargo : Cargo}
    (h : find store id now = .ok cargo) : ∃ reports, history store id = .ok reports
  trackingIds_append (store : σ) (event : HandlingEvent) :
    trackingIds (append store event) = trackingIds store
  /-- An event that is one can be read again. -/
  history_append {event : HandlingEvent} (h : event.activity.kind ≠ .notHandled) (store : σ)
    (id : TrackingId) :
    history (append store event) id =
      if event.trackingId = id then (history store id).map (·.append event) else history store id
  /-- The event does not keep a cargo from being found, and changes its delivery at most. -/
  find_append {event : HandlingEvent} (h : event.activity.kind ≠ .notHandled) {store : σ}
    {id : TrackingId} {now : Instant} {cargo : Cargo} (hfind : find store id now = .ok cargo) :
    ∃ delivery, find (append store event) id now = .ok { cargo with delivery }
  find_append_of_ne {event : HandlingEvent} {id : TrackingId} (h : event.trackingId ≠ id)
    (store : σ) (now : Instant) : find (append store event) id now = find store id now
  mem_trackingIds_store (store : σ) (cargo : Cargo) (id : TrackingId) :
    id ∈ trackingIds (CargoStore.store store cargo) ↔
      cargo.trackingId = id ∨ id ∈ trackingIds store
  history_store (store : σ) (cargo : Cargo) (id : TrackingId) :
    history (CargoStore.store store cargo) id = history store id
  find_store_of_ne {cargo : Cargo} {id : TrackingId} (h : cargo.trackingId ≠ id) (store : σ)
    (now : Instant) : find (CargoStore.store store cargo) id now = find store id now
  find_store_self {store : σ} {cargo : Cargo} {reports : History}
    (h : history store cargo.trackingId = .ok reports) (now : Instant) :
    ∃ cargo', find (CargoStore.store store cargo) cargo.trackingId now = .ok cargo'
  /-- A cargo whose delivery is derived from its history, and whose origin has not changed, comes
  back as it was stored, up to the time of the derivation. -/
  find_store_of_derived {store : σ} {cargo : Cargo} {reports : History} {time now : Instant}
    (h : history store cargo.trackingId = .ok reports)
    (hdelivery : cargo.delivery =
      .derive cargo.routeSpecification cargo.itinerary reports time)
    (horigin : cargo.trackingId ∈ trackingIds store → ∃ earlier before,
      find store cargo.trackingId earlier = .ok before ∧ before.origin = cargo.origin) :
    ∃ time', find (CargoStore.store store cargo) cargo.trackingId now = .ok { cargo with
      delivery := .derive cargo.routeSpecification cargo.itinerary reports time' }

/-! ## Maps from ids -/

theorem compare_id_eq {a b : TrackingId} : compare a b = .eq ↔ a = b :=
  ⟨Std.LawfulEqOrd.eq_of_compare, fun h => h ▸ Std.ReflOrd.compare_self⟩

/-- Reading the entries of a map one by one is the same as looking up its keys one by one. -/
theorem mapM_keys {β : Type} {m : Std.TreeMap TrackingId β}
    {read : TrackingId × β → Except Error Cargo} {look : TrackingId → Except Error Cargo}
    (h : ∀ id value, m[id]? = some value → read (id, value) = look id) :
    m.toList.mapM read = m.keys.mapM look := by
  have hmem : ∀ e ∈ m.toList, read e = look e.1 := fun (id, value) he =>
    h id value (Std.TreeMap.mem_toList_iff_getElem?_eq_some.mp he)
  rw [← Std.TreeMap.map_fst_toList_eq_keys, List.mapM_map]
  -- From here on it is about the list of the entries.
  revert hmem
  induction m.toList with
  | nil => exact fun _ => rfl
  | cons e es ih =>
    intro hmem
    rw [List.mapM_cons, List.mapM_cons, ih fun e' he => hmem e' (List.mem_cons_of_mem e he),
      hmem e List.mem_cons_self]
    rfl

/-! ## Ids after a store -/

section Ids

variable {σ : Type} [CargoStore σ] [LawfulStore σ] {store : σ} {cargo : Cargo}

variable (store) in
theorem nodup_trackingIds : (trackingIds store).Nodup :=
  OrderedMap.nodup_of_sorted id (LawfulStore.sorted_trackingIds store)

theorem trackingIds_store_perm (h : cargo.trackingId ∉ trackingIds store) :
    (trackingIds (CargoStore.store store cargo)).Perm (cargo.trackingId :: trackingIds store) := by
  rw [List.perm_ext_iff_of_nodup (nodup_trackingIds _)
    (List.nodup_cons.mpr ⟨h, nodup_trackingIds store⟩)]
  intro id
  rw [LawfulStore.mem_trackingIds_store, List.mem_cons, eq_comm]

theorem trackingIds_store_of_mem (h : cargo.trackingId ∈ trackingIds store) :
    trackingIds (CargoStore.store store cargo) = trackingIds store := by
  refine OrderedMap.eq_of_sorted id (LawfulStore.sorted_trackingIds _)
    (LawfulStore.sorted_trackingIds _) fun id => ?_
  rw [LawfulStore.mem_trackingIds_store, or_iff_right_of_imp]
  rintro rfl
  exact h

end Ids

/-! ## The store in memory -/

namespace MemoryStore

theorem find_of_getElem? {store : MemoryStore} {id : TrackingId} {cargo : Cargo}
    (h : store.cargos[id]? = some cargo) : store.find id = .ok cargo := by
  rw [find, h]

theorem find_store_self (store : MemoryStore) (cargo : Cargo) (now : Instant) :
    CargoStore.find (CargoStore.store store cargo) cargo.trackingId now = .ok cargo :=
  find_of_getElem? Std.TreeMap.getElem?_insert_self

theorem find_store_of_ne {cargo : Cargo} {id : TrackingId} (h : cargo.trackingId ≠ id)
    (store : MemoryStore) (now : Instant) :
    CargoStore.find (CargoStore.store store cargo) id now = CargoStore.find store id now := by
  have hcargo : (store.cargos.insert cargo.trackingId cargo)[id]? = store.cargos[id]? := by
    rw [Std.TreeMap.getElem?_insert, if_neg (mt compare_id_eq.mp h)]
  show find { store with cargos := store.cargos.insert cargo.trackingId cargo } id = find store id
  rw [find, hcargo, find]

theorem history_append (store : MemoryStore) (event : HandlingEvent) (id : TrackingId) :
    history (append store event) id =
      if event.trackingId = id then (history store id).map (·.append event)
      else history store id := by
  have happend : history (append store event) id =
      .ok ⟨(store.events ++ [event]).filter (·.trackingId = id)⟩ := rfl
  rw [happend]
  simp only [List.filter_append, List.filter_cons, List.filter_nil, decide_eq_true_iff]
  by_cases hid : event.trackingId = id
  · rw [if_pos hid, if_pos hid]
    rfl
  · rw [if_neg hid, if_neg hid, List.append_nil]
    rfl

instance : LawfulStore MemoryStore where
  sorted_trackingIds _ := Std.TreeMap.ordered_keys
  findAll_eq store now := by
    have hread : store.cargos.toList.mapM (fun e => (.ok e.2 : Except Error Cargo)) =
        .ok store.cargos.values := by
      rw [OrderedMap.values_eq_map]
      exact List.mapM_pure
    show (.ok store.cargos.values : Except Error (List Cargo)) = _
    rw [← hread]
    exact mapM_keys fun id cargo h => (find_of_getElem? h).symm
  find_of_not_mem {store id} h _ := by
    have hnone : store.cargos[id]? = none :=
      Std.TreeMap.getElem?_eq_none (mt Std.TreeMap.mem_keys.mpr h)
    show find store id = _
    rw [find, hnone]
  history_of_find _ := ⟨_, rfl⟩
  trackingIds_append _ _ := rfl
  history_append _ store := history_append store _
  find_append _ _ _ _ cargo h := ⟨cargo.delivery, h⟩
  find_append_of_ne _ _ _ := rfl
  mem_trackingIds_store store cargo id := by
    show id ∈ (store.cargos.insert cargo.trackingId cargo).keys ↔ _ ∨ id ∈ store.cargos.keys
    rw [Std.TreeMap.mem_keys, Std.TreeMap.mem_keys, Std.TreeMap.mem_insert, compare_id_eq]
  history_store _ _ _ := rfl
  find_store_of_ne := find_store_of_ne
  find_store_self {store cargo _} _ now := ⟨cargo, find_store_self store cargo now⟩
  find_store_of_derived {store cargo _ time now} _ hdelivery _ := by
    refine ⟨time, ?_⟩
    rw [← hdelivery]
    exact find_store_self store cargo now

end MemoryStore

/-! ## The store of records -/

namespace RecordStore

instance : LawfulStore RecordStore where
  sorted_trackingIds _ := Std.TreeMap.ordered_keys
  findAll_eq store now := mapM_keys fun id record h => by
    show _ = store.find id now
    rw [find, h]
  find_of_not_mem {store id} h now := by
    have hnone : store.cargos[id]? = none :=
      Std.TreeMap.getElem?_eq_none (mt Std.TreeMap.mem_keys.mpr h)
    show store.find id now = _
    rw [find, hnone]
  history_of_find h := by
    obtain ⟨_, _, _, reports, _, _, _, hhistory, _⟩ := find_eq_ok_iff.mp h
    exact ⟨reports, hhistory⟩
  trackingIds_append _ _ := rfl
  history_append := history_append
  find_append {event} hkind {store id now cargo} h := by
    obtain ⟨record, spec, itinerary, reports, hrecord, hspec, hitinerary, hhistory, rfl⟩ :=
      find_eq_ok_iff.mp h
    -- The record of the cargo is untouched, and its history is readable with the event.
    obtain ⟨reports', hhistory'⟩ : ∃ reports', history (append store event) id = .ok reports' := by
      rw [history_append hkind, hhistory]
      by_cases hid : event.trackingId = id
      · exact ⟨_, if_pos hid⟩
      · exact ⟨_, if_neg hid⟩
    exact ⟨_, find_eq_ok_iff.mpr
      ⟨record, spec, itinerary, reports', hrecord, hspec, hitinerary, hhistory', rfl⟩⟩
  find_append_of_ne {event id} h store now := by
    show RecordStore.find _ id now = store.find id now
    unfold find readCargo
    rw [history_append_of_ne h]
    rfl
  mem_trackingIds_store store cargo id := by
    show id ∈ (store.cargos.insert cargo.trackingId _).keys ↔ _ ∨ id ∈ store.cargos.keys
    rw [Std.TreeMap.mem_keys, Std.TreeMap.mem_keys, Std.TreeMap.mem_insert, compare_id_eq]
  history_store := history_store
  find_store_of_ne := find_store_of_ne
  find_store_self h now := ⟨_, find_store_self h now⟩
  find_store_of_derived {store cargo reports time now} h _ horigin := by
    have horigin' : (store.cargos[cargo.trackingId]?.map fun record => ⟨record.origin⟩).getD
        cargo.origin = cargo.origin := by
      cases hrecord : store.cargos[cargo.trackingId]? with
      | none => rfl
      | some record =>
        -- The origin that is kept is the one that was found with the record.
        obtain ⟨_, before, hbefore, heq⟩ := horigin (Std.TreeMap.mem_keys.mpr
          (Std.TreeMap.mem_iff_isSome_getElem?.mpr (hrecord ▸ rfl)))
        obtain ⟨_, _, _, _, hrecord', _, _, _, rfl⟩ := find_eq_ok_iff.mp hbefore
        rw [hrecord] at hrecord'
        cases hrecord'
        exact heq
    refine ⟨now, (find_store_self h now).trans ?_⟩
    rw [horigin']

end RecordStore

end CargoTracking
