import CargoTracking.Proofs.Records
import CargoTracking.Store.Dump
import Std.Data.String.ToInt

/-!
# Reading a written store

The text that is written for a record store is read back, for every store, and the store that is
read answers every request as the one that was written.
-/

namespace CargoTracking

namespace Dump

theorem not_mem_escape {separator : Char} (h : separator = '\t' ∨ separator = '\n') (c : Char) :
    separator ∉ escape c := by
  unfold escape
  split
  · rcases h with rfl | rfl <;> decide
  · rcases h with rfl | rfl <;> decide
  · rcases h with rfl | rfl <;> decide
  · -- A character that is not escaped is no separator.
    rename_i htab hnewline
    rw [List.mem_singleton]
    rcases h with rfl | rfl
    · exact fun h => htab h.symm
    · exact fun h => hnewline h.symm

/-- No separator stands in a field. -/
theorem not_mem_encodeField {separator : Char} (h : separator = '\t' ∨ separator = '\n')
    (field : Option String) : separator ∉ encodeField field := by
  cases field with
  | none => rcases h with rfl | rfl <;> decide
  | some s =>
    rw [encodeField, List.mem_flatMap]
    rintro ⟨c, -, hc⟩
    exact not_mem_escape h c hc

end Dump

namespace Row

theorem ofFields?_fields (row : Row) : ofFields? row.fields = some row := by
  cases row with
  | cargo id origin specOrigin destination deadline => rfl
  | leg id position record =>
    have hposition : (toString position).toInt? = some position := Int.toInt?_repr position
    simp only [fields, ofFields?, hposition]
    rfl
  | event record => rfl

/-- The text of a row, without the end of the line. -/
def line (row : Row) : List Char := ['\t'].intercalate (row.fields.map Dump.encodeField)

theorem splitOn_line (row : Row) : row.line.splitOn '\t' = row.fields.map Dump.encodeField := by
  have hfields : row.fields.map Dump.encodeField ≠ [] := by
    cases row <;> simp [fields]
  apply List.splitOn_intercalate '\t' _ hfields
  intro field hfield
  obtain ⟨value, -, rfl⟩ := List.mem_map.mp hfield
  exact Dump.not_mem_encodeField (.inl rfl) value

theorem line_ne_nil (row : Row) : row.line ≠ [] := by
  intro hnil
  -- An empty line is split into one field, and every row has more.
  have hsplit := row.splitOn_line
  rw [hnil] at hsplit
  have hlength := congrArg List.length hsplit
  cases row <;> simp [fields] at hlength

theorem not_mem_intercalate {c : Char} {separator : List Char} {parts : List (List Char)}
    (hseparator : c ∉ separator) (hparts : ∀ part ∈ parts, c ∉ part) :
    c ∉ separator.intercalate parts := by
  induction parts with
  | nil => simp [List.intercalate_nil]
  | cons part rest ih =>
    cases rest with
    | nil =>
      rw [List.intercalate_singleton]
      exact hparts part List.mem_cons_self
    | cons next rest =>
      rw [List.intercalate_cons_cons, List.mem_append, List.mem_append, not_or, not_or]
      exact ⟨⟨hparts part List.mem_cons_self, hseparator⟩,
        ih fun p hp => hparts p (List.mem_cons_of_mem part hp)⟩

theorem not_mem_line (row : Row) : '\n' ∉ row.line := by
  apply not_mem_intercalate (by decide)
  intro field hfield
  obtain ⟨value, -, rfl⟩ := List.mem_map.mp hfield
  exact Dump.not_mem_encodeField (.inr rfl) value

def ofLine? (line : List Char) : Option Row := do
  ofFields? (← (line.splitOn '\t').mapM Dump.decodeField)

theorem ofLine?_line (row : Row) : ofLine? row.line = some row := by
  have hfields : (row.fields.map Dump.encodeField).mapM Dump.decodeField = some row.fields :=
    mapM_map_eq_pure fun field _ => Dump.decodeField_encodeField field
  rw [ofLine?, splitOn_line, hfields]
  exact ofFields?_fields row

end Row

/-- The lines of a text whose lines hold no end of a line. -/
theorem splitOn_lines {lines : List (List Char)} (h : ∀ line ∈ lines, '\n' ∉ line) :
    (lines.flatMap fun line => line ++ ['\n']).splitOn '\n' = lines ++ [[]] := by
  induction lines with
  | nil => rfl
  | cons line lines ih =>
    rw [List.flatMap_cons, List.append_assoc, List.singleton_append, List.splitOn_append_cons_self,
      List.splitOn_eq_singleton (h line List.mem_cons_self),
      ih fun l hl => h l (List.mem_cons_of_mem line hl), List.singleton_append, List.cons_append]

namespace RecordStore

/-- A text is read as the rows that were written. -/
theorem ofText?_toText_eq (store : RecordStore) :
    ofText? store.toText = store.rows.foldlM addRow? CargoStore.empty := by
  have htext : store.toText.toList = (store.rows.map Row.line).flatMap fun line => line ++ ['\n'] := by
    rw [toText, String.toList_ofList, List.flatMap_map]
    rfl
  have hlines : (store.toText.toList.splitOn '\n').filter (!·.isEmpty) = store.rows.map Row.line := by
    have hend : ∀ line ∈ store.rows.map Row.line, '\n' ∉ line := fun line hline => by
      obtain ⟨row, -, rfl⟩ := List.mem_map.mp hline
      exact row.not_mem_line
    have hfull : ∀ line ∈ store.rows.map Row.line, (!line.isEmpty) = true := fun line hline => by
      obtain ⟨row, -, rfl⟩ := List.mem_map.mp hline
      simpa using row.line_ne_nil
    -- The empty line at the end is all that is left out.
    rw [htext, splitOn_lines hend, List.filter_append, List.filter_eq_self.mpr hfull]
    exact List.append_nil _
  have hrows : (store.rows.map Row.line).mapM Row.ofLine? = some store.rows :=
    mapM_map_eq_pure fun row _ => row.ofLine?_line
  have h : ofText? store.toText =
      (((store.toText.toList.splitOn '\n').filter (!·.isEmpty)).mapM Row.ofLine?).bind
        fun rows => rows.foldlM addRow? CargoStore.empty := rfl
  rw [h, hlines, hrows]
  rfl

end RecordStore

/-! ## The store of the rows -/

/-- What a record says, its legs in their order. -/
def CargoRecord.view (record : CargoRecord) :
    String × String × String × Option String × List (Int × LegRecord) :=
  (record.origin, record.specOrigin, record.destination, record.arrivalDeadline, record.legs.toList)

/-- The rows of a cargo. -/
def CargoRecord.rows (id : TrackingId) (record : CargoRecord) : List Row :=
  Row.cargo id.text record.origin record.specOrigin record.destination record.arrivalDeadline ::
    record.legs.toList.map fun (position, leg) => Row.leg id.text position leg

namespace RecordStore

/-- The store with another record under an id. -/
def put (store : RecordStore) (id : TrackingId) (record : CargoRecord) : RecordStore :=
  { store with cargos := store.cargos.insert id record }

theorem getElem?_put_self (store : RecordStore) (id : TrackingId) (record : CargoRecord) :
    (store.put id record).cargos[id]? = some record := Std.TreeMap.getElem?_insert_self

theorem getElem?_put_of_ne (store : RecordStore) {id other : TrackingId} (record : CargoRecord)
    (h : other ≠ id) : (store.put id record).cargos[other]? = store.cargos[other]? := by
  rw [put, Std.TreeMap.getElem?_insert, if_neg]
  exact fun heq => h (Std.LawfulEqOrd.eq_of_compare heq).symm

theorem addLeg?_of_last {store : RecordStore} {id : TrackingId} {record : CargoRecord}
    (hrecord : store.cargos[id]? = some record) {position : Int} (leg : LegRecord)
    (h : ∀ e ∈ record.legs.toList, compare e.1 position = .lt) :
    store.addLeg? id position leg =
      some (store.put id { record with legs := record.legs.insert position leg }) := by
  have hnew : record.legs.contains position = false := by
    rw [Bool.eq_false_iff]
    intro hcontains
    obtain ⟨old, hold⟩ := Option.isSome_iff_exists.mp (Std.TreeMap.mem_iff_isSome_getElem?.mp hcontains)
    have hlt := h (position, old) (Std.TreeMap.mem_toList_iff_getElem?_eq_some.mpr hold)
    rw [Std.ReflOrd.compare_self] at hlt
    cases hlt
  simp only [addLeg?, hrecord, Option.bind_eq_bind, Option.bind_some, hnew, Bool.false_eq_true,
    if_false]
  rfl

theorem addCargo?_of_none {store : RecordStore} {id : TrackingId} (h : store.cargos[id]? = none)
    (origin specOrigin destination : String) (deadline : Option String) :
    store.addCargo? id origin specOrigin destination deadline =
      some (store.put id ⟨origin, specOrigin, destination, deadline, ∅⟩) := by
  have hnew : store.cargos.contains id = false := by
    rw [Std.TreeMap.contains_eq_isSome_getElem?, h]
    rfl
  simp only [addCargo?, hnew, Bool.false_eq_true, if_false]
  rfl

/-- The legs of a record are added to it in their order, and nothing else changes. -/
theorem foldlM_legs {id : TrackingId} (legs : List (Int × LegRecord)) (store : RecordStore)
    (record : CargoRecord) (hrecord : store.cargos[id]? = some record)
    (hsorted : legs.Pairwise fun a b => compare a.1 b.1 = .lt)
    (h : ∀ e ∈ record.legs.toList, ∀ e' ∈ legs, compare e.1 e'.1 = .lt) :
    ∃ store' added, (legs.map fun e => Row.leg id.text e.1 e.2).foldlM addRow? store = some store' ∧
      store'.events = store.events ∧
      store'.cargos[id]? = some { record with legs := added } ∧
      added.toList = record.legs.toList ++ legs ∧
      ∀ other, other ≠ id → store'.cargos[other]? = store.cargos[other]? := by
  induction legs generalizing store record with
  | nil => exact ⟨store, record.legs, rfl, rfl, hrecord, (List.append_nil _).symm, fun _ _ => rfl⟩
  | cons first rest ih =>
    rw [List.pairwise_cons] at hsorted
    have hlast := fun e he => h e he first List.mem_cons_self
    -- The first leg comes after those that are there, and the rest comes after it.
    have hadd : store.addRow? (.leg id.text first.1 first.2) = _ :=
      addLeg?_of_last hrecord first.2 hlast
    have hentries := OrderedMap.toList_insert_of_last first.2 hlast
    have hafter : ∀ e ∈ (record.legs.insert first.1 first.2).toList, ∀ e' ∈ rest,
        compare e.1 e'.1 = .lt := by
      intro e he e' he'
      rw [hentries] at he
      rcases List.mem_append.mp he with hold | hnew
      · exact h e hold e' (List.mem_cons_of_mem _ he')
      · rw [List.mem_singleton.mp hnew]
        exact hsorted.1 e' he'
    obtain ⟨store', added, hfold, hevents, hself, hadded, hothers⟩ :=
      ih _ { record with legs := record.legs.insert first.1 first.2 } (getElem?_put_self store id _)
        hsorted.2 hafter
    refine ⟨store', added, ?_, hevents, hself, ?_, fun other hother => ?_⟩
    · rw [List.map_cons, List.foldlM_cons, hadd]
      exact hfold
    · rw [hadded, hentries, List.append_assoc, List.singleton_append]
    · rw [hothers other hother, getElem?_put_of_ne store _ hother]

/-- The rows of a cargo whose id is not taken put its record under the id. -/
theorem foldlM_rows {store : RecordStore} {id : TrackingId} (h : store.cargos[id]? = none)
    (record : CargoRecord) :
    ∃ store', (record.rows id).foldlM addRow? store = some store' ∧
      store'.events = store.events ∧
      store'.cargos[id]?.map CargoRecord.view = some record.view ∧
      ∀ other, other ≠ id → store'.cargos[other]? = store.cargos[other]? := by
  have hadd : store.addRow? (.cargo id.text record.origin record.specOrigin record.destination
      record.arrivalDeadline) = _ := addCargo?_of_none h _ _ _ _
  have hempty : (∅ : Std.TreeMap Int LegRecord).toList = [] := rfl
  -- The cargo comes without legs at first, and then its legs in their order.
  obtain ⟨store', added, hfold, hevents, hself, hadded, hothers⟩ :=
    foldlM_legs record.legs.toList _ { record with legs := ∅ } (getElem?_put_self store id _)
      Std.TreeMap.ordered_keys_toList fun e he => by rw [hempty] at he; cases he
  refine ⟨store', ?_, hevents, ?_, fun other hother => ?_⟩
  · rw [CargoRecord.rows, List.foldlM_cons, hadd]
    exact hfold
  · rw [hself, Option.map_some, CargoRecord.view, hadded, hempty]
    rfl
  · rw [hothers other hother, getElem?_put_of_ne store _ hother]

/-- The rows of cargos whose ids are not taken put their records under the ids. -/
theorem foldlM_flatMap_rows (entries : List (TrackingId × CargoRecord)) (store : RecordStore)
    (hsorted : entries.Pairwise fun a b => compare a.1 b.1 = .lt)
    (h : ∀ e ∈ entries, store.cargos[e.1]? = none) :
    ∃ store', (entries.flatMap fun e => e.2.rows e.1).foldlM addRow? store = some store' ∧
      store'.events = store.events ∧
      (∀ e ∈ entries, store'.cargos[e.1]?.map CargoRecord.view = some e.2.view) ∧
      ∀ id, (∀ e ∈ entries, e.1 ≠ id) → store'.cargos[id]? = store.cargos[id]? := by
  induction entries generalizing store with
  | nil => exact ⟨store, rfl, rfl, List.forall_mem_nil _, fun _ _ => rfl⟩
  | cons first rest ih =>
    rw [List.pairwise_cons] at hsorted
    have hfirst : ∀ e ∈ rest, e.1 ≠ first.1 := fun e he heq => by
      have hlt := hsorted.1 e he
      rw [heq, Std.ReflOrd.compare_self] at hlt
      cases hlt
    -- The ids of the rest are still not taken when the first cargo is there.
    obtain ⟨middle, hfold, hevents, hview, hothers⟩ := foldlM_rows (h first List.mem_cons_self) first.2
    obtain ⟨store', hfold', hevents', hviews, hothers'⟩ := ih middle hsorted.2 fun e he => by
      rw [hothers e.1 (hfirst e he)]
      exact h e (List.mem_cons_of_mem _ he)
    refine ⟨store', ?_, hevents'.trans hevents, fun e he => ?_, fun id hid => ?_⟩
    · rw [List.flatMap_cons, List.foldlM_append, hfold]
      exact hfold'
    · rcases List.mem_cons.mp he with rfl | hrest
      · rw [hothers' e.1 hfirst, hview]
      · exact hviews e hrest
    · rw [hothers' id fun e he => hid e (List.mem_cons_of_mem _ he),
        hothers id (hid first List.mem_cons_self).symm]

theorem foldlM_events (events : List EventRecord) (store : RecordStore) :
    (events.map Row.event).foldlM addRow? store =
      some { store with events := store.events ++ events } := by
  induction events generalizing store with
  | nil => rw [List.append_nil]; rfl
  | cons event events ih =>
    rw [List.map_cons, List.foldlM_cons]
    show (events.map Row.event).foldlM addRow? (store.addEvent event) = _
    rw [ih, addEvent, List.append_assoc, List.singleton_append]

/-- Two stores with the same events, and with records that say the same under every id. -/
structure Same (store other : RecordStore) : Prop where
  events : store.events = other.events
  view : ∀ id : TrackingId,
    store.cargos[id]?.map CargoRecord.view = other.cargos[id]?.map CargoRecord.view

end RecordStore

/-! Reading a record takes no more than what it says. -/

namespace CargoRecord

variable {record other : CargoRecord}

theorem origin_of_view (h : record.view = other.view) : record.origin = other.origin :=
  congrArg (·.1) h

theorem readSpecification_of_view (h : record.view = other.view) :
    record.readSpecification = other.readSpecification := by
  have horigin : record.specOrigin = other.specOrigin := congrArg (·.2.1) h
  have hdestination : record.destination = other.destination := congrArg (·.2.2.1) h
  have hdeadline : record.arrivalDeadline = other.arrivalDeadline := congrArg (·.2.2.2.1) h
  rw [readSpecification, readSpecification, horigin, hdestination, hdeadline]

theorem readItinerary_of_view (h : record.view = other.view) :
    record.readItinerary = other.readItinerary := by
  have hlegs : record.legs.toList = other.legs.toList := congrArg (·.2.2.2.2) h
  rw [readItinerary, readItinerary, OrderedMap.values_eq_map, OrderedMap.values_eq_map, hlegs]

end CargoRecord

namespace RecordStore

namespace Same

variable {store other : RecordStore}

theorem history (h : store.Same other) (id : TrackingId) : store.history id = other.history id := by
  rw [RecordStore.history, RecordStore.history, h.events]

theorem find (h : store.Same other) (id : TrackingId) (now : Instant) :
    store.find id now = other.find id now := by
  have hview := h.view id
  rw [RecordStore.find, RecordStore.find]
  cases hstore : store.cargos[id]? with
  | none =>
    cases hother : other.cargos[id]? with
    | none => rfl
    | some record => rw [hstore, hother] at hview; cases hview
  | some record =>
    cases hother : other.cargos[id]? with
    | none => rw [hstore, hother] at hview; cases hview
    | some record' =>
      rw [hstore, hother] at hview
      have hsame : record.view = record'.view := Option.some.inj hview
      show store.readCargo id record now = other.readCargo id record' now
      rw [readCargo, readCargo, CargoRecord.readSpecification_of_view hsame,
        CargoRecord.readItinerary_of_view hsame, CargoRecord.origin_of_view hsame, h.history]

theorem trackingIds (h : store.Same other) :
    CargoStore.trackingIds store = CargoStore.trackingIds other :=
  OrderedMap.keys_eq fun id => by
    rw [Std.TreeMap.mem_iff_isSome_getElem?, Std.TreeMap.mem_iff_isSome_getElem?,
      ← Option.isSome_map (f := CargoRecord.view), h.view id, Option.isSome_map]

end Same

/-- Every store is read back from its text. -/
theorem exists_ofText?_toText (store : RecordStore) :
    ∃ store', ofText? store.toText = some store' ∧ store.Same store' := by
  obtain ⟨middle, hfold, hevents, hviews, hothers⟩ := foldlM_flatMap_rows store.cargos.toList
    CargoStore.empty Std.TreeMap.ordered_keys_toList fun _ _ => rfl
  refine ⟨{ middle with events := store.events }, ?_, rfl, fun id => ?_⟩
  · rw [ofText?_toText_eq]
    show ((store.cargos.toList.flatMap fun e => e.2.rows e.1) ++
      store.events.map Row.event).foldlM addRow? CargoStore.empty = _
    rw [List.foldlM_append, hfold]
    show (store.events.map Row.event).foldlM addRow? middle = _
    rw [foldlM_events, hevents]
    rfl
  · cases hrecord : store.cargos[id]? with
    | none =>
      -- No row is about an id that the store does not have.
      have hnone : middle.cargos[id]? = none := hothers id fun e he heq => by
        have hsome : store.cargos[e.1]? = some e.2 := Std.TreeMap.mem_toList_iff_getElem?_eq_some.mp he
        rw [heq, hrecord] at hsome
        cases hsome
      rw [hnone]
    | some record =>
      exact (hviews (id, record) (Std.TreeMap.mem_toList_iff_getElem?_eq_some.mpr hrecord)).symm

end RecordStore

end CargoTracking
