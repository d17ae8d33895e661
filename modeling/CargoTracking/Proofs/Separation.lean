import CargoTracking.Proofs.Compartments
import CargoTracking.Proofs.Plan

/-!
# Cargos do not interfere

A store is used directly and through the services, and records of any kind are put into it.
Whoever looks at the uses that are about one cargo sees the same, but for the stamps of the clock, as
if there were no others.  So a record that stands for nothing spoils its own cargo only, and the list
of all cargos.
-/

namespace CargoTracking

open CargoStore Inspection

inductive Access
  | call (call : Call)
  | find (id : TrackingId)
  | history (id : TrackingId)
  | store (cargo : Cargo)
  | append (event : HandlingEvent)
  | insert (row : Row)

inductive Response
  | answer (result : Except Error Answer)
  | cargo (result : Except Error Cargo)
  | history (result : Except Error History)
  | done
  | refused

structure Reaction where
  response : Response
  notices : List Notice := []

def Response.unstamped : Response → Response
  | cargo result => cargo (result.map .unstamped)
  | history result => history (result.map .unstamped)
  | response => response

def Reaction.unstamped (reaction : Reaction) : Reaction :=
  ⟨reaction.response.unstamped, reaction.notices.map .unstamped⟩

namespace Access

/-- The cargo that the access is about. -/
def about : Access → Option TrackingId
  | .call request => request.about
  | find id | history id => some id
  | store cargo => some cargo.trackingId
  | append event => some event.trackingId
  | insert row => some row.trackingId

variable {σ : Type} [CargoStore σ] [RowStore σ]

def react (directory : Directory) (now : Instant) (store : σ) : Access → Reaction × σ
  | .call request =>
    (⟨.answer ((request.serve directory now).perform store).result,
      request.told directory now store⟩, request.after directory now store)
  | find id => (⟨.cargo (CargoStore.find store id now), []⟩, store)
  | history id => (⟨.history (CargoStore.history store id), []⟩, store)
  | .store cargo => (⟨.done, []⟩, CargoStore.store store cargo)
  | append event => (⟨.done, []⟩, CargoStore.append store event)
  | insert row =>
    match RowStore.insert? store row with
    | none => (⟨.refused, []⟩, store)
    | some after => (⟨.done, []⟩, after)

/-- The reactions to the accesses about a cargo, among others that are made at the same store. -/
def reactionsAbout (directory : Directory) (id : TrackingId) (store : σ) :
    List (Instant × Access) → List Reaction
  | [] => []
  | (now, access) :: rest =>
    let others := reactionsAbout directory id (access.react directory now store).2 rest
    if access.about = some id then (access.react directory now store).1 :: others else others

end Access

/-- The same accesses are made about the cargo, at any times and whatever is done in between. -/
def SameAbout (id : TrackingId) (accesses others : List (Instant × Access)) : Prop :=
  (accesses.map Prod.snd).filter (fun access => access.about = some id) =
    (others.map Prod.snd).filter fun access => access.about = some id

section Separate

variable {σ : Type} [CargoStore σ] [RowStore σ] [SeparateStore σ] {store other : σ}
  {id : TrackingId}

open SeparateStore

/-! ## Calls about one cargo -/

/-- Two outcomes that are the same for whoever looks at one cargo. -/
structure SameAt (id : TrackingId) {α : Type} (outcome outcome' : Except Error α × World σ) :
    Prop where
  result : outcome.1 = outcome'.1
  notices : outcome.2.notices.map Notice.unstamped = outcome'.2.notices.map Notice.unstamped
  contents : contents outcome.2.store id = contents outcome'.2.store id

theorem contents_applied (h : contents store id = contents other id) {reply reply' : Reply}
    (hreply : reply.unstamped = reply'.unstamped) :
    contents (reply.applied store) id = contents (reply'.applied other) id := by
  unfold Reply.applied
  rcases Reply.change_cases hreply with
    ⟨hleft, hright⟩ | ⟨event, event', cargo, cargo', hleft, hright, hevent, hcargo⟩
  · rw [hleft, hright]
    exact h
  · rw [hleft, hright]
    exact contents_store_congr (contents_extended_congr h hevent) hcargo

theorem sameAt_of_describes (h : contents store id = contents other id) {reply reply' : Reply}
    (hreply : reply.unstamped = reply'.unstamped) {outcome outcome' : Except Error Answer × World σ}
    (hdoes : reply.Describes { store } outcome)
    (hdoes' : reply'.Describes { store := other } outcome') :
    SameAt id outcome outcome' where
  result := by rw [hdoes.result, hdoes'.result, Reply.result_congr hreply]
  notices := by
    rw [hdoes.notices, hdoes'.notices]
    exact Reply.notices_congr hreply
  contents := by
    rw [hdoes.store, hdoes'.store]
    exact contents_applied h hreply

/-- An inspection, after an event of any kind. -/
theorem sameAt_inspectAfter (h : contents store id = contents other id)
    {event event' : Option HandlingEvent}
    (hevent : event.map HandlingEvent.unstamped = event'.map HandlingEvent.unstamped)
    (now now' : Instant) :
    SameAt id ((inspectAfter now id event).on { store })
      ((inspectAfter now' id event').on { store := other }) := by
  have hextended := contents_extended_congr h hevent
  rw [inspectAfter_on, inspectAfter_on]
  rcases cases_of_map_eq ((agreeAt h).find now now') with
    ⟨e, hx, hy⟩ | ⟨cargo, cargo', hx, hy, hcargo⟩
  · rw [hx, hy]
    exact ⟨rfl, rfl, h⟩
  · rw [hx, hy]
    dsimp only
    rcases cases_of_map_eq (agreeAt hextended).history with
      ⟨e, hx, hy⟩ | ⟨reports, reports', hx, hy, hreports⟩
    · rw [hx, hy]
      exact ⟨rfl, rfl, hextended⟩
    · rw [hx, hy]
      have hderived : (cargo.deriveFrom reports now).unstamped =
          (cargo'.deriveFrom reports' now').unstamped := by
        rw [Cargo.unstamped_deriveFrom, hcargo, hreports, Cargo.unstamped_deriveFrom]
      refine ⟨rfl, ?_, contents_store_congr hextended hderived⟩
      show (notices _ _).map Notice.unstamped = (notices _ _).map Notice.unstamped
      rw [notices_unstamped, notices_unstamped, hderived, Cargo.delivery_congr hcargo]

theorem SameAt.map {α β : Type} {outcome outcome' : Except Error α × World σ}
    (h : SameAt id outcome outcome') (f : α → β) :
    SameAt id (outcome.1.map f, outcome.2) (outcome'.1.map f, outcome'.2) :=
  ⟨congrArg (Except.map f) h.result, h.notices, h.contents⟩

theorem sameAt_register (hkeyed : Keyed store) (directory : Directory) {report : Report}
    (h : contents store report.trackingId = contents other report.trackingId) (now now' : Instant) :
    SameAt report.trackingId ((Registration.register directory now report).on { store })
      ((Registration.register directory now' report).on { store := other }) := by
  rw [Registration.register_on, Registration.register_on]
  cases hcompletion : report.completion with
  | error fault => exact ⟨rfl, rfl, h⟩
  | ok completedAt =>
    dsimp only
    rcases cases_of_map_eq ((agreeAt h).event directory now now' completedAt) with
      ⟨e, hx, hy⟩ | ⟨event, event', hx, hy, hevent⟩
    · rw [hx, hy]
      exact ⟨rfl, rfl, h⟩
    · have hid := (Call.inspects_of_event hkeyed hcompletion hx).owner
      have hid' := (HandlingEvent.trackingId_congr hevent).symm.trans hid
      have hadded : (some event).map HandlingEvent.unstamped =
          (some event').map HandlingEvent.unstamped := congrArg some hevent
      have hsame := sameAt_inspectAfter h hadded now now'
      rw [hx, hy]
      dsimp only
      rw [Inspection.record, Inspection.record, hid, hid']
      rcases hleft : (inspectAfter now report.trackingId (some event)).on { store } with
        ⟨result, after⟩
      rcases hright : (inspectAfter now' report.trackingId (some event')).on { store := other } with
        ⟨result', after'⟩
      rw [hleft, hright] at hsame
      have hresult : result = result' := hsame.result
      subst hresult
      -- Only the log is written after the inspection, whichever way that ended.
      cases result with
      | error e => exact ⟨rfl, hsame.notices, hsame.contents⟩
      | ok _ => exact ⟨rfl, hsame.notices, hsame.contents⟩

/-- A call about a cargo, on stores that hold the same of it. -/
theorem sameAt_serve (hkeyed : Keyed store) (h : contents store id = contents other id)
    {call : Call} (habout : call.about = some id) (directory : Directory) (now now' : Instant) :
    SameAt id ((call.serve directory now).on { store })
      ((call.serve directory now').on { store := other }) := by
  have hagree := agreeAt h
  cases call with
  | book fresh origin destination deadline =>
    refine sameAt_of_describes h ?_ (Call.describes_book directory now { store } ..)
      (Call.describes_book directory now' { store := other } ..)
    rw [Call.reply, Call.reply]
    cases Booking.specification directory origin destination deadline with
    | error e => rfl
    | ok spec => exact unstamped_changing rfl rfl rfl
  | load cargo =>
    cases habout
    exact sameAt_of_describes h (unstamped_load hagree directory now now')
      (Call.describes_load directory now { store } _)
      (Call.describes_load directory now' { store := other } _)
  | cargos => cases habout
  | possibleRoutes router cargo =>
    cases habout
    exact sameAt_of_describes h (unstamped_possibleRoutes hagree directory now now' router)
      (Call.describes_possibleRoutes directory now { store } router _)
      (Call.describes_possibleRoutes directory now' { store := other } router _)
  | assign cargo itinerary =>
    cases habout
    exact sameAt_of_describes h (unstamped_assign hagree directory now now' itinerary)
      (Call.describes_assign directory now { store } _ itinerary)
      (Call.describes_assign directory now' { store := other } _ itinerary)
  | changeDestination cargo destination =>
    cases habout
    exact sameAt_of_describes h (unstamped_changeDestination hagree directory now now' destination)
      (Call.describes_changeDestination directory now { store } _ destination)
      (Call.describes_changeDestination directory now' { store := other } _ destination)
  | register report =>
    cases habout
    simp only [Call.serve, Service.on_map]
    exact (sameAt_register hkeyed directory h now now').map fun _ => Answer.done
  | record event =>
    cases habout
    simp only [Call.serve, Service.on_map]
    exact (sameAt_inspectAfter h rfl now now').map fun _ => Answer.done
  | inspect cargo =>
    cases habout
    simp only [Call.serve, Service.on_map]
    exact (sameAt_inspectAfter h rfl now now').map fun _ => Answer.done
  | track cargo =>
    cases habout
    exact sameAt_of_describes h (unstamped_track hagree directory now now')
      (Call.describes_track directory now { store } _)
      (Call.describes_track directory now' { store := other } _)

/-! ## Accesses -/

namespace Access

theorem keyed_react (hkeyed : Keyed store) (directory : Directory) (now : Instant)
    (access : Access) : Keyed (access.react directory now store).2 := by
  cases access with
  | call request => exact hkeyed.effect (Call.effect_serve directory now store hkeyed request)
  | find cargo => exact hkeyed
  | history cargo => exact hkeyed
  | store cargo => exact hkeyed.store cargo
  | append event => exact hkeyed.append event
  | insert row =>
    rw [react]
    cases hinsert : RowStore.insert? store row with
    | none => exact hkeyed
    | some after => exact keyed_insert hkeyed hinsert

/-- An access that is not about a cargo leaves what is held of it. -/
theorem contents_react_of_ne (hkeyed : Keyed store) (directory : Directory) (now : Instant)
    {access : Access} (habout : access.about ≠ some id) :
    contents (access.react directory now store).2 id = contents store id := by
  cases access with
  | call request =>
    have heffect := Call.effect_serve directory now store hkeyed request
    exact (heffect.elsewhere hkeyed habout).contents_eq
  | find cargo => rfl
  | history cargo => rfl
  | store cargo => exact contents_store_of_ne (fun heq => habout (congrArg some heq)) store
  | append event => exact contents_append_of_ne (fun heq => habout (congrArg some heq)) store
  | insert row =>
    rw [react]
    cases hinsert : RowStore.insert? store row with
    | none => rfl
    | some after => exact contents_insert_of_ne (fun heq => habout (congrArg some heq)) hinsert

/-- An access about a cargo sees and changes what is held of it, and no more. -/
theorem react_congr (hkeyed : Keyed store) (h : contents store id = contents other id)
    {access : Access} (habout : access.about = some id) (directory : Directory)
    (now now' : Instant) :
    (access.react directory now store).1.unstamped =
        (access.react directory now' other).1.unstamped ∧
      contents (access.react directory now store).2 id =
        contents (access.react directory now' other).2 id := by
  cases access with
  | call request =>
    have hsame := sameAt_serve hkeyed h habout directory now now'
    refine ⟨?_, hsame.contents⟩
    simp only [react, Reaction.unstamped, Call.told, Service.perform_eq_on, hsame.result,
      hsame.notices, Response.unstamped]
  | find cargo =>
    cases habout
    refine ⟨?_, h⟩
    simp only [react, Reaction.unstamped, Response.unstamped, (agreeAt h).find now now']
  | history cargo =>
    cases habout
    refine ⟨?_, h⟩
    simp only [react, Reaction.unstamped, Response.unstamped, (agreeAt h).history]
  | store cargo => exact ⟨rfl, contents_store_congr h rfl⟩
  | append event => exact ⟨rfl, contents_append_congr h rfl⟩
  | insert row =>
    cases habout
    have hinsert := contents_insert_congr h
    rw [react, react]
    cases hleft : RowStore.insert? store row with
    | none =>
      cases hright : RowStore.insert? other row with
      | none => exact ⟨rfl, h⟩
      | some after' =>
        rw [hleft, hright] at hinsert
        cases hinsert
    | some after =>
      cases hright : RowStore.insert? other row with
      | none =>
        rw [hleft, hright] at hinsert
        cases hinsert
      | some after' =>
        rw [hleft, hright] at hinsert
        exact ⟨rfl, Option.some.inj hinsert⟩

/-- Accesses to a store, and those about one cargo to a store that holds the same of it. -/
theorem reactionsAbout_alone (directory : Directory) {accesses alone : List (Instant × Access)}
    (halone : alone.map Prod.snd =
      (accesses.map Prod.snd).filter fun access => access.about = some id)
    (hkeyed : Keyed store) (h : contents store id = contents other id) :
    (reactionsAbout directory id store accesses).map Reaction.unstamped =
      (reactionsAbout directory id other alone).map Reaction.unstamped := by
  induction accesses generalizing store other alone with
  | nil =>
    have hnone : alone = [] := List.map_eq_nil_iff.mp halone
    rw [hnone]
    rfl
  | cons first rest ih =>
    obtain ⟨now, access⟩ := first
    have hnext := keyed_react hkeyed directory now access
    rw [List.map_cons, List.filter_cons] at halone
    by_cases habout : access.about = some id
    · -- The first access is the first one of both.
      rw [if_pos (decide_eq_true habout)] at halone
      obtain ⟨⟨now', access'⟩, alone', heq, hfirst, hrest⟩ := List.map_eq_cons_iff.mp halone
      cases hfirst
      obtain ⟨hreaction, hafter⟩ := react_congr hkeyed h habout directory now now'
      rw [heq, reactionsAbout, reactionsAbout, if_pos habout, if_pos habout, List.map_cons,
        List.map_cons, hreaction, ih hrest hnext hafter]
    · -- It is not among the others.
      rw [if_neg (mt of_decide_eq_true habout)] at halone
      have hafter := contents_react_of_ne hkeyed directory now habout
      rw [reactionsAbout, if_neg habout, ih halone hnext (hafter.trans h)]

/-- Stores that hold the same of a cargo react alike to the same accesses about it. -/
theorem reactionsAbout_congr (directory : Directory) {accesses others : List (Instant × Access)}
    (hsame : SameAbout id accesses others) (hkeyed : Keyed store) (hkeyed' : Keyed other)
    (h : contents store id = contents other id) :
    (reactionsAbout directory id store accesses).map Reaction.unstamped =
      (reactionsAbout directory id other others).map Reaction.unstamped := by
  -- Both are as if there were only the accesses about the cargo.
  have halone : (others.filter fun entry => entry.2.about = some id).map Prod.snd =
      (others.map Prod.snd).filter fun access => access.about = some id := by
    rw [List.filter_map]
    rfl
  rw [reactionsAbout_alone directory (halone.trans hsame.symm) hkeyed h,
    reactionsAbout_alone directory halone hkeyed' rfl]

end Access

end Separate

open Access

/-- Over either store, the reactions about one cargo do not show what is done to others.  Nor do they
show a record of another one, whatever it says and whatever the store held before. -/
theorem cargos_separate (directory : Directory) (id : TrackingId)
    {accesses others : List (Instant × Access)} (hsame : SameAbout id accesses others) :
    (reactionsAbout directory id (empty : MemoryStore) accesses).map Reaction.unstamped =
        (reactionsAbout directory id (empty : MemoryStore) others).map Reaction.unstamped ∧
      (reactionsAbout directory id (empty : RecordStore) accesses).map Reaction.unstamped =
        (reactionsAbout directory id (empty : RecordStore) others).map Reaction.unstamped ∧
      ∀ (store after : RecordStore) (row : Row), store.addRow? row = some after →
        row.trackingId ≠ id →
        (reactionsAbout directory id after accesses).map Reaction.unstamped =
          (reactionsAbout directory id store others).map Reaction.unstamped := by
  refine ⟨reactionsAbout_congr directory hsame keyed_empty keyed_empty rfl,
    reactionsAbout_congr directory hsame keyed_empty keyed_empty rfl, ?_⟩
  intro store after row hrow hne
  have hkeyed : ∀ records : RecordStore, Keyed records := fun _ => ⟨RecordStore.trackingId_of_find⟩
  exact reactionsAbout_congr directory hsame (hkeyed after) (hkeyed store)
    (RecordStore.contents_addRow?_of_ne hne hrow)

/-- Two cargos are booked, and a record of an event that says nothing is put in for one of them. -/
def spoiled : List (Instant × Access) :=
  [(sampleDay 1, .call (.book ⟨"3F2A9C1B"⟩ ⟨"CNHKG"⟩ ⟨"SESTO"⟩ (some (sampleDay 18)))),
    (sampleDay 2, .call (.book ⟨"5D07E4A2"⟩ ⟨"CNHKG"⟩ ⟨"SESTO"⟩ (some (sampleDay 18)))),
    (sampleDay 3, .insert (.event ⟨"5D07E4A2", "Lost", "CNHKG", none, "", ""⟩)),
    (sampleDay 4, .call (.record (sampleEvent (.at .receive ⟨"CNHKG"⟩) 3))),
    (sampleDay 5, .find ⟨"5D07E4A2"⟩),
    (sampleDay 6, .call .cargos),
    (sampleDay 7, .find ⟨"3F2A9C1B"⟩)]

/-- The other one without it. -/
def unspoiled : List (Instant × Access) :=
  [(sampleDay 1, .call (.book ⟨"3F2A9C1B"⟩ ⟨"CNHKG"⟩ ⟨"SESTO"⟩ (some (sampleDay 18)))),
    (sampleDay 2, .call (.record (sampleEvent (.at .receive ⟨"CNHKG"⟩) 3))),
    (sampleDay 3, .find ⟨"3F2A9C1B"⟩)]

theorem separate_spoiled : SameAbout ⟨"3F2A9C1B"⟩ spoiled unspoiled ∧
    (reactionsAbout .sample ⟨"3F2A9C1B"⟩ (empty : RecordStore) spoiled).map Reaction.unstamped =
      (reactionsAbout .sample ⟨"3F2A9C1B"⟩ (empty : RecordStore) unspoiled).map
        Reaction.unstamped := by
  have hsame : SameAbout ⟨"3F2A9C1B"⟩ spoiled unspoiled := rfl
  exact ⟨hsame, (cargos_separate .sample ⟨"3F2A9C1B"⟩ hsame).2.1⟩

end CargoTracking
