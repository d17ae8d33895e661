import CargoTracking.Handling

/-!
# The last event of a history

The event that counts as the last one is the one at the last position of those that are completed no
earlier than any other (`last?_eq_some_iff`).  An event that is completed no earlier than all the
others becomes the last one when it is reported.
-/

namespace CargoTracking.History

variable {history : History} {event last : HandlingEvent} {i j : Nat}

/-- Every history is made by appending events to the empty one. -/
@[elab_as_elim]
theorem append_induction {motive : History → Prop} (empty : motive .empty)
    (append : ∀ history event, motive history → motive (history.append event))
    (history : History) : motive history := by
  have hreversed : ∀ events : List HandlingEvent, motive ⟨events.reverse⟩ := by
    intro events
    induction events with
    | nil => exact empty
    | cons event events ih =>
      rw [List.reverse_cons]
      exact append ⟨events.reverse⟩ event ih
  have h := hreversed history.events.reverse
  rwa [List.reverse_reverse] at h

/-! ## Where the last event stands -/

/-- The event stands at the position, completed no earlier than all the others, and later than those
that were reported after it. -/
structure LatestAt (history : History) (i : Nat) (event : HandlingEvent) : Prop where
  here : history.events[i]? = some event
  latest : ∀ other ∈ history.events, other.completedAt ≤ event.completedAt
  later_before : ∀ (j : Nat) (other : HandlingEvent), i < j → history.events[j]? = some other →
    other.completedAt < event.completedAt

/-- There is no second such position. -/
theorem LatestAt.position_unique (h : history.LatestAt i event) (h' : history.LatestAt j last) :
    i = j := by
  have hle := h.latest last (List.mem_of_getElem? h'.here)
  have hge := h'.latest event (List.mem_of_getElem? h.here)
  rw [Instant.le_def] at hle hge
  rcases Nat.lt_trichotomy i j with hlt | heq | hgt
  · have hbefore := h.later_before j last hlt h'.here
    rw [Instant.lt_def] at hbefore
    omega
  · exact heq
  · have hbefore := h'.later_before i event hgt h.here
    rw [Instant.lt_def] at hbefore
    omega

theorem latestAt_append_of_le (h : ∀ e ∈ history.events, e.completedAt ≤ event.completedAt) :
    (history.append event).LatestAt history.events.length event where
  here := List.getElem?_concat_length
  latest other hother := by
    rcases List.mem_append.mp hother with hold | hnew
    · exact h other hold
    · rw [List.mem_singleton.mp hnew]
      exact Instant.le_refl _
  later_before j other hj hother := by
    have hlength : (history.append event).events.length = history.events.length + 1 :=
      List.length_append
    have hbound := (List.getElem?_eq_some_iff.mp hother).1
    omega

theorem LatestAt.append (h : history.LatestAt i last)
    (hlt : event.completedAt < last.completedAt) : (history.append event).LatestAt i last where
  here := by
    have hi := (List.getElem?_eq_some_iff.mp h.here).1
    exact (List.getElem?_append_left hi).trans h.here
  latest other hother := by
    rcases List.mem_append.mp hother with hold | hnew
    · exact h.latest other hold
    · rw [List.mem_singleton.mp hnew]
      exact Int.le_of_lt hlt
  later_before j other hj hother := by
    rw [History.append, List.getElem?_append] at hother
    split at hother
    · exact h.later_before j other hj hother
    · -- The only position after those of the history is that of the event.
      rw [List.mem_singleton.mp (List.mem_of_getElem? hother)]
      exact hlt

/-! ## The last event -/

theorem last?_eq_none_iff : history.last? = none ↔ history.events = [] := by
  refine append_induction (motive := fun h => h.last? = none ↔ h.events = [])
    (iff_of_true rfl rfl) (fun history event _ => iff_of_false ?_ ?_) history
  · rw [last?_append]
    cases history.last? with
    | none => exact Option.some_ne_none event
    | some last =>
      dsimp only [later]
      split <;> exact Option.some_ne_none _
  · exact List.append_ne_nil_of_right_ne_nil _ (List.cons_ne_nil _ _)

theorem exists_latestAt (h : history.last? = some last) : ∃ i, history.LatestAt i last := by
  induction history using append_induction generalizing last with
  | empty => cases h
  | append history event ih =>
    rw [last?_append] at h
    cases hlast : history.last? with
    | none =>
      rw [hlast] at h
      cases h
      have hempty : history.events = [] := last?_eq_none_iff.1 hlast
      exact ⟨_, latestAt_append_of_le fun e he => by rw [hempty] at he; cases he⟩
    | some before =>
      obtain ⟨i, hbefore⟩ := ih hlast
      rw [hlast] at h
      dsimp only [later] at h
      -- The last event so far gives way, also when it was completed at the same time.
      by_cases hle : before.completedAt ≤ event.completedAt
      · rw [if_pos hle] at h
        cases h
        exact ⟨_, latestAt_append_of_le fun e he => Instant.le_trans (hbefore.latest e he) hle⟩
      · rw [if_neg hle] at h
        cases h
        exact ⟨i, hbefore.append (Int.lt_of_not_ge hle)⟩

/-- The last event is the one that happened last, and of several at the same time the one that was
reported last. -/
theorem last?_eq_some_iff : history.last? = some last ↔ ∃ i, history.LatestAt i last := by
  refine ⟨exists_latestAt, ?_⟩
  rintro ⟨i, h⟩
  cases hlast : history.last? with
  | none =>
    have hmem := List.mem_of_getElem? h.here
    rw [last?_eq_none_iff.1 hlast] at hmem
    cases hmem
  | some other =>
    obtain ⟨j, hother⟩ := exists_latestAt hlast
    have hhere := h.here
    rw [h.position_unique hother, hother.here] at hhere
    exact hhere

theorem mem_of_last? (h : history.last? = some last) : last ∈ history.events := by
  obtain ⟨_, hlatest⟩ := exists_latestAt h
  exact List.mem_of_getElem? hlatest.here

/-- No event of a history is completed later than its last one. -/
theorem completedAt_le_last? (h : history.last? = some last) :
    ∀ e ∈ history.events, e.completedAt ≤ last.completedAt := by
  obtain ⟨_, hlatest⟩ := exists_latestAt h
  exact hlatest.latest

/-- An event becomes the last one, or the last one stays. -/
theorem last?_append_cases (history : History) (event : HandlingEvent) :
    (history.append event).last? = some event ∨ (history.append event).last? = history.last? := by
  rw [last?_append]
  cases history.last? with
  | none => exact .inl rfl
  | some last =>
    dsimp only [later]
    by_cases hle : last.completedAt ≤ event.completedAt
    · exact .inl (if_pos hle)
    · exact .inr (if_neg hle)

/-- An event that is reported a second time changes nothing. -/
theorem later_later (best : Option HandlingEvent) (event : HandlingEvent) :
    later (later best event) event = later best event := by
  have hself : later (some event) event = some event := if_pos (Instant.le_refl event.completedAt)
  cases best with
  | none => exact hself
  | some b =>
    by_cases hle : b.completedAt ≤ event.completedAt
    · have hevent : later (some b) event = some event := if_pos hle
      rw [hevent, hself]
    · have hbest : later (some b) event = some b := if_neg hle
      rw [hbest, hbest]

theorem last?_append_append (history : History) (event : HandlingEvent) :
    ((history.append event).append event).last? = (history.append event).last? := by
  rw [last?_append, last?_append, later_later]

theorem last?_append_of_le (h : ∀ e ∈ history.events, e.completedAt ≤ event.completedAt) :
    (history.append event).last? = some event :=
  last?_eq_some_iff.mpr ⟨_, latestAt_append_of_le h⟩

theorem last?_append_of_lt (h : ∃ e ∈ history.events, event.completedAt < e.completedAt) :
    (history.append event).last? = history.last? := by
  obtain ⟨e, he, hlt⟩ := h
  rw [last?_append]
  cases hlast : history.last? with
  | none =>
    rw [last?_eq_none_iff.1 hlast] at he
    cases he
  | some last =>
    have hle := completedAt_le_last? hlast e he
    exact if_neg (Int.not_le_of_gt (Int.lt_of_lt_of_le hlt hle))

/-! ## Other orders of the same events -/

/-- The same events in another order, in which those that were completed at the same time follow
each other as before. -/
structure Reordered (history history' : History) : Prop where
  perm : history.events.Perm history'.events
  ties : ∀ time, history.events.filter (·.completedAt = time) =
    history'.events.filter (·.completedAt = time)

/-- Events that were completed at different times may be appended in any order. -/
theorem reordered_append (history : History) {events events' : List HandlingEvent}
    (hperm : events.Perm events') (hapart : events.Pairwise fun a b => a.completedAt ≠ b.completedAt) :
    Reordered ⟨history.events ++ events⟩ ⟨history.events ++ events'⟩ where
  perm := hperm.append_left history.events
  ties time := by
    have hapart' : events'.Pairwise fun a b => a.completedAt ≠ b.completedAt :=
      hperm.pairwise hapart Ne.symm
    -- There is one of them at that time at most.
    have hsame : events.filter (·.completedAt = time) = events'.filter (·.completedAt = time) := by
      refine List.Perm.eq_of_pairwise (fun a b ha hb hne _ => absurd ?_ hne)
        (hapart.filter _) (hapart'.filter _) (hperm.filter _)
      have htime := of_decide_eq_true (List.mem_filter.mp ha).2
      have htime' := of_decide_eq_true (List.mem_filter.mp hb).2
      rw [htime, htime']
    rw [List.filter_append, List.filter_append, hsame]

theorem filter_completedAt_append (history : History) (event : HandlingEvent) (time : Instant) :
    (history.append event).events.filter (·.completedAt = time) =
      history.events.filter (·.completedAt = time) ++
        if event.completedAt = time then [event] else [] := by
  simp only [append, List.filter_append, List.filter_cons, List.filter_nil, decide_eq_true_iff]

/-- Of the events completed when the last one was, that is the one reported last. -/
theorem getLast?_ties (h : history.last? = some last) :
    (history.events.filter (·.completedAt = last.completedAt)).getLast? = some last := by
  induction history using append_induction generalizing last with
  | empty => cases h
  | append history event ih =>
    rw [last?_append] at h
    rw [filter_completedAt_append]
    cases hlast : history.last? with
    | none =>
      rw [hlast] at h
      cases h
      rw [if_pos rfl, List.getLast?_concat]
    | some before =>
      rw [hlast] at h
      dsimp only [later] at h
      by_cases hle : before.completedAt ≤ event.completedAt
      · rw [if_pos hle] at h
        cases h
        rw [if_pos rfl, List.getLast?_concat]
      · rw [if_neg hle] at h
        cases h
        have hne : event.completedAt ≠ last.completedAt := fun heq =>
          hle (heq ▸ Instant.le_refl last.completedAt)
        rw [if_neg hne, List.append_nil]
        exact ih hlast

theorem Reordered.last?_eq {history' : History} (h : history.Reordered history') :
    history.last? = history'.last? := by
  cases hlast : history.last? with
  | none =>
    have hempty := h.perm
    rw [last?_eq_none_iff.1 hlast] at hempty
    exact (last?_eq_none_iff.2 hempty.nil_eq.symm).symm
  | some last =>
    cases hlast' : history'.last? with
    | none =>
      have hempty := h.perm
      rw [last?_eq_none_iff.1 hlast'] at hempty
      rw [last?_eq_none_iff.2 hempty.eq_nil] at hlast
      cases hlast
    | some last' =>
      -- Each is completed no later than the other, and both come last of their time.
      have hmem := h.perm.mem_iff.mp (mem_of_last? hlast)
      have hmem' := h.perm.mem_iff.mpr (mem_of_last? hlast')
      have htime : last.completedAt = last'.completedAt := Instant.le_antisymm
        (completedAt_le_last? hlast' last hmem) (completedAt_le_last? hlast last' hmem')
      have hties := getLast?_ties hlast
      rw [h.ties, htime, getLast?_ties hlast'] at hties
      exact hties.symm

end CargoTracking.History
