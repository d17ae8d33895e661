import CargoTracking.Proofs.Normalization
import CargoTracking.Proofs.Scripts
import CargoTracking.Proofs.Stores

/-!
# References to cargos

A reference means one cargo or none.  It means the cargo whose id it is, and of several cargos with
ids that only begin with it none.  As long as ids are written in upper case and without blanks around
them, a whole id always means its own cargo, and what follows after an unambiguous beginning does not
change which cargo is meant.
-/

namespace CargoTracking

open CargoStore

/-! ## Texts that are typed -/

/-- The word in any letter case, with blanks around it. -/
def Typed (word text : String) : Prop :=
  ∃ before middle after, text.toList = before ++ middle ++ after ∧
    (∀ c ∈ before, Text.isBlank c = true) ∧ (∀ c ∈ after, Text.isBlank c = true) ∧
    middle.map Char.toUpper = word.toList.map Char.toUpper

theorem toList_toUpper (text : String) : text.toUpper.toList = text.toList.map Char.toUpper :=
  String.toList_map

theorem toList_normalized (text : String) :
    (normalized text).toList = Text.trimmed (text.toList.map Char.toUpper) := by
  rw [normalized, toList_toUpper, Text.trim, String.toList_ofList, Text.trimmed_map_toUpper]

theorem Typed.normalized_eq {word text : String} (h : Typed word text) :
    normalized text = normalized word := by
  obtain ⟨before, middle, after, htext, hbefore, hafter, hmiddle⟩ := h
  have htrimmed : Text.trimmed text.toList = Text.trimmed middle := by
    rw [htext, Text.trimmed_padded hbefore hafter]
  apply String.toList_inj.mp
  rw [toList_normalized, Text.trimmed_map_toUpper, htrimmed, ← Text.trimmed_map_toUpper, hmiddle,
    toList_normalized]

theorem normalized_prefix {word longer : String} (h : word.toList <+: longer.toList) :
    (normalized word).toList <+: (normalized longer).toList := by
  rw [toList_normalized, toList_normalized]
  exact Text.trimmed_prefix (h.map Char.toUpper)

namespace TrackingId

/-! ## Ids as they are generated -/

/-- The id is a text as references are compared with it. -/
structure Canonical (id : TrackingId) : Prop where
  nonempty : id.text ≠ ""
  trim_eq : Text.trim id.text = id.text
  toUpper_eq : id.text.toUpper = id.text

theorem Canonical.normalized_eq {id : TrackingId} (h : id.Canonical) : normalized id.text = id.text := by
  rw [normalized, h.trim_eq, h.toUpper_eq]

theorem upperHexDigit_upper :
    ∀ n < 16, (upperHexDigit n).toUpper = upperHexDigit n ∧ Text.isBlank (upperHexDigit n) = false := by
  decide

theorem canonical_ofNumber (n : Nat) : (ofNumber n).Canonical := by
  have hdigit : ∀ c ∈ (ofNumber n).text.toList, c.toUpper = c ∧ Text.isBlank c = false := by
    intro c hc
    rw [ofNumber, String.toList_ofList, List.mem_map] at hc
    obtain ⟨i, -, rfl⟩ := hc
    exact upperHexDigit_upper _ (Nat.mod_lt _ (by decide))
  refine ⟨fun hempty => ?_, ?_, ?_⟩
  · have hlength : (ofNumber n).text.toList.length = 8 := by
      rw [ofNumber, String.toList_ofList, List.length_map, List.length_reverse, List.length_range]
    rw [hempty] at hlength
    cases hlength
  · rw [Text.trim, Text.trimmed_of_forall_not_blank fun c hc => (hdigit c hc).2, String.ofList_toList]
  · apply String.toList_inj.mp
    rw [toList_toUpper]
    exact (List.map_congr_left fun c hc => (hdigit c hc).1).trans (List.map_id _)

/-! ## Ids that begin with a reference -/

/-- The id in upper case begins with the reference. -/
def Matches (reference : String) (id : TrackingId) : Prop :=
  ∃ rest, id.text.toUpper = reference ++ rest

theorem matches_iff_toList {reference : String} {id : TrackingId} :
    id.Matches reference ↔ reference.toList <+: id.text.toUpper.toList := by
  constructor
  · rintro ⟨rest, h⟩
    rw [h, String.toList_append]
    exact List.prefix_append _ _
  · rintro ⟨rest, h⟩
    refine ⟨String.ofList rest, String.toList_inj.mp ?_⟩
    rw [String.toList_append, String.toList_ofList, h]

theorem begins_iff {reference : String} {id : TrackingId} :
    id.begins reference = true ↔ id.Matches reference := by
  rw [begins, List.isPrefixOf_iff_prefix, matches_iff_toList]

theorem Matches.of_prefix {reference longer : String} {id : TrackingId} (h : id.Matches longer)
    (hbeginning : reference.toList <+: longer.toList) : id.Matches reference :=
  matches_iff_toList.mpr (hbeginning.trans (matches_iff_toList.mp h))

/-- A reference to the beginning of an id, in any letter case, is a beginning of the id. -/
theorem Canonical.matches_normalized {id : TrackingId} (h : id.Canonical) {word : String}
    (hword : word.toList <+: id.text.toList) : id.Matches (normalized word) := by
  rw [matches_iff_toList, h.toUpper_eq]
  have hbeginning := normalized_prefix hword
  rwa [h.normalized_eq] at hbeginning

end TrackingId

/-! ## Resolving a reference in a list of ids -/

/-- The id is the only one of the list that begins with the reference. -/
structure OnlyMatch (reference : String) (ids : List TrackingId) (id : TrackingId) : Prop where
  mem : id ∈ ids
  begins : id.Matches reference
  only : ∀ other ∈ ids, other.Matches reference → other = id

section Resolve

variable {ids : List TrackingId} {text : String} {id : TrackingId}

theorem mem_filter_begins {reference : String} :
    id ∈ ids.filter (·.begins reference) ↔ id ∈ ids ∧ id.Matches reference := by
  rw [List.mem_filter, TrackingId.begins_iff]

theorem resolve_of_empty (h : normalized text = "") : resolve ids text = .error .empty :=
  if_pos h

theorem resolve_of_mem (h : normalized text ≠ "") (hmem : ⟨normalized text⟩ ∈ ids) :
    resolve ids text = .ok ⟨normalized text⟩ :=
  (if_neg h).trans (if_pos (List.contains_iff_mem.mpr hmem))

theorem resolve_of_not_mem (h : normalized text ≠ "") (hmem : ⟨normalized text⟩ ∉ ids) :
    resolve ids text =
      match ids.filter (·.begins (normalized text)) with
      | [] => .error (.unmatched (normalized text))
      | [id] => .ok id
      | candidates => .error (.ambiguous (normalized text) candidates) :=
  (if_neg h).trans (if_neg (mt List.contains_iff_mem.mp hmem))

theorem resolve_unmatched (h : normalized text ≠ "") (hmem : ⟨normalized text⟩ ∉ ids)
    (hnone : ∀ id ∈ ids, ¬ id.Matches (normalized text)) :
    resolve ids text = .error (.unmatched (normalized text)) := by
  have hfilter : ids.filter (·.begins (normalized text)) = [] :=
    List.filter_eq_nil_iff.mpr fun id hid => mt TrackingId.begins_iff.mp (hnone id hid)
  rw [resolve_of_not_mem h hmem, hfilter]

theorem resolve_eq_ok_iff (hnodup : ids.Nodup) (h : normalized text ≠ "")
    (hmem : ⟨normalized text⟩ ∉ ids) :
    resolve ids text = .ok id ↔ OnlyMatch (normalized text) ids id := by
  have hkept := hnodup.filter (·.begins (normalized text))
  have hfilter : ∀ other, other ∈ ids.filter (·.begins (normalized text)) ↔
      other ∈ ids ∧ other.Matches (normalized text) := fun other => mem_filter_begins
  -- The ids that begin with the reference are none, one or several.
  rcases hmatches : ids.filter (·.begins (normalized text)) with _ | ⟨first, _ | ⟨second, rest⟩⟩
  · rw [resolve_of_not_mem h hmem, hmatches]
    rw [hmatches] at hfilter
    refine iff_of_false (fun hok => by cases hok) fun honly => ?_
    cases (hfilter id).mpr ⟨honly.mem, honly.begins⟩
  · rw [resolve_of_not_mem h hmem, hmatches]
    rw [hmatches] at hfilter
    obtain ⟨hfirst, hbegins⟩ := (hfilter first).mp List.mem_cons_self
    constructor
    · rintro ⟨⟩
      exact ⟨hfirst, hbegins, fun other hother hmatch =>
        List.mem_singleton.mp ((hfilter other).mpr ⟨hother, hmatch⟩)⟩
    · exact fun honly => congrArg Except.ok (honly.only first hfirst hbegins)
  · rw [resolve_of_not_mem h hmem, hmatches]
    rw [hmatches] at hfilter hkept
    refine iff_of_false (fun hok => by cases hok) fun honly => ?_
    obtain ⟨hfirst, hbegins⟩ := (hfilter first).mp List.mem_cons_self
    obtain ⟨hsecond, hbegins'⟩ := (hfilter second).mp (List.mem_cons_of_mem _ List.mem_cons_self)
    have hsame : first = second :=
      (honly.only first hfirst hbegins).trans (honly.only second hsecond hbegins').symm
    exact (List.nodup_cons.mp hkept).1 (hsame ▸ List.mem_cons_self)

theorem resolve_ambiguous (h : normalized text ≠ "") (hmem : ⟨normalized text⟩ ∉ ids)
    {first second : TrackingId} (hfirst : first ∈ ids) (hsecond : second ∈ ids)
    (hne : first ≠ second) (hbegins : first.Matches (normalized text))
    (hbegins' : second.Matches (normalized text)) :
    resolve ids text = .error (.ambiguous (normalized text)
      (ids.filter (·.begins (normalized text)))) := by
  have hin := mem_filter_begins.mpr ⟨hfirst, hbegins⟩
  have hin' := mem_filter_begins.mpr ⟨hsecond, hbegins'⟩
  rcases hmatches : ids.filter (·.begins (normalized text)) with _ | ⟨one, _ | ⟨_, _⟩⟩
  · rw [hmatches] at hin
    cases hin
  · rw [hmatches] at hin hin'
    exact absurd ((List.mem_singleton.mp hin).trans (List.mem_singleton.mp hin').symm) hne
  · rw [resolve_of_not_mem h hmem, hmatches]

/-- Whatever a reference resolves to is there, and begins with the reference. -/
theorem of_resolve_eq_ok (hnodup : ids.Nodup) (h : resolve ids text = .ok id) :
    normalized text ≠ "" ∧ id ∈ ids ∧
      (id = ⟨normalized text⟩ ∨ OnlyMatch (normalized text) ids id) := by
  have hnonempty : normalized text ≠ "" := fun hempty => by
    rw [resolve_of_empty hempty] at h
    cases h
  by_cases hmem : ⟨normalized text⟩ ∈ ids
  · rw [resolve_of_mem hnonempty hmem] at h
    cases h
    exact ⟨hnonempty, hmem, .inl rfl⟩
  · have honly := (resolve_eq_ok_iff hnodup hnonempty hmem).mp h
    exact ⟨hnonempty, honly.mem, .inr honly⟩

/-- A whole id resolves to itself. -/
theorem resolve_whole (hid : id ∈ ids) (hcanonical : id.Canonical) (htyped : Typed id.text text) :
    resolve ids text = .ok id := by
  have hself : normalized text = id.text := htyped.normalized_eq.trans hcanonical.normalized_eq
  have hmem : (⟨normalized text⟩ : TrackingId) ∈ ids := by rwa [hself]
  rw [resolve_of_mem (hself ▸ hcanonical.nonempty) hmem, hself]

/-- A longer beginning of an id resolves to it if a shorter one does. -/
theorem resolve_longer (hnodup : ids.Nodup) (hcanonical : ∀ other ∈ ids, other.Canonical)
    {word longer text' : String} (hlonger : word.toList <+: longer.toList)
    (hid : longer.toList <+: id.text.toList) (htyped : Typed word text)
    (htyped' : Typed longer text') (h : resolve ids text = .ok id) :
    resolve ids text' = .ok id := by
  obtain ⟨hnonempty, hmem, hmeans⟩ := of_resolve_eq_ok hnodup h
  rw [htyped.normalized_eq] at hnonempty hmeans
  have hbeginning := normalized_prefix hlonger
  have hmatches := (hcanonical id hmem).matches_normalized hid
  have hself' := htyped'.normalized_eq
  have hnonempty' : normalized text' ≠ "" := fun hempty => by
    rw [← hself', hempty] at hbeginning
    exact hnonempty (String.toList_inj.mp (List.prefix_nil.mp hbeginning))
  rcases hmeans with hself | honly
  · -- The shorter reference is the whole id already.
    have hwhole : normalized longer = id.text := by
      have hbegins := TrackingId.matches_iff_toList.mp hmatches
      rw [(hcanonical id hmem).toUpper_eq] at hbegins
      rw [hself] at hbegins ⊢
      exact String.toList_inj.mp (hbegins.eq_of_length_le hbeginning.length_le)
    have hstored : (⟨normalized text'⟩ : TrackingId) = id := by rw [hself', hwhole]
    rw [resolve_of_mem hnonempty' (hstored ▸ hmem), hstored]
  · by_cases hstored : ⟨normalized text'⟩ ∈ ids
    · -- It is an id that begins with the shorter reference, and there is only one.
      have hbegins : TrackingId.Matches (normalized longer) ⟨normalized text'⟩ :=
        ⟨"", by rw [(hcanonical _ hstored).toUpper_eq, hself', String.append_empty]⟩
      have hsame := honly.only _ hstored (hbegins.of_prefix hbeginning)
      rw [resolve_of_mem hnonempty' hstored, hsame]
    · rw [resolve_eq_ok_iff hnodup hnonempty' hstored, hself']
      exact ⟨hmem, hmatches, fun other hother hbegins =>
        honly.only other hother (hbegins.of_prefix hbeginning)⟩

end Resolve

/-! ## Resolving a reference on a terminal -/

/-- What the references on a command line mean, with the ids that there are. -/
structure MeansOneCargo (ids : List TrackingId) (means : String → Except String TrackingId) : Prop where
  empty : ∀ text, normalized text = "" → means text = .error "tracking id is empty"
  whole : ∀ text, normalized text ≠ "" → ⟨normalized text⟩ ∈ ids →
    means text = .ok ⟨normalized text⟩
  beginning : ∀ text, normalized text ≠ "" → ⟨normalized text⟩ ∉ ids → ∀ id,
    means text = .ok id ↔ OnlyMatch (normalized text) ids id
  unmatched : ∀ text, normalized text ≠ "" → ⟨normalized text⟩ ∉ ids →
    (∀ id ∈ ids, ¬ id.Matches (normalized text)) →
    means text = .error ("no cargo matching '" ++ normalized text ++ "'")
  ambiguous : ∀ text, normalized text ≠ "" → ⟨normalized text⟩ ∉ ids →
    (∃ first ∈ ids, ∃ second ∈ ids, first ≠ second ∧ first.Matches (normalized text) ∧
      second.Matches (normalized text)) →
    ∃ candidates : List TrackingId, (candidates.Pairwise fun a b => compare a b = .lt) ∧
      (∀ id, id ∈ candidates ↔ id ∈ ids ∧ id.Matches (normalized text)) ∧
      means text = .error ("'" ++ normalized text ++ "' is ambiguous: matches " ++
        toString candidates.length ++ " cargos: " ++
        String.intercalate ", " (candidates.map (·.text)))
  /-- Whatever other ids there are, those that begin with it among them. -/
  itself : ∀ id ∈ ids, id.Canonical → ∀ text, Typed id.text text → means text = .ok id
  longer : (∀ id ∈ ids, id.Canonical) → ∀ (id : TrackingId) (word longer : String),
    word.toList <+: longer.toList → longer.toList <+: id.text.toList →
    ∀ text text', Typed word text → Typed longer text' → means text = .ok id → means text' = .ok id

theorem meansOneCargo_of_sorted {ids : List TrackingId}
    (hsorted : ids.Pairwise fun a b => compare a b = .lt) :
    MeansOneCargo ids fun text => (resolve ids text).mapError (·.message) := by
  have hnodup : ids.Nodup := OrderedMap.nodup_of_sorted id hsorted
  have hok : ∀ {text id}, (resolve ids text).mapError (·.message) = .ok id ↔
      resolve ids text = .ok id := by
    intro text id
    cases resolve ids text <;> simp [Except.mapError]
  refine ⟨fun text hempty => ?_, fun text hnonempty hmem => ?_, fun text hnonempty hmem id => ?_,
    fun text hnonempty hmem hnone => ?_, ?_, fun id hid hcanonical text htyped => ?_, ?_⟩
  · rw [resolve_of_empty hempty]
    rfl
  · rw [resolve_of_mem hnonempty hmem]
    rfl
  · rw [hok, resolve_eq_ok_iff hnodup hnonempty hmem]
  · rw [resolve_unmatched hnonempty hmem hnone]
    rfl
  · rintro text hnonempty hmem ⟨first, hfirst, second, hsecond, hne, hbegins, hbegins'⟩
    refine ⟨ids.filter (·.begins (normalized text)), hsorted.filter _,
      fun id => mem_filter_begins, ?_⟩
    rw [resolve_ambiguous hnonempty hmem hfirst hsecond hne hbegins hbegins']
    rfl
  · exact hok.mpr (resolve_whole hid hcanonical htyped)
  · intro hcanonical id word longer hlonger hbeginning text text' htyped htyped' h
    exact hok.mpr (resolve_longer hnodup hcanonical hlonger hbeginning htyped htyped' (hok.mp h))

/-- What a reference comes to on a terminal. -/
def Script.resolved {σ : Type} [CargoStore σ] (terminal : Terminal σ) (text : String) :
    Except String TrackingId :=
  ((resolveCargo text).on terminal).1

theorem Script.meansOneCargo {σ : Type} [CargoStore σ] [LawfulStore σ]
    (terminal : Terminal σ) :
    MeansOneCargo (trackingIds terminal.world.store) (resolved terminal) := by
  have hresolved : resolved terminal = fun text =>
      (resolve (trackingIds terminal.world.store) text).mapError (·.message) :=
    funext fun text => congrArg Prod.fst (on_resolveCargo text terminal)
  rw [hresolved]
  exact meansOneCargo_of_sorted (LawfulStore.sorted_trackingIds terminal.world.store)

/-- Over either store, a reference means the cargo whose id it is, or else the only one whose id
begins with it, and otherwise it is refused.  Ids that are generated are such that a whole id always
means its own cargo, and that more of an id means the same cargo as less of it. -/
theorem references_mean_one_cargo :
    (∀ terminal : Terminal MemoryStore,
      MeansOneCargo (trackingIds terminal.world.store) (Script.resolved terminal)) ∧
    (∀ terminal : Terminal RecordStore,
      MeansOneCargo (trackingIds terminal.world.store) (Script.resolved terminal)) ∧
    ∀ n, (TrackingId.ofNumber n).Canonical :=
  ⟨Script.meansOneCargo, Script.meansOneCargo, TrackingId.canonical_ofNumber⟩

example : resolve [⟨"ABC"⟩, ⟨"ABCDEF"⟩] " abc " = .ok ⟨"ABC"⟩ := by decide +kernel

end CargoTracking
