import Std.Data.TreeMap

/-!
# Entries of ordered maps

An ordered map is known by what it has under each key: its entries are the only list in the order
of the keys that has these members.
-/

namespace CargoTracking.OrderedMap

open Std

variable {α β γ : Type} [Ord α]

theorem values_eq_map (m : TreeMap α β) : m.values = m.toList.map Prod.snd := by
  have h : m.values = m.foldr (fun _ v vs => v :: vs) [] := rfl
  rw [h, TreeMap.foldr_eq_foldr_toList]
  induction m.toList with
  | nil => rfl
  | cons e es ih => rw [List.foldr_cons, ih, List.map_cons]

variable [TransOrd α]

theorem nodup_of_sorted (key : γ → α) {l : List γ}
    (h : l.Pairwise fun a b => compare (key a) (key b) = .lt) : l.Nodup := by
  refine List.Pairwise.imp ?_ h
  rintro a _ hlt rfl
  rw [ReflOrd.compare_self] at hlt
  cases hlt

/-- Lists in the strict order of a key are equal if they have the same members. -/
theorem eq_of_sorted (key : γ → α) {l l' : List γ}
    (h : l.Pairwise fun a b => compare (key a) (key b) = .lt)
    (h' : l'.Pairwise fun a b => compare (key a) (key b) = .lt) (hmem : ∀ a, a ∈ l ↔ a ∈ l') :
    l = l' := by
  -- Without repetitions the same members make a permutation, and the order leaves only one.
  have hperm := (List.perm_ext_iff_of_nodup (nodup_of_sorted key h) (nodup_of_sorted key h')).mpr hmem
  refine List.Perm.eq_of_pairwise (fun a b _ _ hab hba => ?_) h h' hperm
  exact absurd hba (OrientedCmp.not_lt_of_lt hab)

/-- What stands before an element of a list in strict order is what is smaller. -/
theorem mem_before_iff {before after : List α} {a b : α}
    (h : (before ++ a :: after).Pairwise fun a b => compare a b = .lt) :
    b ∈ before ↔ b ∈ before ++ a :: after ∧ compare b a = .lt := by
  obtain ⟨-, hafter, hacross⟩ := List.pairwise_append.mp h
  constructor
  · exact fun hb => ⟨List.mem_append_left _ hb, hacross b hb a List.mem_cons_self⟩
  · rintro ⟨hb, hlt⟩
    rcases List.mem_append.mp hb with hbefore | hrest
    · exact hbefore
    rcases List.mem_cons.mp hrest with rfl | hb'
    · rw [ReflOrd.compare_self] at hlt
      cases hlt
    · exact absurd hlt (OrientedCmp.not_lt_of_lt ((List.pairwise_cons.mp hafter).1 b hb'))

variable [LawfulEqOrd α]

theorem toList_eq {m : TreeMap α β} {l : List (α × β)}
    (hsorted : l.Pairwise fun a b => compare a.1 b.1 = .lt)
    (hmem : ∀ k v, (k, v) ∈ l ↔ m[k]? = some v) : m.toList = l :=
  eq_of_sorted Prod.fst TreeMap.ordered_keys_toList hsorted fun (k, v) => by
    rw [TreeMap.mem_toList_iff_getElem?_eq_some, hmem]

theorem keys_eq {m : TreeMap α β} {m' : TreeMap α γ} (h : ∀ k : α, k ∈ m ↔ k ∈ m') :
    m.keys = m'.keys := by
  have hsorted : m.keys.Pairwise fun a b => compare a b = .lt := TreeMap.ordered_keys
  have hsorted' : m'.keys.Pairwise fun a b => compare a b = .lt := TreeMap.ordered_keys
  apply eq_of_sorted id hsorted hsorted'
  intro k
  rw [TreeMap.mem_keys, TreeMap.mem_keys, h]

/-- An entry whose key comes after all the others is the last one. -/
theorem toList_insert_of_last {m : TreeMap α β} {k : α} (v : β)
    (h : ∀ e ∈ m.toList, compare e.1 k = .lt) : (m.insert k v).toList = m.toList ++ [(k, v)] := by
  refine toList_eq ?_ fun a b => ?_
  · rw [List.pairwise_append]
    refine ⟨TreeMap.ordered_keys_toList, List.pairwise_singleton _ _, fun e he e' he' => ?_⟩
    rw [List.mem_singleton.mp he']
    exact h e he
  · rw [TreeMap.getElem?_insert, List.mem_append, TreeMap.mem_toList_iff_getElem?_eq_some,
      List.mem_singleton, Prod.mk.injEq]
    by_cases hk : compare k a = .eq
    · -- The map has no entry under `k`, which would come after itself.
      have heq : k = a := LawfulEqOrd.eq_of_compare hk
      subst heq
      have hnone : m[k]? ≠ some b := fun hsome => by
        have hlt := h (k, b) (TreeMap.mem_toList_iff_getElem?_eq_some.mpr hsome)
        rw [hk] at hlt
        cases hlt
      rw [if_pos hk, Option.some.injEq]
      constructor
      · rintro (hsome | ⟨-, rfl⟩)
        · exact absurd hsome hnone
        · rfl
      · rintro rfl
        exact .inr ⟨rfl, rfl⟩
    · rw [if_neg hk]
      constructor
      · rintro (hsome | ⟨rfl, -⟩)
        · exact hsome
        · exact absurd ReflOrd.compare_self hk
      · exact .inl

/-- Entries that are inserted in their order, and after those that are there, are appended. -/
theorem toList_foldl_insert (entries : List (α × β)) (m : TreeMap α β)
    (hsorted : entries.Pairwise fun a b => compare a.1 b.1 = .lt)
    (h : ∀ e ∈ m.toList, ∀ e' ∈ entries, compare e.1 e'.1 = .lt) :
    (entries.foldl (fun m e => m.insert e.1 e.2) m).toList = m.toList ++ entries := by
  induction entries generalizing m with
  | nil => rw [List.foldl_nil, List.append_nil]
  | cons first rest ih =>
    rw [List.pairwise_cons] at hsorted
    -- The first entry comes after those that are there, and before the rest.
    have hfirst := toList_insert_of_last first.2 fun e he => h e he first List.mem_cons_self
    rw [List.foldl_cons, ih _ hsorted.2, hfirst, List.append_assoc, List.singleton_append]
    rw [hfirst]
    intro e he e' he'
    rcases List.mem_append.mp he with hold | hnew
    · exact h e hold e' (List.mem_cons_of_mem _ he')
    · rw [List.mem_singleton.mp hnew]
      exact hsorted.1 e' he'

theorem toList_foldl_insert_empty {entries : List (α × β)}
    (hsorted : entries.Pairwise fun a b => compare a.1 b.1 = .lt) :
    (entries.foldl (fun m e => m.insert e.1 e.2) (∅ : TreeMap α β)).toList = entries := by
  have hempty : (∅ : TreeMap α β).toList = [] := rfl
  rw [toList_foldl_insert entries ∅ hsorted (by simp [hempty]), hempty, List.nil_append]

/-- What is found in a map to which the elements of a list were added is the last one of them under
the key, or else what was there before. -/
theorem getElem?_foldl_insert [DecidableEq α] (key : β → α) (l : List β) (m : TreeMap α β) (k : α) :
    (l.foldl (fun m v => m.insert (key v) v) m)[k]? =
      (l.filter (key · = k)).getLast?.or m[k]? := by
  induction l generalizing m with
  | nil => rw [List.foldl_nil, List.filter_nil, List.getLast?_nil, Option.none_or]
  | cons first rest ih =>
    rw [List.foldl_cons, ih, TreeMap.getElem?_insert]
    by_cases hk : key first = k
    · have hfilter : (first :: rest).filter (key · = k) = first :: rest.filter (key · = k) :=
        List.filter_cons_of_pos (decide_eq_true hk)
      rw [hfilter, List.getLast?_cons, hk, if_pos ReflOrd.compare_self]
      cases (rest.filter (key · = k)).getLast? <;> rfl
    · have hfilter : (first :: rest).filter (key · = k) = rest.filter (key · = k) :=
        List.filter_cons_of_neg (mt of_decide_eq_true hk)
      rw [hfilter, if_neg (mt LawfulEqOrd.eq_of_compare hk)]

theorem getElem?_foldl_insert_empty [DecidableEq α] (key : β → α) (l : List β) (k : α) :
    (l.foldl (fun m v => m.insert (key v) v) (∅ : TreeMap α β))[k]? =
      (l.filter (key · = k)).getLast? := by
  rw [getElem?_foldl_insert, TreeMap.getElem?_emptyc, Option.or_none]

section Last

omit [Ord α] [TransOrd α] [LawfulEqOrd α]

variable [DecidableEq α] {key : β → α} {l : List β} {k : α}

/-- The last element under a key is an element, and has the key. -/
theorem of_getLast?_filter {v : β} (h : (l.filter (key · = k)).getLast? = some v) :
    v ∈ l ∧ key v = k := by
  obtain ⟨hmem, hkey⟩ := List.mem_filter.mp (List.mem_of_getLast? h)
  exact ⟨hmem, of_decide_eq_true hkey⟩

theorem exists_getLast?_filter (h : k ∈ l.map key) :
    ∃ v, (l.filter (key · = k)).getLast? = some v := by
  obtain ⟨v, hv, rfl⟩ := List.mem_map.mp h
  have hne : l.filter (key · = key v) ≠ [] :=
    List.ne_nil_of_mem (List.mem_filter.mpr ⟨hv, decide_eq_true rfl⟩)
  exact ⟨_, List.getLast?_eq_some_getLast hne⟩

theorem getLast?_filter_eq_none (h : k ∉ l.map key) : (l.filter (key · = k)).getLast? = none := by
  have hnone : l.filter (key · = k) = [] := List.filter_eq_nil_iff.mpr fun v hv hkey =>
    h (List.mem_map.mpr ⟨v, hv, of_decide_eq_true hkey⟩)
  rw [hnone, List.getLast?_nil]

end Last

end CargoTracking.OrderedMap
