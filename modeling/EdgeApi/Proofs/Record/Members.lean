import EdgeApi.Json.Document

/-!
# Members of objects

What stands under a name in a list of members, what becomes of it in sorted form, and which values a
source can hold: those with distinct names that are not nested too deep for it.
-/

set_option autoImplicit false

namespace EdgeApi

section Lookup

variable {β : Type} {name key : String} {value : β} {members : List (String × β)}

theorem lookup_cons_self : ((name, value) :: members).lookup name = some value := by
  rw [List.lookup_cons, BEq.rfl]

theorem lookup_cons_of_ne (h : key ≠ name) :
    ((name, value) :: members).lookup key = members.lookup key := by
  rw [List.lookup_cons, beq_false_of_ne h]

theorem mem_of_lookup (h : members.lookup key = some value) : (key, value) ∈ members := by
  obtain ⟨before, after, rfl, _⟩ := List.lookup_eq_some_iff.mp h
  exact List.mem_append_right _ List.mem_cons_self

theorem lookup_eq_none (h : key ∉ members.map Prod.fst) : members.lookup key = none := by
  refine List.lookup_eq_none_iff.mpr fun m hMem => bne_iff_ne.mpr fun hEq => h ?_
  exact hEq ▸ List.mem_map_of_mem hMem

theorem lookup_of_mem (hNodup : (members.map Prod.fst).Nodup) (h : (key, value) ∈ members) :
    members.lookup key = some value := by
  induction members with
  | nil => cases h
  | cons m members ih =>
    rw [List.map_cons, List.nodup_cons] at hNodup
    rcases List.mem_cons.mp h with rfl | h
    · exact lookup_cons_self
    · have hNe : key ≠ m.1 := fun hEq => hNodup.1 (hEq ▸ List.mem_map_of_mem h)
      exact (lookup_cons_of_ne hNe).trans (ih hNodup.2 h)

theorem lookup_filter (keep : String → Bool) (h : keep key = true) :
    (members.filter fun m => keep m.1).lookup key = members.lookup key := by
  induction members with
  | nil => rfl
  | cons m members ih =>
    by_cases hKey : key = m.1
    · subst hKey
      rw [List.filter_cons, if_pos h, lookup_cons_self, lookup_cons_self]
    · rw [lookup_cons_of_ne hKey, List.filter_cons]
      split
      · exact (lookup_cons_of_ne hKey).trans ih
      · exact ih

theorem lookup_of_perm {others : List (String × β)} (hNodup : (members.map Prod.fst).Nodup)
    (h : members.Perm others) : members.lookup key = others.lookup key := by
  have hNodup' : (others.map Prod.fst).Nodup := (h.map Prod.fst).nodup_iff.mp hNodup
  rcases hFound : others.lookup key with _ | value
  · rcases hFound' : members.lookup key with _ | value
    · rfl
    · cases hFound.symm.trans (lookup_of_mem hNodup' (h.subset (mem_of_lookup hFound')))
  · exact lookup_of_mem hNodup (h.symm.subset (mem_of_lookup hFound))

end Lookup

namespace Json

variable {name key : String} {value : Json} {members others : List (String × Json)}

section Sorted

/-- Sorted by name, without namesakes. -/
def InOrder (members : List (String × Json)) : Prop :=
  (members.map Prod.fst).Pairwise (· < ·)

theorem InOrder.nodup (h : InOrder members) : (members.map Prod.fst).Nodup :=
  List.Pairwise.imp (fun {a b} (hLt : a < b) (hEq : a = b) => String.lt_irrefl b (hEq ▸ hLt)) h

theorem lookup_insertMember :
    (insertMember name value members).lookup key =
      if key = name then some value else members.lookup key := by
  induction members with
  | nil =>
    rw [insertMember]
    split
    · rename_i hKey
      exact hKey ▸ lookup_cons_self
    · exact lookup_cons_of_ne ‹_›
  | cons m members ih =>
    rw [insertMember]
    by_cases hKey : key = name
    · subst hKey
      split
      · rw [lookup_cons_self, if_pos rfl]
      · split
        · rw [lookup_cons_self, if_pos rfl]
        · rw [lookup_cons_of_ne ‹_›, ih, if_pos rfl, if_pos rfl]
    · rw [if_neg hKey] at ih ⊢
      split
      · exact lookup_cons_of_ne hKey
      · split
        · rename_i hName
          rw [lookup_cons_of_ne hKey, lookup_cons_of_ne (hName ▸ hKey)]
        · rw [List.lookup_cons, List.lookup_cons, ih]

theorem mem_of_mem_insertMember {m : String × Json} (h : m ∈ insertMember name value members) :
    m = (name, value) ∨ m ∈ members := by
  induction members with
  | nil => exact .inl (List.mem_singleton.mp h)
  | cons n members ih =>
    rw [insertMember] at h
    split at h
    · exact List.mem_cons.mp h
    · split at h
      · exact (List.mem_cons.mp h).imp_right (List.mem_cons_of_mem _)
      · rcases List.mem_cons.mp h with rfl | h
        · exact .inr List.mem_cons_self
        · exact (ih h).imp_right (List.mem_cons_of_mem _)

theorem InOrder.insertMember (h : InOrder members) :
    InOrder (insertMember name value members) := by
  induction members with
  | nil => exact List.pairwise_singleton _ _
  | cons m members ih =>
    obtain ⟨hLeast, hTail⟩ := List.pairwise_cons.mp h
    rw [Json.insertMember]
    split
    · rename_i hLt
      refine List.pairwise_cons.mpr ⟨fun n hMem => ?_, h⟩
      rcases List.mem_cons.mp hMem with rfl | hMem
      · exact hLt
      · exact String.lt_trans hLt (hLeast n hMem)
    · rename_i hNotLt
      split
      · rename_i hEq
        exact List.pairwise_cons.mpr ⟨fun n hMem => hEq ▸ hLeast n hMem, hTail⟩
      · rename_i hNe
        refine List.pairwise_cons.mpr ⟨fun n hMem => ?_, ih hTail⟩
        obtain ⟨m', hMem', rfl⟩ := List.mem_map.mp hMem
        rcases mem_of_mem_insertMember hMem' with rfl | hMem'
        · exact Decidable.byContradiction fun hNotGt =>
            hNe (String.le_antisymm (String.not_lt.mp hNotGt) (String.not_lt.mp hNotLt))
        · exact hLeast _ (List.mem_map_of_mem hMem')

/-- The members in sorted form, after others that are. -/
abbrev insertAll (members others : List (String × Json)) : List (String × Json) :=
  members.foldl (fun acc m => insertMember m.1 m.2 acc) others

theorem InOrder.insertAll (h : InOrder others) : InOrder (insertAll members others) := by
  induction members generalizing others with
  | nil => exact h
  | cons m members ih => exact ih h.insertMember

theorem lookup_insertAll (hNodup : (members.map Prod.fst).Nodup) :
    (insertAll members others).lookup key = (members.lookup key).or (others.lookup key) := by
  induction members generalizing others with
  | nil => rfl
  | cons m members ih =>
    rw [List.map_cons, List.nodup_cons] at hNodup
    change (insertAll members (insertMember m.1 m.2 others)).lookup key = _
    rw [ih hNodup.2, lookup_insertMember]
    split
    · rename_i hKey
      rw [lookup_eq_none (hKey ▸ hNodup.1), hKey, lookup_cons_self]
      rfl
    · rw [lookup_cons_of_ne ‹_›]

theorem mem_of_mem_insertAll {m : String × Json} (h : m ∈ insertAll members others) :
    m ∈ members ∨ m ∈ others := by
  induction members generalizing others with
  | nil => exact .inr h
  | cons n members ih =>
    rcases ih h with h | h
    · exact .inl (List.mem_cons_of_mem _ h)
    · rcases mem_of_mem_insertMember h with rfl | h
      · exact .inl List.mem_cons_self
      · exact .inr h

theorem insertMember_of_last (h : ∀ m ∈ members, m.1 < name) :
    insertMember name value members = members ++ [(name, value)] := by
  induction members with
  | nil => rfl
  | cons m members ih =>
    have hLt := h m List.mem_cons_self
    rw [insertMember, if_neg (String.lt_asymm hLt),
      if_neg fun hEq => String.lt_irrefl _ (hEq ▸ hLt),
      ih fun n hMem => h n (List.mem_cons_of_mem _ hMem)]
    rfl

/-- Members in order stay as they are. -/
theorem insertAll_of_inOrder (h : InOrder (others ++ members)) :
    insertAll members others = others ++ members := by
  induction members generalizing others with
  | nil => exact (List.append_nil _).symm
  | cons m members ih =>
    have hLast : ∀ n ∈ others, n.1 < m.1 := fun n hMem => by
      rw [InOrder, List.map_append, List.pairwise_append] at h
      exact h.2.2 _ (List.mem_map_of_mem hMem) _ List.mem_cons_self
    have hAppend : others ++ m :: members = others ++ [m] ++ members :=
      List.append_cons others m members
    change insertAll members (insertMember m.1 m.2 others) = _
    rw [hAppend] at h ⊢
    rw [insertMember_of_last hLast]
    exact ih h

theorem sortedItems_eq_map (items : List Json) : sortedItems items = items.map sorted := by
  induction items with
  | nil => rfl
  | cons item items ih => rw [sortedItems, ih, List.map_cons]

theorem sortedMembers_eq_map (members : List (String × Json)) :
    sortedMembers members = members.map (Prod.map id sorted) := by
  induction members with
  | nil => rfl
  | cons m members ih =>
    rw [sortedMembers, ih, List.map_cons]
    rfl

theorem map_fst_sortedMembers : (sortedMembers members).map Prod.fst = members.map Prod.fst := by
  rw [sortedMembers_eq_map, List.map_map]
  rfl

theorem lookup_sortedMembers :
    (sortedMembers members).lookup key = (members.lookup key).map sorted := by
  induction members with
  | nil => rfl
  | cons m members ih =>
    rw [sortedMembers]
    by_cases hKey : key = m.1
    · subst hKey
      rw [lookup_cons_self, lookup_cons_self]
      rfl
    · rw [lookup_cons_of_ne hKey, lookup_cons_of_ne hKey, ih]

theorem isNull_sorted (j : Json) : j.sorted.isNull = j.isNull := by
  cases j <;> rfl

abbrev sortedForm (members : List (String × Json)) : List (String × Json) :=
  insertAll (sortedMembers members) []

theorem inOrder_sortedForm (members : List (String × Json)) : InOrder (sortedForm members) :=
  InOrder.insertAll List.Pairwise.nil

theorem lookup_sortedForm (hNodup : (members.map Prod.fst).Nodup) :
    (sortedForm members).lookup key = (members.lookup key).map sorted := by
  rw [lookup_insertAll (by rwa [map_fst_sortedMembers]), lookup_sortedMembers]
  exact Option.or_none

end Sorted

end Json

namespace Source

/-- Values that a source can hold: the names of every object are distinct, and the source has room
for all containers in each other. -/
inductive Holds : Source → Json → Prop where
  | null {source : Source} : Holds source .null
  | bool {source : Source} (b : Bool) : Holds source (.bool b)
  | number {source : Source} (n : Number) : Holds source (.number n)
  | text {source : Source} (s : String) : Holds source (.text s)
  | list {source inner : Source} {items : List Json} (enter : source.enter = .ok inner)
      (held : ∀ item ∈ items, Holds inner item) : Holds source (.list items)
  | object {source inner : Source} {members : List (String × Json)}
      (enter : source.enter = .ok inner) (distinct : (members.map Prod.fst).Nodup)
      (held : ∀ m ∈ members, Holds inner m.2) : Holds source (.object members)

variable {source : Source} {j : Json}

theorem enter_settled : settled.enter = .ok settled :=
  rfl

/-- A value that any source can hold is one of distinct names. -/
theorem Holds.toSettled (h : source.Holds j) : settled.Holds j := by
  induction h with
  | null => exact .null
  | bool b => exact .bool b
  | number n => exact .number n
  | text s => exact .text s
  | list _ _ ih => exact .list enter_settled ih
  | object _ distinct _ ih => exact .object enter_settled distinct ih

theorem Holds.of_lookup {name : String} {members : List (String × Json)}
    (h : settled.Holds (.object members)) (hFound : members.lookup name = some j) :
    settled.Holds j := by
  cases h with
  | object enter _ held =>
    cases enter
    exact held _ (mem_of_lookup hFound)

theorem Holds.sorted (h : source.Holds j) : source.Holds j.sorted := by
  induction h with
  | null => exact .null
  | bool b => exact .bool b
  | number n => exact .number n
  | text s => exact .text s
  | list enter _ ih =>
    refine .list enter fun item hMem => ?_
    rw [Json.sortedItems_eq_map] at hMem
    obtain ⟨item', hMem', rfl⟩ := List.mem_map.mp hMem
    exact ih item' hMem'
  | object enter _ _ ih =>
    refine .object enter (Json.inOrder_sortedForm _).nodup fun m hMem => ?_
    rcases Json.mem_of_mem_insertAll hMem with hMem | hMem
    · rw [Json.sortedMembers_eq_map] at hMem
      obtain ⟨m', hMem', rfl⟩ := List.mem_map.mp hMem
      exact ih m' hMem'
    · cases hMem

end Source

namespace Json

theorem sortedMembers_insertMember (name : String) (value : Json) (members : List (String × Json)) :
    sortedMembers (insertMember name value members) =
      insertMember name value.sorted (sortedMembers members) := by
  induction members with
  | nil => rfl
  | cons m members ih =>
    rw [insertMember, sortedMembers, insertMember]
    split
    · rfl
    · split
      · rfl
      · rw [sortedMembers, ih]

theorem sortedMembers_insertAll (members others : List (String × Json)) :
    sortedMembers (insertAll members others) =
      insertAll (sortedMembers members) (sortedMembers others) := by
  induction members generalizing others with
  | nil => rfl
  | cons m members ih =>
    change sortedMembers (insertAll members (insertMember m.1 m.2 others)) = _
    rw [ih, sortedMembers_insertMember]
    rfl

theorem sorted_sorted {source : Source} {j : Json} (h : source.Holds j) :
    j.sorted.sorted = j.sorted := by
  induction h with
  | null | bool | number | text => rfl
  | list _ _ ih =>
    rw [sorted, sorted, sortedItems_eq_map, sortedItems_eq_map, List.map_map]
    exact congrArg Json.list (List.map_congr_left ih)
  | @object _ _ members _ _ _ ih =>
    have hMembers : sortedMembers (sortedMembers members) = sortedMembers members := by
      rw [sortedMembers_eq_map, sortedMembers_eq_map, List.map_map]
      exact List.map_congr_left fun m hMem => Prod.ext rfl (ih m hMem)
    change Json.object (insertAll (sortedMembers (sortedForm members)) []) =
      Json.object (sortedForm members)
    have hOrder : insertAll (sortedForm members) [] = sortedForm members :=
      insertAll_of_inOrder (inOrder_sortedForm members)
    rw [sortedMembers_insertAll, hMembers]
    exact congrArg Json.object hOrder

end Json

namespace Document

variable {source : Source} {items : List Json} {members : List (String × Json)} {j : Json}

theorem skipItems_ofItems (h : ∀ item ∈ items, (ofJson item).skip = .ok ()) :
    skipItems (ofItems items) = .ok () := by
  induction items with
  | nil => rfl
  | cons item items ih =>
    obtain ⟨hItem, hItems⟩ := List.forall_mem_cons.mp h
    rw [ofItems, skipItems, hItem]
    exact ih hItems

theorem skipMembers_ofMembers (h : ∀ m ∈ members, (ofJson m.2).skip = .ok ()) :
    skipMembers (ofMembers members) = .ok () := by
  induction members with
  | nil => rfl
  | cons m members ih =>
    obtain ⟨hMember, hMembers⟩ := List.forall_mem_cons.mp h
    rw [ofMembers, skipMembers, hMember]
    exact ih hMembers

theorem skip_ofJson (h : source.Holds j) : (ofJson j).skip = .ok () := by
  induction h with
  | null | bool | number | text => rfl
  | list _ _ ih => exact skipItems_ofItems ih
  | object _ _ _ ih => exact skipMembers_ofMembers ih

theorem toItems_ofItems (h : ∀ item ∈ items, (ofJson item).toJson source = .ok item.sorted) :
    toItems source (ofItems items) = .ok (Json.sortedItems items) := by
  induction items with
  | nil => rfl
  | cons item items ih =>
    obtain ⟨hItem, hItems⟩ := List.forall_mem_cons.mp h
    rw [ofItems, toItems, hItem, ih hItems]
    rfl

theorem toMembers_ofMembers (h : ∀ m ∈ members, (ofJson m.2).toJson source = .ok m.2.sorted) :
    toMembers source (ofMembers members) = .ok (Json.sortedMembers members) := by
  induction members with
  | nil => rfl
  | cons m members ih =>
    obtain ⟨hMember, hMembers⟩ := List.forall_mem_cons.mp h
    rw [ofMembers, toMembers, hMember, ih hMembers]
    rfl

/-- A value read from what holds it comes in sorted form. -/
theorem toJson_ofJson (h : source.Holds j) : (ofJson j).toJson source = .ok j.sorted := by
  induction h with
  | null | bool | number | text => rfl
  | list enter _ ih =>
    rw [ofJson, toJson, enter]
    change toItems _ (ofItems _) >>= _ = _
    rw [toItems_ofItems ih]
    rfl
  | object enter _ _ ih =>
    rw [ofJson, toJson, enter]
    change toMembers _ (ofMembers _) >>= _ = _
    rw [toMembers_ofMembers ih]
    rfl

end Document

end EdgeApi
