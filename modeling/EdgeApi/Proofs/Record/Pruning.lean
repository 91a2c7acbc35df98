import EdgeApi.Proofs.Record.Reading

/-!
# Pruning

Readers look at some parts of a value only. The shape of a codec says at which: at the members of a
record that its fields are named after, as far as they are not null. A value is pruned to a shape by
leaving out all other members of the records in it.
-/

set_option autoImplicit false

namespace EdgeApi

/-- What is looked at in a value. -/
inductive Shape where
  | leaf
  | list (items : Shape)
  /-- The members of the names known. -/
  | record (known : List (String × Shape))
  /-- One member that names a variant, and the members known of that variant. -/
  | tagged (tag : String) (variants : List (String × List (String × Shape)))

namespace Shape

def variantOf (tag : String) (variants : List (String × List (String × Shape)))
    (members : List (String × Json)) : List (String × Shape) :=
  (tag, .leaf) ::
    match members.lookup tag with
    | some (.text name) => (variants.lookup name).getD []
    | _ => []

end Shape

namespace Json

mutual

/-- Leaves out the members of records that are unknown or null. -/
def prune : Json → Shape → Json
  | .list items, .list s => .list (pruneItems items s)
  | .list items, .record known => .list (prunePlaces items known)
  | .object members, .record known => .object (pruneMembers members known)
  | .object members, .tagged tag variants =>
    .object (pruneMembers members (Shape.variantOf tag variants members))
  | j, _ => j

def pruneItems : List Json → Shape → List Json
  | [], _ => []
  | item :: items, s => item.prune s :: pruneItems items s

/-- In an array every field has its place, so that nothing is left out. -/
def prunePlaces : List Json → List (String × Shape) → List Json
  | item :: items, (_, s) :: known => item.prune s :: prunePlaces items known
  | items, _ => items

def pruneMembers : List (String × Json) → List (String × Shape) → List (String × Json)
  | [], _ => []
  | (name, value) :: members, known =>
    match known.lookup name, value.isNull with
    | some s, false => (name, value.prune s) :: pruneMembers members known
    | _, _ => pruneMembers members known

end

def present (found : Option Json) : Option Json :=
  found.filter fun j => !j.isNull

/-- Values in which a reader who looks at a shape sees the same. -/
inductive Like : Shape → Json → Json → Prop where
  | refl {s : Shape} (j : Json) : Like s j j
  | leaf {j j' : Json} (h : j.sorted = j'.sorted) : Like .leaf j j'
  | item {s : Shape} {j j' : Json} {items items' : List Json} (head : Like s j j')
      (tail : Like (.list s) (.list items) (.list items')) :
      Like (.list s) (.list (j :: items)) (.list (j' :: items'))
  | place {name : String} {s : Shape} {known : List (String × Shape)} {j j' : Json}
      {items items' : List Json} (head : Like s j j')
      (tail : Like (.record known) (.list items) (.list items')) :
      Like (.record ((name, s) :: known)) (.list (j :: items)) (.list (j' :: items'))
  | noPlace {items items' : List Json} (h : items = [] ↔ items' = []) :
      Like (.record []) (.list items) (.list items')
  | object {known : List (String × Shape)} {members members' : List (String × Json)}
      (isSome : ∀ name s, known.lookup name = some s →
        (present (members.lookup name)).isSome = (present (members'.lookup name)).isSome)
      (like : ∀ name s j j', known.lookup name = some s →
        present (members.lookup name) = some j → present (members'.lookup name) = some j' →
          Like s j j') :
      Like (.record known) (.object members) (.object members')
  | tagged {tag : String} {variants : List (String × List (String × Shape))}
      {members members' : List (String × Json)}
      (variant : Shape.variantOf tag variants members = Shape.variantOf tag variants members')
      (like : Like (.record (Shape.variantOf tag variants members)) (.object members)
        (.object members')) :
      Like (.tagged tag variants) (.object members) (.object members')
  | noList {s : Shape} {members members' : List (String × Json)} :
      Like (.list s) (.object members) (.object members')
  | noObject {tag : String} {variants : List (String × List (String × Shape))}
      {items items' : List Json} : Like (.tagged tag variants) (.list items) (.list items')

/-- What stands under a name is alike, or nothing but null does. -/
def LikeFound (s : Shape) (found found' : Option Json) : Prop :=
  present found = none ∧ present found' = none ∨
    ∃ j j', present found = some j ∧ present found' = some j' ∧ Like s j j'

section Present

variable {found : Option Json} {j : Json} {f : Json → Json}

theorem present_some (h : j.isNull = false) : present (some j) = some j := by
  rw [present, Option.filter_some, h]
  rfl

theorem present_null (h : j.isNull = true) : present (some j) = none := by
  rw [present, Option.filter_some, h]
  rfl

theorem present_map (h : ∀ j, (f j).isNull = j.isNull) :
    present (found.map f) = (present found).map f := by
  rcases found with _ | j
  · rfl
  · rw [Option.map_some, present, present, Option.filter_some, Option.filter_some, h]
    split <;> rfl

theorem present_present : present (present found) = present found := by
  rw [present, present, Option.filter_filter]
  simp only [Bool.and_self]

theorem isSome_present : (present found).isSome = found.any fun j => !j.isNull := by
  rcases found with _ | j
  · rfl
  · rcases hNull : j.isNull with _ | _
    · rw [present_some hNull, Option.any_some, hNull]
      rfl
    · rw [present_null hNull, Option.any_some, hNull]
      rfl

theorem LikeFound.isSome_present {s : Shape} {found found' : Option Json}
    (h : LikeFound s found found') : (present found).isSome = (present found').isSome := by
  rcases h with ⟨hNone, hNone'⟩ | ⟨j, j', hSome, hSome', _⟩
  · rw [hNone, hNone']
  · rw [hSome, hSome']
    rfl

theorem eq_some_of_present (h : present found = some j) : found = some j :=
  (Option.filter_eq_some_iff.mp h).1

end Present

theorem eq_null_of_isNull {j : Json} (h : j.isNull = true) : j = .null := by
  cases j with
  | null => rfl
  | _ => cases h

theorem Like.isNull_eq {s : Shape} {j j' : Json} (h : Like s j j') : j.isNull = j'.isNull := by
  cases h with
  | leaf hSorted => rw [← isNull_sorted, hSorted, isNull_sorted]
  | _ => rfl

theorem isNull_prune (j : Json) (s : Shape) : (j.prune s).isNull = j.isNull := by
  cases j <;> cases s <;> rfl

theorem prune_leaf (j : Json) : j.prune .leaf = j := by
  cases j <;> rfl

theorem pruneItems_eq_map (items : List Json) (s : Shape) :
    pruneItems items s = items.map fun item => item.prune s := by
  induction items with
  | nil => rfl
  | cons item items ih => rw [pruneItems, ih, List.map_cons]

variable {known : List (String × Shape)} {members members' : List (String × Json)} {name : String}
  {s : Shape}

theorem pruneMembers_cons_of_seen {m : String × Json} (hKnown : known.lookup m.1 = some s)
    (hNull : m.2.isNull = false) :
    pruneMembers (m :: members) known = (m.1, m.2.prune s) :: pruneMembers members known := by
  rw [pruneMembers, hKnown, hNull]

theorem pruneMembers_cons_of_unseen {m : String × Json}
    (h : known.lookup m.1 = none ∨ m.2.isNull = true) :
    pruneMembers (m :: members) known = pruneMembers members known := by
  rw [pruneMembers]
  rcases h with h | h
  · rw [h]
  · rw [h]
    rcases known.lookup m.1 with _ | s <;> rfl

/-- Whether a member is left, and if so as what. -/
theorem seen_or_unseen (known : List (String × Shape)) (m : String × Json) :
    (∃ s, known.lookup m.1 = some s ∧ m.2.isNull = false) ∨
      (known.lookup m.1 = none ∨ m.2.isNull = true) := by
  rcases known.lookup m.1 with _ | s
  · exact .inr (.inl rfl)
  · rcases hNull : m.2.isNull with _ | _
    · exact .inl ⟨s, rfl, rfl⟩
    · exact .inr (.inr rfl)

theorem mem_of_mem_pruneMembers {m : String × Json} (h : m ∈ pruneMembers members known) :
    ∃ j s, (m.1, j) ∈ members ∧ known.lookup m.1 = some s ∧ j.isNull = false ∧
      m.2 = j.prune s := by
  induction members with
  | nil => cases h
  | cons n members ih =>
    have hTail (h : m ∈ pruneMembers members known) :
        ∃ j s, (m.1, j) ∈ n :: members ∧ known.lookup m.1 = some s ∧ j.isNull = false ∧
          m.2 = j.prune s := by
      obtain ⟨j, s, hMem, hSeen⟩ := ih h
      exact ⟨j, s, List.mem_cons_of_mem _ hMem, hSeen⟩
    rcases seen_or_unseen known n with ⟨s, hKnown, hNull⟩ | hUnseen
    · rw [pruneMembers_cons_of_seen hKnown hNull] at h
      rcases List.mem_cons.mp h with rfl | h
      · exact ⟨n.2, s, List.mem_cons_self, hKnown, hNull, rfl⟩
      · exact hTail h
    · rw [pruneMembers_cons_of_unseen hUnseen] at h
      exact hTail h

theorem map_fst_pruneMembers_sublist (members : List (String × Json))
    (known : List (String × Shape)) :
    ((pruneMembers members known).map Prod.fst).Sublist (members.map Prod.fst) := by
  induction members with
  | nil => exact .slnil
  | cons m members ih =>
    rcases seen_or_unseen known m with ⟨s, hKnown, hNull⟩ | hUnseen
    · rw [pruneMembers_cons_of_seen hKnown hNull]
      exact ih.cons_cons m.1
    · rw [pruneMembers_cons_of_unseen hUnseen]
      exact ih.cons m.1

theorem lookup_pruneMembers (hDistinct : (members.map Prod.fst).Nodup)
    (hKnown : known.lookup name = some s) :
    (pruneMembers members known).lookup name =
      (present (members.lookup name)).map fun j => j.prune s := by
  induction members with
  | nil => rfl
  | cons m members ih =>
    obtain ⟨hFresh, hDistinct⟩ := List.nodup_cons.mp hDistinct
    by_cases hName : name = m.1
    · subst hName
      rw [lookup_cons_self]
      rcases hNull : m.2.isNull with _ | _
      · rw [pruneMembers_cons_of_seen hKnown hNull, lookup_cons_self, present_some hNull]
        rfl
      · rw [pruneMembers_cons_of_unseen (.inr hNull), ih hDistinct, lookup_eq_none hFresh,
          present_null hNull]
        rfl
    · rw [lookup_cons_of_ne hName, ← ih hDistinct]
      rcases seen_or_unseen known m with ⟨s, hKnown, hNull⟩ | hUnseen
      · rw [pruneMembers_cons_of_seen hKnown hNull, lookup_cons_of_ne hName]
      · rw [pruneMembers_cons_of_unseen hUnseen]

theorem variantOf_pruneMembers {tag : String} {variants : List (String × List (String × Shape))}
    (hDistinct : (members.map Prod.fst).Nodup) :
    Shape.variantOf tag variants
        (pruneMembers members (Shape.variantOf tag variants members)) =
      Shape.variantOf tag variants members := by
  have hKnown : (Shape.variantOf tag variants members).lookup tag = some .leaf := lookup_cons_self
  have hTag : (pruneMembers members (Shape.variantOf tag variants members)).lookup tag =
      present (members.lookup tag) := by
    rw [lookup_pruneMembers hDistinct hKnown]
    simp only [prune_leaf, Option.map_id']
  rw [Shape.variantOf, hTag, Shape.variantOf]
  rcases members.lookup tag with _ | j
  · rfl
  · cases j <;> rfl

end Json

namespace Source

open Json

variable {source : Source} {j : Json} {s : Shape}

theorem holds_prunePlaces {items : List Json} {known : List (String × Shape)}
    (h : ∀ item ∈ items, ∀ s, source.Holds (item.prune s))
    (hHeld : ∀ item ∈ items, source.Holds item) :
    ∀ item ∈ prunePlaces items known, source.Holds item := by
  induction items generalizing known with
  | nil => exact nofun
  | cons item items ih =>
    rcases known with _ | ⟨⟨name, s⟩, known⟩
    · exact hHeld
    · obtain ⟨hItem, hItems⟩ := List.forall_mem_cons.mp h
      exact List.forall_mem_cons.mpr
        ⟨hItem s, ih hItems fun item hMem => hHeld item (List.mem_cons_of_mem _ hMem)⟩

theorem holds_pruneMembers {members : List (String × Json)} {known : List (String × Shape)}
    (h : ∀ m ∈ members, ∀ s, source.Holds (m.2.prune s)) :
    ∀ m ∈ pruneMembers members known, source.Holds m.2 := fun m hMem => by
  obtain ⟨j, s, hMem, _, _, hEq⟩ := mem_of_mem_pruneMembers hMem
  exact hEq ▸ h _ hMem s

theorem Holds.prune (h : source.Holds j) : source.Holds (j.prune s) := by
  induction h generalizing s with
  | null => cases s <;> exact .null
  | bool b => cases s <;> exact .bool b
  | number n => cases s <;> exact .number n
  | text t => cases s <;> exact .text t
  | @list _ _ items enter held ih =>
    cases s with
    | leaf | tagged => exact .list enter held
    | list s =>
      refine .list enter fun item hMem => ?_
      rw [pruneItems_eq_map] at hMem
      obtain ⟨item', hMem', rfl⟩ := List.mem_map.mp hMem
      exact ih item' hMem'
    | record known =>
      exact .list enter (holds_prunePlaces (fun item hMem _ => ih item hMem) held)
  | @object _ _ members enter distinct held ih =>
    have hMembers (known : List (String × Shape)) := Holds.object enter
      (distinct.sublist (map_fst_pruneMembers_sublist members known))
      (holds_pruneMembers fun m hMem _ => ih m hMem)
    cases s with
    | leaf | list => exact .object enter distinct held
    | record known => exact hMembers known
    | tagged tag variants => exact hMembers (Shape.variantOf tag variants members)

end Source

namespace Json

variable {source : Source} {s : Shape} {j : Json} {members members' : List (String × Json)}
  {known : List (String × Shape)}

theorem Like.ofFound (h : ∀ name s, known.lookup name = some s →
      LikeFound s (members.lookup name) (members'.lookup name)) :
    Like (.record known) (.object members) (.object members') := by
  refine .object (fun name s hKnown => (h name s hKnown).isSome_present)
    fun name s j j' hKnown hFound hFound' => ?_
  rcases h name s hKnown with ⟨hNone, _⟩ | ⟨k, k', hSome, hSome', hLike⟩
  · cases hNone.symm.trans hFound
  · cases hSome.symm.trans hFound
    cases hSome'.symm.trans hFound'
    exact hLike

theorem LikeFound.refl (s : Shape) (found : Option Json) : LikeFound s found found := by
  rcases hFound : present found with _ | j
  · exact .inl ⟨hFound, hFound⟩
  · exact .inr ⟨j, j, hFound, hFound, .refl j⟩

theorem Like.found {name : String}
    (h : Like (.record known) (.object members) (.object members'))
    (hKnown : known.lookup name = some s) :
    LikeFound s (members.lookup name) (members'.lookup name) := by
  cases h with
  | refl => exact .refl s _
  | object isSome like =>
    have hSome := isSome name s hKnown
    rcases hFound : present (members.lookup name) with _ | j <;>
      rcases hFound' : present (members'.lookup name) with _ | j' <;>
      rw [hFound, hFound'] at hSome
    · exact .inl ⟨hFound, hFound'⟩
    · cases hSome
    · cases hSome
    · exact .inr ⟨j, j', hFound, hFound', like name s j j' hKnown hFound hFound'⟩

theorem Like.tail {name : String}
    (h : Like (.record ((name, s) :: known)) (.object members) (.object members'))
    (hFresh : name ∉ known.map Prod.fst) :
    Like (.record known) (.object members) (.object members') :=
  .ofFound fun _ _ hKnown => h.found <| (lookup_cons_of_ne <|
    ne_of_mem_of_not_mem (List.mem_map_of_mem (mem_of_lookup hKnown)) hFresh).trans hKnown

theorem LikeFound.eq_text_iff {found found' : Option Json} {t : String}
    (h : LikeFound .leaf found found') : found = some (.text t) ↔ found' = some (.text t) := by
  have hPresent (found : Option Json) : found = some (.text t) ↔ present found = some (.text t) :=
    ⟨fun hEq => hEq ▸ present_some rfl, eq_some_of_present⟩
  have hSorted (j : Json) : j = .text t ↔ j.sorted = .text t := by
    cases j with
    | text => exact Iff.rfl
    | _ => exact ⟨nofun, nofun⟩
  rw [hPresent, hPresent found']
  rcases h with ⟨hNone, hNone'⟩ | ⟨j, j', hSome, hSome', hLike⟩
  · rw [hNone, hNone']
  · rw [hSome, hSome', Option.some_inj, Option.some_inj]
    cases hLike with
    | refl => exact Iff.rfl
    | leaf h => rw [hSorted, h, ← hSorted]

/-- What a reader of records takes for alike are arrays, objects, or the same. -/
theorem Like.record_cases {j j' : Json} (h : Like (.record known) j j') :
    j = j' ∨ (∃ items items', j = .list items ∧ j' = .list items') ∨
      ∃ members members', j = .object members ∧ j' = .object members' := by
  cases h with
  | refl => exact .inl rfl
  | place | noPlace => exact .inr (.inl ⟨_, _, rfl, rfl⟩)
  | object => exact .inr (.inr ⟨_, _, rfl, rfl⟩)

theorem likeFound_present {found found' : Option Json} :
    LikeFound s found (present found') ↔ LikeFound s found found' := by
  rw [LikeFound, LikeFound, present_present]

theorem likeFound_map {f : Json → Json} {found : Option Json}
    (hNull : ∀ j, (f j).isNull = j.isNull) (h : ∀ j, found = some j → Like s (f j) j) :
    LikeFound s (found.map f) found := by
  rw [LikeFound, present_map hNull]
  rcases hFound : present found with _ | j
  · exact .inl ⟨rfl, rfl⟩
  · exact .inr ⟨f j, j, rfl, rfl, h j (eq_some_of_present hFound)⟩

theorem like_list {items : List Json} {f : Json → Json} (h : ∀ item ∈ items, Like s (f item) item) :
    Like (.list s) (.list (items.map f)) (.list items) := by
  induction items with
  | nil => exact .refl _
  | cons item items ih =>
    obtain ⟨hItem, hItems⟩ := List.forall_mem_cons.mp h
    exact .item hItem (ih hItems)

theorem like_prunePlaces {items : List Json} (h : ∀ item ∈ items, ∀ s, Like s (item.prune s) item) :
    Like (.record known) (.list (prunePlaces items known)) (.list items) := by
  induction items generalizing known with
  | nil => exact .refl _
  | cons item items ih =>
    rcases known with _ | ⟨⟨name, s⟩, known⟩
    · exact .refl _
    · obtain ⟨hItem, hItems⟩ := List.forall_mem_cons.mp h
      exact .place (hItem s) (ih hItems)

theorem like_pruneMembers (hDistinct : (members.map Prod.fst).Nodup)
    (h : ∀ m ∈ members, ∀ s, Like s (m.2.prune s) m.2) :
    Like (.record known) (.object (pruneMembers members known)) (.object members) := by
  refine .ofFound fun name s hKnown => ?_
  rw [lookup_pruneMembers hDistinct hKnown, ← likeFound_present]
  exact likeFound_map (fun j => isNull_prune j s) fun j hFound =>
    h _ (mem_of_lookup (eq_some_of_present hFound)) s

/-- A pruned value looks like the whole value. -/
theorem like_prune (h : source.Holds j) : Like s (j.prune s) j := by
  induction h generalizing s with
  | null | bool | number | text => cases s <;> exact .refl _
  | @list _ _ items _ _ ih =>
    cases s with
    | leaf | tagged => exact .refl _
    | list s =>
      rw [prune, pruneItems_eq_map]
      exact like_list fun item hMem => ih item hMem
    | record known => exact like_prunePlaces fun item hMem _ => ih item hMem
  | @object _ _ members _ distinct _ ih =>
    have hMembers (known : List (String × Shape)) :
        Like (.record known) (.object (pruneMembers members known)) (.object members) :=
      like_pruneMembers distinct fun m hMem _ => ih m hMem
    cases s with
    | leaf | list => exact .refl _
    | record known => exact hMembers known
    | tagged tag variants =>
      refine .tagged (variantOf_pruneMembers distinct) ?_
      rw [variantOf_pruneMembers distinct]
      exact hMembers _

theorem like_sortedItems {items : List Json} (h : ∀ item ∈ items, ∀ s, Like s item.sorted item) :
    Like (.record known) (.list (sortedItems items)) (.list items) := by
  induction items generalizing known with
  | nil => exact .refl _
  | cons item items ih =>
    rcases known with _ | ⟨⟨name, s⟩, known⟩
    · exact .noPlace ⟨nofun, nofun⟩
    · obtain ⟨hItem, hItems⟩ := List.forall_mem_cons.mp h
      exact .place (hItem s) (ih hItems)

theorem variantOf_sortedForm {tag : String} {variants : List (String × List (String × Shape))}
    (hDistinct : (members.map Prod.fst).Nodup) :
    Shape.variantOf tag variants (sortedForm members) = Shape.variantOf tag variants members := by
  rw [Shape.variantOf, lookup_sortedForm hDistinct, Shape.variantOf]
  rcases members.lookup tag with _ | j
  · rfl
  · cases j <;> rfl

theorem like_sorted (h : source.Holds j) : Like s j.sorted j := by
  have hSorted := sorted_sorted h
  induction h generalizing s with
  | null | bool | number | text => exact .refl _
  | list _ held ih =>
    have hItems item hMem s : Like s item.sorted item :=
      ih item hMem (sorted_sorted (held item hMem))
    cases s with
    | leaf => exact .leaf hSorted
    | tagged => exact .noObject
    | list s =>
      rw [sorted, sortedItems_eq_map]
      exact like_list fun item hMem => hItems item hMem s
    | record known => exact like_sortedItems hItems
  | @object _ _ members _ distinct held ih =>
    have hMembers (known : List (String × Shape)) :
        Like (.record known) (.object (sortedForm members)) (.object members) := by
      refine .ofFound fun name s _ => ?_
      rw [lookup_sortedForm distinct]
      refine likeFound_map isNull_sorted fun j hFound => ?_
      have hMem := mem_of_lookup hFound
      exact ih _ hMem (sorted_sorted (held _ hMem))
    cases s with
    | leaf => exact .leaf hSorted
    | list => exact .noList
    | record known => exact hMembers known
    | tagged tag variants =>
      refine .tagged (variantOf_sortedForm distinct) ?_
      rw [variantOf_sortedForm distinct]
      exact hMembers _

end Json

end EdgeApi
