import EdgeApi.Proofs.Record.Faithful

/-!
# Stable codecs

A codec is stable if all that it ever reads is read back from what it is written as. It need not be
faithful: a free-form value is read back in sorted form only, but that is how it was read.
-/

set_option autoImplicit false

namespace EdgeApi

open Json

/-! ## Free-form values -/

/-- A value in sorted form, with distinct names. -/
structure Json.Settled (j : Json) : Prop where
  holds : Source.settled.Holds j
  sorted : j.sorted = j

namespace Json

theorem settled_list {items : List Json} (h : ∀ item ∈ items, item.Settled) :
    (Json.list items).Settled where
  holds := .list Source.enter_settled fun item hMem => (h item hMem).holds
  sorted := by
    have hItems : items.map Json.sorted = items.map id :=
      List.map_congr_left fun item hMem => (h item hMem).sorted
    rw [Json.sorted, sortedItems_eq_map, hItems, List.map_id]

theorem settled_ofMembers {members : List (String × Json)} (h : ∀ m ∈ members, m.2.Settled) :
    (ofMembers members).Settled := by
  have hOrder : InOrder (insertAll members []) := InOrder.insertAll List.Pairwise.nil
  constructor
  · refine .object Source.enter_settled hOrder.nodup fun m hMem => ?_
    rcases mem_of_mem_insertAll hMem with hMem | hMem
    · exact (h m hMem).holds
    · cases hMem
  · have hSame : members.map (Prod.map id Json.sorted) = members.map id :=
      List.map_congr_left fun m hMem => Prod.ext rfl (h m hMem).sorted
    have hMembers : sortedMembers members = members := by
      rw [sortedMembers_eq_map, hSame, List.map_id]
    have hSorted : insertAll (insertAll members []) [] = insertAll members [] :=
      insertAll_of_inOrder hOrder
    change Json.object (insertAll (sortedMembers (insertAll members [])) []) =
      Json.object (insertAll members [])
    rw [sortedMembers_insertAll, hMembers]
    exact congrArg Json.object hSorted

end Json

namespace Document

mutual

/-- Whatever the document, a value read from it is in sorted form. -/
theorem settled_of_toJson {source : Source} {j : Json} :
    ∀ {d : Document}, d.toJson source = .ok j → j.Settled
  | .null, h => by
    cases h
    exact ⟨.null, rfl⟩
  | .bool b, h => by
    cases h
    exact ⟨.bool b, rfl⟩
  | .number (some n), h => by
    cases h
    exact ⟨.number n, rfl⟩
  | .text (some s), h => by
    cases h
    exact ⟨.text s, rfl⟩
  | .number none, h | .text none, h | .broken _, h => by cases h
  | .list items, h => by
    obtain ⟨inner, _, h⟩ := except_bind_eq_ok.mp h
    obtain ⟨values, hItems, h⟩ := except_bind_eq_ok.mp h
    cases h
    exact settled_list (settled_of_toItems hItems)
  | .object members, h => by
    obtain ⟨inner, _, h⟩ := except_bind_eq_ok.mp h
    obtain ⟨values, hMembers, h⟩ := except_bind_eq_ok.mp h
    cases h
    exact settled_ofMembers (settled_of_toMembers hMembers)

theorem settled_of_toItems {source : Source} {values : List Json} :
    ∀ {items : Items}, toItems source items = .ok values → ∀ j ∈ values, j.Settled
  | .nil, h => by
    cases h
    exact List.forall_mem_nil _
  | .broken _, h => by cases h
  | .cons head tail, h => by
    obtain ⟨j, hHead, h⟩ := except_bind_eq_ok.mp h
    obtain ⟨rest, hTail, h⟩ := except_bind_eq_ok.mp h
    cases h
    exact List.forall_mem_cons.mpr ⟨settled_of_toJson hHead, settled_of_toItems hTail⟩

theorem settled_of_toMembers {source : Source} {values : List (String × Json)} :
    ∀ {members : Members}, toMembers source members = .ok values → ∀ m ∈ values, m.2.Settled
  | .nil, h => by
    cases h
    exact List.forall_mem_nil _
  | .broken _, h | .nameless _, h | .cons none _ _, h => by cases h
  | .cons (some name) value tail, h => by
    obtain ⟨j, hValue, h⟩ := except_bind_eq_ok.mp h
    obtain ⟨rest, hTail, h⟩ := except_bind_eq_ok.mp h
    cases h
    exact List.forall_mem_cons.mpr ⟨settled_of_toJson hValue, settled_of_toMembers hTail⟩

end

end Document

/-! ## Codecs -/

/-- Whatever is read is read back from what it is written as, and nothing but null is written as
null. -/
class Codec.Stable {α : Type} (c : Codec α) : Prop where
  restores {source : Source} {d : Document} {a : α} (h : c.decode source d = .ok a) : c.Restores a
  isNull_encode {source : Source} {d : Document} {a : α} (h : c.decode source d = .ok a)
    (hNull : d ≠ .null) : (c.encode a).isNull = false

namespace Codec

variable {α : Type} {c : Codec α} {standard : α}

instance [c.Faithful] [c.RefusesNull] : c.Stable where
  restores _ := inferInstance
  isNull_encode _ _ := Restores.isNull_encode inferInstance

theorem Stable.restores_empty [c.Stable] {a : α}
    (h : c.decode .settled (.object .nil) = .ok a) : c.Restores a :=
  restores h

theorem restores_json {j : Json} (h : j.Settled) : json.Restores j where
  holds := h.holds
  decode_encode := by
    change (Document.ofJson j).toJson .settled = .ok j
    rw [Document.toJson_ofJson h.holds, h.sorted]

instance : json.Restores .null := restores_json ⟨.null, rfl⟩

instance : json.Stable where
  restores h := restores_json (Document.settled_of_toJson h)
  isNull_encode {source d j} h hNull := by
    change d.toJson source = .ok j at h
    cases d with
    | null => exact absurd rfl hNull
    | number n =>
      cases n <;> cases h
      rfl
    | text s =>
      cases s <;> cases h
      rfl
    | list | object =>
      obtain ⟨_, _, h⟩ := except_bind_eq_ok.mp h
      obtain ⟨_, _, h⟩ := except_bind_eq_ok.mp h
      cases h
      rfl
    | bool =>
      cases h
      rfl
    | broken => cases h

theorem restores_table {members : List (String × Json)} (h : (Json.object members).Settled) :
    table.Restores members :=
  ⟨h.holds, (table_eq_ok h.holds).mpr h.sorted⟩

instance : table.Restores [] :=
  restores_table ⟨.object Source.enter_settled .nil (List.forall_mem_nil _), rfl⟩

instance : table.Stable where
  restores {source d a} h := by
    cases d with
    | object members =>
      obtain ⟨inner, _, h⟩ := except_bind_eq_ok.mp h
      obtain ⟨entries, hEntries, h⟩ := except_bind_eq_ok.mp h
      cases h
      rw [decodeEntries_json] at hEntries
      exact restores_table (settled_ofMembers (Document.settled_of_toMembers hEntries))
    | _ => cases h
  isNull_encode _ _ := rfl

theorem restores_of_decodeItems [c.Stable] {source : Source} {values : List α} :
    ∀ {items : Items}, c.decodeItems source items = .ok values → ∀ a ∈ values, c.Restores a
  | .nil, h => by
    cases h
    exact List.forall_mem_nil _
  | .broken _, h => by cases h
  | .cons head tail, h => by
    obtain ⟨a, rest, hHead, hTail, rfl⟩ := decodeItems_cons_eq_ok.mp h
    exact List.forall_mem_cons.mpr ⟨Stable.restores hHead, restores_of_decodeItems hTail⟩

instance [c.Stable] : c.list.Stable where
  restores {source d values} h := by
    cases d with
    | list items =>
      obtain ⟨inner, _, hItems⟩ := except_bind_eq_ok.mp h
      exact .list (restores_of_decodeItems hItems)
    | _ => cases h
  isNull_encode _ _ := rfl

theorem optional_eq_ok {source : Source} {d : Document} {a : Option α} (hNull : d ≠ .null)
    (h : c.optional.decode source d = .ok a) : ∃ b, c.decode source d = .ok b ∧ some b = a := by
  refine except_map_eq_ok.mp ?_
  cases d with
  | null => exact absurd rfl hNull
  | _ => exact h

theorem orElse_eq_ok {source : Source} {d : Document} {a : α} (hNull : d ≠ .null)
    (h : (c.orElse standard).decode source d = .ok a) : c.decode source d = .ok a := by
  cases d with
  | null => exact absurd rfl hNull
  | _ => exact h

instance [c.Stable] : c.optional.Stable where
  restores {source d a} h := by
    -- a value written as null would come back as none
    by_cases hNull : d = .null
    · subst hNull
      cases h
      infer_instance
    · obtain ⟨b, hRead, rfl⟩ := optional_eq_ok hNull h
      exact (Stable.restores hRead).some (Stable.isNull_encode hRead hNull)
  isNull_encode h hNull := by
    obtain ⟨b, hRead, rfl⟩ := optional_eq_ok hNull h
    exact Stable.isNull_encode (c := c) hRead hNull

instance [h : c.Restores standard] : (c.orElse standard).Restores standard := by
  -- it may be written as null, which stands for it
  rcases hNull : (c.encode standard).isNull with _ | _
  · exact h.orElse hNull
  · refine ⟨h.holds, ?_⟩
    change (c.orElse standard).decode .settled (.ofJson (c.encode standard)) = _
    rw [eq_null_of_isNull hNull]
    rfl

instance [c.Stable] [c.Restores standard] : (c.orElse standard).Stable where
  restores {source d a} h := by
    by_cases hNull : d = .null
    · subst hNull
      cases h
      infer_instance
    · have hRead := orElse_eq_ok hNull h
      exact (Stable.restores hRead).orElse (Stable.isNull_encode hRead hNull)
  isNull_encode h hNull :=
    Stable.isNull_encode (c := c) (orElse_eq_ok (c := c) hNull h) hNull

end Codec

/-! ## Records -/

/-- A field that is read back with whatever it was read with, or stands for if it is missing. -/
class Field.Stable {ρ α : Type} (f : Field ρ α) : Prop where
  restores {source : Source} {d : Document} {a : α} (h : f.codec.decode source d = .ok a) :
    f.Restores a
  restores_of_missing {a : α} (h : f.absent = some a ∨ f.cut = some a) : f.Restores a

namespace Field

variable {ρ α : Type} {f : Field ρ α} {name : String} {c : Codec α} {value : α} {omits : α → Bool}

instance {get : ρ → α} [c.Stable] : (required name c get).Stable where
  restores h := ⟨Codec.Stable.restores (c := c) h, nofun⟩
  restores_of_missing := by
    rintro a (h | h) <;> cases h

instance {get : ρ → α} [c.Stable] [hValue : c.Restores value] :
    (standard name c value get).Stable where
  restores h := ⟨Codec.Stable.restores (c := c) h, nofun⟩
  restores_of_missing := by
    rintro a (h | h) <;> cases h <;> exact ⟨hValue, nofun⟩

instance {get : ρ → α} [c.Stable] [c.Restores value] : (lenient name c value get).Stable :=
  inferInstanceAs (standard name (c.orElse value) value get).Stable

instance {get : ρ → Option α} [c.Stable] : (optional name c get).Stable :=
  inferInstanceAs (standard name c.optional none get).Stable

instance {get : ρ → Option α} [c.Stable] : (nullable name c get).Stable where
  restores h := ⟨Codec.Stable.restores (c := c.optional) h, nofun⟩
  restores_of_missing := by
    rintro a (h | h) <;> cases h
    exact ⟨inferInstanceAs (c.optional.Restores none), nofun⟩

theorem Stable.omitting [f.Stable] (h : ∀ a, omits a = true → f.absent = some a) :
    (f.omitting omits).Stable where
  restores hRead := ⟨(Stable.restores (f := f) hRead).codec, h _⟩
  restores_of_missing hMissing := ⟨(Stable.restores_of_missing (f := f) hMissing).codec, h _⟩

instance {get : ρ → String} : (words name get).Stable :=
  inferInstanceAs (lenient name .text "" get).Stable

instance {get : ρ → String} : (label name get).Stable :=
  .omitting fun _ h => congrArg some (String.isEmpty_iff.mp h).symm

instance {get : ρ → Option α} [c.Stable] : (given name c get).Stable :=
  .omitting fun _ h => congrArg some (Option.isNone_iff_eq_none.mp h).symm

instance {get : ρ → List α} [c.Stable] : (items name c get).Stable :=
  inferInstanceAs (lenient name c.list [] get).Stable

instance {get : ρ → List α} [c.Stable] : (filled name c get).Stable :=
  .omitting fun _ h => congrArg some (List.isEmpty_iff.mp h).symm

end Field

/-- Values found so far that the fields are read back with. -/
def Fields.RestoresFound {ρ α σ : Type} : Fields ρ α σ → σ → Prop
  | .nil, _ => True
  | .cons f rest, (found, others) =>
    (∀ a, found = some a → f.Restores a) ∧ rest.RestoresFound others

/-- Fields that are read back with whatever they were read with. -/
class Fields.Stable {ρ α σ : Type} (fields : Fields ρ α σ) : Prop where
  empty : fields.RestoresFound fields.empty
  take {source : Source} {name : String} {d : Document} {found next : σ}
    (hFound : fields.RestoresFound found)
    (h : fields.take source name d found = some (.ok next)) : fields.RestoresFound next
  complete {found : σ} {values : α} (hFound : fields.RestoresFound found)
    (h : fields.complete found = .ok values) : fields.Restores values
  takeItems {title : String} {size done : Nat} {source : Source} {items left : Items} {values : α}
    (h : fields.takeItems title size source done items = .ok (values, left)) :
    fields.Restores values

namespace Fields

variable {ρ α β σ : Type} {source : Source}

instance : (nil : Fields ρ Unit Unit).Stable where
  empty := trivial
  take _ _ := trivial
  complete _ _ := trivial
  takeItems _ := trivial

instance {f : Field ρ α} {rest : Fields ρ β σ} [f.Stable] [rest.Stable] :
    (cons f rest).Stable where
  empty := ⟨nofun, Stable.empty⟩
  take {source name d found next} hFound h := by
    obtain ⟨found, others⟩ := found
    obtain ⟨hHead, hOthers⟩ := hFound
    by_cases hName : name = f.name
    · subst hName
      rcases found with _ | b
      · rw [take_cons_self] at h
        obtain ⟨a, hRead, rfl⟩ := except_map_eq_ok.mp (Option.some.inj h)
        refine ⟨fun b hEq => ?_, hOthers⟩
        cases hEq
        exact Field.Stable.restores hRead
      · rw [take_cons_found] at h
        cases h
    · rw [take_cons_of_ne hName] at h
      obtain ⟨taken, hTake, hMap⟩ := Option.map_eq_some_iff.mp h
      obtain ⟨others', rfl, rfl⟩ := except_map_eq_ok.mp hMap
      exact ⟨hHead, Stable.take hOthers hTake⟩
  complete {found values} hFound h := by
    obtain ⟨found, others⟩ := found
    obtain ⟨hHead, hOthers⟩ := hFound
    rw [complete_cons] at h
    rcases hValue : found.or f.absent with _ | a <;> rw [hValue] at h
    · cases h
    · obtain ⟨values, hRest, rfl⟩ := except_map_eq_ok.mp h
      refine ⟨?_, Stable.complete hOthers hRest⟩
      rcases found with _ | b
      · exact Field.Stable.restores_of_missing (.inl hValue)
      · exact hHead a hValue
  takeItems {title size done source items left values} h := by
    cases items with
    | nil =>
      rw [Fields.takeItems] at h
      rcases hCut : f.cut with _ | a <;> rw [hCut] at h
      · cases h
      · obtain ⟨⟨others, left⟩, hRest, h⟩ := except_bind_eq_ok.mp h
        cases h
        exact ⟨Field.Stable.restores_of_missing (.inr hCut), Stable.takeItems hRest⟩
    | broken b => cases h
    | cons head tail =>
      obtain ⟨a, hRead, h⟩ := except_bind_eq_ok.mp h
      obtain ⟨⟨others, left⟩, hRest, h⟩ := except_bind_eq_ok.mp h
      cases h
      exact ⟨Field.Stable.restores hRead, Stable.takeItems hRest⟩

theorem restoresFound_of_takeMembers {fields : Fields ρ α σ} [fields.Stable] {members : Members}
    {found found' : σ} (hFound : fields.RestoresFound found)
    (h : fields.takeMembers source members found = .ok found') : fields.RestoresFound found' := by
  induction members using Members.inductTail generalizing found with
  | nil =>
    cases h
    exact hFound
  | broken | nameless => cases h
  | cons name value tail ih =>
    rcases name with _ | name
    · cases h
    · rcases takeMembers_cons_eq_ok h with ⟨next, hTake, hTail⟩ | ⟨_, _, hTail⟩
      · exact ih (Stable.take hFound hTake) hTail
      · exact ih hFound hTail

end Fields

namespace Codec

variable {ρ α σ : Type} {title : String} {fields : Fields ρ α σ} {build : α → ρ}

/-- Records are read back if the values of their fields are, however they were read: by names or by
places. -/
theorem Stable.ofRecord (stable : fields.Stable) (hNames : fields.names.Nodup)
    (hValues : ∀ values, fields.values (build values) = values) :
    (record title fields build).Stable where
  restores {source d r} h := by
    have hBuilt {values : α} (hRestores : fields.Restores values) :
        (record title fields build).Restores (build values) :=
      .ofRecord ((hValues values).symm ▸ hRestores) hNames (congrArg build (hValues values))
    cases d with
    | object members =>
      obtain ⟨inner, _, h⟩ := except_bind_eq_ok.mp h
      obtain ⟨found, hFound, h⟩ := except_bind_eq_ok.mp h
      obtain ⟨values, hComplete, h⟩ := except_bind_eq_ok.mp h
      cases h
      exact hBuilt (Fields.Stable.complete
        (Fields.restoresFound_of_takeMembers Fields.Stable.empty hFound) hComplete)
    | list items =>
      obtain ⟨inner, _, h⟩ := except_bind_eq_ok.mp h
      obtain ⟨⟨values, left⟩, hItems, h⟩ := except_bind_eq_ok.mp h
      obtain ⟨_, _, h⟩ := except_bind_eq_ok.mp h
      cases h
      exact hBuilt (Fields.Stable.takeItems hItems)
    | _ => cases h
  isNull_encode _ _ := rfl

end Codec

end EdgeApi
