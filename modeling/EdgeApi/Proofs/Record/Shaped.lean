import EdgeApi.Proofs.Record.Pruning
import EdgeApi.Record.Timestamp

/-!
# Codecs of a shape

Every codec is built from others, and its shape from theirs. Values that look alike at that shape
are read alike; in particular pruning a value and sorting its members leave what is read unchanged.
-/

set_option autoImplicit false

namespace EdgeApi

open Json

/-- A codec that looks at its values as far as a shape goes. -/
class Codec.Shaped {α : Type} (c : Codec α) where
  shape : Shape
  decode_like {source : Source} {j j' : Json} {a : α} (hLike : Like shape j j')
    (hHeld : source.Holds j) (hHeld' : source.Holds j') :
    c.decode source (.ofJson j) = .ok a ↔ c.decode source (.ofJson j') = .ok a

namespace Codec

variable {α : Type}

def shape (c : Codec α) [c.Shaped] : Shape :=
  Shaped.shape c

section Laws

variable {c : Codec α} [c.Shaped] {source : Source} {j : Json} {a : α}

theorem decode_prune (h : source.Holds j) :
    c.decode source (.ofJson (j.prune c.shape)) = .ok a ↔ c.decode source (.ofJson j) = .ok a :=
  Shaped.decode_like (like_prune h) h.prune h

theorem decode_sorted (h : source.Holds j) :
    c.decode source (.ofJson j.sorted) = .ok a ↔ c.decode source (.ofJson j) = .ok a :=
  Shaped.decode_like (like_sorted h) h.sorted h

theorem map_decodeJson_like {β : Type} {f : α → β} {j' : Json} {b : β} (hLike : Like c.shape j j')
    (hHeld : Source.settled.Holds j) (hHeld' : Source.settled.Holds j') :
    (c.decodeJson j).map f = .ok b ↔ (c.decodeJson j').map f = .ok b := by
  rw [except_map_eq_ok, except_map_eq_ok]
  exact exists_congr fun _ => and_congr_left fun _ => Shaped.decode_like hLike hHeld hHeld'

end Laws

section Leaf

variable {c : Codec α}

/-- A codec that depends on nothing but the sorted form looks at the value as it is. -/
abbrev Shaped.leaf
    (h : ∀ {source j j' a}, j.sorted = j'.sorted → source.Holds j → source.Holds j' →
      c.decode source (.ofJson j) = .ok a → c.decode source (.ofJson j') = .ok a) : c.Shaped where
  shape := .leaf
  decode_like hLike hHeld hHeld' := by
    cases hLike with
    | refl => exact Iff.rfl
    | leaf hSorted => exact ⟨h hSorted hHeld hHeld', h hSorted.symm hHeld' hHeld⟩

/-- A codec of values that hold no others. -/
abbrev Shaped.scalar (hList : ∀ source items a, c.decode source (.list items) ≠ .ok a)
    (hObject : ∀ source members a, c.decode source (.object members) ≠ .ok a) : c.Shaped :=
  .leaf fun {source j j' a} hSorted _ _ h => by
    cases j with
    | list => exact absurd h (hList _ _ _)
    | object => exact absurd h (hObject _ _ _)
    | _ =>
      cases j' <;> cases hSorted
      exact h

instance : bool.Shaped :=
  .scalar (fun _ _ _ => nofun) fun _ _ _ => nofun

instance : text.Shaped :=
  .scalar (fun _ _ _ => nofun) fun _ _ _ => nofun

instance : real.Shaped :=
  .scalar (fun _ _ _ => nofun) fun _ _ _ => nofun

instance : timestamp.Shaped :=
  .scalar (fun _ _ _ => nofun) fun _ _ _ => nofun

instance {name : String} {ofInt? : Int → Option α} {encode : α → Json} :
    (whole name ofInt? encode).Shaped :=
  .scalar (fun _ _ _ => nofun) fun _ _ _ => nofun

instance : uint16.Shaped :=
  inferInstanceAs (whole _ _ _).Shaped

instance : uint32.Shaped :=
  inferInstanceAs (whole _ _ _).Shaped

instance : uint64.Shaped :=
  inferInstanceAs (whole _ _ _).Shaped

instance : int32.Shaped :=
  inferInstanceAs (whole _ _ _).Shaped

instance : int64.Shaped :=
  inferInstanceAs (whole _ _ _).Shaped

instance : json.Shaped :=
  .leaf fun hSorted hHeld hHeld' h => by
    change (Document.ofJson _).toJson _ = .ok _ at h
    change (Document.ofJson _).toJson _ = .ok _
    rw [Document.toJson_ofJson hHeld] at h
    rw [Document.toJson_ofJson hHeld', ← hSorted, h]

instance : ignored.Shaped :=
  .leaf fun _ _ hHeld' _ => Document.skip_ofJson hHeld'

theorem decodeEntries_json (source : Source) (members : Members) :
    decodeEntries json source members = Document.toMembers source members := by
  induction members using Members.inductTail with
  | nil | broken | nameless => rfl
  | cons name value tail ih =>
    rcases name with _ | name
    · rfl
    · rw [decodeEntries, Document.toMembers, ih]
      rfl

theorem table_eq_ok {source : Source} {j : Json} {members : List (String × Json)}
    (h : source.Holds j) :
    table.decode source (.ofJson j) = .ok members ↔ j.sorted = .object members := by
  cases h with
  | null | bool | number | text | list => exact ⟨nofun, nofun⟩
  | @object _ inner members' enter _ held =>
    change (source.enter >>= fun inner =>
      decodeEntries json inner (Document.ofMembers members') >>= _) = _ ↔ _
    rw [enter]
    change decodeEntries json inner (Document.ofMembers members') >>= _ = _ ↔ _
    rw [decodeEntries_json,
      Document.toMembers_ofMembers fun m hMem => Document.toJson_ofJson (held m hMem)]
    exact ⟨fun h => congrArg Json.object (Except.ok.inj h),
      fun h => congrArg Except.ok (Json.object.inj h)⟩

instance : table.Shaped :=
  .leaf fun hSorted hHeld hHeld' h =>
    (table_eq_ok hHeld').mpr (hSorted ▸ (table_eq_ok hHeld).mp h)

variable {variants : List (String × α)} {nameOf : α → String}

theorem unit_eq_ok (source : Source) {j : Json} :
    unit.decode source (.ofJson j) = .ok () ↔ j = .null := by
  cases j with
  | null => exact ⟨fun _ => rfl, fun _ => rfl⟩
  | _ => exact ⟨nofun, nofun⟩

/-- A name on its own with null for a value. -/
theorem variant_single_eq_ok {source : Source} {name : String} {j : Json} {a : α} {fault : Fault} :
    ((match variants.lookup name with
      | some a => Except.ok a
      | none => .error fault) >>= fun a => unit.decode source (.ofJson j) >>= fun _ => pure a) =
        .ok a ↔
      variants.lookup name = some a ∧ j = .null := by
  rw [← unit_eq_ok source]
  rcases variants.lookup name with _ | b
  · exact ⟨nofun, nofun⟩
  · change (unit.decode source (.ofJson j) >>= fun _ => pure b) = .ok a ↔ _
    rcases unit.decode source (.ofJson j) with fault | _
    · exact ⟨nofun, nofun⟩
    · exact ⟨fun h => ⟨congrArg some (Except.ok.inj h), rfl⟩,
        fun h => congrArg Except.ok (Option.some.inj h.1)⟩

theorem variant_object_eq_ok {source : Source} {members : List (String × Json)} {a : α}
    (h : source.Holds (.object members)) :
    (variant variants nameOf).decode source (.ofJson (.object members)) = .ok a ↔
      ∃ name, members = [(name, .null)] ∧ variants.lookup name = some a := by
  have hSingle (name : String) (j : Json) : (∃ key, [(name, j)] = [(key, Json.null)] ∧
      variants.lookup key = some a) ↔ variants.lookup name = some a ∧ j = .null := by
    constructor
    · rintro ⟨key, hEq, hName⟩
      cases hEq
      exact ⟨hName, rfl⟩
    · rintro ⟨hName, rfl⟩
      exact ⟨name, rfl, hName⟩
  cases h with
  | object enter _ _ =>
    rcases source with (_ | room) | _ <;> cases enter <;>
      rcases members with _ | ⟨⟨name, j⟩, _ | ⟨m, members⟩⟩
    · exact ⟨nofun, nofun⟩
    · exact variant_single_eq_ok.trans (hSingle name j).symm
    · refine ⟨fun h => ?_, nofun⟩
      obtain ⟨_, _, h⟩ := except_bind_eq_ok.mp h
      obtain ⟨_, _, h⟩ := except_bind_eq_ok.mp h
      obtain ⟨_, _, h⟩ := except_bind_eq_ok.mp h
      cases h
    · exact ⟨nofun, nofun⟩
    · exact variant_single_eq_ok.trans (hSingle name j).symm
    · exact ⟨nofun, nofun⟩

theorem eq_of_sortedForm_eq_singleton {members : List (String × Json)} {name : String}
    (hDistinct : (members.map Prod.fst).Nodup) (h : sortedForm members = [(name, .null)]) :
    members = [(name, .null)] := by
  have hOnly {m : String × Json} (hMem : m ∈ members) : m = (name, .null) := by
    have hFound : (sortedForm members).lookup m.1 = some m.2.sorted := by
      rw [lookup_sortedForm hDistinct, lookup_of_mem hDistinct hMem]
      rfl
    rw [h] at hFound
    have hEq := List.mem_singleton.mp (mem_of_lookup hFound)
    obtain ⟨key, j⟩ := m
    cases j <;> cases hEq
    rfl
  rcases members with _ | ⟨m, _ | ⟨m', members⟩⟩
  · cases h
  · rw [hOnly List.mem_cons_self]
  · have hSame : m = m' :=
      (hOnly List.mem_cons_self).trans (hOnly (List.mem_cons_of_mem _ List.mem_cons_self)).symm
    exact absurd (hSame ▸ List.mem_cons_self) (List.nodup_cons.mp hDistinct).1

instance : (variant variants nameOf).Shaped :=
  .leaf fun {source j j' a} hSorted hHeld hHeld' h => by
    cases j with
    | object members =>
      obtain ⟨name, rfl, hName⟩ := (variant_object_eq_ok hHeld).mp h
      cases hHeld' with
      | @object _ _ members' enter distinct held =>
        refine (variant_object_eq_ok (.object enter distinct held)).mpr ⟨name, ?_, hName⟩
        exact eq_of_sortedForm_eq_singleton distinct (Json.object.inj hSorted).symm
      | _ => cases hSorted
    | list => cases source <;> cases h
    | _ =>
      cases j' <;> cases hSorted
      exact h

end Leaf

section Nested

variable {c : Codec α} {standard : α}

theorem optional_of_ne_null {source : Source} {j : Json} (h : j.isNull = false) :
    c.optional.decode source (.ofJson j) = (c.decode source (.ofJson j)).map some := by
  cases j with
  | null => cases h
  | _ => rfl

theorem orElse_of_ne_null {source : Source} {j : Json} (h : j.isNull = false) :
    (c.orElse standard).decode source (.ofJson j) = c.decode source (.ofJson j) := by
  cases j with
  | null => cases h
  | _ => rfl

theorem decodeItems_cons_eq_ok {source : Source} {head : Document} {tail : Items} {items : List α} :
    c.decodeItems source (.cons head tail) = .ok items ↔
      ∃ a rest, c.decode source head = .ok a ∧ c.decodeItems source tail = .ok rest ∧
        a :: rest = items := by
  constructor
  · intro h
    obtain ⟨a, hHead, h⟩ := except_bind_eq_ok.mp h
    obtain ⟨rest, hTail, hEq⟩ := except_bind_eq_ok.mp h
    exact ⟨a, rest, hHead, hTail, Except.ok.inj hEq⟩
  · rintro ⟨a, rest, hHead, hTail, rfl⟩
    exact except_bind_eq_ok.mpr ⟨a, hHead, except_bind_eq_ok.mpr ⟨rest, hTail, rfl⟩⟩

theorem list_eq_ok {source : Source} {items : List Json} {values : List α} :
    c.list.decode source (.ofJson (.list items)) = .ok values ↔
      ∃ inner, source.enter = .ok inner ∧
        c.decodeItems inner (Document.ofItems items) = .ok values :=
  except_bind_eq_ok

variable [c.Shaped]

theorem decodeItems_like {source : Source} {items items' : List Json} {values : List α}
    (hLike : Like (.list c.shape) (.list items) (.list items'))
    (hHeld : ∀ item ∈ items, source.Holds item) (hHeld' : ∀ item ∈ items', source.Holds item) :
    c.decodeItems source (Document.ofItems items) = .ok values ↔
      c.decodeItems source (Document.ofItems items') = .ok values := by
  induction items generalizing items' values with
  | nil =>
    cases hLike
    exact Iff.rfl
  | cons item items ih =>
    cases hLike with
    | refl => exact Iff.rfl
    | item head tail =>
      obtain ⟨hItem, hItems⟩ := List.forall_mem_cons.mp hHeld
      obtain ⟨hItem', hItems'⟩ := List.forall_mem_cons.mp hHeld'
      simp only [Document.ofItems, decodeItems_cons_eq_ok, ih tail hItems hItems',
        Shaped.decode_like head hItem hItem']

instance : c.list.Shaped where
  shape := .list c.shape
  decode_like {source j j' values} hLike hHeld hHeld' := by
    cases hLike with
    | refl => exact Iff.rfl
    | noList => exact ⟨nofun, nofun⟩
    | @item _ item item' items items' head tail =>
      cases hHeld with | list enter held =>
      cases hHeld' with | list enter' held' =>
      cases enter.symm.trans enter'
      simp only [list_eq_ok, enter, Except.ok.injEq, exists_eq_left']
      exact decodeItems_like (.item head tail) held held'

/-- Null is read on its own, and any other value as before. -/
theorem decode_like_of_null {β : Type} {d : Codec β} {f : α → β} {source : Source} {j j' : Json}
    {b : β} (hLike : Like c.shape j j') (hHeld : source.Holds j) (hHeld' : source.Holds j')
    (hDecode : ∀ {j : Json}, j.isNull = false →
      d.decode source (.ofJson j) = (c.decode source (.ofJson j)).map f) :
    d.decode source (.ofJson j) = .ok b ↔ d.decode source (.ofJson j') = .ok b := by
  rcases hNull : j.isNull with _ | _
  · rw [hDecode hNull, hDecode (hLike.isNull_eq ▸ hNull), except_map_eq_ok, except_map_eq_ok]
    simp only [Shaped.decode_like hLike hHeld hHeld']
  · have hNull' : j'.isNull = true := hLike.isNull_eq ▸ hNull
    rw [eq_null_of_isNull hNull, eq_null_of_isNull hNull']

instance : c.optional.Shaped where
  shape := c.shape
  decode_like hLike hHeld hHeld' := decode_like_of_null hLike hHeld hHeld' optional_of_ne_null

instance : (c.orElse standard).Shaped where
  shape := c.shape
  decode_like hLike hHeld hHeld' :=
    decode_like_of_null hLike hHeld hHeld' fun h =>
      (orElse_of_ne_null h).trans (congrFun Except.map_id _).symm

section ViaJson

variable {ofJson : Json → Except Fault α} {encode : α → Json} {shape : Shape}

/-- The order of the members does not matter to readers that take values alike. -/
theorem viaJson_eq_ok
    (h : ∀ {j j' a}, Like shape j j' → Source.settled.Holds j → Source.settled.Holds j' →
      (ofJson j = .ok a ↔ ofJson j' = .ok a))
    {source : Source} {j : Json} {a : α} (hHeld : source.Holds j) :
    (viaJson ofJson encode).decode source (.ofJson j) = .ok a ↔ ofJson j = .ok a := by
  change (Document.ofJson j).toJson source >>= ofJson = .ok a ↔ _
  rw [Document.toJson_ofJson hHeld]
  exact h (like_sorted hHeld) hHeld.sorted.toSettled hHeld.toSettled

abbrev Shaped.ofViaJson
    (h : ∀ {j j' a}, Like shape j j' → Source.settled.Holds j → Source.settled.Holds j' →
      (ofJson j = .ok a ↔ ofJson j' = .ok a)) : (viaJson ofJson encode).Shaped where
  shape := shape
  decode_like hLike hHeld hHeld' := by
    rw [viaJson_eq_ok h hHeld, viaJson_eq_ok h hHeld', h hLike hHeld.toSettled hHeld'.toSettled]

end ViaJson

end Nested

/-- Null is no value of the codec. -/
class RefusesNull {α : Type} (c : Codec α) : Prop where
  decode_null {source : Source} {a : α} : c.decode source .null ≠ .ok a

section RefusesNull

variable {α : Type}

instance : text.RefusesNull := ⟨nofun⟩

instance {name : String} {ofInt? : Int → Option α} {encode : α → Json} :
    (whole name ofInt? encode).RefusesNull := ⟨nofun⟩

instance : uint32.RefusesNull := inferInstanceAs (whole _ _ _).RefusesNull

instance : int64.RefusesNull := inferInstanceAs (whole _ _ _).RefusesNull

instance {c : Codec α} : c.list.RefusesNull := ⟨nofun⟩

instance {variants : List (String × α)} {nameOf : α → String} :
    (variant variants nameOf).RefusesNull := ⟨fun {source a} h => by cases source <;> cases h⟩

theorem RefusesNull.ofRecord {ρ α σ : Type} {title : String} {fields : Fields ρ α σ}
    {build : α → ρ} : (record title fields build).RefusesNull := ⟨nofun⟩

end RefusesNull

end Codec

/-- A field of a shape for which null stands for nothing. -/
class Field.Shaped {ρ α : Type} (f : Field ρ α) where
  codec : f.codec.Shaped
  decode_null {source : Source} {a : α} :
    f.codec.decode source .null = .ok a ↔ f.absent = some a

namespace Field

variable {ρ α : Type} {f : Field ρ α} {name : String} {c : Codec α} {get : ρ → α}

instance [c.Shaped] [c.RefusesNull] : (required name c get).Shaped where
  codec := inferInstanceAs c.Shaped
  decode_null := ⟨fun h => absurd h (Codec.RefusesNull.decode_null (c := c)), nofun⟩

instance {value : α} [c.Shaped] : (lenient name c value get).Shaped where
  codec := inferInstanceAs (c.orElse value).Shaped
  decode_null := ⟨fun h => congrArg some (Except.ok.inj h), fun h =>
    congrArg Except.ok (Option.some.inj h)⟩

instance {get : ρ → Option α} [c.Shaped] : (nullable name c get).Shaped where
  codec := inferInstanceAs c.optional.Shaped
  decode_null := ⟨fun h => congrArg some (Except.ok.inj h), fun h =>
    congrArg Except.ok (Option.some.inj h)⟩

instance {get : ρ → Option α} [c.Shaped] : (optional name c get).Shaped where
  codec := inferInstanceAs c.optional.Shaped
  decode_null := ⟨fun h => congrArg some (Except.ok.inj h), fun h =>
    congrArg Except.ok (Option.some.inj h)⟩

instance {omits : α → Bool} [f.Shaped] : (f.omitting omits).Shaped where
  codec := Shaped.codec (f := f)
  decode_null := Shaped.decode_null (f := f)

instance {get : ρ → String} : (words name get).Shaped :=
  inferInstanceAs (lenient name .text "" get).Shaped

instance {get : ρ → String} : (label name get).Shaped :=
  inferInstanceAs ((words name get).omitting _).Shaped

instance {get : ρ → Option α} [c.Shaped] : (given name c get).Shaped :=
  inferInstanceAs ((optional name c get).omitting _).Shaped

instance {get : ρ → List α} [c.Shaped] : (items name c get).Shaped :=
  inferInstanceAs (lenient name c.list [] get).Shaped

instance {get : ρ → List α} [c.Shaped] : (filled name c get).Shaped :=
  inferInstanceAs ((items name c get).omitting _).Shaped

def shape (f : Field ρ α) [f.Shaped] : Shape :=
  (Shaped.codec (f := f)).shape

variable [f.Shaped] {source : Source} {found found' : Option Json} {a : α}

theorem reads_present (found : Option Json) :
    f.Reads source (present found) a ↔ f.Reads source found a := by
  rcases found with _ | j
  · exact Iff.rfl
  · rcases hNull : j.isNull with _ | _
    · rw [present_some hNull]
    · rw [present_null hNull, eq_null_of_isNull hNull]
      exact Shaped.decode_null.symm

theorem reads_like (hLike : LikeFound f.shape found found')
    (hHeld : ∀ j, found = some j → source.Holds j)
    (hHeld' : ∀ j, found' = some j → source.Holds j) :
    f.Reads source found a ↔ f.Reads source found' a := by
  rw [← reads_present found, ← reads_present found']
  rcases hLike with ⟨hNone, hNone'⟩ | ⟨j, j', hSome, hSome', hLike⟩
  · rw [hNone, hNone']
  · rw [hSome, hSome']
    exact (Shaped.codec (f := f)).decode_like hLike (hHeld j (eq_some_of_present hSome))
      (hHeld' j' (eq_some_of_present hSome'))

end Field

class Fields.Shaped {ρ α σ : Type} (fields : Fields ρ α σ) where
  known : List (String × Shape)
  map_fst_known : known.map Prod.fst = fields.names
  reads_like {source : Source} {find find' : String → Option Json} {values : α}
    (hLike : ∀ name s, (name, s) ∈ known → LikeFound s (find name) (find' name))
    (hHeld : ∀ name j, find name = some j → source.Holds j)
    (hHeld' : ∀ name j, find' name = some j → source.Holds j) :
    fields.Reads source find values ↔ fields.Reads source find' values
  readsItems_like {source : Source} {items items' : List Json} {values : α}
    (hLike : Like (.record known) (.list items) (.list items'))
    (hHeld : ∀ item ∈ items, source.Holds item) (hHeld' : ∀ item ∈ items', source.Holds item) :
    fields.ReadsItems source items values ↔ fields.ReadsItems source items' values

namespace Fields

variable {ρ α β σ : Type}

/-- The members that fields are named after. -/
def known (fields : Fields ρ α σ) [fields.Shaped] : List (String × Shape) :=
  Shaped.known fields

theorem map_fst_known (fields : Fields ρ α σ) [fields.Shaped] :
    fields.known.map Prod.fst = fields.names :=
  Shaped.map_fst_known

instance : (nil : Fields ρ Unit Unit).Shaped where
  known := []
  map_fst_known := rfl
  reads_like _ _ _ := Iff.rfl
  readsItems_like hLike _ _ := by
    cases hLike with
    | refl => exact Iff.rfl
    | noPlace h => exact h

instance {f : Field ρ α} {rest : Fields ρ β σ} [f.Shaped] [rest.Shaped] : (cons f rest).Shaped where
  known := (f.name, f.shape) :: rest.known
  map_fst_known := congrArg (f.name :: ·) rest.map_fst_known
  reads_like {source find find' values} hLike hHeld hHeld' := by
    obtain ⟨a, values⟩ := values
    obtain ⟨hHead, hRest⟩ := List.forall_mem_cons.mp fun (m : String × Shape) hMem =>
      hLike m.1 m.2 hMem
    exact and_congr (Field.reads_like hHead (hHeld f.name) (hHeld' f.name))
      (Shaped.reads_like (fun name s hMem => hRest (name, s) hMem) hHeld hHeld')
  readsItems_like {source items items' values} hLike hHeld hHeld' := by
    obtain ⟨a, values⟩ := values
    cases hLike with
    | refl => exact Iff.rfl
    | place head tail =>
      obtain ⟨hItem, hItems⟩ := List.forall_mem_cons.mp hHeld
      obtain ⟨hItem', hItems'⟩ := List.forall_mem_cons.mp hHeld'
      exact and_congr ((Field.Shaped.codec (f := f)).decode_like head hItem hItem')
        (Shaped.readsItems_like tail hItems hItems')

end Fields

namespace Codec

variable {ρ α σ : Type} {title : String} {fields : Fields ρ α σ} {build : α → ρ}

/-- Records of fields with distinct names look at the members of these names. -/
abbrev Shaped.ofRecord (shaped : fields.Shaped) (hNames : fields.names.Nodup) :
    (record title fields build).Shaped where
  shape := .record fields.known
  decode_like {source j j' r} hLike hHeld hHeld' := by
    rcases hLike.record_cases with
      rfl | ⟨items, items', rfl, rfl⟩ | ⟨members, members', rfl, rfl⟩
    · exact Iff.rfl
    · cases hHeld with | list enter held =>
      cases hHeld' with | list enter' held' =>
      cases enter.symm.trans enter'
      simp only [record_list_eq_ok, enter, Except.ok.injEq, exists_and_left, exists_eq_left',
        Fields.Shaped.readsItems_like hLike held held']
    · rw [record_object_eq_ok hNames hHeld, record_object_eq_ok hNames hHeld']
      cases hHeld with | object enter distinct held =>
      cases hHeld' with | object enter' distinct' held' =>
      cases enter.symm.trans enter'
      have hKnown : (fields.known.map Prod.fst).Nodup :=
        fields.map_fst_known.symm ▸ hNames
      have hReads (values : α) : fields.Reads _ (List.lookup · members) values ↔
          fields.Reads _ (List.lookup · members') values := Fields.Shaped.reads_like
        (fun name s hMem => hLike.found (lookup_of_mem hKnown hMem))
        (fun name j hFound => held _ (mem_of_lookup hFound))
        (fun name j hFound => held' _ (mem_of_lookup hFound))
      simp only [enter, Except.ok.injEq, exists_and_left, exists_eq_left', hReads]

end Codec

end EdgeApi
