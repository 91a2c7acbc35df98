import EdgeApi.Proofs.Record.Shaped
import EdgeApi.Proofs.Time.Rendering

/-!
# Faithful codecs

A codec is faithful if every value is read back from what it is written as. A record is read back
if the values of its fields are, and if each value that is left out is the one that stands for
nothing.
-/

set_option autoImplicit false

namespace EdgeApi

open Json

/-- A value that is read back as it was. -/
class Codec.Restores {α : Type} (c : Codec α) (a : α) : Prop where
  holds : Source.settled.Holds (c.encode a)
  decode_encode : c.decode .settled (.ofJson (c.encode a)) = .ok a

/-- Values are read back as they were. -/
class Codec.Faithful {α : Type} (c : Codec α) : Prop where
  holds (a : α) : Source.settled.Holds (c.encode a)
  decode_encode (a : α) : c.decode .settled (.ofJson (c.encode a)) = .ok a

namespace Codec

variable {α : Type}

instance : text.Faithful where
  holds s := .text s
  decode_encode _ := rfl

instance : bool.Faithful where
  holds b := .bool b
  decode_encode _ := rfl

instance : timestamp.Faithful where
  holds t := .text t.render
  decode_encode t := by
    have hDocument : Document.ofJson (timestamp.encode t) = .text (some t.render) := rfl
    rw [hDocument]
    simp only [timestamp, t.parse_render]

/-- Numbers of a range are read back if the range takes in what they are written as. -/
theorem Faithful.ofWhole {name : String} {ofInt? : Int → Option α} {encode : α → Json}
    {toInt : α → Int}
    (hRange : ∀ a, -0x8000000000000000 ≤ toInt a ∧ toInt a < 0x10000000000000000)
    (hEncode : ∀ a, encode a = .number (.whole (toInt a) (hRange a)))
    (hInt : ∀ a, ofInt? (toInt a) = some a) : (whole name ofInt? encode).Faithful where
  holds a := by
    change Source.settled.Holds (encode a)
    rw [hEncode]
    exact .number _
  decode_encode a := by
    have hDocument : Document.ofJson ((whole name ofInt? encode).encode a) =
        .number (some (.whole (toInt a) (hRange a))) :=
      congrArg Document.ofJson (hEncode a)
    rw [hDocument]
    simp only [whole, hInt]

instance : uint16.Faithful :=
  .ofWhole (fun n => ⟨by omega, by have := n.toNat_lt; omega⟩) (fun _ => rfl) fun n => by
    have hLt := n.toNat_lt
    rw [if_pos (by omega), Int.toNat_natCast, UInt16.ofNat_toNat]

instance : uint32.Faithful :=
  .ofWhole (fun n => ⟨by omega, by have := n.toNat_lt; omega⟩) (fun _ => rfl) fun n => by
    have hLt := n.toNat_lt
    rw [if_pos (by omega), Int.toNat_natCast, UInt32.ofNat_toNat]

instance : uint64.Faithful :=
  .ofWhole (fun n => ⟨by omega, by have := n.toNat_lt; omega⟩) (fun _ => rfl) fun n => by
    have hLt := n.toNat_lt
    rw [if_pos (by omega), Int.toNat_natCast, UInt64.ofNat_toNat]

instance : int32.Faithful :=
  .ofWhole (fun n => ⟨by have := n.le_toInt; omega, by have := n.toInt_lt; omega⟩) (fun _ => rfl)
    fun n => by
      have hLe := n.le_toInt
      have hLt := n.toInt_lt
      rw [if_pos (by omega), Int32.ofInt_toInt]

instance : int64.Faithful :=
  .ofWhole (fun n => ⟨by have := n.le_toInt; omega, by have := n.toInt_lt; omega⟩) (fun _ => rfl)
    fun n => by
      have hLe := n.le_toInt
      have hLt := n.toInt_lt
      rw [if_pos (by omega), Int64.ofInt_toInt]

instance : real.Faithful where
  holds x := .number (.real x)
  decode_encode _ := rfl

instance : ignored.Faithful where
  holds _ := .null
  decode_encode _ := rfl

theorem Faithful.ofVariant {variants : List (String × α)} {nameOf : α → String}
    (h : ∀ a, variants.lookup (nameOf a) = some a) : (variant variants nameOf).Faithful where
  holds a := .text (nameOf a)
  decode_encode a := by
    have hDocument : Document.ofJson ((variant variants nameOf).encode a) =
        .text (some (nameOf a)) := rfl
    rw [hDocument]
    simp only [variant, h]

instance : bool.RefusesNull := ⟨nofun⟩

instance : real.RefusesNull := ⟨nofun⟩

instance : timestamp.RefusesNull := ⟨nofun⟩

instance : uint16.RefusesNull := inferInstanceAs (whole _ _ _).RefusesNull

instance : uint64.RefusesNull := inferInstanceAs (whole _ _ _).RefusesNull

instance : int32.RefusesNull := inferInstanceAs (whole _ _ _).RefusesNull

section Nested

variable {c : Codec α} {standard a : α}

theorem Faithful.ofRestores (h : ∀ a, c.Restores a) : c.Faithful where
  holds a := (h a).holds
  decode_encode a := (h a).decode_encode

theorem Restores.isNull_encode [c.RefusesNull] (h : c.Restores a) :
    (c.encode a).isNull = false := by
  rcases hNull : (c.encode a).isNull with _ | _
  · rfl
  · have hDecode := h.decode_encode
    rw [eq_null_of_isNull hNull] at hDecode
    exact absurd hDecode RefusesNull.decode_null

theorem Restores.some (h : c.Restores a) (hNull : (c.encode a).isNull = false) :
    c.optional.Restores (some a) where
  holds := h.holds
  decode_encode := by
    change c.optional.decode .settled (.ofJson (c.encode a)) = _
    rw [optional_of_ne_null hNull, h.decode_encode]
    rfl

theorem Restores.orElse (h : c.Restores a) (hNull : (c.encode a).isNull = false) :
    (c.orElse standard).Restores a where
  holds := h.holds
  decode_encode := (orElse_of_ne_null hNull).trans h.decode_encode

theorem Restores.list {items : List α} (h : ∀ a ∈ items, c.Restores a) :
    c.list.Restores items where
  holds := .list Source.enter_settled fun j hMem => by
    obtain ⟨a, hItem, rfl⟩ := List.mem_map.mp hMem
    exact (h a hItem).holds
  decode_encode := by
    refine list_eq_ok.mpr ⟨.settled, rfl, ?_⟩
    induction items with
    | nil => rfl
    | cons a items ih =>
      obtain ⟨hHead, hTail⟩ := List.forall_mem_cons.mp h
      exact decodeItems_cons_eq_ok.mpr ⟨a, items, hHead.decode_encode, ih hTail, rfl⟩

instance : c.optional.Restores none := ⟨.null, rfl⟩

instance : c.list.Restores [] := .list (List.forall_mem_nil _)

variable [c.Faithful]

instance : c.Restores a := ⟨Faithful.holds a, Faithful.decode_encode a⟩

theorem decodeJson_encode (a : α) : c.decodeJson (c.encode a) = .ok a :=
  Faithful.decode_encode a

instance [c.RefusesNull] : c.optional.Faithful :=
  .ofRestores fun
    | none => inferInstance
    | some a => Restores.some (a := a) inferInstance (Restores.isNull_encode inferInstance)

instance [c.RefusesNull] : (c.orElse standard).Faithful :=
  .ofRestores fun a => Restores.orElse (a := a) inferInstance (Restores.isNull_encode inferInstance)

instance : c.list.Faithful :=
  .ofRestores fun _ => .list fun _ _ => inferInstance

end Nested

end Codec

/-- A value that a field is read back with, whether it is written or left out. -/
structure Field.Restores {ρ α : Type} (f : Field ρ α) (a : α) : Prop where
  codec : f.codec.Restores a
  absent_of_omits : f.omits a = true → f.absent = some a

/-- A field that is read back, whether it is written or left out. -/
class Field.Faithful {ρ α : Type} (f : Field ρ α) : Prop where
  codec : f.codec.Faithful
  absent_of_omits {a : α} (h : f.omits a = true) : f.absent = some a

namespace Field

variable {ρ α : Type} {name : String} {c : Codec α} [c.Faithful]

instance {get : ρ → α} : (required name c get).Faithful where
  codec := inferInstanceAs c.Faithful
  absent_of_omits := nofun

instance {get : ρ → String} : (label name get).Faithful where
  codec := inferInstanceAs (Codec.text.orElse "").Faithful
  absent_of_omits h := congrArg some (String.isEmpty_iff.mp h).symm

instance {get : ρ → Option α} [c.RefusesNull] : (given name c get).Faithful where
  codec := inferInstanceAs c.optional.Faithful
  absent_of_omits h := congrArg some (Option.isNone_iff_eq_none.mp h).symm

instance {get : ρ → List α} : (filled name c get).Faithful where
  codec := inferInstanceAs (c.list.orElse []).Faithful
  absent_of_omits h := congrArg some (List.isEmpty_iff.mp h).symm

end Field

namespace Fields

variable {ρ α β σ : Type}

/-- The values of the fields of a record. -/
def values {α σ : Type} : Fields ρ α σ → ρ → α
  | .nil, _ => ()
  | .cons f rest, r => (f.get r, rest.values r)

variable {f : Field ρ α} {rest : Fields ρ β σ} {fields : Fields ρ α σ} {r : ρ}

theorem members_cons_of_omits (h : f.omits (f.get r) = true) :
    (cons f rest).members r = rest.members r :=
  if_pos h

theorem members_cons_of_not_omits (h : f.omits (f.get r) = false) :
    (cons f rest).members r = (f.name, f.codec.encode (f.get r)) :: rest.members r :=
  if_neg (Bool.eq_false_iff.mp h)

theorem map_fst_members_sublist (fields : Fields ρ α σ) (r : ρ) :
    ((fields.members r).map Prod.fst).Sublist fields.names := by
  induction fields with
  | nil => exact .slnil
  | cons f rest ih =>
    rcases hOmits : f.omits (f.get r) with _ | _
    · rw [members_cons_of_not_omits hOmits]
      exact ih.cons_cons f.name
    · rw [members_cons_of_omits hOmits]
      exact ih.cons f.name

/-- Values that the fields are read back with. -/
def Restores {α σ : Type} : Fields ρ α σ → α → Prop
  | .nil, _ => True
  | .cons f rest, (a, others) => f.Restores a ∧ rest.Restores others

namespace Restores

theorem holds (h : fields.Restores (fields.values r)) :
    ∀ m ∈ fields.members r, Source.settled.Holds m.2 := by
  induction fields with
  | nil => exact List.forall_mem_nil _
  | cons f rest ih =>
    obtain ⟨hHead, hRest⟩ := h
    rcases hOmits : f.omits (f.get r) with _ | _
    · rw [members_cons_of_not_omits hOmits]
      exact List.forall_mem_cons.mpr ⟨hHead.codec.holds, ih hRest⟩
    · rw [members_cons_of_omits hOmits]
      exact ih hRest

theorem reads (h : fields.Restores (fields.values r)) {find : String → Option Json}
    (hNames : fields.names.Nodup)
    (hFind : ∀ name ∈ fields.names, find name = (fields.members r).lookup name) :
    fields.Reads .settled find (fields.values r) := by
  induction fields with
  | nil => trivial
  | cons f rest ih =>
    obtain ⟨hValue, hValues⟩ := h
    obtain ⟨hFresh, hNames⟩ := List.nodup_cons.mp hNames
    obtain ⟨hHead, hRest⟩ := List.forall_mem_cons.mp hFind
    rcases hOmits : f.omits (f.get r) with _ | _
    · rw [members_cons_of_not_omits hOmits] at hHead hRest
      refine ⟨?_, ih hValues hNames fun name hMem => ?_⟩
      · rw [hHead, lookup_cons_self]
        exact hValue.codec.decode_encode
      · rw [hRest name hMem, lookup_cons_of_ne (ne_of_mem_of_not_mem hMem hFresh)]
    · rw [members_cons_of_omits hOmits] at hHead hRest
      refine ⟨?_, ih hValues hNames hRest⟩
      have hAbsent : f.name ∉ (rest.members r).map Prod.fst := fun hMem =>
        hFresh ((rest.map_fst_members_sublist r).subset hMem)
      rw [hHead, lookup_eq_none hAbsent]
      exact hValue.absent_of_omits hOmits

end Restores

end Fields

/-- Fields that are all read back. -/
class Fields.Faithful {ρ α σ : Type} (fields : Fields ρ α σ) : Prop where
  restores (values : α) : fields.Restores values

namespace Fields

variable {ρ α β σ : Type}

theorem holds_members (fields : Fields ρ α σ) [fields.Faithful] (r : ρ) :
    ∀ m ∈ fields.members r, Source.settled.Holds m.2 :=
  (Faithful.restores (fields.values r)).holds

theorem Faithful.reads {fields : Fields ρ α σ} [fields.Faithful] (r : ρ)
    {find : String → Option Json} (hNames : fields.names.Nodup)
    (hFind : ∀ name ∈ fields.names, find name = (fields.members r).lookup name) :
    fields.Reads .settled find (fields.values r) :=
  (Faithful.restores (fields.values r)).reads hNames hFind

instance : (nil : Fields ρ Unit Unit).Faithful := ⟨fun _ => trivial⟩

instance {f : Field ρ α} {rest : Fields ρ β σ} [f.Faithful] [rest.Faithful] :
    (cons f rest).Faithful where
  restores
    | (_, others) =>
      have := Field.Faithful.codec (f := f)
      ⟨⟨inferInstance, Field.Faithful.absent_of_omits⟩, Faithful.restores others⟩

end Fields

namespace Codec

variable {ρ α σ : Type} {title : String} {fields : Fields ρ α σ} {build : α → ρ} {r : ρ}

/-- A record is read back from the members of its fields, whatever stands beside them. -/
theorem decode_record_of_lookup {members : List (String × Json)}
    (h : fields.Restores (fields.values r)) (hNames : fields.names.Nodup)
    (hBuild : build (fields.values r) = r) (hHeld : Source.settled.Holds (.object members))
    (hFind : ∀ name ∈ fields.names, members.lookup name = (fields.members r).lookup name) :
    (record title fields build).decodeJson (.object members) = .ok r :=
  (record_object_eq_ok hNames hHeld).mpr
    ⟨.settled, fields.values r, rfl, h.reads hNames hFind, hBuild⟩

theorem Restores.ofRecord (h : fields.Restores (fields.values r)) (hNames : fields.names.Nodup)
    (hBuild : build (fields.values r) = r) : (record title fields build).Restores r := by
  have hHeld : Source.settled.Holds (.object (fields.members r)) :=
    .object Source.enter_settled (hNames.sublist (fields.map_fst_members_sublist r)) h.holds
  exact ⟨hHeld, decode_record_of_lookup h hNames hBuild hHeld fun _ _ => rfl⟩

theorem Faithful.ofRecord [fields.Faithful] (hNames : fields.names.Nodup)
    (hBuild : ∀ r, build (fields.values r) = r) : (record title fields build).Faithful :=
  .ofRestores fun r => .ofRecord (Fields.Faithful.restores _) hNames (hBuild r)

end Codec

end EdgeApi
