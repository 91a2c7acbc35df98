import EdgeApi.Proofs.Record.Faithful
import EdgeApi.Proofs.Record.Polymorphic

/-!
# Round trips of items and authentications

What a list item or an authentication is written as is read back as the same. The two are written
by hand around the fields of records, so that it is to be shown that what stands beside the fields
keeps out of their way.
-/

set_option autoImplicit false

namespace EdgeApi

open Json

theorem Codec.encode_uint32 (n : UInt32) : uint32.encode n = .ofUInt32 n :=
  rfl

namespace Lists

instance : Redirect.fields.Faithful := by
  delta Redirect.fields
  infer_instance

instance : Redirect.codec.Faithful :=
  .ofRecord (by decide) fun _ => rfl

instance : Hostname.fields.Faithful := by
  delta Hostname.fields
  infer_instance

instance : Hostname.codec.Faithful :=
  .ofRecord (by decide) fun _ => rfl

instance : ItemDetails.fields.Faithful := by
  delta ItemDetails.fields
  infer_instance

namespace Kind

def isName (key : String) : Bool :=
  all.any fun k => k.name == key

/-- The keys of an object that are names of kinds. -/
def keys : Json → List String
  | .object members => (members.map Prod.fst).filter isName
  | _ => []

theorem name_injective {k k' : Kind} (h : k.name = k'.name) : k = k' := by
  cases k <;> cases k' <;> first | rfl | exact absurd h (by decide)

theorem isName_name (k : Kind) : isName k.name = true :=
  List.any_eq_true.mpr ⟨k, k.mem_all, beq_self_eq_true _⟩

theorem not_isName_of_mem_details {key : String} (h : key ∈ ItemDetails.fields.names) :
    ¬isName key = true := fun hName => by
  obtain ⟨k, _, hEq⟩ := List.any_eq_true.mp hName
  exact k.name_not_mem_details (beq_iff_eq.mp hEq ▸ h)

end Kind

namespace Value

theorem key_eq_name (v : Value) : v.key = v.kind.name := by
  cases v <;> rfl

theorem isNull_toJson (v : Value) : v.toJson.isNull = false := by
  cases v <;> rfl

theorem holds_toJson (v : Value) : Source.settled.Holds v.toJson := by
  cases v with
  | ip s => exact .text s
  | redirect r => exact Codec.Faithful.holds (c := Redirect.codec) r
  | hostname h => exact Codec.Faithful.holds (c := Hostname.codec) h
  | asn n => exact .number _

theorem ofJson_toJson (v : Value) : ofJson v.kind v.toJson = .ok v := by
  cases v with
  | ip s => rfl
  | redirect r =>
    rw [kind, toJson, ofJson, Codec.decodeJson_encode]
    rfl
  | hostname h =>
    rw [kind, toJson, ofJson, Codec.decodeJson_encode]
    rfl
  | asn n =>
    rw [kind, toJson, ofJson, ← Codec.encode_uint32, Codec.decodeJson_encode]
    rfl

/-- A value among details is alone in standing under the name of a kind. -/
theorem keys_of_perm (v : Value) {members details : List (String × Json)}
    (hPerm : members.Perm (v.member :: details))
    (hDetails : details.map Prod.fst ⊆ ItemDetails.fields.names) :
    Kind.keys (.object members) = [v.kind.name] := by
  have hNone : (details.map Prod.fst).filter Kind.isName = [] :=
    List.filter_eq_nil_iff.mpr fun _ hMem => Kind.not_isName_of_mem_details (hDetails hMem)
  refine List.perm_singleton.mp (((hPerm.map Prod.fst).filter _).trans (.of_eq ?_))
  rw [List.map_cons, member, key_eq_name, List.filter_cons_of_pos v.kind.isName_name, hNone]

end Value

namespace Item

/-- The value stands among the details. -/
theorem perm_members (i : Item) :
    i.members.Perm (i.value.member :: ItemDetails.fields.members i.details) := by
  rw [members, List.partition_eq_filter_filter]
  exact List.perm_middle.trans (.cons _ (List.filter_append_perm _ _))

theorem nodup_members (i : Item) : (i.members.map Prod.fst).Nodup := by
  rw [(i.perm_members.map Prod.fst).nodup_iff, List.map_cons, Value.member, Value.key_eq_name,
    List.nodup_cons]
  have hSublist := ItemDetails.fields.map_fst_members_sublist i.details
  exact ⟨fun hMem => i.value.kind.name_not_mem_details (hSublist.subset hMem),
    hSublist.nodup (by decide)⟩

theorem holds_encode (i : Item) : Source.settled.Holds (codec.encode i) := by
  refine .object Source.enter_settled i.nodup_members fun m hMem => ?_
  rcases List.mem_cons.mp (i.perm_members.subset hMem) with rfl | hMem
  · exact i.value.holds_toJson
  · exact ItemDetails.fields.holds_members i.details m hMem

theorem lookup_members (i : Item) (name : String) :
    i.members.lookup name =
      (i.value.member :: ItemDetails.fields.members i.details).lookup name :=
  lookup_of_perm i.nodup_members i.perm_members

theorem lookup_kind (i : Item) (k : Kind) :
    i.members.lookup k.name = if k = i.value.kind then some i.value.toJson else none := by
  rw [lookup_members, Value.member, Value.key_eq_name]
  split
  · subst k
    exact lookup_cons_self
  · rename_i hNe
    have hAbsent : k.name ∉ (ItemDetails.fields.members i.details).map Prod.fst := fun hMem =>
      k.name_not_mem_details ((ItemDetails.fields.map_fst_members_sublist i.details).subset hMem)
    rw [lookup_cons_of_ne fun hEq => hNe (Kind.name_injective hEq), lookup_eq_none hAbsent]

theorem reads_members (i : Item) : Reads (List.lookup · i.members) i where
  kind := by
    have hPresent (k : Kind) :
        (present (i.members.lookup k.name)).isSome = decide (k = i.value.kind) := by
      rw [lookup_kind]
      split
      · rw [present_some i.value.isNull_toJson, decide_eq_true ‹_›]
        rfl
      · rw [decide_eq_false ‹_›]
        rfl
    simp only [hPresent]
    cases i.value.kind <;> rfl
  value := by
    refine ⟨i.value.toJson, ?_, i.value.ofJson_toJson⟩
    rw [lookup_kind, if_pos rfl, present_some i.value.isNull_toJson]
  details := by
    refine Fields.Faithful.reads i.details (by decide) fun name hMem => ?_
    rw [lookup_members, Value.member, Value.key_eq_name]
    exact lookup_cons_of_ne (ne_of_mem_of_not_mem hMem i.value.kind.name_not_mem_details)

theorem decode_encode (i : Item) : codec.decodeJson (codec.encode i) = .ok i :=
  (Codec.viaJson_eq_ok ofJson_like i.holds_encode).mpr
    ((ofJson_object_eq_ok i.holds_encode).mpr i.reads_members)

theorem keys_encode (i : Item) : Kind.keys (codec.encode i) = [i.value.kind.name] :=
  i.value.keys_of_perm i.perm_members
    (ItemDetails.fields.map_fst_members_sublist i.details).subset

end Item

theorem NewItem.keys_toJson (i : NewItem) : Kind.keys i.toJson = [i.value.kind.name] := by
  refine i.value.keys_of_perm (.refl _) ?_
  split
  · exact List.nil_subset _
  · have hComment : "comment" ∈ ItemDetails.fields.names := by decide
    exact List.cons_subset.mpr ⟨hComment, List.nil_subset _⟩

end Lists

namespace Access

instance : HttpBasic.fields.Faithful := by
  delta HttpBasic.fields
  infer_instance

instance : BearerToken.fields.Faithful := by
  delta BearerToken.fields
  infer_instance

instance : OAuth2.fields.Faithful := by
  delta OAuth2.fields
  infer_instance

namespace ScimAuthentication

theorem tag_eq_scheme (a : ScimAuthentication) : a.tag = a.scheme := by
  cases a <;> rfl

theorem lookup_tag (a : ScimAuthentication) :
    (("scheme", Json.text a.tag) :: a.members).lookup "scheme" = some (.text a.tag) :=
  lookup_cons_self

theorem member?_encode (a : ScimAuthentication) :
    (codec.encode a).member? "scheme" = some (.text a.scheme) := by
  rw [← a.tag_eq_scheme]
  exact a.lookup_tag

/-- The scheme stands beside the fields of a record that has none of that name. -/
theorem holds_scheme_cons {ρ α σ : Type} {fields : Fields ρ α σ} [fields.Faithful] {r : ρ}
    {scheme : String} (hNames : ("scheme" :: fields.names).Nodup) :
    Source.settled.Holds (.object (("scheme", .text scheme) :: fields.members r)) := by
  refine .object Source.enter_settled
    (hNames.sublist ((fields.map_fst_members_sublist r).cons_cons _)) fun m hMem => ?_
  rcases List.mem_cons.mp hMem with rfl | hMem
  · exact .text scheme
  · exact fields.holds_members r m hMem

theorem holds_encode (a : ScimAuthentication) : Source.settled.Holds (codec.encode a) := by
  cases a <;> exact holds_scheme_cons (by decide)

theorem decodeJson_scheme_cons {ρ α σ : Type} {title : String} {fields : Fields ρ α σ}
    [fields.Faithful] {build : α → ρ} {r : ρ} {scheme : String}
    (hNames : ("scheme" :: fields.names).Nodup) (hBuild : build (fields.values r) = r) :
    (Codec.record title fields build).decodeJson
      (.object (("scheme", .text scheme) :: fields.members r)) = .ok r := by
  obtain ⟨hFresh, hDistinct⟩ := List.nodup_cons.mp hNames
  exact Codec.decode_record_of_lookup (Fields.Faithful.restores _) hDistinct hBuild
    (holds_scheme_cons hNames) fun name hMem =>
      lookup_cons_of_ne (ne_of_mem_of_not_mem hMem hFresh)

theorem ofScheme_httpBasic (j : Json) :
    ofScheme "httpbasic" j = (HttpBasic.codec.decodeJson j).map .httpBasic :=
  if_pos rfl

theorem ofScheme_bearerToken (j : Json) :
    ofScheme "oauthbearertoken" j = (BearerToken.codec.decodeJson j).map .bearerToken :=
  (if_neg (by decide)).trans (if_pos rfl)

theorem ofScheme_oauth2 (j : Json) :
    ofScheme "oauth2" j = (OAuth2.codec.decodeJson j).map .oauth2 :=
  (if_neg (by decide)).trans ((if_neg (by decide)).trans (if_pos rfl))

theorem ofScheme_members (a : ScimAuthentication) :
    ofScheme a.tag (.object (("scheme", .text a.tag) :: a.members)) = .ok a := by
  cases a with
  | httpBasic r =>
    have hRead : HttpBasic.codec.decodeJson
        (.object (("scheme", .text "httpbasic") :: HttpBasic.fields.members r)) = .ok r :=
      decodeJson_scheme_cons (by decide) rfl
    rw [tag, ofScheme_httpBasic, members, hRead]
    rfl
  | bearerToken r =>
    have hRead : BearerToken.codec.decodeJson
        (.object (("scheme", .text "oauthbearertoken") :: BearerToken.fields.members r)) = .ok r :=
      decodeJson_scheme_cons (by decide) rfl
    rw [tag, ofScheme_bearerToken, members, hRead]
    rfl
  | oauth2 r =>
    have hRead : OAuth2.codec.decodeJson
        (.object (("scheme", .text "oauth2") :: OAuth2.fields.members r)) = .ok r :=
      decodeJson_scheme_cons (by decide) rfl
    rw [tag, ofScheme_oauth2, members, hRead]
    rfl

theorem decode_encode (a : ScimAuthentication) : codec.decodeJson (codec.encode a) = .ok a :=
  (Codec.viaJson_eq_ok ofJson_like a.holds_encode).mpr
    (ofJson_object_eq_ok.mpr ⟨a.tag, a.lookup_tag, a.ofScheme_members⟩)

end ScimAuthentication

end Access

open EdgeApi.Lists Access

/-- An item or an authentication is read back from what it is written as, also if its members are
sorted by name. An item to be added or already there has one value, under the name of its kind, and
an authentication tells its scheme. -/
theorem polymorphic_round_trip :
    (∀ i : Item,
      Item.codec.decodeJson (Item.codec.encode i) = .ok i ∧
      Item.codec.decodeJson (Item.codec.encode i).sorted = .ok i ∧
      Kind.keys (Item.codec.encode i) = [i.value.kind.name]) ∧
    (∀ i : NewItem, Kind.keys i.toJson = [i.value.kind.name]) ∧
    ∀ a : ScimAuthentication,
      ScimAuthentication.codec.decodeJson (ScimAuthentication.codec.encode a) = .ok a ∧
      ScimAuthentication.codec.decodeJson (ScimAuthentication.codec.encode a).sorted = .ok a ∧
      (ScimAuthentication.codec.encode a).member? "scheme" = some (.text a.scheme) := by
  refine ⟨fun i => ⟨i.decode_encode, ?_, i.keys_encode⟩, NewItem.keys_toJson,
    fun a => ⟨a.decode_encode, ?_, a.member?_encode⟩⟩
  · exact (Codec.decode_sorted i.holds_encode).mpr i.decode_encode
  · exact (Codec.decode_sorted a.holds_encode).mpr a.decode_encode

end EdgeApi
