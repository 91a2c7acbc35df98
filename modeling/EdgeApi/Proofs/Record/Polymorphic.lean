import EdgeApi.Access.Scim
import EdgeApi.Lists.Item
import EdgeApi.Proofs.Record.Shaped

/-!
# Records of several kinds

A list item is told apart by the first of the kinds that has a value, an authentication by its
scheme. Either is read from what stands under the names that it knows.
-/

set_option autoImplicit false

namespace EdgeApi

open Json

namespace Lists

instance : Kind.codec.Shaped :=
  inferInstanceAs (Codec.variant _ _).Shaped

instance : Kind.codec.RefusesNull :=
  inferInstanceAs (Codec.variant _ _).RefusesNull

instance : Redirect.codec.Shaped :=
  .ofRecord (by delta Redirect.fields; infer_instance) (by decide)

instance : Hostname.codec.Shaped :=
  .ofRecord (by delta Hostname.fields; infer_instance) (by decide)

instance : ItemDetails.fields.Shaped := by
  delta ItemDetails.fields
  infer_instance

instance : ItemDetails.codec.Shaped :=
  .ofRecord inferInstance (by decide)

namespace Kind

/-- What is looked at in the values of a kind. -/
def shape : Kind → Shape
  | .ip => .leaf
  | .redirect => Redirect.codec.shape
  | .hostname => Hostname.codec.shape
  | .asn => .leaf

theorem mem_all (k : Kind) : k ∈ all := by
  cases k <;> decide

theorem name_not_mem_details (k : Kind) : k.name ∉ ItemDetails.fields.names := by
  cases k <;> decide

end Kind

namespace Value

theorem kind_of_ofJson {kind : Kind} {j : Json} {v : Value} (h : ofJson kind j = .ok v) :
    v.kind = kind := by
  cases kind <;> obtain ⟨_, _, rfl⟩ := except_map_eq_ok.mp h <;> rfl

theorem ofJson_like {kind : Kind} {j j' : Json} {v : Value} (hLike : Like kind.shape j j')
    (hHeld : Source.settled.Holds j) (hHeld' : Source.settled.Holds j') :
    ofJson kind j = .ok v ↔ ofJson kind j' = .ok v := by
  cases kind <;> exact Codec.map_decodeJson_like hLike hHeld hHeld'

end Value

namespace Item

/-- The members that an item is read from: those of the kinds, and its details. -/
def known : List (String × Shape) :=
  Kind.all.map (fun k => (k.name, k.shape)) ++ ItemDetails.fields.known

/-- The item for what stands under each name. -/
structure Reads (find : String → Option Json) (i : Item) : Prop where
  kind : (Kind.all.find? fun k => (present (find k.name)).isSome) = some i.value.kind
  value : ∃ j, present (find i.value.kind.name) = some j ∧
    Value.ofJson i.value.kind j = .ok i.value
  details : ItemDetails.fields.Reads .settled find
    (i.details.id, i.details.comment, i.details.createdOn, i.details.modifiedOn, ())

theorem kindOf?_eq_find? (members : List (String × Json)) :
    kindOf? members = Kind.all.find? fun k => (present (members.lookup k.name)).isSome := by
  simp only [kindOf?, isSome_present]

/-- The details are read from what is not the value. -/
theorem decodeJson_details_eq_ok {members : List (String × Json)} {d : ItemDetails} (kind : Kind)
    (hHeld : Source.settled.Holds (.object members)) :
    ItemDetails.codec.decodeJson (.object (members.filter fun m => m.1 != kind.name)) = .ok d ↔
      ItemDetails.fields.Reads .settled (List.lookup · members)
        (d.id, d.comment, d.createdOn, d.modifiedOn, ()) := by
  cases hHeld with
  | object enter distinct held =>
    cases enter
    have hOthers : Source.settled.Holds (.object (members.filter fun m => m.1 != kind.name)) :=
      .object Source.enter_settled (distinct.sublist (List.filter_sublist.map _))
        fun m hMem => held m (List.mem_filter.mp hMem).1
    have hReads (values : String × String × Option Timestamp × Option Timestamp × Unit) :
        ItemDetails.fields.Reads .settled
            (List.lookup · (members.filter fun m => m.1 != kind.name)) values ↔
          ItemDetails.fields.Reads .settled (List.lookup · members) values :=
      Fields.reads_congr fun name hMem =>
        lookup_filter (· != kind.name)
          (bne_iff_ne.mpr (ne_of_mem_of_not_mem hMem kind.name_not_mem_details))
    refine (Codec.record_object_eq_ok (by decide) hOthers).trans ⟨?_, fun h => ?_⟩
    · rintro ⟨inner, values, hEnter, hValues, rfl⟩
      cases hEnter
      exact (hReads values).mp hValues
    · exact ⟨.settled, _, rfl, (hReads _).mpr h, rfl⟩

theorem ofJson_object_eq_ok {members : List (String × Json)} {i : Item}
    (hHeld : Source.settled.Holds (.object members)) :
    ofJson (.object members) = .ok i ↔ Reads (List.lookup · members) i := by
  rw [ofJson]
  constructor
  · intro h
    rcases hFind : kindOf? members with _ | kind <;> rw [hFind] at h
    · cases h
    · obtain ⟨v, hValue, h⟩ := except_bind_eq_ok.mp h
      obtain ⟨d, hDetails, h⟩ := except_bind_eq_ok.mp h
      cases h
      cases Value.kind_of_ofJson hValue
      rw [kindOf?_eq_find?] at hFind
      obtain ⟨j, hPresent⟩ :=
        Option.isSome_iff_exists.mp (List.find?_eq_some_iff_append.mp hFind).1
      rw [eq_some_of_present hPresent] at hValue
      exact ⟨hFind, ⟨j, hPresent, hValue⟩, (decodeJson_details_eq_ok _ hHeld).mp hDetails⟩
  · rintro ⟨hFind, ⟨j, hPresent, hValue⟩, hDetails⟩
    rw [kindOf?_eq_find?, hFind]
    refine except_bind_eq_ok.mpr ⟨i.value, ?_, except_bind_eq_ok.mpr
      ⟨i.details, (decodeJson_details_eq_ok _ hHeld).mpr hDetails, rfl⟩⟩
    rw [eq_some_of_present hPresent]
    exact hValue

theorem reads_like {find find' : String → Option Json} {i : Item}
    (hLike : ∀ name s, (name, s) ∈ known → LikeFound s (find name) (find' name))
    (hHeld : ∀ name j, find name = some j → Source.settled.Holds j)
    (hHeld' : ∀ name j, find' name = some j → Source.settled.Holds j) :
    Reads find i ↔ Reads find' i := by
  have hKind (k : Kind) : LikeFound k.shape (find k.name) (find' k.name) :=
    hLike k.name k.shape (List.mem_append_left _ (List.mem_map_of_mem k.mem_all))
  have hFind : (Kind.all.find? fun k => (present (find k.name)).isSome) =
      Kind.all.find? fun k => (present (find' k.name)).isSome :=
    congrArg (Kind.all.find? ·) (funext fun k => (hKind k).isSome_present)
  have hValue : (∃ j, present (find i.value.kind.name) = some j ∧
        Value.ofJson i.value.kind j = .ok i.value) ↔
      ∃ j, present (find' i.value.kind.name) = some j ∧
        Value.ofJson i.value.kind j = .ok i.value := by
    rcases hKind i.value.kind with ⟨hNone, hNone'⟩ | ⟨j, j', hSome, hSome', hLike⟩
    · rw [hNone, hNone']
    · simp only [hSome, hSome', Option.some.injEq, exists_eq_left']
      exact Value.ofJson_like hLike (hHeld _ j (eq_some_of_present hSome))
        (hHeld' _ j' (eq_some_of_present hSome'))
  have hDetails : ItemDetails.fields.Reads .settled find
        (i.details.id, i.details.comment, i.details.createdOn, i.details.modifiedOn, ()) ↔
      ItemDetails.fields.Reads .settled find'
        (i.details.id, i.details.comment, i.details.createdOn, i.details.modifiedOn, ()) :=
    Fields.Shaped.reads_like (fun name s hMem => hLike name s (List.mem_append_right _ hMem))
      hHeld hHeld'
  exact ⟨fun h => ⟨hFind ▸ h.kind, hValue.mp h.value, hDetails.mp h.details⟩,
    fun h => ⟨hFind ▸ h.kind, hValue.mpr h.value, hDetails.mpr h.details⟩⟩

theorem nodup_known : (known.map Prod.fst).Nodup := by
  rw [known, List.map_append, ItemDetails.fields.map_fst_known]
  decide

theorem ofJson_like {j j' : Json} {i : Item} (hLike : Like (.record known) j j')
    (hHeld : Source.settled.Holds j) (hHeld' : Source.settled.Holds j') :
    ofJson j = .ok i ↔ ofJson j' = .ok i := by
  rcases hLike.record_cases with
    rfl | ⟨items, items', rfl, rfl⟩ | ⟨members, members', rfl, rfl⟩
  · exact Iff.rfl
  · exact ⟨nofun, nofun⟩
  · rw [ofJson_object_eq_ok hHeld, ofJson_object_eq_ok hHeld']
    exact reads_like (fun name s hMem => hLike.found (lookup_of_mem nodup_known hMem))
      (fun _ _ => hHeld.of_lookup) fun _ _ => hHeld'.of_lookup

instance : codec.Shaped :=
  .ofViaJson ofJson_like

end Item

end Lists

namespace Access

instance : HttpBasic.fields.Shaped := by
  delta HttpBasic.fields
  infer_instance

instance : HttpBasic.codec.Shaped :=
  .ofRecord inferInstance (by decide)

instance : BearerToken.fields.Shaped := by
  delta BearerToken.fields
  infer_instance

instance : BearerToken.codec.Shaped :=
  .ofRecord inferInstance (by decide)

instance : OAuth2.fields.Shaped := by
  delta OAuth2.fields
  infer_instance

instance : OAuth2.codec.Shaped :=
  .ofRecord inferInstance (by decide)

namespace ScimAuthentication

/-- The members known of each scheme. -/
def variants : List (String × List (String × Shape)) :=
  [("httpbasic", HttpBasic.fields.known), ("oauthbearertoken", BearerToken.fields.known),
    ("oauth2", OAuth2.fields.known)]

theorem ofJson_object_eq_ok {members : List (String × Json)} {a : ScimAuthentication} :
    ofJson (.object members) = .ok a ↔
      ∃ scheme, members.lookup "scheme" = some (.text scheme) ∧
        ofScheme scheme (.object members) = .ok a := by
  rw [ofJson]
  rcases members.lookup "scheme" with _ | j
  · exact ⟨nofun, nofun⟩
  · cases j with
    | text scheme =>
      refine ⟨fun h => ⟨scheme, rfl, h⟩, ?_⟩
      rintro ⟨_, hEq, h⟩
      cases hEq
      exact h
    | _ => exact ⟨nofun, nofun⟩

/-- The fields of a scheme are read alike from members that are alike for that scheme. -/
theorem ofScheme_like {scheme : String} {members members' : List (String × Json)}
    {a : ScimAuthentication}
    (hLike : Like (.record (("scheme", .leaf) :: (variants.lookup scheme).getD []))
      (.object members) (.object members'))
    (hHeld : Source.settled.Holds (.object members))
    (hHeld' : Source.settled.Holds (.object members')) :
    ofScheme scheme (.object members) = .ok a ↔ ofScheme scheme (.object members') = .ok a := by
  rw [ofScheme, ofScheme]
  split
  · subst scheme
    exact Codec.map_decodeJson_like (hLike.tail (by decide)) hHeld hHeld'
  · split
    · subst scheme
      exact Codec.map_decodeJson_like (hLike.tail (by decide)) hHeld hHeld'
    · split
      · subst scheme
        exact Codec.map_decodeJson_like (hLike.tail (by decide)) hHeld hHeld'
      · exact Iff.rfl

theorem ofJson_like {j j' : Json} {a : ScimAuthentication}
    (hLike : Like (.tagged "scheme" variants) j j') (hHeld : Source.settled.Holds j)
    (hHeld' : Source.settled.Holds j') : ofJson j = .ok a ↔ ofJson j' = .ok a := by
  cases hLike with
  | refl => exact Iff.rfl
  | noObject => exact ⟨nofun, nofun⟩
  | @tagged _ _ members members' variant like =>
    rw [ofJson_object_eq_ok, ofJson_object_eq_ok]
    refine exists_congr fun scheme => ?_
    rw [← (like.found lookup_cons_self).eq_text_iff]
    refine and_congr_right fun hScheme => ofScheme_like ?_ hHeld hHeld'
    rw [Shape.variantOf, hScheme] at like
    exact like

instance : codec.Shaped :=
  .ofViaJson ofJson_like

end ScimAuthentication

end Access

end EdgeApi
