import EdgeApi.Proofs.Record.RoundTrip

/-!
# What records of several kinds are read from

A list item is read from an object by the first of the kinds that has a value; what stands under the
names of the other kinds makes no difference. An authentication is read from an object that names
one of the schemes.
-/

set_option autoImplicit false

namespace EdgeApi

open Json

/-! ## Members -/

/-- What a member is read as, with a standard value where it is null or missing. -/
def Codec.ReadsMember {α : Type} (c : Codec α) (standard : α) (found : Option Json) (a : α) : Prop :=
  present found = none ∧ a = standard ∨ ∃ j, present found = some j ∧ c.decodeJson j = .ok a

theorem Field.reads_iff_readsMember {ρ α : Type} {f : Field ρ α} [f.Shaped] {c : Codec α}
    {standard a : α} {found : Option Json} (hAbsent : f.absent = some standard)
    (hDecode : ∀ {j : Json}, j.isNull = false →
      f.codec.decode .settled (.ofJson j) = c.decodeJson j) :
    f.Reads .settled found a ↔ c.ReadsMember standard found a := by
  rw [← Field.reads_present, Codec.ReadsMember]
  rcases hFound : present found with _ | j
  · simp [Field.Reads, hAbsent, eq_comm]
  · have hNull : j.isNull = false := by
      have hKept := (Option.filter_eq_some_iff.mp hFound).2
      simpa using hKept
    simp [Field.Reads, hDecode hNull]

/-! ## Names that are not looked at -/

/-- Members in order are told by what stands under each name. -/
theorem Json.InOrder.eq_of_lookup {members others : List (String × Json)} (h : InOrder members)
    (hOthers : InOrder others) (hSame : ∀ name, members.lookup name = others.lookup name) :
    members = others := by
  have hMem (m : String × Json) : m ∈ members ↔ m ∈ others := by
    constructor
    · intro hMem
      have hFound := lookup_of_mem h.nodup hMem
      exact mem_of_lookup ((hSame m.1).symm.trans hFound)
    · intro hMem
      have hFound := lookup_of_mem hOthers.nodup hMem
      exact mem_of_lookup ((hSame m.1).trans hFound)
  have hNodup {members : List (String × Json)} (h : InOrder members) : members.Nodup := by
    refine (List.pairwise_map.mp h).imp ?_
    rintro m _ hLt rfl
    exact String.lt_irrefl _ hLt
  have hPerm : members.Perm others :=
    (List.perm_ext_iff_of_nodup (hNodup h) (hNodup hOthers)).mpr hMem
  apply hPerm.eq_of_pairwise _ (List.pairwise_map.mp h) (List.pairwise_map.mp hOthers)
  intro m n _ _ hLt hGt
  exact absurd hGt (String.lt_asymm hLt)

namespace Fields

variable {ρ α σ : Type} {fields : Fields ρ α σ} {members : List (String × Json)}

theorem takeMembers_filter (hHeld : ∀ m ∈ members, Source.settled.Holds m.2) (found : σ) :
    fields.takeMembers .settled (Document.ofMembers members) found =
      fields.takeMembers .settled
        (Document.ofMembers (members.filter fun m => m.1 ∈ fields.names)) found := by
  induction members generalizing found with
  | nil => rfl
  | cons m members ih =>
    obtain ⟨name, j⟩ := m
    obtain ⟨hMember, hHeld⟩ := List.forall_mem_cons.mp hHeld
    rw [Document.ofMembers, takeMembers]
    by_cases hName : name ∈ fields.names
    · obtain ⟨taken, hTake⟩ := exists_take .settled (.ofJson j) found hName
      rw [List.filter_cons_of_pos (by simpa using hName), Document.ofMembers, takeMembers, hTake]
      exact bind_congr fun next => ih hHeld next
    · rw [List.filter_cons_of_neg (by simpa using hName), take_eq_none hName]
      change (Document.skip _ >>= fun _ => _) = _
      rw [Document.skip_ofJson hMember]
      exact ih hHeld found

end Fields

theorem Codec.decodeJson_record_filter {ρ α σ : Type} {title : String} {fields : Fields ρ α σ}
    {build : α → ρ} {members : List (String × Json)}
    (hHeld : ∀ m ∈ members, Source.settled.Holds m.2) :
    (record title fields build).decodeJson (.object members) =
      (record title fields build).decodeJson
        (.object (members.filter fun m => m.1 ∈ fields.names)) := by
  change (fields.takeMembers .settled (Document.ofMembers members) fields.empty >>= _) =
    (fields.takeMembers .settled (Document.ofMembers _) fields.empty >>= _)
  rw [Fields.takeMembers_filter hHeld]

namespace Lists

/-- The kind is the first one, in the order in which they are looked for, whose member is not
null. -/
def Kind.IsFirst (kind : Kind) (members : List (String × Json)) : Prop :=
  ∃ earlier later, [Kind.ip, .redirect, .hostname, .asn] = earlier ++ kind :: later ∧
    (∀ k ∈ earlier, present (members.lookup k.name) = none) ∧
    (present (members.lookup kind.name)).isSome = true

theorem Kind.isFirst_iff {kind : Kind} {members : List (String × Json)} :
    kind.IsFirst members ↔
      (Kind.all.find? fun k => (present (members.lookup k.name)).isSome) = some kind := by
  rw [List.find?_eq_some_iff_append, Kind.IsFirst]
  constructor
  · rintro ⟨earlier, later, hAll, hEarlier, hSome⟩
    refine ⟨hSome, earlier, later, hAll, ?_⟩
    intro k hMem
    rw [hEarlier k hMem]
    rfl
  · rintro ⟨hSome, earlier, later, hAll, hEarlier⟩
    refine ⟨earlier, later, hAll, ?_, hSome⟩
    intro k hMem
    simpa using hEarlier k hMem

namespace Item

/-- The item that an object with these members stands for. -/
structure ReadFrom (members : List (String × Json)) (i : Item) : Prop where
  kind : i.value.kind.IsFirst members
  value : ∃ j, members.lookup i.value.kind.name = some j ∧
    Value.ofJson i.value.kind j = .ok i.value
  id : Codec.text.ReadsMember "" (members.lookup "id") i.details.id
  comment : Codec.text.ReadsMember "" (members.lookup "comment") i.details.comment
  createdOn : Codec.timestamp.optional.ReadsMember none (members.lookup "created_on")
    i.details.createdOn
  modifiedOn : Codec.timestamp.optional.ReadsMember none (members.lookup "modified_on")
    i.details.modifiedOn

theorem reads_details_iff {find : String → Option Json} {d : ItemDetails} :
    ItemDetails.fields.Reads .settled find (d.id, d.comment, d.createdOn, d.modifiedOn, ()) ↔
      Codec.text.ReadsMember "" (find "id") d.id ∧
      Codec.text.ReadsMember "" (find "comment") d.comment ∧
      Codec.timestamp.optional.ReadsMember none (find "created_on") d.createdOn ∧
      Codec.timestamp.optional.ReadsMember none (find "modified_on") d.modifiedOn := by
  have hLabel {name : String} {get : ItemDetails → String} {s : String} :
      (Field.label name get).Reads .settled (find name) s ↔
        Codec.text.ReadsMember "" (find name) s :=
    Field.reads_iff_readsMember rfl Codec.orElse_of_ne_null
  have hGiven {name : String} {get : ItemDetails → Option Timestamp} {t : Option Timestamp} :
      (Field.given name .timestamp get).Reads .settled (find name) t ↔
        Codec.timestamp.optional.ReadsMember none (find name) t :=
    Field.reads_iff_readsMember rfl fun _ => rfl
  exact and_congr hLabel (and_congr hLabel (and_congr hGiven
    ((and_iff_left trivial).trans hGiven)))

theorem readFrom_iff {members : List (String × Json)} {i : Item} :
    ReadFrom members i ↔ Reads (List.lookup · members) i := by
  constructor
  · intro h
    obtain ⟨j, hFound, hValue⟩ := h.value
    obtain ⟨_, _, _, _, hSome⟩ := h.kind
    obtain ⟨j', hPresent⟩ := Option.isSome_iff_exists.mp hSome
    cases hFound.symm.trans (eq_some_of_present hPresent)
    exact ⟨Kind.isFirst_iff.mp h.kind, ⟨j, hPresent, hValue⟩,
      reads_details_iff.mpr ⟨h.id, h.comment, h.createdOn, h.modifiedOn⟩⟩
  · intro h
    obtain ⟨j, hPresent, hValue⟩ := h.value
    obtain ⟨hId, hComment, hCreated, hModified⟩ := reads_details_iff.mp h.details
    exact ⟨Kind.isFirst_iff.mpr h.kind, ⟨j, eq_some_of_present hPresent, hValue⟩, hId, hComment,
      hCreated, hModified⟩

theorem decodeJson_eq_ok_iff {j : Json} {i : Item} (hHeld : Source.settled.Holds j) :
    codec.decodeJson j = .ok i ↔ ∃ members, j = .object members ∧ ReadFrom members i := by
  refine (Codec.viaJson_eq_ok ofJson_like hHeld).trans ?_
  cases j with
  | object members =>
    rw [ofJson_object_eq_ok hHeld, ← readFrom_iff]
    constructor
    · intro h
      exact ⟨members, rfl, h⟩
    · rintro ⟨_, hEq, h⟩
      cases hEq
      exact h
  | _ => exact ⟨nofun, nofun⟩

theorem ofJson_of_kindOf? {members : List (String × Json)} {kind : Kind}
    (hKind : kindOf? members = some kind) :
    ofJson (.object members) =
      (Value.ofJson kind ((members.lookup kind.name).getD .null) >>= fun value =>
        ItemDetails.codec.decodeJson (.object (members.filter fun m => m.1 != kind.name)) >>=
          fun details => .ok ⟨value, details⟩) := by
  rw [ofJson, hKind]
  rfl

theorem kindOf?_sortedForm {members : List (String × Json)} {kind : Kind}
    (hDistinct : (members.map Prod.fst).Nodup) (hFirst : kind.IsFirst members) :
    kindOf? (sortedForm members) = some kind := by
  rw [kindOf?_eq_find?, ← Kind.isFirst_iff.mp hFirst]
  congr 1
  funext k
  rw [lookup_sortedForm hDistinct, present_map isNull_sorted, Option.isSome_map]

def detailMembers (kind : Kind) (members : List (String × Json)) : List (String × Json) :=
  ((sortedForm members).filter fun m => m.1 != kind.name).filter fun m =>
    m.1 ∈ ItemDetails.fields.names

theorem inOrder_detailMembers (kind : Kind) (members : List (String × Json)) :
    InOrder (detailMembers kind members) :=
  (inOrder_sortedForm members).sublist
    ((List.filter_sublist.trans List.filter_sublist).map Prod.fst)

theorem lookup_detailMembers {kind : Kind} {members : List (String × Json)}
    (hDistinct : (members.map Prod.fst).Nodup) (name : String) :
    (detailMembers kind members).lookup name =
      if name ∈ ItemDetails.fields.names then (members.lookup name).map sorted else none := by
  split
  · rename_i hName
    have hKind : name ≠ kind.name := ne_of_mem_of_not_mem hName kind.name_not_mem_details
    rw [detailMembers,
      lookup_filter (fun key => key ∈ ItemDetails.fields.names) (by simpa using hName),
      lookup_filter (· != kind.name) (by simpa using hKind), lookup_sortedForm hDistinct]
  · rename_i hName
    apply lookup_eq_none
    intro hMem
    obtain ⟨m, hDetail, rfl⟩ := List.mem_map.mp hMem
    exact hName (by simpa using (List.mem_filter.mp hDetail).2)

theorem decodeJson_filter {members : List (String × Json)} (kind : Kind)
    (hHeld : Source.settled.Holds (.object (sortedForm members))) :
    ItemDetails.codec.decodeJson (.object ((sortedForm members).filter fun m => m.1 != kind.name)) =
      ItemDetails.codec.decodeJson (.object (detailMembers kind members)) := by
  cases hHeld with | object enter _ held =>
  cases enter
  exact Codec.decodeJson_record_filter fun m hMem => held m (List.mem_filter.mp hMem).1

theorem decodeJson_object {members : List (String × Json)} {kind : Kind}
    (hHeld : Source.settled.Holds (.object members)) (hFirst : kind.IsFirst members) :
    codec.decodeJson (.object members) =
      (Value.ofJson kind (((members.lookup kind.name).map sorted).getD .null) >>= fun value =>
        ItemDetails.codec.decodeJson (.object (detailMembers kind members)) >>=
          fun details => .ok ⟨value, details⟩) := by
  have hSorted : Source.settled.Holds (.object (sortedForm members)) := hHeld.sorted
  have hRead : codec.decodeJson (.object members) = ofJson (.object (sortedForm members)) := by
    change (Document.ofJson _).toJson _ >>= ofJson = _
    rw [Document.toJson_ofJson hHeld]
    rfl
  cases hHeld with | object _ distinct _ =>
  rw [hRead, ofJson_of_kindOf? (kindOf?_sortedForm distinct hFirst), lookup_sortedForm distinct,
    decodeJson_filter kind hSorted]

/-- Under the names of the other kinds there may stand anything that leaves the first kind the first
one. -/
theorem decodeJson_congr {members others : List (String × Json)} {kind : Kind}
    (hHeld : Source.settled.Holds (.object members))
    (hOthers : Source.settled.Holds (.object others))
    (hFirst : kind.IsFirst members) (hFirst' : kind.IsFirst others)
    (hSame : ∀ name, (∀ k : Kind, k ≠ kind → name ≠ k.name) →
      members.lookup name = others.lookup name) :
    codec.decodeJson (.object members) = codec.decodeJson (.object others) := by
  have hValue : members.lookup kind.name = others.lookup kind.name := by
    apply hSame
    intro k hNe hEq
    exact hNe (Kind.name_injective hEq.symm)
  have hDetails : detailMembers kind members = detailMembers kind others := by
    cases hHeld with | object _ distinct _ =>
    cases hOthers with | object _ distinct' _ =>
    apply (inOrder_detailMembers kind members).eq_of_lookup (inOrder_detailMembers kind others)
    intro name
    rw [lookup_detailMembers distinct, lookup_detailMembers distinct']
    split
    · rename_i hName
      rw [hSame name fun k _ => ne_of_mem_of_not_mem hName k.name_not_mem_details]
    · rfl
  rw [decodeJson_object hHeld hFirst, decodeJson_object hOthers hFirst', hValue, hDetails]

end Item

end Lists

namespace Access.ScimAuthentication

/-- The fields of the scheme are read from the object. -/
def ReadFrom (j : Json) : ScimAuthentication → Prop
  | .httpBasic fields => HttpBasic.codec.decodeJson j = .ok fields
  | .bearerToken fields => BearerToken.codec.decodeJson j = .ok fields
  | .oauth2 fields => OAuth2.codec.decodeJson j = .ok fields

theorem ofScheme_eq_ok_iff {name : String} {j : Json} {a : ScimAuthentication} :
    ofScheme name j = .ok a ↔ name = a.scheme ∧ a.ReadFrom j := by
  constructor
  · intro h
    rw [ofScheme] at h
    split at h
    · obtain ⟨fields, hFields, rfl⟩ := except_map_eq_ok.mp h
      exact ⟨‹_›, hFields⟩
    · split at h
      · obtain ⟨fields, hFields, rfl⟩ := except_map_eq_ok.mp h
        exact ⟨‹_›, hFields⟩
      · split at h
        · obtain ⟨fields, hFields, rfl⟩ := except_map_eq_ok.mp h
          exact ⟨‹_›, hFields⟩
        · cases h
  · rintro ⟨rfl, h⟩
    cases a with
    | httpBasic fields =>
      rw [scheme, ofScheme_httpBasic]
      exact except_map_eq_ok.mpr ⟨fields, h, rfl⟩
    | bearerToken fields =>
      rw [scheme, ofScheme_bearerToken]
      exact except_map_eq_ok.mpr ⟨fields, h, rfl⟩
    | oauth2 fields =>
      rw [scheme, ofScheme_oauth2]
      exact except_map_eq_ok.mpr ⟨fields, h, rfl⟩

theorem decodeJson_eq_ok_iff {j : Json} {a : ScimAuthentication}
    (hHeld : Source.settled.Holds j) :
    codec.decodeJson j = .ok a ↔ ∃ members, j = .object members ∧
      members.lookup "scheme" = some (.text a.scheme) ∧ a.ReadFrom j := by
  refine (Codec.viaJson_eq_ok ofJson_like hHeld).trans ?_
  cases j with
  | object members =>
    rw [ofJson_object_eq_ok]
    constructor
    · rintro ⟨name, hScheme, h⟩
      obtain ⟨rfl, hRead⟩ := ofScheme_eq_ok_iff.mp h
      exact ⟨members, rfl, hScheme, hRead⟩
    · rintro ⟨_, hEq, hScheme, hRead⟩
      cases hEq
      exact ⟨a.scheme, hScheme, ofScheme_eq_ok_iff.mpr ⟨rfl, hRead⟩⟩
  | _ => exact ⟨nofun, nofun⟩

def refusal? : Json → Option String
  | .object members =>
    match members.lookup "scheme" with
    | some (.text name) =>
      if name ∈ ["httpbasic", "oauthbearertoken", "oauth2"] then none
      else some ("invalid scheme: " ++ Text.quoted name)
    | _ => some "invalid scheme"
  | _ => some "invalid scheme: expected an object"

theorem refusal?_sorted {j : Json} (hHeld : Source.settled.Holds j) :
    refusal? j.sorted = refusal? j := by
  cases hHeld with
  | @object _ _ members _ distinct _ =>
    change refusal? (.object (sortedForm members)) = _
    rw [refusal?, refusal?, lookup_sortedForm distinct]
    rcases members.lookup "scheme" with _ | value
    · rfl
    · cases value <;> rfl
  | _ => rfl

theorem ofScheme_of_unknown {name : String} (j : Json)
    (hName : name ∉ ["httpbasic", "oauthbearertoken", "oauth2"]) :
    ofScheme name j = .error (.refused ("invalid scheme: " ++ Text.quoted name)) := by
  simp only [List.mem_cons, List.not_mem_nil, or_false, not_or] at hName
  rw [ofScheme, if_neg hName.1, if_neg hName.2.1, if_neg hName.2.2]

theorem ofJson_of_refusal? {j : Json} {reason : String} (h : refusal? j = some reason) :
    ofJson j = .error (.refused reason) := by
  cases j with
  | object members =>
    rw [refusal?] at h
    rw [ofJson]
    generalize members.lookup "scheme" = found at h ⊢
    rcases found with _ | value
    · cases h
      rfl
    · cases value with
      | text name =>
        dsimp only at h ⊢
        split at h
        · cases h
        · rename_i hName
          cases h
          exact ofScheme_of_unknown _ hName
      | _ =>
        cases h
        rfl
  | _ =>
    cases h
    rfl

theorem decodeJson_of_refusal? {j : Json} {reason : String} (hHeld : Source.settled.Holds j)
    (h : refusal? j = some reason) : codec.decodeJson j = .error (.refused reason) := by
  have hRead : codec.decodeJson j = ofJson j.sorted := by
    change (Document.ofJson j).toJson _ >>= ofJson = _
    rw [Document.toJson_ofJson hHeld]
    rfl
  rw [← refusal?_sorted hHeld] at h
  rw [hRead, ofJson_of_refusal? h]

end Access.ScimAuthentication

open EdgeApi.Lists Access

/-- A value is read as a list item exactly if it is an object whose first member of a kind that is
not null is read as a value of that kind, and whose details are of their types, null or missing;
members of other kinds change nothing, not even the fault. A value is read as an authentication
exactly if it is an object that names the scheme of the authentication and has its fields; one that
names none of the schemes is refused for that. -/
theorem polymorphic_decode_iff {j : Json} (hHeld : Source.settled.Holds j) :
    (∀ i : Item, Item.codec.decodeJson j = .ok i ↔
      ∃ members, j = .object members ∧ i.ReadFrom members) ∧
    (∀ members others kind, j = .object members → Source.settled.Holds (.object others) →
      Kind.IsFirst kind members → Kind.IsFirst kind others →
      (∀ name, (∀ k : Kind, k ≠ kind → name ≠ k.name) →
        members.lookup name = others.lookup name) →
      Item.codec.decodeJson (.object others) = Item.codec.decodeJson j) ∧
    (∀ a : ScimAuthentication, ScimAuthentication.codec.decodeJson j = .ok a ↔
      ∃ members, j = .object members ∧ members.lookup "scheme" = some (.text a.scheme) ∧
        a.ReadFrom j) ∧
    ∀ reason, ScimAuthentication.refusal? j = some reason →
      ScimAuthentication.codec.decodeJson j = .error (.refused reason) := by
  refine ⟨fun i => Item.decodeJson_eq_ok_iff hHeld, ?_,
    fun a => ScimAuthentication.decodeJson_eq_ok_iff hHeld,
    fun reason => ScimAuthentication.decodeJson_of_refusal? hHeld⟩
  rintro members others kind rfl hOthers hFirst hFirst' hSame
  exact (Item.decodeJson_congr hHeld hOthers hFirst hFirst' hSame).symm

def namedHost (number : Json) : List (String × Json) :=
  [("ip", .null), ("asn", number), ("hostname", .object [("url_hostname", .text "h")]),
    ("id", .text "i")]

theorem polymorphic_decode_iff_namedHost :
    Source.settled.Holds (.object (namedHost .null)) ∧
      Item.codec.decodeJson (.object (namedHost .null)) =
        .ok ⟨.hostname ⟨"h"⟩, ⟨"i", "", none, none⟩⟩ ∧
      Item.codec.decodeJson (.object (namedHost (.text "x"))) =
        Item.codec.decodeJson (.object (namedHost .null)) ∧
      ScimAuthentication.codec.decodeJson (.object (namedHost .null)) =
        .error (.refused "invalid scheme") := by
  have hHeld {number : Json} (h : Source.settled.Holds number) :
      Source.settled.Holds (.object (namedHost number)) := by
    refine .object Source.enter_settled (by simp [namedHost]) ?_
    have hName : Source.settled.Holds (.object [("url_hostname", .text "h")]) :=
      .object Source.enter_settled (by decide) (by simpa using .text "h")
    simpa [namedHost] using ⟨.null, h, hName, .text "i"⟩
  have hFirst (number : Json) : Kind.IsFirst .hostname (namedHost number) := by
    refine ⟨[.ip, .redirect], [.asn], rfl, ?_, rfl⟩
    simp only [List.mem_cons, List.not_mem_nil, or_false, forall_eq_or_imp, forall_eq]
    exact ⟨rfl, rfl⟩
  obtain ⟨hItem, hOthers, _, hRefused⟩ := polymorphic_decode_iff (hHeld .null)
  refine ⟨hHeld .null, (hItem _).mpr ⟨_, rfl, ?_⟩, ?_, hRefused _ rfl⟩
  · exact ⟨hFirst .null, ⟨_, rfl, rfl⟩, .inr ⟨_, rfl, rfl⟩, .inl ⟨rfl, rfl⟩, .inl ⟨rfl, rfl⟩,
      .inl ⟨rfl, rfl⟩⟩
  · apply hOthers _ _ .hostname rfl (hHeld (.text "x")) (hFirst _) (hFirst _)
    intro name hName
    have hNumber : name ≠ "asn" := hName .asn (by decide)
    rw [namedHost, namedHost]
    by_cases hAddress : name = "ip"
    · subst hAddress
      rfl
    · rw [lookup_cons_of_ne hAddress, lookup_cons_of_ne hNumber, lookup_cons_of_ne hAddress,
        lookup_cons_of_ne hNumber]

end EdgeApi
