import EdgeApi.Proofs.Envelope.Result
import EdgeApi.Proofs.Record.Members

/-!
# Reading records

The reader of a record takes members in as they come. Of values it reads what stands under the name
of each field, or in its place in an array, and nothing else.
-/

set_option autoImplicit false

namespace EdgeApi

section Except

variable {ε α β : Type} {x : Except ε α} {f : α → Except ε β} {g : α → β} {b : β}

theorem except_bind_eq_ok : x >>= f = .ok b ↔ ∃ a, x = .ok a ∧ f a = .ok b := by
  rcases x with e | a
  · exact ⟨nofun, nofun⟩
  · exact ⟨fun h => ⟨a, rfl, h⟩, fun ⟨_, hEq, h⟩ => Except.ok.inj hEq ▸ h⟩

theorem except_map_eq_ok : x.map g = .ok b ↔ ∃ a, x = .ok a ∧ g a = b := by
  rcases x with e | a
  · exact ⟨nofun, nofun⟩
  · exact ⟨fun h => ⟨a, rfl, Except.ok.inj h⟩, fun ⟨_, hEq, h⟩ => Except.ok.inj hEq ▸ congrArg _ h⟩

end Except

variable {ρ α β σ : Type}

/-- The value of a field for what stands under its name, if anything does. -/
def Field.Reads (f : Field ρ α) (source : Source) (found : Option Json) (a : α) : Prop :=
  match found with
  | some j => f.codec.decode source (.ofJson j) = .ok a
  | none => f.absent = some a

namespace Fields

/-- The values of the fields for what stands under each name. -/
def Reads (source : Source) (find : String → Option Json) {α σ : Type} : Fields ρ α σ → α → Prop
  | .nil, _ => True
  | .cons f rest, (a, others) => f.Reads source (find f.name) a ∧ rest.Reads source find others

/-- The values of the fields for the items of an array. -/
def ReadsItems (source : Source) {α σ : Type} : Fields ρ α σ → List Json → α → Prop
  | .nil, items, _ => items = []
  | .cons f rest, [], (a, others) => f.cut = some a ∧ rest.ReadsItems source [] others
  | .cons f rest, j :: items, (a, others) =>
    f.codec.decode source (.ofJson j) = .ok a ∧ rest.ReadsItems source items others

/-- The values of the fields once some are found already, for what stands under each name further
on. -/
def ReadsOn (source : Source) (find : String → Option Json) {α σ : Type} :
    Fields ρ α σ → σ → α → Prop
  | .nil, _, _ => True
  | .cons f rest, (some b, found), (a, others) =>
    (find f.name = none ∧ a = b) ∧ rest.ReadsOn source find found others
  | .cons f rest, (none, found), (a, others) =>
    f.Reads source (find f.name) a ∧ rest.ReadsOn source find found others

variable {source : Source} {find find' : String → Option Json} {name : String} {j : Json}
  {members : List (String × Json)} {fields : Fields ρ α σ} {found : σ} {values : α}

theorem readsOn_congr (h : ∀ name ∈ fields.names, find name = find' name) :
    fields.ReadsOn source find found values ↔ fields.ReadsOn source find' found values := by
  induction fields with
  | nil => exact Iff.rfl
  | cons f rest ih =>
    obtain ⟨a | a, found⟩ := found <;> obtain ⟨b, values⟩ := values
    all_goals
      rw [ReadsOn, ReadsOn, h f.name List.mem_cons_self,
        ih fun name hMem => h name (List.mem_cons_of_mem _ hMem)]

theorem readsOn_empty :
    fields.ReadsOn source find fields.empty values ↔ fields.Reads source find values := by
  induction fields with
  | nil => exact Iff.rfl
  | cons f rest ih => exact and_congr_right fun _ => ih

section Cons

variable {value : Document} {f : Field ρ α} {rest : Fields ρ β σ} {a : Option α} {found : σ}

theorem complete_cons :
    (cons f rest).complete (a, found) =
      match a.or f.absent with
      | some a => (rest.complete found).map (Prod.mk a)
      | none => .error (.mismatch (.missingField f.name)) := by
  rcases a with _ | a
  · rcases hAbsent : f.absent with _ | b <;> simp only [complete, hAbsent] <;> rfl
  · rfl

theorem take_cons_of_ne (h : name ≠ f.name) :
    (cons f rest).take source name value (a, found) =
      (rest.take source name value found).map (Except.map (Prod.mk a)) :=
  if_neg h

theorem take_cons_found {b : α} :
    (cons f rest).take source f.name value (some b, found) =
      some (.error (.mismatch (.duplicateField f.name))) :=
  if_pos rfl

theorem take_cons_self :
    (cons f rest).take source f.name value (none, found) =
      some ((f.codec.decode source value).map fun a => (some a, found)) :=
  if_pos rfl

end Cons

theorem reads_congr (h : ∀ name ∈ fields.names, find name = find' name) :
    fields.Reads source find values ↔ fields.Reads source find' values := by
  rw [← readsOn_empty, readsOn_congr h, readsOn_empty]

theorem complete_eq_ok :
    fields.complete found = .ok values ↔ fields.ReadsOn source (fun _ => none) found values := by
  induction fields with
  | nil => exact ⟨fun _ => trivial, fun _ => rfl⟩
  | cons f rest ih =>
    obtain ⟨b, values⟩ := values
    have hMap {a} {found} : (rest.complete found).map (Prod.mk a) = .ok (b, values) ↔
        a = b ∧ rest.complete found = .ok values := by
      rw [except_map_eq_ok]
      constructor
      · rintro ⟨_, hRest, hEq⟩
        cases hEq
        exact ⟨rfl, hRest⟩
      · rintro ⟨rfl, hRest⟩
        exact ⟨values, hRest, rfl⟩
    obtain ⟨a | a, found⟩ := found <;> rw [complete_cons, ReadsOn, ← ih]
    · rw [Field.Reads, Option.none_or]
      rcases f.absent with _ | a
      · exact ⟨nofun, nofun⟩
      · exact hMap.trans (and_congr_left fun _ => Option.some_inj.symm)
    · exact hMap.trans (and_congr_left fun _ => ⟨fun hEq => ⟨rfl, hEq.symm⟩, fun h => h.2.symm⟩)

theorem take_eq_none {value : Document} (h : name ∉ fields.names) :
    fields.take source name value found = none := by
  induction fields with
  | nil => rfl
  | cons f rest ih =>
    obtain ⟨a, found⟩ := found
    obtain ⟨hNe, hRest⟩ := not_or.mp (mt List.mem_cons.mpr h)
    rw [take_cons_of_ne hNe, ih hRest]
    rfl

theorem exists_take (source : Source) (value : Document) (found : σ) (h : name ∈ fields.names) :
    ∃ taken, fields.take source name value found = some taken := by
  induction fields with
  | nil => cases h
  | cons f rest ih =>
    obtain ⟨a, found⟩ := found
    by_cases hEq : name = f.name
    · exact ⟨_, if_pos hEq⟩
    · obtain ⟨taken, hTake⟩ := ih found ((List.mem_cons.mp h).resolve_left hEq)
      rw [take_cons_of_ne hEq, hTake]
      exact ⟨_, rfl⟩

theorem exists_map_mk_iff {β : Type} {taken : Option (Except Fault σ)} {b : β}
    {P : β × σ → Prop} :
    (∃ next, taken.map (Except.map (Prod.mk b)) = some (.ok next) ∧ P next) ↔
      ∃ next, taken = some (.ok next) ∧ P (b, next) := by
  constructor
  · rintro ⟨_, hEq, h⟩
    rcases taken with _ | fault | next
    · cases hEq
    · cases hEq
    · cases hEq
      exact ⟨next, rfl, h⟩
  · rintro ⟨next, rfl, h⟩
    exact ⟨_, rfl, h⟩

theorem exists_take_iff (hNames : fields.names.Nodup) (hName : name ∈ fields.names)
    (hFind : find name = none) (hFind' : find' name = some j)
    (hOther : ∀ other, other ≠ name → find' other = find other) :
    (∃ next, fields.take source name (.ofJson j) found = some (.ok next) ∧
      fields.ReadsOn source find next values) ↔ fields.ReadsOn source find' found values := by
  induction fields with
  | nil => cases hName
  | cons f rest ih =>
    obtain ⟨hFresh, hNames⟩ := List.nodup_cons.mp hNames
    obtain ⟨a, values⟩ := values
    by_cases hEq : name = f.name
    · subst hEq
      have hRest {found} : rest.ReadsOn source find' found values ↔
          rest.ReadsOn source find found values :=
        readsOn_congr fun other hMem => hOther other fun hEq => hFresh (hEq ▸ hMem)
      obtain ⟨b | b, found⟩ := found <;> rw [ReadsOn, hFind', hRest]
      · rw [take_cons_self, Field.Reads]
        constructor
        · rintro ⟨next, hTake, hReads⟩
          obtain ⟨b, hDecode, rfl⟩ := except_map_eq_ok.mp (Option.some.inj hTake)
          obtain ⟨⟨_, rfl⟩, hReads⟩ := hReads
          exact ⟨hDecode, hReads⟩
        · rintro ⟨hDecode, hReads⟩
          exact ⟨(some a, found), congrArg some (except_map_eq_ok.mpr ⟨a, hDecode, rfl⟩),
            ⟨hFind, rfl⟩, hReads⟩
      · rw [take_cons_found]
        exact ⟨nofun, nofun⟩
    · have hMem : name ∈ rest.names := (List.mem_cons.mp hName).resolve_left hEq
      have hHead : find' f.name = find f.name := hOther f.name (Ne.symm hEq)
      obtain ⟨b, found⟩ := found
      rw [take_cons_of_ne hEq]
      rw [exists_map_mk_iff]
      rcases b with _ | b <;>
        simp only [ReadsOn, hHead, ← ih hNames hMem, ← and_left_comm, exists_and_left]

theorem takeMembers_ofMembers (found : σ) (values : α) (hNames : fields.names.Nodup)
    (hDistinct : (members.map Prod.fst).Nodup)
    (hHeld : ∀ m ∈ members, source.Holds m.2) :
    (fields.takeMembers source (Document.ofMembers members) found >>= fields.complete) =
        .ok values ↔
      fields.ReadsOn source (List.lookup · members) found values := by
  induction members generalizing found with
  | nil => exact complete_eq_ok
  | cons m members ih =>
    obtain ⟨name, j⟩ := m
    obtain ⟨hFresh, hDistinct⟩ := List.nodup_cons.mp hDistinct
    obtain ⟨hMember, hHeld⟩ := List.forall_mem_cons.mp hHeld
    rw [Document.ofMembers, takeMembers]
    by_cases hName : name ∈ fields.names
    · refine Iff.trans ?_ (exists_take_iff hNames hName (lookup_eq_none hFresh)
        lookup_cons_self fun other hOther => lookup_cons_of_ne hOther)
      obtain ⟨taken, hTake⟩ := exists_take source (.ofJson j) found hName
      rw [hTake]
      change taken >>= _ >>= _ = _ ↔ _
      rcases taken with fault | next
      · constructor
        · intro h
          cases h
        · rintro ⟨_, hEq, _⟩
          cases hEq
      · refine (ih _ hDistinct hHeld).trans ⟨fun h => ⟨next, rfl, h⟩, ?_⟩
        rintro ⟨_, hEq, h⟩
        cases hEq
        exact h
    · rw [take_eq_none hName]
      change (Document.skip _ >>= fun _ => _) >>= _ = _ ↔ _
      rw [Document.skip_ofJson hMember]
      refine (ih _ hDistinct hHeld).trans (readsOn_congr fun other hMem => ?_)
      exact (lookup_cons_of_ne (ne_of_mem_of_not_mem hMem hName)).symm

theorem exists_takeItems_iff {title : String} {size length : Nat} {outer : Source}
    {items : List Json} (done : Nat) :
    (∃ left, fields.takeItems title size source done (Document.ofItems items) = .ok (values, left) ∧
      endOfItems outer length left = .ok ()) ↔ fields.ReadsItems source items values := by
  induction fields generalizing items done with
  | nil =>
    rcases items with _ | ⟨j, items⟩
    · exact ⟨fun _ => rfl, fun _ => ⟨.nil, rfl, rfl⟩⟩
    · constructor
      · rintro ⟨left, hEq, hEnd⟩
        cases hEq
        cases outer <;> cases hEnd
      · intro h
        cases h
  | cons f rest ih =>
    obtain ⟨a, values⟩ := values
    rcases items with _ | ⟨j, items⟩
    · rw [ReadsItems, ← ih (done + 1), Document.ofItems, takeItems]
      rcases f.cut with _ | b
      · constructor
        · rintro ⟨_, hTake, _⟩
          cases hTake
        · rintro ⟨hEq, _⟩
          cases hEq
      · constructor
        · rintro ⟨left, hTake, hEnd⟩
          obtain ⟨⟨others, _⟩, hRest, hEq⟩ := except_bind_eq_ok.mp hTake
          cases hEq
          exact ⟨rfl, left, hRest, hEnd⟩
        · rintro ⟨hEq, left, hRest, hEnd⟩
          cases hEq
          exact ⟨left, except_bind_eq_ok.mpr ⟨_, hRest, rfl⟩, hEnd⟩
    · rw [ReadsItems, ← ih (done + 1), Document.ofItems, takeItems]
      constructor
      · rintro ⟨left, hTake, hEnd⟩
        obtain ⟨b, hDecode, hTake⟩ := except_bind_eq_ok.mp hTake
        obtain ⟨⟨others, _⟩, hRest, hEq⟩ := except_bind_eq_ok.mp hTake
        cases hEq
        exact ⟨hDecode, left, hRest, hEnd⟩
      · rintro ⟨hDecode, left, hRest, hEnd⟩
        exact ⟨left,
          except_bind_eq_ok.mpr ⟨a, hDecode, except_bind_eq_ok.mpr ⟨_, hRest, rfl⟩⟩, hEnd⟩

end Fields

namespace Codec

variable {fields : Fields ρ α σ} {title : String} {build : α → ρ} {source : Source} {r : ρ}

/-- An object is read as a record by what stands under the names of the fields. -/
theorem record_object_eq_ok {members : List (String × Json)} (hNames : fields.names.Nodup)
    (hHeld : source.Holds (.object members)) :
    (record title fields build).decode source (.ofJson (.object members)) = .ok r ↔
      ∃ inner values, source.enter = .ok inner ∧
        fields.Reads inner (List.lookup · members) values ∧ build values = r := by
  cases hHeld with
  | @object _ room _ enter distinct held =>
    have hMembers (values : α) :=
      Fields.takeMembers_ofMembers fields.empty values hNames distinct held
    constructor
    · intro h
      obtain ⟨inner, hEnter, h⟩ := except_bind_eq_ok.mp h
      cases hEnter.symm.trans enter
      obtain ⟨found, hTake, h⟩ := except_bind_eq_ok.mp h
      obtain ⟨values, hComplete, hBuild⟩ := except_bind_eq_ok.mp h
      have hReads := (hMembers values).mp (except_bind_eq_ok.mpr ⟨found, hTake, hComplete⟩)
      exact ⟨_, values, hEnter, Fields.readsOn_empty.mp hReads, Except.ok.inj hBuild⟩
    · rintro ⟨inner, values, hEnter, hReads, rfl⟩
      cases hEnter.symm.trans enter
      have hBoth := (hMembers values).mpr (Fields.readsOn_empty.mpr hReads)
      obtain ⟨found, hTake, hComplete⟩ := except_bind_eq_ok.mp hBoth
      exact except_bind_eq_ok.mpr ⟨_, hEnter, except_bind_eq_ok.mpr ⟨found, hTake,
        except_bind_eq_ok.mpr ⟨values, hComplete, rfl⟩⟩⟩

theorem record_list_eq_ok {items : List Json} :
    (record title fields build).decode source (.ofJson (.list items)) = .ok r ↔
      ∃ inner values, source.enter = .ok inner ∧ fields.ReadsItems inner items values ∧
        build values = r := by
  constructor
  · intro h
    obtain ⟨inner, hEnter, h⟩ := except_bind_eq_ok.mp h
    obtain ⟨⟨values, left⟩, hTake, h⟩ := except_bind_eq_ok.mp h
    obtain ⟨_, hEnd, hBuild⟩ := except_bind_eq_ok.mp h
    exact ⟨inner, values, hEnter, (Fields.exists_takeItems_iff 0).mp ⟨left, hTake, hEnd⟩,
      Except.ok.inj hBuild⟩
  · rintro ⟨inner, values, hEnter, hReads, rfl⟩
    obtain ⟨left, hTake, hEnd⟩ := (Fields.exists_takeItems_iff 0).mpr hReads
    exact except_bind_eq_ok.mpr ⟨inner, hEnter, except_bind_eq_ok.mpr ⟨(values, left), hTake,
      except_bind_eq_ok.mpr ⟨(), hEnd, rfl⟩⟩⟩

end Codec

end EdgeApi
