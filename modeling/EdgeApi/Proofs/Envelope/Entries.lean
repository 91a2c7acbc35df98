import EdgeApi.Proofs.Record.Reading

/-!
# Envelopes by their members

An object is read as an envelope by what stands under each of five names, in whatever order it
stands there. Without a look at the result, the result can be anything that is well formed.
-/

set_option autoImplicit false

namespace EdgeApi

/-! ## Members in any order -/

def Members.ofEntries : List (String × Document) → Members
  | [] => .nil
  | (name, value) :: rest => .cons (some name) value (ofEntries rest)

/-- What is found of a field once a value under its name, if there is one, is taken in. -/
def Field.Takes {ρ α : Type} (f : Field ρ α) (source : Source) :
    Option Document → Option α → Option α → Prop
  | none, found, found' => found' = found
  | some value, found, found' =>
    found = none ∧ ∃ a, f.codec.decode source value = .ok a ∧ found' = some a

namespace Fields

variable {ρ α σ : Type}

def Takes (source : Source) (find : String → Option Document) {α σ : Type} :
    Fields ρ α σ → σ → σ → Prop
  | .nil, _, _ => True
  | .cons f rest, (found, others), (found', others') =>
    f.Takes source (find f.name) found found' ∧ rest.Takes source find others others'

variable {source : Source} {find find' : String → Option Document} {name : String}
  {value : Document} {entries : List (String × Document)} {fields : Fields ρ α σ} {found found' : σ}

theorem takes_congr (h : ∀ name ∈ fields.names, find name = find' name) :
    fields.Takes source find found found' ↔ fields.Takes source find' found found' := by
  induction fields with
  | nil => exact Iff.rfl
  | cons f rest ih =>
    rw [Takes, Takes, h f.name List.mem_cons_self,
      ih fun name hMem => h name (List.mem_cons_of_mem _ hMem)]

theorem takes_none (h : fields.Takes source (fun _ => none) found found') : found' = found := by
  induction fields with
  | nil => rfl
  | cons f rest ih => exact Prod.ext h.1 (ih h.2)

/-- A value is taken in as that of the field of its name, before those under the other names. -/
theorem exists_take_of_takes (hNames : fields.names.Nodup) (hName : name ∈ fields.names)
    (hFind : find name = some value) (hFind' : find' name = none)
    (hOther : ∀ other, other ≠ name → find' other = find other)
    (h : fields.Takes source find found found') :
    ∃ next, fields.take source name value found = some (.ok next) ∧
      fields.Takes source find' next found' := by
  induction fields with
  | nil => cases hName
  | cons f rest ih =>
    obtain ⟨hFresh, hNames⟩ := List.nodup_cons.mp hNames
    obtain ⟨a, found⟩ := found
    obtain ⟨hHead, hRest⟩ := h
    by_cases hEq : name = f.name
    · subst hEq
      rw [hFind] at hHead
      obtain ⟨rfl, b, hDecode, hFound⟩ := hHead
      refine ⟨(some b, found), ?_, ?_, ?_⟩
      · rw [take_cons_self, hDecode]
        rfl
      · rw [hFind']
        exact hFound
      · refine (takes_congr fun other hMem => ?_).mp hRest
        exact (hOther other (ne_of_mem_of_not_mem hMem hFresh)).symm
    · have hMem : name ∈ rest.names := (List.mem_cons.mp hName).resolve_left hEq
      obtain ⟨next, hTake, hNext⟩ := ih hNames hMem hRest
      refine ⟨(a, next), ?_, ?_, hNext⟩
      · rw [take_cons_of_ne hEq, hTake]
        rfl
      · rw [hOther f.name (Ne.symm hEq)]
        exact hHead

theorem takeMembers_ofEntries (hNames : fields.names.Nodup)
    (hValues : ∀ entry ∈ entries, entry.2.skip = .ok ())
    (hOnce : ((entries.map Prod.fst).filter (· ∈ fields.names)).Nodup)
    (h : fields.Takes source (entries.lookup ·) found found') :
    fields.takeMembers source (.ofEntries entries) found = .ok found' := by
  -- every entry of a field moves on what is found so far, and its name does not come again
  induction entries generalizing found with
  | nil => rw [takes_none h, Members.ofEntries, takeMembers]
  | cons entry entries ih =>
    obtain ⟨name, value⟩ := entry
    obtain ⟨hValue, hValues⟩ := List.forall_mem_cons.mp hValues
    rw [Members.ofEntries, takeMembers]
    by_cases hName : name ∈ fields.names
    · rw [List.map_cons, List.filter_cons_of_pos (by simpa using hName), List.nodup_cons] at hOnce
      have hAbsent : entries.lookup name = none := by
        apply lookup_eq_none
        intro hMem
        exact hOnce.1 (List.mem_filter.mpr ⟨hMem, by simpa using hName⟩)
      obtain ⟨next, hTake, hNext⟩ := exists_take_of_takes hNames hName lookup_cons_self hAbsent
        (fun other hOther => (lookup_cons_of_ne hOther).symm) h
      rw [hTake]
      exact ih hValues hOnce.2 hNext
    · rw [List.map_cons, List.filter_cons_of_neg (by simpa using hName)] at hOnce
      rw [take_eq_none hName, hValue]
      refine ih hValues hOnce ((takes_congr fun other hMem => ?_).mp h)
      exact lookup_cons_of_ne (ne_of_mem_of_not_mem hMem hName)

end Fields

/-! ## Values that can be read -/

def Codec.Admits {α : Type} (c : Codec α) (source : Source) (found : Option Document) : Prop :=
  ∀ value, found = some value → ∃ a, c.decode source value = .ok a

theorem Field.exists_takes {ρ α : Type} {f : Field ρ α} {source : Source} {found : Option Document}
    (h : f.codec.Admits source found) : ∃ a, f.Takes source found none a := by
  cases found with
  | none => exact ⟨none, rfl⟩
  | some value =>
    obtain ⟨a, hDecode⟩ := h value rfl
    exact ⟨some a, rfl, a, hDecode, rfl⟩

namespace Fields

variable {ρ α σ : Type}

def Admits (source : Source) (find : String → Option Document) {α σ : Type} :
    Fields ρ α σ → Prop
  | .nil => True
  | .cons f rest => f.codec.Admits source (find f.name) ∧ rest.Admits source find

theorem exists_takes {source : Source} {find : String → Option Document} {fields : Fields ρ α σ}
    (h : fields.Admits source find) : ∃ found, fields.Takes source find fields.empty found := by
  induction fields with
  | nil => exact ⟨(), trivial⟩
  | cons f rest ih =>
    obtain ⟨a, hHead⟩ := Field.exists_takes h.1
    obtain ⟨found, hRest⟩ := ih h.2
    exact ⟨(a, found), hHead, hRest⟩

end Fields

/-! ## Envelopes -/

namespace Envelope

def names : List String :=
  ["success", "errors", "messages", "result", "result_info"]

/-- The members beside the result are well formed: each is missing, null or of its type. -/
structure WellFormed (source : Source) (find : String → Option Document) : Prop where
  success : (Codec.bool.orElse false).Admits source (find "success")
  errors : ((Codec.list Notice.codec).orElse []).Admits source (find "errors")
  messages : ((Codec.list Notice.codec).orElse []).Admits source (find "messages")
  info : ResultInfo.codec.optional.Admits source (find "result_info")

variable {source : Source} {find other : String → Option Document} {found : Slots Unit}

theorem admits_ignored {found : Option Document}
    (h : ∀ value, found = some value → value.skip = .ok ()) :
    (Codec.optional .ignored).Admits source found :=
  fun value hFound => exists_decode_of_skip (h value hFound)

theorem exists_takes (h : WellFormed source find)
    (hResult : ∀ value, find "result" = some value → value.skip = .ok ()) :
    ∃ found : Slots Unit,
      (fields .ignored).Takes source find (fields .ignored).empty found := by
  exact Fields.exists_takes
    ⟨h.success, h.errors, h.messages, admits_ignored hResult, h.info, trivial⟩

theorem exists_takes_setResult
    (hTakes : (fields .ignored).Takes source find (fields .ignored).empty found)
    (hSame : ∀ name ∈ names, name ≠ "result" → find name = other name)
    (hResult : ∀ value, other "result" = some value → value.skip = .ok ()) :
    ∃ r, (fields .ignored).Takes source other (fields .ignored).empty (found.setResult r) := by
  obtain ⟨hSuccess, hErrors, hMessages, -, hInfo, -⟩ := hTakes
  have hIgnored : (Codec.optional .ignored).Admits source (other "result") :=
    admits_ignored hResult
  obtain ⟨r, hRead⟩ :=
    Field.exists_takes (f := .nullable "result" .ignored Envelope.result) hIgnored
  refine ⟨r, ?_, ?_, ?_, hRead, ?_, trivial⟩
  · rw [← hSame _ (by decide) (by decide)]
    exact hSuccess
  · rw [← hSame _ (by decide) (by decide)]
    exact hErrors
  · rw [← hSame _ (by decide) (by decide)]
    exact hMessages
  · rw [← hSame _ (by decide) (by decide)]
    exact hInfo

/-- An envelope is a success only if it says so. -/
theorem success_envelope_iff
    (hTakes : (fields .ignored).Takes source find (fields .ignored).empty found) :
    found.envelope.success = true ↔ find "success" = some (.bool true) := by
  have hSuccess : (Field.lenient "success" .bool false Envelope.success).Takes source
      (find "success") none found.1 := hTakes.1
  change found.1.getD false = true ↔ _
  rcases hFind : find "success" with _ | value
  · rw [hFind] at hSuccess
    have hMissing : found.1 = none := hSuccess
    simp [hMissing]
  · rw [hFind] at hSuccess
    obtain ⟨-, b, hDecode, hFound⟩ := hSuccess
    rw [hFound, Option.getD_some, Option.some_inj]
    cases value with
    | null =>
      cases hDecode
      simp
    | bool b' =>
      cases hDecode
      rw [Document.bool.injEq]
    | _ => cases hDecode

end Envelope

end EdgeApi
