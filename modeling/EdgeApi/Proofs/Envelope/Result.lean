import EdgeApi.Client.Reply

/-!
# Results of envelopes

An envelope is read in one go. What it is read as differs from one type of results to another only
by what the result member is read as.
-/

set_option autoImplicit false

namespace EdgeApi

theorem Codec.decodeText_eq {α : Type} {c : Codec α} {bytes : List UInt8}
    (hTrailing : (Document.read bytes).trailing = false) :
    c.decodeText bytes = c.decode .text (Document.read bytes).root := by
  change (c.decode .text (Document.read bytes).root >>= fun value =>
    if (Document.read bytes).trailing then .error .malformed else pure value) = _
  rw [hTrailing]
  rcases c.decode .text (Document.read bytes).root with fault | value <;> rfl

namespace Members

def find? (name : String) : Members → Option Document
  | .cons (some n) value tail => if n = name then some value else tail.find? name
  | .cons none _ tail => tail.find? name
  | .nameless _ => none
  | .broken _ => none
  | .nil => none

theorem inductTail {motive : Members → Prop} (nil : motive .nil) (broken : ∀ b, motive (.broken b))
    (nameless : ∀ found, motive (.nameless found))
    (cons : ∀ name value tail, motive tail → motive (.cons name value tail)) :
    ∀ members, motive members
  | .nil => nil
  | .broken b => broken b
  | .nameless found => nameless found
  | .cons name value tail => cons name value tail (inductTail nil broken nameless cons tail)

end Members

namespace Fields

variable {ρ ρ' α β β' σ σ' : Type} {source : Source} {name : String} {value : Document}

theorem take_cons_map {f : Field ρ α} {f' : Field ρ' α} {rest : Fields ρ β σ}
    {rest' : Fields ρ' β' σ'} {found : Option α} {others : σ} (g : σ → σ')
    (hField : f'.name = f.name) (hCodec : f'.codec = f.codec)
    (hRest : rest'.take source name value (g others) =
      (rest.take source name value others).map (Except.map g)) :
    (Fields.cons f' rest').take source name value (found, g others) =
      ((Fields.cons f rest).take source name value (found, others)).map
        (Except.map (Prod.map id g)) := by
  simp only [Fields.take, hField, hCodec, hRest]
  split
  · rcases found with _ | a
    · rcases f.codec.decode source value with fault | a <;> rfl
    · rfl
  · rcases rest.take source name value others with _ | fault | found' <;> rfl

theorem takeMembers_cons_eq_ok {fields : Fields ρ β σ} {tail : Members} {found found' : σ}
    (h : fields.takeMembers source (.cons (some name) value tail) found = .ok found') :
    (∃ next, fields.take source name value found = some (.ok next) ∧
      fields.takeMembers source tail next = .ok found') ∨
    fields.take source name value found = none ∧ value.skip = .ok () ∧
      fields.takeMembers source tail found = .ok found' := by
  rw [takeMembers] at h
  rcases hTake : fields.take source name value found with _ | fault | next <;>
    simp only [hTake] at h
  · rcases hSkip : value.skip with fault | _
    · rw [hSkip] at h
      cases h
    · rw [hSkip] at h
      exact .inr ⟨rfl, rfl, h⟩
  · cases h
  · exact .inl ⟨next, rfl, h⟩

end Fields

namespace Envelope

variable {α β : Type}

def withResult (e : Envelope α) (result : Option β) : Envelope β :=
  { e with result }

abbrev Slots (α : Type) :=
  Option Bool × Option (List Notice) × Option (List Notice) × Option (Option α) ×
    Option (Option ResultInfo) × Unit

namespace Slots

def result (found : Slots α) : Option (Option α) :=
  found.2.2.2.1

def setResult (result : Option (Option β)) : Slots α → Slots β :=
  Prod.map id <| Prod.map id <| Prod.map id <| Prod.map (fun _ => result) id

def envelope (found : Slots α) : Envelope α where
  success := found.1.getD false
  errors := found.2.1.getD []
  messages := found.2.2.1.getD []
  result := found.result.getD none
  info := found.2.2.2.2.1.getD none

end Slots

theorem take_setResult (c : Codec α) (d : Codec β) (source : Source) {name : String}
    (value : Document) (found : Slots α) (r : Option (Option β)) (hName : name ≠ "result") :
    (fields d).take source name value (found.setResult r) =
      ((fields c).take source name value found).map (Except.map (Slots.setResult r)) := by
  obtain ⟨success, errors, messages, result, info, _⟩ := found
  have hResult : (Fields.cons (.nullable "result" d Envelope.result) <|
        .cons (.nullable "result_info" ResultInfo.codec Envelope.info) .nil).take source name value
          (r, info, ()) =
      ((Fields.cons (.nullable "result" c Envelope.result) <|
        .cons (.nullable "result_info" ResultInfo.codec Envelope.info) .nil).take source name value
          (result, info, ())).map (Except.map (Prod.map (fun _ => r) id)) := by
    by_cases hInfo : name = "result_info"
    · subst hInfo
      rcases info with _ | info
      · simp only [Fields.take, Field.nullable, hName, if_false, if_true]
        rcases ResultInfo.codec.optional.decode source value with fault | info <;> rfl
      · rfl
    · simp only [Fields.take, Field.nullable, hName, hInfo, if_false]
      rfl
  exact Fields.take_cons_map _ rfl rfl <| Fields.take_cons_map _ rfl rfl <|
    Fields.take_cons_map _ rfl rfl hResult

theorem take_result (c : Codec α) (source : Source) (value : Document) (found : Slots α) :
    (fields c).take source "result" value found = some
      (match found.result with
      | some _ => .error (.mismatch (.duplicateField "result"))
      | none => (c.optional.decode source value).map fun a => found.setResult (some a)) := by
  obtain ⟨success, errors, messages, result, info, _⟩ := found
  simp only [fields, Fields.take, Field.lenient, Field.standard, Field.items, Field.nullable]
  rcases result with _ | result
  · rcases c.optional.decode source value with fault | a <;> rfl
  · rfl

variable {c : Codec α} {source : Source} {members : Members} {found found' : Slots α}

theorem result_of_take {name : String} {value : Document}
    (h : (fields c).take source name value found = some (.ok found')) (hName : name ≠ "result") :
    found'.result = found.result := by
  have hSame := take_setResult c c source value found found.result hName
  rw [h] at hSame
  have hKept : found' = found'.setResult found.result :=
    Except.ok.inj (Option.some.inj (h.symm.trans hSame))
  have hResult : found'.result = (found'.setResult found.result).result :=
    congrArg Slots.result hKept
  exact hResult

/-- Any well-formed value can be a result that is passed over. -/
theorem exists_decode_of_skip {value : Document} (h : value.skip = .ok ()) :
    ∃ a, (Codec.optional .ignored).decode source value = .ok a := by
  cases value with
  | null => exact ⟨none, rfl⟩
  | _ => exact ⟨some (), by simp only [Codec.optional, Codec.ignored, h]; rfl⟩

/-- Once a result is found, no other one follows. -/
theorem find?_of_takeMembers {r : Option α}
    (h : (fields c).takeMembers source members found = .ok found') (hFound : found.result = some r) :
    members.find? "result" = none := by
  induction members using Members.inductTail generalizing found with
  | nil | broken | nameless => rfl
  | cons name value tail ih =>
    rcases name with _ | name
    · cases h
    · by_cases hName : name = "result"
      · subst hName
        rw [Fields.takeMembers, take_result, hFound] at h
        cases h
      · rw [Members.find?, if_neg hName]
        rcases Fields.takeMembers_cons_eq_ok h with ⟨next, hTake, hTail⟩ | ⟨_, _, hTail⟩
        · exact ih hTail ((result_of_take hTake hName).trans hFound)
        · exact ih hTail hFound

theorem takeMembers_setResult_of_find?_eq_none (d : Codec β) (r : Option (Option β))
    (hNone : members.find? "result" = none)
    (h : (fields c).takeMembers source members found = .ok found') :
    (fields d).takeMembers source members (found.setResult r) = .ok (found'.setResult r) := by
  induction members using Members.inductTail generalizing found with
  | nil =>
    cases h
    rfl
  | broken | nameless => cases h
  | cons name value tail ih =>
    rcases name with _ | name
    · cases h
    · rw [Members.find?] at hNone
      split at hNone
      · cases hNone
      · rename_i hName
        have hSame := take_setResult c d source value found r hName
        rw [Fields.takeMembers, hSame]
        rcases Fields.takeMembers_cons_eq_ok h with ⟨next, hTake, hTail⟩ | ⟨hTake, hSkip, hTail⟩
        · rw [hTake]
          exact ih hNone hTail
        · rw [hTake, hSkip]
          exact ih hNone hTail

/-- The members are read alike but for the result, which is read by itself. -/
theorem takeMembers_setResult (d : Codec β) (hFound : found.result = none)
    (h : (fields c).takeMembers source members found = .ok found') :
    (fields d).takeMembers source members (found.setResult none) =
      match members.find? "result" with
      | none => .ok (found'.setResult none)
      | some value => (d.optional.decode source value).map fun r => found'.setResult (some r) := by
  induction members using Members.inductTail generalizing found with
  | nil =>
    cases h
    rfl
  | broken | nameless => cases h
  | cons name value tail ih =>
    rcases name with _ | name
    · cases h
    · by_cases hName : name = "result"
      · subst hName
        rw [Fields.takeMembers, take_result, Members.find?, if_pos rfl]
        rw [Fields.takeMembers, take_result, hFound] at h
        rcases hValue : c.optional.decode source value with fault | a
        · rw [hValue] at h
          cases h
        · rw [hValue] at h
          have hNone := find?_of_takeMembers h rfl
          rcases hDecode : d.optional.decode source value with fault | r
          · simp only [hDecode]
            rfl
          · simp only [hDecode]
            exact takeMembers_setResult_of_find?_eq_none d (some r) hNone h
      · have hSame := take_setResult c d source value found none hName
        rw [Fields.takeMembers, hSame, Members.find?, if_neg hName]
        rcases Fields.takeMembers_cons_eq_ok h with ⟨next, hTake, hTail⟩ | ⟨hTake, hSkip, hTail⟩
        · rw [hTake]
          exact ih ((result_of_take hTake hName).trans hFound) hTail
        · rw [hTake, hSkip]
          exact ih hFound hTail

theorem decode_object (c : Codec α) {source inner : Source} (hEnter : source.enter = .ok inner)
    (members : Members) :
    (codec c).decode source (.object members) =
      ((fields c).takeMembers inner members (fields c).empty).map Slots.envelope := by
  have hComplete : ∀ found : Slots α, (fields c).complete found = .ok
      (found.1.getD false, found.2.1.getD [], found.2.2.1.getD [], found.result.getD none,
        found.2.2.2.2.1.getD none, ()) := by
    rintro ⟨success, errors, messages, result, info, _⟩
    rcases success with _ | success <;> rcases errors with _ | errors <;>
      rcases messages with _ | messages <;> rcases result with _ | result <;>
        rcases info with _ | info <;> rfl
  change (source.enter >>= fun inner =>
    (fields c).takeMembers inner members (fields c).empty >>= fun found =>
      (fields c).complete found >>= _) = _
  rw [hEnter]
  change ((fields c).takeMembers inner members (fields c).empty >>= fun found =>
      (fields c).complete found >>= _) = _
  rcases (fields c).takeMembers inner members (fields c).empty with fault | found
  · rfl
  · change (fields c).complete found >>= _ = _
    rw [hComplete]
    rfl

def readResult (d : Codec β) (source : Source) (members : Members) : Except Fault (Option β) :=
  match members.find? "result" with
  | none => .ok none
  | some value => d.optional.decode source value

/-- An envelope read with one type of results is read with another one, but for the result, which is
read by itself. -/
theorem decode_of_decode (d : Codec β) {inner : Source} {e : Envelope α}
    (hEnter : source.enter = .ok inner)
    (h : (codec c).decode source (.object members) = .ok e) :
    (codec d).decode source (.object members) = (readResult d inner members).map e.withResult := by
  rw [decode_object c hEnter] at h
  rw [decode_object d hEnter, readResult]
  rcases hMembers : (fields c).takeMembers inner members (fields c).empty with fault | found
  · rw [hMembers] at h
    cases h
  · rw [hMembers] at h
    cases h
    have hOther : (fields d).takeMembers inner members (fields d).empty = _ :=
      takeMembers_setResult d rfl hMembers
    rw [hOther]
    split
    · rfl
    · rcases d.optional.decode inner _ with fault | result <;> rfl

end Envelope

end EdgeApi
