import EdgeApi.Proofs.Operation.ValuePaths

/-!
# Keys of values

A key stands in the path of its value as a text of unreserved characters and codes, from which its
bytes are read back. So different keys have different paths, and reading, writing and deleting the
value of a key go to the same one.
-/

set_option autoImplicit false

namespace EdgeApi

open Client Storage

namespace Uri

/-- A text of unreserved characters and of percent signs that two hexadecimal digits follow. -/
inductive Escaped : List Char → Prop
  | nil : Escaped []
  | kept {c : Char} {rest : List Char} : isUnreservedChar c = true → Escaped rest →
      Escaped (c :: rest)
  | code {high low : Char} {rest : List Char} : high ∈ "0123456789ABCDEF".toList →
      low ∈ "0123456789ABCDEF".toList → Escaped rest → Escaped ('%' :: high :: low :: rest)

theorem upperHex_mem {n : Nat} (h : n < 16) : upperHex n ∈ "0123456789ABCDEF".toList := by
  revert n
  decide

theorem Escaped.writtenByte_append {rest : List Char} (h : Escaped rest) (b : UInt8) :
    Escaped (writtenByte b ++ rest) := by
  have hByte := b.toNat_lt
  rw [writtenByte]
  split
  · rename_i hKept
    exact .kept (isUnreservedChar_ofNat hKept) h
  · exact .code (upperHex_mem (by omega)) (upperHex_mem (by omega)) h

theorem escaped_segment (s : String) : Escaped (segment s).toList := by
  rw [toList_segment]
  induction Text.Utf8.encode s with
  | nil => exact .nil
  | cons b bytes ih =>
    rw [List.flatMap_cons]
    exact ih.writtenByte_append b

end Uri

namespace Operation

variable {α : Type} {op : Operation α} {ns key : String} {c : Container}

theorem OnValue.guard_eq_ok_iff (h : OnValue ns key op) (hLevel : c.level = .account)
    (hKey : key ≠ "") : op.call.guard c = .ok () ↔ c.id ≠ "" ∧ ns ≠ "" := by
  constructor
  · intro hGuard
    obtain ⟨hScope, hNeeds⟩ : c.require .account = .ok () ∧
        ∀ need ∈ KvValue.needs ns key, need.met = true := by
      cases h <;> exact Call.guard_eq_ok_iff.mp hGuard
    have hNs : (Need.filled ns KvNamespace.collection.unidentified).met = true :=
      hNeeds _ List.mem_cons_self
    refine ⟨?_, by simpa [Need.filled] using hNs⟩
    intro hId
    rw [Container.require, if_pos hLevel, Container.validate, if_pos (by simp [hId]), hLevel]
      at hScope
    cases hScope
  · rintro ⟨hId, hNs⟩
    exact h.guard_eq hLevel hId hNs hKey

def sentInNamespace (c : Container) (ns : String) (s : Session) (request : Request) : List Sent :=
  if s.cancelled || c.id.isEmpty || ns.isEmpty then s.sent else s.sent ++ [⟨request, s.now⟩]

theorem OnValue.sent_eq (h : OnValue ns key op) (hLevel : c.level = .account) (hKey : key ≠ "")
    {request : Request} {s : Session}
    (hSent : op.call.guard c = .ok () → ((op.run c).run s).2.sent =
      if s.cancelled then s.sent else s.sent ++ [⟨request, s.now⟩]) :
    ((op.run c).run s).2.sent = sentInNamespace c ns s request := by
  have hGuardIff := h.guard_eq_ok_iff hLevel hKey
  rw [sentInNamespace]
  cases hGuard : op.call.guard c with
  | ok _ =>
    obtain ⟨hId, hNs⟩ := hGuardIff.mp hGuard
    rw [hSent hGuard]
    simp [hId, hNs]
  | error e =>
    have hRefused : ¬(c.id ≠ "" ∧ ns ≠ "") := by
      rw [← hGuardIff, hGuard]
      exact nofun
    rw [run, Call.run_of_guard_eq_error hGuard]
    by_cases hId : c.id = ""
    · simp [hId]
    · have hNs : ns = "" := not_not.mp fun hNs => hRefused ⟨hId, hNs⟩
      simp [hNs]

/-- What stands after the values of a namespace is written for the key and read as its bytes; no
other key has the same path. Reading, writing and deleting the value of the key go there, and what is
written is sent as it is. -/
theorem key_of_valuePath {c : Container} (hLevel : c.level = .account) (ns : String) {key : String}
    (hKey : key ≠ "") :
    (∃ last : String,
      KvValue.path c ns key =
        "/accounts/" ++ c.id ++ "/storage/kv/namespaces/" ++ ns ++ "/values/" ++ last ∧
      Uri.Escaped last.toList ∧ (∀ mark ∈ ['/', '?', '#', ' '], mark ∉ last.toList) ∧
      Uri.percentDecode (Text.Utf8.encode last) = Text.Utf8.encode key) ∧
    (∀ other, KvValue.path c ns other = KvValue.path c ns key → other = key) ∧
    ∀ (s : Session) (value : List UInt8),
      (((readValue ns key).run c).run s).2.sent = sentInNamespace c ns s
        { method := .get, path := KvValue.path c ns key } ∧
      (((writeValue ns key value).run c).run s).2.sent = sentInNamespace c ns s
        { method := .put, path := KvValue.path c ns key, body := some (.bytes value)
          headers := [("content-type", "application/octet-stream")] } ∧
      (((deleteValue ns key).run c).run s).2.sent = sentInNamespace c ns s
        { method := .delete, path := KvValue.path c ns key } := by
  refine ⟨⟨Uri.segment key, ?_, Uri.escaped_segment key, ?_, Uri.percentDecode_segment key⟩, ?_, ?_⟩
  · have hPath : KvValue.path c ns key = "/" ++ c.level.segment ++ "/" ++ c.id ++
        "/storage/kv/namespaces" ++ "/" ++ ns ++ "/values/" ++ Uri.segment key := rfl
    rw [hPath, hLevel]
    simp only [String.append_assoc]
    rfl
  · intro mark hMark
    have hUnwritten : Uri.isSegmentChar mark = false := by
      simp only [List.mem_cons, List.not_mem_nil, or_false] at hMark
      rcases hMark with rfl | rfl | rfl | rfl <;> rfl
    exact Uri.not_mem_segment hUnwritten key
  · intro other hSame
    apply Uri.segment_injective
    exact (String.append_right_inj _).mp hSame
  · intro s value
    exact ⟨OnValue.read.sent_eq hLevel hKey fun hGuard => sent_readValue hGuard s,
      (OnValue.write value).sent_eq hLevel hKey fun hGuard => sent_writeValue hGuard s,
      OnValue.delete.sent_eq hLevel hKey fun hGuard => sent_deleteValue hGuard s⟩

theorem key_of_valuePath_percent :
    let c : Container := ⟨.account, "A"⟩
    (c.level = .account ∧ "5%2F/é" ≠ "") ∧
      KvValue.path c "N" "5%2F/é" =
        "/accounts/A/storage/kv/namespaces/N/values/5%252F%2F%C3%A9" ∧
      (∀ other, KvValue.path c "N" other = KvValue.path c "N" "5%2F/é" → other = "5%2F/é") ∧
      (((writeValue "N" "5%2F/é" [0, 255]).run c).run {}).2.sent = [⟨{
        method := .put, path := KvValue.path c "N" "5%2F/é", body := some (.bytes [0, 255])
        headers := [("content-type", "application/octet-stream")] }, 0⟩] := by
  intro c
  have hKey : "5%2F/é" ≠ "" := by decide
  obtain ⟨-, hOther, hSent⟩ := key_of_valuePath (c := c) rfl "N" hKey
  exact ⟨⟨rfl, hKey⟩, by decide +kernel, hOther, (hSent {} [0, 255]).2.1⟩

end Operation

end EdgeApi
