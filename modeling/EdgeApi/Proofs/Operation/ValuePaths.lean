import EdgeApi.Client.Http
import EdgeApi.Proofs.Operation.Route
import EdgeApi.Proofs.Uri.Resolution

/-!
# Paths of values

An operation on a value sends one request, and the locator that the request is made for lies under
the values of its namespace. Only a key of dots leads out of them.
-/

set_option autoImplicit false

namespace EdgeApi

open Client Storage
open Uri (Locator)

namespace Operation

inductive OnValue (ns key : String) : {α : Type} → Operation α → Prop
  | read : OnValue ns key (readValue ns key)
  | write (value : List UInt8) : OnValue ns key (writeValue ns key value)
  | delete : OnValue ns key (deleteValue ns key)

variable {α : Type} {op : Operation α} {ns key : String} {c : Container}

theorem OnValue.guard_eq (h : OnValue ns key op) (hLevel : c.level = .account) (hId : c.id ≠ "")
    (hNs : ns ≠ "") (hKey : key ≠ "") : op.call.guard c = .ok () := by
  have hScope := Scope.check_only hLevel hId
  have hNeeds : ∀ need ∈ KvValue.needs ns key, need.met = true := by
    simp [KvValue.needs, Need.filled, hNs, hKey]
  cases h <;> exact Call.guard_eq_ok_iff.mpr ⟨hScope, hNeeds⟩

theorem sent_readValue (hGuard : (readValue ns key).call.guard c = .ok ()) (s : Session) :
    (((readValue ns key).run c).run s).2.sent =
      if s.cancelled then s.sent
      else s.sent ++ [⟨{ method := .get, path := KvValue.path c ns key }, s.now⟩] := by
  rw [run, Call.run_of_guard hGuard, ← sent_of_send]
  exact congrArg Session.sent (congrArg Prod.snd (run_map _ _ s))

theorem sent_writeValue {value : List UInt8}
    (hGuard : (writeValue ns key value).call.guard c = .ok ()) (s : Session) :
    (((writeValue ns key value).run c).run s).2.sent =
      if s.cancelled then s.sent
      else s.sent ++ [⟨{
        method := .put, path := KvValue.path c ns key, body := some (.bytes value)
        headers := [("content-type", "application/octet-stream")] }, s.now⟩] := by
  rw [run, Call.run_of_guard hGuard, ← sent_of_send]
  refine sent_run_bind s ?_
  intro response s
  exact sent_run_bind s fun _ _ => rfl

theorem sent_deleteValue (hGuard : (deleteValue ns key).call.guard c = .ok ()) (s : Session) :
    (((deleteValue ns key).run c).run s).2.sent =
      if s.cancelled then s.sent
      else s.sent ++ [⟨{ method := .delete, path := KvValue.path c ns key }, s.now⟩] := by
  rw [run, Call.run_of_guard hGuard]
  exact sent_fetch s

theorem OnValue.exists_sent (h : OnValue ns key op) (hGuard : op.call.guard c = .ok ())
    (s : Session) :
    ∃ request : Request, request.path = KvValue.path c ns key ∧
      ((op.run c).run s).2.sent =
        if s.cancelled then s.sent else s.sent ++ [⟨request, s.now⟩] := by
  cases h with
  | read => exact ⟨_, rfl, sent_readValue hGuard s⟩
  | write value => exact ⟨_, rfl, sent_writeValue hGuard s⟩
  | delete => exact ⟨_, rfl, sent_deleteValue hGuard s⟩

end Operation

/-! ## Locators -/

/-- An identifier that stands in a path as it is: of unreserved characters, and not of dots. -/
structure Uri.Solid (id : String) : Prop where
  filled : id ≠ ""
  unreserved : ∀ c ∈ id.toList, isUnreservedChar c = true
  dot : id ≠ "."
  doubleDot : id ≠ ".."

/-- The path lies under the values of a namespace, and its last segment is read as the key. -/
def Uri.Locator.IsValue (u : Locator) (ns key : String) : Prop :=
  ∃ front last : String, u.path = front ++ "/namespaces/" ++ ns ++ "/values/" ++ last ∧
    '/' ∉ last.toList ∧ percentDecode (Text.Utf8.encode last) = Text.Utf8.encode key

namespace Uri

variable {id ns key : String} {c : Container}

theorem Solid.isSegmentChar (h : Solid id) : ∀ c ∈ id.toList, isSegmentChar c = true := by
  intro c hMem
  rw [Uri.isSegmentChar, h.unreserved c hMem, Bool.true_or]

theorem Solid.isDot_eq (h : Solid id) :
    Locator.isDot id.toList = false ∧ Locator.isDoubleDot id.toList = false := by
  have hPercent : '%' ∉ id.toList := by
    intro hMem
    have hKept := h.unreserved '%' hMem
    cases hKept
  rw [Locator.isDot, Locator.isDoubleDot, Locator.plainDots_of_not_mem hPercent]
  constructor
  · exact beq_eq_false_iff_ne.mpr fun hEq => h.dot (String.toList_inj.mp hEq)
  · exact beq_eq_false_iff_ne.mpr fun hEq => h.doubleDot (String.toList_inj.mp hEq)

def valueEnding (hNs : Solid ns) (key : String) : Locator.Ending where
  front := ["storage".toList, "kv".toList, "namespaces".toList, ns.toList, "values".toList]
  last := (segment key).toList
  front_ne_nil := List.cons_ne_nil _ _
  written := by
    simp only [List.cons_append, List.nil_append, List.forall_mem_cons]
    exact ⟨List.all_eq_true.mp rfl, List.all_eq_true.mp rfl, List.all_eq_true.mp rfl,
      hNs.isSegmentChar, List.all_eq_true.mp rfl, fun c => isSegmentChar_of_mem_segment,
      List.forall_mem_nil _⟩
  plain := by
    simp only [List.forall_mem_cons]
    exact ⟨by decide, by decide, by decide, hNs.isDot_eq, by decide, List.forall_mem_nil _⟩

theorem last_valueEnding (hNs : Solid ns) (key : String) :
    (valueEnding hNs key).last = (segment key).toList := by
  rw [valueEnding]

def valueAppended (hId : Solid id) (hNs : Solid ns) (key : String) : Locator.Appended where
  head := 'a'
  first := "ccounts".toList
  second := id.toList
  ending := valueEnding hNs key
  written := by
    simp only [List.forall_mem_cons]
    exact ⟨⟨by decide, List.all_eq_true.mp rfl⟩, hId.isSegmentChar, List.forall_mem_nil _⟩

theorem toList_valuePath (hLevel : c.level = .account) (hId : Solid c.id) (hNs : Solid ns) :
    (KvValue.path c ns key).toList = (valueAppended hId hNs key).text := by
  have hPath : KvValue.path c ns key = "/" ++ c.level.segment ++ "/" ++ c.id ++
      "/storage/kv/namespaces" ++ "/" ++ ns ++ "/values/" ++ segment key := rfl
  simp only [hPath, hLevel, String.toList_append, List.append_assoc, Locator.Appended.text,
    Locator.Appended.afterFirst, Locator.Appended.afterSecond, valueAppended, valueEnding,
    Locator.Ending.segments, Locator.slashed, List.flatMap_append, List.flatMap_cons,
    List.flatMap_nil, List.append_nil]
  rfl

theorem toList_valueEnding (hNs : Solid ns) (key : String) :
    Locator.slashed (valueEnding hNs key).segments = "/storage/kv".toList ++
      ("/namespaces/".toList ++ (ns.toList ++ ("/values/".toList ++ (segment key).toList))) := by
  simp only [valueEnding, Locator.Ending.segments, Locator.slashed, List.flatMap_append,
    List.flatMap_cons, List.flatMap_nil, List.append_nil, List.cons_append]
  rfl

namespace Locator

variable {u : Locator} {before : List Char}

theorem isValue_of_segments (hNs : Solid ns)
    (h : u.path.toList = before ++ slashed (valueEnding hNs key).segments) :
    u.IsValue ns key := by
  refine ⟨String.ofList (before ++ "/storage/kv".toList), segment key, ?_,
    not_mem_segment rfl key, percentDecode_segment key⟩
  apply String.toList_inj.mp
  rw [h, toList_valueEnding]
  simp only [String.toList_append, String.toList_ofList, List.append_assoc]

theorem not_isValue_of_slash (hKey : key ≠ "") (h : u.path.toList = before ++ ['/']) :
    ¬ u.IsValue ns key := by
  rintro ⟨front, last, hPath, hSlash, hLast⟩
  have hSplit : before ++ '/' :: [] =
      (front ++ "/namespaces/" ++ ns ++ "/values").toList ++ '/' :: last.toList := by
    rw [← h, hPath]
    simp only [String.toList_append, List.append_assoc]
    rfl
  have hParts := congrArg (Host.splitAll '/') hSplit
  rw [Host.splitAll_append_cons, Host.splitAll_append_cons,
    Host.splitAll_of_not_mem hSlash] at hParts
  have hEnd := congrArg List.getLast? hParts
  obtain rfl : last = "" := by
    apply String.toList_inj.mp
    simpa [Host.splitAll] using hEnd.symm
  apply hKey
  have hEmpty : Text.Utf8.encode key = Text.Utf8.encode "" := hLast.symm
  rw [← Text.Utf8.decodeLossy_encode key, hEmpty, Text.Utf8.decodeLossy_encode]

theorem valuePath_eq (hLevel : c.level = .account) (hId : Solid c.id) (hNs : Solid ns) :
    KvValue.path c ns key = String.ofList (valueAppended hId hNs key).text := by
  rw [← toList_valuePath hLevel, String.ofList_toList]

/-- The locator of a value lies under its namespace, save that dots lead out of a hierarchy. -/
theorem isValue_iff {base : String} (hQuery : '?' ∉ base.toList) (hFragment : '#' ∉ base.toList)
    (hLevel : c.level = .account) (hId : Solid c.id) (hNs : Solid ns) (hKey : key ≠ "")
    (h : parse (base ++ KvValue.path c ns key) = .ok u) :
    u.IsValue ns key ↔ (u.path.toList.head? = some '/' → key ≠ "." ∧ key ≠ "..") := by
  rw [valuePath_eq hLevel hId hNs] at h
  have hEnding : (valueAppended hId hNs key).ending = valueEnding hNs key := rfl
  rcases path_of_parse hQuery hFragment h with ⟨front, hPath⟩ | ⟨first, before, hFirst, hPath⟩ <;>
    rw [hEnding] at hPath
  · have hRooted : u.path.toList.head? = some '/' := by
      rw [hPath, slashed, slashed, ← List.flatMap_append]
      exact head?_slashed (by simp [Ending.resolved_ne_nil])
    by_cases hDots : key = "." ∨ key = ".."
    · have hWritten : isDot (valueEnding hNs key).last = true ∨
          isDoubleDot (valueEnding hNs key).last = true := by
        rw [last_valueEnding, isDot_segment_iff, isDoubleDot_segment_iff]
        exact hDots
      obtain ⟨more, hMore⟩ := Ending.exists_resolved_of_dots hWritten
      rw [hMore, slashed, slashed, List.flatMap_append, ← List.append_assoc] at hPath
      refine iff_of_false (not_isValue_of_slash hKey hPath) ?_
      intro hPlain
      obtain ⟨hDot, hDouble⟩ := hPlain hRooted
      exact hDots.elim hDot hDouble
    · obtain ⟨hDot, hDouble⟩ := not_or.mp hDots
      have hResolved : (valueEnding hNs key).resolved = (valueEnding hNs key).segments := by
        apply Ending.resolved_of_no_dots
        · rw [last_valueEnding, Bool.eq_false_iff, ne_eq, isDot_segment_iff]
          exact hDot
        · rw [last_valueEnding, Bool.eq_false_iff, ne_eq, isDoubleDot_segment_iff]
          exact hDouble
      rw [hResolved] at hPath
      exact iff_of_true (isValue_of_segments hNs hPath) fun _ => ⟨hDot, hDouble⟩
  · refine iff_of_true (isValue_of_segments hNs hPath) ?_
    intro hRooted
    rw [hPath, List.cons_append, List.head?_cons, Option.some.injEq] at hRooted
    exact absurd hRooted hFirst

end Locator

end Uri

theorem Config.exists_parse_defaultBaseUrl :
    ∃ root, Locator.parse defaultBaseUrl = .ok root ∧
      (Locator.defaultPort? root.scheme).isSome = true :=
  ⟨_, rfl, rfl⟩

namespace Operation

/-- An operation on a value sends one request. After a base without a query or a fragment the
locator of the request is that of the value, save that a key of dots leads out of a hierarchy. After
a base of the web that does not end in a blank there is such a locator. -/
theorem locate_onValue {α : Type} {op : Operation α} {ns key : String} (hOp : OnValue ns key op)
    (c : Container) (s : Session) (e : Http.Endpoint) (hLevel : c.level = .account)
    (hId : Uri.Solid c.id) (hNs : Uri.Solid ns) (hKey : key ≠ "")
    (hQuery : '?' ∉ e.baseUrl.toList) (hFragment : '#' ∉ e.baseUrl.toList) :
    ∃ request : Request,
      ((op.run c).run s).2.sent =
        (if s.cancelled then s.sent else s.sent ++ [⟨request, s.now⟩]) ∧
      (∀ u, e.locate request = .ok u →
        (u.IsValue ns key ↔ (u.path.toList.head? = some '/' → key ≠ "." ∧ key ≠ ".."))) ∧
      ∀ root, Locator.parse e.baseUrl = .ok root →
        (Locator.defaultPort? root.scheme).isSome = true →
        (∀ last, e.baseUrl.toList.getLast? = some last → 0x20 < last.toNat) →
        ∃ u, e.locate request = .ok u ∧ u.path.toList.head? = some '/' := by
  have hGuard := hOp.guard_eq hLevel hId.filled hNs.filled hKey
  obtain ⟨request, hPath, hSent⟩ := hOp.exists_sent hGuard s
  refine ⟨request, hSent, ?_, ?_⟩
  · intro u hLocate
    rw [Http.Endpoint.locate, hPath] at hLocate
    exact Uri.Locator.isValue_iff hQuery hFragment hLevel hId hNs hKey hLocate
  · intro root hRoot hWeb hEnd
    rw [Http.Endpoint.locate, hPath, Uri.Locator.valuePath_eq hLevel hId hNs]
    exact Locator.exists_parse_append _ hEnd hRoot hWeb

theorem locate_onValue_deleteValue :
    let c : Container := ⟨.account, "A"⟩
    let e : Http.Endpoint := ⟨Config.defaultBaseUrl, []⟩
    (OnValue "N" "a/b" (deleteValue "N" "a/b") ∧ c.level = .account ∧ Uri.Solid c.id ∧
      Uri.Solid "N" ∧ "a/b" ≠ "" ∧ '?' ∉ e.baseUrl.toList ∧ '#' ∉ e.baseUrl.toList) ∧
    ∃ request : Request, (((deleteValue "N" "a/b").run c).run {}).2.sent = [⟨request, 0⟩] ∧
      ∃ u, e.locate request = .ok u ∧ u.IsValue "N" "a/b" := by
  intro c e
  have hOp : OnValue "N" "a/b" (deleteValue "N" "a/b") := .delete
  have hId : Uri.Solid c.id := ⟨by decide, List.all_eq_true.mp (by decide), by decide, by decide⟩
  have hNs : Uri.Solid "N" := ⟨by decide, List.all_eq_true.mp (by decide), by decide, by decide⟩
  have hKey : "a/b" ≠ "" := by decide
  have hQuery : '?' ∉ e.baseUrl.toList := by decide
  have hFragment : '#' ∉ e.baseUrl.toList := by decide
  refine ⟨⟨hOp, rfl, hId, hNs, hKey, hQuery, hFragment⟩, ?_⟩
  obtain ⟨request, hSent, hValue, hExists⟩ :=
    locate_onValue hOp c {} e rfl hId hNs hKey hQuery hFragment
  obtain ⟨root, hRoot, hWeb⟩ := Config.exists_parse_defaultBaseUrl
  have hEnd : ∀ last, e.baseUrl.toList.getLast? = some last → 0x20 < last.toNat := by
    intro last hLast
    have hFour : e.baseUrl.toList.getLast? = some '4' := by decide
    rw [← Option.some.inj (hFour.symm.trans hLast)]
    decide
  obtain ⟨u, hLocate, -⟩ := hExists root hRoot hWeb hEnd
  exact ⟨request, hSent, u, hLocate, (hValue u hLocate).mpr fun _ => ⟨by decide, by decide⟩⟩

/-- Deleting the value of this key is a request to delete its namespace. -/
theorem not_isValue_doubleDot :
    (((deleteValue "N" "..").run ⟨.account, "A"⟩).run {}).2.sent.map
        (fun sent => (sent.request.method, sent.request.path)) =
      [(.delete, "/accounts/A/storage/kv/namespaces/N/values/..")] ∧
    ∃ u, Locator.parse (Config.defaultBaseUrl ++
          "/accounts/A/storage/kv/namespaces/N/values/..") = .ok u ∧
      u.path = "/client/v4/accounts/A/storage/kv/namespaces/N/" ∧ ¬ u.IsValue "N" ".." := by
  have hParse : (Locator.parse (Config.defaultBaseUrl ++
      "/accounts/A/storage/kv/namespaces/N/values/..")).map Locator.path =
        .ok "/client/v4/accounts/A/storage/kv/namespaces/N/" := by
    decide +kernel
  have hSlash : "/client/v4/accounts/A/storage/kv/namespaces/N/".toList =
      "/client/v4/accounts/A/storage/kv/namespaces/N".toList ++ ['/'] := rfl
  refine ⟨by decide +kernel, ?_⟩
  rcases hLocator : Locator.parse _ with fault | u
  · rw [hLocator] at hParse
    cases hParse
  · rw [hLocator] at hParse
    have hPath : u.path = "/client/v4/accounts/A/storage/kv/namespaces/N/" :=
      Except.ok.inj hParse
    rw [← hPath] at hSlash
    exact ⟨u, rfl, hPath, Uri.Locator.not_isValue_of_slash (by decide) hSlash⟩

end Operation

end EdgeApi
