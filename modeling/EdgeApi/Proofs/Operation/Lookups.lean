import EdgeApi.Operation
import EdgeApi.Proofs.Client.Guard
import EdgeApi.Proofs.Uri.Query

/-!
# Lookups

A lookup asks for one pair of the query for each subject. That a subject is given is a need of the
lookups of domains, but not of those of addresses.
-/

set_option autoImplicit false

namespace EdgeApi

open Client Intelligence

namespace Intelligence

def Address.text : Address → String
  | .v4 text | .v6 text => text

def given (subjects : List String) : List String :=
  subjects.filter fun subject => !subject.isEmpty

variable {α : Type} {codec : Codec α} {endpoint : String} {query : Uri.Query} {needs : List Need}
  {c : Container}

theorem guard_lookup (hLevel : c.level = .account) (hId : c.id ≠ "") :
    (lookup codec endpoint query needs).guard c = Need.checkAll needs := by
  have hScope : (lookup codec endpoint query needs).scope.check c = .ok () :=
    Scope.check_only hLevel hId
  rw [Call.guard, hScope]
  rfl

theorem guard_lookup_unnamed (hLevel : c.level = .account) (hId : c.id = "") :
    (lookup codec endpoint query needs).guard c = .error .missingAccountId := by
  have hScope : (lookup codec endpoint query needs).scope.check c = .error .missingAccountId := by
    change c.require .account = _
    simp [Container.require, Container.validate, hLevel, hId]
  rw [Call.guard, hScope]
  rfl

theorem sent_lookup (hLevel : c.level = .account) (hId : c.id ≠ "")
    (hNeeds : Need.checkAll needs = .ok ()) (s : Session) :
    (((lookup codec endpoint query needs).run c).run s).2.sent =
      if s.cancelled then s.sent
      else s.sent ++ [⟨{
        method := .get, path := Uri.build (c.path ++ "/intel/" ++ endpoint) query }, s.now⟩] := by
  rw [Call.run_of_guard ((guard_lookup hLevel hId).trans hNeeds)]
  exact sent_fetch s

end Intelligence

namespace Operation

/-- The operations that look up subjects at an endpoint, and the key that the subjects go under. -/
inductive LooksUp : {α : Type} → Operation α → (key : String) → (subjects : List String) →
    (endpoint : String) → Prop
  | details (domain : String) : LooksUp (domainDetails domain) "domain" [domain] "domain"
  | detailsOfAll (domains : List String) :
      LooksUp (domainDetailsOfAll domains) "domain" domains "domain/bulk"
  | history (domain : String) :
      LooksUp (domainHistory domain) "domain" [domain] "domain-history"
  | whois (domain : String) : LooksUp (whois domain) "domain" [domain] "whois"
  | addressV4 (text : String) : LooksUp (ipOverview (.v4 text)) "ipv4" [text] "ip"
  | addressV6 (text : String) : LooksUp (ipOverview (.v6 text)) "ipv6" [text] "ip"

variable {α : Type}

/-- Without a subject the operation is refused. With some, one request is sent, unless the token is
cancelled, whose query has one pair for each of them. -/
structure NamesSubjects (op : Operation α) (key : String) (subjects : List String)
    (endpoint : String) : Prop where
  refused : given subjects = [] → ∀ c, c.level = .account → ∀ s,
    ∃ e, (op.run c).run s = (.error e, s) ∧ e.isPrecondition = true
  asked : given subjects ≠ [] → ∀ c, c.level = .account → c.id ≠ "" →
    ∃ text, '?' ∉ text.toList ∧ Uri.Query.decode text = (given subjects).map (Prod.mk key) ∧
      ∀ s, ((op.run c).run s).2.sent =
        if s.cancelled then s.sent
        else s.sent ++ [⟨{
          method := .get, path := c.path ++ "/intel/" ++ endpoint ++ "?" ++ text }, s.now⟩]

def namesNoAddress : Operation α → Prop
  | ipOverview address => address.text = ""
  | _ => False

variable {op : Operation α} {key endpoint : String} {subjects : List String}

/-- What is sent for a lookup is the same for all of them; only addresses come without a need. -/
theorem LooksUp.exists_lookup (h : LooksUp op key subjects endpoint) :
    ∃ codec needs,
      op.call = lookup codec endpoint (Uri.Query.each key (given subjects)) needs ∧
      (given subjects ≠ [] ∨ op.namesNoAddress → Need.checkAll needs = .ok ()) ∧
      (given subjects = [] → ¬ op.namesNoAddress →
        Need.checkAll needs = .error .missingDomain) := by
  have hFilled (text : String) : given [text] = [] ↔ text = "" := by
    simp [given]
  have hDomain (text : String) :
      (given [text] ≠ [] ∨ False → Need.checkAll [.filled text .missingDomain] = .ok ()) ∧
        (given [text] = [] → ¬ False →
          Need.checkAll [.filled text .missingDomain] = .error .missingDomain) := by
    by_cases hText : text = "" <;> simp [Need.checkAll, Need.filled, hFilled, hText]
  have hAddress (key text : String) :
      Uri.Query.text key text = Uri.Query.each key (given [text]) := by
    by_cases hText : text = "" <;> simp [Uri.Query.text, Uri.Query.each, given, hText]
  cases h with
  | details domain => exact ⟨_, _, rfl, hDomain domain⟩
  | history domain => exact ⟨_, _, rfl, hDomain domain⟩
  | whois domain => exact ⟨_, _, rfl, hDomain domain⟩
  | detailsOfAll =>
    refine ⟨_, _, rfl, ?_⟩
    have hAny : (subjects.any fun d => !d.isEmpty) = true ↔ given subjects ≠ [] := by
      simp [given]
    by_cases hGiven : given subjects = [] <;>
      simp [Need.checkAll, hAny, hGiven, namesNoAddress]
  | addressV4 text | addressV6 text =>
    refine ⟨IpOverview.codec.list, [], ?_, fun _ => rfl, ?_⟩
    · rw [← hAddress]
      rfl
    · intro hNone hNamed
      exact absurd ((hFilled text).mp hNone) hNamed

theorem LooksUp.given_of_namesNoAddress (h : LooksUp op key subjects endpoint)
    (hNone : op.namesNoAddress) : given subjects = [] := by
  cases h with
  | addressV4 text | addressV6 text =>
    obtain rfl : text = "" := hNone
    rfl
  | _ => cases hNone

theorem LooksUp.namesSubjects (h : LooksUp op key subjects endpoint)
    (hNamed : ¬ op.namesNoAddress) : op.NamesSubjects key subjects endpoint := by
  obtain ⟨codec, needs, hCall, hMet, hMissing⟩ := h.exists_lookup
  constructor
  · intro hGiven c hLevel s
    rw [run, hCall]
    by_cases hId : c.id = ""
    · exact ⟨_, Call.run_of_guard_eq_error (guard_lookup_unnamed hLevel hId) s, rfl⟩
    · refine ⟨.missingDomain, Call.run_of_guard_eq_error ?_ s, rfl⟩
      rw [guard_lookup hLevel hId, hMissing hGiven hNamed]
  · intro hGiven c hLevel hId
    let query := Uri.Query.each key (given subjects)
    have hQuery : query ≠ [] := by simpa [query, Uri.Query.each] using hGiven
    refine ⟨query.encode, query.not_mem_encode, query.decode_encode, ?_⟩
    intro s
    rw [run, hCall, sent_lookup hLevel hId (hMet (.inl hGiven)), Uri.build_of_ne_nil hQuery]

theorem LooksUp.sent_of_namesNoAddress (h : LooksUp op key subjects endpoint)
    (hNone : op.namesNoAddress) {c : Container} (hLevel : c.level = .account) (hId : c.id ≠ "")
    (s : Session) :
    ((op.run c).run s).2.sent =
      if s.cancelled then s.sent
      else s.sent ++ [⟨{ method := .get, path := c.path ++ "/intel/" ++ endpoint }, s.now⟩] := by
  obtain ⟨codec, needs, hCall, hMet, -⟩ := h.exists_lookup
  rw [run, hCall, sent_lookup hLevel hId (hMet (.inr hNone)), h.given_of_namesNoAddress hNone]
  rfl

theorem LooksUp.not_namesSubjects (h : LooksUp op key subjects endpoint)
    (hNone : op.namesNoAddress) : ¬ op.NamesSubjects key subjects endpoint := by
  intro hNames
  let c : Container := ⟨.account, "A"⟩
  have hId : c.id ≠ "" := by decide
  obtain ⟨e, hRun, -⟩ := hNames.refused (h.given_of_namesNoAddress hNone) c rfl {}
  have hSent := h.sent_of_namesNoAddress hNone rfl hId {}
  rw [hRun] at hSent
  cases hSent

/-- A lookup names its subjects exactly if it is not one of an address without text. That one sends
a request without a query. -/
theorem namesSubjects_iff (h : LooksUp op key subjects endpoint) :
    (op.NamesSubjects key subjects endpoint ↔ ¬ op.namesNoAddress) ∧
      (op.namesNoAddress → ∀ c, c.level = .account → c.id ≠ "" → ∀ s,
        ((op.run c).run s).2.sent =
          if s.cancelled then s.sent
          else s.sent ++ [⟨{ method := .get, path := c.path ++ "/intel/" ++ endpoint },
            s.now⟩]) := by
  refine ⟨⟨?_, h.namesSubjects⟩, ?_⟩
  · intro hNames hNone
    exact h.not_namesSubjects hNone hNames
  · intro hNone c hLevel hId s
    exact h.sent_of_namesNoAddress hNone hLevel hId s

theorem namesSubjects_detailsOfAll :
    LooksUp (domainDetailsOfAll ["b.org", "", "a b"]) "domain" ["b.org", "", "a b"] "domain/bulk" ∧
      (domainDetailsOfAll ["b.org", "", "a b"]).NamesSubjects "domain" ["b.org", "", "a b"]
        "domain/bulk" :=
  have h := LooksUp.detailsOfAll ["b.org", "", "a b"]
  ⟨h, (namesSubjects_iff h).1.mpr not_false⟩

theorem not_namesSubjects_emptyAddress :
    ¬ (ipOverview (.v4 "")).NamesSubjects "ipv4" [""] "ip" ∧
      (((ipOverview (.v4 "")).run ⟨.account, "A"⟩).run {}).2.sent.map
          (fun sent => (sent.request.method, sent.request.path)) =
        [(.get, "/accounts/A/intel/ip")] :=
  ⟨(LooksUp.addressV4 "").not_namesSubjects rfl, by decide +kernel⟩

end Operation

end EdgeApi
