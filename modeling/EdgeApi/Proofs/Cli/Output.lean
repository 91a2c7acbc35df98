import EdgeApi.Cli.Run
import EdgeApi.Proofs.Cli.LogLayer
import EdgeApi.Proofs.Json.Printer
import EdgeApi.Proofs.Operation.Telling

/-!
# Output for programs

With the JSON format a listing command prints the items it collects as one document in a line, and a
raw request its result. The lines of the log that are shown come before it, and some commands print
their total after it, styled for a terminal. No document starts like a line of the log or holds an
escape character, so with either of them the output is none.
-/

set_option autoImplicit false

namespace EdgeApi.Cli

open Access Account EdgeApi.Lists Storage

variable {α β : Type}

/-! ## Commands under way -/

namespace Running

theorem exists_of_run_bind_ok {x : Running α} {next : α → Running β} {s s' : Session} {b : β}
    (h : (x >>= next).run s = (.ok b, s')) :
    ∃ a s₁, x.run s = (.ok a, s₁) ∧ (next a).run s₁ = (.ok b, s') := by
  simp only [ExceptT.run, bind, ExceptT.bind, ExceptT.mk, StateT.bind] at h
  rcases hRun : x s with ⟨e | a, s₁⟩
  · rw [hRun] at h
    cases h
  · rw [hRun] at h
    exact ⟨a, s₁, hRun, h⟩

theorem exists_of_run_ofExcept_bind {e : Except Failure α} {next : α → Running β}
    {s s' : Session} {b : β} (h : (ofExcept e >>= next).run s = (.ok b, s')) :
    ∃ a, e = .ok a ∧ (next a).run s = (.ok b, s') := by
  obtain ⟨a, s₁, hGiven, hRest⟩ := exists_of_run_bind_ok h
  cases hGiven
  exact ⟨a, rfl, hRest⟩

theorem run_of_call {op : Operation α} {c : Container} {s s' : Session} {a : α}
    (h : (call op c).run s = (.ok a, s')) : (op.run c).run s = (.ok a, s') := by
  rw [call, ExceptT.run_mk] at h
  split at h <;> cases h
  assumption

theorem exists_of_run {container : Except Failure Container} {op : Operation α}
    {write : α → List UInt8} {s s' : Session} {stdout : List UInt8}
    (h : (ofExcept container >>= fun c => call op c >>= fun a => pure (write a)).run s =
      (.ok stdout, s')) :
    ∃ c a, container = .ok c ∧ (op.run c).run s = (.ok a, s') ∧ stdout = write a := by
  obtain ⟨c, hContainer, hRest⟩ := exists_of_run_ofExcept_bind h
  obtain ⟨a, s₁, hCall, hWrite⟩ := exists_of_run_bind_ok hRest
  cases hWrite
  exact ⟨c, a, hContainer, run_of_call hCall, rfl⟩

end Running

/-! ## What is collected -/

namespace Context

def scope (ctx : Context) : Option String → Except Failure Container
  | some id => .ok ⟨.zone, id⟩
  | none => ctx.container

end Context

namespace Command

variable {ctx : Context} {command : Command}

/-- The call that a command makes, and the value that is to be printed for its result: the items of
a listing, or the result of a raw request. -/
inductive Makes (ctx : Context) :
    Command → {α : Type} → Operation α → Container → (α → Json) → Prop
  | lists {c : Container} (h : ctx.container = .ok c) :
      Makes ctx .lists (.listLists {}) c fun found => (Codec.list ItemList.codec).encode found.1
  | items {list : String} {search : Option String} {c : Container} (h : ctx.container = .ok c) :
      Makes ctx (.items list search) (.listItems list search none none) c
        (Codec.list Item.codec).encode
  | groups {zone name : Option String} {c : Container} (h : ctx.scope zone = .ok c) :
      Makes ctx (.groups zone name) (.listGroups ⟨name, none⟩ {}) c
        fun found => (Codec.list Group.codec).encode found.1
  | users {zone email : Option String} {c : Container} (h : ctx.scope zone = .ok c) :
      Makes ctx (.users zone email) (.listUsers ⟨none, email, none⟩ {}) c
        fun found => (Codec.list User.codec).encode found.1
  | members {status : Option String} {c : Container} (h : ctx.container = .ok c) :
      Makes ctx (.members status) (.listMembers status {}) c
        fun found => (Codec.list Member.codec).encode found.1
  | roles {c : Container} (h : ctx.container = .ok c) :
      Makes ctx .roles (.listRoles {}) c fun found => (Codec.list Role.codec).encode found.1
  | namespaces {c : Container} (h : ctx.container = .ok c) :
      Makes ctx .namespaces (.listNamespaces none none {}) c
        fun found => (Codec.list KvNamespace.codec).encode found.1
  | keys {ns : String} {start : Option String} {c : Container} (h : ctx.container = .ok c) :
      Makes ctx (.keys ns start) (.listKeys ns start none none) c
        (Codec.list StorageKey.codec).encode
  | raw {path method filled : String} {body : Option String} {m : Method} {sent : Option Json}
      (hPath : fillPath ctx path = .ok filled) (hMethod : rawMethod method = .ok m)
      (hBody : rawBody body = .ok sent) :
      Makes ctx (.raw path method body) (.raw m filled sent) ⟨.account, ""⟩ id

/-- The value that a command collects in a session. -/
def Collects (ctx : Context) (command : Command) (s : Session) (value : Json) (s' : Session) :
    Prop :=
  ∃ (α : Type) (op : Operation α) (c : Container) (toJson : α → Json) (a : α),
    Makes ctx command op c toJson ∧ (op.run c).run s = (.ok a, s') ∧ value = toJson a

def isCollecting : Command → Bool
  | addIps .. | getValue .. | putValue .. => false
  | _ => true

def isListing : Command → Bool
  | raw .. => false
  | command => command.isCollecting

theorem Makes.exists_listing {α : Type} {op : Operation α} {c : Container} {toJson : α → Json}
    (h : Makes ctx command op c toJson) (hListing : command.isListing = true) :
    ∃ x, op.listing = some x := by
  cases h with
  | raw => cases hListing
  | _ => exact ⟨_, rfl⟩

/-- The total is printed whatever the format is. -/
def alwaysTotals : Command → Bool
  | groups .. | users .. | members .. | keys .. => true
  | _ => false

/-- What stands after the document. -/
def IsEnding (command : Command) (lines : List String) : Prop :=
  if command.alwaysTotals then ∃ count what, lines = [total count what] else lines = []

theorem stdout_of_run {s s' : Session} {stdout : List UInt8}
    (hFormat : ctx.config.outputFormat = .json) (hCollecting : command.isCollecting = true)
    (h : (command.run ctx).run s = (.ok stdout, s')) :
    ∃ value lines, Collects ctx command s value s' ∧ command.IsEnding lines ∧
      stdout = Text.Utf8.encode (value.render ++ "\n" ++ unlines lines) := by
  have hAlone (text : String) : Text.Utf8.encode text = Text.Utf8.encode (text ++ unlines []) :=
    congrArg Text.Utf8.encode String.append_empty.symm
  obtain ⟨config, account⟩ := ctx
  obtain ⟨_, _, _, _, _, _, _, format⟩ := config
  obtain rfl : format = .json := hFormat
  cases command with
  | lists =>
    obtain ⟨c, found, hContainer, hRun, rfl⟩ := Running.exists_of_run h
    exact ⟨_, [], ⟨_, _, _, _, _, .lists hContainer, hRun, rfl⟩, rfl, hAlone _⟩
  | items list search =>
    obtain ⟨c, found, hContainer, hRun, rfl⟩ := Running.exists_of_run h
    exact ⟨_, [], ⟨_, _, _, _, _, .items hContainer, hRun, rfl⟩, rfl, hAlone _⟩
  | roles =>
    obtain ⟨c, found, hContainer, hRun, rfl⟩ := Running.exists_of_run h
    exact ⟨_, [], ⟨_, _, _, _, _, .roles hContainer, hRun, rfl⟩, rfl, hAlone _⟩
  | namespaces =>
    obtain ⟨c, found, hContainer, hRun, rfl⟩ := Running.exists_of_run h
    exact ⟨_, [], ⟨_, _, _, _, _, .namespaces hContainer, hRun, rfl⟩, rfl, hAlone _⟩
  | groups zone name =>
    cases zone with
    | none | some id =>
      obtain ⟨c, found, hContainer, hRun, rfl⟩ := Running.exists_of_run h
      exact ⟨_, [_], ⟨_, _, _, _, _, .groups hContainer, hRun, rfl⟩, ⟨_, _, rfl⟩, rfl⟩
  | users zone email =>
    cases zone with
    | none | some id =>
      obtain ⟨c, found, hContainer, hRun, rfl⟩ := Running.exists_of_run h
      exact ⟨_, [_], ⟨_, _, _, _, _, .users hContainer, hRun, rfl⟩, ⟨_, _, rfl⟩, rfl⟩
  | members status =>
    obtain ⟨c, found, hContainer, hRun, rfl⟩ := Running.exists_of_run h
    exact ⟨_, [_], ⟨_, _, _, _, _, .members hContainer, hRun, rfl⟩, ⟨_, _, rfl⟩, rfl⟩
  | keys ns start =>
    obtain ⟨c, found, hContainer, hRun, rfl⟩ := Running.exists_of_run h
    exact ⟨_, [_], ⟨_, _, _, _, _, .keys hContainer, hRun, rfl⟩, ⟨_, _, rfl⟩, rfl⟩
  | raw path method body =>
    obtain ⟨filled, hPath, hAfterPath⟩ := Running.exists_of_run_ofExcept_bind h
    obtain ⟨m, hMethod, hAfterMethod⟩ := Running.exists_of_run_ofExcept_bind hAfterPath
    obtain ⟨sent, hBody, hAfterBody⟩ := Running.exists_of_run_ofExcept_bind hAfterMethod
    obtain ⟨result, s₁, hCall, hWrite⟩ := Running.exists_of_run_bind_ok hAfterBody
    cases hWrite
    exact ⟨result, [], ⟨_, _, _, _, _, .raw hPath hMethod hBody, Running.run_of_call hCall, rfl⟩,
      rfl, hAlone _⟩
  | addIps | getValue | putValue => cases hCollecting

end Command

/-! ## Documents -/

/-- The output is one document of the value, and the end of its line. -/
def PrintsDocument (stdout : List UInt8) (j : Json) : Prop :=
  ∃ text, Json.IsDocument text j ∧ stdout = Text.Utf8.encode (text ++ "\n")

def escapeMark : Char := '\x1b'

theorem escapeMark_mem_total (count : ℕ) (what : String) :
    escapeMark ∈ (total count what).toList := by
  simp [total, infoLine, marked, Style.apply, Style.escape, escapeMark]

theorem eq_of_printsDocument {text : String} {j : Json}
    (h : PrintsDocument (Text.Utf8.encode text) j) :
    ∃ document, Json.IsDocument document j ∧ text = document ++ "\n" := by
  obtain ⟨document, hDocument, hSame⟩ := h
  refine ⟨document, hDocument, ?_⟩
  rw [← Text.Utf8.decodeLossy_encode text, hSame, Text.Utf8.decodeLossy_encode]

/-- No document and no end of a line holds the mark. -/
theorem not_printsDocument {text : String} (h : escapeMark ∈ text.toList) (j : Json) :
    ¬ PrintsDocument (Text.Utf8.encode text) j := by
  intro hPrints
  obtain ⟨document, hDocument, rfl⟩ := eq_of_printsDocument hPrints
  rw [String.toList_append, List.mem_append] at h
  rcases h with hMem | hMem
  · rcases hDocument.isPrinted _ hMem with hBlank | hCode
    · revert hBlank
      simp [Json.IsBlank, escapeMark]
    · exact absurd hCode (by decide)
  · revert hMem
    decide

theorem not_printsDocument_of_not_opens {text : String} (h : ¬Json.Opens text.toList) (j : Json) :
    ¬ PrintsDocument (Text.Utf8.encode text) j := by
  intro hPrints
  obtain ⟨document, hDocument, rfl⟩ := eq_of_printsDocument hPrints
  rw [String.toList_append] at h
  exact h (hDocument.opens.append _)

/-! ## Lines -/

section Lines

variable {library : LogLibrary} {env : Environment} {args : List String} {s : Session}
  {p : Prepared} {outcome : Outcome}

theorem layer_of_prepare (h : prepare library env args = .ok p) :
    p.layer = .ofEnvironment library env p.invocation.verbose := by
  unfold prepare at h
  split at h
  · cases h
  · split at h <;> cases h
    rfl

/-- With a line of the log before it or a total after it, a document is none. -/
theorem not_printsDocument_of_lines {command : Command} {layer : LogLayer} {verbose : Bool}
    {events : List LogEvent} {text : String} {lines : List String}
    (hLayer : layer = .ofEnvironment library env verbose) (hEnding : command.IsEnding lines)
    (h : ¬(command.alwaysTotals = false ∧ layer.IsSilent events)) (j : Json) :
    ¬ PrintsDocument
      (Text.Utf8.encode (layer.write events ++ text ++ "\n" ++ unlines lines)) j := by
  by_cases hSilent : layer.IsSilent events
  · rw [Command.IsEnding, if_pos (by simpa [hSilent] using h)] at hEnding
    obtain ⟨count, what, rfl⟩ := hEnding
    exact not_printsDocument (by simp [unlines, escapeMark_mem_total]) j
  · rw [String.append_assoc, String.append_assoc]
    exact not_printsDocument_of_not_opens (LogLayer.not_opens_write hSilent verbose hLayer _) j

theorem run_of_done (hPrepare : prepare library env args = .ok p)
    (hRun : run library env args s = .ok outcome) (hDone : outcome.result = .ok ()) :
    ∃ printed, (p.command.run p.context).run s = (.ok printed, outcome.session) ∧
      outcome.logged = outcome.session.log.drop s.log.length ∧
      outcome.stdout = Text.Utf8.encode (p.layer.write outcome.logged) ++ printed := by
  rw [run, hPrepare] at hRun
  obtain rfl : execute p s = outcome := Except.ok.inj hRun
  rw [execute] at hDone ⊢
  rcases hCommand : (p.command.run p.context).run s with ⟨e | printed, s'⟩
  · rw [hCommand] at hDone
    cases hDone
  · exact ⟨printed, rfl, rfl, rfl⟩

theorem logged_of_collects {value : Json}
    (hCollects : p.command.Collects p.context s value outcome.session)
    (hLogged : outcome.logged = outcome.session.log.drop s.log.length) :
    outcome.session.log = s.log ++ outcome.logged ∧
      (∀ event ∈ outcome.logged, event.IsDetail ∨ s.Tells event) ∧
      (p.command.isListing = true → ∃ event ∈ outcome.logged, event.IsPage) := by
  obtain ⟨α, op, c, toJson, a, hMakes, hRun, -⟩ := hCollects
  have hGrows := op.grows_run c s
  rw [hRun] at hGrows
  obtain ⟨events, hLog, hTold⟩ := hGrows.log
  have hEvents : outcome.logged = events := by rw [hLogged, hLog, List.drop_left]
  refine ⟨hEvents ▸ hLog, hEvents ▸ hTold, fun hListing => ?_⟩
  obtain ⟨x, hOp⟩ := hMakes.exists_listing hListing
  obtain ⟨pages, hPages, hPage⟩ := Operation.tellsPage_of_listing hOp hRun
  rw [hEvents, List.append_cancel_left (hLog.symm.trans hPages)]
  exact hPage

end Lines

/-- Whenever a listing or a raw request succeeds with the JSON format, it prints what is shown of
the log, a document of the value that it collects, and then a line for the total if the command
always has one. So the output is that document alone, and a document at all, exactly if nothing of
the log is shown and the command has no such line. Unless the environment decides what is shown, a
listing that is to be verbose shows something of the log; otherwise only the transport can. -/
theorem printsDocument_iff {library : LogLibrary} {env : Environment} {args : List String}
    {s : Session} {p : Prepared} {outcome : Outcome} (hPrepare : prepare library env args = .ok p)
    (hFormat : p.context.config.outputFormat = .json) (hCollecting : p.command.isCollecting = true)
    (hRun : run library env args s = .ok outcome) (hDone : outcome.result = .ok ()) :
    ∃ value text lines, p.command.Collects p.context s value outcome.session ∧
      Json.IsDocument text value ∧ p.command.IsEnding lines ∧
      outcome.session.log = s.log ++ outcome.logged ∧
      outcome.stdout =
        Text.Utf8.encode (p.layer.write outcome.logged ++ text ++ "\n" ++ unlines lines) ∧
      (PrintsDocument outcome.stdout value ↔
        p.command.alwaysTotals = false ∧ p.layer.IsSilent outcome.logged) ∧
      (¬(p.command.alwaysTotals = false ∧ p.layer.IsSilent outcome.logged) →
        ∀ j, ¬ PrintsDocument outcome.stdout j) ∧
      ((env.lookup "RUST_LOG").bind library.directives = none →
        (p.invocation.verbose = true → p.command.isListing = true →
          ¬p.layer.IsSilent outcome.logged) ∧
        (p.invocation.verbose = false → (∀ event, s.Tells event → event.IsDetail) →
          p.layer.IsSilent outcome.logged)) := by
  obtain ⟨printed, hCommand, hLogged, hStdout⟩ := run_of_done hPrepare hRun hDone
  obtain ⟨value, lines, hCollects, hEnding, rfl⟩ :=
    Command.stdout_of_run hFormat hCollecting hCommand
  obtain ⟨hLog, hTold, hPage⟩ := logged_of_collects hCollects hLogged
  have hDocument := Json.isDocument_render value
  have hLayer := layer_of_prepare hPrepare
  rw [← Text.Utf8.encode_append, ← String.append_assoc, ← String.append_assoc] at hStdout
  have hOther : ¬(p.command.alwaysTotals = false ∧ p.layer.IsSilent outcome.logged) →
      ∀ j, ¬ PrintsDocument outcome.stdout j := by
    intro hNot j
    rw [hStdout]
    exact not_printsDocument_of_lines hLayer hEnding hNot j
  refine ⟨value, value.render, lines, hCollects, hDocument, hEnding, hLog, hStdout,
    ⟨fun hPrints => by_contra fun hNot => hOther hNot value hPrints, ?_⟩, hOther,
    fun hDirectives => ⟨?_, ?_⟩⟩
  · rintro ⟨hTotals, hSilent⟩
    rw [Command.IsEnding, if_neg (by simp [hTotals])] at hEnding
    rw [hStdout, hEnding, LogLayer.write_of_isSilent hSilent, String.empty_append]
    exact ⟨_, hDocument, congrArg Text.Utf8.encode String.append_empty⟩
  · intro hVerbose hListing
    obtain ⟨event, hMem, hEvent⟩ := hPage hListing
    rw [hLayer, hVerbose]
    exact LogLayer.not_isSilent_of_verbose hDirectives hMem hEvent.severity
  · intro hVerbose hDetails
    rw [hLayer, hVerbose]
    exact LogLayer.isSilent_of_isDetail hDirectives fun event hMem =>
      (hTold event hMem).elim id (hDetails event)

/-! One account, and a server that answers once. -/

def oneAccount : Environment :=
  [("CF_ACCOUNT_ID", "A"), ("CF_API_TOKEN", "t")]

def answeringOnce (result : String) : Session where
  inbox := [fun _ => { outcome := .ok {
    status := 200
    body := Text.Utf8.encode <|
      "\x7b\"success\":true,\"errors\":[],\"messages\":[],\"result\":" ++ result ++ "\x7d" } }]

def plainLibrary : LogLibrary where
  directives _ := none
  written := id

theorem exists_of_any {ε : Type} {e : Except ε α} {p : α → Bool}
    (h : e.toOption.any p = true) : ∃ a, e = .ok a ∧ p a = true := by
  cases e with
  | error e => cases h
  | ok a => exact ⟨a, rfl, h⟩

theorem result_eq_ok {outcome : Outcome} (h : outcome.result.toBool = true) :
    outcome.result = .ok () := by
  rcases hResult : outcome.result with e | _
  · rw [hResult] at h
    cases h
  · rfl

theorem printsDocument_iff_raw :
    ∃ p outcome,
      (prepare plainLibrary oneAccount ["raw", "/x", "-f", "json"] = .ok p ∧
        p.context.config.outputFormat = .json ∧ p.command.isCollecting = true ∧
        run plainLibrary oneAccount ["raw", "/x", "-f", "json"] (answeringOnce "[1.5,\"a\"]") =
          .ok outcome ∧
        outcome.result = .ok ()) ∧
      ∃ value, PrintsDocument outcome.stdout value := by
  obtain ⟨p, hPrepare, hParts⟩ := exists_of_any
    (show (prepare plainLibrary oneAccount ["raw", "/x", "-f", "json"]).toOption.any
      (fun p => decide (p.context.config.outputFormat = .json ∧
        p.invocation = ⟨false, some "A", some "json", .raw "/x" "GET" none⟩)) = true by
        decide +kernel)
  obtain ⟨hFormat, hInvocation⟩ := of_decide_eq_true hParts
  have hCommand : p.command = .raw "/x" "GET" none := congrArg Invocation.command hInvocation
  obtain ⟨outcome, hRun, hResult⟩ := exists_of_any
    (show (run plainLibrary oneAccount ["raw", "/x", "-f", "json"]
        (answeringOnce "[1.5,\"a\"]")).toOption.any
      (fun outcome => outcome.result.toBool) = true by decide +kernel)
  have hDone := result_eq_ok hResult
  have hCollecting : p.command.isCollecting = true := by rw [hCommand]; rfl
  refine ⟨p, outcome, ⟨hPrepare, hFormat, hCollecting, hRun, hDone⟩, ?_⟩
  obtain ⟨value, -, -, -, -, -, -, -, hAlone, -, hShown⟩ :=
    printsDocument_iff hPrepare hFormat hCollecting hRun hDone
  have hSilent := (hShown rfl).2 (congrArg Invocation.verbose hInvocation) <| by
    rintro event ⟨reply, hReply, request, elapsed, hMem⟩
    rw [List.mem_singleton.mp hReply] at hMem
    cases hMem
  exact ⟨value, hAlone.mpr ⟨by rw [hCommand]; rfl, hSilent⟩⟩

/-- The keys are followed by their number, in bold and blue. -/
theorem not_printsDocument_keys :
    ∃ outcome, run plainLibrary oneAccount ["kv", "keys", "N", "-f", "json"]
        (answeringOnce "[\x7b\"name\":\"k\"\x7d]") = .ok outcome ∧
      outcome.result = .ok () ∧
      outcome.stdout =
        Text.Utf8.encode ("[\x7b\"name\":\"k\"\x7d]\n" ++ total 1 "keys" ++ "\n") ∧
      ∀ j, ¬ PrintsDocument outcome.stdout j := by
  obtain ⟨outcome, hRun, hParts⟩ := exists_of_any
    (show (run plainLibrary oneAccount ["kv", "keys", "N", "-f", "json"]
        (answeringOnce "[\x7b\"name\":\"k\"\x7d]")).toOption.any
      (fun outcome => outcome.result.toBool && decide (outcome.stdout =
        Text.Utf8.encode ("[\x7b\"name\":\"k\"\x7d]\n" ++ total 1 "keys" ++ "\n"))) = true by
        decide +kernel)
  obtain ⟨hResult, hStdout⟩ := Bool.and_eq_true_iff.mp hParts
  have hPrinted := of_decide_eq_true hStdout
  have hMark : escapeMark ∈
      ("[\x7b\"name\":\"k\"\x7d]\n" ++ total 1 "keys" ++ "\n").toList := by
    simp [escapeMark_mem_total]
  refine ⟨outcome, hRun, result_eq_ok hResult, hPrinted, ?_⟩
  intro j
  rw [hPrinted]
  exact not_printsDocument hMark j

end EdgeApi.Cli
