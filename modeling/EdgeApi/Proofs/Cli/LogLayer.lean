import EdgeApi.Cli.LogLayer
import EdgeApi.Proofs.Json.Grammar

/-!
# Lines of the log

Every line of the log starts with the severity of its event, or with the code of its colour. No
document starts like this.
-/

set_option autoImplicit false

namespace EdgeApi.Cli.LogLayer

open Json

/-- None of the events is shown. -/
def IsSilent (layer : LogLayer) (events : List LogEvent) : Prop :=
  ∀ event ∈ events, layer.shows event = false

variable {layer : LogLayer} {events : List LogEvent} {library : LogLibrary} {env : Environment}

theorem write_of_isSilent (h : layer.IsSilent events) : layer.write events = "" := by
  have hNone : events.filter layer.shows = [] := by
    rw [List.filter_eq_nil_iff]
    intro event hMem
    simp [h event hMem]
  rw [write, hNone]
  rfl

/-- The output starts with a line of the log unless that is silent. -/
theorem exists_write (h : ¬layer.IsSilent events) :
    ∃ event rest, layer.write events = layer.line event ++ rest := by
  rcases hShown : events.filter layer.shows with _ | ⟨event, shown⟩
  · refine absurd (fun event hMem => ?_) h
    simpa using List.filter_eq_nil_iff.mp hShown event hMem
  · exact ⟨event, String.join (shown.map layer.line), by rw [write, hShown]; simp⟩

theorem not_opens_format (coloured : Bool) (event : LogEvent) (written : String)
    (more : List Char) : ¬Opens ((format coloured event written).toList ++ more) := by
  obtain ⟨severity, target, message⟩ := event
  cases coloured with
  | true =>
    rw [format, if_pos rfl]
    simp only [painted, String.toList_append, List.append_assoc]
    exact not_opens_cons (c := '\x1b') (by decide) (by decide)
  | false =>
    rw [format, if_neg Bool.false_ne_true]
    simp only [String.toList_append, List.append_assoc]
    cases severity with
    | trace => exact not_opens_cons (c := 'T') (by decide) (by decide)
    | debug => exact not_opens_cons (c := 'D') (by decide) (by decide)
    | info => exact not_opens_space (not_opens_cons (c := 'I') (by decide) (by decide))
    | warn => exact not_opens_space (not_opens_cons (c := 'W') (by decide) (by decide))
    | error => exact not_opens_cons (c := 'E') (by decide) (by decide)

theorem not_opens_write (h : ¬layer.IsSilent events) (verbose : Bool)
    (hLayer : layer = ofEnvironment library env verbose) (more : String) :
    ¬Opens (layer.write events ++ more).toList := by
  obtain ⟨event, rest, hWrite⟩ := exists_write h
  rw [hWrite, String.append_assoc, String.toList_append, hLayer]
  exact not_opens_format _ _ _ _

theorem shows_ofEnvironment (h : (env.lookup "RUST_LOG").bind library.directives = none)
    (verbose : Bool) (event : LogEvent) :
    (ofEnvironment library env verbose).shows event =
      decide ((if verbose then Severity.debug else Severity.info).rank ≤ event.severity.rank) := by
  rw [ofEnvironment, h]
  rfl

theorem not_isSilent_of_verbose (h : (env.lookup "RUST_LOG").bind library.directives = none)
    {event : LogEvent} (hMem : event ∈ events) (hDebug : event.severity = .debug) :
    ¬(ofEnvironment library env true).IsSilent events := by
  intro hSilent
  have hShown := hSilent event hMem
  rw [shows_ofEnvironment h, hDebug] at hShown
  cases hShown

theorem isSilent_of_isDetail (h : (env.lookup "RUST_LOG").bind library.directives = none)
    (hDetails : ∀ event ∈ events, event.IsDetail) :
    (ofEnvironment library env false).IsSilent events := by
  intro event hMem
  rw [shows_ofEnvironment h, decide_eq_false_iff_not, Nat.not_le]
  exact hDetails event hMem

end EdgeApi.Cli.LogLayer
