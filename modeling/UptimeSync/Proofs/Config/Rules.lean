import UptimeSync.Config.Rules
import UptimeSync.Proofs.Text.Search

namespace UptimeSync.Config

/-- Holds of the rules that a configuration breaks. -/
def Breaks (c : Config) : Violation → Prop
  | .blankHost => ∀ char ∈ c.connection.host.toList, Text.isBlank char = true
  | .schemeInHost host => host = c.connection.host ∧ "://".toList <:+: host.toList
  | .zeroPort => c.connection.port = 0
  | .zeroTimeout => c.timeouts.emitMs = 0 ∨ c.timeouts.awaitMs = 0
  | .zeroPollInterval => c.timeouts.pollMs = 0
  | .pollExceedsAwait poll await => poll = c.timeouts.pollMs ∧ await = c.timeouts.awaitMs ∧ await < poll
  | .zeroCapacity => c.retention.heartbeats = 0 ∨ c.retention.importantHeartbeats = 0
  | .loneCredential => c.credentials.username.isSome ≠ c.credentials.password.isSome

variable {c : Config} {v : Violation}

theorem breaks_of_connection (hfound : c.connection.violation? = some v) : c.Breaks v := by
  rw [Connection.violation?] at hfound
  split_ifs at hfound with hblank hscheme hport <;> cases hfound
  · exact Text.isAllBlank_iff.mp hblank
  · exact ⟨rfl, Text.contains_iff.mp hscheme⟩
  · exact hport

theorem breaks_of_timeouts (hfound : c.timeouts.violation? = some v) : c.Breaks v := by
  rw [Timeouts.violation?] at hfound
  split_ifs at hfound with hzero hpoll hexceeds <;> cases hfound
  · exact hzero
  · exact hpoll
  · exact ⟨rfl, rfl, hexceeds⟩

theorem breaks_of_retention (hfound : c.retention.violation? = some v) : c.Breaks v := by
  rw [Retention.violation?] at hfound
  split_ifs at hfound with hzero
  cases hfound
  exact hzero

theorem breaks_of_credentials (hfound : c.credentials.violation? = some v) : c.Breaks v := by
  rw [Credentials.violation?] at hfound
  split_ifs at hfound with htogether
  cases hfound
  exact htogether

theorem violation?_eq_or (c : Config) :
    c.violation? = c.connection.violation?.or (c.timeouts.violation?.or
      (c.retention.violation?.or c.credentials.violation?)) := by
  simp only [violation?, Option.orElse_eq_orElse, Option.orElse_eq_or]

/-- The rule that is found to be broken is broken. -/
theorem breaks_of_violation? (hfound : c.violation? = some v) : c.Breaks v := by
  simp only [violation?_eq_or, Option.or_eq_some_iff] at hfound
  obtain hfound | ⟨-, hfound | ⟨-, hfound | ⟨-, hfound⟩⟩⟩ := hfound
  · exact breaks_of_connection hfound
  · exact breaks_of_timeouts hfound
  · exact breaks_of_retention hfound
  · exact breaks_of_credentials hfound

/-- If no rule is found to be broken, none is. -/
theorem not_breaks_of_violation? (hnone : c.violation? = none) (v : Violation) : ¬ c.Breaks v := by
  simp only [violation?_eq_or, Option.or_eq_none_iff] at hnone
  obtain ⟨hconnection, htimeouts, hretention, hcredentials⟩ := hnone
  have hhost : ¬ (∀ char ∈ c.connection.host.toList, Text.isBlank char = true) ∧
      ¬ "://".toList <:+: c.connection.host.toList ∧ c.connection.port ≠ 0 := by
    rw [← Text.isAllBlank_iff, ← Text.contains_iff]
    rw [Connection.violation?] at hconnection
    split_ifs at hconnection with hblank hscheme hport
    exact ⟨hblank, hscheme, hport⟩
  have htime : ¬ (c.timeouts.emitMs = 0 ∨ c.timeouts.awaitMs = 0) ∧ c.timeouts.pollMs ≠ 0 ∧
      ¬ c.timeouts.awaitMs < c.timeouts.pollMs := by
    rw [Timeouts.violation?] at htimeouts
    split_ifs at htimeouts with hzero hpoll hexceeds
    exact ⟨hzero, hpoll, hexceeds⟩
  cases v with
  | blankHost => exact hhost.1
  | schemeInHost host =>
    rintro ⟨rfl, hscheme⟩
    exact hhost.2.1 hscheme
  | zeroPort => exact hhost.2.2
  | zeroTimeout => exact htime.1
  | zeroPollInterval => exact htime.2.1
  | pollExceedsAwait poll await =>
    rintro ⟨rfl, rfl, hexceeds⟩
    exact htime.2.2 hexceeds
  | zeroCapacity =>
    rw [Retention.violation?] at hretention
    split_ifs at hretention with hzero
    exact hzero
  | loneCredential =>
    rw [Credentials.violation?] at hcredentials
    split_ifs at hcredentials with htogether
    exact not_not_intro htogether

/-- A configuration is accepted if it breaks no rule, and else refused with the text of one that it breaks. -/
theorem validate_cases (c : Config) :
    (∀ v, ¬ c.Breaks v) ∧ c.validate = .ok () ∨
      ∃ v, c.Breaks v ∧ c.validate = .error (.invalidConfig v.message) := by
  rw [validate]
  cases hfound : c.violation? with
  | none => exact .inl ⟨not_breaks_of_violation? hfound, rfl⟩
  | some v => exact .inr ⟨v, breaks_of_violation? hfound, rfl⟩

end UptimeSync.Config
