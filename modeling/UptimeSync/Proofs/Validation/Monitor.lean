import UptimeSync.Proofs.Text.Search
import UptimeSync.Validation.Monitor

namespace UptimeSync

namespace Monitor

/-- What is asked of a monitor, field by field. -/
inductive Rule where
  | name
  | type
  | interval
  | maxRetries
  | port
  | url
  | keyword
  | hostname
deriving DecidableEq

namespace Rule

/-- The rules in the order in which they are looked at. -/
def all : List Rule := [name, type, interval, maxRetries, port, url, keyword, hostname]

theorem mem_all (rule : Rule) : rule ∈ all := by
  cases rule <;> decide

/-- The field that a rule is about, as it is called on the wire. -/
def field : Rule → String
  | name => "name"
  | type => "type"
  | interval => "interval"
  | maxRetries => "maxretries"
  | port => "port"
  | url => "url"
  | keyword => "keyword"
  | hostname => "hostname"

/-- Holds of the types of monitors that a rule is for. -/
def AppliesTo (type : String) : Rule → Prop
  | url => type ∈ ["http", "keyword", "json-query", "real-browser"]
  | keyword => type ∈ ["keyword", "grpc-keyword"]
  | hostname =>
    type ∈ ["port", "ping", "dns", "steam", "gamedig", "mqtt", "radius", "tailscale-ping"]
  | _ => True

instance (type : String) : (rule : Rule) → Decidable (rule.AppliesTo type)
  | url | keyword | hostname => List.instDecidableMemOfLawfulBEq type _
  | name | Rule.type | interval | maxRetries | port => isTrue trivial

/-- Holds of a monitor that does what a rule asks. -/
def Met (m : Monitor) : Rule → Prop
  | name => Text.Visible m.name
  | type => m.type ∈ types
  | interval => 20 ≤ m.interval.toInt ∧ m.interval.toInt ≤ 86400
  | maxRetries => 0 ≤ m.maxRetries.toInt
  | port => ∀ port ∈ m.port, 0 ≤ port.toInt ∧ port.toInt ≤ 65535
  | url => ∃ url ∈ m.url, ∃ scheme ∈ ["http://", "https://"], scheme.toList <+: (Text.trim url).toList
  | keyword => ∃ keyword ∈ m.keyword, Text.Visible keyword
  | hostname => ∃ hostname ∈ m.hostname, Text.Visible hostname

/-- A monitor breaks only rules that are for its type. -/
def Holds (m : Monitor) (rule : Rule) : Prop :=
  rule.AppliesTo m.type → rule.Met m

/-- Holds of two monitors that do not differ in the field that a rule is about. -/
def Agrees (m n : Monitor) : Rule → Prop
  | name => n.name = m.name
  | type => n.type = m.type
  | interval => n.interval = m.interval
  | maxRetries => n.maxRetries = m.maxRetries
  | port => n.port = m.port
  | url => n.url = m.url
  | keyword => n.keyword = m.keyword
  | hostname => n.hostname = m.hostname

/-- The check of a rule by itself. -/
def check (m : Monitor) : Rule → Option Violation
  | name => if Text.isAllBlank m.name then some .blankName else none
  | type => if !isKnownType m.type then some (.unknownType m.type) else none
  | interval =>
    if m.interval < minInterval ∨ maxInterval < m.interval then some (.intervalOutOfRange m.interval)
    else none
  | maxRetries => if m.maxRetries < 0 then some .negativeRetries else none
  | port => m.portViolation?
  | url => m.urlViolation?
  | keyword => m.keywordViolation?
  | hostname => m.hostnameViolation?

end Rule

/-- A monitor is checked by one rule after the other, up to the first that it breaks. -/
theorem violation?_eq (m : Monitor) : m.violation? = Rule.all.findSome? (Rule.check m) := by
  simp only [violation?, Rule.all, List.findSome?_cons, List.findSome?_nil, Rule.check]
  split
  · rfl
  split
  · rfl
  split
  · rfl
  split
  · rfl
  cases m.portViolation? <;> cases m.urlViolation? <;> cases m.keywordViolation? <;>
    cases m.hostnameViolation? <;> rfl

namespace Rule

variable {m : Monitor}

theorem needsUrl_iff {type : String} : needsUrl type = true ↔ url.AppliesTo type :=
  List.contains_iff_mem

theorem needsKeyword_iff {type : String} : needsKeyword type = true ↔ keyword.AppliesTo type :=
  List.contains_iff_mem

theorem needsHostname_iff {type : String} : needsHostname type = true ↔ hostname.AppliesTo type :=
  List.contains_iff_mem

/-- A check that is not for the type of a monitor finds nothing. -/
theorem check_of_not_appliesTo {rule : Rule} (hother : ¬rule.AppliesTo m.type) : rule.check m = none := by
  cases rule with
  | url =>
    rw [← needsUrl_iff, Bool.not_eq_true] at hother
    rw [check, urlViolation?, hother]
    rfl
  | keyword =>
    rw [← needsKeyword_iff, Bool.not_eq_true] at hother
    rw [check, keywordViolation?, hother]
    rfl
  | hostname =>
    rw [← needsHostname_iff, Bool.not_eq_true] at hother
    rw [check, hostnameViolation?, hother]
    rfl
  | _ => exact absurd trivial hother

theorem isMissing_eq_false_iff {field : Option String} :
    isMissing field = false ↔ ∃ s ∈ field, Text.Visible s := by
  cases field <;> simp [isMissing, Text.isAllBlank_eq_false_iff]

/-- The address of a monitor is checked after it was trimmed, as if one that is not given were empty. -/
theorem met_url_iff : url.Met m ↔
    let shown := (m.url.map Text.trim).getD ""
    (Text.startsWith shown "http://" || Text.startsWith shown "https://") = true := by
  rw [Met]
  cases m.url with
  | none => decide
  | some u => simp [Text.startsWith_iff]

theorem check_url_of_appliesTo (happlies : url.AppliesTo m.type) : url.check m = none ↔ url.Met m := by
  rw [met_url_iff, check, urlViolation?, needsUrl_iff.mpr happlies]
  generalize (m.url.map Text.trim).getD "" = shown
  by_cases hempty : shown = ""
  · subst hempty
    exact iff_of_false nofun (by decide)
  · rw [Bool.not_true, if_neg Bool.false_ne_true, if_neg (by simpa using hempty)]
    simp only [ite_eq_left_iff, reduceCtorEq, imp_false, Decidable.not_not]

/-- A check that is for the type of a monitor finds nothing just if the monitor does what the rule asks. -/
theorem check_of_appliesTo {rule : Rule} (happlies : rule.AppliesTo m.type) :
    rule.check m = none ↔ rule.Met m := by
  cases rule with
  | name =>
    rw [Met, ← Text.isAllBlank_eq_false_iff, check]
    simp
  | type =>
    rw [Met, check, isKnownType]
    simp
  | interval =>
    have hmin : minInterval.toInt = 20 := rfl
    have hmax : maxInterval.toInt = 86400 := rfl
    rw [Met, check]
    simp [Int64.lt_iff_toInt_lt, hmin, hmax]
  | maxRetries =>
    rw [Met, check]
    simp [Int64.lt_iff_toInt_lt]
  | port =>
    have hlargest : (65535 : Int64).toInt = 65535 := rfl
    rw [Met, check, portViolation?]
    cases m.port with
    | none => simp
    | some p => simp [Int64.le_iff_toInt_le, hlargest]
  | url => exact check_url_of_appliesTo happlies
  | keyword =>
    rw [Met, ← isMissing_eq_false_iff, check, keywordViolation?, needsKeyword_iff.mpr happlies]
    simp
  | hostname =>
    rw [Met, ← isMissing_eq_false_iff, check, hostnameViolation?, needsHostname_iff.mpr happlies]
    simp

/-- A check finds nothing just if the rule is kept. -/
theorem check_eq_none_iff (rule : Rule) : rule.check m = none ↔ rule.Holds m := by
  by_cases happlies : rule.AppliesTo m.type
  · exact (check_of_appliesTo happlies).trans ⟨fun hmet _ => hmet, fun hholds => hholds happlies⟩
  · exact iff_of_true (check_of_not_appliesTo happlies) (absurd · happlies)

/-- What a check finds is named after the field that the rule is about. -/
theorem field_of_check {rule : Rule} {v : Violation} (hcheck : rule.check m = some v) : v.field = rule.field := by
  cases rule with
  | name | type | interval | maxRetries | keyword | hostname =>
    obtain ⟨-, hfound⟩ := Option.ite_none_right_eq_some.mp hcheck
    cases hfound
    rfl
  | port =>
    rw [check, portViolation?] at hcheck
    split at hcheck
    · obtain ⟨-, hfound⟩ := Option.ite_none_left_eq_some.mp hcheck
      cases hfound
      rfl
    · cases hcheck
  | url =>
    obtain ⟨-, hfound⟩ := Option.ite_none_left_eq_some.mp hcheck
    split at hfound
    · cases hfound
      rfl
    · obtain ⟨-, hfound⟩ := Option.ite_none_left_eq_some.mp hfound
      cases hfound
      rfl

/-- A check of a rule looks at nothing but the type and the field that the rule is about. -/
theorem check_congr {rule : Rule} {n : Monitor} (htype : n.type = m.type) (hagrees : rule.Agrees m n) :
    rule.check n = rule.check m := by
  cases rule <;> simp only [Agrees] at hagrees <;>
    simp only [check, portViolation?, urlViolation?, keywordViolation?, hostnameViolation?, htype, hagrees]

end Rule

/-- Holds of two monitors that do not differ in anything that is asked of their type. -/
def Alike (m n : Monitor) : Prop :=
  n.type = m.type ∧ ∀ rule : Rule, rule.AppliesTo m.type → rule.Agrees m n

theorem Alike.violation?_eq {m n : Monitor} (halike : m.Alike n) : n.violation? = m.violation? := by
  obtain ⟨htype, hagrees⟩ := halike
  have hchecks : Rule.check n = Rule.check m := by
    funext rule
    by_cases happlies : rule.AppliesTo m.type
    · exact Rule.check_congr htype (hagrees rule happlies)
    · rw [Rule.check_of_not_appliesTo happlies, Rule.check_of_not_appliesTo (htype ▸ happlies)]
  rw [Monitor.violation?_eq, Monitor.violation?_eq, hchecks]

theorem validate_eq_ok_iff {m : Monitor} : m.validate = .ok () ↔ m.violation? = none := by
  rw [validate]
  cases m.violation? <;> simp

theorem validate_eq_error_iff {m : Monitor} {e : Error} :
    m.validate = .error e ↔ ∃ v, m.violation? = some v ∧ .invalidField v.field v.reason = e := by
  rw [validate]
  cases m.violation? <;> simp

/-- A monitor is accepted just if it keeps every rule that is for its type. Otherwise it is refused with the
field of the first rule, in their order, that it breaks. Nothing else about a monitor counts. -/
theorem validate_by_rules (m : Monitor) :
    (m.validate = .ok () ↔ ∀ rule : Rule, rule.Holds m) ∧
    (∀ e, m.validate = .error e → ∃ before rule after reason, Rule.all = before ++ rule :: after ∧
      (∀ earlier ∈ before, earlier.Holds m) ∧ ¬rule.Holds m ∧ e = .invalidField rule.field reason) ∧
    ∀ n, m.Alike n → n.validate = m.validate := by
  refine ⟨?_, fun e hrefused => ?_, fun n halike => ?_⟩
  · rw [validate_eq_ok_iff, violation?_eq, List.findSome?_eq_none_iff]
    exact ⟨fun hnone rule => (Rule.check_eq_none_iff rule).mp (hnone rule rule.mem_all),
      fun hholds rule _ => (Rule.check_eq_none_iff rule).mpr (hholds rule)⟩
  · obtain ⟨v, hviolation, rfl⟩ := validate_eq_error_iff.mp hrefused
    rw [violation?_eq, List.findSome?_eq_some_iff] at hviolation
    obtain ⟨before, rule, after, hall, hfound, hbefore⟩ := hviolation
    refine ⟨before, rule, after, v.reason, hall, fun earlier hearlier => ?_, fun hholds => ?_, ?_⟩
    · exact (Rule.check_eq_none_iff earlier).mp (hbefore earlier hearlier)
    · rw [(Rule.check_eq_none_iff rule).mpr hholds] at hfound
      cases hfound
    · rw [Rule.field_of_check hfound]
  · rw [validate, halike.violation?_eq, validate]

/-- A monitor that looks for a keyword needs one that can be seen, also if its address is in order. What it holds
for other types of monitors, and for none, makes no difference. -/
theorem validate_blank_keyword :
    let m : Monitor :=
      { name := "api", type := "keyword", interval := 20, url := some " https://a.example", keyword := some " \t" }
    let n : Monitor := { m with hostname := some "", extra := [("keyword", .string "up")] }
    m.validate = .error (.invalidField "keyword" "required for keyword monitors") ∧ ¬Rule.keyword.Holds m ∧
      n.validate = m.validate := by
  intro m n
  have hviolation : m.violation? = some (.missingKeyword "keyword") := by decide +kernel
  have hrefused := validate_eq_error_iff.mpr ⟨_, hviolation, rfl⟩
  have halike : m.Alike n := by
    refine ⟨rfl, fun rule happlies => ?_⟩
    cases rule with
    | hostname => exact absurd happlies (by decide)
    | _ => rfl
  obtain ⟨-, hfirst, hothers⟩ := validate_by_rules m
  obtain ⟨before, rule, after, reason, -, -, hbroken, hverdict⟩ := hfirst _ hrefused
  have hfield : rule.field = "keyword" := (Error.invalidField.inj hverdict).1.symm
  have hrule : rule = .keyword := by
    cases rule with
    | keyword => rfl
    | _ => exact absurd hfield (by decide)
  exact ⟨hrefused, hrule ▸ hbroken, hothers n halike⟩

end Monitor
end UptimeSync
