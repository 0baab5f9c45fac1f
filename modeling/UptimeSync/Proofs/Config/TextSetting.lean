import UptimeSync.Proofs.Config.Layers
import UptimeSync.Proofs.Config.Literal

namespace UptimeSync.Config

open Value

namespace Setting

/-- Holds of the settings that are texts. -/
def isText : Setting → Bool
  | host | username | password | token | jwt => true
  | _ => false

/-- The text that a configuration has for a setting, if it has one. -/
def text? (c : Config) : Setting → Option String
  | host => some c.connection.host
  | username => c.credentials.username
  | password => c.credentials.password
  | token => c.credentials.token
  | jwt => c.credentials.jwt
  | _ => none

theorem text?_of_decode? {setting : Setting} (htext : setting.isText = true) {v : Value} {c : Config}
    (hdecode : setting.decode? v = some (setting.of c)) : setting.text? c = v.toText? := by
  cases setting with
  | host => exact hdecode.symm
  | username | password | token | jwt =>
    cases v with
    | nil => exact (Option.some.inj hdecode).symm
    | list | table => cases hdecode
    | _ => exact (Option.some.inj hdecode).symm
  | _ => cases htext

end Setting

namespace Value

/-- Holds of a layer that neither sets a field of a section nor takes the place of the whole section. -/
def Spares (layer : Entries) (part : Section) (field : String) : Prop :=
  ∀ entry ∈ layer, (Path.ofKey entry.1).head? = some (.key part.name) →
    (Path.ofKey entry.1).isFieldwise = true ∧ Path.ofKey entry.1 ≠ [.key part.name, .key field]

instance (layer : Entries) (part : Section) (field : String) : Decidable (Spares layer part field) :=
  inferInstanceAs (Decidable (∀ entry ∈ layer, _))

variable {layer : Entries} {root after v : Value} {part : Section} {field : String}

theorem Spares.assigned?_eq_none (hspares : Spares layer part field) : assigned? layer part field = none := by
  have hnone : layer.filter (fun entry => Path.ofKey entry.1 = [.key part.name, .key field]) = [] := by
    rw [List.filter_eq_nil_iff]
    intro entry hentry hpath
    have hpath : Path.ofKey entry.1 = [.key part.name, .key field] := of_decide_eq_true hpath
    exact (hspares entry hentry (by rw [hpath]; rfl)).2 hpath
  rw [assigned?, hnone]
  rfl

theorem Spares.laysFields (hspares : Spares layer part field)
    (hlist : (root.entries.lookup part.name).any isList = false) : LaysFields layer part root :=
  fun entry hentry henters => ⟨(hspares entry hentry henters).1, hlist⟩

/-- A plain value that is assigned to a field of a section is stated for it, and the section is no list then. -/
theorem stated?_assign_self (hplain : v.isCompound = false)
    (hassign : assign v [.key part.name, .key field] root = .ok after) :
    after.stated? part field = some v ∧ (after.entries.lookup part.name).any isList = false := by
  obtain ⟨inner, hinner, rfl⟩ := exists_inner_of_assign hplain hassign
  have hsection : (table (Keyed.insert root.entries part.name inner)).entries.lookup part.name = some inner :=
    Keyed.lookup_insert_self _ _ _
  rw [assign_key_of_plain hplain] at hinner
  cases hinner
  have hlist : (some (table (Keyed.insert ((root.entries.lookup part.name).getD nil).entries field v))).any isList =
      false := rfl
  rw [← hsection] at hlist
  refine ⟨?_, hlist⟩
  rw [stated?_of_not_list hlist, hsection]
  exact Keyed.lookup_insert_self _ _ _

theorem overlay_append (root : Value) (first second : Entries) :
    root.overlay (first ++ second) = root.overlay first >>= (·.overlay second) :=
  List.foldlM_append

end Value

namespace Environment

theorem entries_append (first second : List (String × String)) :
    entries (first ++ second) = entries first ++ entries second :=
  List.filterMap_append

/-- The variable for a setting assigns its value to the field of the setting. -/
theorem entries_variable (setting : Setting) {text : String} (hne : text ≠ "") :
    ∃ key, entries [(setting.variableName, text)] = [(key, value text)] ∧
      Path.ofKey key = [.key setting.within.name, .key setting.field] := by
  obtain ⟨key, hkey, hpath⟩ := Option.map_eq_some_iff.mp setting.key?_variableName
  refine ⟨key, ?_, hpath⟩
  simp [entries, hne, hkey]

end Environment

section

variable {file : Option File} {before after : List (String × String)} {setting : Setting} {text : String} {c : Config}

/-- A setting is made of the value of its variable if no later one sets it, or the whole section, anew. -/
theorem decode?_of_load (hne : text ≠ "")
    (hspares : Spares (Environment.entries after) setting.within setting.field)
    (hload : load file (before ++ (setting.variableName, text) :: after) = .ok c) :
    setting.decode? (Environment.value text) = some (setting.of c) := by
  obtain ⟨root, merged, -, hoverlay, hread, -⟩ := ofValue?_of_load hload
  obtain ⟨key, hentry, hpath⟩ := Environment.entries_variable setting hne
  rw [List.append_cons, Environment.entries_append, Environment.entries_append, hentry, List.append_assoc,
    overlay_append] at hoverlay
  -- What lies below the variable does not matter, and what comes after it spares its field.
  obtain ⟨below, -, hoverlay⟩ := Except.bind_eq_ok.mp hoverlay
  obtain ⟨next, hassign, hoverlay⟩ := Except.bind_eq_ok.mp hoverlay
  have hassign : assign (Environment.value text) (Path.ofKey key) below = .ok next := hassign
  rw [hpath] at hassign
  obtain ⟨hstated, hlist⟩ := stated?_assign_self (isCompound_environmentValue text) hassign
  have hsetting := read?_of_overlay hoverlay hread (hspares.laysFields hlist)
  rw [hspares.assigned?_eq_none, hstated] at hsetting
  exact hsetting

end

/-- A setting for a text is loaded as the value that its variable denotes is written out. That is the text of the
variable, character for character, if and only if the text is literal. Digits lose the zeros at their front, so that
they are kept if they begin with none or are a single zero. A number with a plus sign or an exponent is always
changed, and a text with a character that numerals do not have is kept, unless it is a word for a flag or a
number. -/
theorem text_setting_of_variable {file : Option File} {before after : List (String × String)} {setting : Setting}
    {text : String} {c : Config} (htext : setting.isText = true) (hne : text ≠ "")
    (hspares : Spares (Environment.entries after) setting.within setting.field)
    (hload : load file (before ++ (setting.variableName, text) :: after) = .ok c) :
    setting.text? c = (Environment.value text).toText? ∧
      (setting.text? c = some text ↔ Environment.Literal text) ∧
      ((∀ ch ∈ text.toList, ch.isDigit = true) → Decimal.digitsValue text.toList ≤ Int64.maxValue.toInt →
        setting.text? c = some (String.ofList (Decimal.withoutLeadingZeros text.toList)) ∧
        (setting.text? c = some text ↔ text.toList = ['0'] ∨ text.toList.head? ≠ some '0')) ∧
      (Environment.isNumber text = true → (∃ ch ∈ text.toList, ch ∈ ['+', 'e', 'E']) →
        setting.text? c ≠ some text) ∧
      (Environment.isFlagWord text = false → Decimal.isNumberWord text.toList = false →
        (∃ ch ∈ text.toList, Decimal.isNumeralChar ch = false) → setting.text? c = some text) := by
  have hwritten : setting.text? c = (Environment.value text).toText? :=
    Setting.text?_of_decode? htext (decode?_of_load hne hspares hload)
  have hliteral : setting.text? c = some text ↔ Environment.Literal text := by
    rw [hwritten, Environment.toText?_value_eq_some_iff]
  refine ⟨hwritten, hliteral, fun hdigits hfits => ?_, fun hnumber hmarked => ?_, fun hflag hword hother => ?_⟩
  · exact ⟨hwritten.trans (Environment.toText?_value_of_isDigit hne hdigits hfits),
      hliteral.trans (Environment.literal_iff_of_isDigit hne hdigits hfits)⟩
  · obtain ⟨ch, hch, hmark⟩ := hmarked
    exact fun hsame => Environment.not_literal_of_mem hch hmark hnumber (hliteral.mp hsame)
  · obtain ⟨ch, hch, hchar⟩ := hother
    exact hliteral.mpr (Environment.literal_of_mem hch hchar hflag hword)

/-- A two-factor token that could be no number is kept, also over the one of a file. -/
theorem token_of_variable :
    let file := some (File.text "[credentials]\ntoken = \"from the file\"")
    let c : Config := { credentials := { token := some "k3y+1" } }
    Spares (Environment.entries [("LANG", "C")]) .credentials "token" ∧
      load file [(Setting.token.variableName, "k3y+1"), ("LANG", "C")] = .ok c ∧
      Setting.token.text? c = some "k3y+1" := by
  intro file c
  have hspares : Spares (Environment.entries [("LANG", "C")]) .credentials "token" := by decide +kernel
  have hload : load file [(Setting.token.variableName, "k3y+1"), ("LANG", "C")] = .ok c :=
    Except.toOption_eq_some.mp (by decide +kernel)
  obtain ⟨-, -, -, -, hkept⟩ :=
    @text_setting_of_variable file [] [("LANG", "C")] .token "k3y+1" c rfl (by decide) hspares hload
  exact ⟨hspares, hload, hkept (by decide +kernel) (by decide +kernel) ⟨'k', by decide, by decide⟩⟩

/-- A two-factor token of digits loses the zero at its front, though not if a file has it. -/
theorem token_loses_zero :
    load (some (.text "[credentials]\ntoken = \"012345\"")) [] = .ok { credentials := { token := some "012345" } } ∧
      load none [("UPTIME_KUMA__CREDENTIALS__TOKEN", "012345")] =
        .ok { credentials := { token := some "12345" } } :=
  ⟨Except.toOption_eq_some.mp (by decide +kernel), Except.toOption_eq_some.mp (by decide +kernel)⟩

end UptimeSync.Config
