import Mathlib.Data.List.Infix
import Mathlib.Data.List.TakeWhile
import UptimeSync.Text.Blank
import UptimeSync.Text.Search

namespace UptimeSync.Text

theorem isInfix_iff {part cs : List Char} : isInfix part cs = true ↔ part <:+: cs := by
  induction cs with
  | nil => simp [isInfix]
  | cons c rest ih =>
    rw [isInfix, Bool.or_eq_true, ih, List.isPrefixOf_iff_prefix, List.infix_cons_iff]

/-- A text contains another one if the characters of the other one stand in it, one next to the other. -/
theorem contains_iff {s part : String} : contains s part = true ↔ part.toList <:+: s.toList :=
  isInfix_iff

theorem startsWith_iff {s start : String} : startsWith s start = true ↔ start.toList <+: s.toList :=
  List.isPrefixOf_iff_prefix

theorem trimmed_eq_nil_iff {cs : List Char} : trimmed cs = [] ↔ ∀ c ∈ cs, isBlank c = true := by
  rw [trimmed, List.reverse_eq_nil_iff, List.dropWhile_eq_nil_iff]
  simp only [List.mem_reverse]
  constructor
  · intro hblank c hc
    rw [← List.takeWhile_append_dropWhile (p := isBlank) (l := cs)] at hc
    obtain hfront | hback := List.mem_append.mp hc
    · exact List.mem_takeWhile_imp hfront
    · exact hblank c hback
  · intro hblank c hc
    exact hblank c ((List.dropWhile_sublist isBlank).subset hc)

/-- Nothing is left of a text that is trimmed if it has no character that can be seen. -/
theorem isAllBlank_iff {s : String} : isAllBlank s = true ↔ ∀ c ∈ s.toList, isBlank c = true := by
  rw [isAllBlank, trim, String.isEmpty_iff, ← trimmed_eq_nil_iff]
  simp

/-- Holds of text with a character that can be seen. -/
def Visible (s : String) : Prop :=
  ∃ c ∈ s.toList, isBlank c = false

theorem isAllBlank_eq_false_iff {s : String} : isAllBlank s = false ↔ Visible s := by
  rw [← Bool.not_eq_true, isAllBlank_iff, Visible]
  simp

end UptimeSync.Text
