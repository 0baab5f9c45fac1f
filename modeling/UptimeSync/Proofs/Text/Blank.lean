import Mathlib.Data.List.DropRight
import UptimeSync.Proofs.Text.Search

namespace UptimeSync.Text

/-- Holds of characters none of which can be seen. -/
def Blanks (cs : List Char) : Prop :=
  ∀ c ∈ cs, isBlank c = true

instance (cs : List Char) : Decidable (Blanks cs) :=
  List.decidableBAll _ cs

variable {front shown back : List Char}

/-- Trimming takes nothing but blanks off either end. -/
theorem exists_blanks_trimmed (cs : List Char) :
    ∃ front back, Blanks front ∧ Blanks back ∧ cs = front ++ trimmed cs ++ back := by
  let kept := cs.dropWhile isBlank
  have hfront : cs.takeWhile isBlank ++ kept = cs := List.takeWhile_append_dropWhile
  have hback : trimmed cs ++ kept.rtakeWhile isBlank = kept := List.rdropWhile_append_rtakeWhile
  refine ⟨cs.takeWhile isBlank, kept.rtakeWhile isBlank, ?_, ?_, ?_⟩
  · exact fun c hc => List.mem_takeWhile_imp hc
  · exact fun c hc => List.mem_rtakeWhile_imp hc
  · rw [List.append_assoc, hback, hfront]

theorem dropWhile_blanks (hfront : Blanks front) (hshown : ∀ c ∈ shown.head?, isBlank c = false) :
    (front ++ shown).dropWhile isBlank = shown := by
  rw [List.dropWhile_append_of_pos hfront]
  cases shown with
  | nil => rfl
  | cons c rest => rw [List.dropWhile_cons, hshown c rfl, if_neg Bool.false_ne_true]

/-- Characters that can all be seen are what is left of them between blanks. -/
theorem trimmed_between (hfront : Blanks front) (hback : Blanks back) (hshown : ∀ c ∈ shown, isBlank c = false) :
    trimmed (front ++ shown ++ back) = shown := by
  by_cases hnone : shown = []
  · subst hnone
    rw [List.append_nil, trimmed_eq_nil_iff]
    exact List.forall_mem_append.mpr ⟨hfront, hback⟩
  · have hinner : (front ++ (shown ++ back)).dropWhile isBlank = shown ++ back := by
      refine dropWhile_blanks hfront fun c hc => hshown c (List.mem_of_mem_head? ?_)
      rwa [List.head?_append_of_ne_nil shown hnone] at hc
    have hreversed : Blanks back.reverse := fun c hc => hback c (List.mem_reverse.mp hc)
    have houter : (back.reverse ++ shown.reverse).dropWhile isBlank = shown.reverse :=
      dropWhile_blanks hreversed fun c hc => hshown c (List.mem_reverse.mp (List.mem_of_mem_head? hc))
    rw [List.append_assoc, trimmed, hinner, List.reverse_append, houter, List.reverse_reverse]

theorem trimmed_of_shown (hshown : ∀ c ∈ shown, isBlank c = false) : trimmed shown = shown := by
  have hnone : Blanks [] := nofun
  have hbetween := trimmed_between hnone hnone hshown
  rwa [List.nil_append, List.append_nil] at hbetween

end UptimeSync.Text
