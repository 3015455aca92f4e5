import Mathlib.Data.List.Basic

namespace PigweedExperimental

/-! # Splitting a list as it grows

One more separator starts a new piece; any other element goes to the last one.
-/

section Splitting

variable {separates : α → Bool} {element : α}

theorem splitOnP_concat_separator (isSeparator : separates element) (list : List α) :
    (list ++ [element]).splitOnP separates = list.splitOnP separates ++ [[]] := by
  rw [List.splitOnP_append_cons list [] isSeparator, List.splitOnP_nil]

theorem splitOnP_concat_other {list : List α} {finished : List (List α)} {last : List α}
    (split : list.splitOnP separates = finished ++ [last]) (isOther : ¬separates element) :
    (list ++ [element]).splitOnP separates = finished ++ [last ++ [element]] := by
  induction list generalizing finished last with
  | nil =>
      rw [List.splitOnP_nil] at split
      rcases List.append_eq_singleton_iff.mp split.symm with ⟨rfl, same⟩ | ⟨_, impossible⟩
      · cases same
        rw [List.nil_append, List.splitOnP_cons_eq_if_modifyHead, if_neg isOther,
          List.splitOnP_nil]
        rfl
      · cases impossible
  | cons head list induction =>
      rw [List.cons_append, List.splitOnP_cons_eq_if_modifyHead]
      rw [List.splitOnP_cons_eq_if_modifyHead] at split
      by_cases headSeparates : separates head
      · rw [if_pos headSeparates] at split ⊢
        cases finished with
        | nil => exact absurd (List.cons.inj split).2 (List.splitOnP_ne_nil _ _)
        | cons first finished =>
            rcases List.cons.inj split with ⟨rfl, rest⟩
            rw [induction rest]
            rfl
      · rw [if_neg headSeparates] at split ⊢
        cases pieces : list.splitOnP separates with
        | nil => exact absurd pieces (List.splitOnP_ne_nil _ _)
        | cons first others =>
            rw [pieces] at split
            cases finished with
            | nil =>
                rcases List.cons.inj split with ⟨rfl, rfl⟩
                rw [@induction [] first pieces]
                rfl
            | cons start finished =>
                rcases List.cons.inj split with ⟨rfl, rfl⟩
                rw [@induction (first :: finished) last pieces]
                rfl

end Splitting

end PigweedExperimental
