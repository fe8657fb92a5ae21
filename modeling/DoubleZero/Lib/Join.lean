import Mathlib.Tactic

/-!
# Lists joined by a separator

Parts that don't contain the separator and are not empty are told apart in a joined list: a joined
list starts with its first part (`append_cons_inj`), and there is only one list of parts behind it
(`intercalate_inj`).
-/

namespace DoubleZero.Lib

variable {α : Type} {sep : α}

/-- What stands before the first separator. -/
theorem append_cons_inj {xs ys xs' ys' : List α} (hxs : sep ∉ xs) (hys : sep ∉ ys)
    (h : xs ++ sep :: xs' = ys ++ sep :: ys') : xs = ys ∧ xs' = ys' := by
  induction xs generalizing ys with
  | nil =>
    cases ys with
    | nil => exact ⟨rfl, (List.cons.inj h).2⟩
    | cons y ys =>
      obtain ⟨rfl, -⟩ := List.cons.inj h
      exact absurd (List.mem_cons_self ..) hys
  | cons x xs ih =>
    cases ys with
    | nil =>
      obtain ⟨rfl, -⟩ := List.cons.inj h
      exact absurd (List.mem_cons_self ..) hxs
    | cons y ys =>
      obtain ⟨rfl, htail⟩ := List.cons.inj h
      obtain ⟨rfl, rfl⟩ := ih (fun hmem => hxs (List.mem_cons_of_mem _ hmem))
        (fun hmem => hys (List.mem_cons_of_mem _ hmem)) htail
      exact ⟨rfl, rfl⟩

/-- A text without the separator is no text with one. -/
theorem ne_append_cons {xs ys ys' : List α} (hxs : sep ∉ xs) : xs ≠ ys ++ sep :: ys' := by
  rintro rfl
  exact hxs (List.mem_append_right _ (List.mem_cons_self ..))

theorem intercalate_cons_cons (part part' : List α) (parts : List (List α)) :
    [sep].intercalate (part :: part' :: parts) =
      part ++ sep :: [sep].intercalate (part' :: parts) := by
  rw [List.intercalate_cons_cons]
  simp

theorem intercalate_ne_nil {part : List α} {parts : List (List α)} (hpart : part ≠ []) :
    [sep].intercalate (part :: parts) ≠ [] := by
  cases parts with
  | nil => simpa using hpart
  | cons part' parts => simp

theorem intercalate_inj {parts parts' : List (List α)}
    (hparts : ∀ part ∈ parts, part ≠ [] ∧ sep ∉ part)
    (hparts' : ∀ part ∈ parts', part ≠ [] ∧ sep ∉ part)
    (h : [sep].intercalate parts = [sep].intercalate parts') : parts = parts' := by
  induction parts generalizing parts' with
  | nil =>
    cases parts' with
    | nil => rfl
    | cons part' parts' => exact absurd h.symm (intercalate_ne_nil (hparts' part' (by simp)).1)
  | cons part parts ih =>
    obtain ⟨⟨hne, hsep⟩, hrest⟩ := List.forall_mem_cons.1 hparts
    cases parts' with
    | nil => exact absurd h (intercalate_ne_nil hne)
    | cons part' parts' =>
      obtain ⟨⟨-, hsep'⟩, hrest'⟩ := List.forall_mem_cons.1 hparts'
      cases parts with
      | nil =>
        cases parts' with
        | nil => simpa using h
        | cons part₁' parts' =>
          rw [intercalate_cons_cons, List.intercalate_singleton] at h
          exact absurd h (ne_append_cons hsep)
      | cons part₁ parts =>
        cases parts' with
        | nil =>
          rw [intercalate_cons_cons, List.intercalate_singleton] at h
          exact absurd h.symm (ne_append_cons hsep')
        | cons part₁' parts' =>
          rw [intercalate_cons_cons, intercalate_cons_cons] at h
          obtain ⟨rfl, htail⟩ := append_cons_inj hsep hsep' h
          rw [ih hrest hrest' htail]

end DoubleZero.Lib
