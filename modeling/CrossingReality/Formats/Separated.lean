import Mathlib.Data.List.DropRight

/-!
# Fields between separators

A text is cut at every separator, and the empty fields at its end are dropped. Fields that were
joined come back as they were if none contains the separator and the last is not empty. An empty
last field is lost.
-/

namespace Formats

variable {α : Type} [DecidableEq α] {sep : α} {l f : List α} {fs : List (List α)}

/-- The fields of a text, without the empty ones at its end. -/
def fields (sep : α) (l : List α) : List (List α) := (l.splitOn sep).rdropWhile List.isEmpty

/-- A field has no separator and nothing that is not in the text. -/
theorem of_mem_splitOn (h : f ∈ l.splitOn sep) : sep ∉ f ∧ f ⊆ l := by
  induction l generalizing f with
  | nil =>
    obtain rfl : f = [] := by simpa [List.splitOn_eq_splitOnP] using h
    simp
  | cons a l ih =>
    obtain ⟨g, gs, hl⟩ := List.exists_cons_of_ne_nil (List.splitOn_ne_nil sep l)
    rw [List.splitOn_cons_eq_if_modifyHead, hl] at h
    rw [hl] at ih
    by_cases ha : (a == sep) = true
    · rw [if_pos ha] at h
      rcases List.mem_cons.mp h with rfl | h
      · simp
      · exact ⟨(ih h).1, List.subset_cons_of_subset a (ih h).2⟩
    · rw [if_neg ha, List.modifyHead_cons] at h
      rcases List.mem_cons.mp h with rfl | h
      · obtain ⟨hsep, hsub⟩ := ih List.mem_cons_self
        refine ⟨?_, List.cons_subset_cons a hsub⟩
        simp only [List.mem_cons, not_or]
        exact ⟨fun h => ha (beq_iff_eq.mpr h.symm), hsep⟩
      · obtain ⟨hsep, hsub⟩ := ih (List.mem_cons_of_mem g h)
        exact ⟨hsep, List.subset_cons_of_subset a hsub⟩

theorem of_mem_fields (h : f ∈ fields sep l) : sep ∉ f ∧ f ⊆ l :=
  of_mem_splitOn ((List.rdropWhile_prefix _ _).subset h)

/-- **Joining and cutting.** -/
theorem fields_intercalate (hsep : ∀ f ∈ fs, sep ∉ f) (hne : f ≠ []) (hf : sep ∉ f) :
    fields sep ([sep].intercalate (fs ++ [f])) = fs ++ [f] := by
  have hsplit := @List.splitOn_intercalate _ (fs ++ [f]) _ _ sep
    (by simpa [or_imp, forall_and] using ⟨hsep, hf⟩) (by simp)
  rw [fields, hsplit]
  exact List.rdropWhile_concat_neg _ _ f (by simpa using hne)

/-- An empty last field is lost. -/
theorem length_fields_le (hsep : ∀ f ∈ fs, sep ∉ f) :
    (fields sep ([sep].intercalate (fs ++ [[]]))).length ≤ fs.length := by
  have hsplit := @List.splitOn_intercalate _ (fs ++ [[]]) _ _ sep
    (by simpa [or_imp, forall_and] using hsep) (by simp)
  have hdrop : (fs ++ [[]]).rdropWhile List.isEmpty = fs.rdropWhile List.isEmpty :=
    List.rdropWhile_concat_pos _ _ [] rfl
  rw [fields, hsplit, hdrop]
  exact (List.rdropWhile_prefix _ _).length_le

end Formats
