import Montage.Proofs.Text.Fields

/-!
# Lines

A text is taken apart at its line ends. Texts that were put together with a line end behind each
are got back from this just when none of them holds a line end itself.
-/

namespace Montage

variable {s text : String} {ls : List (List Char)} {cs l : List Char} {ts : List String}

def IsLine (s : String) : Prop := '\n' ∉ s.toList

instance : Decidable (IsLine s) := inferInstanceAs (Decidable (_ ∉ _))

/-- The lines of a text, and what stands behind the last line end. -/
def linesOf (text : String) : List String := (text.toList.splitOn '\n').map String.ofList

lemma isLine_append {t : String} : IsLine (s ++ t) ↔ IsLine s ∧ IsLine t := lacks_append

lemma notMem_of_mem_splitOn {c : Char} (h : l ∈ cs.splitOn c) : c ∉ l := by
  induction cs generalizing l with
  | nil =>
    obtain rfl : l = [] := by simpa using h
    exact List.not_mem_nil
  | cons d cs ih =>
    rw [List.splitOn_cons_eq_if_modifyHead] at h
    split_ifs at h with hd
    · rcases List.mem_cons.1 h with rfl | h
      · exact List.not_mem_nil
      · exact ih h
    · cases hparts : cs.splitOn c with
      | nil =>
        rw [hparts] at h
        nomatch h
      | cons first rest =>
        rw [hparts, List.modifyHead_cons] at h
        rcases List.mem_cons.1 h with rfl | h
        · rw [List.mem_cons, not_or]
          exact ⟨fun heq => hd (by simp [heq]), ih (by simp [hparts])⟩
        · exact ih (by simp [hparts, h])

/-- A text that ends with a line feed is its lines, each with its own. -/
lemma intercalate_concat_nil (ls : List (List Char)) :
    ['\n'].intercalate (ls ++ [[]]) = ls.flatMap (· ++ ['\n']) := by
  induction ls with
  | nil => simp
  | cons l ls ih =>
    rw [List.cons_append, List.intercalate_cons_of_ne_nil (by simp), ih, List.flatMap_cons]

/-- Lines with their ends are taken apart into these lines just when each is on one line. -/
lemma splitOn_flatMap_eq_iff :
    (ls.flatMap (· ++ ['\n'])).splitOn '\n' = ls ++ [[]] ↔ ∀ l ∈ ls, '\n' ∉ l := by
  constructor
  · intro h l hl
    exact notMem_of_mem_splitOn (by rw [h]; exact List.mem_append_left _ hl)
  · intro h
    have hparts : ∀ l ∈ ls ++ [[]], '\n' ∉ l := by
      simpa [or_imp, forall_and] using h
    rw [← intercalate_concat_nil, List.splitOn_intercalate '\n' hparts (by simp)]

/-- Joined entries are told apart as lines just when none of them holds a line end. -/
lemma linesOf_join_eq_iff :
    linesOf (String.join (ts.map (· ++ "\n"))) = ts ++ [""] ↔ ∀ t ∈ ts, IsLine t := by
  have htext : (String.join (ts.map (· ++ "\n"))).toList
      = (ts.map String.toList).flatMap (· ++ ['\n']) := by
    simp [String.toList_join, List.flatMap_map]
  have hlines : ts ++ [""] = (ts.map String.toList ++ [[]]).map String.ofList := by
    simp [Function.comp_def]
  have hinjective : Function.Injective String.ofList := fun _ _ => String.ofList_injective
  rw [linesOf, htext, hlines, (List.map_injective_iff.2 hinjective).eq_iff,
    splitOn_flatMap_eq_iff, List.forall_mem_map]
  rfl

end Montage
