import Mathlib.Data.List.Basic
import Mathlib.Tactic.Lemma

/-!
# Fields

A text is taken apart wherever a given character stands. Texts that were joined with this character
between them are got back from this if it stands in none of them; so it matters of which texts it is
known what characters they lack.
-/

namespace Montage

variable {sep c : Char} {s t u : String} {ss : List String}

/-- The parts of a text between the places where a character stands. -/
def fieldsOf (sep : Char) (s : String) : List String := (s.toList.splitOn sep).map String.ofList

/-! ### Characters that a text lacks -/

def Lacks (c : Char) (s : String) : Prop := c ∉ s.toList

instance : Decidable (Lacks c s) := inferInstanceAs (Decidable (_ ∉ _))

@[simp] lemma lacks_append : Lacks c (s ++ t) ↔ Lacks c s ∧ Lacks c t := by
  simp only [Lacks, String.toList_append, List.mem_append, not_or]

@[simp] lemma lacks_join : Lacks c (String.join ss) ↔ ∀ s ∈ ss, Lacks c s := by
  simp [Lacks, String.toList_join]

/-- What holds of a separator holds of a joined text if it does of its parts. -/
lemma forall_mem_intercalate_iff {p : Char → Prop} {sep : List Char} {ws : List (List Char)}
    (hsep : ∀ c ∈ sep, p c) :
    (∀ c ∈ sep.intercalate ws, p c) ↔ ∀ w ∈ ws, ∀ c ∈ w, p c := by
  induction ws with
  | nil => simp
  | cons w ws ih =>
    rcases eq_or_ne ws [] with rfl | hws
    · simp
    · rw [List.intercalate_cons_of_ne_nil hws, List.forall_mem_append, List.forall_mem_append, ih,
        List.forall_mem_cons]
      simp only [and_iff_left hsep]

/-- A character that is not in the separator is in no joined text whose parts lack it. -/
lemma lacks_intercalate (hu : Lacks c u) :
    Lacks c (u.intercalate ss) ↔ ∀ s ∈ ss, Lacks c s := by
  simp only [Lacks, ← List.forall_mem_ne'] at hu ⊢
  rw [String.toList_intercalate, forall_mem_intercalate_iff hu, List.forall_mem_map]

/-- A number is written with digits only. -/
lemma lacks_repr (hc : c.isDigit = false) (n : Nat) : Lacks c n.repr := by
  intro hmem
  rw [Nat.toList_repr] at hmem
  have hdigit : c.isDigit := Nat.isDigit_of_mem_toDigits (by decide) (by decide) hmem
  simp [hc] at hdigit

/-- A whole number is written with digits and a minus sign only. -/
lemma lacks_intRepr (hc : c.isDigit = false) (hminus : c ≠ '-') (n : Int) : Lacks c n.repr := by
  cases n with
  | ofNat n => exact lacks_repr hc n
  | negSucc n =>
    have hsign : Lacks c "-" := by simpa [Lacks] using hminus
    exact lacks_append.2 ⟨hsign, lacks_repr hc _⟩

/-! ### Fields of texts put together -/

lemma fieldsOf_ne_nil : fieldsOf sep s ≠ [] := by simp [fieldsOf]

/-- A text without the separator is one field. -/
lemma fieldsOf_eq_singleton (h : Lacks sep s) : fieldsOf sep s = [s] := by
  rw [fieldsOf, List.splitOn_eq_singleton h, List.map_singleton, String.ofList_toList]

/-- The fields on both sides of a separator are those of the whole. -/
lemma fieldsOf_append (hu : u.toList = [sep]) :
    fieldsOf sep (s ++ u ++ t) = fieldsOf sep s ++ fieldsOf sep t := by
  have htext : (s ++ u ++ t).toList = s.toList ++ sep :: t.toList := by simp [hu]
  rw [fieldsOf, htext, List.splitOn_append_cons_self, List.map_append, fieldsOf, fieldsOf]

/-- Splitting undoes joining if the separator is in no part. -/
lemma fieldsOf_intercalate (hu : u.toList = [sep]) (hne : ss ≠ []) (h : ∀ s ∈ ss, Lacks sep s) :
    fieldsOf sep (u.intercalate ss) = ss := by
  induction ss with
  | nil => exact absurd rfl hne
  | cons s ss ih =>
    rw [List.forall_mem_cons] at h
    rcases eq_or_ne ss [] with rfl | hss
    · rw [String.intercalate_singleton, fieldsOf_eq_singleton h.1]
    · rw [String.intercalate_cons_of_ne_nil hss, fieldsOf_append hu, ih hss h.2,
        fieldsOf_eq_singleton h.1, List.singleton_append]

end Montage
