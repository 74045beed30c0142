import Montage.Proofs.Shell.Fragment

/-!
# Commands without quotes

A command reads the same to the operator and to a shell just when none of its texts is quoted. Since
quoting only ever makes a text longer, quotes in one place cannot be made up for in another.
-/

namespace Montage.Shell

variable {α : Type} {sep : List α} {us vs : List (List α)} {cs : List Char} {s : String}

/-! ### Joined texts that are never longer -/

/-- Joining longer texts gives a longer text. -/
lemma length_intercalate_le (h : List.Forall₂ (fun u v => u.length ≤ v.length) us vs) :
    (sep.intercalate us).length ≤ (sep.intercalate vs).length := by
  induction h with
  | nil => exact Nat.le_refl _
  | cons huv hrest ih =>
    cases hrest with
    | nil => simpa using huv
    | cons =>
      simp only [List.intercalate_cons_cons, List.length_append] at ih ⊢
      omega

/-- Texts that are joined alike are the same, if those of one list are never longer. -/
lemma eq_of_intercalate_eq (h : List.Forall₂ (fun u v => u.length ≤ v.length) us vs)
    (heq : sep.intercalate us = sep.intercalate vs) : us = vs := by
  induction h with
  | nil => rfl
  | @cons u v us vs huv hrest ih =>
    rcases eq_or_ne us [] with rfl | hne
    · obtain rfl := List.forall₂_nil_left_iff.1 hrest
      simpa using heq
    · have hne' : vs ≠ [] := by
        rintro rfl
        exact hne (List.forall₂_nil_right_iff.1 hrest)
      rw [List.intercalate_cons_of_ne_nil hne, List.intercalate_cons_of_ne_nil hne',
        List.append_assoc, List.append_assoc] at heq
      have htails : (sep.intercalate us).length ≤ (sep.intercalate vs).length :=
        length_intercalate_le hrest
      have htotal := congrArg List.length heq
      simp only [List.length_append] at htotal
      obtain ⟨rfl, htail⟩ := List.append_inj heq (by omega)
      rw [ih (List.append_cancel_left htail)]

/-! ### Texts that need no quotes -/

/-- A text is not empty, and has letters, digits and a few marks only. -/
def IsBare (s : String) : Prop :=
  s ≠ "" ∧ ∀ c ∈ s.toList, 'A' ≤ c ∧ c ≤ 'Z' ∨ 'a' ≤ c ∧ c ≤ 'z' ∨ '0' ≤ c ∧ c ≤ '9' ∨
    c ∈ ['_', '@', '%', '+', '=', ':', ',', '.', '/', '-']

instance : Decidable (IsBare s) := inferInstanceAs (Decidable (_ ∧ _))

/-- A bare text is not empty and has harmless characters only. -/
lemma isBare_iff : IsBare s ↔ s.toList ≠ [] ∧ s.toList.all isHarmless := by
  rw [IsBare, List.all_eq_true]
  simp only [isHarmless_iff, ne_eq, String.toList_eq_nil_iff]

lemma length_le_length_flatMap_quoteChar (cs : List Char) :
    cs.length ≤ (cs.flatMap quoteChar).length := by
  induction cs with
  | nil => exact Nat.le_refl _
  | cons c cs ih =>
    have hc : 1 ≤ (quoteChar c).length := by
      rw [quoteChar]
      split_ifs <;> simp
    rw [List.flatMap_cons, List.length_append, List.length_cons]
    omega

/-- Quoting makes no text shorter. -/
lemma length_le_length_quoteChars (cs : List Char) : cs.length ≤ (quoteChars cs).length := by
  have hflatMap := length_le_length_flatMap_quoteChar cs
  rw [quoteChars]
  split_ifs
  · exact Nat.le_refl _
  · simp only [List.length_cons, List.length_append]
    omega

/-- Quotes make a text longer. -/
lemma quoteChars_eq_self_iff : quoteChars cs = cs ↔ cs ≠ [] ∧ cs.all isHarmless := by
  constructor
  · intro h
    by_contra hnot
    have hlength := congrArg List.length h
    have hflatMap := length_le_length_flatMap_quoteChar cs
    rw [quoteChars, if_neg hnot, List.length_cons, List.length_append] at hlength
    omega
  · intro h
    rw [quoteChars, if_pos h]

/-! ### Fragments that need no quotes -/

/-- No argument is written shorter than it is. -/
lemma Written.length_le {ds : List Char} (h : Written cs ds) : cs.length ≤ ds.length := by
  cases h with
  | filter graph =>
    rw [List.length_append, List.length_append]
    exact Nat.add_le_add_left (length_le_length_quoteChars graph) _
  | rate => exact Nat.le_refl _
  | map => exact Nat.le_refl _
  | plain => exact length_le_length_quoteChars cs

/-- A fragment stands as it is unless its filter graph, or the fragment itself if it has none of the
shapes of several words, needs quotes. -/
lemma fragmentChars_eq_self_iff : fragmentChars s.toList = s.toList ↔
    (∀ graph, s = "-vf " ++ graph → IsBare graph) ∧ (IsPlain s → IsBare s) := by
  constructor
  · intro h
    constructor
    · rintro graph rfl
      rw [String.toList_append, fragmentChars_filter, List.append_cancel_left_eq,
        quoteChars_eq_self_iff] at h
      exact isBare_iff.2 h
    · rintro ⟨hvf, hrate, hmap⟩
      rw [fragmentChars_plain hvf hrate hmap, quoteChars_eq_self_iff] at h
      exact isBare_iff.2 h
  · rintro ⟨hfilter, hplain⟩
    by_cases hvf : "-vf ".toList <+: s.toList
    · obtain ⟨graph, hgraph⟩ := hvf
      have hs : s = "-vf " ++ String.ofList graph := by
        simp [← String.toList_inj, ← hgraph]
      have hbare := isBare_iff.1 (hfilter _ hs)
      rw [String.toList_ofList] at hbare
      rw [← hgraph, fragmentChars_filter, quoteChars_eq_self_iff.2 hbare]
    by_cases hwords : s.toList ∈ rateFragments ∨ s.toList ∈ mapFragments
    · exact fragmentChars_eq_self hvf hwords
    · obtain ⟨hrate, hmap⟩ := not_or.1 hwords
      rw [fragmentChars_plain hvf hrate hmap, quoteChars_eq_self_iff, ← isBare_iff]
      exact hplain ⟨hvf, hrate, hmap⟩

/-! ### Commands -/

lemma toList_text (c : Command) :
    c.text.toList = [' '].intercalate (c.invocation.toList :: c.args.map String.toList) := by
  simp [Command.text, String.toList_intercalate]

/-- A command is the same text for the operator and for a shell just when its program and the graph
of each filter fragment are bare, and so is every argument without the shape of several words. -/
theorem shellText_eq_text_iff (c : Command) : c.shellText = c.text ↔
    IsBare c.invocation ∧ ∀ arg ∈ c.args,
      (∀ graph, arg = "-vf " ++ graph → IsBare graph) ∧ (IsPlain arg → IsBare arg) := by
  have hlengths : List.Forall₂ (fun u v => u.length ≤ v.length)
      (c.invocation.toList :: c.args.map String.toList)
      (quoteChars c.invocation.toList :: c.args.map fun arg => fragmentChars arg.toList) := by
    refine .cons (length_le_length_quoteChars _) ?_
    rw [List.forall₂_map_left_iff, List.forall₂_map_right_iff]
    exact List.forall₂_same.2 fun arg _ => (written_fragmentChars arg.toList).length_le
  calc c.shellText = c.text
      ↔ c.invocation.toList :: c.args.map String.toList
        = quoteChars c.invocation.toList :: c.args.map fun arg => fragmentChars arg.toList := by
        rw [← String.toList_inj, toList_text, toList_shellText]
        exact ⟨fun h => eq_of_intercalate_eq hlengths h.symm, fun h => by rw [h]⟩
    _ ↔ quoteChars c.invocation.toList = c.invocation.toList ∧
        ∀ arg ∈ c.args, fragmentChars arg.toList = arg.toList := by
        rw [List.cons.injEq, List.map_inj_left]
        simp only [eq_comm]
    _ ↔ IsBare c.invocation ∧ ∀ arg ∈ c.args,
        (∀ graph, arg = "-vf " ++ graph → IsBare graph) ∧ (IsPlain arg → IsBare arg) := by
        simp only [quoteChars_eq_self_iff, ← isBare_iff, fragmentChars_eq_self_iff]

/-- Flags of several words need no quotes, but an empty filter graph does. -/
example : (Command.mk "ffmpeg" ["-crf 50 -maxrate 1M -bufsize 2M", "-vf "]).shellText
    = "ffmpeg -crf 50 -maxrate 1M -bufsize 2M -vf ''" := by decide +kernel

end Montage.Shell
