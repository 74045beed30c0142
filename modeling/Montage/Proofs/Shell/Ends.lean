import Montage.Proofs.Shell.Fragment
import Montage.Text.Blank

/-!
# The ends of shell texts

A command as it is given to a shell starts and ends with characters that are not blank, whatever
texts it holds: blanks at the ends of a text stand between quotes. So trimming keeps it as it is.
-/

namespace Montage.Shell

variable {cs ds : List Char}

/-- A text of which neither end is blank. -/
structure IsTrim (cs : List Char) : Prop where
  exists_head : ∃ c ds, cs = c :: ds ∧ isBlank c = false
  exists_last : ∃ ds c, cs = ds ++ [c] ∧ isBlank c = false

lemma IsTrim.trimBlanks_eq (h : IsTrim cs) : trimBlanks cs = cs := by
  obtain ⟨c, rest, hcs, hc⟩ := h.exists_head
  obtain ⟨front, d, hds, hd⟩ := h.exists_last
  have hdrop : cs.dropWhile isBlank = cs := by
    rw [hcs, List.dropWhile_cons_of_neg (by simp [hc])]
  rw [trimBlanks, hdrop, hds, List.reverse_append, List.reverse_singleton, List.singleton_append,
    List.dropWhile_cons_of_neg (by simp [hd]), List.reverse_cons, List.reverse_reverse]

/-- What stands between the ends does not matter. -/
lemma IsTrim.append (h : IsTrim cs) (between : List Char) (h' : IsTrim ds) :
    IsTrim (cs ++ (between ++ ds)) := by
  obtain ⟨c, rest, rfl, hc⟩ := h.exists_head
  obtain ⟨front, d, rfl, hd⟩ := h'.exists_last
  exact ⟨⟨c, _, rfl, hc⟩, ⟨c :: rest ++ (between ++ front), d, by simp, hd⟩⟩

lemma isTrim_intercalate {ts : List (List Char)} (hne : ts ≠ []) (h : ∀ t ∈ ts, IsTrim t) :
    IsTrim ([' '].intercalate ts) := by
  induction ts with
  | nil => exact absurd rfl hne
  | cons t ts ih =>
    rw [List.forall_mem_cons] at h
    rcases eq_or_ne ts [] with rfl | hts
    · simpa using h.1
    · rw [List.intercalate_cons_of_ne_nil hts, List.append_assoc]
      exact h.1.append [' '] (ih hts h.2)

/-! ### Quoted texts -/

lemma toNat_of_isHarmless {c : Char} (h : isHarmless c) : 0x25 ≤ c.toNat ∧ c.toNat ≤ 0x7A := by
  have hrange : ∀ lo hi : Char, lo ≤ c ∧ c ≤ hi → lo.toNat ≤ c.toNat ∧ c.toNat ≤ hi.toNat :=
    fun _ _ h => ⟨UInt32.le_iff_toNat_le.1 h.1, UInt32.le_iff_toNat_le.1 h.2⟩
  rcases isHarmless_iff.1 h with h | h | h | h
  · exact (hrange _ _ h).imp (Nat.le_trans (by decide)) (Nat.le_trans · (by decide))
  · exact (hrange _ _ h).imp (Nat.le_trans (by decide)) (Nat.le_trans · (by decide))
  · exact (hrange _ _ h).imp (Nat.le_trans (by decide)) (Nat.le_trans · (by decide))
  · simp only [List.mem_cons, List.not_mem_nil, or_false] at h
    rcases h with rfl | rfl | rfl | rfl | rfl | rfl | rfl | rfl | rfl | rfl <;> decide

lemma isBlank_of_isHarmless {c : Char} (h : isHarmless c) : isBlank c = false := by
  have hranges : ∀ range ∈ CharSet.blank.ranges, range.2 ≤ 0x20 ∨ 0x85 ≤ range.1 := by decide
  have hcode := toNat_of_isHarmless h
  apply Bool.eq_false_iff.2
  intro hblank
  obtain ⟨range, hrange, hlo, hhi⟩ := CharSet.contains_iff.1 hblank
  have := hranges range hrange
  omega

lemma isTrim_quoteChars (cs : List Char) : IsTrim (quoteChars cs) := by
  unfold quoteChars
  split
  · next h =>
    have hharmless := List.all_eq_true.1 h.2
    obtain ⟨c, rest, rfl⟩ := List.exists_cons_of_ne_nil h.1
    have hlast := List.dropLast_append_getLast h.1
    exact ⟨⟨c, rest, rfl, isBlank_of_isHarmless (hharmless c (by simp))⟩,
      ⟨_, _, hlast.symm, isBlank_of_isHarmless (hharmless _ (List.getLast_mem h.1))⟩⟩
  · exact ⟨⟨_, _, rfl, by decide⟩, ⟨'\'' :: cs.flatMap quoteChar, '\'', rfl, by decide⟩⟩

lemma isTrim_of_mem_rateFragments (h : cs ∈ rateFragments) : IsTrim cs := by
  obtain ⟨front, -, last, hlast, rfl⟩ := Language.mem_mul.1 h
  refine ⟨?_, ⟨front, 'M', ?_, by decide⟩⟩
  · obtain ⟨ds, heq⟩ := head?_of_mem_rateFragments h
    exact ⟨'-', _, heq, by decide⟩
  · rw [mem_singleton.1 hlast]
    rfl

lemma isTrim_of_mem_mapFragments (h : cs ∈ mapFragments) : IsTrim cs := by
  obtain ⟨front, -, last, hlast, rfl⟩ := Language.mem_mul.1 h
  refine ⟨?_, ⟨front ++ "-vsync ".toList, '0', ?_, by decide⟩⟩
  · obtain ⟨ds, heq⟩ := head?_of_mem_mapFragments h
    exact ⟨'-', _, heq, by decide⟩
  · rw [mem_singleton.1 hlast, List.append_assoc]
    rfl

lemma Written.isTrim (h : Written cs ds) : IsTrim ds := by
  cases h with
  | filter graph =>
    have hflag : IsTrim "-vf".toList := ⟨⟨_, _, rfl, by decide⟩, ⟨['-', 'v'], 'f', rfl, by decide⟩⟩
    exact hflag.append [' '] (isTrim_quoteChars graph)
  | rate h => exact isTrim_of_mem_rateFragments h
  | map h => exact isTrim_of_mem_mapFragments h
  | plain => exact isTrim_quoteChars cs

/-- Trimming keeps a command as it is given to a shell. -/
lemma trimBlanks_shellText (c : Command) : trimBlanks c.shellText.toList = c.shellText.toList := by
  apply IsTrim.trimBlanks_eq
  rw [toList_shellText]
  apply isTrim_intercalate (by simp)
  rw [List.forall_mem_cons, List.forall_mem_map]
  exact ⟨isTrim_quoteChars _, fun arg _ => (written_fragmentChars _).isTrim⟩

end Montage.Shell
