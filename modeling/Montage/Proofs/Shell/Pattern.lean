import Mathlib.Computability.Language
import Mathlib.Data.List.TakeWhile
import Montage.Shell

/-!
# Patterns of fragments

The two patterns of fragments that stand for several words, as languages: rate control flags, and
flags that map streams. A fragment is recognised by the words between its blanks, which is shown to
be the same as being a text of the language.
-/

namespace Montage.Shell

open Computability

variable {cs w : List Char}

/-! ### Languages -/

/-- One character or more, all of a class. -/
def oneOrMore (p : Char → Bool) : Language Char := {cs : List Char | cs ≠ [] ∧ ∀ c ∈ cs, p c}

/-- The characters of an amount of megabits. -/
def isAmountChar (c : Char) : Bool := c.isDigit || c ∈ ['.', 'e', '+']

/-- The texts `-crf [0-9]+ -maxrate [0-9.e+]+M -bufsize [0-9.e+]+M`. -/
def rateFragments : Language Char :=
  {"-crf ".toList} * oneOrMore Char.isDigit * {" -maxrate ".toList} * oneOrMore isAmountChar
    * {"M -bufsize ".toList} * oneOrMore isAmountChar * {"M".toList}

/-- The texts `-map "\[[a-z]+\]" `, with the blank at their end. -/
def mapEntries : Language Char :=
  {"-map \"[".toList} * oneOrMore Char.isLower * {"]\" ".toList}

/-- The texts `(-map "\[[a-z]+\]" )+-vsync 0`. -/
def mapFragments : Language Char := mapEntries * mapEntries∗ * {"-vsync 0".toList}

lemma mem_singleton : cs ∈ ({w} : Language Char) ↔ cs = w := Iff.rfl

lemma notMem_of_mem_oneOrMore {p : Char → Bool} {c : Char} (h : w ∈ oneOrMore p)
    (hc : p c = false) : c ∉ w := fun hmem => by simp [h.2 c hmem] at hc

/-! ### Words of the patterns -/

def rateWords (factor rate size : List Char) : List (List Char) :=
  ["-crf".toList, factor, "-maxrate".toList, rate ++ ['M'], "-bufsize".toList, size ++ ['M']]

def mapWords (streams : List (List Char)) : List (List Char) :=
  streams.flatMap (fun stream => ["-map".toList, stream]) ++ ["-vsync".toList, ['0']]

lemma mapWords_cons (stream : List Char) (streams : List (List Char)) :
    mapWords (stream :: streams) = "-map".toList :: stream :: mapWords streams := rfl

def bracketed (label : List Char) : List Char := '[' :: (label ++ [']'])

def doubleQuoted (cs : List Char) : List Char := '"' :: (cs ++ ['"'])

/-- A number is one or more digits. -/
lemma isNumber_iff : isNumber w ↔ w ∈ oneOrMore Char.isDigit := by
  simp only [isNumber, Bool.and_eq_true, Bool.not_eq_true', List.isEmpty_eq_false_iff,
    List.all_eq_true]
  rfl

lemma isAmount_iff : isAmount w ↔ ∃ amount ∈ oneOrMore isAmountChar, amount ++ ['M'] = w := by
  simp only [isAmount, Bool.and_eq_true, Bool.not_eq_true', List.isEmpty_eq_false_iff,
    List.all_eq_true, beq_iff_eq]
  constructor
  · rintro ⟨⟨hne, hall⟩, hlast⟩
    exact ⟨w.dropLast, ⟨hne, hall⟩, List.dropLast_append_getLast? _ hlast⟩
  · rintro ⟨amount, ⟨hne, hall⟩, rfl⟩
    rw [List.dropLast_concat, List.getLast?_concat]
    exact ⟨⟨hne, hall⟩, rfl⟩

lemma isQuotedLabel_iff :
    isQuotedLabel w ↔ ∃ label ∈ oneOrMore Char.isLower, doubleQuoted (bracketed label) = w := by
  constructor
  · intro h
    unfold isQuotedLabel at h
    split at h
    · next rest =>
      simp only [Bool.and_eq_true, Bool.not_eq_true', List.isEmpty_eq_false_iff, beq_iff_eq] at h
      have hrest := List.prefix_iff_eq_append.1 (List.takeWhile_prefix (l := rest) Char.isLower)
      rw [h.2] at hrest
      refine ⟨rest.takeWhile Char.isLower, ⟨h.1, fun c hc => List.mem_takeWhile_imp hc⟩, ?_⟩
      conv_rhs => rw [← hrest]
      simp [doubleQuoted, bracketed]
    · simp at h
  · rintro ⟨label, ⟨hne, hall⟩, rfl⟩
    have htake : (label ++ [']', '"']).takeWhile Char.isLower = label := by
      rw [List.takeWhile_append_of_pos hall]
      simp
    simp [isQuotedLabel, doubleQuoted, bracketed, htake, hne]

/-- Rate words are three flags with their numbers. -/
lemma isRateWords_iff : isRateWords ws ↔
    ∃ factor ∈ oneOrMore Char.isDigit, ∃ rate ∈ oneOrMore isAmountChar,
      ∃ size ∈ oneOrMore isAmountChar, rateWords factor rate size = ws := by
  constructor
  · intro h
    unfold isRateWords at h
    split at h
    · simp only [Bool.and_eq_true, beq_iff_eq, isNumber_iff, isAmount_iff] at h
      obtain ⟨⟨⟨⟨⟨rfl, hfactor⟩, rfl⟩, rate, hrate, rfl⟩, rfl⟩, size, hsize, rfl⟩ := h
      exact ⟨_, hfactor, rate, hrate, size, hsize, rfl⟩
    · simp at h
  · rintro ⟨factor, hfactor, rate, hrate, size, hsize, rfl⟩
    simp only [isRateWords, rateWords, beq_self_eq_true, Bool.true_and, Bool.and_true,
      Bool.and_eq_true, isNumber_iff, isAmount_iff]
    exact ⟨⟨hfactor, rate, hrate, rfl⟩, size, hsize, rfl⟩

/-- Map words are one or more quoted labels, each behind its flag, and two words at the end. -/
lemma isMapWords_iff : isMapWords ws ↔
    ∃ labels : List (List Char), labels ≠ [] ∧ (∀ l ∈ labels, l ∈ oneOrMore Char.isLower) ∧
      mapWords (labels.map fun l => doubleQuoted (bracketed l)) = ws := by
  fun_induction isMapWords ws with
  | case1 flag label rest ih =>
    simp only [Bool.and_eq_true, Bool.or_eq_true, beq_iff_eq, isQuotedLabel_iff, ih]
    constructor
    · rintro ⟨⟨rfl, label, hlabel, rfl⟩, rfl | ⟨labels, -, hlabels, rfl⟩⟩
      · exact ⟨[label], by simp, by simpa using hlabel, rfl⟩
      · exact ⟨label :: labels, by simp, by simpa using ⟨hlabel, hlabels⟩, rfl⟩
    · rintro ⟨labels, hne, hlabels, heq⟩
      obtain ⟨l, ls, rfl⟩ := List.exists_cons_of_ne_nil hne
      rw [List.forall_mem_cons] at hlabels
      rw [List.map_cons, mapWords_cons] at heq
      injection heq with hflag heq
      injection heq with hlabel hrest
      refine ⟨⟨hflag.symm, l, hlabels.1, hlabel⟩, ?_⟩
      rcases eq_or_ne ls [] with rfl | hls
      · exact .inl hrest.symm
      · exact .inr ⟨ls, hls, hlabels.2, hrest⟩
  | case2 ws h =>
    simp only [Bool.false_eq_true, false_iff]
    rintro ⟨labels, hne, -, rfl⟩
    obtain ⟨l, ls, rfl⟩ := List.exists_cons_of_ne_nil hne
    exact h _ _ _ rfl

/-! ### Recognition by words -/

lemma blank_notMem_rateWords {factor rate size : List Char}
    (hfactor : factor ∈ oneOrMore Char.isDigit) (hrate : rate ∈ oneOrMore isAmountChar)
    (hsize : size ∈ oneOrMore isAmountChar) : ∀ w ∈ rateWords factor rate size, ' ' ∉ w := by
  have hf := notMem_of_mem_oneOrMore hfactor (c := ' ') (by decide)
  have hr := notMem_of_mem_oneOrMore hrate (c := ' ') (by decide)
  have hs := notMem_of_mem_oneOrMore hsize (c := ' ') (by decide)
  simp [rateWords, hf, hr, hs]

lemma blank_notMem_mapWords {labels : List (List Char)}
    (h : ∀ l ∈ labels, l ∈ oneOrMore Char.isLower) :
    ∀ w ∈ mapWords (labels.map fun l => doubleQuoted (bracketed l)), ' ' ∉ w := by
  have hl := fun l hl => notMem_of_mem_oneOrMore (h l hl) (c := ' ') (by decide)
  simp only [mapWords, List.mem_append, List.mem_flatMap, List.mem_map]
  rintro w (⟨_, ⟨l, hmem, rfl⟩, hw⟩ | hw)
  · rcases List.mem_pair.1 hw with rfl | rfl
    · decide
    · simp [doubleQuoted, bracketed, hl l hmem]
  · rcases List.mem_pair.1 hw with rfl | rfl <;> decide

/-- Rate fragments are rate words with blanks between them. -/
lemma mem_rateFragments : cs ∈ rateFragments ↔
    ∃ factor ∈ oneOrMore Char.isDigit, ∃ rate ∈ oneOrMore isAmountChar,
      ∃ size ∈ oneOrMore isAmountChar, [' '].intercalate (rateWords factor rate size) = cs := by
  simp only [rateFragments, mul_assoc, Language.mem_mul, mem_singleton, exists_eq_left]
  constructor
  · rintro ⟨_, ⟨factor, hfactor, _, ⟨_, ⟨rate, hrate, _, ⟨_, ⟨size, hsize, rfl⟩, rfl⟩, rfl⟩, rfl⟩,
      rfl⟩, rfl⟩
    refine ⟨factor, hfactor, rate, hrate, size, hsize, ?_⟩
    simp [rateWords, List.intercalate_cons_cons]
  · rintro ⟨factor, hfactor, rate, hrate, size, hsize, rfl⟩
    refine ⟨_, ⟨factor, hfactor, _, ⟨_, ⟨rate, hrate, _, ⟨_, ⟨size, hsize, rfl⟩, rfl⟩, rfl⟩, rfl⟩,
      rfl⟩, ?_⟩
    simp [rateWords, List.intercalate_cons_cons]

/-- An entry of a stream map, with the blank after it. -/
def mapEntry (label : List Char) : List Char :=
  "-map ".toList ++ doubleQuoted (bracketed label) ++ [' ']

lemma mem_mapEntries : cs ∈ mapEntries ↔ ∃ l ∈ oneOrMore Char.isLower, mapEntry l = cs := by
  simp only [mapEntries, mul_assoc, Language.mem_mul, mem_singleton, exists_eq_left]
  constructor
  · rintro ⟨_, ⟨l, hl, rfl⟩, rfl⟩
    exact ⟨l, hl, by simp [mapEntry, doubleQuoted, bracketed]⟩
  · rintro ⟨l, hl, rfl⟩
    exact ⟨_, ⟨l, hl, rfl⟩, by simp [mapEntry, doubleQuoted, bracketed]⟩

/-- Map words with blanks between them are their entries, one after the other. -/
lemma intercalate_mapWords (labels : List (List Char)) :
    [' '].intercalate (mapWords (labels.map fun l => doubleQuoted (bracketed l)))
      = labels.flatMap mapEntry ++ "-vsync 0".toList := by
  induction labels with
  | nil => rfl
  | cons l ls ih =>
    have hne : mapWords (ls.map fun l => doubleQuoted (bracketed l)) ≠ [] := by simp [mapWords]
    rw [List.map_cons, mapWords_cons, List.intercalate_cons_cons,
      List.intercalate_cons_of_ne_nil hne, ih]
    simp [mapEntry]

lemma exists_labels_of_forall_mem_mapEntries {es : List (List Char)}
    (h : ∀ e ∈ es, e ∈ mapEntries) :
    ∃ labels : List (List Char), (∀ l ∈ labels, l ∈ oneOrMore Char.isLower) ∧
      labels.map mapEntry = es := by
  induction es with
  | nil => exact ⟨[], by simp, rfl⟩
  | cons e es ih =>
    rw [List.forall_mem_cons] at h
    obtain ⟨l, hl, rfl⟩ := mem_mapEntries.1 h.1
    obtain ⟨ls, hls, rfl⟩ := ih h.2
    exact ⟨l :: ls, List.forall_mem_cons.2 ⟨hl, hls⟩, rfl⟩

/-- Stream maps are map words with blanks between them. -/
lemma mem_mapFragments : cs ∈ mapFragments ↔
    ∃ labels : List (List Char), labels ≠ [] ∧ (∀ l ∈ labels, l ∈ oneOrMore Char.isLower) ∧
      [' '].intercalate (mapWords (labels.map fun l => doubleQuoted (bracketed l))) = cs := by
  simp only [mapFragments, mul_assoc, Language.mem_mul, Language.mem_kstar, mem_singleton,
    intercalate_mapWords]
  constructor
  · rintro ⟨e, he, _, ⟨_, ⟨es, rfl, hes⟩, _, rfl, rfl⟩, rfl⟩
    obtain ⟨l, hl, rfl⟩ := mem_mapEntries.1 he
    obtain ⟨ls, hls, rfl⟩ := exists_labels_of_forall_mem_mapEntries hes
    exact ⟨l :: ls, by simp, List.forall_mem_cons.2 ⟨hl, hls⟩, by simp [List.flatMap_def]⟩
  · rintro ⟨labels, hne, hlabels, rfl⟩
    obtain ⟨l, ls, rfl⟩ := List.exists_cons_of_ne_nil hne
    rw [List.forall_mem_cons] at hlabels
    refine ⟨mapEntry l, mem_mapEntries.2 ⟨l, hlabels.1, rfl⟩, _,
      ⟨_, ⟨ls.map mapEntry, rfl, ?_⟩, _, rfl, rfl⟩, by simp [List.flatMap_def]⟩
    rw [List.forall_mem_map]
    exact fun l hl => mem_mapEntries.2 ⟨l, hlabels.2 l hl, rfl⟩

/-- A fragment is recognised as rate control flags if it has their pattern. -/
lemma isRateWords_splitOn_iff : isRateWords (cs.splitOn ' ') ↔ cs ∈ rateFragments := by
  rw [isRateWords_iff, mem_rateFragments]
  constructor
  · rintro ⟨factor, hfactor, rate, hrate, size, hsize, heq⟩
    exact ⟨factor, hfactor, rate, hrate, size, hsize,
      by rw [heq, List.intercalate_splitOn]⟩
  · rintro ⟨factor, hfactor, rate, hrate, size, hsize, rfl⟩
    exact ⟨factor, hfactor, rate, hrate, size, hsize,
      (List.splitOn_intercalate ' ' (blank_notMem_rateWords hfactor hrate hsize)
        (by simp [rateWords])).symm⟩

/-- A fragment is recognised as flags that map streams if it has their pattern. -/
lemma isMapWords_splitOn_iff : isMapWords (cs.splitOn ' ') ↔ cs ∈ mapFragments := by
  rw [isMapWords_iff, mem_mapFragments]
  constructor
  · rintro ⟨labels, hne, hlabels, heq⟩
    exact ⟨labels, hne, hlabels, by rw [heq, List.intercalate_splitOn]⟩
  · rintro ⟨labels, hne, hlabels, rfl⟩
    exact ⟨labels, hne, hlabels,
      (List.splitOn_intercalate ' ' (blank_notMem_mapWords hlabels) (by simp [mapWords])).symm⟩

instance : Decidable (cs ∈ rateFragments) := decidable_of_iff _ isRateWords_splitOn_iff

instance : Decidable (cs ∈ mapFragments) := decidable_of_iff _ isMapWords_splitOn_iff

end Montage.Shell
