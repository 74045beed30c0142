import Montage.Command
import Montage.Proofs.Shell.Pattern
import Montage.Proofs.Shell.Reading

/-!
# Fragments as a shell reads them

Which words each fragment of a command stands for, and that a shell reads just these words: a
command is read as its invocation followed by the words of its fragments, whatever texts they hold.
-/

namespace Montage.Shell

variable {cs : List Char}

/-! ### Words of a fragment -/

/-- The words that a fragment stands for: the flag and the graph of a filter fragment, the words
between the blanks of rate control or stream map flags, without their quotes, and otherwise the
fragment as one word. -/
def fragmentWordsOf (cs : List Char) : List (List Char) :=
  if "-vf ".toList <+: cs then ["-vf".toList, cs.drop 4]
  else if cs ∈ rateFragments then cs.splitOn ' '
  else if cs ∈ mapFragments then (cs.splitOn ' ').map (·.filter (· ≠ '"'))
  else [cs]

def fragmentWords (s : String) : List String := (fragmentWordsOf s.toList).map String.ofList

/-- A text with none of the shapes that stand for several words. -/
def IsPlain (s : String) : Prop :=
  ¬ "-vf ".toList <+: s.toList ∧ s.toList ∉ rateFragments ∧ s.toList ∉ mapFragments

instance (s : String) : Decidable (IsPlain s) :=
  inferInstanceAs (Decidable (¬ _ ∧ _ ∉ _ ∧ _ ∉ _))

/-! ### The shapes exclude one another -/

lemma head?_of_mem_rateFragments (h : cs ∈ rateFragments) : ∃ ds, cs = '-' :: 'c' :: ds := by
  obtain ⟨factor, -, rate, -, size, -, rfl⟩ := mem_rateFragments.1 h
  exact ⟨_, rfl⟩

lemma head?_of_mem_mapFragments (h : cs ∈ mapFragments) : ∃ ds, cs = '-' :: 'm' :: ds := by
  obtain ⟨labels, hne, -, rfl⟩ := mem_mapFragments.1 h
  obtain ⟨l, ls, rfl⟩ := List.exists_cons_of_ne_nil hne
  rw [intercalate_mapWords]
  exact ⟨_, rfl⟩

/-- Rate fragments are no filters. -/
lemma not_filterMark_prefix_of_mem_rateFragments (h : cs ∈ rateFragments) :
    ¬ "-vf ".toList <+: cs := by
  obtain ⟨ds, rfl⟩ := head?_of_mem_rateFragments h
  simp

/-- Stream maps are no filters. -/
lemma not_filterMark_prefix_of_mem_mapFragments (h : cs ∈ mapFragments) :
    ¬ "-vf ".toList <+: cs := by
  obtain ⟨ds, rfl⟩ := head?_of_mem_mapFragments h
  simp

/-- Stream maps are no rate fragments. -/
lemma notMem_rateFragments_of_mem_mapFragments (h : cs ∈ mapFragments) : cs ∉ rateFragments := by
  intro hrate
  obtain ⟨ds, rfl⟩ := head?_of_mem_mapFragments h
  obtain ⟨es, hes⟩ := head?_of_mem_rateFragments hrate
  simp at hes

/-- Blanks stand in a rate fragment only between its words. -/
lemma splitOn_rateWords {factor rate size : List Char} (hfactor : factor ∈ oneOrMore Char.isDigit)
    (hrate : rate ∈ oneOrMore isAmountChar) (hsize : size ∈ oneOrMore isAmountChar) :
    ([' '].intercalate (rateWords factor rate size)).splitOn ' ' = rateWords factor rate size :=
  List.splitOn_intercalate ' ' (blank_notMem_rateWords hfactor hrate hsize) (by simp [rateWords])

/-- Blanks stand in a stream map only between its words. -/
lemma splitOn_mapWords {labels : List (List Char)}
    (h : ∀ l ∈ labels, l ∈ oneOrMore Char.isLower) :
    ([' '].intercalate (mapWords (labels.map fun l => doubleQuoted (bracketed l)))).splitOn ' '
      = mapWords (labels.map fun l => doubleQuoted (bracketed l)) :=
  List.splitOn_intercalate ' ' (blank_notMem_mapWords h) (by simp [mapWords])

/-! ### The words of each shape -/

/-- A filter is read as its flag and its graph. -/
lemma fragmentWordsOf_filter (graph : List Char) :
    fragmentWordsOf ("-vf ".toList ++ graph) = ["-vf".toList, graph] := by
  rw [fragmentWordsOf, if_pos (List.prefix_append _ _)]
  rfl

/-- A rate fragment is read as its words. -/
lemma fragmentWordsOf_rate {factor rate size : List Char}
    (hfactor : factor ∈ oneOrMore Char.isDigit) (hrate : rate ∈ oneOrMore isAmountChar)
    (hsize : size ∈ oneOrMore isAmountChar) :
    fragmentWordsOf ([' '].intercalate (rateWords factor rate size))
      = rateWords factor rate size := by
  have hmem := mem_rateFragments.2 ⟨factor, hfactor, rate, hrate, size, hsize, rfl⟩
  rw [fragmentWordsOf, if_neg (not_filterMark_prefix_of_mem_rateFragments hmem), if_pos hmem,
    splitOn_rateWords hfactor hrate hsize]

/-- A stream map is read as its words, without the quotes. -/
lemma fragmentWordsOf_map {labels : List (List Char)} (hne : labels ≠ [])
    (h : ∀ l ∈ labels, l ∈ oneOrMore Char.isLower) :
    fragmentWordsOf ([' '].intercalate (mapWords (labels.map fun l => doubleQuoted (bracketed l))))
      = mapWords (labels.map bracketed) := by
  have hmem := mem_mapFragments.2 ⟨labels, hne, h, rfl⟩
  rw [fragmentWordsOf, if_neg (not_filterMark_prefix_of_mem_mapFragments hmem),
    if_neg (notMem_rateFragments_of_mem_mapFragments hmem), if_pos hmem, splitOn_mapWords h]
  clear hmem hne
  induction labels with
  | nil => rfl
  | cons l ls ih =>
    rw [List.forall_mem_cons] at h
    have hquote : ∀ c ∈ l, c ≠ '"' := by
      rintro c hc rfl
      exact notMem_of_mem_oneOrMore h.1 (by decide) hc
    simp only [List.map_cons, mapWords_cons, ih h.2]
    simpa [doubleQuoted, bracketed] using hquote

/-- Anything else is read as one word. -/
lemma fragmentWordsOf_plain (hvf : ¬ "-vf ".toList <+: cs) (hrate : cs ∉ rateFragments)
    (hmap : cs ∉ mapFragments) : fragmentWordsOf cs = [cs] := by
  rw [fragmentWordsOf, if_neg hvf, if_neg hrate, if_neg hmap]

/-! ### Reading fragments -/

lemma fragmentChars_filter (graph : List Char) :
    fragmentChars ("-vf ".toList ++ graph) = "-vf ".toList ++ quoteChars graph := rfl

/-- Rate fragments and stream maps are not quoted. -/
lemma fragmentChars_eq_self (hvf : ¬ "-vf ".toList <+: cs)
    (h : cs ∈ rateFragments ∨ cs ∈ mapFragments) : fragmentChars cs = cs := by
  rw [fragmentChars, if_neg (by simpa [filterMark] using hvf), if_pos]
  simpa [isRateWords_splitOn_iff, isMapWords_splitOn_iff] using h

/-- Anything else is quoted as a whole. -/
lemma fragmentChars_plain (hvf : ¬ "-vf ".toList <+: cs) (hrate : cs ∉ rateFragments)
    (hmap : cs ∉ mapFragments) : fragmentChars cs = quoteChars cs := by
  rw [fragmentChars, if_neg (by simpa [filterMark] using hvf), if_neg]
  simpa [isRateWords_splitOn_iff, isMapWords_splitOn_iff] using ⟨hrate, hmap⟩

/-- How a fragment is written for a shell: behind the flag of filters the graph is quoted, flags of
the two patterns stand as they are, and any other fragment is quoted. -/
inductive Written : List Char → List Char → Prop
  | filter (graph : List Char) :
    Written ("-vf ".toList ++ graph) ("-vf ".toList ++ quoteChars graph)
  | rate {cs : List Char} (h : cs ∈ rateFragments) : Written cs cs
  | map {cs : List Char} (h : cs ∈ mapFragments) : Written cs cs
  | plain {cs : List Char} (hvf : ¬ "-vf ".toList <+: cs) (hrate : cs ∉ rateFragments)
      (hmap : cs ∉ mapFragments) : Written cs (quoteChars cs)

lemma written_fragmentChars (cs : List Char) : Written cs (fragmentChars cs) := by
  by_cases hvf : "-vf ".toList <+: cs
  · obtain ⟨graph, rfl⟩ := hvf
    exact .filter graph
  by_cases hrate : cs ∈ rateFragments
  · rw [fragmentChars_eq_self hvf (.inl hrate)]
    exact .rate hrate
  by_cases hmap : cs ∈ mapFragments
  · rw [fragmentChars_eq_self hvf (.inr hmap)]
    exact .map hmap
  · rw [fragmentChars_plain hvf hrate hmap]
    exact .plain hvf hrate hmap

lemma isPart_of_all (hne : cs ≠ []) (h : cs.all isHarmless) : IsPart cs cs :=
  isPart_of_forall_isHarmless hne (List.all_eq_true.1 h)

lemma isPart_of_mem_oneOrMore {p : Char → Bool} (hp : ∀ c, p c → isHarmless c)
    (h : cs ∈ oneOrMore p) : IsPart cs cs :=
  isPart_of_forall_isHarmless h.1 fun c hc => hp c (h.2 c hc)

/-- The harmless characters are letters, digits and ten marks. -/
lemma isHarmless_iff {c : Char} : isHarmless c ↔
    'A' ≤ c ∧ c ≤ 'Z' ∨ 'a' ≤ c ∧ c ≤ 'z' ∨ '0' ≤ c ∧ c ≤ '9' ∨
      c ∈ ['_', '@', '%', '+', '=', ':', ',', '.', '/', '-'] := by
  rw [isHarmless]
  delta Char.isAlphanum Char.isAlpha Char.isUpper Char.isLower Char.isDigit
  simp [Char.le_def, or_assoc]

lemma isHarmless_of_isDigit {c : Char} (h : c.isDigit) : isHarmless c := by
  simp [isHarmless, Char.isAlphanum, h]

lemma isHarmless_of_isAmountChar {c : Char} (h : isAmountChar c) : isHarmless c := by
  simp only [isAmountChar, Bool.or_eq_true, decide_eq_true_eq, List.mem_cons, List.not_mem_nil,
    or_false] at h
  rcases h with h | rfl | rfl | rfl
  · exact isHarmless_of_isDigit h
  all_goals decide

/-- A rate fragment reads as its words. -/
lemma readsAs_rateWords {factor rate size : List Char} (hfactor : factor ∈ oneOrMore Char.isDigit)
    (hrate : rate ∈ oneOrMore isAmountChar) (hsize : size ∈ oneOrMore isAmountChar) :
    ReadsAs ([' '].intercalate (rateWords factor rate size)) (rateWords factor rate size) := by
  have hamount : ∀ w ∈ oneOrMore isAmountChar, IsPart (w ++ ['M']) (w ++ ['M']) := fun w h =>
    (isPart_of_mem_oneOrMore (fun _ => isHarmless_of_isAmountChar) h).append
      (isPart_of_all (by simp) (by decide))
  refine readsAs_intercalate_parts (List.forall₂_same.2 ?_)
  simp only [rateWords, List.forall_mem_cons, List.not_mem_nil, false_implies, implies_true,
    and_true]
  exact ⟨isPart_of_all (by simp) (by decide),
    isPart_of_mem_oneOrMore (fun _ => isHarmless_of_isDigit) hfactor,
    isPart_of_all (by simp) (by decide), hamount rate hrate,
    isPart_of_all (by simp) (by decide), hamount size hsize⟩

/-- A quoted label reads as the label in its brackets. -/
lemma isPart_doubleQuoted_bracketed {l : List Char} (h : l ∈ oneOrMore Char.isLower) :
    IsPart (doubleQuoted (bracketed l)) (bracketed l) := by
  refine isPart_double fun c hc => ?_
  simp only [bracketed, List.mem_cons, List.mem_append, List.not_mem_nil, or_false] at hc
  rcases hc with rfl | hc | rfl
  · decide
  · have hkept : ∀ d, d.isLower = false → c ≠ d := by
      rintro d hd rfl
      simp [h.2 c hc] at hd
    exact ⟨hkept _ (by decide), by simp [isExpanded, hkept '$' (by decide),
      hkept '\x60' (by decide), hkept '\\' (by decide)]⟩
  · decide

/-- A stream map reads as its words, without the quotes. -/
lemma readsAs_mapWords {labels : List (List Char)}
    (h : ∀ l ∈ labels, l ∈ oneOrMore Char.isLower) :
    ReadsAs ([' '].intercalate (mapWords (labels.map fun l => doubleQuoted (bracketed l))))
      (mapWords (labels.map bracketed)) := by
  refine readsAs_intercalate_parts ?_
  induction labels with
  | nil =>
    exact .cons (isPart_of_all (by simp) (by decide))
      (.cons (isPart_of_all (by simp) (by decide)) .nil)
  | cons l ls ih =>
    rw [List.forall_mem_cons] at h
    exact .cons (isPart_of_all (by simp) (by decide))
      (.cons (isPart_doubleQuoted_bracketed h.1) (ih h.2))

/-- A fragment as written for a shell is read as the words that it stands for. -/
lemma Written.readsAs {ds : List Char} (h : Written cs ds) : ReadsAs ds (fragmentWordsOf cs) := by
  cases h with
  | filter graph =>
    rw [fragmentWordsOf_filter]
    have hflag : IsPart "-vf".toList "-vf".toList := isPart_of_all (by simp) (by decide)
    exact hflag.readsAs.append_blank (isPart_quoteChars graph).readsAs
  | rate h =>
    obtain ⟨factor, hfactor, rate, hamount, size, hsize, rfl⟩ := mem_rateFragments.1 h
    rw [fragmentWordsOf_rate hfactor hamount hsize]
    exact readsAs_rateWords hfactor hamount hsize
  | map h =>
    obtain ⟨labels, hne, hlabels, rfl⟩ := mem_mapFragments.1 h
    rw [fragmentWordsOf_map hne hlabels]
    exact readsAs_mapWords hlabels
  | plain hvf hrate hmap =>
    rw [fragmentWordsOf_plain hvf hrate hmap]
    exact (isPart_quoteChars cs).readsAs

/-- An argument reads as the words that it stands for. -/
lemma readsAs_fragmentChars (cs : List Char) : ReadsAs (fragmentChars cs) (fragmentWordsOf cs) :=
  (written_fragmentChars cs).readsAs

/-! ### Reading commands -/

lemma toList_shellText (c : Command) : c.shellText.toList = [' '].intercalate
    (quoteChars c.invocation.toList :: c.args.map fun arg => fragmentChars arg.toList) := by
  simp [Command.shellText, quote, fragment, String.toList_intercalate, Function.comp_def]

/-- A command reads as its program and the words of its arguments. -/
lemma readsAs_shellText (c : Command) : ReadsAs c.shellText.toList
    (c.invocation.toList :: c.args.flatMap fun arg => fragmentWordsOf arg.toList) := by
  have hargs : List.Forall₂ ReadsAs (c.args.map fun arg => fragmentChars arg.toList)
      (c.args.map fun arg => fragmentWordsOf arg.toList) := by
    rw [List.forall₂_map_left_iff, List.forall₂_map_right_iff]
    exact List.forall₂_same.2 fun arg _ => readsAs_fragmentChars arg.toList
  rw [toList_shellText, List.flatMap_def]
  exact readsAs_intercalate (.cons (isPart_quoteChars _).readsAs hargs)

lemma map_ofList_words (c : Command) :
    (c.invocation.toList :: c.args.flatMap fun arg => fragmentWordsOf arg.toList).map String.ofList
      = c.invocation :: c.args.flatMap fragmentWords := by
  rw [List.map_cons, String.ofList_toList, List.map_flatMap]
  rfl

/-- A shell reads a command as its invocation and then, argument by argument, the words that the
fragments stand for. -/
theorem words?_shellText (c : Command) :
    words? c.shellText = some (c.invocation :: c.args.flatMap fragmentWords) := by
  rw [words?, (readsAs_shellText c).wordsOf?_eq, Option.map_some, map_ofList_words]

example : words? "ffmpeg -vf 'a;b' -map \"[outv]\" 'it'\"'\"'s.mp4'"
    = some ["ffmpeg", "-vf", "a;b", "-map", "[outv]", "it's.mp4"] := by decide +kernel

end Montage.Shell
