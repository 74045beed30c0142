import Montage.Proofs.Highlight.Rule

/-!
# Patterns of highlighting

The patterns that highlighting goes by, put together from characters and places between them. A
match of a pattern depends on the character in front of it and on the text behind it. Each rule
finds the longest match of its pattern at a place, and finds none only where there is none.
-/

namespace Montage

open Shell (oneOrMore bracketed)

variable {before : Option Char} {cs w after : List Char} {n : Nat}

/-- A pattern of texts. -/
inductive Pattern
  /-- The text itself. -/
  | text (w : List Char)
  /-- A character of a class. -/
  | one (p : Char → Bool)
  /-- One character of a class or more. -/
  | several (p : Char → Bool)
  /-- Any number of characters of a class. -/
  | many (p : Char → Bool)
  /-- A place at which a word starts or ends. -/
  | boundary
  /-- A place that is not behind a character of a class. -/
  | notBehind (p : Char → Bool)
  /-- A place at which no match of a pattern starts. -/
  | notBefore (a : Pattern)
  /-- A match of one pattern and then one of another. -/
  | seq (a b : Pattern)
  /-- A match of either pattern. -/
  | either (a b : Pattern)

namespace Pattern

/-- Matches of patterns, one behind the other. -/
def inOrder : List Pattern → Pattern
  | [] => text []
  | a :: as => seq a (inOrder as)

def perhaps (c : Char) : Pattern := either (text [c]) (text [])

/-- A text is a match of a pattern behind a character, if there is one, and in front of a text. -/
def Matches : Pattern → Option Char → List Char → List Char → Prop
  | text w', _, w, _ => w = w'
  | one p, _, w, _ => ∃ c, w = [c] ∧ p c
  | several p, _, w, _ => w ∈ oneOrMore p
  | many p, _, w, _ => ∀ c ∈ w, p c
  | boundary, before, w, after => w = [] ∧ isWordBoundary before after.head?
  | notBehind p, before, w, _ => w = [] ∧ ∀ c ∈ before, p c = false
  | notBefore a, before, w, after =>
    w = [] ∧ ¬ ∃ u rest, after = u ++ rest ∧ a.Matches before u rest
  | seq a b, before, w, after => ∃ u v, w = u ++ v ∧
    a.Matches before u (v ++ after) ∧ b.Matches (u.getLast?.or before) v after
  | either a b, before, w, after => a.Matches before w after ∨ b.Matches before w after

/-- A text starts with a match of the given length. -/
def Starts (p : Pattern) (before : Option Char) (cs : List Char) (n : Nat) : Prop :=
  ∃ w after, cs = w ++ after ∧ w.length = n ∧ p.Matches before w after

/-! ### The patterns -/

/-- The pattern `\bscale=|\bconcat=|\[[A-Za-z0-9:]+\]`. -/
def filters : Pattern :=
  either (inOrder [boundary, text "scale=".toList])
    (either (inOrder [boundary, text "concat=".toList])
      (inOrder [text ['['], several isLabelChar, text [']']]))

/-- The pattern `(?<!\S)--?[A-Za-z][A-Za-z0-9_:-]*`. -/
def flags : Pattern :=
  inOrder [notBehind fun c => !isBlank c, text ['-'], perhaps '-', one Char.isAlpha,
    many Matcher.isFlagChar]

/-- The pattern `\b\d+\.\d+\b`. -/
def decimals : Pattern :=
  inOrder [boundary, several isDecimalDigit, text ['.'], several isDecimalDigit, boundary]

/-- The pattern `\b\d+M?\b(?!\.\d)`. -/
def amounts : Pattern :=
  inOrder [boundary, several isDecimalDigit, perhaps 'M', boundary,
    notBefore (inOrder [text ['.'], one isDecimalDigit])]

/-- A quote, any text without it, and the quote again. -/
def quotedBy (quote : Char) : Pattern := inOrder [text [quote], many (· != quote), text [quote]]

/-- Texts between single quotes or between double quotes. -/
def quoted : Pattern := either (quotedBy '\'') (quotedBy '"')

/-- The starts `(?:/|~|\./|\.\./)` and then characters that are neither blanks nor quotes. -/
def paths : Pattern :=
  inOrder [either (text "/".toList) (either (text "~".toList)
    (either (text "./".toList) (text "../".toList))), several Matcher.isPathChar]

end Pattern

/-- The patterns in the order of the rules, each with its colour. -/
def highlightPatterns : List (Pattern × Colour) :=
  [(.filters, .filters), (.flags, .flags), (.decimals, .numbers), (.amounts, .numbers),
   (.quoted, .strings), (.paths, .paths)]

/-- A rule finds the longest match of a pattern at each place, and none that is empty. -/
structure Matcher.Finds (m : Matcher) (p : Pattern) : Prop where
  pos : ∀ {before cs n}, m before cs = some n → 0 < n
  starts : ∀ {before cs n}, m before cs = some n → p.Starts before cs n
  longest : ∀ {before cs k}, p.Starts before cs k → ∃ n, m before cs = some n ∧ k ≤ n

/-! ### Characters of the patterns -/

/-- Digits are word characters. -/
lemma isWordChar_of_isDecimalDigit {c : Char} (h : isDecimalDigit c) : isWordChar c := by
  have hranges : CharSet.digits.ranges.all fun r =>
      CharSet.word.ranges.any fun r' => r'.1.ble r.1 && r.2.ble r'.2 := by decide +kernel
  simp only [List.all_eq_true, List.any_eq_true, Bool.and_eq_true, Nat.ble_eq] at hranges
  obtain ⟨r, hr, hlo, hhi⟩ := CharSet.contains_iff.1 h
  obtain ⟨r', hr', hlo', hhi'⟩ := hranges r hr
  exact CharSet.contains_of_mem hr' (hlo'.trans hlo) (hhi.trans hhi')

/-- Behind a word, a boundary stands in front of no character of a word. -/
lemma not_isWordChar_of_isWordBoundary {last : Option Char} (hlast : last.any isWordChar)
    (h : isWordBoundary last after.head?) : ∀ c ∈ after.head?, isWordChar c = false := by
  intro c hc
  rw [isWordBoundary, hlast, Option.mem_def.1 hc, Option.any_some] at h
  simpa using h

lemma any_getLast?_of_mem_oneOrMore (h : w ∈ oneOrMore isDecimalDigit) :
    w.getLast?.any isWordChar := by
  rw [List.getLast?_eq_some_getLast h.1, Option.any_some]
  exact isWordChar_of_isDecimalDigit (h.2 _ (List.getLast_mem h.1))

lemma not_isDecimalDigit_of_not_isWordChar {c : Char} (h : isWordChar c = false) :
    isDecimalDigit c = false := by
  rw [Bool.eq_false_iff] at h ⊢
  exact fun hdigit => h (isWordChar_of_isDecimalDigit hdigit)

lemma length_ne_zero_of_mem_oneOrMore {p : Char → Bool} (h : w ∈ oneOrMore p) : w.length ≠ 0 :=
  fun hlength => h.1 (List.length_eq_zero_iff.1 hlength)

namespace Matcher

/-- A run goes through all characters that pass. -/
lemma run_append {p : Char → Bool} (h : ∀ c ∈ w, p c) (rest : List Char) :
    run p (w ++ rest) = w.length + run p rest := by
  rw [run, List.takeWhile_append_of_pos h, List.length_append, run]

/-- A run stops in front of a character that does not pass. -/
lemma run_eq_zero {p : Char → Bool} (h : ∀ c ∈ cs.head?, p c = false) : run p cs = 0 := by
  cases cs with
  | nil => rfl
  | cons c rest => simp [run, h c rfl]

end Matcher

namespace Pattern

/-! ### Matches of the patterns -/

lemma or_getLast? {u : List Char} (hne : u ≠ []) : u.getLast?.or before = u.getLast? := by
  rw [List.getLast?_eq_some_getLast hne]
  rfl

/-- Decimals are two runs of digits with a point between them, and no word goes on around them. -/
lemma matches_decimals : decimals.Matches before w after ↔ ∃ whole fraction,
    w = whole ++ '.' :: fraction ∧ whole ∈ oneOrMore isDecimalDigit ∧
      fraction ∈ oneOrMore isDecimalDigit ∧ isWordBoundary before whole.head? ∧
      isWordBoundary fraction.getLast? after.head? := by
  constructor
  · rintro ⟨_, _, rfl, ⟨rfl, hstart⟩, whole, _, rfl, hwhole, _, _, rfl, rfl, fraction, _, rfl,
      hfraction, _, _, rfl, ⟨rfl, hend⟩, rfl⟩
    refine ⟨whole, fraction, by simp, hwhole, hfraction, ?_, ?_⟩
    · simpa [List.head?_append_of_ne_nil _ hwhole.1] using hstart
    · rwa [or_getLast? hfraction.1] at hend
  · rintro ⟨whole, fraction, rfl, hwhole, hfraction, hstart, hend⟩
    refine ⟨[], _, rfl, ⟨rfl, ?_⟩, whole, _, rfl, hwhole, ['.'], _, rfl, rfl, fraction, _,
      (List.append_nil _).symm, hfraction, [], _, rfl, ⟨rfl, ?_⟩, rfl⟩
    · simpa [List.head?_append_of_ne_nil _ hwhole.1] using hstart
    · rwa [or_getLast? hfraction.1]

lemma matches_filters : filters.Matches before w after ↔
    (w = "scale=".toList ∨ w = "concat=".toList) ∧ isWordBoundary before w.head? ∨
      ∃ name ∈ oneOrMore isLabelChar, w = bracketed name := by
  constructor
  · rintro (⟨_, _, rfl, ⟨rfl, hstart⟩, _, _, rfl, rfl, rfl⟩ |
      ⟨_, _, rfl, ⟨rfl, hstart⟩, _, _, rfl, rfl, rfl⟩ |
      ⟨_, _, rfl, rfl, name, _, rfl, hname, _, _, rfl, rfl, rfl⟩)
    · exact .inl ⟨.inl rfl, hstart⟩
    · exact .inl ⟨.inr rfl, hstart⟩
    · exact .inr ⟨name, hname, rfl⟩
  · rintro (⟨rfl | rfl, hstart⟩ | ⟨name, hname, rfl⟩)
    · exact .inl ⟨[], _, rfl, ⟨rfl, hstart⟩, _, [], rfl, rfl, rfl⟩
    · exact .inr (.inl ⟨[], _, rfl, ⟨rfl, hstart⟩, _, [], rfl, rfl, rfl⟩)
    · exact .inr (.inr ⟨['['], _, rfl, rfl, name, [']'], rfl, hname, [']'], [], rfl, rfl, rfl⟩)

/-- Flags are one or two hyphens behind a blank, and a name. -/
lemma matches_flags : flags.Matches before w after ↔ ∃ hyphens c name,
    w = hyphens ++ c :: name ∧ before.all isBlank ∧
      (hyphens = ['-'] ∨ hyphens = ['-', '-']) ∧ c.isAlpha ∧ ∀ d ∈ name, Matcher.isFlagChar d := by
  have hblank : before.all isBlank ↔ ∀ c ∈ before, (!isBlank c) = false := by
    cases before <;> simp
  constructor
  · rintro ⟨_, _, rfl, ⟨rfl, hbefore⟩, _, _, rfl, rfl, _, _, rfl, hhyphen, _, _, rfl, ⟨c, rfl, hc⟩,
      name, _, rfl, hname, rfl⟩
    rw [List.append_nil]
    obtain rfl | rfl := hhyphen
    · exact ⟨['-', '-'], c, name, rfl, hblank.2 hbefore, .inr rfl, hc, hname⟩
    · exact ⟨['-'], c, name, rfl, hblank.2 hbefore, .inl rfl, hc, hname⟩
  · rintro ⟨_, c, name, rfl, hbefore, rfl | rfl, hc, hname⟩
    · exact ⟨[], _, rfl, ⟨rfl, hblank.1 hbefore⟩, ['-'], _, rfl, rfl, [], _, rfl, .inr rfl, [c], _,
        rfl, ⟨c, rfl, hc⟩, name, [], (List.append_nil _).symm, hname, rfl⟩
    · exact ⟨[], _, rfl, ⟨rfl, hblank.1 hbefore⟩, ['-'], _, rfl, rfl, ['-'], _, rfl, .inl rfl, [c],
        _, rfl, ⟨c, rfl, hc⟩, name, [], (List.append_nil _).symm, hname, rfl⟩

/-- Amounts are digits, with a unit or without, in which nothing goes on. -/
lemma matches_amounts : amounts.Matches before w after ↔ ∃ digits unit, w = digits ++ unit ∧
    digits ∈ oneOrMore isDecimalDigit ∧ (unit = [] ∨ unit = ['M']) ∧
      isWordBoundary before digits.head? ∧
      Matcher.endsAmount (digits ++ unit).getLast? after := by
  -- what stands before the fraction does not matter
  have hfraction : ∀ (last : Option Char), (∃ u rest, after = u ++ rest ∧
      (inOrder [text ['.'], one isDecimalDigit]).Matches last u rest) ↔
        ∃ d rest, after = '.' :: d :: rest ∧ isDecimalDigit d := by
    intro last
    constructor
    · rintro ⟨_, rest, rfl, _, _, rfl, rfl, _, _, rfl, ⟨d, rfl, hd⟩, rfl⟩
      exact ⟨d, rest, rfl, hd⟩
    · rintro ⟨d, rest, rfl, hd⟩
      exact ⟨['.', d], rest, rfl, ['.'], [d], rfl, rfl, [d], [], rfl, ⟨d, rfl, hd⟩, rfl⟩
  have hnext : (∀ d rest, after = '.' :: d :: rest → isDecimalDigit d = false) ↔
      ¬ ∃ d rest, after = '.' :: d :: rest ∧ isDecimalDigit d := by
    simp only [not_exists, not_and, Bool.not_eq_true]
  simp only [Matcher.endsAmount_iff, hnext]
  constructor
  · rintro ⟨_, _, rfl, ⟨rfl, hstart⟩, digits, _, rfl, hdigits, unit, _, rfl, hunit, _, _, rfl,
      ⟨rfl, hend⟩, _, _, rfl, ⟨rfl, hbehind⟩, rfl⟩
    refine ⟨digits, unit, by simp, hdigits, hunit.symm, ?_, ?_, (hfraction _).not.1 hbehind⟩
    · simpa [List.head?_append_of_ne_nil _ hdigits.1] using hstart
    · rwa [or_getLast? hdigits.1, ← List.getLast?_append] at hend
  · rintro ⟨digits, unit, rfl, hdigits, hunit, hstart, hend, hbehind⟩
    refine ⟨[], _, rfl, ⟨rfl, ?_⟩, digits, _, rfl, hdigits, unit, _, (List.append_nil _).symm,
      hunit.symm, [], _, rfl, ⟨rfl, ?_⟩, [], _, rfl, ⟨rfl, (hfraction _).not.2 hbehind⟩, rfl⟩
    · simpa [List.head?_append_of_ne_nil _ hdigits.1] using hstart
    · rwa [or_getLast? hdigits.1, ← List.getLast?_append]

/-- A quoted text reaches to the next quote of its kind. -/
lemma matches_quoted : quoted.Matches before w after ↔ ∃ quote inside,
    (quote = '\'' ∨ quote = '"') ∧ w = quote :: (inside ++ [quote]) ∧ quote ∉ inside := by
  have hinside : ∀ (quote : Char) (inside : List Char),
      (∀ c ∈ inside, c != quote) ↔ quote ∉ inside := by
    intro quote inside
    simp only [bne_iff_ne]
    exact ⟨fun h hmem => h quote hmem rfl, fun h c hc heq => h (heq ▸ hc)⟩
  have hmatches : ∀ quote : Char, (quotedBy quote).Matches before w after ↔
      ∃ inside, w = quote :: (inside ++ [quote]) ∧ quote ∉ inside := by
    intro quote
    constructor
    · rintro ⟨_, _, rfl, rfl, inside, _, rfl, h, _, _, rfl, rfl, rfl⟩
      exact ⟨inside, rfl, (hinside quote inside).1 h⟩
    · rintro ⟨inside, rfl, h⟩
      exact ⟨[quote], _, rfl, rfl, inside, [quote], rfl, (hinside quote inside).2 h, [quote], [],
        rfl, rfl, rfl⟩
  constructor
  · rintro (h | h)
    · obtain ⟨inside, rfl, hmem⟩ := (hmatches _).1 h
      exact ⟨_, inside, .inl rfl, rfl, hmem⟩
    · obtain ⟨inside, rfl, hmem⟩ := (hmatches _).1 h
      exact ⟨_, inside, .inr rfl, rfl, hmem⟩
  · rintro ⟨_, inside, rfl | rfl, hw, hmem⟩
    · exact .inl ((hmatches _).2 ⟨inside, hw, hmem⟩)
    · exact .inr ((hmatches _).2 ⟨inside, hw, hmem⟩)

/-- Paths start with a slash, a tilde or dots. -/
lemma matches_paths : paths.Matches before w after ↔ ∃ start name, w = start ++ name ∧
    start ∈ ["/".toList, "~".toList, "./".toList, "../".toList] ∧
      name ∈ oneOrMore Matcher.isPathChar := by
  simp only [List.mem_cons, List.not_mem_nil, or_false]
  constructor
  · rintro ⟨start, _, rfl, hstart, name, _, rfl, hname, rfl⟩
    exact ⟨start, name, by rw [List.append_nil], hstart, hname⟩
  · rintro ⟨start, name, rfl, hstart, hname⟩
    exact ⟨start, name, rfl, hstart, name, [], (List.append_nil _).symm, hname, rfl⟩

end Pattern

/-! ### Rules and patterns -/

namespace Matcher

open Pattern

/-- A word is found where it stands behind a boundary. -/
lemma word_append (hne : w ≠ []) (hstart : isWordBoundary before w.head?) (after : List Char) :
    word w before (w ++ after) = some w.length := by
  refine if_pos ?_
  rw [Bool.and_eq_true, List.isPrefixOf_iff_prefix, List.head?_append_of_ne_nil _ hne]
  exact ⟨List.prefix_append w after, hstart⟩

lemma label_append {name : List Char} (hname : name ∈ oneOrMore isLabelChar) (after : List Char) :
    label before (bracketed name ++ after) = some (bracketed name).length := by
  have hrun : run isLabelChar (name ++ ']' :: after) = name.length := by
    rw [run_append hname.2, run_eq_zero (by rintro _ ⟨⟩; decide), Nat.add_zero]
  have hne := length_ne_zero_of_mem_oneOrMore hname
  simp only [label, bracketed, List.cons_append, List.append_assoc]
  rw [show (fun c : Char => c.isAlphanum || c == ':') = isLabelChar from rfl, List.nil_append, hrun]
  simp [hne]

/-- All digits of a run are found. -/
lemma leadingDigits_append (hw : w ∈ oneOrMore isDecimalDigit)
    (hstart : isWordBoundary before w.head?) (hend : ∀ c ∈ after.head?, isDecimalDigit c = false) :
    leadingDigits before (w ++ after) = w.length := by
  rw [leadingDigits, List.head?_append_of_ne_nil _ hw.1, if_pos hstart, run_append hw.2,
    run_eq_zero hend, Nat.add_zero]

/-- The matcher for filters finds the longest match of their pattern. -/
lemma finds_filters :
    Finds (orElse (word "scale=".toList) (orElse (word "concat=".toList) label)) filters where
  pos h := (startsMatched_of_filterRule h).pos
  starts := by
    intro before cs n h
    obtain ⟨w, after, rfl, hlength, hmatched⟩ := startsMatched_of_filterRule h
    refine ⟨w, after, rfl, hlength, matches_filters.2 ?_⟩
    cases hmatched with
    | filter hname hstart => exact .inl ⟨hname, hstart⟩
    | label hname => exact .inr ⟨_, hname, rfl⟩
  longest := by
    rintro before _ _ ⟨w, after, rfl, rfl, h⟩
    obtain ⟨rfl | rfl, hstart⟩ | ⟨name, hname, rfl⟩ := matches_filters.1 h
    · have hword := word_append (by decide) hstart after
      exact ⟨_, by rw [orElse, hword], le_rfl⟩
    · have hscale : word "scale=".toList before ("concat=".toList ++ after) = none := rfl
      have hword := word_append (by decide) hstart after
      exact ⟨_, by rw [orElse, hscale, orElse, hword], le_rfl⟩
    · have hscale : word "scale=".toList before (bracketed name ++ after) = none := rfl
      have hconcat : word "concat=".toList before (bracketed name ++ after) = none := rfl
      exact ⟨_, by rw [orElse, hscale, orElse, hconcat, label_append hname], le_rfl⟩

/-- The matcher for flags finds the longest match of their pattern. -/
lemma finds_flags : Finds flag flags where
  pos h := (startsMatched_of_flag h).pos
  starts := by
    intro before cs n h
    obtain ⟨w, after, rfl, hlength, hmatched⟩ := startsMatched_of_flag h
    refine ⟨w, after, rfl, hlength, matches_flags.2 ?_⟩
    cases hmatched with
    | flag hbefore hhyphens hletter hname => exact ⟨_, _, _, rfl, hbefore, hhyphens, hletter, hname⟩
  longest := by
    rintro before _ _ ⟨_, after, rfl, rfl, h⟩
    obtain ⟨hyphens, c, name, rfl, hbefore, hhyphens, hletter, hname⟩ := matches_flags.1 h
    have hflag : flag before (hyphens ++ c :: name ++ after)
        = flagName hyphens.length (c :: (name ++ after)) := by
      have hc : c ≠ '-' := by
        rintro rfl
        nomatch hletter
      obtain rfl | rfl := hhyphens
      · simp [flag, hbefore, hc]
      · simp [flag, hbefore]
    refine ⟨_, hflag.trans (if_pos hletter), ?_⟩
    rw [run_append hname, List.length_append, List.length_cons]
    omega

/-- The matcher for decimals finds the longest match of their pattern. -/
lemma finds_decimals : Finds decimal decimals where
  pos h := (startsMatched_of_decimal h).pos
  starts := by
    intro before cs n h
    obtain ⟨whole, fraction, after, rfl, hlength, hwhole, hfraction, hstart, hend⟩ :=
      exists_of_decimal_eq_some h
    exact ⟨_, after, rfl, hlength,
      matches_decimals.2 ⟨whole, fraction, rfl, hwhole, hfraction, hstart, hend⟩⟩
  longest := by
    rintro before _ _ ⟨_, after, rfl, rfl, h⟩
    obtain ⟨whole, fraction, rfl, hwhole, hfraction, hstart, hend⟩ := matches_decimals.1 h
    have hwholeRun : leadingDigits before (whole ++ '.' :: (fraction ++ after)) = whole.length :=
      leadingDigits_append hwhole hstart (by rintro _ ⟨⟩; decide)
    have hfractionRun : run isDecimalDigit (fraction ++ after) = fraction.length := by
      rw [run_append hfraction.2, run_eq_zero, Nat.add_zero]
      exact fun c hc => not_isDecimalDigit_of_not_isWordChar
        (not_isWordChar_of_isWordBoundary (any_getLast?_of_mem_oneOrMore hfraction) hend c hc)
    refine ⟨whole.length + 1 + fraction.length, ?_, by simp; omega⟩
    rw [List.append_assoc, List.cons_append, decimal, hwholeRun,
      if_neg (length_ne_zero_of_mem_oneOrMore hwhole), List.drop_left]
    simp [hfractionRun, hend, hfraction.1]

/-- The matcher for amounts finds the longest match of their pattern. -/
lemma finds_amounts : Finds amount amounts where
  pos h := (startsMatched_of_amount h).pos
  starts := by
    intro before cs n h
    obtain ⟨digits, unit, after, rfl, hlength, hdigits, hunit, hstart, hend⟩ :=
      exists_of_amount_eq_some h
    exact ⟨_, after, rfl, hlength,
      matches_amounts.2 ⟨digits, unit, rfl, hdigits, hunit, hstart, hend⟩⟩
  longest := by
    rintro before _ _ ⟨_, after, rfl, rfl, h⟩
    obtain ⟨digits, unit, rfl, hdigits, hunit, hstart, hend⟩ := matches_amounts.1 h
    have hzero := length_ne_zero_of_mem_oneOrMore hdigits
    obtain rfl | rfl := hunit
    · rw [List.append_nil] at hend ⊢
      have hword := not_isWordChar_of_isWordBoundary (any_getLast?_of_mem_oneOrMore hdigits)
        (endsAmount_iff.1 hend).1
      have hrun := leadingDigits_append hdigits hstart fun c hc =>
        not_isDecimalDigit_of_not_isWordChar (hword c hc)
      refine ⟨digits.length, ?_, le_rfl⟩
      rw [amount, hrun, if_neg hzero, List.drop_left]
      -- an `M` would belong to the word of the digits
      split
      · nomatch hword 'M' rfl
      · rw [List.take_left, if_pos hend]
    · have hrun : leadingDigits before (digits ++ 'M' :: after) = digits.length :=
        leadingDigits_append hdigits hstart (by rintro _ ⟨⟩; decide)
      rw [List.getLast?_concat] at hend
      refine ⟨digits.length + 1, ?_, by simp⟩
      rw [List.append_assoc, List.singleton_append, amount, hrun, if_neg hzero, List.drop_left]
      exact if_pos hend

/-- The matcher for quoted texts finds the longest match of their pattern. -/
lemma finds_quoted : Finds quoted Pattern.quoted where
  pos h := (startsMatched_of_quoted h).pos
  starts := by
    intro before cs n h
    obtain ⟨w, after, rfl, hlength, hmatched⟩ := startsMatched_of_quoted h
    refine ⟨w, after, rfl, hlength, matches_quoted.2 ?_⟩
    cases hmatched with
    | quoted hquote hinside => exact ⟨_, _, hquote, rfl, hinside⟩
  longest := by
    rintro before _ _ ⟨_, after, rfl, rfl, h⟩
    obtain ⟨quote, inside, hquote, rfl, hinside⟩ := matches_quoted.1 h
    have hrun : run (· != quote) (inside ++ quote :: after) = inside.length := by
      rw [run_append, run_eq_zero (by simp), Nat.add_zero]
      exact fun c hc => bne_iff_ne.2 fun heq => hinside (heq ▸ hc)
    refine ⟨inside.length + 2, ?_, by simp⟩
    simp [quoted, hquote, hrun]

/-- The matcher for paths finds the longest match of their pattern. -/
lemma finds_paths : Finds path paths where
  pos h := (startsMatched_of_path h).pos
  starts := by
    intro before cs n h
    obtain ⟨w, after, rfl, hlength, hmatched⟩ := startsMatched_of_path h
    refine ⟨w, after, rfl, hlength, matches_paths.2 ?_⟩
    cases hmatched with
    | path hstart hname => exact ⟨_, _, rfl, hstart, hname⟩
  longest := by
    rintro before _ _ ⟨_, after, rfl, rfl, h⟩
    obtain ⟨start, name, rfl, hstart, hname⟩ := matches_paths.1 h
    have hpathStart : pathStart (start ++ (name ++ after)) = start.length := by
      simp only [List.mem_cons, List.not_mem_nil, or_false] at hstart
      obtain rfl | rfl | rfl | rfl := hstart <;> rfl
    have hrun := run_append hname.2 after
    have hzero : start.length ≠ 0 ∧ name.length ≠ 0 := by
      refine ⟨fun hlength => ?_, length_ne_zero_of_mem_oneOrMore hname⟩
      rw [List.length_eq_zero_iff.1 hlength] at hstart
      exact absurd hstart (by decide)
    refine ⟨start.length + run isPathChar (name ++ after), ?_, by simp; omega⟩
    simp [path, hpathStart, hrun, hzero]

end Matcher

/-- The rules find the matches of the patterns, in the same order and in the same colours. -/
lemma finds_highlightPatterns : List.Forall₂ (fun pattern rule => pattern.2 = rule.2 ∧
    rule.1.Finds pattern.1) highlightPatterns highlightRules :=
  open Matcher in
  .cons ⟨rfl, finds_filters⟩ <| .cons ⟨rfl, finds_flags⟩ <| .cons ⟨rfl, finds_decimals⟩ <|
    .cons ⟨rfl, finds_amounts⟩ <| .cons ⟨rfl, finds_quoted⟩ <| .cons ⟨rfl, finds_paths⟩ .nil

end Montage
