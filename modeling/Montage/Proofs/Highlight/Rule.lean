import Mathlib.Data.List.TakeWhile
import Montage.Highlight
import Montage.Proofs.Shell.Pattern

/-!
# Rules of highlighting

What the rules match, colour by colour, told by the shape of a match and by what stands around it.
What a rule finds has one of the shapes of its colour.
-/

namespace Montage

open Shell (oneOrMore bracketed)

variable {before : Option Char} {cs : List Char} {n : Nat}

def isLabelChar (c : Char) : Bool := c.isAlphanum || c == ':'

/-- A text is a match of a colour, behind a character, if there is one, and in front of a text. -/
inductive Matched : Colour → Option Char → List Char → List Char → Prop
  /-- The patterns `\bscale=` and `\bconcat=`. -/
  | filter {before : Option Char} {name after : List Char}
    (hname : name = "scale=".toList ∨ name = "concat=".toList)
    (hstart : isWordBoundary before name.head?) : Matched .filters before name after
  /-- The pattern `\[[A-Za-z0-9:]+\]`. -/
  | label {before : Option Char} {name after : List Char} (hname : name ∈ oneOrMore isLabelChar) :
    Matched .filters before (bracketed name) after
  /-- The pattern `(?<!\S)--?[A-Za-z][A-Za-z0-9_:-]*`. -/
  | flag {before : Option Char} {hyphens name after : List Char} {c : Char}
    (hbefore : before.all isBlank) (hhyphens : hyphens = ['-'] ∨ hyphens = ['-', '-'])
    (hletter : c.isAlpha) (hname : ∀ d ∈ name, Matcher.isFlagChar d)
    (hend : ∀ d ∈ after.head?, Matcher.isFlagChar d = false) :
    Matched .flags before (hyphens ++ c :: name) after
  /-- The pattern `\b\d+\.\d+\b`. -/
  | decimal {before : Option Char} {whole fraction after : List Char}
    (hwhole : whole ∈ oneOrMore isDecimalDigit) (hfraction : fraction ∈ oneOrMore isDecimalDigit)
    (hstart : isWordBoundary before whole.head?)
    (hend : isWordBoundary fraction.getLast? after.head?) :
    Matched .numbers before (whole ++ '.' :: fraction) after
  /-- The pattern `\b\d+M?\b(?!\.\d)`. -/
  | amount {before : Option Char} {digits unit after : List Char}
    (hdigits : digits ∈ oneOrMore isDecimalDigit) (hunit : unit = [] ∨ unit = ['M'])
    (hstart : isWordBoundary before digits.head?)
    (hend : isWordBoundary (digits ++ unit).getLast? after.head?)
    (hfraction : ∀ d rest, after = '.' :: d :: rest → isDecimalDigit d = false) :
    Matched .numbers before (digits ++ unit) after
  /-- A text between two quotes of one kind, without a quote of that kind. -/
  | quoted {before : Option Char} {quote : Char} {inside after : List Char}
    (hquote : quote = '\'' ∨ quote = '"') (hinside : quote ∉ inside) :
    Matched .strings before (quote :: (inside ++ [quote])) after
  /-- A path that starts with `/`, `~`, `./` or `../`, up to a blank or a quote. -/
  | path {before : Option Char} {start name after : List Char}
    (hstart : start ∈ ["/".toList, "~".toList, "./".toList, "../".toList])
    (hname : name ∈ oneOrMore Matcher.isPathChar)
    (hend : ∀ d ∈ after.head?, Matcher.isPathChar d = false) :
    Matched .paths before (start ++ name) after

/-- No match is empty. -/
lemma Matched.ne_nil {colour : Colour} {w after : List Char} (h : Matched colour before w after) :
    w ≠ [] := by
  cases h with
  | filter hname => obtain rfl | rfl := hname <;> decide
  | label => exact List.cons_ne_nil _ _
  | flag => exact List.append_ne_nil_of_right_ne_nil _ (List.cons_ne_nil _ _)
  | decimal => exact List.append_ne_nil_of_right_ne_nil _ (List.cons_ne_nil _ _)
  | amount hdigits => exact List.append_ne_nil_of_left_ne_nil hdigits.1 _
  | quoted => exact List.cons_ne_nil _ _
  | path hstart hname => exact List.append_ne_nil_of_right_ne_nil _ hname.1

/-- A text starts with a match of the given length. -/
def StartsMatched (colour : Colour) (before : Option Char) (cs : List Char) (n : Nat) : Prop :=
  ∃ w after, cs = w ++ after ∧ w.length = n ∧ Matched colour before w after

lemma StartsMatched.pos {colour : Colour} (h : StartsMatched colour before cs n) : 0 < n := by
  obtain ⟨w, after, -, rfl, hmatched⟩ := h
  exact List.length_pos_iff.2 hmatched.ne_nil

/-! ### What the rules find -/

namespace Matcher

/-- A run takes characters as long as they pass the test. -/
lemma exists_run (p : Char → Bool) (cs : List Char) : ∃ front rest, cs = front ++ rest ∧
    run p cs = front.length ∧ (∀ c ∈ front, p c) ∧ ∀ c ∈ rest.head?, p c = false := by
  refine ⟨cs.takeWhile p, cs.dropWhile p, List.takeWhile_append_dropWhile.symm, rfl,
    fun c hc => List.mem_takeWhile_imp hc, fun c hc => ?_⟩
  have hne : cs.dropWhile p ≠ [] := by
    intro hnil
    rw [hnil] at hc
    nomatch hc
  rw [List.head?_eq_some_head hne, Option.mem_some_iff] at hc
  rw [← hc]
  exact List.head_dropWhile_not p hne

/-- A word that is found stands there, behind a boundary. -/
lemma word_eq_some {w : List Char} (h : word w before cs = some n) :
    ∃ after, cs = w ++ after ∧ n = w.length ∧ isWordBoundary before cs.head? := by
  unfold word at h
  split_ifs at h with hword
  rw [Bool.and_eq_true, List.isPrefixOf_iff_prefix] at hword
  obtain ⟨⟨after, rfl⟩, hboundary⟩ := hword
  exact ⟨after, rfl, (Option.some.inj h).symm, hboundary⟩

lemma ne_nil_of_length_ne_zero {front : List Char} (h : (front.length != 0) = true) :
    front ≠ [] := by
  rintro rfl
  nomatch h

lemma startsMatched_of_label (h : label before cs = some n) :
    StartsMatched .filters before cs n := by
  unfold label at h
  split at h
  · next rest =>
    obtain ⟨name, after, rfl, hrun, hname, -⟩ :=
      exists_run (fun c => c.isAlphanum || c == ':') rest
    dsimp only at h
    rw [hrun, List.drop_left] at h
    split_ifs at h with hclosed
    rw [Bool.and_eq_true, beq_iff_eq] at hclosed
    obtain ⟨hne, hhead⟩ := hclosed
    obtain ⟨after, rfl⟩ := List.head?_eq_some_iff.1 hhead
    refine ⟨bracketed name, after, by simp [bracketed], ?_,
      .label ⟨ne_nil_of_length_ne_zero hne, hname⟩⟩
    rw [← Option.some.inj h]
    simp [bracketed]
  · cases h

/-- The matcher for filters finds filters only. -/
lemma startsMatched_of_filterRule
    (h : orElse (word "scale=".toList) (orElse (word "concat=".toList) label) before cs = some n) :
    StartsMatched .filters before cs n := by
  unfold orElse at h
  split at h
  · next hword =>
    obtain rfl := Option.some.inj h
    obtain ⟨after, rfl, rfl, hstart⟩ := word_eq_some hword
    exact ⟨_, after, rfl, rfl, .filter (.inl rfl) hstart⟩
  split at h
  · next hword =>
    obtain rfl := Option.some.inj h
    obtain ⟨after, rfl, rfl, hstart⟩ := word_eq_some hword
    exact ⟨_, after, rfl, rfl, .filter (.inr rfl) hstart⟩
  · exact startsMatched_of_label h

lemma startsMatched_of_flagName {hyphens : List Char} (hbefore : before.all isBlank)
    (hhyphens : hyphens = ['-'] ∨ hyphens = ['-', '-'])
    (h : flagName hyphens.length cs = some n) :
    StartsMatched .flags before (hyphens ++ cs) n := by
  unfold flagName at h
  split at h
  · next c rest =>
    obtain ⟨name, after, rfl, hrun, hname, hend⟩ := exists_run isFlagChar rest
    split_ifs at h with hletter
    refine ⟨hyphens ++ c :: name, after, by simp, ?_, .flag hbefore hhyphens hletter hname hend⟩
    rw [← Option.some.inj h, hrun, List.length_append, List.length_cons]
    omega
  · nomatch h

/-- The matcher for flags finds flags only. -/
lemma startsMatched_of_flag (h : flag before cs = some n) : StartsMatched .flags before cs n := by
  unfold flag at h
  split_ifs at h with hbefore
  split at h
  · exact startsMatched_of_flagName hbefore (.inr rfl) h
  · exact startsMatched_of_flagName hbefore (.inl rfl) h
  · nomatch h

/-- A number starts with all the digits that stand there. -/
lemma exists_leadingDigits (h : leadingDigits before cs ≠ 0) : ∃ digits rest, cs = digits ++ rest ∧
    leadingDigits before cs = digits.length ∧ digits ∈ oneOrMore isDecimalDigit ∧
    isWordBoundary before digits.head? := by
  unfold leadingDigits at h ⊢
  split_ifs at h ⊢ with hstart
  · obtain ⟨digits, rest, rfl, hrun, hdigits, -⟩ := exists_run isDecimalDigit cs
    rw [hrun] at h ⊢
    have hne : digits ≠ [] := fun hnil => h (List.length_eq_zero_iff.2 hnil)
    rw [List.head?_append_of_ne_nil _ hne] at hstart
    exact ⟨digits, rest, rfl, rfl, ⟨hne, hdigits⟩, hstart⟩
  · exact absurd rfl h

/-- The parts of what is found as a number with a fraction. -/
lemma exists_of_decimal_eq_some (h : decimal before cs = some n) : ∃ whole fraction after,
    cs = whole ++ '.' :: fraction ++ after ∧ (whole ++ '.' :: fraction).length = n ∧
      whole ∈ oneOrMore isDecimalDigit ∧ fraction ∈ oneOrMore isDecimalDigit ∧
      isWordBoundary before whole.head? ∧ isWordBoundary fraction.getLast? after.head? := by
  unfold decimal at h
  dsimp only at h
  split_ifs at h with hzero
  obtain ⟨whole, rest, rfl, hlength, hwhole, hstart⟩ := exists_leadingDigits hzero
  rw [hlength, List.drop_left] at h
  split at h
  · next rest =>
    obtain ⟨fraction, after, rfl, hrun, hfraction, -⟩ := exists_run isDecimalDigit rest
    rw [hrun, List.drop_left, List.take_left] at h
    split_ifs at h with hend
    rw [Bool.and_eq_true] at hend
    refine ⟨whole, fraction, after, by simp, ?_, hwhole,
      ⟨ne_nil_of_length_ne_zero hend.1, hfraction⟩, hstart, hend.2⟩
    rw [← Option.some.inj h, List.length_append, List.length_cons]
    omega
  · nomatch h

/-- The matcher for decimals finds numbers only. -/
lemma startsMatched_of_decimal (h : decimal before cs = some n) :
    StartsMatched .numbers before cs n := by
  obtain ⟨whole, fraction, after, rfl, hlength, hwhole, hfraction, hstart, hend⟩ :=
    exists_of_decimal_eq_some h
  exact ⟨_, after, rfl, hlength, .decimal hwhole hfraction hstart hend⟩

/-- An amount ends where no word and no decimal goes on. -/
lemma endsAmount_iff {last : Option Char} {after : List Char} : endsAmount last after ↔
    isWordBoundary last after.head? ∧
      ∀ d rest, after = '.' :: d :: rest → isDecimalDigit d = false := by
  rw [endsAmount, Bool.and_eq_true, Bool.not_eq_true']
  apply and_congr_right'
  unfold startsFraction
  split
  · next d rest =>
    constructor
    · rintro h _ _ ⟨⟩
      exact h
    · exact fun h => h d rest rfl
  · next hother => exact ⟨fun _ d rest heq => absurd heq (hother d rest), fun _ => rfl⟩

/-- The parts of what is found as an amount. -/
lemma exists_of_amount_eq_some (h : amount before cs = some n) : ∃ digits unit after,
    cs = digits ++ unit ++ after ∧ (digits ++ unit).length = n ∧
      digits ∈ oneOrMore isDecimalDigit ∧ (unit = [] ∨ unit = ['M']) ∧
      isWordBoundary before digits.head? ∧ endsAmount (digits ++ unit).getLast? after := by
  unfold amount at h
  dsimp only at h
  split_ifs at h with hzero
  obtain ⟨digits, rest, rfl, hlength, hdigits, hstart⟩ := exists_leadingDigits hzero
  rw [hlength, List.drop_left] at h
  split at h
  · next after =>
    split_ifs at h with hend
    refine ⟨digits, ['M'], after, by simp, ?_, hdigits, .inr rfl, hstart,
      by rwa [List.getLast?_concat]⟩
    rw [← Option.some.inj h, List.length_append, List.length_singleton]
  · rw [List.take_left] at h
    split_ifs at h with hend
    refine ⟨digits, [], rest, by simp, ?_, hdigits, .inl rfl, hstart, by rwa [List.append_nil]⟩
    rw [← Option.some.inj h, List.append_nil]

/-- The matcher for amounts finds numbers only. -/
lemma startsMatched_of_amount (h : amount before cs = some n) :
    StartsMatched .numbers before cs n := by
  obtain ⟨digits, unit, after, rfl, hlength, hdigits, hunit, hstart, hend⟩ :=
    exists_of_amount_eq_some h
  obtain ⟨hboundary, hfraction⟩ := endsAmount_iff.1 hend
  exact ⟨_, after, rfl, hlength, .amount hdigits hunit hstart hboundary hfraction⟩

/-- The matcher for quoted texts finds them only. -/
lemma startsMatched_of_quoted (h : quoted before cs = some n) :
    StartsMatched .strings before cs n := by
  unfold quoted at h
  split at h
  · next c rest =>
    split_ifs at h with hquote
    rw [Bool.or_eq_true, beq_iff_eq, beq_iff_eq] at hquote
    obtain ⟨inside, after, rfl, hrun, hinside, hend⟩ := exists_run (· != c) rest
    dsimp only at h
    rw [hrun, List.drop_left] at h
    split_ifs at h with hclosed
    cases after with
    | nil => exact absurd rfl hclosed
    | cons d after =>
      obtain rfl : d = c := by simpa using hend d rfl
      refine ⟨d :: (inside ++ [d]), after, by simp, ?_, .quoted hquote fun hmem => ?_⟩
      · rw [← Option.some.inj h]
        simp
      · simpa using hinside d hmem
  · nomatch h

/-- The start of a path is one of four texts. -/
lemma exists_pathStart (h : pathStart cs ≠ 0) : ∃ start rest, cs = start ++ rest ∧
    pathStart cs = start.length ∧
    start ∈ ["/".toList, "~".toList, "./".toList, "../".toList] := by
  unfold pathStart at h ⊢
  split
  · exact ⟨"/".toList, _, rfl, rfl, by decide⟩
  · exact ⟨"~".toList, _, rfl, rfl, by decide⟩
  · exact ⟨"./".toList, _, rfl, rfl, by decide⟩
  · exact ⟨"../".toList, _, rfl, rfl, by decide⟩
  · next hslash hhome hnear hup =>
    split at h
    · exact absurd rfl (hslash _)
    · exact absurd rfl (hhome _)
    · exact absurd rfl (hnear _)
    · exact absurd rfl (hup _)
    · exact absurd rfl h

/-- The matcher for paths finds paths only. -/
lemma startsMatched_of_path (h : path before cs = some n) : StartsMatched .paths before cs n := by
  unfold path at h
  dsimp only at h
  split_ifs at h with hfound
  rw [Bool.and_eq_true] at hfound
  obtain ⟨start, rest, rfl, hlength, hstart⟩ := exists_pathStart (bne_iff_ne.1 hfound.1)
  obtain ⟨name, after, rfl, hrun, hname, hend⟩ := exists_run isPathChar rest
  rw [hlength, List.drop_left, hrun] at h hfound
  refine ⟨start ++ name, after, by simp, ?_,
    .path hstart ⟨ne_nil_of_length_ne_zero hfound.2, hname⟩ hend⟩
  rw [← Option.some.inj h, List.length_append]

end Matcher

/-- What a rule finds is a match of its colour. -/
lemma startsMatched_of_mem_highlightRules {m : Matcher} {colour : Colour}
    (hrule : (m, colour) ∈ highlightRules) (h : m before cs = some n) :
    StartsMatched colour before cs n := by
  simp only [highlightRules, List.mem_cons, Prod.mk.injEq, List.not_mem_nil, or_false] at hrule
  obtain ⟨rfl, rfl⟩ | ⟨rfl, rfl⟩ | ⟨rfl, rfl⟩ | ⟨rfl, rfl⟩ | ⟨rfl, rfl⟩ | ⟨rfl, rfl⟩ := hrule
  · exact Matcher.startsMatched_of_filterRule h
  · exact Matcher.startsMatched_of_flag h
  · exact Matcher.startsMatched_of_decimal h
  · exact Matcher.startsMatched_of_amount h
  · exact Matcher.startsMatched_of_quoted h
  · exact Matcher.startsMatched_of_path h

end Montage
