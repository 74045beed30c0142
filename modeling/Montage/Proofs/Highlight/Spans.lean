import Montage.Proofs.Highlight.Rule

/-!
# Spans of highlighted texts

The spans of a text lie over what the rules match in it. As long as all characters of the text can
be shown, it stands in the highlighted text as it is, and so do the spans; other characters are left
out, but the offsets of the spans still count them.
-/

namespace Montage

variable {m : Matcher} {before : Option Char} {cs : List Char} {i skip : Nat} {p : Nat × Nat}
  {acc : List (Nat × Nat)} {s : Span} {command : String}

/-- A span lies over a match of its colour in a text. -/
def Span.Covers (s : Span) (cs : List Char) : Prop :=
  ∃ front w after, cs = front ++ (w ++ after) ∧ s.start = front.length ∧
    s.stop = front.length + w.length ∧ Matched s.colour front.getLast? w after

/-! ### Matches in a text -/

/-- Whatever was matched before, a match that is added is found by the rule at its place. -/
lemma mem_matchesFrom (h : p ∈ matchesFrom m before cs i skip acc) : p ∈ acc ∨
    ∃ front rest n, cs = front ++ rest ∧ p = (i + front.length, i + front.length + n) ∧
      m (front.getLast?.or before) rest = some n := by
  induction cs generalizing before i skip acc with
  | nil => exact .inl (List.mem_reverse.1 h)
  | cons c rest ih =>
    -- what is found in the rest is found in the whole, one place further on
    have hrest : ∀ {skip acc}, p ∈ matchesFrom m (some c) rest (i + 1) skip acc → p ∈ acc ∨
        ∃ front rest' n, c :: rest = front ++ rest' ∧
          p = (i + front.length, i + front.length + n) ∧
          m (front.getLast?.or before) rest' = some n := by
      intro skip acc hp
      obtain hacc | ⟨front, rest', n, rfl, rfl, hm⟩ := ih hp
      · exact .inl hacc
      · refine .inr ⟨c :: front, rest', n, rfl, ?_, ?_⟩
        · rw [List.length_cons, Nat.add_right_comm, Nat.add_assoc i]
        · rw [← hm, List.getLast?_cons]
          cases front.getLast? <;> rfl
    unfold matchesFrom at h
    split_ifs at h
    · split at h
      · next n hn =>
        obtain hacc | hfound := hrest h
        · rcases List.mem_cons.1 hacc with rfl | hacc
          · exact .inr ⟨[], c :: rest, n, rfl, rfl, hn⟩
          · exact .inl hacc
        · exact .inr hfound
      · exact hrest h
    · exact hrest h

/-- The spans of the rules lie over matches. -/
lemma covers_of_mem_ruleSpans (h : s ∈ ruleSpans cs) : s.Covers cs := by
  rw [ruleSpans, List.mem_flatMap] at h
  obtain ⟨⟨m, colour⟩, hrule, hmatch⟩ := h
  rw [List.mem_map] at hmatch
  obtain ⟨p, hp, rfl⟩ := hmatch
  obtain hnil | ⟨front, rest, n, rfl, rfl, hm⟩ := mem_matchesFrom hp
  · nomatch hnil
  · rw [Option.or_none] at hm
    obtain ⟨w, after, rfl, rfl, hmatched⟩ := startsMatched_of_mem_highlightRules hrule hm
    exact ⟨front, w, after, rfl, Nat.zero_add _, by rw [Nat.zero_add], hmatched⟩

/-! ### Highlighted texts -/

/-- A span is cut off at the end of the text, and dropped if it starts there. -/
lemma Span.clip_eq_some_iff {length : Nat} {s t : Span} : s.clip length = some t ↔
    s.start < length ∧ t = { s with stop := min length s.stop } := by
  unfold Span.clip
  split_ifs with hstart
  · exact iff_of_false (fun h => nomatch h) fun h => Nat.not_le_of_gt h.1 hstart
  · rw [Option.some_inj, eq_comm]
    exact (and_iff_right (Nat.lt_of_not_le hstart)).symm

/-- A span inside a text is neither cut nor left out. -/
lemma Span.clip_eq {length : Nat} {s : Span} (hstart : s.start < s.stop) (hstop : s.stop ≤ length) :
    s.clip length = some s := by
  rw [Span.clip_eq_some_iff, Nat.min_eq_right hstop]
  exact ⟨hstart.trans_le hstop, rfl⟩

/-- A span of shown characters is not cut off. -/
lemma Span.Covers.clip_eq (h : s.Covers cs) : s.clip cs.length = some s := by
  obtain ⟨front, w, after, rfl, hstart, hstop, hmatched⟩ := h
  have hpos : 0 < w.length := List.length_pos_iff.2 hmatched.ne_nil
  have hlength : (front ++ (w ++ after)).length = front.length + (w.length + after.length) := by
    rw [List.length_append, List.length_append]
  exact Span.clip_eq (by omega) (by omega)

/-- What is shown of a command is its shown characters. -/
lemma plain_highlight (command : String) :
    (highlight command).plain = command.toList.filter isShown := by
  unfold highlight
  dsimp only
  split_ifs with hempty
  · rw [List.isEmpty_iff.1 hempty]
    rfl
  · rfl

/-- A command is shown in full if all of its characters are. -/
lemma plain_highlight_eq_iff :
    (highlight command).plain = command.toList ↔ ∀ c ∈ command.toList, isShown c := by
  rw [plain_highlight, List.filter_eq_self]

lemma spans_highlight_eq (command : String) : (highlight command).spans
    = (ruleSpans command.toList).filterMap (Span.clip (highlight command).plain.length) := by
  rw [plain_highlight]
  unfold highlight
  dsimp only
  split_ifs with hempty
  · rw [List.isEmpty_iff.1 hempty]
    rfl
  · rfl

/-- Where all characters can be shown, no span is cut or left out. -/
lemma spans_highlight (h : ∀ c ∈ command.toList, isShown c) :
    (highlight command).spans = ruleSpans command.toList := by
  have hclip : ∀ s ∈ ruleSpans command.toList, Span.clip command.toList.length s = some s :=
    fun s hs => (covers_of_mem_ruleSpans hs).clip_eq
  rw [spans_highlight_eq, plain_highlight_eq_iff.2 h, List.filterMap_congr hclip,
    List.filterMap_some]

end Montage
