import Mathlib.Data.List.Pairwise
import Montage.Proofs.Highlight.Compiled
import Montage.Proofs.Highlight.Pattern

/-!
# Scans for matches

The spans of a highlighted text come pattern by pattern. Those of one pattern lie one behind the
other in the shown text, and as long as all characters can be shown they are its leftmost matches
that do not overlap.
-/

namespace Montage

variable {m : Matcher} {p : Pattern} {before : Option Char} {cs : List Char} {command : String}
  {i j k n skip length : Nat} {acc : List (Nat × Nat)} {s t : Nat × Nat} {colour : Colour}
  {group group' : List Span}

/-- A match of a pattern lies in a text, from one offset up to another. -/
def Pattern.MatchesAt (p : Pattern) (cs : List Char) (i j : Nat) : Prop :=
  ∃ front rest n, cs = front ++ rest ∧ i = front.length ∧ j = front.length + n ∧
    p.Starts front.getLast? rest n

/-- Spans of one colour that lie in a text of a given length, one behind the other. -/
structure IsGroup (length : Nat) (colour : Colour) (group : List Span) : Prop where
  colour_eq : ∀ s ∈ group, s.colour = colour
  bounds : ∀ s ∈ group, s.start < s.stop ∧ s.stop ≤ length
  ordered : group.Pairwise fun s t => s.stop ≤ t.start

/-- Spans lie over the leftmost matches of a pattern in a text: each over the longest match at its
place, and no match starts outside of them. -/
structure IsScan (p : Pattern) (cs : List Char) (group : List Span) : Prop where
  matched : ∀ s ∈ group, p.MatchesAt cs s.start s.stop
  longest : ∀ s ∈ group, ∀ j, p.MatchesAt cs s.start j → j ≤ s.stop
  complete : ∀ i j, p.MatchesAt cs i j → ∃ s ∈ group, s.start ≤ i ∧ i < s.stop

/-! ### What a scan has to give -/

namespace IsGroup

/-- The spans of a group stand in the order of their places. -/
lemma increasing (h : IsGroup length colour group) :
    group.Pairwise fun s t => s.start < t.start :=
  h.ordered.imp_of_mem fun hs _ hle => (h.bounds _ hs).1.trans_le hle

lemma nodup (h : IsGroup length colour group) : group.Nodup :=
  h.increasing.imp fun hlt heq => (heq ▸ hlt).false

/-- No two spans of a group overlap. -/
lemma apart (h : IsGroup length colour group) {s t : Span} (hs : s ∈ group) (ht : t ∈ group)
    (hne : s ≠ t) : s.stop ≤ t.start ∨ t.stop ≤ s.start := by
  have hapart : group.Pairwise fun s t => s.stop ≤ t.start ∨ t.stop ≤ s.start :=
    h.ordered.imp .inl
  have hsymm : Std.Symm fun s t : Span => s.stop ≤ t.start ∨ t.stop ≤ s.start :=
    ⟨fun _ _ => Or.symm⟩
  exact hapart.forall hs ht hne

end IsGroup

namespace IsScan

/-- A span of one scan belongs to another one too, if all spans of that one that start in front of
it belong to the first. -/
lemma mem_of_forall_lt (h : IsScan p cs group) (hgroup : IsGroup length colour group)
    (hgroup' : IsGroup length colour group') (h' : IsScan p cs group') {s : Span} (hs : s ∈ group)
    (hfront : ∀ t ∈ group', t.start < s.start → t ∈ group) : s ∈ group' := by
  obtain ⟨t, ht, hle, hlt⟩ := h'.complete _ _ (h.matched s hs)
  rcases hle.eq_or_lt with hstart | hstart
  · have hstop : t.stop = s.stop := le_antisymm (h.longest s hs _ (hstart ▸ h'.matched t ht))
      (h'.longest t ht _ (hstart ▸ h.matched s hs))
    have hcolour := (hgroup'.colour_eq t ht).trans (hgroup.colour_eq s hs).symm
    have heq : t = s := by
      cases t
      cases s
      rw [Span.mk.injEq]
      exact ⟨hstart, hstop, hcolour⟩
    exact heq ▸ ht
  · have hne : t ≠ s := by
      rintro rfl
      exact hstart.false
    have hapart := hgroup.apart (hfront t ht hstart) hs hne
    have hbounds := hgroup.bounds s hs
    omega

/-- There is only one scan of a text for a pattern. -/
lemma unique (h : IsScan p cs group) (hgroup : IsGroup length colour group)
    (hgroup' : IsGroup length colour group') (h' : IsScan p cs group') : group = group' := by
  have hmem : ∀ s, s ∈ group ↔ s ∈ group' := by
    intro s
    induction hn : s.start using Nat.strongRecOn generalizing s with
    | ind n ih =>
      subst hn
      exact ⟨fun hs => h.mem_of_forall_lt hgroup hgroup' h' hs fun t ht hlt =>
          (ih t.start hlt t rfl).2 ht,
        fun hs => h'.mem_of_forall_lt hgroup' hgroup h hs fun t ht hlt =>
          (ih t.start hlt t rfl).1 ht⟩
  have hperm := (List.perm_ext_iff_of_nodup hgroup.nodup hgroup'.nodup).2 hmem
  exact hperm.eq_of_pairwise (fun s t _ _ hst hts => absurd (hst.trans hts) (lt_irrefl _))
    hgroup.increasing hgroup'.increasing

end IsScan

/-! ### Steps of a scan -/

/-- The matches found so far stand in front of those still to be found. -/
lemma matchesFrom_eq : matchesFrom m before cs i skip acc
    = acc.reverse ++ matchesFrom m before cs i skip [] := by
  induction cs generalizing before i skip acc with
  | nil => exact (List.append_nil _).symm
  | cons c rest ih =>
    unfold matchesFrom
    split_ifs
    · split
      · rw [ih, @ih _ _ _ [_], List.reverse_cons, List.append_assoc]
        rfl
      · exact ih
    · exact ih

/-- A match is skipped before the next one is looked for. -/
lemma matchesFrom_some {c : Char} {rest : List Char} (h : m before (c :: rest) = some n) :
    matchesFrom m before (c :: rest) i 0 []
      = (i, i + n) :: matchesFrom m (some c) rest (i + 1) (n - 1) [] := by
  rw [matchesFrom, if_pos rfl, h]
  exact matchesFrom_eq

lemma matchesFrom_none {c : Char} {rest : List Char} (h : m before (c :: rest) = none) :
    matchesFrom m before (c :: rest) i 0 [] = matchesFrom m (some c) rest (i + 1) 0 [] := by
  rw [matchesFrom, if_pos rfl, h]

/-! ### Matches one behind the other -/

/-- What is found starts behind what belongs to the last match. -/
lemma le_start_of_mem_matchesFrom (h : s ∈ matchesFrom m before cs i skip []) : i + skip ≤ s.1 := by
  induction cs generalizing before i skip with
  | nil => nomatch h
  | cons c rest ih =>
    cases skip with
    | succ skip =>
      have := ih h
      omega
    | zero =>
      cases hm : m before (c :: rest) with
      | none =>
        rw [matchesFrom_none hm] at h
        have := ih h
        omega
      | some n =>
        rw [matchesFrom_some hm] at h
        obtain rfl | h := List.mem_cons.1 h
        · exact le_rfl
        · have := ih h
          omega

/-- Matches do not overlap if none is empty. -/
lemma pairwise_matchesFrom (hpos : ∀ {before cs n}, m before cs = some n → 0 < n) :
    (matchesFrom m before cs i skip []).Pairwise fun s t => s.2 ≤ t.1 := by
  induction cs generalizing before i skip with
  | nil => exact .nil
  | cons c rest ih =>
    cases skip with
    | succ skip => exact ih
    | zero =>
      cases hm : m before (c :: rest) with
      | none =>
        rw [matchesFrom_none hm]
        exact ih
      | some n =>
        rw [matchesFrom_some hm]
        refine .cons (fun t ht => ?_) ih
        have hstart := le_start_of_mem_matchesFrom ht
        have hn := hpos hm
        dsimp only
        omega

/-- Behind what belongs to the last match, a match can only start inside one that is found. -/
lemma exists_mem_matchesFrom (hpos : ∀ {before cs n}, m before cs = some n → 0 < n)
    {front rest : List Char} {c : Char} (hcs : cs = front ++ c :: rest)
    (hm : m (front.getLast?.or before) (c :: rest) = some n) (hskip : skip ≤ front.length) :
    ∃ s ∈ matchesFrom m before cs i skip [],
      s.1 ≤ i + front.length ∧ i + front.length < s.2 := by
  induction front generalizing cs before i skip with
  | nil =>
    obtain rfl := Nat.le_zero.1 hskip
    rw [List.nil_append] at hcs
    subst hcs
    have hmem : (i, i + n) ∈ matchesFrom m before (c :: rest) i 0 [] :=
      (matchesFrom_some hm).symm ▸ List.mem_cons_self
    exact ⟨_, hmem, le_rfl, Nat.lt_add_of_pos_right (hpos hm)⟩
  | cons d front ih =>
    rw [List.cons_append] at hcs
    subst hcs
    -- a match that is found before either holds the place or ends in front of it
    have hrest : ∀ {skip}, skip ≤ front.length →
        ∃ s ∈ matchesFrom m (some d) (front ++ c :: rest) (i + 1) skip [],
          s.1 ≤ i + (d :: front).length ∧ i + (d :: front).length < s.2 := by
      intro skip hskip
      rw [List.length_cons, Nat.add_comm front.length, ← Nat.add_assoc]
      refine ih rfl ?_ hskip
      rw [← hm, List.getLast?_cons]
      cases front.getLast? <;> rfl
    cases skip with
    | succ skip => exact hrest (Nat.le_of_succ_le_succ hskip)
    | zero =>
      cases hd : m before (d :: (front ++ c :: rest)) with
      | none =>
        rw [matchesFrom_none hd]
        exact hrest (Nat.zero_le _)
      | some k =>
        rw [matchesFrom_some hd]
        by_cases hk : k - 1 ≤ front.length
        · obtain ⟨s, hs, hstart⟩ := hrest hk
          exact ⟨s, List.mem_cons_of_mem _ hs, hstart⟩
        · refine ⟨(i, i + k), List.mem_cons_self, Nat.le_add_right _ _, ?_⟩
          rw [List.length_cons]
          dsimp only
          omega

/-! ### Matches in a text -/

lemma Pattern.Starts.le_length (h : p.Starts before cs n) : n ≤ cs.length := by
  obtain ⟨w, after, rfl, rfl, -⟩ := h
  rw [List.length_append]
  exact Nat.le_add_right _ _

/-- Each match was found at its place, behind the text in front of it. -/
lemma exists_of_mem_matchesIn (h : s ∈ matchesIn m cs) : ∃ front rest n, cs = front ++ rest ∧
    s = (front.length, front.length + n) ∧ m front.getLast? rest = some n := by
  obtain hnil | ⟨front, rest, n, hcs, rfl, hm⟩ := mem_matchesFrom h
  · nomatch hnil
  · rw [Option.or_none] at hm
    exact ⟨front, rest, n, hcs, by rw [Nat.zero_add], hm⟩

namespace Matcher.Finds

variable (h : m.Finds p)
include h

/-- Each match is one of the pattern. -/
lemma matchesAt (hs : s ∈ matchesIn m cs) : p.MatchesAt cs s.1 s.2 := by
  obtain ⟨front, rest, n, hcs, rfl, hm⟩ := exists_of_mem_matchesIn hs
  exact ⟨front, rest, n, hcs, rfl, rfl, h.starts hm⟩

lemma start_lt (hs : s ∈ matchesIn m cs) : s.1 < s.2 := by
  obtain ⟨front, rest, n, -, rfl, hm⟩ := exists_of_mem_matchesIn hs
  exact Nat.lt_add_of_pos_right (h.pos hm)

lemma stop_le (hs : s ∈ matchesIn m cs) : s.2 ≤ cs.length := by
  obtain ⟨front, rest, n, rfl, rfl, hm⟩ := exists_of_mem_matchesIn hs
  rw [List.length_append]
  exact Nat.add_le_add_left (h.starts hm).le_length _

/-- No match of the pattern at the same place is longer. -/
lemma le_stop (hs : s ∈ matchesIn m cs) (hj : p.MatchesAt cs s.1 j) : j ≤ s.2 := by
  obtain ⟨front, rest, n, rfl, rfl, hm⟩ := exists_of_mem_matchesIn hs
  obtain ⟨front', rest', k, hcs, hlength, rfl, hstarts⟩ := hj
  obtain ⟨rfl, rfl⟩ := List.append_inj hcs hlength
  obtain ⟨n', hm', hk⟩ := h.longest hstarts
  obtain rfl := Option.some.inj (hm.symm.trans hm')
  exact Nat.add_le_add_left hk _

/-- Where the pattern matches, a match has been found that starts there or reaches over it. -/
lemma exists_mem_matchesIn (hj : p.MatchesAt cs i j) : ∃ s ∈ matchesIn m cs, s.1 ≤ i ∧ i < s.2 := by
  obtain ⟨front, rest, k, rfl, rfl, rfl, hstarts⟩ := hj
  obtain ⟨n, hm, -⟩ := h.longest hstarts
  cases rest with
  | nil => exact absurd (h.starts hm).le_length (Nat.not_le_of_gt (h.pos hm))
  | cons c rest =>
    rw [← Option.or_none (o := front.getLast?)] at hm
    obtain ⟨s, hs, hstart⟩ := exists_mem_matchesFrom (m := m) (i := 0) h.pos rfl hm (Nat.zero_le _)
    rw [Nat.zero_add] at hstart
    exact ⟨s, hs, hstart⟩

end Matcher.Finds

/-! ### Groups of spans -/

/-- The spans of a rule in a text, cut to a given length. -/
def ruleGroup (length : Nat) (cs : List Char) (rule : Matcher × Colour) : List Span :=
  ((matchesIn rule.1 cs).map fun (start, stop) => ⟨start, stop, rule.2⟩).filterMap
    (Span.clip length)

/-- The spans of a rule are its matches, cut off at the end of the text. -/
lemma mem_ruleGroup_iff {s : Span} : s ∈ ruleGroup length cs (m, colour) ↔ ∃ start stop,
    (start, stop) ∈ matchesIn m cs ∧ start < length ∧ s = ⟨start, min length stop, colour⟩ := by
  simp only [ruleGroup, List.mem_filterMap, List.mem_map, Prod.exists]
  constructor
  · rintro ⟨_, ⟨start, stop, hmem, rfl⟩, hclip⟩
    obtain ⟨hstart, rfl⟩ := Span.clip_eq_some_iff.1 hclip
    exact ⟨start, stop, hmem, hstart, rfl⟩
  · rintro ⟨start, stop, hmem, hstart, rfl⟩
    exact ⟨_, ⟨start, stop, hmem, rfl⟩, Span.clip_eq_some_iff.2 ⟨hstart, rfl⟩⟩

/-- The spans are those of the rules, one rule after the other. -/
lemma spans_highlight_eq_flatten (command : String) : (highlight command).spans
    = (highlightRules.map (ruleGroup (highlight command).plain.length command.toList)).flatten := by
  rw [spans_highlight_eq, ruleSpans, List.filterMap_flatMap, ← List.flatMap_def]
  rfl

/-- The spans of a rule make up a group. -/
lemma isGroup_ruleGroup (h : m.Finds p) :
    IsGroup length colour (ruleGroup length cs (m, colour)) where
  colour_eq s hs := by
    obtain ⟨start, stop, -, -, rfl⟩ := mem_ruleGroup_iff.1 hs
    rfl
  bounds s hs := by
    obtain ⟨start, stop, hmem, hstart, rfl⟩ := mem_ruleGroup_iff.1 hs
    exact ⟨lt_min hstart (h.start_lt hmem), min_le_left length stop⟩
  ordered := by
    have hmatches : (matchesIn m cs).Pairwise fun s t => s.2 ≤ t.1 := pairwise_matchesFrom h.pos
    rw [ruleGroup, List.pairwise_filterMap, List.pairwise_map]
    refine hmatches.imp fun hle s' hs' t' ht' => ?_
    obtain ⟨-, rfl⟩ := Span.clip_eq_some_iff.1 hs'
    obtain ⟨-, rfl⟩ := Span.clip_eq_some_iff.1 ht'
    exact (min_le_right _ _).trans hle

/-- Where the length is that of the text, no span is cut or left out. -/
lemma ruleGroup_length (h : m.Finds p) : ruleGroup cs.length cs (m, colour)
    = (matchesIn m cs).map fun (start, stop) => ⟨start, stop, colour⟩ := by
  have hclip : ∀ s ∈ (matchesIn m cs).map fun (start, stop) => Span.mk start stop colour,
      s.clip cs.length = some s := by
    intro s hs
    obtain ⟨⟨start, stop⟩, hmem, rfl⟩ := List.mem_map.1 hs
    exact Span.clip_eq (h.start_lt hmem) (h.stop_le hmem)
  rw [ruleGroup, List.filterMap_congr hclip, List.filterMap_some]

/-- The spans of a rule are the leftmost matches of its pattern. -/
lemma isScan_ruleGroup (h : m.Finds p) : IsScan p cs (ruleGroup cs.length cs (m, colour)) := by
  rw [ruleGroup_length h]
  constructor
  · intro s hs
    obtain ⟨⟨start, stop⟩, hmem, rfl⟩ := List.mem_map.1 hs
    exact h.matchesAt hmem
  · intro s hs j hj
    obtain ⟨⟨start, stop⟩, hmem, rfl⟩ := List.mem_map.1 hs
    exact h.le_stop hmem hj
  · intro i j hj
    obtain ⟨s, hs, hstart⟩ := h.exists_mem_matchesIn hj
    exact ⟨_, List.mem_map_of_mem hs, hstart⟩

/-- The spans of a command come pattern by pattern, in the order of the patterns. Those of one
pattern have its colour, lie in the shown text and one behind the other. As long as all characters
can be shown, the text is the command itself, and the spans of a pattern are just those over its
leftmost matches that do not overlap. -/
theorem highlight_groups (command : String) : ∃ groups,
    (highlight command).spans = groups.flatten ∧
    List.Forall₂ (fun pattern group =>
      IsGroup (highlight command).plain.length pattern.2 group ∧
      (IsShownText command → IsScan pattern.1 command.toList group ∧
        ∀ group', IsGroup (highlight command).plain.length pattern.2 group' →
          IsScan pattern.1 command.toList group' → group' = group)) highlightPatterns groups ∧
    (IsShownText command → (highlight command).plain = command.toList) := by
  refine ⟨_, spans_highlight_eq_flatten command, ?_, plain_highlight_eq_iff.2⟩
  rw [List.forall₂_map_right_iff]
  refine finds_highlightPatterns.imp ?_
  rintro ⟨p, colour⟩ ⟨m, _⟩ ⟨rfl, hfinds⟩
  refine ⟨isGroup_ruleGroup hfinds, fun hshown => ?_⟩
  rw [plain_highlight_eq_iff.2 hshown]
  have hscan : IsScan p command.toList
      (ruleGroup command.toList.length command.toList (m, colour)) := isScan_ruleGroup hfinds
  exact ⟨hscan, fun group' hgroup' hscan' =>
    hscan'.unique hgroup' (isGroup_ruleGroup hfinds) hscan⟩

/-- Digits inside a word are no number; the digits behind a point are found a second time. -/
example : (highlight "x12 12M 1.5").spans
    = [⟨8, 11, .numbers⟩, ⟨4, 7, .numbers⟩, ⟨10, 11, .numbers⟩] := by decide +kernel

end Montage
