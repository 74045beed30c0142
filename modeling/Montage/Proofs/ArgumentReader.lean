import Mathlib.Logic.Function.Iterate
import Montage.ArgumentReader
import Montage.Proofs.Cursor

/-!
# Readers of arguments

What a reader does that takes its tokens one by one. The paths of a merge are gathered in passes:
each takes one path while more than one token is left, so there are as many as there are tokens,
and the last token stays.
-/

namespace Montage.ArgumentReader

open Gathering

variable {existing : String → Bool} {r last : ArgumentReader} {path : String}
  {paths : List String} {g : Gathering} {result : Except Failure (List String)} {i k : Nat}

/-! ### Taking tokens -/

/-- The reader after taking tokens. -/
def skip (r : ArgumentReader) (k : Nat) : ArgumentReader := (fun r => r.next?.2)^[k] r

lemma skip_succ (r : ArgumentReader) (k : Nat) : r.skip (k + 1) = (r.skip k).next?.2 :=
  Function.iterate_succ_apply' _ k r

/-- Taking tokens drops them from the front. -/
lemma rest_skip (r : ArgumentReader) (k : Nat) :
    (r.skip k).cursor.rest = r.cursor.rest.drop k := by
  induction k with
  | zero => rfl
  | succ k ih =>
    rw [skip_succ, ← List.tail_drop, ← ih]
    exact Cursor.rest_next? _

lemma checksPaths_skip (r : ArgumentReader) (k : Nat) : (r.skip k).checksPaths = r.checksPaths := by
  induction k with
  | zero => rfl
  | succ k ih =>
    rw [skip_succ]
    exact ih

lemma parsed_skip (r : ArgumentReader) (k : Nat) : (r.skip k).parsed = r.parsed := by
  induction k with
  | zero => rfl
  | succ k ih =>
    rw [skip_succ]
    exact ih

/-- Which paths may be merged depends on nothing but whether they have to exist. -/
lemma accepts_congr (h : last.checksPaths = r.checksPaths) :
    last.accepts existing = r.accepts existing := by
  funext path
  rw [accepts, accepts, h]

lemma accepts_skip (r : ArgumentReader) (k : Nat) :
    (r.skip k).accepts existing = r.accepts existing := accepts_congr (r.checksPaths_skip k)

/-- The count of tokens left is never negative. -/
lemma left_eq (r : ArgumentReader) : r.cursor.left = r.cursor.rest.length := r.within.left_eq

lemma left_skip (r : ArgumentReader) (k : Nat) :
    (r.skip k).cursor.left = (r.cursor.rest.length - k : Nat) := by
  rw [left_eq, rest_skip, List.length_drop]

lemma next?_of_rest_eq_nil (h : r.cursor.rest = []) : r.next? = (none, r) := by
  obtain ⟨c, hc, checks, parsed⟩ := r
  simp only [next?, Cursor.next?_of_rest_eq_nil h]

lemma next?_skip (hk : k < r.cursor.rest.length) :
    (r.skip k).next? = (some r.cursor.rest[k], r.skip (k + 1)) := by
  have hhead : (r.skip k).cursor.next?.1 = some r.cursor.rest[k] := by
    rw [Cursor.fst_next?, rest_skip, List.head?_drop, List.getElem?_eq_getElem hk]
  rw [skip_succ]
  exact Prod.ext hhead rfl

/-! ### Passes -/

/-- The last token is left for the output path. -/
lemma pass_of_length_le_one (h : r.cursor.rest.length ≤ 1) :
    (ongoing r paths).pass existing = ended r (.ok paths) := by
  rw [Gathering.pass]
  by_cases hone : r.cursor.left = 1
  · rw [if_pos hone]
  · have hnil : r.cursor.rest = [] := by
      rw [left_eq] at hone
      exact List.eq_nil_of_length_eq_zero (by omega)
    rw [if_neg hone, next?_of_rest_eq_nil hnil]

/-- A pass takes a path as long as more than one token is left. -/
lemma pass_skip (hk : k + 1 < r.cursor.rest.length) :
    (ongoing (r.skip k) paths).pass existing
      = if r.accepts existing r.cursor.rest[k] then
          ongoing (r.skip (k + 1)) (paths ++ [r.cursor.rest[k]])
        else ended (r.skip (k + 1)) (.error (.argument (.missingPath r.cursor.rest[k]))) := by
  have hleft : (r.skip k).cursor.left ≠ 1 := by
    rw [left_skip]
    omega
  rw [Gathering.pass, if_neg hleft, next?_skip (Nat.lt_of_succ_lt hk)]
  dsimp only
  rw [Argument.acceptedPath, accepts_skip]
  split_ifs <;> rfl

/-- As long as paths are accepted, each pass gathers one. -/
lemma iterate_pass (hk : k < r.cursor.rest.length)
    (haccepted : ∀ p ∈ r.cursor.rest.take k, r.accepts existing p) :
    (Gathering.pass existing)^[k] (ongoing r []) = ongoing (r.skip k) (r.cursor.rest.take k) := by
  induction k with
  | zero => rfl
  | succ k ih =>
    have htake : r.cursor.rest.take (k + 1) = r.cursor.rest.take k ++ [r.cursor.rest[k]] :=
      List.take_succ_eq_append_getElem (Nat.lt_of_succ_lt hk)
    rw [htake, List.forall_mem_append, List.forall_mem_singleton] at haccepted
    rw [Function.iterate_succ_apply', ih (Nat.lt_of_succ_lt hk) haccepted.1, pass_skip hk,
      if_pos haccepted.2, htake]

/-- If all paths but the last token are accepted, there is one pass for each token, or one that
finds none, and the last token stays. -/
lemma iterate_pass_accepted (haccepted : ∀ p ∈ r.cursor.rest.dropLast, r.accepts existing p) :
    (Gathering.pass existing)^[max r.cursor.rest.length 1] (ongoing r [])
      = ended (r.skip (r.cursor.rest.length - 1)) (.ok r.cursor.rest.dropLast) := by
  rw [List.dropLast_eq_take] at haccepted ⊢
  rcases Nat.eq_zero_or_pos r.cursor.rest.length with hzero | hpos
  · rw [hzero]
    exact pass_of_length_le_one (by omega)
  · have hpasses : max r.cursor.rest.length 1 = r.cursor.rest.length - 1 + 1 := by omega
    rw [hpasses, Function.iterate_succ_apply', iterate_pass (by omega) haccepted]
    apply pass_of_length_le_one
    rw [rest_skip, List.length_drop]
    omega

/-- The first path that is not accepted ends the passes. -/
lemma iterate_pass_missing (hi : i + 1 < r.cursor.rest.length)
    (hbefore : ∀ p ∈ r.cursor.rest.take i, r.accepts existing p)
    (hpath : ¬ r.accepts existing r.cursor.rest[i]) :
    (Gathering.pass existing)^[i + 1] (ongoing r [])
      = ended (r.skip (i + 1)) (.error (.argument (.missingPath r.cursor.rest[i]))) := by
  rw [Function.iterate_succ_apply', iterate_pass (Nat.lt_of_succ_lt hi) hbefore, pass_skip hi,
    if_neg hpath]

/-- Gathering ends where its passes do. -/
lemma finish_of_iterate (h : (Gathering.pass existing)^[k] g = ended r result) :
    g.finish existing = (result, r) := by
  induction k generalizing g with
  | zero =>
    obtain rfl : g = ended r result := h
    rw [finish]
  | succ k ih =>
    have hnext := ih h
    cases g with
    | ongoing r' paths => rwa [finish]
    | ended r' result' => exact hnext

/-- Either all paths but the last token are accepted, or one of them is the first that is not. -/
lemma accepted_or_missing (accepts : String → Bool) (ts : List String) :
    (∀ p ∈ ts.dropLast, accepts p) ∨
    ∃ (i : Nat) (hi : i + 1 < ts.length), (∀ p ∈ ts.take i, accepts p) ∧ ¬ accepts ts[i] := by
  by_cases h : ∃ p ∈ ts.dropLast, !accepts p
  · right
    have hlt := List.findIdx_lt_length_of_exists h
    have hpath := List.findIdx_getElem (w := hlt)
    rw [List.getElem_dropLast] at hpath
    have hlength := hlt
    rw [List.length_dropLast] at hlength
    refine ⟨ts.dropLast.findIdx (!accepts ·), by omega, fun p hp => ?_, by simpa using hpath⟩
    obtain ⟨j, hj, rfl⟩ := List.mem_take_iff_getElem.1 hp
    have hbefore := List.not_of_lt_findIdx (Nat.lt_of_lt_of_le hj (Nat.min_le_left _ _))
    rw [List.getElem_dropLast] at hbefore
    simpa using hbefore
  · left
    simpa using h

/-! ### Merges -/

lemma mergeOf_dropLast_of_length_le_one {ts : List String} (h : ts.length ≤ 1) :
    mergeOf ts.dropLast = .error (.argument (.tooFewPaths [])) := by
  have hempty : ts.dropLast = [] := by
    rw [← List.length_eq_zero_iff, List.length_dropLast]
    omega
  rw [hempty]
  rfl

/-- Two paths in front of the last token are enough to be merged. -/
lemma mergeOf_dropLast_of_three_le_length {ts : List String} (h : 3 ≤ ts.length) :
    mergeOf ts.dropLast = .ok (.merge (ts.take (ts.length - 1))) := by
  have hlength : ¬ ts.dropLast.length < 2 := by
    rw [List.length_dropLast]
    omega
  rw [mergeOf, if_neg hlength, List.dropLast_eq_take]

lemma readMerge_of_iterate (h : (Gathering.pass existing)^[k] (ongoing r []) = ended last result) :
    r.readMerge existing = (result >>= mergeOf, last) := by
  rw [readMerge, finish_of_iterate h]
  rfl

/-- A merge of accepted paths takes all tokens but the last. -/
lemma readMerge_of_accepted (h : ∀ p ∈ r.cursor.rest.dropLast, r.accepts existing p) :
    r.readMerge existing
      = (mergeOf r.cursor.rest.dropLast, r.skip (r.cursor.rest.length - 1)) :=
  readMerge_of_iterate (iterate_pass_accepted h)

/-- A path that is not accepted ends a merge behind it. -/
lemma readMerge_of_missing (hi : i + 1 < r.cursor.rest.length)
    (hbefore : ∀ p ∈ r.cursor.rest.take i, r.accepts existing p)
    (hpath : ¬ r.accepts existing r.cursor.rest[i]) :
    r.readMerge existing
      = (.error (.argument (.missingPath r.cursor.rest[i])), r.skip (i + 1)) :=
  readMerge_of_iterate (iterate_pass_missing hi hbefore hpath)

/-- There is at most one pass for each token that is left, or one that finds none. -/
lemma exists_iterate_pass (existing : String → Bool) (r : ArgumentReader) :
    ∃ k ≤ max r.cursor.rest.length 1, ∃ last result,
      (Gathering.pass existing)^[k] (ongoing r []) = ended last result := by
  obtain haccepted | ⟨i, hi, hbefore, hpath⟩ :=
    accepted_or_missing (r.accepts existing) r.cursor.rest
  · exact ⟨_, Nat.le_refl _, _, _, iterate_pass_accepted haccepted⟩
  · exact ⟨i + 1, by omega, _, _, iterate_pass_missing hi hbefore hpath⟩

/-- The report of a merge for which too few paths were found. -/
def tooFew (found : String) : Problem :=
  ⟨.merge, "Expected at least 2 filenames in filter `merge` (eg.: --merge a.mp4 b.mp4), found "
    ++ found ++ " filename(s)."⟩

/-- Reading a merge ends, after at most one pass for each token that is left, or one that finds
none. If all paths exist or need not exist, it takes all tokens but the last, which make up the
merge if they are two or more, and are reported as too few if not. Otherwise the first missing path
is reported, and the tokens behind it stay. -/
theorem readMerge_leaves (existing : String → Bool) (r : ArgumentReader) :
    let ts := r.cursor.rest
    let n := ts.length
    let gathered := (ongoing r []).finish existing
    let merged := r.readMerge existing
    r.cursor.left = n ∧
    (∃ k ≤ max n 1, (Gathering.pass existing)^[k] (ongoing r []) = ended gathered.2 gathered.1) ∧
    ((r.checksPaths = false ∨ ∀ p ∈ ts.dropLast, existing p) →
      merged.2 = r.skip (n - 1) ∧
      (n = 0 → merged.1 = .error (.argument (.tooFewPaths [])) ∧ merged.2.cursor.left = 0) ∧
      (n = 1 → merged.1 = .error (.argument (.tooFewPaths [])) ∧ merged.2.cursor.left = 1) ∧
      (∀ path last, ts = [path, last] →
        merged.1 = .error (.argument (.tooFewPaths [path])) ∧ merged.2.cursor.left = 1) ∧
      (3 ≤ n → merged.1 = .ok (.merge (ts.take (n - 1))) ∧ merged.2.cursor.left = 1)) ∧
    (r.checksPaths = true → ∀ i path, i < n - 1 → ts[i]? = some path →
      (∀ p ∈ ts.take i, existing p) → ¬ existing path →
      merged.2 = r.skip (i + 1) ∧
      merged.1 = .error (.argument (.missingPath path)) ∧
        merged.2.cursor.left = (n - i - 1 : Nat)) ∧
    (ArgumentFault.tooFewPaths []).problem = tooFew "0" ∧
    ∀ path, (ArgumentFault.tooFewPaths [path]).problem = tooFew ("1 (" ++ path ++ ")") ∧
      (ArgumentFault.missingPath path).problem
        = ⟨.path, "Path `" ++ path ++ "` is not valid path (eg: video.mp4)."⟩ := by
  intro ts n gathered merged
  refine ⟨r.left_eq, ?ends, ?accepted, ?missing, by decide, fun path => ⟨?named, rfl⟩⟩
  case ends =>
    obtain ⟨k, hk, last, result, hlast⟩ := exists_iterate_pass existing r
    refine ⟨k, hk, ?_⟩
    rw [hlast]
    exact congrArg (fun g => ended g.2 g.1) (finish_of_iterate hlast).symm
  case accepted =>
    intro hexisting
    have haccepted : ∀ p ∈ ts.dropLast, r.accepts existing p := by
      intro p hp
      obtain hunchecked | hexisting := hexisting
      · simp [accepts, hunchecked]
      · simp [accepts, hexisting p hp]
    have hmerged : merged = (mergeOf ts.dropLast, r.skip (n - 1)) := readMerge_of_accepted haccepted
    have hleft : merged.2.cursor.left = (n - (n - 1) : Nat) := by rw [hmerged, left_skip]
    rw [hmerged] at hleft ⊢
    refine ⟨rfl, fun hn => ⟨?_, ?_⟩, fun hn => ⟨?_, ?_⟩, fun path last hpair => ⟨?_, ?_⟩,
      fun hn => ⟨?_, ?_⟩⟩
    · exact mergeOf_dropLast_of_length_le_one (Nat.le_succ_of_le (Nat.le_of_eq hn))
    · rw [hleft, hn]
      rfl
    · exact mergeOf_dropLast_of_length_le_one (Nat.le_of_eq hn)
    · rw [hleft, hn]
      rfl
    · rw [hpair]
      rfl
    · have hn : n = 2 := congrArg List.length hpair
      rw [hleft, hn]
      rfl
    · exact mergeOf_dropLast_of_three_le_length hn
    · rw [hleft]
      omega
  case missing =>
    intro hchecks i path hi hpath hbefore hmissing
    obtain ⟨hlt, rfl⟩ := List.getElem?_eq_some_iff.1 hpath
    have haccepts : r.accepts existing = existing := by
      funext p
      simp [accepts, hchecks]
    have hmerged : merged = (.error (.argument (.missingPath ts[i])), r.skip (i + 1)) := by
      refine readMerge_of_missing (?_ : i + 1 < n) ?_ ?_
      · omega
      · rwa [haccepts]
      · rwa [haccepts]
    rw [hmerged]
    exact ⟨rfl, rfl, r.left_skip (i + 1)⟩
  case named =>
    have hone : "1 (" = Nat.repr 1 ++ " (" := by decide
    simp [ArgumentFault.problem, tooFew, hone, String.append_assoc]

theorem readMerge_leaves_missing :
    let ts := ["montage", "--merge", "a.mp4", "b.mp4", "out.mp4"]
    let merged := ((ofTokens false ts).skip 2).readMerge (· == "a.mp4")
    let checked := ((ofTokens true ts).skip 2).readMerge (· == "a.mp4")
    (merged.1 = .ok (.merge ["a.mp4", "b.mp4"]) ∧ merged.2.cursor.left = 1) ∧
    checked.1 = .error (.argument (.missingPath "b.mp4")) ∧ checked.2.cursor.left = 1 := by
  intro ts merged checked
  obtain ⟨-, -, hmerge, -⟩ := readMerge_leaves (· == "a.mp4") ((ofTokens false ts).skip 2)
  obtain ⟨-, -, -, -, hthree⟩ := hmerge (.inl rfl)
  obtain ⟨-, -, -, hmissing, -⟩ := readMerge_leaves (· == "a.mp4") ((ofTokens true ts).skip 2)
  obtain ⟨-, hsecond⟩ := hmissing rfl 1 "b.mp4" (by decide) rfl (by decide) (by decide)
  exact ⟨hthree (by decide), hsecond⟩

end Montage.ArgumentReader
