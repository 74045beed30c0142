import Montage.Proofs.Arguments.Mistake
import Montage.Proofs.Arguments.Order

/-!
# Checked paths

What changes on a command line when the files to merge have to exist. Only the tokens after a merge
are looked up, all but the last, so command lines that get to no merge are read as before, and so
are those of which the files exist. Otherwise the first file that is missing is reported, before
anything else that is wrong with the merge or behind it.
-/

namespace Montage

variable {accepts accepts' : String → Bool} {token : String} {ts rest left following : List String}
  {before after : List String} {path : String} {op : Operation}

/-- What a command line is read as, with the files to merge looked up if that is asked for. -/
def parseChecking (checks : Bool) (existing : String → Bool) (ts : List String) :
    Except Failure (List Operation) :=
  parseArguments (fun path => !checks || existing path) ts

/-- Reading gets to a merge: nothing but flags that can be read stands in front of it. -/
def GetsToMerge (tokens following : List String) : Prop :=
  ∃ segments, tokens = List.flatten segments ++ "--merge" :: following ∧
    ∀ s ∈ segments, IsSegment s

/-! ### Where the merge stands -/

/-- No merge starts with the tokens of a flag. -/
lemma IsSegment.ne_merge_append {segment : List String} (h : IsSegment segment) :
    "--merge" :: following ≠ segment ++ left := by
  intro heq
  obtain rfl | ⟨value, rfl | rfl⟩ := h.shape
  all_goals
    obtain ⟨hword, -⟩ := List.cons.inj heq
    exact absurd hword (by decide)

/-- A merge ends the longest run of flags. -/
lemma isCut_merge {segments : List (List String)} (h : ∀ s ∈ segments, IsSegment s)
    (heq : ts = segments.flatten ++ "--merge" :: following) :
    IsCut ts segments ("--merge" :: following) where
  tokens_eq := heq
  isSegment := h
  longest := fun _ _ heq' h' =>
    prefix_of_flatten_append_eq h h' (fun _ _ hs => hs.ne_merge_append) (heq'.symm.trans heq)

/-- A command line gets to one merge at most. -/
lemma GetsToMerge.unique {following' : List String} (h : GetsToMerge ts following)
    (h' : GetsToMerge ts following') : following' = following := by
  obtain ⟨segments, heq, hsegments⟩ := h
  obtain ⟨segments', heq', hsegments'⟩ := h'
  have hrest := ((isCut_merge hsegments' heq').unique (isCut_merge hsegments heq)).2
  exact (List.cons.inj hrest).2

/-- What is left after an operation gets to a merge with files only where all the tokens do. -/
lemma Takes.getsToMerge (h : Takes accepts ts op left) (hleft : GetsToMerge left following) :
    GetsToMerge ts following ∨ following = [] := by
  obtain ⟨segments, hsegments, hall⟩ := hleft
  cases h with
  | @flag op tokens hflag htokens =>
    refine .inl ⟨tokens :: segments, ?_, List.forall_mem_cons.2 ⟨⟨op, hflag, htokens⟩, hall⟩⟩
    rw [hsegments, List.flatten_cons, List.append_assoc]
  | merge hpaths haccepts last =>
    have hlength := congrArg List.length hsegments
    simp only [List.length_append, List.length_cons, List.length_nil] at hlength
    exact .inr (List.eq_nil_of_length_eq_zero (by omega))
  | output hpath => simp at hsegments

/-! ### What is looked up -/

/-- Two ways to check paths agree on the files to merge. -/
def AgreeOnFiles (accepts accepts' : String → Bool) (tokens : List String) : Prop :=
  ∀ following, GetsToMerge tokens following → ∀ p ∈ following.dropLast, accepts p = accepts' p

/-- Two tests that agree on the files of a command line agree on those behind an operation. -/
lemma AgreeOnFiles.behind (h : AgreeOnFiles accepts accepts' ts) (hop : Takes accepts ts op left) :
    AgreeOnFiles accepts accepts' left := by
  intro following hleft p hp
  obtain hts | rfl := hop.getsToMerge hleft
  · exact h following hts p hp
  · nomatch hp

/-- An operation that is taken under one test is taken under another that agrees on the files. -/
lemma AgreeOnFiles.takes (h : AgreeOnFiles accepts accepts' ts) (hop : Takes accepts ts op left) :
    Takes accepts' ts op left := by
  cases hop with
  | flag hflag htokens left => exact .flag hflag htokens left
  | @merge paths hpaths haccepts last =>
    refine .merge hpaths (fun p hp => ?_) last
    rw [← h (paths ++ [last]) ⟨[], rfl, by simp⟩ p (by simpa using hp)]
    exact haccepts p hp
  | output hpath => exact .output hpath

/-- What a merge reads as depends on the test of its own paths only. -/
lemma readMerge_fst_congr (h : ∀ p ∈ ts.dropLast, accepts p = accepts' p) :
    (Argument.readMerge accepts ts).1 = (Argument.readMerge accepts' ts).1 := by
  have hfilter : ts.dropLast.filter (!accepts ·) = ts.dropLast.filter (!accepts' ·) :=
    List.filter_congr fun p hp => by rw [h p hp]
  have hfind : ts.dropLast.find? (!accepts ·) = ts.dropLast.find? (!accepts' ·) := by
    rw [← List.head?_filter, hfilter, List.head?_filter]
  unfold Argument.readMerge
  dsimp only
  rw [hfind]
  cases ts.dropLast.find? (!accepts' ·) with
  | some path => rfl
  | none => split_ifs <;> rfl

lemma AgreeOnFiles.readOperation_fst (h : AgreeOnFiles accepts accepts' (token :: rest)) :
    (Argument.readOperation accepts token rest).1
      = (Argument.readOperation accepts' token rest).1 := by
  unfold Argument.readOperation
  split_ifs with hresize hquality hpreview hmerge
  · rfl
  · rfl
  · rfl
  · exact readMerge_fst_congr (h rest ⟨[], by rw [hmerge]; rfl, by simp⟩)
  · rfl

/-- Nothing but the files to merge is looked up. -/
lemma AgreeOnFiles.result (h : AgreeOnFiles accepts accepts' ts) :
    (Progress.ofTokens accepts ts).result = (Progress.ofTokens accepts' ts).result := by
  fun_induction Progress.ofTokens accepts ts with
  | case1 => rw [Progress.ofTokens]
  | case2 token rest e left hread =>
    have herror : (Argument.readOperation accepts' token rest).1 = .error e := by
      rw [← h.readOperation_fst, hread]
    exact (result_of_readOperation (Prod.ext herror rfl)).symm
  | case3 token rest op left hread progress ih =>
    have hop := takes_of_readOperation hread
    rw [(h.takes hop).result_ofTokens, ← ih (h.behind hop), Progress.result_cons]

/-! ### Command lines -/

/-- What a command line reads as depends on the test of the files in it only. -/
lemma parseArguments_congr (h : AgreeOnFiles accepts accepts' ts.tail) :
    parseArguments accepts ts = parseArguments accepts' ts := by
  cases ts with
  | nil => rfl
  | cons program tokens =>
    rw [parseArguments_cons, parseArguments_cons]
    exact h.result

/-- The first file of a merge that is not accepted is reported, whatever comes behind it. -/
lemma parseArguments_missing (hmerge : GetsToMerge ts.tail following)
    (hfiles : following.dropLast = before ++ path :: after) (hbefore : ∀ p ∈ before, accepts p)
    (hpath : ¬ accepts path) :
    parseArguments accepts ts = .error (.argument (.missingPath path)) := by
  obtain ⟨segments, htokens, hsegments⟩ := hmerge
  have hfind : following.dropLast.find? (!accepts ·) = some path := by
    rw [List.find?_eq_some_iff_append]
    exact ⟨by simpa using hpath, before, after, hfiles, by simpa using hbefore⟩
  have hread : Argument.readOperation accepts "--merge" following
      = (.error (.argument (.missingPath path)), (following.dropWhile accepts).tail) := by
    change Argument.readMerge accepts following = _
    rw [Argument.readMerge, hfind]
  cases ts with
  | nil => simp at htokens
  | cons program tokens =>
    obtain rfl : tokens = _ := htokens
    rw [parseArguments_cons, result_segments hsegments, result_of_readOperation hread]
    rfl

/-- Checking paths changes nothing but what missing files to merge do. A command line that gets to
no merge is read as if paths were not checked. Otherwise the tokens after the merge but for the last
are its files: if they all exist, paths could as well not be checked, and if not, the first that is
missing is reported, whatever else is wrong. No other path is ever looked up. -/
theorem parseArguments_checked (existing : String → Bool) (ts : List String) :
    ((∀ following, ¬ GetsToMerge ts.tail following) →
      parseChecking true existing ts = parseChecking false existing ts) ∧
    ∀ following, GetsToMerge ts.tail following →
      (∀ following', GetsToMerge ts.tail following' → following' = following) ∧
      ((∀ path ∈ following.dropLast, existing path) →
        parseChecking true existing ts = parseChecking false existing ts) ∧
      (∀ before path after, following.dropLast = before ++ path :: after →
        (∀ p ∈ before, existing p) → ¬ existing path →
        parseChecking true existing ts = .error (.argument (.missingPath path)) ∧
          (ArgumentFault.missingPath path).problem.category = .path ∧
          ("`" ++ path ++ "`").toList <:+:
            (ArgumentFault.missingPath path).problem.message.toList) ∧
      ∀ existing' : String → Bool, (∀ path ∈ following.dropLast, existing' path = existing path) →
        parseChecking true existing' ts = parseChecking true existing ts := by
  refine ⟨?noMerge, fun following hmerge => ⟨?unique, ?existing, ?missing, ?others⟩⟩
  case noMerge =>
    intro hnone
    exact parseArguments_congr fun following hmerge => absurd hmerge (hnone following)
  case unique => exact fun following' hmerge' => hmerge.unique hmerge'
  case existing =>
    intro hexisting
    apply parseArguments_congr
    intro following' hmerge' p hp
    rw [hmerge.unique hmerge'] at hp
    simp [hexisting p hp]
  case missing =>
    intro before path after hfiles hbefore hpath
    exact ⟨parseArguments_missing hmerge hfiles (by simpa using hbefore) (by simpa using hpath),
      ArgumentFault.report _⟩
  case others =>
    intro existing' hsame
    apply parseArguments_congr
    intro following' hmerge' p hp
    rw [hmerge.unique hmerge'] at hp
    simp only [hsame p hp]

theorem parseArguments_checked_flag_words :
    let ts := ["montage", "--preview", "--merge", "--quality", "--merge"]
    parseChecking false (· == "a.mp4") ts = .error (.argument (.tooFewPaths ["--quality"])) ∧
      parseChecking true (· == "a.mp4") ts = .error (.argument (.missingPath "--quality")) := by
  intro ts
  have hmerge : GetsToMerge ts.tail ["--quality", "--merge"] :=
    ⟨[["--preview"]], rfl, by simpa using ⟨_, .preview, .preview⟩⟩
  obtain ⟨-, -, hmissing, -⟩ := (parseArguments_checked (· == "a.mp4") ts).2 _ hmerge
  have hreport := hmissing [] "--quality" [] rfl (by simp) (by decide)
  exact ⟨by decide +kernel, hreport.1⟩

end Montage
