import Montage.Proofs.Arguments.Order
import Montage.Proofs.Arguments.RoundTrip

/-!
# Merged files

The command of a merge shows how many files are merged, but not which: only their number reaches
the filter graph. The names are not looked at while the command line is read either, so any others
may take their place, even words that are flags elsewhere.
-/

namespace Montage

variable {accepts : String → Bool} {curve : Curve} {programs : Programs} {ts : List String}
  {paths paths' : List String} {ops : List Operation} {c : Command}

/-! ### The tokens of a merge -/

/-- A merge stands behind flags, and takes all tokens but one; with other files it is read just as
well. -/
lemma TakesAll.exists_merge (h : TakesAll accepts ts ops) (hmerge : .merge paths ∈ ops) :
    ∃ (segments : List (List String)) (last : String) (flags ending : List Operation),
      ts = segments.flatten ++ "--merge" :: (paths ++ [last]) ∧
      (∀ s ∈ segments, IsSegment s) ∧ ops = flags ++ .merge paths :: ending ∧
      ∀ paths' : List String, paths'.length = paths.length → (∀ p ∈ paths', accepts p) →
        TakesAll accepts (segments.flatten ++ "--merge" :: (paths' ++ [last]))
          (flags ++ .merge paths' :: ending) := by
  induction h with
  | nil => nomatch hmerge
  | @cons ts left op ops hop hops ih =>
    cases hop with
    | @flag op tokens hflag htokens =>
      have hmem : .merge paths ∈ ops := by
        refine (List.mem_cons.1 hmerge).resolve_left ?_
        rintro rfl
        nomatch hflag
      obtain ⟨segments, last, flags, ending, rfl, hsegments, rfl, hother⟩ := ih hmem
      refine ⟨tokens :: segments, last, op :: flags, ending, ?_, ?_, rfl, ?_⟩
      · rw [List.flatten_cons, List.append_assoc]
      · exact List.forall_mem_cons.2 ⟨⟨op, hflag, htokens⟩, hsegments⟩
      · intro paths' hlength haccepts
        rw [List.flatten_cons, List.append_assoc]
        exact .cons (.flag hflag htokens _) (hother paths' hlength haccepts)
    | @merge merged hpaths haccepts last =>
      have hfirst : merged = paths := by
        rcases List.mem_cons.1 hmerge with heq | hmem
        · exact (Operation.merge.inj heq).symm
        · -- one token is left, and a second merge would need two
          obtain ⟨segments, last', -, -, heq, -⟩ := ih hmem
          have hlength := congrArg List.length heq
          simp only [List.length_append, List.length_cons, List.length_nil] at hlength
          omega
      subst hfirst
      refine ⟨[], last, [], ops, rfl, by simp, rfl, ?_⟩
      intro paths' hlength haccepts'
      exact .cons (.merge (hlength ▸ hpaths) haccepts' last) hops
    | output hpath =>
      rcases List.mem_cons.1 hmerge with heq | hmem
      · nomatch heq
      · rw [hops.eq_nil] at hmem
        nomatch hmem

/-! ### The command of a merge -/

/-- Merges of the same number of files ask for the same. -/
lemma alike_merge (hlength : paths'.length = paths.length) (ops : List Operation) :
    Alike curve (.merge paths' :: ops) (.merge paths :: ops) where
  faults := rfl
  filters := by
    have hfilter : (Operation.merge paths').filter? = (Operation.merge paths).filter? := by
      rw [Operation.filter?, Operation.filter?, hlength]
    rw [List.filterMap_cons, List.filterMap_cons, hfilter]
  scores := rfl
  modes := rfl
  merges := rfl
  paths := rfl

/-- The files to merge count only by their number: where they stand on a command line that compiles,
other names, as many as there are, give the same command. If paths are checked, the new ones have to
exist like the old ones. -/
theorem compileArguments_merge {checks : Bool} {existing : String → Bool}
    (hread : parseArguments (fun path => !checks || existing path) ts = .ok ops)
    (hmerge : .merge paths ∈ ops) (hcompile : compileOperations curve programs ops = .ok c) :
    ∃ (program : String) (segments : List (List String)) (last : String),
      ts = program :: (segments.flatten ++ "--merge" :: (paths ++ [last])) ∧
      (∀ s ∈ segments, IsSegment s) ∧
      ∀ paths' : List String, paths'.length = paths.length →
        (checks → ∀ path ∈ paths', existing path) →
        compileArguments (fun path => !checks || existing path) curve programs
          (program :: (segments.flatten ++ "--merge" :: (paths' ++ [last]))) = .ok c := by
  obtain ⟨program, tokens, rfl, htakes⟩ := parseArguments_eq_ok_iff.1 hread
  obtain ⟨segments, last, flags, ending, rfl, hsegments, rfl, hother⟩ := htakes.exists_merge hmerge
  refine ⟨program, segments, last, rfl, hsegments, ?_⟩
  intro paths' hlength hexisting
  have haccepts : ∀ path ∈ paths', !checks || existing path := by
    intro path hpath
    cases checks with
    | false => rfl
    | true => exact hexisting rfl path hpath
  have hread' := parseArguments_eq_ok_iff.2
    ⟨program, _, rfl, hother paths' hlength haccepts⟩
  have halike : Alike curve (flags ++ .merge paths' :: ending) (flags ++ .merge paths :: ending) :=
    (alike_merge hlength ending).append_left flags
  exact bind_eq_ok_iff.2 ⟨_, hread', (halike.compileOperations_eq programs).trans hcompile⟩

theorem compileArguments_merge_flag_words :
    let files := ["a.mp4", "b.mp4", "--resize"]
    let filters := "-vf [0][v0];[1][v1];[2][v2];[v0][0:a:0][v1][1:a:0][v2][2:a:0]" ++
      "concat=n=3:v=1:a=1[outv][outa]"
    compileArguments (fun path => !true || files.contains path) some .standard
        ("montage" :: ["--quality", "1", "--merge", "a.mp4", "b.mp4", "a.mp4", "c.mp4"])
      = .ok ⟨"ffmpeg", [filters, "-crf 50 -maxrate 1M -bufsize 2M", mergeMap, "c.mp4"]⟩ ∧
    compileArguments (fun path => !true || files.contains path) some .standard
        ("montage" :: ["--quality", "1", "--merge", "--resize", "b.mp4", "--resize", "c.mp4"])
      = .ok ⟨"ffmpeg", [filters, "-crf 50 -maxrate 1M -bufsize 2M", mergeMap, "c.mp4"]⟩ := by
  intro files filters
  have hread : parseArguments (fun path => !true || files.contains path)
      ("montage" :: ["--quality", "1", "--merge", "a.mp4", "b.mp4", "a.mp4", "c.mp4"])
      = .ok [.quality 1, .merge ["a.mp4", "b.mp4", "a.mp4"], .output "c.mp4"] := by
    decide +kernel
  have hcompile : compileOperations some .standard
        [.quality 1, .merge ["a.mp4", "b.mp4", "a.mp4"], .output "c.mp4"]
      = .ok ⟨"ffmpeg", [filters, "-crf 50 -maxrate 1M -bufsize 2M", mergeMap, "c.mp4"]⟩ := by
    decide +kernel
  have hmerge : .merge ["a.mp4", "b.mp4", "a.mp4"]
      ∈ [.quality 1, .merge ["a.mp4", "b.mp4", "a.mp4"], Operation.output "c.mp4"] := by simp
  obtain ⟨program, segments, last, heq, -, hother⟩ :=
    compileArguments_merge hread hmerge hcompile
  obtain ⟨rfl, htokens⟩ := List.cons.inj heq
  replace htokens : ["--quality", "1"] ++ ["--merge", "a.mp4", "b.mp4", "a.mp4", "c.mp4"]
      = segments.flatten ++ "--merge" :: (["a.mp4", "b.mp4", "a.mp4"] ++ [last]) := htokens
  obtain ⟨hfront, hback⟩ := List.append_inj' htokens rfl
  obtain rfl : last = "c.mp4" := by simpa using hback.symm
  have hsame := hother ["--resize", "b.mp4", "--resize"] rfl (by decide)
  rw [← hfront] at hsame
  exact ⟨bind_eq_ok_iff.2 ⟨_, hread, hcompile⟩, hsame⟩

end Montage
