import Mathlib.Logic.ExistsUnique
import Montage.Proofs.Arguments.Reading

/-!
# Command lines and operations

Reading a command line undoes writing one. What is read is a list of flags with an ending, written
on the command line token for token; and whatever way such a list is written, it is read back.
-/

namespace Montage

variable {accepts : String → Bool} {ts : List String} {op : Operation} {ops : List Operation}

/-! ### What can be read -/

/-- An operation takes just the tokens that spell it. -/
lemma Takes.exists_tokens {left : List String} (h : Takes accepts ts op left) :
    ∃ tokens, op.Spelled tokens ∧ ts = tokens ++ left := by
  cases h with
  | flag hflag htokens => exact ⟨_, htokens, rfl⟩
  | merge hpaths haccepts last => exact ⟨_, .merge _, rfl⟩
  | output hpath => exact ⟨_, .output _, rfl⟩

/-- No token is lost and none is made up. -/
lemma TakesAll.exists_words (h : TakesAll accepts ts ops) :
    ∃ words, ts = words.flatten ∧ List.Forall₂ Operation.Spelled ops words := by
  induction h with
  | nil => exact ⟨[], rfl, .nil⟩
  | cons hop hops ih =>
    obtain ⟨words, rfl, hwords⟩ := ih
    obtain ⟨tokens, htokens, rfl⟩ := hop.exists_tokens
    exact ⟨tokens :: words, rfl, .cons htokens hwords⟩

/-- Without tokens there are no operations. -/
lemma TakesAll.eq_nil (h : TakesAll accepts [] ops) : ops = [] := by
  generalize hts : ([] : List String) = ts at h
  cases h with
  | nil => rfl
  | cons hop hops =>
    obtain ⟨token, rest, rfl, -⟩ := hop.readOperation
    nomatch hts

/-- What follows a merge is the last operation. -/
lemma TakesAll.ending_of_merge {paths : List String} {last : String} (hpaths : 2 ≤ paths.length)
    (h : TakesAll accepts [last] ops) : Ending (.merge paths :: ops) := by
  generalize hts : [last] = ts at h
  cases h with
  | nil => nomatch hts
  | cons hop hops =>
    subst hts
    obtain ⟨rfl, ⟨hpath, rfl⟩ | ⟨-, rfl⟩⟩ := hop.of_singleton
    · rw [hops.eq_nil]
      exact .mergeOutput hpaths hpath
    · rw [hops.eq_nil]
      exact .mergePreview hpaths

/-- Operations that are read are flags with an ending. -/
lemma TakesAll.exists_parts (h : TakesAll accepts ts ops) :
    ∃ flags ending, ops = flags ++ ending ∧ (∀ op ∈ flags, op.IsFlag) ∧ Ending ending := by
  induction h with
  | nil => exact ⟨[], [], rfl, by simp, .nothing⟩
  | @cons ts left op ops hop hops ih =>
    cases hop with
    | flag hflag htokens =>
      obtain ⟨flags, ending, rfl, hflags, hending⟩ := ih
      exact ⟨op :: flags, ending, rfl, List.forall_mem_cons.2 ⟨hflag, hflags⟩, hending⟩
    | merge hpaths haccepts last =>
      -- one token is left, so what was read after the merge is no list of flags but an ending
      exact ⟨[], _, rfl, by simp, hops.ending_of_merge hpaths⟩
    | output hpath =>
      rw [hops.eq_nil]
      exact ⟨[], _, rfl, by simp, .output hpath⟩

/-- Reading is sound: a command line that is read gives flags with one ending, cut in one way only,
and consists of the program name and the tokens of each operation, in order. -/
theorem spelled_of_parseArguments {checks : Bool} {existing : String → Bool}
    (h : parseArguments (fun path => !checks || existing path) ts = .ok ops) :
    (∃! parts : List Operation × List Operation,
      ops = parts.1 ++ parts.2 ∧ (∀ op ∈ parts.1, op.IsFlag) ∧ Ending parts.2) ∧
    ∃ program words, ts = program :: words.flatten ∧ List.Forall₂ Operation.Spelled ops words := by
  obtain ⟨program, tokens, rfl, htakes⟩ := parseArguments_eq_ok_iff.1 h
  obtain ⟨words, rfl, hwords⟩ := htakes.exists_words
  obtain ⟨flags, ending, rfl, hflags, hending⟩ := htakes.exists_parts
  refine ⟨⟨(flags, ending), ⟨rfl, hflags, hending⟩, ?_⟩, program, words, rfl, hwords⟩
  rintro ⟨flags', ending'⟩ ⟨heq, hflags', hending'⟩
  obtain ⟨rfl, rfl⟩ := flags_ending_unique hflags hflags' hending hending' heq
  rfl

theorem spelled_resize_merge_output :
    (∃! parts : List Operation × List Operation,
      [.resize 1920 0, .merge ["--preview", ""], .output "out.mp4"] = parts.1 ++ parts.2 ∧
        (∀ op ∈ parts.1, op.IsFlag) ∧ Ending parts.2) ∧
    ∃ program words,
      ["montage", "--resize", "+01920:-0", "--merge", "--preview", "", "out.mp4"]
        = program :: words.flatten ∧
      List.Forall₂ Operation.Spelled
        [.resize 1920 0, .merge ["--preview", ""], .output "out.mp4"] words := by
  have h : parseArguments (fun path => !true || ["--preview", ""].contains path)
      ["montage", "--resize", "+01920:-0", "--merge", "--preview", "", "out.mp4"]
      = .ok [.resize 1920 0, .merge ["--preview", ""], .output "out.mp4"] := by decide +kernel
  exact spelled_of_parseArguments h

/-! ### What is read back -/

/-- An ending is taken from its spelling if its paths are accepted. -/
lemma Ending.takesAll {ending : List Operation} {words : List (List String)} (h : Ending ending)
    (hwords : List.Forall₂ Operation.Spelled ending words)
    (haccepts : ∀ paths, .merge paths ∈ ending → ∀ path ∈ paths, accepts path) :
    TakesAll accepts words.flatten ending := by
  cases h with
  | nothing =>
    cases hwords
    exact .nil
  | output hpath =>
    obtain _ | ⟨⟨⟩, ⟨⟩⟩ := hwords
    exact .cons (.output hpath) .nil
  | mergeOutput hpaths hpath =>
    obtain _ | ⟨⟨⟩, _ | ⟨⟨⟩, ⟨⟩⟩⟩ := hwords
    exact .cons (.merge hpaths (haccepts _ (by simp)) _) (.cons (.output hpath) .nil)
  | mergePreview hpaths =>
    obtain _ | ⟨⟨⟩, _ | ⟨⟨⟩, ⟨⟩⟩⟩ := hwords
    exact .cons (.merge hpaths (haccepts _ (by simp)) _)
      (.cons (.flag .preview .preview []) .nil)

/-- Flags and an ending are taken from their spelling if the paths are accepted. -/
lemma takesAll_of_spelled {flags ending : List Operation} {words : List (List String)}
    (hflags : ∀ op ∈ flags, op.IsFlag) (hending : Ending ending)
    (hwords : List.Forall₂ Operation.Spelled (flags ++ ending) words)
    (haccepts : ∀ paths, .merge paths ∈ ending → ∀ path ∈ paths, accepts path) :
    TakesAll accepts words.flatten (flags ++ ending) := by
  induction flags generalizing words with
  | nil => exact hending.takesAll hwords haccepts
  | cons op flags ih =>
    rw [List.forall_mem_cons] at hflags
    cases hwords with
    | cons htokens hwords => exact .cons (.flag hflags.1 htokens _) (ih hflags.2 hwords)

/-- Reading is complete: a list of flags with an ending is read back from each of its spellings. -/
theorem parseArguments_of_spelled {checks : Bool} {existing : String → Bool} {program : String}
    {flags ending : List Operation} {words : List (List String)}
    (hflags : ∀ op ∈ flags, op.IsFlag) (hending : Ending ending)
    (hwords : List.Forall₂ Operation.Spelled (flags ++ ending) words)
    (hexisting : checks → ∀ paths, .merge paths ∈ ending → ∀ path ∈ paths, existing path) :
    parseArguments (fun path => !checks || existing path) (program :: words.flatten)
      = .ok (flags ++ ending) := by
  have haccepts : ∀ paths, .merge paths ∈ ending → ∀ path ∈ paths,
      !checks || existing path := by
    intro paths hpaths path hpath
    cases checks with
    | false => rfl
    | true => exact hexisting rfl paths hpaths path hpath
  exact parseArguments_eq_ok_iff.2
    ⟨program, words.flatten, rfl, takesAll_of_spelled hflags hending hwords haccepts⟩

theorem parseArguments_resize_merge_preview :
    parseArguments (fun path => !true || ["--merge", ""].contains path)
      ("montage" ::
        [["--resize", "+01920" ++ ":" ++ "-0"], ["--merge", "--merge", ""], ["--preview"]].flatten)
      = .ok ([.resize 1920 0] ++ [.merge ["--merge", ""], .execution .preview]) := by
  have hwidth : Signs.signed.Spells 1920 "+01920" := ⟨.plus (by decide) 1, by decide⟩
  have hheight : Signs.signed.Spells 0 "-0" := ⟨.minus rfl (by decide) 0, by decide⟩
  have hwords : List.Forall₂ Operation.Spelled
      ([.resize 1920 0] ++ [.merge ["--merge", ""], .execution .preview])
      [["--resize", "+01920" ++ ":" ++ "-0"], ["--merge", "--merge", ""], ["--preview"]] :=
    .cons (.resize hwidth hheight) (.cons (.merge _) (.cons .preview .nil))
  exact parseArguments_of_spelled (by simpa using .resize (by decide) (by decide))
    (.mergePreview (by decide)) hwords (by simp)

end Montage
