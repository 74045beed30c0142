import Montage.Proofs.Arguments.RoundTrip
import Montage.Proofs.Draft
import Montage.Proofs.Rate
import Montage.Proofs.Shell.Fragment

/-!
# Compiled commands as a shell reads them

The words of the command that a command line compiles to: the program, the filter graph, rate
control and the stream map, each as the words it consists of, and last the output path. The path is
read as one word, unless it has the shape of a fragment of several words.
-/

namespace Montage

open Shell

variable {curve : Curve} {programs : Programs} {accepts : String → Bool} {ts : List String}
  {op : Operation} {ops ending : List Operation} {score : Int} {s : String}

/-! ### Fragments of drafts -/

lemma fragmentWords_filterFlag (filters : List String) :
    fragmentWords (filterFlag filters) = ["-vf", ",".intercalate filters] := by
  have htext : (filterFlag filters).toList = "-vf ".toList ++ (",".intercalate filters).toList := by
    rw [filterFlag, String.toList_append]
  rw [fragmentWords, htext, fragmentWordsOf_filter, List.map_cons, List.map_singleton,
    String.ofList_toList, String.ofList_toList]

lemma fragmentWords_mergeMap :
    fragmentWords mergeMap = ["-map", "[outv]", "-map", "[outa]", "-vsync", "0"] := by
  decide +kernel

def rateWordsOf (curve : Curve) (score : Int) : Except NumberFault (List String) :=
  RateControl.ofQuality curve score >>= RateControl.words

lemma repr_mem_oneOrMore {p : Char → Bool} (hp : ∀ c, c.isDigit → p c) (n : Nat) :
    n.repr.toList ∈ oneOrMore p := by
  have htext : n.repr.toList = Nat.toDigits 10 n := String.toList_ofList
  rw [htext]
  exact ⟨Nat.toDigits_ne_nil, fun c hc =>
    hp c (Nat.isDigit_of_mem_toDigits (by decide) (by decide) hc)⟩

/-- The flags of a quality have the pattern of rate control, and are read as their words. -/
lemma exists_rateWords (hscore : 0 ≤ score) (hcurve : curve.Covers score) :
    ∃ flags, rateFlagsOf curve score = .ok flags ∧ flags.toList ∈ rateFragments ∧
      rateWordsOf curve score = .ok (fragmentWords flags) := by
  obtain ⟨r, hr, crf, rate, size, -, hwords⟩ := RateControl.exists_words hscore hcurve
  generalize hw : ["-crf", crf.repr, "-maxrate", rate.repr ++ "M", "-bufsize", size.repr ++ "M"]
    = words at hwords
  have hchars : words.map String.toList
      = rateWords crf.repr.toList rate.repr.toList size.repr.toList := by
    rw [← hw]
    simp [rateWords]
  have hamount : ∀ c : Char, c.isDigit → isAmountChar c := fun c hc => by simp [isAmountChar, hc]
  have hfactor := repr_mem_oneOrMore (fun _ hc => hc) crf
  have hrate := repr_mem_oneOrMore hamount rate
  have hsize := repr_mem_oneOrMore hamount size
  have htext : (" ".intercalate words).toList
      = [' '].intercalate (rateWords crf.repr.toList rate.repr.toList size.repr.toList) := by
    rw [← hchars, String.toList_intercalate]
    rfl
  have hfragment : fragmentWords (" ".intercalate words) = words := by
    rw [fragmentWords, htext, fragmentWordsOf_rate hfactor hrate hsize, ← hchars, List.map_map]
    simp [Function.comp_def]
  refine ⟨" ".intercalate words, ?_, ?_, ?_⟩
  · refine bind_eq_ok_iff.2 ⟨r, hr, ?_⟩
    rw [RateControl.flags_eq_map_words, hwords]
    rfl
  · rw [htext]
    exact mem_rateFragments.2 ⟨_, hfactor, _, hrate, _, hsize, rfl⟩
  · rw [hfragment]
    exact bind_eq_ok_iff.2 ⟨r, hr, hwords⟩

lemma fragmentWords_eq_singleton_iff : fragmentWords s = [s] ↔ IsPlain s := by
  constructor
  · intro h
    have hlength : (fragmentWordsOf s.toList).length = 1 := by
      rw [← List.length_map (f := String.ofList)]
      exact congrArg List.length h
    refine ⟨?_, ?_, ?_⟩
    · rintro ⟨graph, hgraph⟩
      rw [← hgraph, fragmentWordsOf_filter] at hlength
      simp at hlength
    · intro hrate
      obtain ⟨factor, hfactor, rate, hamount, size, hsize, heq⟩ := mem_rateFragments.1 hrate
      rw [← heq, fragmentWordsOf_rate hfactor hamount hsize] at hlength
      simp [rateWords] at hlength
    · intro hmap
      obtain ⟨labels, hne, hlabels, heq⟩ := mem_mapFragments.1 hmap
      rw [← heq, fragmentWordsOf_map hne hlabels] at hlength
      simp [mapWords] at hlength
  · rintro ⟨hvf, hrate, hmap⟩
    rw [fragmentWords, fragmentWordsOf_plain hvf hrate hmap, List.map_singleton,
      String.ofList_toList]

/-! ### Operations of command lines -/

lemma Operation.IsFlag.compiles (h : op.IsFlag)
    (hcurve : ∀ score, op = .quality score → curve.Covers score) : op.Compiles curve := by
  have hlimit := le_powerOfTen_digitLimit
  cases h with
  | resize hw hh => exact ⟨by omega, by omega⟩
  | quality hs =>
    obtain ⟨flags, hflags, -⟩ := exists_rateWords hs.1 (hcurve _ rfl)
    exact ⟨flags, hflags⟩
  | preview => trivial

lemma Ending.compiles (h : Ending ending) : ∀ op ∈ ending, op.Compiles curve := by
  cases h <;> simp [Operation.Compiles]

def endPath? (ops : List Operation) : Option String := ops.getLast?.bind Operation.path?

lemma filterMap_path?_flags (h : ∀ op ∈ ops, op.IsFlag) : ops.filterMap Operation.path? = [] := by
  rw [List.filterMap_eq_nil_iff]
  intro op hop
  cases h op hop <;> rfl

lemma filterMap_path? {flags : List Operation} (hflags : ∀ op ∈ flags, op.IsFlag)
    (hending : Ending ending) :
    (flags ++ ending).filterMap Operation.path? = (endPath? (flags ++ ending)).toList := by
  rw [List.filterMap_append, filterMap_path?_flags hflags, List.nil_append, endPath?]
  cases hending with
  | nothing =>
    rw [List.append_nil]
    cases hlast : flags.getLast? with
    | none => rfl
    | some op =>
      have hflag := hflags op (List.mem_of_getLast? hlast)
      cases hflag <;> rfl
  | output hpath =>
    rw [List.getLast?_append]
    rfl
  | mergeOutput hpaths hpath =>
    rw [List.getLast?_append]
    rfl
  | mergePreview hpaths =>
    rw [List.getLast?_append]
    rfl

/-! ### Words of commands -/

/-- The words of the command for operations, but for its output path. -/
def frontWords (curve : Curve) (programs : Programs) (ops : List Operation) :
    Except NumberFault (List String) := do
  let rate ← (lastScore? ops).mapM (rateWordsOf curve)
  let filters := ops.filterMap Operation.filter?
  let map := if ops.any Operation.isMerge then
    ["-map", "[outv]", "-map", "[outa]", "-vsync", "0"] else []
  return (if previews ops then programs.player else programs.transcoder) ::
    ((if filters.isEmpty then [] else ["-vf", ",".intercalate filters])
      ++ (if previews ops then [] else rate.getD [] ++ map))

lemma quality_mem_of_lastScore? (h : lastScore? ops = some score) : .quality score ∈ ops := by
  obtain ⟨op, hop, hscore⟩ := List.mem_filterMap.1 (List.mem_of_getLast? h)
  cases op with
  | quality score' =>
    obtain rfl := Option.some.inj hscore
    exact hop
  | _ => nomatch hscore

lemma exists_lastRateWords {d : Draft} (h : d.Holds curve programs ops)
    (hscore : ∀ score, .quality score ∈ ops → 0 ≤ score ∧ curve.Covers score) :
    ∃ rate, (lastScore? ops).mapM (rateWordsOf curve) = .ok rate ∧
      d.rateFlags.toList.flatMap fragmentWords = rate.getD [] := by
  have hflags := h.rateFlags
  cases hlast : lastScore? ops with
  | none =>
    rw [hlast] at hflags
    refine ⟨none, rfl, ?_⟩
    rw [← Except.ok.inj hflags]
    rfl
  | some score =>
    obtain ⟨hnonneg, hcovers⟩ := hscore score (quality_mem_of_lastScore? hlast)
    obtain ⟨flags, hrate, -, hwords⟩ := exists_rateWords hnonneg hcovers
    refine ⟨some (fragmentWords flags), ?_, ?_⟩
    · rw [Option.mapM_some, hwords]
      rfl
    · rw [hlast, Option.mapM_some, hrate] at hflags
      rw [← Except.ok.inj hflags]
      simp

/-- A draft of operations that were read is written with the words of the operations. -/
lemma frontWords_eq_ok {d : Draft} (h : d.Holds curve programs ops)
    (hscore : ∀ score, .quality score ∈ ops → 0 ≤ score ∧ curve.Covers score) :
    ∃ front, frontWords curve programs ops = .ok front ∧
      d.command.invocation :: d.command.args.flatMap fragmentWords
        = front ++ (ops.filterMap Operation.path?).flatMap fragmentWords := by
  obtain ⟨rate, hrate, hrateWords⟩ := exists_lastRateWords h hscore
  refine ⟨_, bind_eq_ok_iff.2 ⟨rate, hrate, rfl⟩, ?_⟩
  have hinvocation : d.command.invocation
      = if previews ops then programs.player else programs.transcoder := by
    rw [← h.preview, ← h.programs]
    rfl
  have hmap : d.mapFlags.toList.flatMap fragmentWords = if ops.any Operation.isMerge then
      ["-map", "[outv]", "-map", "[outa]", "-vsync", "0"] else [] := by
    rw [h.mapFlags]
    split_ifs with hmerge
    · simp [fragmentWords_mergeMap]
    · rfl
  have hargs : d.command.args = (if d.filters.isEmpty then [] else [filterFlag d.filters])
      ++ (if d.preview then [] else d.rateFlags.toList ++ d.mapFlags.toList) ++ d.outputs := rfl
  rw [hinvocation, hargs, List.flatMap_append, List.flatMap_append, h.preview, h.filters, h.outputs,
    ← hrateWords, ← hmap]
  split_ifs <;> simp [fragmentWords_filterFlag]

/-- The operations of a command line can be written in a command. -/
lemma compiles_of_parts {flags : List Operation} (hflags : ∀ op ∈ flags, op.IsFlag)
    (hending : Ending ending) (hcurve : ∀ score, .quality score ∈ flags → curve.Covers score) :
    ∀ op ∈ flags ++ ending, op.Compiles curve := by
  intro op hop
  rcases List.mem_append.1 hop with hop | hop
  · apply (hflags op hop).compiles
    rintro score rfl
    exact hcurve score hop
  · exact hending.compiles op hop

/-- Operations that are read compile, if no power of a quality is too large. -/
lemma exists_compileOperations_of_parseArguments (h : parseArguments accepts ts = .ok ops)
    (hcurve : ∀ score, .quality score ∈ ops → curve.Covers score) (programs : Programs) :
    ∃ c, compileOperations curve programs ops = .ok c := by
  obtain ⟨program, tokens, -, htakes⟩ := parseArguments_eq_ok_iff.1 h
  obtain ⟨flags, ending, rfl, hflags, hending⟩ := htakes.exists_parts
  have hcompiles := compiles_of_parts hflags hending fun score hmem =>
    hcurve score (List.mem_append_left _ hmem)
  obtain ⟨d, hd, -⟩ := exists_compileOperations programs hcompiles
  exact ⟨d.command, hd⟩

lemma score_nonneg_of_mem {flags : List Operation} (hflags : ∀ op ∈ flags, op.IsFlag)
    (hending : Ending ending) (h : .quality score ∈ flags ++ ending) : 0 ≤ score := by
  rcases List.mem_append.1 h with h | h
  · cases hflags _ h with
    | quality hscore => exact hscore.1
  · cases hending <;> simp at h

lemma flatMap_fragmentWords_eq_iff {front : List String} {path? : Option String} :
    front ++ path?.toList.flatMap fragmentWords = front ++ path?.toList ↔
      ∀ path, path? = some path → IsPlain path := by
  rw [List.append_cancel_left_eq]
  cases path? with
  | none => simp
  | some path => simp [fragmentWords_eq_singleton_iff]

/-- The words of the command that a command line compiles to. The output path is one of them just
when it does not have the shape of a fragment of several words. -/
theorem words?_of_parseArguments (programs : Programs)
    (h : parseArguments (fun _ => true) ts = .ok ops)
    (hcurve : ∀ score, .quality score ∈ ops → curve.Covers score) :
    ∃ c front, compileOperations curve programs ops = .ok c ∧
      frontWords curve programs ops = .ok front ∧
      words? c.shellText = some (front ++ (endPath? ops).toList.flatMap fragmentWords) ∧
      (words? c.shellText = some (front ++ (endPath? ops).toList) ↔
        ∀ path, endPath? ops = some path → IsPlain path) := by
  obtain ⟨program, tokens, -, htakes⟩ := parseArguments_eq_ok_iff.1 h
  obtain ⟨flags, ending, rfl, hflags, hending⟩ := htakes.exists_parts
  have hcompiles := compiles_of_parts hflags hending fun score hmem =>
    hcurve score (List.mem_append_left _ hmem)
  obtain ⟨d, hd, hholds⟩ := exists_compileOperations programs hcompiles
  obtain ⟨front, hfront, hwords⟩ := frontWords_eq_ok hholds fun score hmem =>
    ⟨score_nonneg_of_mem hflags hending hmem, hcurve score hmem⟩
  have hread : words? d.command.shellText
      = some (front ++ (endPath? (flags ++ ending)).toList.flatMap fragmentWords) := by
    rw [words?, (readsAs_shellText d.command).wordsOf?_eq, Option.map_some, map_ofList_words,
      hwords, filterMap_path? hflags hending]
  refine ⟨d.command, front, hd, hfront, hread, ?_⟩
  rw [hread, Option.some_inj, flatMap_fragmentWords_eq_iff]

theorem words?_quality_output :
    ∃ c, compileOperations some .standard [.quality 1, .output "my film.mp4"] = .ok c ∧
      words? c.shellText = some ["ffmpeg", "-crf", "50", "-maxrate", "1M", "-bufsize", "2M",
        "my film.mp4"] := by
  have hread : parseArguments (fun _ => true) ["montage", "--quality", "1", "my film.mp4"]
      = .ok [.quality 1, .output "my film.mp4"] := by decide +kernel
  have hcovers : ∀ score, .quality score ∈ [Operation.quality 1, .output "my film.mp4"] →
      Curve.Covers some score := by
    intro score hscore
    obtain rfl : score = 1 := by simpa using hscore
    obtain ⟨power, hpower, -⟩ := Magnitude.exists_ofNat? (n := 1) (by decide +kernel)
    exact ⟨power, by rw [Int.natAbs_one, hpower, Option.bind_some]⟩
  obtain ⟨c, front, hc, hfront, -, hplain⟩ := words?_of_parseArguments .standard hread hcovers
  have hwords : frontWords some .standard [.quality 1, .output "my film.mp4"]
      = .ok ["ffmpeg", "-crf", "50", "-maxrate", "1M", "-bufsize", "2M"] := by decide +kernel
  obtain rfl := Except.ok.inj (hfront.symm.trans hwords)
  refine ⟨c, hc, hplain.2 ?_⟩
  intro path hpath
  obtain rfl := Option.some.inj hpath
  decide +kernel

/-- A path that starts like a filter fragment is read as two words. -/
theorem words?_filter_path : ∃ c,
    parseArguments (fun _ => true) ["montage", "-vf x"] = .ok [.output "-vf x"] ∧
    compileOperations platformCurve .standard [.output "-vf x"] = .ok c ∧
    frontWords platformCurve .standard [.output "-vf x"] = .ok ["ffmpeg"] ∧
    words? c.shellText = some ["ffmpeg", "-vf", "x"] ∧
    words? c.shellText ≠ some (["ffmpeg"] ++ ["-vf x"]) :=
  ⟨⟨"ffmpeg", ["-vf x"]⟩, by decide +kernel, rfl, rfl, by decide +kernel, by decide +kernel⟩

end Montage
