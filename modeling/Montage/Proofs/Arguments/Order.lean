import Mathlib.Data.List.Basic
import Montage.Proofs.Arguments.Reading
import Montage.Proofs.Compilation

/-!
# The order of flags

Flags may come in any order: when they change places, and resizes and qualities keep their order
among themselves, a command line compiles to the same command or fails in the same way, whatever
follows the flags.
-/

namespace Montage

variable {accepts : String → Bool} {curve : Curve} {programs : Programs} {op : Operation}
  {segment : List String} {segments segments' : List (List String)}

/-- The command that a command line compiles to. -/
def compileArguments (accepts : String → Bool) (curve : Curve) (programs : Programs)
    (ts : List String) : Except Failure Command :=
  parseArguments accepts ts >>= compileOperations curve programs

/-! ### The operations of segments -/

def operationOf? : List String → Option Operation
  | [] => none
  | token :: rest => (Argument.readOperation (fun _ => true) token rest).1.toOption

/-- The tokens of a flag tell its operation. -/
lemma operationOf?_of_spelled (hflag : op.IsFlag) (htokens : op.Spelled segment) :
    operationOf? segment = some op := by
  have htakes : Takes (fun _ => true) (segment ++ []) op [] := .flag hflag htokens []
  obtain ⟨token, rest, heq, hread⟩ := htakes.readOperation
  rw [List.append_nil] at heq
  rw [heq, operationOf?, hread]
  rfl

/-- After segments, the tokens behind them are read. -/
lemma result_segments (h : ∀ s ∈ segments, IsSegment s) (tail : List String) :
    (Progress.ofTokens accepts (segments.flatten ++ tail)).result
      = (Progress.ofTokens accepts tail).result.map (segments.filterMap operationOf? ++ ·) := by
  induction segments with
  | nil =>
    rw [List.flatten_nil, List.nil_append]
    cases (Progress.ofTokens accepts tail).result <;> rfl
  | cons s segments ih =>
    rw [List.forall_mem_cons] at h
    obtain ⟨op, hflag, htokens⟩ := h.1
    have htakes : Takes accepts (s ++ (segments.flatten ++ tail)) op (segments.flatten ++ tail) :=
      .flag hflag htokens _
    rw [List.flatten_cons, List.append_assoc, htakes.result_ofTokens, ih h.2,
      List.filterMap_cons_some (operationOf?_of_spelled hflag htokens)]
    cases (Progress.ofTokens accepts tail).result <;> rfl

/-! ### What an order keeps -/

def startingWith (word : String) (segments : List (List String)) : List (List String) :=
  segments.filter (·.head? == some word)

/-- What only the operations of one word give is told from the segments with this word. -/
lemma filterMap_startingWith {β : Type} {word : String} {f : Operation → Option β}
    (h : ∀ s ∈ segments, IsSegment s)
    (hf : ∀ op tokens, op.IsFlag → op.Spelled tokens → tokens.head? ≠ some word → f op = none) :
    ((startingWith word segments).filterMap operationOf?).filterMap f
      = (segments.filterMap operationOf?).filterMap f := by
  rw [List.filterMap_filterMap, List.filterMap_filterMap, startingWith, List.filterMap_filter]
  apply List.filterMap_congr
  intro s hs
  split_ifs with hword
  · rfl
  · obtain ⟨op, hflag, htokens⟩ := h s hs
    rw [operationOf?_of_spelled hflag htokens, Option.bind_some]
    exact (hf op s hflag htokens (by simpa using hword)).symm

lemma filterMap_startingWith_eq {β : Type} {word : String} {f : Operation → Option β}
    (h : ∀ s ∈ segments, IsSegment s) (h' : ∀ s ∈ segments', IsSegment s)
    (hword : startingWith word segments = startingWith word segments')
    (hf : ∀ op tokens, op.IsFlag → op.Spelled tokens → tokens.head? ≠ some word → f op = none) :
    (segments.filterMap operationOf?).filterMap f
      = (segments'.filterMap operationOf?).filterMap f := by
  rw [← filterMap_startingWith h hf, hword, filterMap_startingWith h' hf]

/-- All previews are spelled alike. -/
lemma eq_preview_of_mem_startingWith (h : ∀ s ∈ segments, IsSegment s)
    (hs : segment ∈ startingWith "--preview" segments) : segment = ["--preview"] := by
  obtain ⟨hmem, hhead⟩ := List.mem_filter.1 hs
  obtain rfl | ⟨value, rfl | rfl⟩ := (h segment hmem).shape
  · rfl
  · simp at hhead
  · simp at hhead

/-- All previews are the same, so their order is always kept. -/
lemma startingWith_preview_eq (h : ∀ s ∈ segments, IsSegment s) (hperm : segments'.Perm segments) :
    startingWith "--preview" segments' = startingWith "--preview" segments := by
  have hsame : startingWith "--preview" segments = List.replicate
      (startingWith "--preview" segments).length ["--preview"] :=
    List.eq_replicate_iff.2 ⟨rfl, fun s hs => eq_preview_of_mem_startingWith h hs⟩
  have hfilter : (startingWith "--preview" segments').Perm (startingWith "--preview" segments) :=
    hperm.filter _
  rw [hsame] at hfilter ⊢
  exact List.perm_replicate.1 hfilter

/-- Widths and heights of flags can be written. -/
lemma fault?_resize {width height : Int} (h : (Operation.resize width height).IsFlag) :
    (Operation.resize width height).fault? curve = none := by
  have hlimit := le_powerOfTen_digitLimit
  cases h with
  | resize hw hh =>
    have hdigits : width.natAbs < powerOfTen digitLimit ∧ height.natAbs < powerOfTen digitLimit :=
      ⟨by omega, by omega⟩
    rw [Operation.fault?, if_pos hdigits]

/-- Flags in another order ask for the same if the resizings, and the qualities, keep theirs. -/
lemma alike_of_perm (h : ∀ s ∈ segments, IsSegment s) (hperm : segments'.Perm segments)
    (hresize : startingWith "--resize" segments' = startingWith "--resize" segments)
    (hquality : startingWith "--quality" segments' = startingWith "--quality" segments) :
    Alike curve (segments'.filterMap operationOf?) (segments.filterMap operationOf?) := by
  have h' : ∀ s ∈ segments', IsSegment s := fun s hs => h s (hperm.subset hs)
  -- each respect is asked for by the flags of one word, and these keep their order
  refine { faults := ?faults, filters := ?filters, scores := ?scores, modes := ?modes,
           merges := ?merges, paths := ?paths }
  case faults =>
    apply filterMap_startingWith_eq h' h hquality
    intro op tokens hflag htokens hhead
    cases hflag with
    | resize hw hh => exact fault?_resize (.resize hw hh)
    | quality hs => cases htokens with | quality => exact absurd rfl hhead
    | preview => rfl
  case filters =>
    apply filterMap_startingWith_eq h' h hresize
    intro op tokens hflag htokens hhead
    cases hflag with
    | resize hw hh => cases htokens with | resize => exact absurd rfl hhead
    | quality hs => rfl
    | preview => rfl
  case scores =>
    apply filterMap_startingWith_eq h' h hquality
    intro op tokens hflag htokens hhead
    cases hflag with
    | resize hw hh => rfl
    | quality hs => cases htokens with | quality => exact absurd rfl hhead
    | preview => rfl
  case modes =>
    apply filterMap_startingWith_eq h' h (startingWith_preview_eq h hperm)
    intro op tokens hflag htokens hhead
    cases hflag with
    | resize hw hh => rfl
    | quality hs => rfl
    | preview => cases htokens with | preview => exact absurd rfl hhead
  case merges => exact (hperm.filterMap operationOf?).any_eq
  case paths =>
    apply filterMap_startingWith_eq h' h hresize
    intro op tokens hflag htokens hhead
    cases hflag <;> rfl

/-! ### Whole command lines -/

/-- Flags compile together with what follows them. -/
lemma compileArguments_segments (h : ∀ s ∈ segments, IsSegment s) (program : String)
    (tail : List String) :
    compileArguments accepts curve programs (program :: (segments.flatten ++ tail))
      = (Progress.ofTokens accepts tail).result >>= fun ops =>
          compileOperations curve programs (segments.filterMap operationOf? ++ ops) := by
  rw [compileArguments, parseArguments_cons, result_segments h]
  cases (Progress.ofTokens accepts tail).result <;> rfl

/-- The order of flags does not matter: when they change places, but for resizes among themselves
and qualities among themselves, the command or the failure stays the same. -/
theorem compileArguments_perm (accepts : String → Bool) (curve : Curve) (programs : Programs)
    (program : String) (tail : List String) (h : ∀ s ∈ segments, IsSegment s)
    (hperm : segments'.Perm segments)
    (hresize : startingWith "--resize" segments' = startingWith "--resize" segments)
    (hquality : startingWith "--quality" segments' = startingWith "--quality" segments) :
    compileArguments accepts curve programs (program :: (segments'.flatten ++ tail))
      = compileArguments accepts curve programs (program :: (segments.flatten ++ tail)) := by
  have h' : ∀ s ∈ segments', IsSegment s := fun s hs => h s (hperm.subset hs)
  rw [compileArguments_segments h, compileArguments_segments h']
  cases (Progress.ofTokens accepts tail).result with
  | error e => rfl
  | ok ops =>
    have halike : Alike curve _ _ := alike_of_perm h hperm hresize hquality
    exact (halike.append_right ops).compileOperations_eq programs

theorem compileArguments_resize_first :
    compileArguments (fun _ => true) some .standard
        ["montage", "--quality", "1", "--resize", "8:6", "--quality", "0", "a.mp4"]
      = .ok ⟨"ffmpeg", ["-vf scale=8:6", "-crf 51 -maxrate 1M -bufsize 2M", "a.mp4"]⟩ ∧
    compileArguments (fun _ => true) some .standard
        ["montage", "--resize", "8:6", "--quality", "1", "--quality", "0", "a.mp4"]
      = .ok ⟨"ffmpeg", ["-vf scale=8:6", "-crf 51 -maxrate 1M -bufsize 2M", "a.mp4"]⟩ := by
  have hresize : IsSegment ["--resize", "8:6"] :=
    ⟨.resize 8 6, resizeOf_eq_ok_iff_spelled.1 (by decide +kernel)⟩
  have hquality : IsSegment ["--quality", "1"] :=
    ⟨.quality 1, qualityOf_eq_ok_iff_spelled.1 (by decide +kernel)⟩
  have hquality' : IsSegment ["--quality", "0"] :=
    ⟨.quality 0, qualityOf_eq_ok_iff_spelled.1 (by decide +kernel)⟩
  have h : ∀ s ∈ [["--quality", "1"], ["--resize", "8:6"], ["--quality", "0"]], IsSegment s := by
    simp [hresize, hquality, hquality']
  have hperm : [["--resize", "8:6"], ["--quality", "1"], ["--quality", "0"]].Perm
      [["--quality", "1"], ["--resize", "8:6"], ["--quality", "0"]] := by decide
  have hsame := compileArguments_perm (fun _ => true) some .standard "montage" ["a.mp4"] h hperm
    (by decide) (by decide)
  have hcommand : compileArguments (fun _ => true) some .standard
        ["montage", "--quality", "1", "--resize", "8:6", "--quality", "0", "a.mp4"]
      = .ok ⟨"ffmpeg", ["-vf scale=8:6", "-crf 51 -maxrate 1M -bufsize 2M", "a.mp4"]⟩ := by
    decide +kernel
  exact ⟨hcommand, hsame.trans hcommand⟩

end Montage
