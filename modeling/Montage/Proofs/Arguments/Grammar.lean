import Montage.Arguments
import Montage.Proofs.Number.Numeral

/-!
# The grammar of command lines

Which lists of operations a command line can ask for, and which tokens ask for each of them. Flags
come first, in any number and order; then the line ends, or an output path ends it, or a merge with
one token after it, which is an output path or `--preview`.
-/

namespace Montage

/-! ### Tokens of operations -/

/-- The words that start an operation wherever one is expected. -/
def flagWords : List String := ["--resize", "--quality", "--preview", "--merge"]

/-- The tokens that ask for an operation. -/
inductive Operation.Spelled : Operation → List String → Prop
  | resize {width height : Int} {w h : String} (hw : Signs.signed.Spells width w)
    (hh : Signs.signed.Spells height h) :
    Spelled (.resize width height) ["--resize", w ++ ":" ++ h]
  | quality {score : Int} {s : String} (hs : Signs.unsigned.Spells score s) :
    Spelled (.quality score) ["--quality", s]
  | preview : Spelled (.execution .preview) ["--preview"]
  | merge (paths : List String) : Spelled (.merge paths) ("--merge" :: paths)
  | output (path : String) : Spelled (.output path) [path]

/-! ### Lists of operations -/

/-- The operations that flags ask for, with their numbers in range. -/
inductive Operation.IsFlag : Operation → Prop
  | resize {width height : Int} (hw : -2147483648 ≤ width ∧ width ≤ 2147483647)
    (hh : -2147483648 ≤ height ∧ height ≤ 2147483647) : IsFlag (.resize width height)
  | quality {score : Int} (hs : 0 ≤ score ∧ score ≤ 4294967295) : IsFlag (.quality score)
  | preview : IsFlag (.execution .preview)

/-- Tokens that ask for one flag: the word, and the value if it has one. -/
def IsSegment (tokens : List String) : Prop := ∃ op : Operation, op.IsFlag ∧ op.Spelled tokens

/-- A flag stands alone or has one value. -/
lemma IsSegment.shape {tokens : List String} (h : IsSegment tokens) :
    tokens = ["--preview"] ∨
      ∃ value, tokens = ["--resize", value] ∨ tokens = ["--quality", value] := by
  obtain ⟨op, hflag, htokens⟩ := h
  cases htokens with
  | resize hw hh => exact .inr ⟨_, .inl rfl⟩
  | quality hs => exact .inr ⟨_, .inr rfl⟩
  | preview => exact .inl rfl
  | merge paths => cases hflag
  | output path => cases hflag

/-- What may follow the flags. -/
inductive Ending : List Operation → Prop
  | nothing : Ending []
  | output {path : String} (hpath : path ∉ flagWords) : Ending [.output path]
  | mergeOutput {paths : List String} {path : String} (hpaths : 2 ≤ paths.length)
    (hpath : path ∉ flagWords) : Ending [.merge paths, .output path]
  | mergePreview {paths : List String} (hpaths : 2 ≤ paths.length) :
    Ending [.merge paths, .execution .preview]

/-! ### Where the flags end -/

/-- No ending starts with a flag. -/
lemma Ending.not_isFlag_head {op : Operation} {ops : List Operation} (h : Ending (op :: ops)) :
    ¬ op.IsFlag := by
  cases h <;> nofun

/-- A list of operations is cut into flags and an ending in one way only. -/
lemma flags_ending_unique {flags flags' ending ending' : List Operation}
    (hflags : ∀ op ∈ flags, op.IsFlag) (hflags' : ∀ op ∈ flags', op.IsFlag)
    (hending : Ending ending) (hending' : Ending ending')
    (h : flags ++ ending = flags' ++ ending') : flags = flags' ∧ ending = ending' := by
  induction flags generalizing flags' with
  | nil =>
    cases flags' with
    | nil => exact ⟨rfl, h⟩
    | cons op ops =>
      rw [List.nil_append, List.cons_append] at h
      subst h
      exact absurd (hflags' op (by simp)) hending.not_isFlag_head
  | cons op ops ih =>
    rw [List.forall_mem_cons] at hflags
    cases flags' with
    | nil =>
      rw [List.nil_append, List.cons_append] at h
      subst h
      exact absurd hflags.1 hending'.not_isFlag_head
    | cons op' ops' =>
      rw [List.forall_mem_cons] at hflags'
      injection h with hop hops
      obtain ⟨rfl, rfl⟩ := ih hflags.2 hflags'.2 hops
      exact ⟨by rw [hop], rfl⟩

end Montage
