import Montage.Proofs.Fragments.Printable
import Montage.Proofs.Highlight.Spans

/-!
# Highlighting compiled commands

The fragments that compiling makes up have only characters that can be shown. So a compiled command
stands in its highlighted text as it is just when its program and its output path have no other
characters, and then each span lies over what a rule of its colour matched.
-/

namespace Montage

variable {accepts : String → Bool} {curve : Curve} {programs : Programs} {ts : List String}
  {ops : List Operation} {c : Command} {s : String}

/-! ### Texts that can be shown -/

def IsShownText (s : String) : Prop := ∀ c ∈ s.toList, isShown c

instance : Decidable (IsShownText s) :=
  decidable_of_iff (s.toList.all isShown) List.all_eq_true

/-- Joined texts are shown as a whole if each of them is. -/
lemma isShownText_intercalate {sep : String} {ss : List String} (hsep : IsShownText sep) :
    IsShownText (sep.intercalate ss) ↔ ∀ s ∈ ss, IsShownText s := by
  rw [IsShownText, String.toList_intercalate, forall_mem_intercalate_iff hsep, List.forall_mem_map]
  rfl

/-- Printable characters are shown. -/
lemma isShown_of_isPrintable {c : Char} (h : isPrintable c) : isShown c := by
  have hcode := le_toNat_of_isPrintable h
  rw [isShown, Bool.not_eq_true', decide_eq_false_iff_not]
  intro hmem
  simp only [List.mem_cons, List.not_mem_nil, or_false] at hmem
  obtain rfl | rfl | rfl | rfl | rfl := hmem <;> exact absurd hcode (by decide)

/-! ### Compiled commands -/

/-- Whatever else a command holds is shown, so that this depends on its program and its output
path. -/
lemma isShownText_text (h : parseArguments accepts ts = .ok ops)
    (hc : compileOperations curve programs ops = .ok c) : IsShownText c.text ↔
      IsShownText c.invocation ∧
        ∀ path, ops.getLast? = some (.output path) → IsShownText path := by
  obtain ⟨f, hargs, hsuits⟩ := exists_suits_of_compileOperations h hc
  have hprintable : ∀ s, IsPrintableText s → IsShownText s := fun s hs c hc =>
    isShown_of_isPrintable (hs c hc)
  rw [Command.text, isShownText_intercalate (by decide), List.forall_mem_cons, hargs,
    hsuits.forall_mem_args_iff hprintable]

/-- A compiled command stands in its highlighted text as it is, with each span over a match of its
colour, just when its program and its output path have only characters that can be shown. Then the
spans are those that the rules give. -/
theorem highlight_text_iff (h : parseArguments accepts ts = .ok ops)
    (hc : compileOperations curve programs ops = .ok c) :
    ((highlight c.text).plain = c.text.toList ∧
        (∀ s ∈ (highlight c.text).spans, s.Covers c.text.toList) ↔
      IsShownText c.invocation ∧
        ∀ path, ops.getLast? = some (.output path) → IsShownText path) ∧
    ((highlight c.text).plain = c.text.toList →
      (highlight c.text).spans = ruleSpans c.text.toList) := by
  rw [← isShownText_text h hc, plain_highlight_eq_iff]
  refine ⟨and_iff_left_of_imp fun hshown s hs => ?_, spans_highlight⟩
  rw [spans_highlight hshown] at hs
  exact covers_of_mem_ruleSpans hs

theorem highlight_text_resize : ∃ c, compileOperations some .standard
      [.resize 640 480, .output "out/a.mp4"] = .ok c ∧
    (highlight c.text).plain = "ffmpeg -vf scale=640:480 out/a.mp4".toList ∧
    (∀ s ∈ (highlight c.text).spans, s.Covers c.text.toList) ∧
    (highlight c.text).spans = [⟨11, 17, .filters⟩, ⟨7, 10, .flags⟩, ⟨17, 20, .numbers⟩,
      ⟨21, 24, .numbers⟩, ⟨28, 34, .paths⟩] := by
  have hread : parseArguments (fun _ => true) ["montage", "--resize", "640:480", "out/a.mp4"]
      = .ok [.resize 640 480, .output "out/a.mp4"] := by decide +kernel
  have hcommand : compileOperations some .standard [.resize 640 480, .output "out/a.mp4"]
      = .ok ⟨"ffmpeg", ["-vf scale=640:480", "out/a.mp4"]⟩ := by decide +kernel
  have hshown : IsShownText "ffmpeg" ∧ ∀ path,
      [Operation.resize 640 480, .output "out/a.mp4"].getLast? = some (.output path) →
        IsShownText path := by
    refine ⟨by decide, fun path hpath => ?_⟩
    obtain rfl : "out/a.mp4" = path := by simpa using hpath
    decide
  obtain ⟨hplain, hcovers⟩ := (highlight_text_iff hread hcommand).1.2 hshown
  have hspans := (highlight_text_iff hread hcommand).2 hplain
  exact ⟨_, hcommand, hplain.trans (by decide +kernel), hcovers, hspans.trans (by decide +kernel)⟩

/-- A bell in an output path is left out, and a number behind it is coloured only in part. -/
theorem highlight_text_bell :
    let c : Command := ⟨"ffmpeg", ["a\x07 12"]⟩
    parseArguments (fun _ => true) ["montage", "a\x07 12"] = .ok [.output "a\x07 12"] ∧
    compileOperations some .standard [.output "a\x07 12"] = .ok c ∧
    c.text = "ffmpeg a\x07 12" ∧ (highlight c.text).plain = "ffmpeg a 12".toList ∧
    matchesIn .amount c.text.toList = [(10, 12)] ∧
    (highlight c.text).spans = [⟨10, 11, .numbers⟩] := by
  decide +kernel

end Montage
