import Montage.Proofs.Filter.Wiring
import Montage.Proofs.Fragments
import Montage.Proofs.Text.Lines
import Montage.Proofs.Text.Printable

/-!
# The characters of fragments

The fragments that compiling makes up are printable. So whatever holds of printable texts holds of
all fragments of a command just when it holds of its output path. In particular a command as it is
given to a shell is on one line if its program and its output path are, since quoting adds no line
end and takes none away.
-/

namespace Montage

variable {accepts : String → Bool} {curve : Curve} {programs : Programs} {ts : List String}
  {op : Operation} {ops : List Operation} {s : String} {f : Fragments} {c : Command}
  {cs : List Char} {P : String → Prop}

lemma isPrintableText_mergeGraph (count : Nat) : IsPrintableText (mergeGraph count) := by
  have hmarks : ∀ s ∈ [";", "[]v:a0", "concat=n=", ":v=1:a=1[outv][outa]"], IsPrintableText s := by
    decide
  intro c hc
  by_contra hnot
  -- a character that is not printable stands in none of the parts
  have hdigit : c.isDigit = false :=
    Bool.eq_false_iff.2 fun hdigit => hnot (isPrintable_of_isDigit hdigit)
  exact lacks_mergeGraph hdigit (fun s hs hmem => hnot (hmarks s hs c hmem)) count hc

lemma isPrintableText_filter? (h : op.filter? = some s) : IsPrintableText s := by
  cases op with
  | resize width height =>
    obtain rfl := Option.some.inj h
    simp only [isPrintableText_append]
    exact ⟨⟨⟨by decide, isPrintableText_intRepr _⟩, by decide⟩, isPrintableText_intRepr _⟩
  | merge paths =>
    obtain rfl := Option.some.inj h
    exact isPrintableText_mergeGraph _
  | _ => nomatch h

/-- The filters of operations are printable. -/
lemma isPrintableText_filterFlag (ops : List Operation) :
    IsPrintableText (filterFlag (ops.filterMap Operation.filter?)) := by
  rw [filterFlag, isPrintableText_append, isPrintableText_intercalate (by decide)]
  refine ⟨by decide, fun s hs => ?_⟩
  obtain ⟨op, -, hop⟩ := List.mem_filterMap.1 hs
  exact isPrintableText_filter? hop

/-- Rate control flags are printable. -/
lemma isPrintableText_of_mem_rateFragments (h : s.toList ∈ Shell.rateFragments) :
    IsPrintableText s := by
  obtain ⟨factor, hfactor, rate, hrate, size, hsize, heq⟩ := Shell.mem_rateFragments.1 h
  have hliteral : ∀ t ∈ [" ", "M", "-crf", "-maxrate", "-bufsize"], IsPrintableText t := by decide
  simp only [List.forall_mem_cons] at hliteral
  obtain ⟨hblank, hunit, hcrf, hmaxrate, hbufsize, -⟩ := hliteral
  have hamount : ∀ w ∈ Shell.oneOrMore Shell.isAmountChar, ∀ c ∈ w ++ ['M'], isPrintable c := by
    intro w hw
    rw [List.forall_mem_append]
    exact ⟨fun c hc => isPrintable_of_isHarmless (Shell.isHarmless_of_isAmountChar (hw.2 c hc)),
      hunit⟩
  change ∀ c ∈ [' '], isPrintable c at hblank
  rw [IsPrintableText, ← heq, forall_mem_intercalate_iff hblank, Shell.rateWords]
  simp only [List.forall_mem_cons]
  refine ⟨hcrf, ?_, hmaxrate, hamount _ hrate, hbufsize, hamount _ hsize,
    List.forall_mem_nil _⟩
  exact fun c hc => isPrintable_of_isDigit (hfactor.2 c hc)

/-- Of the fragments of a command, only the output path may have characters of any kind. -/
lemma Fragments.Suits.forall_mem_args_iff (h : f.Suits ops) (hP : ∀ s, IsPrintableText s → P s) :
    (∀ s ∈ f.args, P s) ↔ ∀ path, ops.getLast? = some (.output path) → P path := by
  simp only [Fragments.args, List.forall_mem_append, Option.mem_toList, h.output]
  refine and_iff_right ⟨fun s hs => hP s ?_, fun s hs => hP s ?_, fun s hs => hP s ?_⟩
  · obtain ⟨-, rfl⟩ := (h.filter s).1 hs
    exact isPrintableText_filterFlag ops
  · exact isPrintableText_of_mem_rateFragments (h.rate s hs)
  · obtain ⟨-, -, rfl⟩ := (h.map s).1 hs
    decide

/-! ### Commands on one line -/

/-- Printable text holds no line end. -/
lemma IsPrintableText.isLine (h : IsPrintableText s) : IsLine s := h.lacks (by decide)

/-- Quoting neither makes line ends nor removes them. -/
lemma newline_mem_quoteChars_iff : '\n' ∈ Shell.quoteChars cs ↔ '\n' ∈ cs := by
  have hchar : ∀ c, '\n' ∈ Shell.quoteChar c ↔ c = '\n' := by
    intro c
    unfold Shell.quoteChar
    split_ifs with hc
    · subst hc
      decide
    · rw [List.mem_singleton, eq_comm]
  unfold Shell.quoteChars
  split_ifs
  · rfl
  · simp [hchar]

lemma Shell.Written.newline_mem_iff {ds : List Char} (h : Shell.Written cs ds) :
    '\n' ∈ ds ↔ '\n' ∈ cs := by
  cases h with
  | filter graph => rw [List.mem_append, List.mem_append, newline_mem_quoteChars_iff]
  | rate => rfl
  | map => rfl
  | plain => exact newline_mem_quoteChars_iff

/-- A command for the shell is a line if its program and its arguments are. -/
lemma isLine_shellText_iff :
    IsLine c.shellText ↔ IsLine c.invocation ∧ ∀ arg ∈ c.args, IsLine arg := by
  have hblank : ∀ d ∈ [' '], ¬ d = '\n' := List.forall_mem_singleton.2 (by decide)
  have hargs : ∀ arg ∈ c.args, '\n' ∉ Shell.fragmentChars arg.toList ↔ IsLine arg := fun arg _ =>
    not_congr (Shell.written_fragmentChars arg.toList).newline_mem_iff
  rw [IsLine, Shell.toList_shellText, ← List.forall_mem_ne', forall_mem_intercalate_iff hblank]
  simp only [List.forall_mem_cons, List.forall_mem_map, List.forall_mem_ne']
  rw [forall₂_congr hargs, newline_mem_quoteChars_iff, IsLine]

/-- A compiled command is given to a shell on one line just when its program and its output path are
on one line. -/
lemma isLine_shellText (h : parseArguments accepts ts = .ok ops)
    (hc : compileOperations curve programs ops = .ok c) : IsLine c.shellText ↔
      IsLine c.invocation ∧ ∀ path, ops.getLast? = some (.output path) → IsLine path := by
  obtain ⟨f, hargs, hsuits⟩ := exists_suits_of_compileOperations h hc
  rw [isLine_shellText_iff, hargs, hsuits.forall_mem_args_iff fun s => IsPrintableText.isLine]

end Montage
