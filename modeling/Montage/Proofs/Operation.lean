import Montage.Proofs.Number.Numeral
import Montage.Proofs.Text.Literal
import Montage.Proofs.Text.Printable
import Std.Data.String.ToInt

/-!
# Shown operations

Operations are shown on one line, and no two lists of operations are shown alike, whatever stands in
their paths.
-/

namespace Montage

variable {op op' : Operation} {ops ops' : List Operation} {c : Char} {m n : Int} {x y : List Char}

/-- The numbers of an operation do not have too many digits to be written. -/
def Operation.IsWritable : Operation → Prop
  | resize width height =>
    width.natAbs < powerOfTen digitLimit ∧ height.natAbs < powerOfTen digitLimit
  | quality score => score.natAbs < powerOfTen digitLimit
  | _ => True

namespace Operation

/-- What an operation is shown as, if its numbers can be written. -/
def text : Operation → String
  | resize width height => "Resize(width=" ++ width.repr ++ ", height=" ++ height.repr ++ ")"
  | quality score => "Quality(score=" ++ score.repr ++ ")"
  | merge paths => "Merge(paths=" ++ tupleText (paths.map literal) ++ ")"
  | execution mode => "ExecutionType(kind=" ++ mode.display ++ ")"
  | output path => "OutFilePath(path=" ++ literal path ++ ")"

lemma text_resize (width height : Int) : (resize width height).text
    = "Resize(width=" ++ width.repr ++ ", height=" ++ height.repr ++ ")" := rfl

lemma text_quality (score : Int) :
    (quality score).text = "Quality(score=" ++ score.repr ++ ")" := rfl

lemma text_merge (paths : List String) :
    (merge paths).text = "Merge(paths=" ++ tupleText (paths.map literal) ++ ")" := rfl

lemma text_execution (mode : Mode) :
    (execution mode).text = "ExecutionType(kind=" ++ mode.display ++ ")" := rfl

lemma text_output (path : String) :
    (output path).text = "OutFilePath(path=" ++ literal path ++ ")" := rfl

/-- An operation whose numbers can be written is shown as its text. -/
lemma IsWritable.display_eq (h : op.IsWritable) : op.display = .ok op.text := by
  cases op with
  | resize width height =>
    rw [display, decimalText_eq_ok h.1, decimalText_eq_ok h.2]
    rfl
  | quality score =>
    rw [display, decimalText_eq_ok h]
    rfl
  | merge paths => rfl
  | execution mode => rfl
  | output path => rfl

end Operation

/-- Operations whose numbers can be written are shown as the list of their texts. -/
lemma displayOperations_eq_ok (h : ∀ op ∈ ops, op.IsWritable) :
    displayOperations ops = .ok (listText (ops.map Operation.text)) := by
  have htexts : ops.mapM Operation.display = .ok (ops.map Operation.text) := by
    induction ops with
    | nil => rfl
    | cons op ops ih =>
      rw [List.forall_mem_cons] at h
      rw [List.mapM_cons, h.1.display_eq, ih h.2]
      rfl
  rw [displayOperations, htexts]
  rfl

/-! ### What is told by the shown text -/

/-- A number tells what it is if a character stands behind it that belongs to no number. -/
lemma eq_of_repr_append (hdigit : c.isDigit = false) (hminus : c ≠ '-')
    (h : m.repr.toList ++ c :: x = n.repr.toList ++ c :: y) : m = n ∧ x = y := by
  have hnumber : ∀ (k : Int) z, (k.repr.toList ++ c :: z).takeWhile (· != c) = k.repr.toList := by
    intro k z
    have hlacks : Lacks c k.repr := lacks_intRepr hdigit hminus k
    have hne : ∀ d ∈ k.repr.toList, d != c := fun d hd =>
      bne_iff_ne.2 fun heq => hlacks (heq ▸ hd)
    rw [List.takeWhile_append_of_pos hne, List.takeWhile_cons_of_neg (by simp), List.append_nil]
  have hrepr : m.repr.toList = n.repr.toList := by rw [← hnumber m x, h, hnumber n y]
  rw [hrepr] at h
  exact ⟨Int.repr_inj.1 (String.toList_inj.1 hrepr), (List.cons.inj (List.append_cancel_left h)).2⟩

/-- No mode is shown as the start of another. -/
lemma Mode.isPrefixCode_display : IsPrefixCode Mode.display := by
  intro mode mode' x y h
  cases mode <;> cases mode' <;> simp [display] at h ⊢
  all_goals exact h

namespace Operation

def initial : Operation → Char
  | resize .. => 'R'
  | quality .. => 'Q'
  | merge .. => 'M'
  | execution .. => 'E'
  | output .. => 'O'

lemma exists_toList_text (op : Operation) : ∃ cs, op.text.toList = op.initial :: cs := by
  cases op with
  | resize => simp [text_resize, initial]
  | quality => simp [text_quality, initial]
  | merge => simp [text_merge, initial]
  | execution => simp [text_execution, initial]
  | output => simp [text_output, initial]

/-- The first character of a text tells the kind of the operation. -/
lemma initial_eq_of_text_append (h : op.text.toList ++ x = op'.text.toList ++ y) :
    op.initial = op'.initial := by
  obtain ⟨cs, hcs⟩ := op.exists_toList_text
  obtain ⟨cs', hcs'⟩ := op'.exists_toList_text
  rw [hcs, hcs'] at h
  exact (List.cons.inj h).1

/-- No operation looks like the end of the list. -/
lemma text_append_ne_bracket (op : Operation) (x y : List Char) :
    op.text.toList ++ x ≠ ']' :: y := by
  obtain ⟨cs, hcs⟩ := op.exists_toList_text
  have hinitial : op.initial ≠ ']' := by cases op <;> simp [initial]
  rw [hcs]
  exact fun h => hinitial (List.cons.inj h).1

/-- A shown operation tells what it is and where it ends. -/
lemma isPrefixCode_text : IsPrefixCode text := by
  intro op op' x y h
  have hinitial := initial_eq_of_text_append h
  cases op with
  | resize width height =>
    cases op' with
    | resize width' height' =>
      simp only [text_resize, String.toList_append, List.append_assoc] at h
      obtain ⟨rfl, hrest⟩ := eq_of_repr_append (by decide) (by decide) (List.append_cancel_left h)
      have hheight : " height=".toList ++ (height.repr.toList ++ ')' :: x)
        = " height=".toList ++ (height'.repr.toList ++ ')' :: y) := hrest
      obtain ⟨rfl, rfl⟩ := eq_of_repr_append (by decide) (by decide)
        (List.append_cancel_left hheight)
      exact ⟨rfl, rfl⟩
    | _ => nomatch hinitial
  | quality score =>
    cases op' with
    | quality score' =>
      simp only [text_quality, String.toList_append, List.append_assoc] at h
      obtain ⟨rfl, rfl⟩ := eq_of_repr_append (by decide) (by decide) (List.append_cancel_left h)
      exact ⟨rfl, rfl⟩
    | _ => nomatch hinitial
  | merge paths =>
    cases op' with
    | merge paths' =>
      simp only [text_merge, String.toList_append, List.append_assoc] at h
      have hpaths := isPrefixCode_tupleText isPrefixCode_literal fun s x y =>
        literal_append_ne (s := s) (by decide)
      obtain ⟨rfl, hrest⟩ := hpaths (List.append_cancel_left h)
      exact ⟨rfl, List.append_cancel_left hrest⟩
    | _ => nomatch hinitial
  | execution mode =>
    cases op' with
    | execution mode' =>
      simp only [text_execution, String.toList_append, List.append_assoc] at h
      obtain ⟨rfl, hrest⟩ := Mode.isPrefixCode_display (List.append_cancel_left h)
      exact ⟨rfl, List.append_cancel_left hrest⟩
    | _ => nomatch hinitial
  | output path =>
    cases op' with
    | output path' =>
      simp only [text_output, String.toList_append, List.append_assoc] at h
      obtain ⟨rfl, hrest⟩ := isPrefixCode_literal (List.append_cancel_left h)
      exact ⟨rfl, List.append_cancel_left hrest⟩
    | _ => nomatch hinitial

end Operation

/-! ### Lists of operations -/

/-- A list of operations is told from its text, whatever stands behind it. -/
lemma eq_of_listText_append {rest rest' : String}
    (h : listText (ops.map Operation.text) ++ rest = listText (ops'.map Operation.text) ++ rest') :
    ops = ops' ∧ rest = rest' := by
  have htexts := isPrefixCode_listText Operation.isPrefixCode_text Operation.text_append_ne_bracket
  rw [← String.toList_inj, String.toList_append, String.toList_append] at h
  obtain ⟨rfl, hrest⟩ := htexts h
  exact ⟨rfl, String.toList_inj.1 hrest⟩

/-- Operations whose numbers can be written are shown on one line of printable characters. The line
tells the operations and where it ends, whatever is printed behind it, so no other operations are
shown by the same line. -/
theorem displayOperations_inj (hops : ∀ op ∈ ops, op.IsWritable)
    (hops' : ∀ op ∈ ops', op.IsWritable) : ∃ shown shown',
    displayOperations ops = .ok shown ∧ displayOperations ops' = .ok shown' ∧
    (shown = shown' ↔ ops = ops') ∧
    (∀ rest rest', shown ++ rest = shown' ++ rest' → ops = ops' ∧ rest = rest') ∧
    IsPrintableText shown ∧ Lacks '\n' shown ∧ Lacks '\r' shown := by
  have hshown := displayOperations_eq_ok hops
  have hprintable := isPrintableText_displayOperations hshown
  refine ⟨_, _, hshown, displayOperations_eq_ok hops', ⟨fun h => ?_, ?_⟩,
    fun rest rest' => eq_of_listText_append, hprintable, hprintable.lacks (by decide),
    hprintable.lacks (by decide)⟩
  · exact (eq_of_listText_append (congrArg (· ++ "") h)).1
  · rintro rfl
    rfl

/-- One path that looks like two is shown otherwise than the two, and a path with a line feed,
quotes and brackets in it ends where it should. -/
theorem displayOperations_inj_quotes :
    let ops : List Operation := [.resize 640 480, .merge ["a', 'b"], .output "c\n')]"]
    let ops' : List Operation := [.resize 640 480, .merge ["a", "b"], .output "c\n')]"]
    (∀ op ∈ ops, op.IsWritable) ∧ (∀ op ∈ ops', op.IsWritable) ∧
      displayOperations ops = .ok ("[Resize(width=640, height=480), Merge(paths=(\"a', 'b\",)), "
        ++ "OutFilePath(path=\"c\\n')]\")]") ∧
      displayOperations ops' = .ok ("[Resize(width=640, height=480), Merge(paths=('a', 'b')), "
        ++ "OutFilePath(path=\"c\\n')]\")]") ∧
      ∃ shown shown', displayOperations ops = .ok shown ∧ displayOperations ops' = .ok shown' ∧
        shown ≠ shown' ∧ IsPrintableText shown ∧ Lacks '\n' shown ∧ Lacks '\r' shown := by
  intro ops ops'
  have hlimit := le_powerOfTen_digitLimit
  have hsize : 640 < powerOfTen digitLimit ∧ 480 < powerOfTen digitLimit := by omega
  have hops : ∀ op ∈ ops, op.IsWritable := by simpa [ops, Operation.IsWritable] using hsize
  have hops' : ∀ op ∈ ops', op.IsWritable := by simpa [ops', Operation.IsWritable] using hsize
  obtain ⟨shown, shown', hshown, hshown', hsame, -, hprintable⟩ := displayOperations_inj hops hops'
  exact ⟨hops, hops', by decide +kernel, by decide +kernel, shown, shown', hshown, hshown',
    hsame.not.2 (by decide), hprintable⟩

end Montage
