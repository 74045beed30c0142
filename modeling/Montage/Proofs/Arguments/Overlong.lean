import Montage.Proofs.Arguments.Failure

/-!
# Numerals that are too long

A command line that cannot be read has a fault, which is reported as a problem of parsing, but for
one case: a number among the values of its flags has so many zeros in front that its numeral is too
long to be read. Then reading fails without a report. The command lines for which this happens are
told here, and that it happens for no others.
-/

namespace Montage

variable {accepts : String → Bool} {token : String} {ts rest : List String} {f : NumberFault}
  {segments : List (List String)}

/-! ### Values -/

/-- The value of a resize with a number that is too long to be read. -/
def IsOverlongSize (token : String) : Prop :=
  ∃ width height, token = width ++ ":" ++ height ∧ ':' ∉ width.toList ∧ ':' ∉ height.toList ∧
    (Signs.signed.Overlong width ∨ Signs.signed.Overlong height)

/-- A dimension fails to be read for too many digits only. -/
lemma readDimension_eq_error_iff {text : String} : Argument.readDimension text = .error f ↔
    f = .tooManyDigits ∧ Signs.signed.Overlong text := readBounded_eq_error_iff

/-- A quality fails to be read for too many digits only. -/
lemma readScore_eq_error_iff {text : String} : Argument.readScore text = .error f ↔
    f = .tooManyDigits ∧ Signs.unsigned.Overlong text := readBounded_eq_error_iff

lemma qualityOf_eq_number_iff : Argument.qualityOf token = .error (.number f) ↔
    f = .tooManyDigits ∧ Signs.unsigned.Overlong token := by
  simp only [Argument.qualityOf, bind_eq_error_iff, orNumberFailure_eq_error_iff,
    orNumberFailure_eq_ok_iff, Failure.number.injEq, ← readScore_eq_error_iff]
  constructor
  · rintro (⟨f', hread, rfl⟩ | ⟨_ | score, -, h⟩)
    · exact hread
    · cases h
    · cases h
  · intro hread
    exact .inl ⟨f, hread, rfl⟩

/-- The parts of a text at its only colon hold none. -/
lemma colon_notMem_of_splitOn {first second : List Char}
    (h : token.toList.splitOn ':' = [first, second]) : ':' ∉ first ∧ ':' ∉ second := by
  have hcount : token.toList.count ':' + 1 = 2 := by
    rw [← length_splitOn, h]
    rfl
  rw [eq_of_splitOn_colon h] at hcount
  simp only [String.toList_append, String.toList_ofList, List.count_append] at hcount
  have hcolon : ":".toList.count ':' = 1 := rfl
  rw [← List.count_eq_zero, ← List.count_eq_zero]
  omega

/-- The two parts of a size are both read before either is looked at. -/
lemma resizeOf_eq_number_iff : Argument.resizeOf token = .error (.number f) ↔
    f = .tooManyDigits ∧ IsOverlongSize token := by
  constructor
  · intro h
    unfold Argument.resizeOf at h
    split at h
    · next first second hsplit =>
      obtain ⟨hfirst, hsecond⟩ := colon_notMem_of_splitOn hsplit
      have hparts : ∀ hlong : Signs.signed.Overlong (.ofList first) ∨
          Signs.signed.Overlong (.ofList second), IsOverlongSize token := fun hlong =>
        ⟨.ofList first, .ofList second, eq_of_splitOn_colon hsplit, by simpa using hfirst,
          by simpa using hsecond, hlong⟩
      simp only [bind_eq_error_iff, orNumberFailure_eq_error_iff, orNumberFailure_eq_ok_iff,
        readDimension_eq_error_iff, Failure.number.injEq] at h
      obtain ⟨_, ⟨rfl, hlong⟩, rfl⟩ | ⟨width, -, ⟨_, ⟨rfl, hlong⟩, rfl⟩ | ⟨height, -, h⟩⟩ := h
      · exact ⟨rfl, hparts (.inl hlong)⟩
      · exact ⟨rfl, hparts (.inr hlong)⟩
      · split at h <;> cases h
    · cases h
  · rintro ⟨rfl, first, second, rfl, hfirst, hsecond, hlong⟩
    rw [Argument.resizeOf, splitOn_colon hfirst hsecond]
    simp only [String.ofList_toList, bind_eq_error_iff, orNumberFailure_eq_error_iff,
      orNumberFailure_eq_ok_iff]
    cases hwidth : Argument.readDimension first with
    | error f =>
      obtain ⟨rfl, -⟩ := readDimension_eq_error_iff.1 hwidth
      exact .inl ⟨_, rfl, rfl⟩
    | ok width =>
      rcases hlong with hlong | hlong
      · cases hwidth.symm.trans (readDimension_eq_error_iff.2 ⟨rfl, hlong⟩)
      · exact .inr ⟨width, rfl, .inl ⟨_, readDimension_eq_error_iff.2 ⟨rfl, hlong⟩, rfl⟩⟩

/-! ### Where reading stops -/

/-- Tokens that start with a flag of which the value has a number that is too long to be read. -/
inductive StartsOverlong : List String → Prop
  | resize {size : String} (h : IsOverlongSize size) (rest : List String) :
    StartsOverlong ("--resize" :: size :: rest)
  | quality {score : String} (h : Signs.unsigned.Overlong score) (rest : List String) :
    StartsOverlong ("--quality" :: score :: rest)

/-- A command line with flags that can be read, and then one with a number that is too long. -/
def IsOverlong (ts : List String) : Prop :=
  ∃ program segments rest, ts = program :: (List.flatten segments ++ rest) ∧
    (∀ s ∈ segments, IsSegment s) ∧ StartsOverlong rest

/-- No merge has a number. -/
lemma readMerge_ne_number : (Argument.readMerge accepts ts).1 ≠ .error (.number f) := by
  unfold Argument.readMerge
  dsimp only
  split
  · nofun
  · split_ifs <;> nofun

/-- Reading an operation stops at a number that is too long, whatever paths are accepted. -/
lemma readOperation_eq_number_iff :
    (Argument.readOperation accepts token rest).1 = .error (.number f) ↔
      f = .tooManyDigits ∧ StartsOverlong (token :: rest) := by
  constructor
  · intro h
    unfold Argument.readOperation at h
    split_ifs at h with hresize hquality
    · subst hresize
      cases rest with
      | nil => nomatch h
      | cons size rest =>
        obtain ⟨rfl, hlong⟩ := resizeOf_eq_number_iff.1 h
        exact ⟨rfl, .resize hlong rest⟩
    · subst hquality
      cases rest with
      | nil => nomatch h
      | cons score rest =>
        obtain ⟨rfl, hlong⟩ := qualityOf_eq_number_iff.1 h
        exact ⟨rfl, .quality hlong rest⟩
    · exact absurd h readMerge_ne_number
    · unfold Argument.outputOf at h
      split_ifs at h
      nomatch h
  · rintro ⟨rfl, hlong⟩
    cases hlong with
    | resize hsize rest =>
      rw [readOperation_resize]
      exact resizeOf_eq_number_iff.2 ⟨rfl, hsize⟩
    | quality hscore rest =>
      rw [readOperation_quality]
      exact qualityOf_eq_number_iff.2 ⟨rfl, hscore⟩

/-- A number that is too long stands behind its flag. -/
lemma StartsOverlong.two_le_length (h : StartsOverlong rest) : 2 ≤ rest.length := by
  cases h <;> simp

/-- Tokens at which reading stops for a number that is too long. -/
lemma exists_segments_of_result_eq_number
    (h : (Progress.ofTokens accepts ts).result = .error (.number f)) :
    ∃ segments rest, ts = List.flatten segments ++ rest ∧ (∀ s ∈ segments, IsSegment s) ∧
      f = .tooManyDigits ∧ StartsOverlong rest := by
  fun_induction Progress.ofTokens accepts ts with
  | case1 => cases h
  | case2 token rest e' left hread =>
    obtain rfl := Except.error.inj h
    obtain ⟨hf, hlong⟩ := readOperation_eq_number_iff.1 (congrArg Prod.fst hread)
    exact ⟨[], _, rfl, by simp, hf, hlong⟩
  | case3 token rest op left hread progress ih =>
    rw [Progress.result_cons, map_eq_error_iff] at h
    obtain ⟨segments, rest', heq, hsegments, hf, hlong⟩ := ih h
    have htakes := takes_of_readOperation hread
    generalize token :: rest = ts at htakes
    -- behind a merge or an output path there is no room for a flag with a value
    have hlength : 2 ≤ left.length := by
      rw [heq, List.length_append]
      exact Nat.le_add_left_of_le hlong.two_le_length
    cases htakes with
    | @flag op tokens hflag htokens =>
      refine ⟨tokens :: segments, rest', ?_, ?_, hf, hlong⟩
      · rw [heq, List.flatten_cons, List.append_assoc]
      · exact List.forall_mem_cons.2 ⟨⟨op, hflag, htokens⟩, hsegments⟩
    | merge => simp at hlength
    | output => simp at hlength

/-- Flags in front of a number that is too long do not keep it from failing. -/
lemma StartsOverlong.result_append (h : StartsOverlong rest)
    (hsegments : ∀ s ∈ segments, IsSegment s) :
    (Progress.ofTokens accepts (segments.flatten ++ rest)).result
      = .error (.number .tooManyDigits) := by
  induction segments with
  | nil =>
    obtain ⟨token, rest, rfl⟩ := List.exists_cons_of_length_pos
      (Nat.lt_of_lt_of_le Nat.zero_lt_two h.two_le_length)
    exact result_of_readOperation
      (Prod.ext (readOperation_eq_number_iff.2 ⟨rfl, h⟩) rfl)
  | cons s segments ih =>
    rw [List.forall_mem_cons] at hsegments
    obtain ⟨op, hflag, htokens⟩ := hsegments.1
    have htakes : Takes accepts (s ++ (segments.flatten ++ rest)) op (segments.flatten ++ rest) :=
      .flag hflag htokens _
    rw [List.flatten_cons, List.append_assoc, htakes.result_ofTokens, ih hsegments.2]
    rfl

/-! ### Whole command lines -/

/-- Reading stops without a report just for the command lines with a number that is too long. -/
lemma parseArguments_eq_number_iff : parseArguments accepts ts = .error (.number f) ↔
    f = .tooManyDigits ∧ IsOverlong ts := by
  cases ts with
  | nil =>
    constructor
    · nofun
    · rintro ⟨-, program, segments, rest, heq, -⟩
      nomatch heq
  | cons program tokens =>
    rw [parseArguments_cons]
    constructor
    · intro h
      obtain ⟨segments, rest, rfl, hsegments, hf, hlong⟩ := exists_segments_of_result_eq_number h
      exact ⟨hf, program, segments, rest, rfl, hsegments, hlong⟩
    · rintro ⟨rfl, _, segments, rest, heq, hsegments, hlong⟩
      obtain ⟨-, rfl⟩ := List.cons.inj heq
      exact hlong.result_append hsegments

/-- A command line that is read or reported has no number in the way that is too long. -/
lemma not_isOverlong_of_reports (h : (∃ ops, parseArguments accepts ts = .ok ops) ∨
    ∃ fault, parseArguments accepts ts = .error (.argument fault)) : ¬ IsOverlong ts := by
  intro hlong
  have hnumber : parseArguments accepts ts = .error (.number .tooManyDigits) :=
    parseArguments_eq_number_iff.2 ⟨rfl, hlong⟩
  obtain ⟨ops, hops⟩ | ⟨fault, hfault⟩ := h
  · nomatch hops.symm.trans hnumber
  · nomatch hfault.symm.trans hnumber

/-- A command line is read, or has a fault that is reported as a problem of parsing, unless one of
its numbers is too long to be read. -/
theorem parseArguments_reports_iff (accepts : String → Bool) (ts : List String) :
    (((∃ ops, parseArguments accepts ts = .ok ops) ∨
      ∃ fault : ArgumentFault, parseArguments accepts ts = .error (.argument fault) ∧
        Category.parsing.covers fault.problem.category) ↔ ¬ IsOverlong ts) ∧
    (IsOverlong ts → parseArguments accepts ts = .error (.number .tooManyDigits)) := by
  refine ⟨⟨?_, ?_⟩, fun h => parseArguments_eq_number_iff.2 ⟨rfl, h⟩⟩
  · intro h
    exact not_isOverlong_of_reports (h.imp_right fun ⟨fault, hfault, _⟩ => ⟨fault, hfault⟩)
  · intro hlong
    cases hresult : parseArguments accepts ts with
    | ok ops => exact .inl ⟨ops, rfl⟩
    | error e =>
      cases cannotRead_of_parseArguments hresult with
      | argument fault => exact .inr ⟨fault, rfl, fault.covers_category⟩
      | number f => exact absurd (parseArguments_eq_number_iff.1 hresult).2 hlong

/-- Zero is not read as a quality if it is written with 4301 digits, and there is no report. -/
theorem parseArguments_long_zero :
    parseArguments (fun _ => true)
        ["montage", "--quality", .ofList (List.replicate 4301 '0'), "a.mp4"]
      = .error (.number .tooManyDigits) ∧
    (Failure.number .tooManyDigits).problem? = none := by
  have hzeros : paddedDigits 4300 (Int.natAbs 0) = List.replicate 4301 '0' := by
    rw [List.replicate_succ']
    rfl
  have hlong : Signs.unsigned.Overlong (.ofList (List.replicate 4301 '0')) := by
    refine ⟨0, ?_, by decide, ?_⟩
    · rw [String.toList_ofList, ← hzeros]
      exact .bare (by decide) 4300
    · rw [String.toList_ofList, List.countP_replicate]
      decide
  exact ⟨parseArguments_eq_number_iff.2
    ⟨rfl, "montage", [], _, rfl, by simp, .quality hlong ["a.mp4"]⟩, rfl⟩

end Montage
