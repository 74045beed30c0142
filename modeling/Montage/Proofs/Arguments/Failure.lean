import Mathlib.Data.List.Basic
import Montage.Proofs.Arguments.Reading

/-!
# Why a command line cannot be read

How the values of flags fail to be read, and which failures there are in all: a fault of the command
line, which is reported as one of parsing, or a number with too many digits.
-/

namespace Montage

variable {accepts : String → Bool} {token : String} {ts rest left : List String} {e : Failure}
  {p : Problem}

/-! ### Values -/

lemma length_splitOn (c : Char) (cs : List Char) : (cs.splitOn c).length = cs.count c + 1 := by
  induction cs with
  | nil => simp
  | cons d cs ih =>
    rw [List.splitOn_cons_eq_if_modifyHead, List.count_cons]
    split_ifs with h
    · rw [List.length_cons, ih]
    · rw [List.length_modifyHead, ih]

/-- A value of a resizing without just one colon has the wrong number of dimensions. -/
lemma resizeOf_of_count_ne (h : token.toList.count ':' ≠ 1) :
    Argument.resizeOf token = .error (.argument (.dimensionCount token)) := by
  unfold Argument.resizeOf
  split
  · next first second hsplit =>
    have hlength := length_splitOn ':' token.toList
    rw [hsplit] at hlength
    exact absurd (Nat.succ.inj hlength).symm h
  · rfl

/-- With just one colon, one of the two dimensions is wrong. -/
lemma resizeOf_eq_error_of_count (hcount : token.toList.count ':' = 1)
    (h : Argument.resizeOf token = .error e) :
    (∃ f, e = .number f) ∨ e = .argument (.dimensionValue token) := by
  obtain ⟨first, second, hsplit⟩ : ∃ first second, token.toList.splitOn ':' = [first, second] := by
    apply List.length_eq_two.1
    rw [length_splitOn, hcount]
  unfold Argument.resizeOf at h
  rw [hsplit] at h
  simp only [bind_eq_error_iff, orNumberFailure_eq_error_iff, orNumberFailure_eq_ok_iff] at h
  obtain ⟨f, -, rfl⟩ | ⟨width, -, ⟨f, -, rfl⟩ | ⟨height, -, h⟩⟩ := h
  · exact .inl ⟨f, rfl⟩
  · exact .inl ⟨f, rfl⟩
  · cases width with
    | none => exact .inr (Except.error.inj h).symm
    | some width =>
      cases height with
      | none => exact .inr (Except.error.inj h).symm
      | some height => cases h

lemma qualityOf_eq_error (h : Argument.qualityOf token = .error e) :
    (∃ f, e = .number f) ∨ e = .argument (.qualityValue token) := by
  simp only [Argument.qualityOf, bind_eq_error_iff, orNumberFailure_eq_error_iff,
    orNumberFailure_eq_ok_iff] at h
  obtain ⟨f, -, rfl⟩ | ⟨score, -, h⟩ := h
  · exact .inl ⟨f, rfl⟩
  · cases score with
    | none => exact .inr (Except.error.inj h).symm
    | some score => cases h

/-! ### Command lines -/

/-- The failures to read a command line. -/
inductive CannotRead : Failure → Prop
  | argument (f : ArgumentFault) : CannotRead (.argument f)
  | number (f : NumberFault) : CannotRead (.number f)

lemma ArgumentFault.covers_category (f : ArgumentFault) :
    Category.parsing.covers f.problem.category := by
  cases f <;> rfl

lemma CannotRead.covers_category (h : CannotRead e) (hp : e.problem? = some p) :
    Category.parsing.covers p.category := by
  cases h with
  | argument f =>
    obtain rfl := Option.some.inj hp
    exact f.covers_category
  | number f => nomatch hp

lemma cannotRead_of_resizeOf (h : Argument.resizeOf token = .error e) : CannotRead e := by
  by_cases hcount : token.toList.count ':' = 1
  · obtain ⟨f, rfl⟩ | rfl := resizeOf_eq_error_of_count hcount h
    · exact .number f
    · exact .argument _
  · rw [resizeOf_of_count_ne hcount] at h
    obtain rfl := Except.error.inj h
    exact .argument _

lemma cannotRead_of_qualityOf (h : Argument.qualityOf token = .error e) : CannotRead e := by
  obtain ⟨f, rfl⟩ | rfl := qualityOf_eq_error h
  · exact .number f
  · exact .argument _

lemma cannotRead_of_readMerge (h : (Argument.readMerge accepts ts).1 = .error e) :
    CannotRead e := by
  unfold Argument.readMerge at h
  dsimp only at h
  split at h
  · obtain rfl := Except.error.inj h
    exact .argument _
  · split_ifs at h
    obtain rfl := Except.error.inj h
    exact .argument _

/-- Each operation fails for a fault of the arguments or a number that is too long. -/
lemma cannotRead_of_readOperation
    (h : (Argument.readOperation accepts token rest).1 = .error e) : CannotRead e := by
  unfold Argument.readOperation at h
  split_ifs at h
  · cases rest with
    | nil =>
      obtain rfl := Except.error.inj h
      exact .argument _
    | cons value rest => exact cannotRead_of_resizeOf h
  · cases rest with
    | nil =>
      obtain rfl := Except.error.inj h
      exact .argument _
    | cons value rest => exact cannotRead_of_qualityOf h
  · exact cannotRead_of_readMerge h
  · unfold Argument.outputOf at h
    split_ifs at h
    obtain rfl := Except.error.inj h
    exact .argument _

/-- So does a whole command line. -/
lemma cannotRead_of_result (h : (Progress.ofTokens accepts ts).result = .error e) :
    CannotRead e := by
  fun_induction Progress.ofTokens accepts ts with
  | case1 => cases h
  | case2 token rest e' left hread =>
    obtain rfl := Except.error.inj h
    exact cannotRead_of_readOperation (congrArg Prod.fst hread)
  | case3 token rest op left hread progress ih =>
    rw [Progress.result_cons, map_eq_error_iff] at h
    exact ih h

/-- A command line that is not read fails in one of these ways. -/
lemma cannotRead_of_parseArguments (h : parseArguments accepts ts = .error e) : CannotRead e := by
  cases ts with
  | nil =>
    obtain rfl := Except.error.inj h
    exact .argument _
  | cons program tokens =>
    rw [parseArguments_cons] at h
    exact cannotRead_of_result h

end Montage
