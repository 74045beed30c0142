import Montage.Proofs.Arguments.Reading

/-!
# Reading on

A command line that is being read can be asked for its operations at any time, also after parts of
it were read in other ways or could not be read. What it gives then is what a command line would
give that holds just the tokens left, behind the operations read before. No call puts a token back.
-/

namespace Montage

variable {accepts : String → Bool} {token path : String} {ts rest left : List String}
  {op : Operation} {ops : List Operation} {e : Failure}

/-! ### Calls -/

namespace Arguments

inductive Call
  /-- All operations to the end. -/
  | operations
  | resize
  | quality
  | preview
  | merge
  | output (path : String)
  /-- Whether a path can be merged. -/
  | acceptance (path : String)
  deriving DecidableEq

inductive Answer
  | operations (ops : List Operation)
  | operation (op : Operation)
  | path (path : String)
  deriving DecidableEq

def call (accepts : String → Bool) (a : Arguments) : Call → Except Failure Answer × Arguments
  | .operations => (a.readAll accepts).map (·.map .operations) id
  | .resize => a.readResize.map (·.map .operation) id
  | .quality => a.readQuality.map (·.map .operation) id
  | .preview => (.ok (.operation (.execution .preview)), a)
  | .merge => (a.readMerge accepts).map (·.map .operation) id
  | .output path => ((Argument.outputOf path a.tokens.items).map .operation, a)
  | .acceptance path => ((Argument.acceptedPath accepts path).map .path, a)

def after (accepts : String → Bool) (a : Arguments) (calls : List Call) : Arguments :=
  calls.foldl (fun a c => (a.call accepts c).2) a

end Arguments

/-! ### Tokens are only consumed -/

/-- A merge leaves a part of the end. -/
lemma readMerge_suffix (accepts : String → Bool) (ts : List String) :
    (Argument.readMerge accepts ts).2 <:+ ts := by
  unfold Argument.readMerge
  dsimp only
  split
  · exact (List.tail_suffix _).trans (List.dropWhile_suffix accepts)
  · split_ifs <;> exact List.drop_suffix _ _

lemma readResize_suffix (ts : List String) : (Argument.readResize ts).2 <:+ ts := by
  have htail : (Argument.readResize ts).2 = ts.tail := by cases ts <;> rfl
  exact htail ▸ List.tail_suffix ts

lemma readQuality_suffix (ts : List String) : (Argument.readQuality ts).2 <:+ ts := by
  have htail : (Argument.readQuality ts).2 = ts.tail := by cases ts <;> rfl
  exact htail ▸ List.tail_suffix ts

/-- So does each operation. -/
lemma readOperation_suffix (accepts : String → Bool) (token : String) (rest : List String) :
    (Argument.readOperation accepts token rest).2 <:+ rest := by
  unfold Argument.readOperation
  split_ifs
  · exact readResize_suffix rest
  · exact readQuality_suffix rest
  · exact List.suffix_rfl
  · exact readMerge_suffix accepts rest
  · exact List.suffix_rfl

/-- What is left when reading stops is a part of the end. -/
lemma left_ofTokens_suffix (accepts : String → Bool) (ts : List String) :
    (Progress.ofTokens accepts ts).left <:+ ts := by
  fun_induction Progress.ofTokens accepts ts with
  | case1 => exact List.suffix_rfl
  | case2 token rest e left hread =>
    have hleft := readOperation_suffix accepts token rest
    rw [hread] at hleft
    exact hleft.trans (List.suffix_cons token rest)
  | case3 token rest op left hread progress ih =>
    have hleft := readOperation_suffix accepts token rest
    rw [hread] at hleft
    exact (ih.trans hleft).trans (List.suffix_cons token rest)

namespace Arguments

/-- A call takes tokens from the front, if any. -/
lemma call_suffix (accepts : String → Bool) (a : Arguments) (c : Call) :
    (a.call accepts c).2.tokens.items <:+ a.tokens.items := by
  obtain ⟨⟨ts⟩, parsed⟩ := a
  cases c with
  | operations =>
    cases ts with
    | nil => exact List.suffix_rfl
    | cons program ts => exact (left_ofTokens_suffix accepts ts).trans (List.suffix_cons program ts)
  | resize => exact readResize_suffix ts
  | quality => exact readQuality_suffix ts
  | merge => exact readMerge_suffix accepts ts
  | preview | output | acceptance => exact List.suffix_rfl

/-- Calls together leave a part of the end of the command line. -/
lemma after_suffix (accepts : String → Bool) (a : Arguments) (calls : List Call) :
    (a.after accepts calls).tokens.items <:+ a.tokens.items := by
  induction calls generalizing a with
  | nil => exact List.suffix_rfl
  | cons c calls ih => exact (ih _).trans (a.call_suffix accepts c)

/-- Only reading to the end adds to the operations that were read. -/
lemma parsed_call (accepts : String → Bool) (a : Arguments) {c : Call} (h : c ≠ .operations) :
    (a.call accepts c).2.parsed = a.parsed := by
  cases c with
  | operations => exact absurd rfl h
  | _ => rfl

end Arguments

/-! ### Where reading stops -/

/-- Operations stand one after the other in front of other tokens. -/
inductive TakesFront (accepts : String → Bool) :
    List String → List Operation → List String → Prop
  | nil (ts : List String) : TakesFront accepts ts [] ts
  | cons {ts left rest : List String} {op : Operation} {ops : List Operation}
    (hop : Takes accepts ts op left) (hops : TakesFront accepts left ops rest) :
    TakesFront accepts ts (op :: ops) rest

/-- Why a command line is not read: it has no program name, or it fails at the token behind some
operations, and some tokens are left then. -/
inductive FailsBehind (accepts : String → Bool) :
    List String → List Operation → Failure → List String → Prop
  | noProgramName : FailsBehind accepts [] [] (.argument .noProgramName) []
  | operation (program : String) {ts rest left : List String} {ops : List Operation}
    {token : String} {e : Failure} (hfront : TakesFront accepts ts ops (token :: rest))
    (herror : Argument.readOperation accepts token rest = (.error e, left)) :
    FailsBehind accepts (program :: ts) ops e left

/-- A failure keeps just the operations in front of the token at which it comes up. -/
lemma exists_takesFront_ofTokens (h : (Progress.ofTokens accepts ts).failure = some e) :
    ∃ token rest, TakesFront accepts ts (Progress.ofTokens accepts ts).operations (token :: rest) ∧
      Argument.readOperation accepts token rest
        = (.error e, (Progress.ofTokens accepts ts).left) := by
  fun_induction Progress.ofTokens accepts ts with
  | case1 => cases h
  | case2 token rest e' left hread =>
    obtain rfl := Option.some.inj h
    exact ⟨token, rest, .nil _, hread⟩
  | case3 token rest op left hread progress ih =>
    obtain ⟨token', rest', hfront, herror⟩ := ih h
    exact ⟨token', rest', .cons (takes_of_readOperation hread) hfront, herror⟩

namespace Arguments

lemma readAll_cons (accepts : String → Bool) (program : String) (ts : List String)
    (parsed : List Operation) : readAll accepts ⟨⟨program :: ts⟩, parsed⟩
      = (match (Progress.ofTokens accepts ts).failure with
          | some e => .error e
          | none => .ok (parsed ++ (Progress.ofTokens accepts ts).operations),
        ⟨⟨(Progress.ofTokens accepts ts).left⟩,
          parsed ++ (Progress.ofTokens accepts ts).operations⟩) := rfl

/-- A fresh command line fails behind the operations that it keeps. -/
lemma failsBehind_of_readAll (h : ((ofTokens ts).readAll accepts).1 = .error e) :
    FailsBehind accepts ts ((ofTokens ts).readAll accepts).2.parsed e
      ((ofTokens ts).readAll accepts).2.tokens.items := by
  cases ts with
  | nil =>
    obtain rfl := Except.error.inj h
    exact .noProgramName
  | cons program ts =>
    rw [ofTokens, readAll_cons] at h ⊢
    cases hfailure : (Progress.ofTokens accepts ts).failure with
    | none =>
      rw [hfailure] at h
      nomatch h
    | some e' =>
      rw [hfailure] at h
      obtain rfl := Except.error.inj h
      obtain ⟨token, rest, hfront, herror⟩ := exists_takesFront_ofTokens hfailure
      exact .operation program hfront herror

/-- Reading on does not look at the operations read before. -/
lemma readAll_eq (accepts : String → Bool) (a : Arguments) :
    a.readAll accepts
      = (((ofTokens a.tokens.items).readAll accepts).1.map (a.parsed ++ ·),
        ⟨((ofTokens a.tokens.items).readAll accepts).2.tokens,
          a.parsed ++ ((ofTokens a.tokens.items).readAll accepts).2.parsed⟩) := by
  obtain ⟨⟨ts⟩, parsed⟩ := a
  cases ts with
  | nil =>
    change (_, (⟨⟨[]⟩, parsed⟩ : Arguments)) = (_, ⟨⟨[]⟩, parsed ++ []⟩)
    rw [List.append_nil]
    rfl
  | cons program ts =>
    rw [ofTokens, readAll_cons, readAll_cons]
    cases (Progress.ofTokens accepts ts).failure <;> rfl

/-- Reading resumes where it stopped. Whatever calls were made, the tokens left are a part of the
end of the command line, and reading on gives what a fresh command line of them gives: the same
failure, or its operations behind those read before; the same tokens are left, and its operations
join those read before. If it fails, these are the operations in front of the failing one. All other
calls leave the operations alone, and no call puts a token back. -/
theorem readAll_after (accepts : String → Bool) (ts : List String) (calls : List Call) :
    let a := (ofTokens ts).after accepts calls
    let fresh := (ofTokens a.tokens.items).readAll accepts
    a.tokens.items <:+ ts ∧
    (a.readAll accepts).1 = fresh.1.map (a.parsed ++ ·) ∧
    (a.readAll accepts).2.tokens = fresh.2.tokens ∧
    (a.readAll accepts).2.parsed = a.parsed ++ fresh.2.parsed ∧
    (∀ e, fresh.1 = .error e →
      FailsBehind accepts a.tokens.items fresh.2.parsed e fresh.2.tokens.items) ∧
    (∀ c, c ≠ .operations → (a.call accepts c).2.parsed = a.parsed) ∧
    ∀ c, (a.call accepts c).2.tokens.left ≤ a.tokens.left := by
  intro a fresh
  refine ⟨after_suffix accepts (ofTokens ts) calls, ?_, ?_, ?_, ?_, ?_, ?_⟩
  · rw [a.readAll_eq]
  · rw [a.readAll_eq]
  · rw [a.readAll_eq]
  · intro e he
    exact failsBehind_of_readAll he
  · intro c hc
    exact a.parsed_call accepts hc
  · intro c
    exact (a.call_suffix accepts c).length_le

/-- After a failure, the next token counts as the program name. -/
example : ((ofTokens ["montage", "--preview", "--resize", "x", "--merge", "a.mp4"]).after
      (fun _ => true) [.operations, .acceptance "b.mp4", .operations]).parsed
    = [.execution .preview, .output "a.mp4"] := by
  decide +kernel

end Arguments

end Montage
