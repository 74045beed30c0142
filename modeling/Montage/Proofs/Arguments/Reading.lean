import Montage.Proofs.Arguments.Grammar
import Montage.Proofs.Result

/-!
# Reading operations

What reading a command line gives, in both directions: each operation that is read takes the tokens
that ask for it from the front, and tokens that ask for an operation are read as this operation. A
whole command line is read operation by operation.
-/

namespace Montage

variable {accepts : String → Bool} {token text program : String} {rest left ts : List String}
  {op : Operation} {ops : List Operation} {n : Int} {e : Failure}

/-! ### Values of flags -/

/-- A dimension is a signed number of 32 bits. -/
lemma readDimension_eq_some_iff : Argument.readDimension text = .ok (some n) ↔
    Signs.signed.Spells n text ∧ -2147483648 ≤ n ∧ n ≤ 2147483647 :=
  readBounded_iff_spells (by decide) (by decide)

/-- A quality is an unsigned number of 32 bits. -/
lemma readScore_eq_some_iff : Argument.readScore text = .ok (some n) ↔
    Signs.unsigned.Spells n text ∧ 0 ≤ n ∧ n ≤ 4294967295 :=
  readBounded_iff_spells (by decide) (by decide)

lemma qualityOf_eq_ok_iff : Argument.qualityOf token = .ok op ↔
    ∃ score, Argument.readScore token = .ok (some score) ∧ op = .quality score := by
  simp only [Argument.qualityOf, bind_eq_ok_iff, orNumberFailure_eq_ok_iff]
  constructor
  · rintro ⟨_ | score, hread, h⟩
    · simp at h
    · exact ⟨score, hread, (pure_eq_ok_iff.1 h).symm⟩
  · rintro ⟨score, hread, rfl⟩
    exact ⟨some score, hread, rfl⟩

lemma resizeOf_eq_ok_iff : Argument.resizeOf token = .ok op ↔
    ∃ first second width height, token.toList.splitOn ':' = [first, second] ∧
      Argument.readDimension (.ofList first) = .ok (some width) ∧
      Argument.readDimension (.ofList second) = .ok (some height) ∧ op = .resize width height := by
  unfold Argument.resizeOf
  split
  · next first second hsplit =>
    simp only [bind_eq_ok_iff, orNumberFailure_eq_ok_iff]
    constructor
    · rintro ⟨_ | width, hw, _ | height, hh, h⟩
      · simp at h
      · simp at h
      · simp at h
      · exact ⟨first, second, width, height, hsplit, hw, hh, (pure_eq_ok_iff.1 h).symm⟩
    · rintro ⟨first', second', width, height, hsplit', hw, hh, rfl⟩
      obtain ⟨rfl, rfl⟩ : first = first' ∧ second = second' := by simpa [hsplit] using hsplit'
      exact ⟨some width, hw, some height, hh, rfl⟩
  · next h =>
    constructor
    · intro hok
      cases hok
    · rintro ⟨first, second, -, -, hsplit, -⟩
      exact absurd hsplit (h first second)

/-- A numeral has no colon. -/
lemma Signs.Numeral.colon_notMem {signs : Signs} {cs : List Char} (h : signs.Numeral n cs) :
    ':' ∉ cs := by
  have hdigits : ∀ zeros, ':' ∉ paddedDigits zeros n.natAbs := fun zeros hmem => by
    simpa using isDigit_of_mem_paddedDigits hmem
  cases h <;> simp [hdigits]

/-- Two texts without colons are told apart by the colon between them. -/
lemma splitOn_colon {first second : String} (hfirst : ':' ∉ first.toList)
    (hsecond : ':' ∉ second.toList) :
    (first ++ ":" ++ second).toList.splitOn ':' = [first.toList, second.toList] := by
  have hparts : ∀ part ∈ [first.toList, second.toList], ':' ∉ part := by
    simpa using ⟨hfirst, hsecond⟩
  have htext : (first ++ ":" ++ second).toList
      = [':'].intercalate [first.toList, second.toList] := by
    simp [List.intercalate_cons_cons]
  rw [htext, List.splitOn_intercalate ':' hparts (by simp)]

/-- A text is its parts with the colon between them. -/
lemma eq_of_splitOn_colon {first second : List Char}
    (h : token.toList.splitOn ':' = [first, second]) :
    token = .ofList first ++ ":" ++ .ofList second := by
  have htext : token.toList = [':'].intercalate [first, second] := by
    rw [← h, List.intercalate_splitOn]
  rw [← String.toList_inj, htext]
  simp [List.intercalate_cons_cons]

/-- A token gives a resize just when it asks for one in range. -/
lemma resizeOf_eq_ok_iff_spelled :
    Argument.resizeOf token = .ok op ↔ op.IsFlag ∧ op.Spelled ["--resize", token] := by
  constructor
  · intro h
    obtain ⟨first, second, width, height, hsplit, hw, hh, rfl⟩ := resizeOf_eq_ok_iff.1 h
    obtain ⟨hw, hwidth⟩ := readDimension_eq_some_iff.1 hw
    obtain ⟨hh, hheight⟩ := readDimension_eq_some_iff.1 hh
    rw [eq_of_splitOn_colon hsplit]
    exact ⟨.resize hwidth hheight, .resize hw hh⟩
  · rintro ⟨hflag, htokens⟩
    generalize hts : ["--resize", token] = ts at htokens
    cases hflag with
    | @resize width height hwidth hheight =>
      cases htokens with
      | @resize _ _ w h hw hh =>
        obtain rfl : token = w ++ ":" ++ h := by simpa using hts
        exact resizeOf_eq_ok_iff.2 ⟨w.toList, h.toList, width, height,
          splitOn_colon hw.1.colon_notMem hh.1.colon_notMem,
          by rw [String.ofList_toList, readDimension_eq_some_iff]; exact ⟨hw, hwidth⟩,
          by rw [String.ofList_toList, readDimension_eq_some_iff]; exact ⟨hh, hheight⟩, rfl⟩
    | quality hscore => cases htokens with | quality hs => simp at hts
    | preview => cases htokens with | preview => simp at hts

/-- A token gives a quality just when it asks for one in range. -/
lemma qualityOf_eq_ok_iff_spelled :
    Argument.qualityOf token = .ok op ↔ op.IsFlag ∧ op.Spelled ["--quality", token] := by
  constructor
  · intro h
    obtain ⟨score, hs, rfl⟩ := qualityOf_eq_ok_iff.1 h
    obtain ⟨hs, hscore⟩ := readScore_eq_some_iff.1 hs
    exact ⟨.quality hscore, .quality hs⟩
  · rintro ⟨hflag, htokens⟩
    generalize hts : ["--quality", token] = ts at htokens
    cases hflag with
    | resize hwidth hheight => cases htokens with | resize hw hh => simp at hts
    | @quality score hscore =>
      cases htokens with
      | @quality _ s hs =>
        obtain rfl : token = s := by simpa using hts
        exact qualityOf_eq_ok_iff.2 ⟨score, readScore_eq_some_iff.2 ⟨hs, hscore⟩, rfl⟩
    | preview => cases htokens with | preview => simp at hts

/-! ### One operation -/

lemma readOperation_resize (accepts : String → Bool) (value : String) (rest : List String) :
    Argument.readOperation accepts "--resize" (value :: rest)
      = (Argument.resizeOf value, rest) := rfl

lemma readOperation_quality (accepts : String → Bool) (value : String) (rest : List String) :
    Argument.readOperation accepts "--quality" (value :: rest)
      = (Argument.qualityOf value, rest) := rfl

/-- An operation stands at the front of tokens, with others left behind it. -/
inductive Takes (accepts : String → Bool) : List String → Operation → List String → Prop
  | flag {op : Operation} {tokens : List String} (hflag : op.IsFlag) (htokens : op.Spelled tokens)
    (left : List String) : Takes accepts (tokens ++ left) op left
  | merge {paths : List String} (hpaths : 2 ≤ paths.length) (haccepts : ∀ p ∈ paths, accepts p)
    (last : String) : Takes accepts ("--merge" :: (paths ++ [last])) (.merge paths) [last]
  | output {path : String} (hpath : path ∉ flagWords) : Takes accepts [path] (.output path) []

/-- What reads as a resizing is the spelling of one. -/
lemma takes_of_readResize (h : Argument.readResize rest = (.ok op, left)) :
    Takes accepts ("--resize" :: rest) op left := by
  cases rest with
  | nil => simp [Argument.readResize] at h
  | cons token rest =>
    obtain ⟨hop, rfl⟩ := Prod.mk.inj h
    obtain ⟨hflag, htokens⟩ := resizeOf_eq_ok_iff_spelled.1 hop
    exact .flag hflag htokens _

lemma takes_of_readQuality (h : Argument.readQuality rest = (.ok op, left)) :
    Takes accepts ("--quality" :: rest) op left := by
  cases rest with
  | nil => simp [Argument.readQuality] at h
  | cons token rest =>
    obtain ⟨hop, rfl⟩ := Prod.mk.inj h
    obtain ⟨hflag, htokens⟩ := qualityOf_eq_ok_iff_spelled.1 hop
    exact .flag hflag htokens _

/-- What reads as a merge is the spelling of one, with accepted paths. -/
lemma takes_of_readMerge (h : Argument.readMerge accepts rest = (.ok op, left)) :
    Takes accepts ("--merge" :: rest) op left := by
  rcases List.eq_nil_or_concat rest with rfl | ⟨paths, last, rfl⟩
  · simp [Argument.readMerge] at h
  · rw [List.concat_eq_append] at h ⊢
    simp only [Argument.readMerge, List.dropLast_concat, List.drop_left] at h
    split at h
    · simp at h
    · next hfind =>
      split_ifs at h with hfew
      · simp at h
      · obtain ⟨hop, rfl⟩ := Prod.mk.inj h
        obtain rfl := Except.ok.inj hop
        rw [List.find?_eq_none] at hfind
        exact .merge (Nat.not_lt.1 hfew) (fun p hp => by simpa using hfind p hp) last

/-- What is read stands at the front of the tokens. -/
lemma takes_of_readOperation (h : Argument.readOperation accepts token rest = (.ok op, left)) :
    Takes accepts (token :: rest) op left := by
  unfold Argument.readOperation at h
  split_ifs at h with hresize hquality hpreview hmerge
  · exact hresize ▸ takes_of_readResize h
  · exact hquality ▸ takes_of_readQuality h
  · obtain ⟨hop, rfl⟩ := Prod.mk.inj h
    obtain rfl := Except.ok.inj hop
    exact hpreview ▸ .flag .preview .preview rest
  · exact hmerge ▸ takes_of_readMerge h
  · obtain ⟨hop, rfl⟩ := Prod.mk.inj h
    unfold Argument.outputOf at hop
    split_ifs at hop with hrest
    obtain rfl := Except.ok.inj hop
    rw [List.isEmpty_iff.1 hrest]
    exact .output (by simp [flagWords, hresize, hquality, hpreview, hmerge])

/-- What stands at the front of the tokens is read. -/
lemma Takes.readOperation (h : Takes accepts ts op left) : ∃ token rest, ts = token :: rest ∧
    Argument.readOperation accepts token rest = (.ok op, left) := by
  cases h with
  | flag hflag htokens =>
    cases htokens with
    | resize hw hh =>
      refine ⟨_, _, rfl, ?_⟩
      have hop := resizeOf_eq_ok_iff_spelled.2 ⟨hflag, .resize hw hh⟩
      simp [Argument.readOperation, Argument.readResize, hop]
    | quality hs =>
      refine ⟨_, _, rfl, ?_⟩
      have hop := qualityOf_eq_ok_iff_spelled.2 ⟨hflag, .quality hs⟩
      simp [Argument.readOperation, Argument.readQuality, hop]
    | preview => exact ⟨_, _, rfl, rfl⟩
    | merge paths => cases hflag
    | output path => cases hflag
  | @merge paths hpaths haccepts last =>
    refine ⟨_, _, rfl, ?_⟩
    have hfind : paths.find? (!accepts ·) = none := by
      simpa [List.find?_eq_none] using haccepts
    simp [Argument.readOperation, Argument.readMerge, hfind, Nat.not_lt.2 hpaths]
  | output hpath =>
    refine ⟨_, _, rfl, ?_⟩
    simp only [flagWords, List.mem_cons, List.not_mem_nil, or_false, not_or] at hpath
    simp [Argument.readOperation, Argument.outputOf, hpath]

/-- After a merge only an output path or a preview can be read. -/
lemma Takes.of_singleton (h : Takes accepts [token] op left) :
    left = [] ∧ (token ∉ flagWords ∧ op = .output token ∨
      token = "--preview" ∧ op = .execution .preview) := by
  generalize hts : [token] = ts at h
  cases h with
  | flag hflag htokens =>
    cases htokens with
    | resize => simp at hts
    | quality => simp at hts
    | preview =>
      obtain ⟨rfl, rfl⟩ := List.cons.inj hts
      exact ⟨rfl, .inr ⟨rfl, rfl⟩⟩
    | merge => cases hflag
    | output => cases hflag
  | merge hpaths =>
    have hlength := congrArg List.length hts
    simp at hlength
  | output hpath =>
    obtain rfl := List.singleton_inj.1 hts
    exact ⟨rfl, .inl ⟨hpath, rfl⟩⟩

/-! ### Whole command lines -/

/-- Operations stand one after the other, and no token is left. -/
inductive TakesAll (accepts : String → Bool) : List String → List Operation → Prop
  | nil : TakesAll accepts [] []
  | cons {ts left : List String} {op : Operation} {ops : List Operation}
    (hop : Takes accepts ts op left) (hops : TakesAll accepts left ops) :
    TakesAll accepts ts (op :: ops)

/-- The operations that were read, unless a failure stopped them. -/
def Progress.result (p : Progress) : Except Failure (List Operation) :=
  match p.failure with
  | some e => .error e
  | none => .ok p.operations

lemma parseArguments_cons :
    parseArguments accepts (program :: ts) = (Progress.ofTokens accepts ts).result := by
  unfold parseArguments Arguments.readAll Progress.result
  dsimp only [Arguments.ofTokens, Pending.nextOr, Pending.next?]
  cases (Progress.ofTokens accepts ts).failure <;> rfl

lemma Progress.result_cons {p : Progress} :
    Progress.result { p with operations := op :: p.operations } = p.result.map (op :: ·) := by
  unfold Progress.result
  cases p.failure <;> rfl

/-- What is read from a command line is what is spelled there. -/
lemma takesAll_of_result (h : (Progress.ofTokens accepts ts).result = .ok ops) :
    TakesAll accepts ts ops := by
  fun_induction Progress.ofTokens accepts ts generalizing ops with
  | case1 =>
    obtain rfl := Except.ok.inj h
    exact .nil
  | case2 token rest e left hread => nomatch h
  | case3 token rest op left hread progress =>
    rename_i ih
    rw [Progress.result_cons] at h
    cases hrest : progress.result with
    | error e => simp [hrest, Except.map] at h
    | ok ops' =>
      rw [hrest] at h
      obtain rfl := Except.ok.inj h
      exact .cons (takes_of_readOperation hread) (ih hrest)

/-- After an operation that stands at the front, the tokens behind it are read. -/
lemma Takes.result_ofTokens (h : Takes accepts ts op left) :
    (Progress.ofTokens accepts ts).result
      = (Progress.ofTokens accepts left).result.map (op :: ·) := by
  obtain ⟨token, rest, rfl, hread⟩ := h.readOperation
  rw [Progress.ofTokens]
  split
  · next herror => simp [hread] at herror
  · next hok =>
    obtain ⟨heq, rfl⟩ := Prod.mk.inj (hread.symm.trans hok)
    obtain rfl := Except.ok.inj heq
    exact Progress.result_cons

/-- A token at which reading fails ends it. -/
lemma result_of_readOperation
    (h : Argument.readOperation accepts token rest = (.error e, left)) :
    (Progress.ofTokens accepts (token :: rest)).result = .error e := by
  rw [Progress.ofTokens]
  split
  · next herror =>
    obtain ⟨herror, -⟩ := Prod.mk.inj (h.symm.trans herror)
    obtain rfl := Except.error.inj herror
    rfl
  · next hok => cases h.symm.trans hok

/-- What is spelled in a command line is read from it. -/
lemma TakesAll.result (h : TakesAll accepts ts ops) :
    (Progress.ofTokens accepts ts).result = .ok ops := by
  induction h with
  | nil =>
    rw [Progress.ofTokens]
    rfl
  | cons hop hops ih =>
    rw [hop.result_ofTokens, ih]
    rfl

/-- A command line gives just the operations that stand on it one after the other. -/
lemma parseArguments_eq_ok_iff : parseArguments accepts ts = .ok ops ↔
    ∃ program tokens, ts = program :: tokens ∧ TakesAll accepts tokens ops := by
  cases ts with
  | nil =>
    constructor
    · nofun
    · rintro ⟨_, _, heq, -⟩
      nomatch heq
  | cons program tokens =>
    rw [parseArguments_cons]
    constructor
    · intro h
      exact ⟨program, tokens, rfl, takesAll_of_result h⟩
    · rintro ⟨_, _, heq, h⟩
      obtain ⟨rfl, rfl⟩ := List.cons.inj heq
      exact h.result

/-- Nothing but a path on a command line is its output path. -/
lemma parseArguments_output (program : String) {path : String} (hpath : path ∉ flagWords) :
    parseArguments accepts [program, path] = .ok [.output path] :=
  parseArguments_eq_ok_iff.2 ⟨program, [path], rfl, .cons (.output hpath) .nil⟩

end Montage
