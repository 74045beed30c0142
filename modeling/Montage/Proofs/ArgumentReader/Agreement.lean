import Montage.Proofs.ArgumentReader
import Montage.Proofs.Arguments.Resumption

/-!
# Readers and command lines agree

A reader that takes its tokens one by one gives what `Arguments` gives, which looks at all tokens
that are left: the same operations or the same failure, with the same tokens left. So what is known
of command lines holds for readers, whatever they are asked for.
-/

namespace Montage.ArgumentReader

variable {existing accepts : String → Bool} {r next last : ArgumentReader} {token : String}
  {more left : List String} {op : Operation} {e : Failure}

/-! ### Values -/

lemma next?_of_rest_eq_cons (h : r.cursor.rest = token :: more) :
    r.next? = (some token, r.skip 1) :=
  Prod.ext (r.cursor.fst_next?.trans (congrArg List.head? h)) rfl

lemma nextOr_of_rest_eq_nil (h : r.cursor.rest = []) (f : ArgumentFault) :
    r.nextOr f = (.error (.argument f), r) := by
  have hcursor : r.cursor.nextOr (Failure.argument f) = (.error (.argument f), r.cursor) := by
    rw [Cursor.nextOr, if_pos (r.within.left_eq_zero_iff.2 h)]
  refine Prod.ext ?_ ?_
  · unfold nextOr
    dsimp only
    split
    · next token? hok =>
      rw [hcursor] at hok
      cases hok
    · next e herror =>
      rw [hcursor] at herror
      exact congrArg Except.error (Except.error.inj herror).symm
  · obtain ⟨c, hc, checks, parsed⟩ := r
    simp only [nextOr, hcursor]

/-- While tokens are left, taking the next one does not fail. -/
lemma nextOr_of_rest_eq_cons (h : r.cursor.rest = token :: more) (f : ArgumentFault) :
    r.nextOr f = (.ok token, r.skip 1) := by
  have hcursor : r.cursor.nextOr (Failure.argument f) = (.ok (some token), r.cursor.next?.2) := by
    rw [r.within.nextOr_eq, Cursor.pending, h]
    rfl
  refine Prod.ext ?_ ?_
  · unfold nextOr
    dsimp only
    split
    · next token? hok =>
      rw [hcursor] at hok
      obtain rfl := Except.ok.inj hok
      rfl
    · next e herror =>
      rw [hcursor] at herror
      cases herror
  · obtain ⟨c, hc, checks, parsed⟩ := r
    simp only [nextOr, hcursor]
    rfl

/-- A reader gives what is expected of the tokens that are left to it, and changes nothing else. -/
structure Gives (r : ArgumentReader) (result : Except Failure Operation × ArgumentReader)
    (expected : Except Failure Operation × List String) : Prop where
  fst_eq : result.1 = expected.1
  rest_eq : result.2.cursor.rest = expected.2
  parsed_eq : result.2.parsed = r.parsed
  checksPaths_eq : result.2.checksPaths = r.checksPaths

/-- A flag takes the token behind it, or fails without one. -/
lemma gives_value (r : ArgumentReader) (f : ArgumentFault)
    (read : String → Except Failure Operation) :
    r.Gives ((r.nextOr f).map (· >>= read) id)
      (match r.cursor.rest with
        | [] => (.error (.argument f), [])
        | token :: more => (read token, more)) := by
  cases h : r.cursor.rest with
  | nil =>
    rw [nextOr_of_rest_eq_nil h]
    exact ⟨rfl, h, rfl, rfl⟩
  | cons token more =>
    rw [nextOr_of_rest_eq_cons h]
    refine ⟨rfl, ?_, rfl, rfl⟩
    rw [Prod.map_snd, id, rest_skip, h]
    rfl

lemma gives_readResize (r : ArgumentReader) :
    r.Gives r.readResize (Argument.readResize r.cursor.rest) :=
  r.gives_value .noDimensions Argument.resizeOf

lemma gives_readQuality (r : ArgumentReader) :
    r.Gives r.readQuality (Argument.readQuality r.cursor.rest) :=
  r.gives_value .noQuality Argument.qualityOf

/-! ### Operations -/

/-- The first path that is not accepted is where dropping accepted ones stops. -/
lemma dropWhile_eq_drop {accepts : String → Bool} {ts : List String} {i : Nat}
    (hi : i < ts.length) (hbefore : ∀ p ∈ ts.take i, accepts p) (hpath : ¬ accepts ts[i]) :
    ts.dropWhile accepts = ts.drop i :=
  calc ts.dropWhile accepts
    _ = (ts.take i ++ ts.drop i).dropWhile accepts := by rw [List.take_append_drop]
    _ = (ts.drop i).dropWhile accepts := List.dropWhile_append_of_pos hbefore
    _ = ts.drop i := by rw [List.drop_eq_getElem_cons hi, List.dropWhile_cons_of_neg hpath]

/-- The first path that is not accepted is found if it is not the last token. -/
lemma find?_dropLast_eq_some {accepts : String → Bool} {ts : List String} {i : Nat}
    (hi : i < ts.length) (hlast : i + 1 < ts.length) (hbefore : ∀ p ∈ ts.take i, accepts p)
    (hpath : ¬ accepts ts[i]) : ts.dropLast.find? (!accepts ·) = some ts[i] := by
  have hlt : i < ts.dropLast.length := by
    rw [List.length_dropLast]
    omega
  refine List.find?_eq_some_iff_getElem.2 ⟨?_, i, hlt, List.getElem_dropLast _, fun j hj => ?_⟩
  · rw [Bool.eq_false_iff.2 hpath, Bool.not_false]
  · have hmem : ts[j] ∈ ts.take i := List.mem_take_iff_getElem.2 ⟨j, by omega, rfl⟩
    rw [List.getElem_dropLast, hbefore _ hmem, Bool.not_not]

/-- Gathering paths one by one gives what all tokens together give. -/
lemma gives_readMerge (existing : String → Bool) (r : ArgumentReader) :
    r.Gives (r.readMerge existing)
      (Argument.readMerge (r.accepts existing) r.cursor.rest) := by
  unfold Argument.readMerge
  dsimp only
  obtain haccepted | ⟨i, hi, hbefore, hpath⟩ :=
    accepted_or_missing (r.accepts existing) r.cursor.rest
  · have hnone : r.cursor.rest.dropLast.find? (!r.accepts existing ·) = none := by
      simpa using haccepted
    rw [readMerge_of_accepted haccepted, hnone]
    dsimp only
    rw [mergeOf, List.length_dropLast]
    split_ifs <;> exact ⟨rfl, r.rest_skip _, r.parsed_skip _, r.checksPaths_skip _⟩
  · have hlt : i < r.cursor.rest.length := Nat.lt_of_succ_lt hi
    rw [readMerge_of_missing hi hbefore hpath, find?_dropLast_eq_some hlt hi hbefore hpath,
      dropWhile_eq_drop hlt hbefore hpath, List.tail_drop]
    exact ⟨rfl, r.rest_skip _, r.parsed_skip _, r.checksPaths_skip _⟩

lemma gives_readOutput (r : ArgumentReader) (token : String) :
    r.Gives (r.readOutput token) (Argument.outputOf token r.cursor.rest, r.cursor.rest) := by
  refine ⟨?_, rfl, rfl, rfl⟩
  rw [readOutput, Argument.outputOf, left_eq]
  cases r.cursor.rest with
  | nil => rfl
  | cons token more => exact if_pos (by rw [List.length_cons]; omega)

/-- The operation that a token starts. -/
lemma gives_readOperation (existing : String → Bool) (token : String) (r : ArgumentReader) :
    r.Gives (r.readOperation existing token)
      (Argument.readOperation (r.accepts existing) token r.cursor.rest) := by
  unfold readOperation Argument.readOperation
  split_ifs
  · exact r.gives_readResize
  · exact r.gives_readQuality
  · exact ⟨rfl, rfl, rfl, rfl⟩
  · exact r.gives_readMerge existing
  · exact r.gives_readOutput token

/-! ### Command lines -/

/-- The first operation that fails ends the reading of a command line. -/
lemma ofTokens_of_error (h : Argument.readOperation accepts token more = (.error e, left)) :
    Progress.ofTokens accepts (token :: more) = ⟨[], some e, left⟩ := by
  rw [Progress.ofTokens]
  split
  · next herror =>
    obtain ⟨heq, rfl⟩ := Prod.mk.inj (h.symm.trans herror)
    obtain rfl := Except.error.inj heq
    rfl
  · next hok => cases h.symm.trans hok

/-- Reading goes on with the tokens that an operation leaves. -/
lemma ofTokens_of_ok (h : Argument.readOperation accepts token more = (.ok op, left)) :
    Progress.ofTokens accepts (token :: more)
      = { Progress.ofTokens accepts left with
          operations := op :: (Progress.ofTokens accepts left).operations } := by
  rw [Progress.ofTokens]
  split
  · next herror => cases h.symm.trans herror
  · next hok =>
    obtain ⟨heq, rfl⟩ := Prod.mk.inj (h.symm.trans hok)
    obtain rfl := Except.ok.inj heq
    rfl

/-- A reader gives the operations read before and those of the tokens that are left to it, up to a
failure. -/
structure GivesAll (r : ArgumentReader) (result : Except Failure (List Operation) × ArgumentReader)
    (progress : Progress) : Prop where
  fst_eq : result.1 = match progress.failure with
    | some e => .error e
    | none => .ok (r.parsed ++ progress.operations)
  rest_eq : result.2.cursor.rest = progress.left
  parsed_eq : result.2.parsed = r.parsed ++ progress.operations
  checksPaths_eq : result.2.checksPaths = r.checksPaths

/-- An operation that was read stands in front of what is read behind it. -/
lemma GivesAll.cons {result : Except Failure (List Operation) × ArgumentReader}
    {progress : Progress} (h : next.GivesAll result progress)
    (hparsed : next.parsed = r.parsed ++ [op]) (hchecks : next.checksPaths = r.checksPaths) :
    r.GivesAll result { progress with operations := op :: progress.operations } where
  fst_eq := by
    rw [h.fst_eq, hparsed, List.append_assoc]
    rfl
  rest_eq := h.rest_eq
  parsed_eq := by
    rw [h.parsed_eq, hparsed, List.append_assoc]
    rfl
  checksPaths_eq := h.checksPaths_eq.trans hchecks

/-- What a reader does behind a token is what an operation does that starts with it. -/
lemma readOperation_of_next? {result : Except Failure Operation}
    (hnext : r.next? = (some token, next))
    (hread : next.readOperation existing token = (result, last)) :
    ∃ more, r.cursor.rest = token :: more ∧
      Argument.readOperation (r.accepts existing) token more = (result, last.cursor.rest) ∧
      last.parsed = r.parsed ∧ last.checksPaths = r.checksPaths := by
  cases hrest : r.cursor.rest with
  | nil => nomatch (next?_of_rest_eq_nil hrest).symm.trans hnext
  | cons first more =>
    obtain ⟨htoken, rfl⟩ := Prod.mk.inj ((next?_of_rest_eq_cons hrest).symm.trans hnext)
    obtain rfl := Option.some.inj htoken
    have hgives := (r.skip 1).gives_readOperation existing first
    rw [hread, accepts_skip, rest_skip, hrest, List.drop_one, List.tail_cons] at hgives
    exact ⟨more, rfl, Prod.ext hgives.fst_eq.symm hgives.rest_eq.symm, hgives.parsed_eq,
      hgives.checksPaths_eq⟩

/-- A reader goes through the rest of its tokens as a command line of them is read. -/
lemma givesAll_readRest (existing : String → Bool) (r : ArgumentReader) :
    r.GivesAll (r.readRest existing)
      (Progress.ofTokens (r.accepts existing) r.cursor.rest) := by
  fun_induction readRest existing r with
  | case1 r next hnext =>
    cases hrest : r.cursor.rest with
    | nil =>
      obtain ⟨-, rfl⟩ := Prod.mk.inj ((next?_of_rest_eq_nil hrest).symm.trans hnext)
      rw [Progress.ofTokens]
      have hparsed := (List.append_nil r.parsed).symm
      exact ⟨congrArg Except.ok hparsed, hrest, hparsed, rfl⟩
    | cons token more => cases (next?_of_rest_eq_cons hrest).symm.trans hnext
  | case2 r token next hnext e last hread =>
    obtain ⟨more, hrest, hread, hparsed, hchecks⟩ := readOperation_of_next? hnext hread
    rw [hrest, ofTokens_of_error hread]
    exact ⟨rfl, rfl, hparsed.trans (List.append_nil r.parsed).symm, hchecks⟩
  | case3 r token next hnext op last hread ih =>
    obtain ⟨more, hrest, hread, hparsed, hchecks⟩ := readOperation_of_next? hnext hread
    have haccepts : accepts existing { last with parsed := last.parsed ++ [op] }
        = r.accepts existing := accepts_congr hchecks
    rw [haccepts] at ih
    rw [hrest, ofTokens_of_ok hread]
    exact ih.cons (congrArg (· ++ [op]) hparsed) hchecks

/-! ### Calls -/

def arguments (r : ArgumentReader) : Arguments := ⟨r.cursor.pending, r.parsed⟩

/-- What a reader answers, and what is left to it, are what a command line gives. -/
structure Agrees {α : Type} (r : ArgumentReader) (result : Except Failure α × ArgumentReader)
    (expected : Except Failure α × Arguments) : Prop where
  fst_eq : result.1 = expected.1
  arguments_eq : result.2.arguments = expected.2
  checksPaths_eq : result.2.checksPaths = r.checksPaths

/-- A reader reads on to the end as a command line does. -/
lemma agrees_readAll (existing : String → Bool) (r : ArgumentReader) :
    r.Agrees (r.readAll existing) (r.arguments.readAll (r.accepts existing)) := by
  rw [readAll, arguments, Cursor.pending]
  cases hrest : r.cursor.rest with
  | nil =>
    have harguments : r.arguments = ⟨⟨[]⟩, r.parsed⟩ := by rw [arguments, Cursor.pending, hrest]
    rw [nextOr_of_rest_eq_nil hrest]
    exact ⟨rfl, harguments, rfl⟩
  | cons program more =>
    have hgives := (r.skip 1).givesAll_readRest existing
    rw [accepts_skip, rest_skip, hrest, List.drop_one, List.tail_cons] at hgives
    rw [nextOr_of_rest_eq_cons hrest, Arguments.readAll_cons]
    refine ⟨hgives.fst_eq, ?_, hgives.checksPaths_eq⟩
    rw [arguments, Cursor.pending, hgives.rest_eq, hgives.parsed_eq]
    rfl

lemma Gives.agrees {result : Except Failure Operation × ArgumentReader}
    {expected : Except Failure Operation × List String} (h : r.Gives result expected) :
    r.Agrees (result.map (·.map Arguments.Answer.operation) id)
      (expected.1.map .operation, ⟨⟨expected.2⟩, r.parsed⟩) where
  fst_eq := congrArg (Except.map Arguments.Answer.operation) h.fst_eq
  arguments_eq := by
    rw [Prod.map_snd, id, arguments, Cursor.pending, h.rest_eq, h.parsed_eq]
  checksPaths_eq := h.checksPaths_eq

def call (existing : String → Bool) (r : ArgumentReader) :
    Arguments.Call → Except Failure Arguments.Answer × ArgumentReader
  | .operations => (r.readAll existing).map (·.map .operations) id
  | .resize => r.readResize.map (·.map .operation) id
  | .quality => r.readQuality.map (·.map .operation) id
  | .preview => (.ok (.operation (.execution .preview)), r)
  | .merge => (r.readMerge existing).map (·.map .operation) id
  | .output path => (r.readOutput path).map (·.map .operation) id
  | .acceptance path => ((Argument.acceptedPath (r.accepts existing) path).map .path, r)

/-- Whatever a reader is asked for, it answers like the command line that it has yet to read, and
the same is left of both. -/
theorem agrees_call (existing : String → Bool) (r : ArgumentReader) (c : Arguments.Call) :
    r.Agrees (r.call existing c) (r.arguments.call (r.accepts existing) c) := by
  cases c with
  | operations =>
    obtain ⟨hresult, harguments, hchecks⟩ := r.agrees_readAll existing
    exact ⟨congrArg (Except.map Arguments.Answer.operations) hresult, harguments, hchecks⟩
  | resize => exact r.gives_readResize.agrees
  | quality => exact r.gives_readQuality.agrees
  | merge => exact (r.gives_readMerge existing).agrees
  | output path => exact (r.gives_readOutput path).agrees
  | preview | acceptance => exact ⟨rfl, rfl, rfl⟩

def after (existing : String → Bool) (r : ArgumentReader) (calls : List Arguments.Call) :
    ArgumentReader :=
  calls.foldl (fun r c => (r.call existing c).2) r

/-- So do all calls together: however a reader gets to where it stands, it has yet to read what a
command line has after the same calls. -/
theorem arguments_after (existing : String → Bool) (r : ArgumentReader)
    (calls : List Arguments.Call) :
    (r.after existing calls).arguments = r.arguments.after (r.accepts existing) calls ∧
    (r.after existing calls).checksPaths = r.checksPaths := by
  induction calls generalizing r with
  | nil => exact ⟨rfl, rfl⟩
  | cons c calls ih =>
    have hcall := r.agrees_call existing c
    obtain ⟨harguments, hchecks⟩ := ih (r.call existing c).2
    rw [hcall.arguments_eq, accepts_congr hcall.checksPaths_eq] at harguments
    exact ⟨harguments, hchecks.trans hcall.checksPaths_eq⟩

/-! ### Reading on -/

/-- A fresh reader has the whole command line to read. -/
lemma arguments_ofTokens (checksPaths : Bool) (ts : List String) :
    (ofTokens checksPaths ts).arguments = .ofTokens ts := by
  rw [arguments, Cursor.pending, ofTokens, Cursor.rest_ofList]
  rfl

/-- A reader resumes where it stopped. Whatever it was asked for, the tokens left to it are a part
of the end of the command line, and reading on gives what a fresh reader of them gives: the same
failure, or its operations behind those read before; the same tokens are left, and its operations
join those read before. If it fails, these are the operations in front of the failing one. All other
calls leave the operations alone, and no call puts a token back. -/
theorem resumes_after (existing : String → Bool) (checksPaths : Bool) (ts : List String)
    (calls : List Arguments.Call) :
    let r := (ofTokens checksPaths ts).after existing calls
    let resumed := r.readAll existing
    let fresh := (ofTokens checksPaths r.cursor.rest).readAll existing
    r.cursor.rest <:+ ts ∧
    resumed.1 = fresh.1.map (r.parsed ++ ·) ∧
    resumed.2.cursor.rest = fresh.2.cursor.rest ∧
    resumed.2.cursor.left = fresh.2.cursor.left ∧
    resumed.2.parsed = r.parsed ++ fresh.2.parsed ∧
    (∀ e, fresh.1 = .error e →
      FailsBehind (r.accepts existing) r.cursor.rest fresh.2.parsed e fresh.2.cursor.rest) ∧
    (∀ c, c ≠ .operations → (r.call existing c).2.parsed = r.parsed) ∧
    ∀ c, (r.call existing c).2.cursor.left ≤ r.cursor.left := by
  intro r resumed fresh
  obtain ⟨hr, hchecks⟩ := (ofTokens checksPaths ts).arguments_after existing calls
  have haccepts : ∀ ts, (ofTokens checksPaths ts).accepts existing = r.accepts existing :=
    fun _ => accepts_congr hchecks.symm
  rw [arguments_ofTokens, haccepts] at hr
  -- what is known of command lines is carried over, for the reader and for the fresh one
  have hresumed := r.agrees_readAll existing
  have hfresh := (ofTokens checksPaths r.cursor.rest).agrees_readAll existing
  rw [arguments_ofTokens, haccepts] at hfresh
  have hcall := r.agrees_call existing
  have hafter := Arguments.readAll_after (r.accepts existing) ts calls
  rw [← hr] at hafter
  obtain ⟨hsuffix, hresult, htokens, hparsed, hfails, hcalls, hleft⟩ := hafter
  have hrest : resumed.2.cursor.rest = fresh.2.cursor.rest := by
    have h : resumed.2.arguments.tokens = fresh.2.arguments.tokens := by
      rw [hresumed.arguments_eq, hfresh.arguments_eq]
      exact htokens
    exact congrArg Pending.items h
  refine ⟨hsuffix, ?_, hrest, ?_, ?_, ?_, ?_, ?_⟩
  · rw [hresumed.fst_eq, hfresh.fst_eq]
    exact hresult
  · rw [left_eq, left_eq, hrest]
  · have h : resumed.2.arguments.parsed = r.parsed ++ fresh.2.arguments.parsed := by
      rw [hresumed.arguments_eq, hfresh.arguments_eq]
      exact hparsed
    exact h
  · intro e he
    rw [hfresh.fst_eq] at he
    have h : FailsBehind (r.accepts existing) r.cursor.rest fresh.2.arguments.parsed e
        fresh.2.arguments.tokens.items := by
      rw [hfresh.arguments_eq]
      exact hfails e he
    exact h
  · intro c hc
    have h : (r.call existing c).2.arguments.parsed = r.parsed := by
      rw [(hcall c).arguments_eq]
      exact hcalls c hc
    exact h
  · intro c
    have h : (r.call existing c).2.arguments.tokens.left ≤ r.arguments.tokens.left := by
      rw [(hcall c).arguments_eq]
      exact hleft c
    rw [left_eq, left_eq]
    exact Int.ofNat_le.2 h

end Montage.ArgumentReader
