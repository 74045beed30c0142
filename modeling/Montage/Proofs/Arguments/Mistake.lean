import Mathlib.Data.List.Basic
import Mathlib.Logic.ExistsUnique
import Montage.Proofs.Arguments.Failure

/-!
# Mistakes on a command line

Which command lines are not read, and why. The flags that can be read are cut off at the front, as
many as there are; what is left then shows the mistake, and each mistake has its own report.
-/

namespace Montage

variable {token : String} {ts rest rest' left tokens : List String}
  {segment segment' : List String} {segments segments' : List (List String)}
  {fault : ArgumentFault} {e : Failure}

/-! ### Cutting off segments -/

/-- The flag at the start of a command line is unique. -/
lemma IsSegment.eq_of_append_eq (h : IsSegment segment) (h' : IsSegment segment')
    (heq : segment ++ rest = segment' ++ rest') : segment = segment' ∧ rest = rest' := by
  obtain rfl | ⟨value, rfl | rfl⟩ := h.shape <;>
    obtain rfl | ⟨value', rfl | rfl⟩ := h'.shape <;> simp_all

/-- The first token of a flag is its word. -/
lemma IsSegment.head_mem (h : IsSegment segment) (heq : token :: rest = segment ++ left) :
    token ∈ flagWords := by
  obtain rfl | ⟨value, rfl | rfl⟩ := h.shape
  all_goals
    obtain ⟨rfl, -⟩ := List.cons.inj heq
    simp [flagWords]

lemma IsSegment.eq_of_value (h : IsSegment segment) {word value : String}
    (hword : word ≠ "--preview") (heq : word :: value :: rest = segment ++ left) :
    segment = [word, value] := by
  obtain rfl | ⟨value, rfl | rfl⟩ := h.shape
  · exact absurd (List.cons.inj heq).1 hword
  all_goals
    simp only [List.cons_append, List.cons.injEq] at heq
    rw [heq.1, heq.2.1]

/-- If no segment starts the rest, there are no other segments in front of it. -/
lemma prefix_of_flatten_append_eq (h : ∀ s ∈ segments, IsSegment s)
    (h' : ∀ s ∈ segments', IsSegment s) (hrest : ∀ s left, IsSegment s → rest ≠ s ++ left)
    (heq : segments'.flatten ++ rest' = segments.flatten ++ rest) : segments' <+: segments := by
  -- no segment is the beginning of another, so both cuts agree as long as both have segments
  induction segments' generalizing segments with
  | nil => exact List.nil_prefix
  | cons s' segments' ih =>
    rw [List.forall_mem_cons] at h'
    rw [List.flatten_cons, List.append_assoc] at heq
    cases segments with
    | nil => exact absurd heq.symm (hrest s' _ h'.1)
    | cons s segments =>
      rw [List.forall_mem_cons] at h
      rw [List.flatten_cons, List.append_assoc] at heq
      obtain ⟨rfl, htail⟩ := h'.1.eq_of_append_eq h.1 heq
      exact List.cons_prefix_cons.2 ⟨rfl, ih h.2 h'.2 htail⟩

/-- Tokens are cut into the segments at their front, as many as there are, and a rest. -/
structure IsCut (tokens : List String) (segments : List (List String)) (rest : List String) :
    Prop where
  tokens_eq : tokens = segments.flatten ++ rest
  isSegment : ∀ s ∈ segments, IsSegment s
  longest : ∀ segments' rest', tokens = segments'.flatten ++ rest' →
    (∀ s ∈ segments', IsSegment s) → segments' <+: segments

/-- The longest run of flags at the start of a command line is unique. -/
lemma IsCut.unique (h : IsCut tokens segments rest) (h' : IsCut tokens segments' rest') :
    segments = segments' ∧ rest = rest' := by
  have hle := h'.longest _ _ h.tokens_eq h.isSegment
  have hge := h.longest _ _ h'.tokens_eq h'.isSegment
  obtain rfl : segments = segments' := hle.eq_of_length_le hge.length_le
  exact ⟨rfl, List.append_cancel_left (h.tokens_eq.symm.trans h'.tokens_eq)⟩

/-! ### Mistakes -/

/-- What is wrong with tokens at the front of which no flag can be read. The token after the paths
of a merge is taken for a flag at the end of the command line. -/
inductive Mistake : List String → ArgumentFault → Prop
  | noDimensions : Mistake ["--resize"] .noDimensions
  | noQuality : Mistake ["--quality"] .noQuality
  | dimensionCount {value : String} (hvalue : value.toList.count ':' ≠ 1) (rest : List String) :
    Mistake ("--resize" :: value :: rest) (.dimensionCount value)
  | dimensionValue {value : String} (hcount : value.toList.count ':' = 1)
    (hvalue : ¬ IsSegment ["--resize", value]) (rest : List String) :
    Mistake ("--resize" :: value :: rest) (.dimensionValue value)
  | qualityValue {value : String} (hvalue : ¬ IsSegment ["--quality", value])
    (rest : List String) : Mistake ("--quality" :: value :: rest) (.qualityValue value)
  | tooFewPaths {following : List String} (h : following.length ≤ 2) :
    Mistake ("--merge" :: following) (.tooFewPaths following.dropLast)
  | unknown {token : String} (h : token ∉ flagWords) (next : String) (rest : List String) :
    Mistake (token :: next :: rest) (.unknown token)
  | afterMerge {paths : List String} {last : String} {fault : ArgumentFault}
    (hpaths : 2 ≤ paths.length) (hlast : Mistake [last] fault) :
    Mistake ("--merge" :: (paths ++ [last])) fault

/-! ### Values that are not read -/

/-- A value is not one of a resizing just when it does not read as one. -/
lemma not_isSegment_resize_iff :
    ¬ IsSegment ["--resize", token] ↔ ∃ e, Argument.resizeOf token = .error e := by
  rw [← not_exists_ok_iff]
  exact not_congr (exists_congr fun op => resizeOf_eq_ok_iff_spelled.symm)

lemma not_isSegment_quality_iff :
    ¬ IsSegment ["--quality", token] ↔ ∃ e, Argument.qualityOf token = .error e := by
  rw [← not_exists_ok_iff]
  exact not_congr (exists_congr fun op => qualityOf_eq_ok_iff_spelled.symm)

/-! ### Where reading stops -/

/-- The failure is that of a mistake, or a numeral has too many digits. -/
def FailsAt (ts : List String) (e : Failure) : Prop :=
  (∃ f, e = .number f) ∨ ∃ fault, e = .argument fault ∧ Mistake ts fault

lemma failsAt_of_readResize (h : Argument.readResize rest = (.error e, left)) :
    FailsAt ("--resize" :: rest) e := by
  cases rest with
  | nil =>
    obtain rfl := Except.error.inj (Prod.mk.inj h).1
    exact .inr ⟨_, rfl, .noDimensions⟩
  | cons value rest =>
    have herror : Argument.resizeOf value = .error e := (Prod.mk.inj h).1
    by_cases hcount : value.toList.count ':' = 1
    · obtain hnumber | rfl := resizeOf_eq_error_of_count hcount herror
      · exact .inl hnumber
      · exact .inr ⟨_, rfl, .dimensionValue hcount (not_isSegment_resize_iff.2 ⟨_, herror⟩) rest⟩
    · rw [resizeOf_of_count_ne hcount] at herror
      obtain rfl := Except.error.inj herror
      exact .inr ⟨_, rfl, .dimensionCount hcount rest⟩

lemma failsAt_of_readQuality (h : Argument.readQuality rest = (.error e, left)) :
    FailsAt ("--quality" :: rest) e := by
  cases rest with
  | nil =>
    obtain rfl := Except.error.inj (Prod.mk.inj h).1
    exact .inr ⟨_, rfl, .noQuality⟩
  | cons value rest =>
    have herror : Argument.qualityOf value = .error e := (Prod.mk.inj h).1
    obtain hnumber | rfl := qualityOf_eq_error herror
    · exact .inl hnumber
    · exact .inr ⟨_, rfl, .qualityValue (not_isSegment_quality_iff.2 ⟨_, herror⟩) rest⟩

lemma readMerge_of_accepted (ts : List String) : (Argument.readMerge (fun _ => true) ts).1 =
    if ts.dropLast.length < 2 then .error (.argument (.tooFewPaths ts.dropLast))
    else .ok (.merge ts.dropLast) := by
  have hfind : ts.dropLast.find? (fun _ => !true) = none := by simp
  rw [Argument.readMerge, hfind]
  split_ifs <;> rfl

/-- A merge that cannot be read has too few paths. -/
lemma failsAt_of_readMerge (h : Argument.readMerge (fun _ => true) rest = (.error e, left)) :
    FailsAt ("--merge" :: rest) e := by
  have herror := congrArg Prod.fst h
  rw [readMerge_of_accepted] at herror
  split_ifs at herror with hfew
  obtain rfl := Except.error.inj herror
  rw [List.length_dropLast] at hfew
  exact .inr ⟨_, rfl, .tooFewPaths (by omega)⟩

/-- A token at which reading stops shows a mistake. -/
lemma failsAt_of_readOperation
    (h : Argument.readOperation (fun _ => true) token rest = (.error e, left)) :
    FailsAt (token :: rest) e := by
  unfold Argument.readOperation at h
  split_ifs at h with hresize hquality hpreview hmerge
  · exact hresize ▸ failsAt_of_readResize h
  · exact hquality ▸ failsAt_of_readQuality h
  · nomatch h
  · exact hmerge ▸ failsAt_of_readMerge h
  · have herror : Argument.outputOf token rest = .error e := (Prod.mk.inj h).1
    unfold Argument.outputOf at herror
    split_ifs at herror with hrest
    obtain rfl := Except.error.inj herror
    cases rest with
    | nil => exact absurd rfl hrest
    | cons next rest =>
      have hflag : token ∉ flagWords := by
        simp [flagWords, hresize, hquality, hpreview, hmerge]
      exact .inr ⟨_, rfl, .unknown hflag next rest⟩

/-- There is a token at each mistake. -/
lemma Mistake.ne_nil (h : Mistake ts fault) : ts ≠ [] := by
  cases h <;> simp

/-- No flag can be read where there is a mistake. -/
lemma Mistake.ne_segment_append (h : Mistake ts fault) (hsegment : IsSegment segment) :
    ts ≠ segment ++ left := by
  intro heq
  cases h with
  | unknown hflag next rest => exact hflag (hsegment.head_mem heq)
  | dimensionCount hvalue rest =>
    obtain rfl := hsegment.eq_of_value (by decide) heq
    exact not_isSegment_resize_iff.2 ⟨_, resizeOf_of_count_ne hvalue⟩ hsegment
  | dimensionValue hcount hvalue rest =>
    obtain rfl := hsegment.eq_of_value (by decide) heq
    exact hvalue hsegment
  | qualityValue hvalue rest =>
    obtain rfl := hsegment.eq_of_value (by decide) heq
    exact hvalue hsegment
  | noDimensions | noQuality | tooFewPaths | afterMerge =>
    obtain rfl | ⟨value, rfl | rfl⟩ := hsegment.shape <;> simp at heq

/-! ### Whole command lines -/

/-- Where reading fails there are flags, and then the tokens at which it stops. -/
lemma exists_failsAt_of_result (h : (Progress.ofTokens (fun _ => true) ts).result = .error e) :
    ∃ (segments : List (List String)) (rest : List String), ts = segments.flatten ++ rest ∧
      (∀ s ∈ segments, IsSegment s) ∧ FailsAt rest e := by
  fun_induction Progress.ofTokens (fun _ => true) ts with
  | case1 => cases h
  | case2 token rest e' left hread =>
    obtain rfl := Except.error.inj h
    exact ⟨[], _, rfl, by simp, failsAt_of_readOperation hread⟩
  | case3 token rest op left hread progress ih =>
    rw [Progress.result_cons, map_eq_error_iff] at h
    obtain ⟨segments, rest', heq, hsegments, hfails⟩ := ih h
    have htakes := takes_of_readOperation hread
    generalize token :: rest = ts at htakes
    cases htakes with
    | @flag op tokens hflag htokens =>
      refine ⟨tokens :: segments, rest', ?_, ?_, hfails⟩
      · rw [heq, List.flatten_cons, List.append_assoc]
      · exact List.forall_mem_cons.2 ⟨⟨op, hflag, htokens⟩, hsegments⟩
    | @merge paths hpaths haccepts last =>
      refine ⟨[], _, rfl, by simp, ?_⟩
      obtain hnumber | ⟨fault, rfl, hmistake⟩ := hfails
      · exact .inl hnumber
      · -- one token is left, and the rest is not empty, so there is no flag in front of it
        obtain ⟨hnil, rfl⟩ | ⟨-, hnil⟩ := List.append_eq_singleton_iff.1 heq.symm
        · exact .inr ⟨fault, rfl, .afterMerge hpaths hmistake⟩
        · exact absurd hnil hmistake.ne_nil
    | output hpath =>
      have hok : (Progress.ofTokens (fun _ => true) []).result = .ok [] := TakesAll.nil.result
      cases hok.symm.trans h

lemma readOperation_merge (ts : List String) :
    Argument.readOperation (fun _ => true) "--merge" ts = Argument.readMerge (fun _ => true) ts :=
  rfl

/-- A token that is no flag is read as the output path. -/
lemma readOperation_of_notMem (h : token ∉ flagWords) (ts : List String) :
    Argument.readOperation (fun _ => true) token ts = (Argument.outputOf token ts, ts) := by
  simp only [flagWords, List.mem_cons, List.not_mem_nil, or_false, not_or] at h
  simp [Argument.readOperation, h]

/-- A fault is reported, unless a numeral with too many digits comes before it. -/
def Reports (ts : List String) (fault : ArgumentFault) : Prop :=
  (Progress.ofTokens (fun _ => true) ts).result = .error (.argument fault) ∨
    ∃ f, (Progress.ofTokens (fun _ => true) ts).result = .error (.number f)

lemma reports_of_readOperation
    (h : Argument.readOperation (fun _ => true) token rest = (.error e, left))
    (he : (∃ f, e = .number f) ∨ e = .argument fault) : Reports (token :: rest) fault := by
  obtain ⟨f, rfl⟩ | rfl := he
  · exact .inr ⟨f, result_of_readOperation h⟩
  · exact .inl (result_of_readOperation h)

/-- A fault behind an operation is the fault of the whole. -/
lemma Takes.reports {op : Operation} (h : Takes (fun _ => true) ts op left)
    (hleft : Reports left fault) : Reports ts fault := by
  unfold Reports
  rw [h.result_ofTokens]
  obtain hresult | ⟨f, hresult⟩ := hleft
  · exact .inl (by rw [hresult]; rfl)
  · exact .inr ⟨f, by rw [hresult]; rfl⟩

/-- A mistake is reported as the fault that it is. -/
lemma Mistake.reports (h : Mistake ts fault) : Reports ts fault := by
  induction h with
  | noDimensions => exact reports_of_readOperation rfl (.inr rfl)
  | noQuality => exact reports_of_readOperation rfl (.inr rfl)
  | @dimensionCount value hvalue rest =>
    have hread := congrArg (·, rest) (resizeOf_of_count_ne hvalue)
    exact reports_of_readOperation ((readOperation_resize _ value rest).trans hread) (.inr rfl)
  | @dimensionValue value hcount hvalue rest =>
    obtain ⟨e, he⟩ := not_isSegment_resize_iff.1 hvalue
    have hread := (readOperation_resize (fun _ => true) value rest).trans (congrArg (·, rest) he)
    exact reports_of_readOperation hread (resizeOf_eq_error_of_count hcount he)
  | @qualityValue value hvalue rest =>
    obtain ⟨e, he⟩ := not_isSegment_quality_iff.1 hvalue
    have hread := (readOperation_quality (fun _ => true) value rest).trans (congrArg (·, rest) he)
    exact reports_of_readOperation hread (qualityOf_eq_error he)
  | @tooFewPaths following hfew =>
    have herror : (Argument.readMerge (fun _ => true) following).1
        = .error (.argument (.tooFewPaths following.dropLast)) := by
      rw [readMerge_of_accepted, List.length_dropLast, if_pos (by omega)]
    have hread : Argument.readMerge (fun _ => true) following
        = (.error (.argument (.tooFewPaths following.dropLast)),
          (Argument.readMerge (fun _ => true) following).2) := Prod.ext herror rfl
    exact reports_of_readOperation ((readOperation_merge following).trans hread) (.inr rfl)
  | @unknown token hflag next rest =>
    exact reports_of_readOperation (readOperation_of_notMem hflag (next :: rest)) (.inr rfl)
  | @afterMerge paths last fault hpaths hlast ih =>
    have htakes : Takes (fun _ => true) ("--merge" :: (paths ++ [last])) (.merge paths) [last] :=
      .merge hpaths (fun _ _ => rfl) last
    exact htakes.reports ih

/-- Flags in front of a mistake do not change its report. -/
lemma Mistake.reports_append (hmistake : Mistake rest fault) (h : ∀ s ∈ segments, IsSegment s) :
    Reports (segments.flatten ++ rest) fault := by
  induction segments with
  | nil => exact hmistake.reports
  | cons s segments ih =>
    rw [List.forall_mem_cons] at h
    obtain ⟨op, hflag, htokens⟩ := h.1
    have htakes : Takes (fun _ => true) (s ++ (segments.flatten ++ rest)) op
        (segments.flatten ++ rest) := .flag hflag htokens _
    rw [List.flatten_cons, List.append_assoc]
    exact htakes.reports (ih h.2)

lemma Mistake.isCut (h : Mistake rest fault) (hsegments : ∀ s ∈ segments, IsSegment s) :
    IsCut (segments.flatten ++ rest) segments rest where
  tokens_eq := rfl
  isSegment := hsegments
  longest := fun _ _ heq hsegments' =>
    prefix_of_flatten_append_eq hsegments hsegments' (fun _ _ => h.ne_segment_append) heq.symm

/-! ### Reports -/

/-- The category of a fault, and the part of its report that tells what was found. -/
def ArgumentFault.gist : ArgumentFault → Category × String
  | noProgramName => (.unexpected, "is empty")
  | unknown token => (.unknownArgument, "`" ++ token ++ "`")
  | noDimensions => (.resize, "found nothing")
  | dimensionCount token | dimensionValue token => (.resize, "`" ++ token ++ "`")
  | noQuality => (.quality, "found nothing")
  | qualityValue token => (.quality, "`" ++ token ++ "`")
  | missingPath path => (.path, "`" ++ path ++ "`")
  | tooFewPaths paths =>
    let named := if paths.isEmpty then "" else " (" ++ ",".intercalate paths ++ ")"
    (.merge, "found " ++ paths.length.repr ++ named ++ " filename(s)")

lemma infix_of_eq (before after : String) {part text : String}
    (h : text = before ++ part ++ after) : part.toList <:+: text.toList :=
  ⟨before.toList, after.toList, by rw [h, String.toList_append, String.toList_append]⟩

/-- A token between backquotes stands in the text around it. -/
lemma backquoted_infix (before token after : String) :
    ("`" ++ token ++ "`").toList <:+: (before ++ "`" ++ token ++ ("`" ++ after)).toList := by
  apply infix_of_eq before after
  simp only [String.append_assoc]

/-- A report has the category of the fault, and names what was found. -/
lemma ArgumentFault.report (fault : ArgumentFault) : fault.problem.category = fault.gist.1 ∧
    fault.gist.2.toList <:+: fault.problem.message.toList := by
  cases fault with
  | noProgramName | noDimensions | noQuality => exact ⟨rfl, by decide +kernel⟩
  | unknown token => exact ⟨rfl, backquoted_infix "Argument " token " is unrecognized."⟩
  | dimensionCount token =>
    exact ⟨rfl, backquoted_infix "Values " token " are not valid dimensions (eg: 1920:1080)."⟩
  | dimensionValue token =>
    exact ⟨rfl, backquoted_infix "Value " token " is not valid dimension (eg: 1920:1080)."⟩
  | qualityValue token =>
    exact ⟨rfl, backquoted_infix "Value " token " is not a valid positive integer (eg: 50)."⟩
  | missingPath path =>
    exact ⟨rfl, backquoted_infix "Path " path " is not valid path (eg: video.mp4)."⟩
  | tooFewPaths paths =>
    refine ⟨rfl, infix_of_eq
      "Expected at least 2 filenames in filter `merge` (eg.: --merge a.mp4 b.mp4), " "." ?_⟩
    have hstart :
        "Expected at least 2 filenames in filter `merge` (eg.: --merge a.mp4 b.mp4), found "
          = "Expected at least 2 filenames in filter `merge` (eg.: --merge a.mp4 b.mp4), "
            ++ "found " := rfl
    have hend : " filename(s)." = " filename(s)" ++ "." := rfl
    simp only [problem, gist, hstart, hend, String.append_assoc]

/-- A command line is not read just when it is empty, or a mistake follows the flags at its front;
then the failure tells this mistake. -/
theorem parseArguments_eq_error_iff
    (hnumber : ∀ f, parseArguments (fun _ => true) ts ≠ .error (.number f)) (e : Failure) :
    parseArguments (fun _ => true) ts = .error e ↔
      ∃ fault : ArgumentFault, e = .argument fault ∧
        (ts = [] ∧ fault = .noProgramName ∨
          ∃ program tokens, ts = program :: tokens ∧
            ∃! cut : List (List String) × List String,
              IsCut tokens cut.1 cut.2 ∧ Mistake cut.2 fault) ∧
        fault.problem.category = fault.gist.1 ∧
        fault.gist.2.toList <:+: fault.problem.message.toList := by
  cases ts with
  | nil =>
    constructor
    · intro h
      obtain rfl := Except.error.inj h
      exact ⟨.noProgramName, rfl, .inl ⟨rfl, rfl⟩, ArgumentFault.report _⟩
    · rintro ⟨fault, rfl, ⟨-, rfl⟩ | ⟨program, tokens, heq, -⟩, -⟩
      · rfl
      · nomatch heq
  | cons program tokens =>
    rw [parseArguments_cons] at hnumber ⊢
    constructor
    · intro h
      obtain ⟨segments, rest, rfl, hsegments, ⟨f, rfl⟩ | ⟨fault, rfl, hmistake⟩⟩ :=
        exists_failsAt_of_result h
      · exact absurd h (hnumber f)
      · have hcut := hmistake.isCut hsegments
        refine ⟨fault, rfl, .inr ⟨program, _, rfl, (segments, rest), ⟨hcut, hmistake⟩, ?_⟩,
          fault.report⟩
        rintro ⟨segments', rest'⟩ ⟨hcut', -⟩
        obtain ⟨rfl, rfl⟩ := hcut.unique hcut'
        rfl
    · rintro ⟨fault, rfl, ⟨heq, -⟩ | ⟨_, _, heq, ⟨segments, rest⟩, ⟨hcut, hmistake⟩, -⟩, -⟩
      · nomatch heq
      · obtain ⟨rfl, rfl⟩ := List.cons.inj heq
        obtain rfl := hcut.tokens_eq
        obtain h | ⟨f, h⟩ := hmistake.reports_append hcut.isSegment
        · exact h
        · exact absurd h (hnumber f)

theorem parseArguments_resize_eq_error :
    parseArguments (fun _ => true) ["montage", "--preview", "--resize", "12x"]
        = .error (.argument (.dimensionCount "12x")) ∧
      ∃! cut : List (List String) × List String,
        IsCut ["--preview", "--resize", "12x"] cut.1 cut.2 ∧
          Mistake cut.2 (.dimensionCount "12x") := by
  have hresult : parseArguments (fun _ => true) ["montage", "--preview", "--resize", "12x"]
      = .error (.argument (.dimensionCount "12x")) := by decide +kernel
  have hnumber : ∀ f, parseArguments (fun _ => true) ["montage", "--preview", "--resize", "12x"]
      ≠ .error (.number f) := by
    intro f h
    nomatch hresult.symm.trans h
  obtain ⟨fault, hfault, hwhy, -⟩ := (parseArguments_eq_error_iff hnumber _).1 hresult
  obtain rfl := Failure.argument.inj hfault
  obtain ⟨heq, -⟩ | ⟨program, tokens, heq, hcut⟩ := hwhy
  · nomatch heq
  · obtain ⟨rfl, rfl⟩ := List.cons.inj heq
    exact ⟨hresult, hcut⟩

end Montage
