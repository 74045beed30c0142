import Montage.Proofs.Draft
import Montage.Proofs.Rate

/-!
# What requests compile to

Compiling adds requests one by one to a draft. Its result is told here from the requests as a whole:
the first one that cannot be compiled fails it, whatever stands around it, and otherwise the command
shows the filters and paths of all operations, the rate control of the last quality, and the program
of the last mode.
-/

namespace Montage

variable {curve : Curve} {programs : Programs} {d : Draft} {op : Operation}
  {ops ops' : List Operation} {r : Request} {requests : List Request} {score : Int}
  {f : NumberFault} {e : Failure} {c : Command}

/-! ### What cannot be compiled -/

/-- Why an operation cannot be compiled: a number has too many digits to be written, the power of a
quality is too large, or it is not a real number. -/
def Operation.fault? (curve : Curve) : Operation → Option NumberFault
  | .resize width height =>
    if width.natAbs < powerOfTen digitLimit ∧ height.natAbs < powerOfTen digitLimit then none
    else some .tooManyDigits
  | .quality score =>
    if (Magnitude.ofNat? score.natAbs).bind curve = none then some .tooLarge
    else if score < 0 then some .notReal
    else none
  | _ => none

/-- Why a request cannot be compiled; what is no operation is named in the failure. -/
def Request.failure? (curve : Curve) : Request → Option Failure
  | operation op => (op.fault? curve).map .number
  | foreign v =>
    match v.display with
    | .ok shown => some (.unrecognized shown)
    | .error f => some (.number f)

lemma Request.exists_failure?_foreign (curve : Curve) (v : Foreign) :
    ∃ e, (foreign v).failure? curve = some e := by
  rw [Request.failure?]
  cases v.display with
  | ok shown => exact ⟨_, rfl⟩
  | error f => exact ⟨_, rfl⟩

/-- A request that can be shown is refused, for one of three reasons: it is no operation, or a
quality whose power is too large, or one below zero, whose power is not real. -/
inductive Request.Refused (curve : Curve) : Request → Failure → Prop
  | foreign {v : Foreign} {shown : String} (h : v.display = .ok shown) :
    Refused curve (.foreign v) (.unrecognized shown)
  | tooLarge {score : Int} (hcurve : ¬ curve.Covers score) :
    Refused curve (.operation (.quality score)) (.number .tooLarge)
  | notReal {score : Int} (hscore : score < 0) (hcurve : curve.Covers score) :
    Refused curve (.operation (.quality score)) (.number .notReal)

/-- A quality with a fault has no bit rate. -/
lemma bitrateOf_eq_error (h : (Operation.quality score).fault? curve = some f) :
    RateControl.bitrateOf curve score = .error f := by
  rw [Operation.fault?] at h
  rw [RateControl.bitrateOf]
  split_ifs at h with hpower hneg
  · obtain rfl := Option.some.inj h
    rw [hpower]
    rfl
  · obtain rfl := Option.some.inj h
    obtain ⟨power, hpower⟩ := Option.ne_none_iff_exists'.1 hpower
    rw [hpower]
    exact if_pos hneg

/-- A size that is too long to be written has no filter. -/
lemma scaleFilter_eq_error {width height : Int}
    (h : ¬ (width.natAbs < powerOfTen digitLimit ∧ height.natAbs < powerOfTen digitLimit)) :
    scaleFilter width height = .error .tooManyDigits := by
  by_cases hw : width.natAbs < powerOfTen digitLimit
  · have hh : powerOfTen digitLimit ≤ height.natAbs := by
      apply Nat.not_lt.1
      intro hh
      exact h ⟨hw, hh⟩
    rw [scaleFilter, decimalText_eq_ok hw, decimalText, if_pos hh]
    rfl
  · rw [scaleFilter, decimalText, if_pos (Nat.not_lt.1 hw)]
    rfl

/-- Whether an operation can be added does not depend on the draft. -/
lemma Draft.addOperation_eq_error (d : Draft) (h : op.fault? curve = some f) :
    d.addOperation curve op = .error f := by
  cases op with
  | resize width height =>
    rw [Operation.fault?] at h
    split_ifs at h with hdigits
    obtain rfl := Option.some.inj h
    rw [Draft.addOperation, scaleFilter_eq_error hdigits]
    rfl
  | quality score =>
    rw [Draft.addOperation, RateControl.ofQuality, bitrateOf_eq_error h]
    rfl
  | merge paths => cases h
  | execution mode => cases h
  | output path => cases h

/-- Whether a request can be added does not depend on the draft. -/
lemma Draft.add_eq_error (d : Draft) (h : r.failure? curve = some e) :
    d.add curve r = .error e := by
  cases r with
  | operation op =>
    obtain ⟨f, hf, rfl⟩ := Option.map_eq_some_iff.1 h
    rw [Draft.add, d.addOperation_eq_error hf]
    rfl
  | foreign v =>
    rw [Request.failure?] at h
    rw [Draft.add]
    cases hshown : v.display with
    | ok shown =>
      rw [hshown] at h
      obtain rfl := Option.some.inj h
      rfl
    | error f =>
      rw [hshown] at h
      obtain rfl := Option.some.inj h
      rfl

/-! ### What can be compiled -/

/-- A quality whose power is a real number that is not too large has rate control flags. -/
lemma exists_rateFlagsOf (hscore : 0 ≤ score) (hcurve : curve.Covers score) :
    ∃ flags, rateFlagsOf curve score = .ok flags := by
  obtain ⟨rate, hrate, crf, maxRate, bufSize, -, hwords⟩ := RateControl.exists_words hscore hcurve
  have hflags := rate.flags_eq_map_words
  rw [hwords] at hflags
  exact ⟨_, bind_eq_ok_iff.2 ⟨rate, hrate, hflags⟩⟩

/-- An operation without a fault compiles. -/
lemma Operation.compiles_of_fault? (h : op.fault? curve = none) : op.Compiles curve := by
  cases op with
  | resize width height =>
    rw [Operation.fault?] at h
    split_ifs at h with hdigits
    exact hdigits
  | quality score =>
    rw [Operation.fault?] at h
    split_ifs at h with hpower hneg
    exact exists_rateFlagsOf (Int.not_lt.1 hneg) (Option.ne_none_iff_exists'.1 hpower)
  | merge paths => trivial
  | execution mode => trivial
  | output path => trivial

/-- A request without a failure can be added to any draft. -/
lemma Draft.exists_add (d : Draft) (h : r.failure? curve = none) :
    ∃ d', d.add curve r = .ok d' := by
  cases r with
  | operation op =>
    have hop : op.Compiles curve := Operation.compiles_of_fault? (Option.map_eq_none_iff.1 h)
    obtain ⟨d', hd', -⟩ := d.exists_addOperation hop
    exact ⟨d', orNumberFailure_eq_ok_iff.2 hd'⟩
  | foreign v =>
    obtain ⟨e, he⟩ := Request.exists_failure?_foreign curve v
    nomatch he.symm.trans h

/-- The command for operations of which the last quality has the given rate control flags. -/
def commandOf (programs : Programs) (ops : List Operation) (rate : Option String) : Command :=
  let filters := ops.filterMap Operation.filter?
  let map := if ops.any Operation.isMerge then [mergeMap] else []
  { invocation := if previews ops then programs.player else programs.transcoder
    args := (if filters.isEmpty then [] else ["-vf " ++ ",".intercalate filters])
      ++ (if previews ops then [] else rate.toList ++ map)
      ++ ops.filterMap Operation.path? }

/-- The command of a draft is told from the operations that it holds. -/
lemma Draft.Holds.command_eq (h : d.Holds curve programs ops) :
    d.command = commandOf programs ops d.rateFlags := by
  have hmap : d.mapFlags.toList = if ops.any Operation.isMerge then [mergeMap] else [] := by
    rw [h.mapFlags]
    split_ifs <;> rfl
  rw [Draft.command, Draft.invocation, h.programs, h.preview, h.filters, h.outputs, hmap]
  rfl

/-- Operations compile to the command that is told from them as a whole. -/
lemma exists_rate_compileOperations (programs : Programs)
    (h : ∀ op ∈ ops, op.fault? curve = none) :
    ∃ rate, (lastScore? ops).mapM (rateFlagsOf curve) = .ok rate ∧
      compileOperations curve programs ops = .ok (commandOf programs ops rate) := by
  obtain ⟨d, hd, hholds⟩ := exists_compileOperations programs fun op hop =>
    Operation.compiles_of_fault? (h op hop)
  refine ⟨d.rateFlags, hholds.rateFlags, ?_⟩
  rw [hd, hholds.command_eq]

/-! ### Whole lists of requests -/

/-- The first request that cannot be added to a draft stops all adding. -/
lemma foldlM_add_eq_error (d : Draft) (h : requests.findSome? (Request.failure? curve) = some e) :
    requests.foldlM (Draft.add curve) d = .error e := by
  induction requests generalizing d with
  | nil => nomatch h
  | cons r requests ih =>
    rw [List.findSome?_cons] at h
    rw [List.foldlM_cons]
    cases hr : r.failure? curve with
    | some e' =>
      rw [hr] at h
      obtain rfl := Option.some.inj h
      rw [d.add_eq_error hr]
      rfl
    | none =>
      rw [hr] at h
      obtain ⟨d', hd'⟩ := d.exists_add hr
      rw [hd']
      exact ih d' h

/-- The first request that cannot be compiled fails compiling. -/
lemma compileRequests_eq_error (programs : Programs)
    (h : requests.findSome? (Request.failure? curve) = some e) :
    compileRequests curve programs requests = .error e := by
  rw [compileRequests, foldlM_add_eq_error _ h]
  rfl

/-- The first operation that cannot be compiled fails all of them. -/
lemma compileOperations_eq_error (h : ops.findSome? (Operation.fault? curve) = some f) :
    compileOperations curve programs ops = .error (.number f) := by
  have hfailure : (ops.map .operation).findSome? (Request.failure? curve) = some (.number f) := by
    rw [List.findSome?_map]
    exact List.map_findSome?.symm.trans (congrArg (Option.map Failure.number) h)
  rw [compileOperations, compileRequests_eq_error programs hfailure]

/-- Operations that compile do so to the command that is told from them as a whole. -/
lemma exists_rate_of_compileOperations (h : compileOperations curve programs ops = .ok c) :
    ∃ rate, (lastScore? ops).mapM (rateFlagsOf curve) = .ok rate ∧
      c = commandOf programs ops rate := by
  have hnone : ops.findSome? (Operation.fault? curve) = none := by
    apply Option.eq_none_iff_forall_ne_some.2
    intro f hf
    nomatch h.symm.trans (compileOperations_eq_error hf)
  obtain ⟨rate, hrate, hcommand⟩ :=
    exists_rate_compileOperations programs (List.findSome?_eq_none_iff.1 hnone)
  exact ⟨rate, hrate, Except.ok.inj (h.symm.trans hcommand)⟩

/-- Operations that ask for the same in each respect on which their command depends. -/
structure Alike (curve : Curve) (ops ops' : List Operation) : Prop where
  faults : ops.filterMap (Operation.fault? curve) = ops'.filterMap (Operation.fault? curve)
  filters : ops.filterMap Operation.filter? = ops'.filterMap Operation.filter?
  scores : ops.filterMap Operation.score? = ops'.filterMap Operation.score?
  modes : ops.filterMap Operation.mode? = ops'.filterMap Operation.mode?
  merges : ops.any Operation.isMerge = ops'.any Operation.isMerge
  paths : ops.filterMap Operation.path? = ops'.filterMap Operation.path?

namespace Alike

/-- Operations that are alike stay so with the same ones behind them. -/
lemma append_right (h : Alike curve ops ops') (more : List Operation) :
    Alike curve (ops ++ more) (ops' ++ more) where
  faults := by rw [List.filterMap_append, List.filterMap_append, h.faults]
  filters := by rw [List.filterMap_append, List.filterMap_append, h.filters]
  scores := by rw [List.filterMap_append, List.filterMap_append, h.scores]
  modes := by rw [List.filterMap_append, List.filterMap_append, h.modes]
  merges := by rw [List.any_append, List.any_append, h.merges]
  paths := by rw [List.filterMap_append, List.filterMap_append, h.paths]

lemma append_left (h : Alike curve ops ops') (before : List Operation) :
    Alike curve (before ++ ops) (before ++ ops') where
  faults := by rw [List.filterMap_append, List.filterMap_append, h.faults]
  filters := by rw [List.filterMap_append, List.filterMap_append, h.filters]
  scores := by rw [List.filterMap_append, List.filterMap_append, h.scores]
  modes := by rw [List.filterMap_append, List.filterMap_append, h.modes]
  merges := by rw [List.any_append, List.any_append, h.merges]
  paths := by rw [List.filterMap_append, List.filterMap_append, h.paths]

/-- Operations that are alike have the same command. -/
lemma commandOf_eq (h : Alike curve ops ops') (programs : Programs) (rate : Option String) :
    commandOf programs ops rate = commandOf programs ops' rate := by
  have hpreviews : previews ops = previews ops' := by rw [previews, h.modes, previews]
  rw [commandOf, commandOf, h.filters, h.merges, h.paths, hpreviews]

/-- So they compile to the same, be it a command or a failure. -/
lemma compileOperations_eq (h : Alike curve ops ops') (programs : Programs) :
    compileOperations curve programs ops = compileOperations curve programs ops' := by
  have hfaults :
      ops.findSome? (Operation.fault? curve) = ops'.findSome? (Operation.fault? curve) := by
    rw [← List.head?_filterMap, ← List.head?_filterMap, h.faults]
  cases hfault : ops.findSome? (Operation.fault? curve) with
  | some f =>
    rw [compileOperations_eq_error hfault, compileOperations_eq_error (hfaults ▸ hfault)]
  | none =>
    obtain ⟨rate, hrate, hcommand⟩ :=
      exists_rate_compileOperations programs (List.findSome?_eq_none_iff.1 hfault)
    obtain ⟨rate', hrate', hcommand'⟩ :=
      exists_rate_compileOperations programs (List.findSome?_eq_none_iff.1 (hfaults ▸ hfault))
    have hscores : lastScore? ops = lastScore? ops' := by rw [lastScore?, h.scores, lastScore?]
    rw [hscores, hrate'] at hrate
    rw [hcommand, hcommand', ← Except.ok.inj hrate, h.commandOf_eq]

end Alike

end Montage
