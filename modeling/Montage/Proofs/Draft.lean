import Mathlib.Data.List.Induction
import Montage.Draft
import Montage.Proofs.Number.Numeral
import Montage.Proofs.Result

/-!
# What drafts hold

What a draft holds once operations were added to it, told from the operations as a whole: the
filters and the paths of all of them in order, the rate control of the last quality, and the program
that the last mode asks for.
-/

namespace Montage

variable {curve : Curve} {programs : Programs} {d : Draft} {op : Operation} {ops : List Operation}

/-! ### What operations ask for -/

namespace Operation

def filter? : Operation → Option String
  | .resize width height => some ("scale=" ++ width.repr ++ ":" ++ height.repr)
  | .merge paths => some (mergeGraph paths.length)
  | _ => none

def score? : Operation → Option Int
  | .quality score => some score
  | _ => none

def mode? : Operation → Option Mode
  | .execution mode => some mode
  | _ => none

def path? : Operation → Option String
  | .output path => some path
  | _ => none

def isMerge : Operation → Bool
  | .merge _ => true
  | _ => false

end Operation

def lastScore? (ops : List Operation) : Option Int := (ops.filterMap Operation.score?).getLast?

/-- Whether operations ask for a preview: the last mode counts. -/
def previews (ops : List Operation) : Bool :=
  (ops.filterMap Operation.mode?).getLast? == some .preview

def rateFlagsOf (curve : Curve) (score : Int) : Except NumberFault String :=
  RateControl.ofQuality curve score >>= RateControl.flags

/-- An operation can be written in a command: its numbers have not too many digits, and its quality
has rate control flags. -/
def Operation.Compiles (curve : Curve) : Operation → Prop
  | .resize width height =>
    width.natAbs < powerOfTen digitLimit ∧ height.natAbs < powerOfTen digitLimit
  | .quality score => ∃ flags, rateFlagsOf curve score = .ok flags
  | _ => True

/-! ### One operation -/

/-- What a draft gains from an operation. -/
structure Draft.Gains (curve : Curve) (op : Operation) (d d' : Draft) : Prop where
  programs : d'.programs = d.programs
  preview : d'.preview = op.mode?.elim d.preview (· == .preview)
  filters : d'.filters = d.filters ++ op.filter?.toList
  rateFlags : op.score?.elim (.ok d.rateFlags) (fun score => some <$> rateFlagsOf curve score)
    = .ok d'.rateFlags
  mapFlags : d'.mapFlags = if op.isMerge then some mergeMap else d.mapFlags
  outputs : d'.outputs = d.outputs ++ op.path?.toList

/-- A size that can be written has a filter. -/
lemma scaleFilter_eq_ok {width height : Int} (hw : width.natAbs < powerOfTen digitLimit)
    (hh : height.natAbs < powerOfTen digitLimit) :
    scaleFilter width height = .ok ("scale=" ++ width.repr ++ ":" ++ height.repr) := by
  rw [scaleFilter, decimalText_eq_ok hw, decimalText_eq_ok hh]
  rfl

/-- An operation that compiles is added with all that it asks for. -/
lemma Draft.exists_addOperation (d : Draft) (hop : op.Compiles curve) :
    ∃ d', d.addOperation curve op = .ok d' ∧ d.Gains curve op d' := by
  cases op with
  | resize width height =>
    have hadd : d.addOperation curve (.resize width height) = .ok
        { d with filters := d.filters ++ ["scale=" ++ width.repr ++ ":" ++ height.repr] } := by
      rw [Draft.addOperation, scaleFilter_eq_ok hop.1 hop.2]
      rfl
    exact ⟨_, hadd, rfl, rfl, rfl, rfl, rfl, (List.append_nil _).symm⟩
  | quality score =>
    obtain ⟨flags, hflags⟩ := hop
    have hadd : d.addOperation curve (.quality score) = .ok { d with rateFlags := some flags } := by
      obtain ⟨rate, hrate, hflags⟩ := bind_eq_ok_iff.1 hflags
      exact bind_eq_ok_iff.2 ⟨rate, hrate, bind_eq_ok_iff.2 ⟨flags, hflags, rfl⟩⟩
    refine ⟨_, hadd, rfl, rfl, (List.append_nil _).symm, ?_, rfl, (List.append_nil _).symm⟩
    rw [Operation.score?, Option.elim_some, hflags]
    rfl
  | merge paths => exact ⟨_, rfl, rfl, rfl, rfl, rfl, rfl, (List.append_nil _).symm⟩
  | execution mode =>
    exact ⟨_, rfl, rfl, rfl, (List.append_nil _).symm, rfl, rfl, (List.append_nil _).symm⟩
  | output path => exact ⟨_, rfl, rfl, rfl, (List.append_nil _).symm, rfl, rfl, rfl⟩

/-! ### All operations -/

/-- A draft holds what operations ask for. -/
structure Draft.Holds (curve : Curve) (programs : Programs) (ops : List Operation) (d : Draft) :
    Prop where
  programs : d.programs = programs
  preview : d.preview = previews ops
  filters : d.filters = ops.filterMap Operation.filter?
  rateFlags : (lastScore? ops).mapM (rateFlagsOf curve) = .ok d.rateFlags
  mapFlags : d.mapFlags = if ops.any Operation.isMerge then some mergeMap else none
  outputs : d.outputs = ops.filterMap Operation.path?

/-- The last quality counts. -/
lemma lastScore?_append : lastScore? (ops ++ [op]) = op.score?.or (lastScore? ops) := by
  cases h : op.score? <;> simp [lastScore?, h]

/-- The last mode counts. -/
lemma previews_append :
    previews (ops ++ [op]) = op.mode?.elim (previews ops) (· == .preview) := by
  cases h : op.mode? <;> simp [previews, h]

namespace Draft

lemma holds_empty : (empty programs).Holds curve programs [] := ⟨rfl, rfl, rfl, rfl, rfl, rfl⟩

/-- A draft that gains an operation holds it last. -/
lemma Holds.gains {d' : Draft} (h : d.Holds curve programs ops) (hgains : d.Gains curve op d') :
    d'.Holds curve programs (ops ++ [op]) where
  programs := hgains.programs.trans h.programs
  preview := by rw [hgains.preview, h.preview, previews_append]
  filters := by
    rw [hgains.filters, h.filters, List.filterMap_append]
    cases hfilter : op.filter? <;> simp [hfilter]
  rateFlags := by
    rw [← hgains.rateFlags, lastScore?_append]
    cases op.score? with
    | none => exact h.rateFlags
    | some score => rfl
  mapFlags := by
    rw [hgains.mapFlags, h.mapFlags]
    cases hmerge : op.isMerge <;> simp [hmerge]
  outputs := by
    rw [hgains.outputs, h.outputs, List.filterMap_append]
    cases hpath : op.path? <;> simp [hpath]

/-- A draft made from operations that can be written holds what they ask for. -/
lemma exists_foldlM (programs : Programs) (h : ∀ op ∈ ops, op.Compiles curve) :
    ∃ d, ops.foldlM (addOperation curve) (empty programs) = .ok d ∧ d.Holds curve programs ops := by
  -- from the end, since the last quality and the last mode count
  induction ops using List.reverseRecOn with
  | nil => exact ⟨_, rfl, holds_empty⟩
  | append_singleton ops op ih =>
    rw [List.forall_mem_append, List.forall_mem_singleton] at h
    obtain ⟨d, hd, hholds⟩ := ih h.1
    obtain ⟨d', hd', hgains⟩ := d.exists_addOperation h.2
    refine ⟨d', ?_, hholds.gains hgains⟩
    rw [List.foldlM_append, hd]
    exact bind_eq_ok_iff.2 ⟨d, rfl, bind_eq_ok_iff.2 ⟨d', hd', rfl⟩⟩

end Draft

lemma foldlM_add_operations (d : Draft) :
    (ops.map .operation).foldlM (Draft.add curve) d
      = orNumberFailure (ops.foldlM (Draft.addOperation curve) d) := by
  induction ops generalizing d with
  | nil => rfl
  | cons op ops ih =>
    rw [List.map_cons, List.foldlM_cons, List.foldlM_cons, Draft.add]
    cases d.addOperation curve op with
    | error e => rfl
    | ok d' => exact ih d'

/-- Operations that can be written compile to the command of a draft that holds all of them. -/
lemma exists_compileOperations (programs : Programs) (h : ∀ op ∈ ops, op.Compiles curve) :
    ∃ d : Draft, compileOperations curve programs ops = .ok d.command ∧
      d.Holds curve programs ops := by
  obtain ⟨d, hd, hholds⟩ := Draft.exists_foldlM programs h
  refine ⟨d, ?_, hholds⟩
  rw [compileOperations, compileRequests, foldlM_add_operations, hd]
  rfl

end Montage
