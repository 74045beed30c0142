import Montage.Proofs.Compilation
import Montage.Proofs.Shell.Compiled

/-!
# The fragments of compiled commands

A command line that is read always compiles. Its command has at most four arguments: a filter
fragment, rate control flags, a stream map and the output path, each at most once and in this order,
and the output path is the last token of the command line.
-/

namespace Montage

open Shell

variable {accepts : String → Bool} {curve : Curve} {programs : Programs} {ts : List String}
  {ops : List Operation} {score : Int} {flags path : String} {c : Command} {rate : Option String}

/-! ### Fragments by kind -/

/-- The fragments of a command, each at most once. -/
structure Fragments where
  filter : Option String
  rate : Option String
  map : Option String
  output : Option String

namespace Fragments

def args (f : Fragments) : List String :=
  f.filter.toList ++ (f.rate.toList ++ f.map.toList) ++ f.output.toList

/-- There is at most one argument of each kind. -/
lemma length_args_le (f : Fragments) : f.args.length ≤ 4 := by
  have hle : ∀ s : Option String, s.toList.length ≤ 1 := fun s => by cases s <;> simp
  have hfilter := hle f.filter
  have hrate := hle f.rate
  have hmap := hle f.map
  have houtput := hle f.output
  simp only [args, List.length_append]
  omega

/-- Fragments are those that operations ask for: a filter fragment for their filters if they have
any, rate control if they have a quality, and a stream map if they have a merge, but neither of
these two for a preview, and the path that they end with. -/
structure Suits (f : Fragments) (ops : List Operation) : Prop where
  filter : ∀ s, f.filter = some s ↔
    ops.filterMap Operation.filter? ≠ [] ∧ s = filterFlag (ops.filterMap Operation.filter?)
  rate_isSome : f.rate.isSome ↔ (lastScore? ops).isSome ∧ previews ops = false
  rate : ∀ s, f.rate = some s → s.toList ∈ rateFragments
  map : ∀ s, f.map = some s ↔ ops.any Operation.isMerge ∧ previews ops = false ∧ s = mergeMap
  output : ∀ s, f.output = some s ↔ ops.getLast? = some (.output s)

end Fragments

/-- The path at the end is that of the last operation, if this is an output. -/
lemma endPath?_eq_some_iff : endPath? ops = some path ↔ ops.getLast? = some (.output path) := by
  rw [endPath?, Option.bind_eq_some_iff]
  constructor
  · rintro ⟨op, hlast, hpath⟩
    cases op with
    | output path' =>
      obtain rfl := Option.some.inj hpath
      exact hlast
    | _ => cases hpath
  · intro h
    exact ⟨_, h, rfl⟩

/-! ### Rate control -/

/-- Only qualities from 0 on have settings, and only if their power is not too large. -/
lemma covers_of_ofQuality {r : RateControl} (h : RateControl.ofQuality curve score = .ok r) :
    0 ≤ score ∧ curve.Covers score := by
  have hfault : (Operation.quality score).fault? curve = none := by
    apply Option.eq_none_iff_forall_ne_some.2
    intro f hf
    rw [RateControl.ofQuality, bitrateOf_eq_error hf] at h
    cases h
  rw [Operation.fault?] at hfault
  split_ifs at hfault with hpower hneg
  exact ⟨Int.not_lt.1 hneg, Option.ne_none_iff_exists'.1 hpower⟩

/-- The flags of a rate make up a rate fragment. -/
lemma mem_rateFragments_of_rateFlagsOf (h : rateFlagsOf curve score = .ok flags) :
    flags.toList ∈ rateFragments := by
  obtain ⟨r, hr, -⟩ := bind_eq_ok_iff.1 h
  obtain ⟨hscore, hcovers⟩ := covers_of_ofQuality hr
  obtain ⟨flags', hflags', hmem, -⟩ := exists_rateWords hscore hcovers
  obtain rfl := Except.ok.inj (h.symm.trans hflags')
  exact hmem

/-- There are flags just when there is a quality, and they are its own. -/
lemma flags_of_mapM_eq_ok {score? : Option Int} (h : score?.mapM (rateFlagsOf curve) = .ok rate) :
    score? = none ∧ rate = none ∨ ∃ score flags, score? = some score ∧
      rateFlagsOf curve score = .ok flags ∧ rate = some flags := by
  cases score? with
  | none =>
    rw [Option.mapM_none] at h
    exact .inl ⟨rfl, (pure_eq_ok_iff.1 h).symm⟩
  | some score =>
    rw [Option.mapM_some] at h
    cases hflags : rateFlagsOf curve score with
    | error e =>
      rw [hflags] at h
      nomatch h
    | ok flags =>
      rw [hflags] at h
      exact .inr ⟨score, flags, rfl, hflags, (Except.ok.inj h).symm⟩

/-! ### The command of operations -/

/-- The fragments for operations of which the last quality has the given rate control flags. -/
def fragmentsOf (ops : List Operation) (rate : Option String) : Fragments where
  filter := if ops.filterMap Operation.filter? = [] then none
    else some (filterFlag (ops.filterMap Operation.filter?))
  rate := if previews ops then none else rate
  map := if ops.any Operation.isMerge ∧ previews ops = false then some mergeMap else none
  output := endPath? ops

/-- The arguments of a command are its fragments in their order. -/
lemma args_commandOf (hpaths : ops.filterMap Operation.path? = (endPath? ops).toList) :
    (commandOf programs ops rate).args = (fragmentsOf ops rate).args := by
  rw [commandOf, fragmentsOf, Fragments.args, hpaths]
  cases ops.filterMap Operation.filter? <;> cases ops.any Operation.isMerge <;>
    cases previews ops <;> simp [filterFlag]

/-- The fragments of operations suit them. -/
lemma suits_fragmentsOf (hrate : (lastScore? ops).mapM (rateFlagsOf curve) = .ok rate) :
    (fragmentsOf ops rate).Suits ops where
  filter := fun s => by
    rw [fragmentsOf, Option.ite_none_left_eq_some, Option.some_inj, eq_comm (a := s)]
  rate_isSome := by
    obtain ⟨hscore, rfl⟩ | ⟨score, flags, hscore, -, rfl⟩ := flags_of_mapM_eq_ok hrate <;>
      cases hpreview : previews ops <;> simp [fragmentsOf, hscore, hpreview]
  rate := fun s hs => by
    obtain ⟨-, rfl⟩ := Option.ite_none_left_eq_some.1 hs
    obtain ⟨-, hnone⟩ | ⟨score, flags, hscore, hflags, hsome⟩ := flags_of_mapM_eq_ok hrate
    · nomatch hnone
    · obtain rfl := Option.some.inj hsome
      exact mem_rateFragments_of_rateFlagsOf hflags
  map := fun s => by
    rw [fragmentsOf, Option.ite_none_right_eq_some, Option.some_inj, and_assoc, eq_comm (a := s)]
  output := fun s => endPath?_eq_some_iff

/-! ### The last token -/

/-- An output path that ends the operations ends the command line. -/
lemma TakesAll.getLast?_eq (h : TakesAll accepts ts ops)
    (hlast : ops.getLast? = some (.output path)) : ts.getLast? = some path := by
  induction h with
  | nil => nomatch hlast
  | @cons ts left op ops hop hops ih =>
    cases ops with
    | nil =>
      obtain rfl : op = .output path := by simpa using hlast
      cases hop with
      | flag hflag => nomatch hflag
      | output => rfl
    | cons op' ops =>
      rw [List.getLast?_cons_cons] at hlast
      obtain ⟨tokens, -, rfl⟩ := hop.exists_tokens
      rw [List.getLast?_append, ih hlast]
      rfl

/-- An output at the end was read from the last token. -/
lemma getLast?_of_parseArguments (h : parseArguments accepts ts = .ok ops)
    (hlast : ops.getLast? = some (.output path)) : ts.getLast? = some path := by
  obtain ⟨program, tokens, rfl, htakes⟩ := parseArguments_eq_ok_iff.1 h
  rw [List.getLast?_cons, htakes.getLast?_eq hlast]
  rfl

/-! ### Commands of command lines -/

/-- The command of a command line has the fragments that its operations ask for. -/
lemma exists_suits_of_compileOperations (h : parseArguments accepts ts = .ok ops)
    (hc : compileOperations curve programs ops = .ok c) :
    ∃ f : Fragments, c.args = f.args ∧ f.Suits ops := by
  obtain ⟨program, tokens, -, htakes⟩ := parseArguments_eq_ok_iff.1 h
  obtain ⟨flags, ending, rfl, hflags, hending⟩ := htakes.exists_parts
  obtain ⟨rate, hrate, rfl⟩ := exists_rate_of_compileOperations hc
  exact ⟨fragmentsOf (flags ++ ending) rate, args_commandOf (filterMap_path? hflags hending),
    suits_fragmentsOf hrate⟩

/-- A quality that was read is an unsigned number of 32 bits. -/
lemma score_bounds_of_parseArguments (h : parseArguments accepts ts = .ok ops)
    (hscore : .quality score ∈ ops) : 0 ≤ score ∧ score ≤ 4294967295 := by
  obtain ⟨program, tokens, -, htakes⟩ := parseArguments_eq_ok_iff.1 h
  obtain ⟨flags, ending, rfl, hflags, hending⟩ := htakes.exists_parts
  rcases List.mem_append.1 hscore with hscore | hscore
  · cases hflags _ hscore with
    | quality hs => exact hs
  · cases hending <;> simp at hscore

/-- Every command line that is read compiles, as long as the powers of the qualities in range are
not too large. Its command has the fragments that the operations ask for, each at most once and in
one order, and its output path is the last token. -/
theorem exists_fragments_of_parseArguments (programs : Programs)
    (hcurve : ∀ score : Int, 0 ≤ score → score ≤ 4294967295 → curve.Covers score)
    (h : parseArguments accepts ts = .ok ops) :
    ∃ (c : Command) (f : Fragments), compileOperations curve programs ops = .ok c ∧
      c.args = f.args ∧ c.args.length ≤ 4 ∧ f.Suits ops ∧
      ∀ path, f.output = some path → ts.getLast? = some path := by
  have hcovers : ∀ score, .quality score ∈ ops → curve.Covers score := by
    intro score hscore
    obtain ⟨hnonneg, hle⟩ := score_bounds_of_parseArguments h hscore
    exact hcurve score hnonneg hle
  obtain ⟨c, hc⟩ := exists_compileOperations_of_parseArguments h hcovers programs
  obtain ⟨f, hargs, hsuits⟩ := exists_suits_of_compileOperations h hc
  refine ⟨c, f, hc, hargs, ?_, hsuits, ?_⟩
  · rw [hargs]
    exact f.length_args_le
  · intro path hpath
    exact getLast?_of_parseArguments h ((hsuits.output path).1 hpath)

theorem exists_fragments_quality_merge :
    ∃ (c : Command) (f : Fragments), compileOperations some .standard
        [.quality 1, .merge ["a.mp4", "b.mp4"], .output "c.mp4"] = .ok c ∧
      c.args = f.args ∧ f.rate = some "-crf 50 -maxrate 1M -bufsize 2M" ∧
      f.map = some mergeMap ∧ f.output = some "c.mp4" ∧
      ["montage", "--quality", "1", "--merge", "a.mp4", "b.mp4", "c.mp4"].getLast?
        = some "c.mp4" := by
  have hread : parseArguments (fun _ => true)
        ["montage", "--quality", "1", "--merge", "a.mp4", "b.mp4", "c.mp4"]
      = .ok [.quality 1, .merge ["a.mp4", "b.mp4"], .output "c.mp4"] := by
    decide +kernel
  obtain ⟨c, f, hc, hargs, -, hsuits, hlast⟩ :=
    exists_fragments_of_parseArguments .standard (fun _ => Curve.covers_some) hread
  have hmap : f.map = some mergeMap := (hsuits.map _).2 ⟨rfl, rfl, rfl⟩
  have houtput : f.output = some "c.mp4" := (hsuits.output _).2 rfl
  have hfilter : f.filter = some
      "-vf [0][v0];[1][v1];[v0][0:a:0][v1][1:a:0]concat=n=2:v=1:a=1[outv][outa]" :=
    (hsuits.filter _).2 ⟨by decide, by decide +kernel⟩
  have hcommand : compileOperations some .standard
        [.quality 1, .merge ["a.mp4", "b.mp4"], .output "c.mp4"] = .ok ⟨"ffmpeg",
          ["-vf [0][v0];[1][v1];[v0][0:a:0][v1][1:a:0]concat=n=2:v=1:a=1[outv][outa]",
            "-crf 50 -maxrate 1M -bufsize 2M", mergeMap, "c.mp4"]⟩ := by
    decide +kernel
  refine ⟨c, f, hc, hargs, ?_, hmap, houtput, hlast _ houtput⟩
  obtain rfl := Except.ok.inj (hc.symm.trans hcommand)
  rw [Fragments.args, hfilter, hmap, houtput] at hargs
  cases hrate : f.rate <;> simp [hrate] at hargs ⊢
  exact hargs.symm

end Montage
