import Mathlib.Data.List.TakeWhile
import Montage.Proofs.Folder
import Montage.Proofs.Session.Steps

/-!
# Logs that can be written

A session can log if its log, in case one is kept, is a file that can be appended to. As long as no
entry is refused and commands leave it so, all messages get to the log, and steps are taken up to
the first text that cannot be printed or command that cannot be started.
-/

namespace Montage

open Run Session

variable {α : Type} {env : Surroundings} {s last : Session} {step : Step} {steps done : List Step}
  {f : EffectFault} {folder : Folder}

/-- An entry can be written to the log, if one is kept. -/
def Session.CanLog (s : Session) : Prop :=
  ∀ path, s.log = some path → ∃ parts, s.folder.IsLog path parts

/-- No entry is refused, and commands leave the log, if one is kept, a file that can be appended
to. -/
structure Surroundings.KeepsLog (env : Surroundings) (log : Option String) : Prop where
  refusal?_eq : ∀ n, env.refusal? n = none
  isLog_change : ∀ path, log = some path → ∀ command ended, env.execute command = .ok ended →
    ∀ folder parts, folder.IsLog path parts → ∃ parts', (ended.change folder).IsLog path parts'

/-- Calm surroundings refuse no entry. -/
lemma Surroundings.keepsLog_calm (terminal : Bool) (time : String) (status : Int)
    (elapsed : Binary64) (curve : Curve) (yaml : Yaml.Reader) (log : Option String) :
    (calm terminal time status elapsed curve yaml).KeepsLog log where
  refusal?_eq := fun _ => rfl
  isLog_change := by
    rintro path - command _ ⟨⟩ folder parts hparts
    exact ⟨parts, hparts⟩

/-- What keeps a step from being taken in a session that can log. -/
def Step.fault? (env : Surroundings) (quiet : Bool) : Step → Option EffectFault
  | note _ | listen => none
  | say text => if env.canPrint text then none else some .output
  | tell text => if quiet || env.canPrint text then none else some .output
  | execute command =>
    match env.execute command with
    | .ok _ => none
    | .error f => some (.start f)

def Step.isPossible (env : Surroundings) (quiet : Bool) (step : Step) : Bool :=
  (step.fault? env quiet).isNone

/-- The steps in front of the first that is not possible. -/
def reached (env : Surroundings) (quiet : Bool) (steps : List Step) : List Step :=
  steps.takeWhile (Step.isPossible env quiet)

lemma reached_nil (env : Surroundings) (quiet : Bool) : reached env quiet [] = [] := rfl

lemma reached_cons (env : Surroundings) (quiet : Bool) (step : Step) (steps : List Step) :
    reached env quiet (step :: steps)
      = if step.isPossible env quiet then step :: reached env quiet steps else [] :=
  List.takeWhile_cons

/-- What comes of steps and a result behind them in a session that can log. -/
def outcome (env : Surroundings) (quiet : Bool) (steps : List Step) (r : Except Failure α) :
    Except Failure α :=
  match steps.findSome? (Step.fault? env quiet) with
  | none => r
  | some f => .error (.effect f)

/-- A session that cannot log does not do so, and there is no trace of it. -/
lemma Session.exists_fault_of_not_canLog (h : ¬ s.CanLog) (env : Surroundings) (message : String) :
    ∃ f, (writeLog env message).on s = (.error (.effect (.log f)), s) := by
  unfold CanLog at h
  push Not at h
  obtain ⟨path, hpath, hlog⟩ := h
  rw [on_writeLog, hpath]
  dsimp only
  cases happend : s.folder.append path (logEntry (env.clock s.messages) message) with
  | error f => exact ⟨f, rfl⟩
  | ok folder =>
    obtain ⟨parts, -, hparts, -⟩ := Folder.exists_isLog_of_append happend
    exact absurd hparts (hlog parts)

/-! ### One step -/

/-- A step that succeeds has no fault. -/
lemma Step.fault?_of_run (h : (step.run env).on s = (.ok (), last)) :
    step.fault? env s.quiet = none := by
  cases step with
  | note | listen => rfl
  | say text =>
    rw [Step.run, on_print] at h
    split_ifs at h with hprint
    · exact if_pos hprint
    · cases congrArg Prod.fst h
  | tell text =>
    rw [on_tell, on_print] at h
    rw [fault?, ite_eq_left_iff, Bool.or_eq_true, not_or]
    split_ifs at h with hquiet hprint
    · exact fun hnot => absurd hquiet hnot.1
    · exact fun hnot => absurd hprint hnot.2
    · cases congrArg Prod.fst h
  | execute command =>
    obtain ⟨ended, hended, -⟩ := leads_of_run h
    rw [fault?, hended]

/-- The fault of a step does not lie in a log. -/
lemma Step.fault?_ne_log (quiet : Bool) (fault : FileFault) :
    step.fault? env quiet ≠ some (.log fault) := by
  unfold fault?
  split
  · nofun
  · nofun
  · split_ifs <;> nofun
  · split_ifs <;> nofun
  · split <;> nofun

namespace Session.CanLog

variable (hs : s.CanLog) (henv : env.KeepsLog s.log)

include hs henv

/-- A step that fails in a session that can log does not fail for the log. -/
lemma fault?_of_fails (h : step.Fails env s f folder) : step.fault? env s.quiet = some f := by
  cases h with
  | log hlog happend =>
    obtain ⟨parts, hparts⟩ := hs _ hlog
    cases (hparts.append_eq _).symm.trans happend
  | refused hlog hrefusal => cases (henv.refusal?_eq _).symm.trans hrefusal
  | say hprint =>
    rw [Step.fault?, hprint]
    rfl
  | tell hquiet hprint =>
    rw [Step.fault?, hquiet, hprint]
    rfl
  | execute hstart => rw [Step.fault?, hstart]

/-- After a step, the log can still be written. -/
lemma of_run (h : (step.run env).on s = (.ok (), s.past [step] folder)) :
    (s.past [step] folder).CanLog := by
  intro path hpath
  change s.log = some path at hpath
  obtain ⟨parts, hparts⟩ := hs path hpath
  have hleads := Step.leads_of_run h
  cases step with
  | note message =>
    unfold Step.Leads at hleads
    rw [hpath] at hleads
    obtain ⟨parts', bytes, hparts', hfolder⟩ := Folder.exists_isLog_of_append hleads
    exact ⟨parts', hfolder ▸ hparts'.set bytes⟩
  | say | tell | listen =>
    obtain rfl : folder = s.folder := hleads
    exact ⟨parts, hparts⟩
  | execute command =>
    obtain ⟨ended, hended, hfolder⟩ := hleads
    obtain rfl : folder = _ := hfolder
    exact henv.isLog_change path hpath command ended hended _ parts hparts

/-! ### Many steps -/

/-- If all steps succeed, none of them has a fault. -/
lemma of_performs (h : Performs env s steps last) :
    last.CanLog ∧ ∀ step ∈ steps, step.fault? env s.quiet = none := by
  induction steps generalizing s with
  | nil =>
    obtain rfl : s = last := congrArg Prod.snd h
    exact ⟨hs, nofun⟩
  | cons step steps ih =>
    obtain ⟨folder, hstep, hsteps⟩ := h.exists_cons
    obtain ⟨hlast, hall⟩ := ih (hs.of_run henv hstep) henv hsteps
    exact ⟨hlast, List.forall_mem_cons.2 ⟨Step.fault?_of_run hstep, hall⟩⟩

/-- In a session that can log, steps stop at the first that is not possible, and nothing comes of
this one. -/
lemma of_stopsAt (h : StopsAt env s steps done f last) : done = reached env s.quiet steps ∧
    steps.findSome? (Step.fault? env s.quiet) = some f ∧ Performs env s done last := by
  obtain ⟨step, later, before, folder', rfl, hbefore, rfl, hfails⟩ := h.exists_fails
  obtain ⟨hcan, hall⟩ := hs.of_performs henv hbefore
  obtain ⟨folder, rfl⟩ := hbefore.exists_past
  have hfault : step.fault? env s.quiet = some f := hcan.fault?_of_fails henv hfails
  refine ⟨?_, ?_, ?_⟩
  · have hnot : ¬ step.isPossible env s.quiet := by simp [Step.isPossible, hfault]
    have hdone : ∀ step ∈ done, step.isPossible env s.quiet :=
      fun step hstep => Option.isNone_iff_eq_none.2 (hall step hstep)
    rw [reached, List.takeWhile_append_of_pos hdone, List.takeWhile_cons_of_neg hnot,
      List.append_nil]
  · rw [List.findSome?_append, List.findSome?_eq_none_iff.2 hall, List.findSome?_cons, hfault]
    rfl
  · obtain rfl := hfails.folder_eq fun fault hlog => Step.fault?_ne_log _ fault (hlog ▸ hfault)
    exact hbefore

/-- In a session that can log, steps are taken up to the first that is not possible, and what comes
of them is told without the session. -/
lemma of_ends {r₀ r : Except Failure α} (h : Ends env s steps r₀ r last) :
    Performs env s (reached env s.quiet steps) last ∧ r = outcome env s.quiet steps r₀ := by
  cases h with
  | performed h =>
    have hall := (hs.of_performs henv h).2
    have hreached : reached env s.quiet steps = steps :=
      List.takeWhile_eq_self_iff.2 fun step hstep => Option.isNone_iff_eq_none.2 (hall step hstep)
    rw [hreached, outcome, List.findSome?_eq_none_iff.2 hall]
    exact ⟨h, rfl⟩
  | stopped h =>
    obtain ⟨rfl, hfault, hdone⟩ := hs.of_stopsAt henv h
    rw [outcome, hfault]
    exact ⟨hdone, rfl⟩

end Session.CanLog

end Montage
