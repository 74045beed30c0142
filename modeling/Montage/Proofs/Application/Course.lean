import Montage.Application
import Montage.Proofs.Session.Confirmation

/-!
# The course of a run

The steps of a whole run, and what it gives after them, told from its settings, its command line and
the answer of the operator. What follows about whole runs is read off these steps.
-/

namespace Montage

open Run Session

/-- The session of a run that has taken over settings. -/
def Session.under (s : Session) (settings : Settings) : Session :=
  { s with quiet := settings.quiet, log := settings.debugLog }

namespace Application

variable {α β : Type} {env : Surroundings} {search : Settings.Search} {arguments : List String}
  {settings : Settings} {s : Session} {e : Failure} {result : Except Failure α} {stage : String}
  {part : Run (Option α)} {steps : List Step} {r : Except Failure α}

/-! ### Reports -/

def reportSteps (e : Failure) : List Step :=
  match e.problem? with
  | some p => [.say (p.display ++ "\n")]
  | none => []

def failureSteps (stage : String) (e : Failure) : List Step :=
  match e.problem? with
  | some p => .note (stage ++ " failed: " ++ p.display) :: reportSteps e
  | none => []

/-- What a part of a run gives that stops with a failure: nothing, if it reports a problem. -/
def refusal (e : Failure) : Except Failure (Option α) :=
  if e.problem?.isSome then .ok none else .error e

/-- What a run gives after the result of its last part. -/
def conclusion : Except Failure α → Except Failure Int
  | .ok _ => .ok 0
  | .error e => if e.problem?.isSome then .ok 0 else .error e

/-- Reporting a failure prints its problem, or stops with it if it has none. -/
lemma does_orReport_report (e : Failure) (s : Session) :
    Does env s (orReport (.error e : Except Failure α) (report env)) (reportSteps e)
      (refusal e) := by
  rw [orReport, reportSteps, refusal]
  cases e.problem? with
  | some p => exact (does_print env _ s).bind_nil fun s => does_pure none
  | none => exact does_throw e

/-- Reporting a failure of a stage logs it in front. -/
lemma does_orReport_reportIn (e : Failure) (s : Session) :
    Does env s (orReport (.error e : Except Failure α) (reportIn env stage))
      (failureSteps stage e) (refusal e) := by
  rw [orReport, failureSteps, refusal, reportSteps]
  cases e.problem? with
  | some p =>
    have hreport : Does env s (reportIn env stage p)
        [.note (stage ++ " failed: " ++ p.display), .say (p.display ++ "\n")] (.ok ()) :=
      (does_writeLog env _ s).bind fun s _ => does_print env _ s
    exact hreport.bind_nil fun s => does_pure none
  | none => exact does_throw e

/-- Where nothing is given, what was to come is left out. -/
lemma does_bind_refusal {next : Option α → Run (Option β)}
    (h : Does env s part steps (refusal e)) (hnone : next none = pure none) :
    Does env s (part >>= next) steps (refusal e) := by
  unfold refusal at h ⊢
  split_ifs at h ⊢
  · refine h.bind_nil fun s => ?_
    rw [hnone]
    exact does_pure none
  · exact h.bind_error

/-! ### The first part -/

/-- The first message of a run. -/
def argvMessage (arguments : List String) : String := "argv: " ++ listText (arguments.map literal)

/-- What reading the command line gives. Paths are looked up in the folder that the first message
has left, which may have made the log. -/
def reading (env : Surroundings) (settings : Settings) (arguments : List String) (s : Session) :
    Except Failure (List Operation) :=
  let noted := ((writeLog env (argvMessage arguments)).on s).2
  parseArguments (accepts settings noted.folder) arguments

/-- The steps before the dialogue, if the command line is read with a result. -/
def preparationSteps (env : Surroundings) (settings : Settings) (arguments : List String)
    (result : Except Failure (List Operation)) : List Step :=
  .note (argvMessage arguments) ::
    match result with
    | .error e => failureSteps "parse" e
    | .ok ops =>
      match displayOperations ops with
      | .error _ => []
      | .ok shown =>
        echoSteps shown ++
          match compileOperations env.curve settings.programs ops with
          | .error e => failureSteps "build" e
          | .ok c => echoSteps c.display

def prepared (env : Surroundings) (settings : Settings)
    (result : Except Failure (List Operation)) : Except Failure (Option Command) :=
  match result with
  | .error e => refusal e
  | .ok ops =>
    match displayOperations ops with
    | .error f => .error (.number f)
    | .ok _ =>
      match compileOperations env.curve settings.programs ops with
      | .error e => refusal e
      | .ok c => .ok (some c)

/-- A command line is compiled by the steps of its preparation. -/
lemma does_compileLine (env : Surroundings) (settings : Settings) (arguments : List String)
    (s : Session) : Does env s (compileLine env settings arguments)
      (preparationSteps env settings arguments (reading env settings arguments s))
      (prepared env settings (reading env settings arguments s)) := by
  refine (does_writeLog env (argvMessage arguments) s).bind fun s' hs' => ?_
  have hreading : parseArguments (accepts settings s'.folder) arguments
      = reading env settings arguments s := by
    have hnoted : ((writeLog env (argvMessage arguments)).on s).2 = s' :=
      congrArg Prod.snd ((does_writeLog env (argvMessage arguments) s).of_performs hs')
    rw [reading, hnoted]
  rw [does_get_bind]
  dsimp only
  rw [hreading]
  cases reading env settings arguments s with
  | error e => exact does_bind_refusal (does_orReport_reportIn e s') rfl
  | ok ops =>
    apply Does.bind_pure (does_pure (some ops))
    rw [prepared]
    dsimp only
    cases displayOperations ops with
    | error f => exact (does_throw (.number f)).bind_error
    | ok shown =>
      apply Does.bind_pure (does_pure shown)
      dsimp only
      refine (does_echo env shown s').bind fun s _ => ?_
      cases compileOperations env.curve settings.programs ops with
      | error e => exact does_bind_refusal (does_orReport_reportIn e s) rfl
      | ok c =>
        apply Does.bind_pure (does_pure (some c))
        exact (does_echo env c.display s).bind_nil fun s => does_pure (some c)

/-! ### Whole runs -/

def closingSteps (env : Surroundings) (settings : Settings) (c : Command) (input : List Char) :
    List Step :=
  dialogueSteps env c settings.execute input ++
    match dialogueResult env c settings.execute input with
    | .error e => reportSteps e
    | .ok _ => []

/-- The steps of a run that has taken over settings. -/
def runSteps (env : Surroundings) (settings : Settings) (arguments : List String) (s : Session) :
    List Step :=
  let result := reading env settings arguments s
  preparationSteps env settings arguments result ++
    match prepared env settings result with
    | .ok (some c) => closingSteps env settings c s.input
    | _ => []

def runResult (env : Surroundings) (settings : Settings) (arguments : List String) (s : Session) :
    Except Failure Int :=
  match prepared env settings (reading env settings arguments s) with
  | .error e => .error e
  | .ok none => .ok 0
  | .ok (some c) => conclusion (dialogueResult env c settings.execute s.input)

/-- A part of a run that is reported on takes its own steps and then those of the report. -/
lemma does_reporting {report : Problem → Run Unit} {rest : List Step} {r : Except Failure β}
    {part : Run β} {r' : Except Failure (Option β)} (h : Does env s part steps r)
    (hreport : ∀ s', Does env s' (orReport r report) rest r') :
    Does env s (reporting part report) (steps ++ rest) r' := by
  rw [Does, on_reporting, perform_append, bind_assoc, on_bind]
  obtain ⟨last, hsteps⟩ | ⟨done, f, last, hsteps⟩ := performs_or_stopsAt env steps s
  · rw [h.of_performs hsteps, hsteps]
    exact hreport last
  · rw [h.of_stopsAt hsteps, hsteps.result]
    rfl

/-- A run concludes with the dialogue, a report of its failure if it has one, and the status. -/
lemma does_conclude (env : Surroundings) (settings : Settings) (c : Command) (s : Session) :
    Does env s
      (do
        discard (reporting (runConfirmed env c settings.execute) (report env))
        return (0 : Int))
      (closingSteps env settings c s.input)
      (conclusion (dialogueResult env c settings.execute s.input)) := by
  rw [discard_bind]
  have hdialogue := does_runConfirmed env c settings.execute s
  unfold closingSteps
  generalize dialogueResult env c settings.execute s.input = r at hdialogue ⊢
  cases r with
  | ok b =>
    exact (does_reporting hdialogue fun s => does_pure (some b)).bind_nil fun s => does_pure 0
  | error e =>
    have hreport := does_reporting hdialogue fun s => does_orReport_report e s
    unfold refusal at hreport
    rw [conclusion]
    split_ifs at hreport ⊢
    · exact hreport.bind_nil fun s => does_pure 0
    · exact hreport.bind_error

/-- No answer is read before the dialogue. -/
lemma rest_preparationSteps (result : Except Failure (List Operation)) (input : List Char) :
    (preparationSteps env settings arguments result).foldl Step.rest input = input := by
  have hfailure : ∀ stage e, (failureSteps stage e).foldl Step.rest input = input := by
    intro stage e
    unfold failureSteps reportSteps
    cases e.problem? <;> rfl
  cases result with
  | error e => exact hfailure "parse" e
  | ok ops =>
    unfold preparationSteps
    dsimp only
    cases displayOperations ops with
    | error f => rfl
    | ok shown =>
      cases compileOperations env.curve settings.programs ops with
      | error e => exact hfailure "build" e
      | ok c => rfl

/-- With settings, a run takes its steps and nothing else. -/
lemma does_run (arguments : List String)
    (hload : Settings.load env.yaml search s.folder = .ok settings) :
    (run env search arguments).on s
      = (perform env (runSteps env settings arguments (s.under settings)) >>= fun _ =>
          orFail (runResult env settings arguments (s.under settings))).on (s.under settings) := by
  have hswitch : (prepare env search arguments).on s
      = (compileLine env settings arguments >>= fun command =>
        pure (command.map (·, settings.execute))).on (s.under settings) := by
    unfold prepare
    rw [on_get_bind]
    dsimp only
    rw [hload]
    rfl
  unfold run
  rw [on_bind, hswitch, ← on_bind]
  change Does env (s.under settings) _ _ _
  have hline := does_compileLine env settings arguments (s.under settings)
  unfold runSteps runResult
  dsimp only
  generalize hsteps : preparationSteps env settings arguments _ = steps at hline ⊢
  generalize prepared env settings _ = result at hline ⊢
  cases result with
  | error e =>
    rw [List.append_nil]
    exact hline.bind_error.bind_error
  | ok command =>
    have hfirst : Does env (s.under settings) (compileLine env settings arguments >>= fun command =>
        pure (command.map (·, settings.execute))) steps (.ok (command.map (·, settings.execute))) :=
      hline.bind_nil fun s => does_pure _
    cases command with
    | none => exact hfirst.bind fun s _ => does_pure 0
    | some c =>
      refine hfirst.bind fun s' hs' => ?_
      have hinput : (s.under settings).input = s'.input := by
        obtain ⟨folder, rfl⟩ := hs'.exists_past
        rw [← hsteps]
        exact (rest_preparationSteps _ _).symm
      rw [hinput]
      exact does_conclude env settings c s'

/-- A run that has taken over settings ends after its steps, or at the first of them that fails. -/
lemma ends_run (arguments : List String)
    (hload : Settings.load env.yaml search s.folder = .ok settings) :
    (run env search arguments).Ensures s (Ends env (s.under settings)
      (runSteps env settings arguments (s.under settings))
      (runResult env settings arguments (s.under settings))) := by
  rw [Ensures, does_run arguments hload]
  exact ends_perform env _ _ _

/-! ### Runs that come to an end -/

/-- A run loads settings, and then reads its command line with a result. -/
structure Reads (env : Surroundings) (search : Settings.Search) (arguments : List String)
    (s : Session) (settings : Settings) (result : Except Failure (List Operation)) : Prop where
  load_eq : Settings.load env.yaml search s.folder = .ok settings
  reading_eq : reading env settings arguments (s.under settings) = result

variable {c : Command} {input : List Char} {ops : List Operation} {shown : String}

/-- A run whose command line is not read reports why. -/
lemma runSteps_of_reading_eq_error (h : reading env settings arguments s = .error e) :
    runSteps env settings arguments s
      = .note (argvMessage arguments) :: failureSteps "parse" e := by
  unfold runSteps preparationSteps prepared refusal
  rw [h]
  dsimp only
  split_ifs <;> exact List.append_nil _

lemma runResult_of_reading_eq_error (h : reading env settings arguments s = .error e) :
    runResult env settings arguments s = conclusion (.error e : Except _ Unit) := by
  unfold runResult prepared refusal conclusion
  rw [h]
  dsimp only
  split_ifs <;> rfl

/-- A run whose operations do not compile shows them and reports why. -/
lemma runSteps_of_compile_eq_error (h : reading env settings arguments s = .ok ops)
    (hshown : displayOperations ops = .ok shown)
    (hcompile : compileOperations env.curve settings.programs ops = .error e) :
    runSteps env settings arguments s
      = .note (argvMessage arguments) :: (echoSteps shown ++ failureSteps "build" e) := by
  unfold runSteps preparationSteps prepared refusal
  simp only [h, hshown, hcompile]
  split_ifs <;> exact List.append_nil _

section

variable (h : reading env settings arguments s = .ok ops)
  (hshown : displayOperations ops = .ok shown)
  (hcompile : compileOperations env.curve settings.programs ops = .ok c)

include h hshown hcompile

/-- A run whose operations compile shows them and the command, and holds the dialogue about it. -/
lemma runSteps_of_compile_eq_ok : runSteps env settings arguments s
    = .note (argvMessage arguments) ::
      (echoSteps shown ++ (echoSteps c.display ++ closingSteps env settings c s.input)) := by
  unfold runSteps preparationSteps prepared
  simp only [h, hshown, hcompile]
  rfl

lemma runResult_of_compile_eq_ok : runResult env settings arguments s
    = conclusion (dialogueResult env c settings.execute s.input) := by
  unfold runResult prepared
  simp only [h, hshown, hcompile]

end

def statusSteps (env : Surroundings) (c : Command) : List Step :=
  match env.execute c.shellText with
  | .ok ended =>
    if ended.status = 0 then [] else reportSteps (.exitStatus c.invocation ended.status)
  | .error _ => []

/-- A confirmed command is run if commands are to be executed. -/
lemma closingSteps_of_consents (hyes : Consents input) (hexecute : settings.execute = true) :
    closingSteps env settings c input = questionSteps env c ++ (answerSteps input ++
      (executionSteps env c.shellText ++ statusSteps env c)) := by
  unfold closingSteps dialogueSteps replySteps dialogueResult executionResult statusSteps
  rw [if_pos hyes, if_pos hyes, hexecute, if_pos rfl, if_pos rfl, stripped_shellText,
    List.append_assoc, List.append_assoc]
  cases env.execute c.shellText with
  | error fault => rfl
  | ok ended =>
    congr 3
    by_cases hstatus : ended.status = 0
    · simp only [hstatus]
      rfl
    · dsimp only
      rw [if_neg hstatus]
      exact congrArg (fun r : Except Failure Bool => match r with
        | .error e => reportSteps e
        | .ok _ => []) (if_pos hstatus)

/-- A confirmed command is not run if no commands are to be executed, and the note says so. -/
lemma closingSteps_of_disabled (hyes : Consents input) (hexecute : settings.execute = false) :
    closingSteps env settings c input
      = questionSteps env c ++ (answerSteps input ++ echoSteps disabledNotice) := by
  unfold closingSteps dialogueSteps replySteps dialogueResult
  rw [if_pos hyes, if_pos hyes, hexecute]
  exact List.append_nil _

/-- A command that is not confirmed is not run. -/
lemma closingSteps_of_declined (hno : ¬ Consents input) :
    closingSteps env settings c input
      = questionSteps env c ++ (answerSteps input ++ [.say ("Exiting..." ++ "\n")]) := by
  unfold closingSteps dialogueSteps replySteps dialogueResult
  rw [if_neg hno, if_neg hno]
  exact List.append_nil _

/-- A dialogue that does not stop at a step ends the run in good order. -/
lemma conclusion_dialogueResult (hstart : settings.execute = true → Consents input →
    ∃ ended, env.execute c.shellText = .ok ended) :
    conclusion (dialogueResult env c settings.execute input) = .ok 0 := by
  unfold dialogueResult executionResult
  rw [stripped_shellText]
  split_ifs with hyes hexecute
  · obtain ⟨ended, hended⟩ := hstart hexecute hyes
    rw [hended]
    change conclusion (if ended.status ≠ 0 then _ else _ : Except Failure Bool) = _
    split_ifs <;> rfl
  · rfl
  · rfl

end Application

end Montage
