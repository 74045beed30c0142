import Montage.Proofs.Application.Course
import Montage.Proofs.Arguments.Failure
import Montage.Proofs.Settings
import Montage.Proofs.Shell.Compiled
import Montage.Yaml.Document

/-!
# Consent to what is started

A run starts a command only if its settings allow this, its command line could be read and compiled,
and the operator agreed; then it starts the command that was compiled, and no other.
-/

namespace Montage.Application

open Run Session

variable {env : Surroundings} {search : Settings.Search} {arguments ts : List String}
  {folder : Folder} {settings : Settings} {s last : Session} {c : Command} {e : Failure}
  {accepts : String → Bool} {op : Operation} {ops : List Operation} {shown input : String}
  {p : Problem} {steps : List Step} {cs : List Char} {r : Except Failure Int}
  {result : Except Failure (List Operation)} {quiet : Bool}

/-! ### What was read can be shown and compiled -/

/-- Flags hold numbers that are short enough to be written. -/
lemma exists_display_of_isFlag (h : op.IsFlag) : ∃ shown, op.display = .ok shown := by
  have hlimit := le_powerOfTen_digitLimit
  cases h with
  | resize hw hh =>
    rw [Operation.display, decimalText_eq_ok (by omega), decimalText_eq_ok (by omega)]
    exact ⟨_, rfl⟩
  | quality hs =>
    rw [Operation.display, decimalText_eq_ok (by omega)]
    exact ⟨_, rfl⟩
  | preview => exact ⟨_, rfl⟩

/-- So do the operations that end a command line. -/
lemma exists_display_of_ending (h : Ending ops) (hop : op ∈ ops) :
    ∃ shown, op.display = .ok shown := by
  cases h with
  | nothing => nomatch hop
  | output hpath =>
    obtain rfl := List.mem_singleton.1 hop
    exact ⟨_, rfl⟩
  | mergeOutput hpaths hpath | mergePreview hpaths =>
    obtain rfl | rfl := List.mem_pair.1 hop
    · exact ⟨_, rfl⟩
    · exact ⟨_, rfl⟩

/-- Operations that can each be shown can be shown as a list. -/
lemma exists_displayOperations (h : ∀ op ∈ ops, ∃ shown, op.display = .ok shown) :
    ∃ shown, displayOperations ops = .ok shown := by
  have hmap : ∃ texts, ops.mapM Operation.display = .ok texts := by
    induction ops with
    | nil => exact ⟨[], rfl⟩
    | cons op ops ih =>
      rw [List.forall_mem_cons] at h
      obtain ⟨shown, hshown⟩ := h.1
      obtain ⟨texts, htexts⟩ := ih h.2
      exact ⟨shown :: texts, by rw [List.mapM_cons, hshown, htexts]; rfl⟩
  obtain ⟨texts, htexts⟩ := hmap
  rw [displayOperations, htexts]
  exact ⟨_, rfl⟩

/-- The operations of a command line can be shown. -/
lemma exists_shown (h : parseArguments accepts ts = .ok ops) :
    ∃ shown, displayOperations ops = .ok shown := by
  obtain ⟨program, tokens, -, htakes⟩ := parseArguments_eq_ok_iff.1 h
  obtain ⟨flags, ending, rfl, hflags, hending⟩ := htakes.exists_parts
  apply exists_displayOperations
  intro op hop
  rcases List.mem_append.1 hop with hop | hop
  · exact exists_display_of_isFlag (hflags op hop)
  · exact exists_display_of_ending hending hop

/-- The operations of a command line can be shown and compiled. -/
lemma exists_shown_compiled (h : parseArguments accepts ts = .ok ops)
    (hcurve : ∀ score, .quality score ∈ ops → env.curve.Covers score) (programs : Programs) :
    ∃ shown c, displayOperations ops = .ok shown ∧
      compileOperations env.curve programs ops = .ok c := by
  obtain ⟨shown, hshown⟩ := exists_shown h
  obtain ⟨c, hc⟩ := exists_compileOperations_of_parseArguments h hcurve programs
  exact ⟨shown, c, hshown, hc⟩

/-! ### What is started -/

lemma commandsOf_reportSteps (e : Failure) : commandsOf (reportSteps e) = [] := by
  unfold reportSteps
  cases e.problem? <;> rfl

/-- Running a command starts it, without the blanks at its ends, and nothing else. -/
lemma commandsOf_executionSteps (env : Surroundings) (command : String) :
    commandsOf (executionSteps env command) = [stripped command] := by
  unfold executionSteps
  cases env.execute (stripped command) <;> rfl

/-- A dialogue starts the command that it is about if this is confirmed and enabled, and nothing
otherwise. -/
lemma commandsOf_closingSteps (env : Surroundings) (settings : Settings) (c : Command)
    (cs : List Char) : commandsOf (closingSteps env settings c cs)
      = if settings.execute ∧ Consents cs then [c.shellText] else [] := by
  have hquestion : commandsOf (questionSteps env c) = [] := rfl
  have hanswer : commandsOf (answerSteps cs) = [] := rfl
  by_cases hyes : Consents cs
  · cases hexecute : settings.execute with
    | true =>
      have hstatus : commandsOf (statusSteps env c) = [] := by
        unfold statusSteps
        cases env.execute c.shellText with
        | error fault => rfl
        | ok ended =>
          dsimp only
          split_ifs
          · rfl
          · exact commandsOf_reportSteps _
      rw [closingSteps_of_consents hyes hexecute, if_pos ⟨rfl, hyes⟩]
      simp only [commandsOf_append, hquestion, hanswer, hstatus, commandsOf_executionSteps,
        stripped_shellText]
      rfl
    | false =>
      rw [closingSteps_of_disabled hyes hexecute, if_neg (by simp)]
      rfl
  · rw [closingSteps_of_declined hyes, if_neg (by simp [hyes])]
    rfl

/-- With consent, the dialogue gets to the start of the command. -/
lemma mem_closingSteps_of_consents (hexecute : settings.execute = true) (hyes : Consents cs) :
    .execute c.shellText ∈ closingSteps env settings c cs := by
  have hcommands : commandsOf (closingSteps env settings c cs) = [c.shellText] := by
    rw [commandsOf_closingSteps, if_pos ⟨hexecute, hyes⟩]
  obtain ⟨step, hstep, hcommand⟩ : ∃ step ∈ closingSteps env settings c cs,
      step.command? = some c.shellText := by
    rw [← List.mem_filterMap, ← commandsOf, hcommands]
    exact List.mem_singleton_self _
  cases step with
  | execute command =>
    obtain rfl := Option.some.inj hcommand
    exact hstep
  | note | say | tell | listen => cases hcommand

/-- A run that comes to an end after a dialogue does so in good order. -/
lemma runResult_of_performs (hread : reading env settings arguments s = .ok ops)
    (hshown : displayOperations ops = .ok shown)
    (hcompile : compileOperations env.curve settings.programs ops = .ok c)
    (h : Performs env s (runSteps env settings arguments s) last) :
    runResult env settings arguments s = .ok 0 := by
  rw [runResult_of_compile_eq_ok hread hshown hcompile]
  apply conclusion_dialogueResult
  intro hexecute hyes
  rw [runSteps_of_compile_eq_ok hread hshown hcompile] at h
  apply h.exists_execute
  refine List.mem_cons_of_mem _ (List.mem_append_right _ (List.mem_append_right _ ?_))
  exact mem_closingSteps_of_consents hexecute hyes

/-! ### What is printed -/

def frontSteps (env : Surroundings) (arguments : List String) (shown : String) (c : Command)
    (input : List Char) : List Step :=
  .note (argvMessage arguments) :: (echoSteps shown ++ (echoSteps c.display ++
    (questionSteps env c ++ answerSteps input)))

def leadSteps (env : Surroundings) (arguments : List String) (shown : String) (c : Command)
    (input : List Char) : List Step :=
  frontSteps env arguments shown c input ++
    [.say (startLine c.shellText), .note (startMessage c.shellText)]

def endSteps (env : Surroundings) (c : Command) : List Step :=
  match env.execute c.shellText with
  | .ok ended => .note (endMessage ended c.shellText) :: statusSteps env c
  | .error _ => []

section

variable (hread : reading env settings arguments s = .ok ops)
  (hshown : displayOperations ops = .ok shown)
  (hcompile : compileOperations env.curve settings.programs ops = .ok c)
  (hexecute : settings.execute = true) (hyes : Consents s.input)

include hread hshown hcompile hexecute hyes

/-- The steps of a run with consent, with the start of the command in their middle. -/
lemma runSteps_of_consents : runSteps env settings arguments s
    = leadSteps env arguments shown c s.input ++ .execute c.shellText :: endSteps env c := by
  rw [runSteps_of_compile_eq_ok hread hshown hcompile, closingSteps_of_consents hyes hexecute,
    leadSteps, frontSteps, endSteps, executionSteps, stripped_shellText]
  unfold statusSteps
  simp only [List.cons_append, List.append_assoc, List.nil_append]
  cases env.execute c.shellText <;> rfl

end

/-! ### Reports -/

end Montage.Application
