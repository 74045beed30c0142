import Montage.Proofs.Session.Steps
import Montage.Proofs.Shell.Ends

/-!
# Confirming and executing a command

The steps of the dialogue about a command. A command is started only after the answer `Y`, and just
once; what is started is the command as it is written for a shell.
-/

namespace Montage

open Run

variable {env : Surroundings} {s s' : Session} {c : Command} {execute : Bool} {input : List Char}
  {ended : Execution} {fault : StartFault}

namespace Session

/-! ### The answer -/

/-- The input says yes: its first line is `Y`, but for carriage returns at its end. -/
def Consents (input : List Char) : Prop :=
  ∃ returns rest, input = 'Y' :: (List.replicate returns '\r' ++ rest) ∧
    (rest = [] ∨ ∃ more, rest = '\n' :: more)

/-- The answer is the first line, without the carriage returns at its end. -/
lemma answerOf_line {line rest : List Char} (hline : '\n' ∉ line)
    (hrest : rest = [] ∨ ∃ more, rest = '\n' :: more) :
    (answerOf (line ++ rest)).1 = (line.reverse.dropWhile (· == '\r')).reverse := by
  have hkeep : ∀ c ∈ line, (c != '\n') = true := by
    intro c hc
    rw [bne_iff_ne]
    rintro rfl
    exact hline hc
  have htake : rest.takeWhile (· != '\n') = [] := by
    obtain rfl | ⟨more, rfl⟩ := hrest <;> rfl
  have hfront : (line ++ rest).takeWhile (· != '\n') = line := by
    rw [List.takeWhile_append_of_pos hkeep, htake, List.append_nil]
  rw [answerOf, hfront]

/-- Input is a line, and maybe more behind a line feed. -/
lemma exists_line (input : List Char) : ∃ line rest, input = line ++ rest ∧ '\n' ∉ line ∧
    (rest = [] ∨ ∃ more, rest = '\n' :: more) := by
  refine ⟨input.takeWhile (· != '\n'), input.dropWhile (· != '\n'),
    List.takeWhile_append_dropWhile.symm, ?_, ?_⟩
  · intro h
    have := List.mem_takeWhile_imp h
    simp at this
  · cases hrest : input.dropWhile (· != '\n') with
    | nil => exact .inl rfl
    | cons c more =>
      have hne : input.dropWhile (· != '\n') ≠ [] := by simp [hrest]
      have hc := List.head_dropWhile_not (· != '\n') hne
      simp only [hrest, List.head_cons, bne_eq_false_iff_eq] at hc
      exact .inr ⟨more, by rw [hc]⟩

/-- Only carriage returns are dropped at the end. -/
lemma dropReturns_eq_iff {line : List Char} {c : Char} (hc : c ≠ '\r') :
    (line.reverse.dropWhile (· == '\r')).reverse = [c] ↔
      ∃ returns, line = c :: List.replicate returns '\r' := by
  constructor
  · intro h
    obtain ⟨returns, hreturns⟩ : ∃ returns, line.reverse.takeWhile (· == '\r')
        = List.replicate returns '\r' := by
      refine ⟨_, List.eq_replicate_of_mem fun d hd => ?_⟩
      simpa using List.mem_takeWhile_imp hd
    refine ⟨returns, ?_⟩
    calc line
      _ = (line.reverse.takeWhile (· == '\r') ++ line.reverse.dropWhile (· == '\r')).reverse := by
        rw [List.takeWhile_append_dropWhile, List.reverse_reverse]
      _ = c :: List.replicate returns '\r' := by
        rw [List.reverse_append, h, hreturns, List.reverse_replicate, List.singleton_append]
  · rintro ⟨returns, rfl⟩
    have hdrop : (List.replicate returns '\r').dropWhile (· == '\r') = [] := by
      simp
    rw [List.reverse_cons, List.reverse_replicate, List.dropWhile_append, hdrop]
    simp [hc]

lemma answerOf_eq_iff {input : List Char} : (answerOf input).1 = ['Y'] ↔ Consents input := by
  constructor
  · intro h
    obtain ⟨line, rest, rfl, hline, hrest⟩ := exists_line input
    rw [answerOf_line hline hrest, dropReturns_eq_iff (by decide)] at h
    obtain ⟨returns, rfl⟩ := h
    exact ⟨returns, rest, rfl, hrest⟩
  · rintro ⟨returns, rest, rfl, hrest⟩
    have hline : '\n' ∉ 'Y' :: List.replicate returns '\r' := by simp [List.mem_replicate]
    rw [← List.cons_append, answerOf_line hline hrest, dropReturns_eq_iff (by decide)]
    exact ⟨returns, rfl⟩

instance (input : List Char) : Decidable (Consents input) := decidable_of_iff _ answerOf_eq_iff

lemma beq_answerOf (input : List Char) :
    ((answerOf input).1 == ['Y']) = decide (Consents input) := by
  rw [Bool.eq_iff_iff, beq_iff_eq, decide_eq_true_iff, answerOf_eq_iff]

end Session

open Session

/-! ### Running a command -/

/-- A command as it is shown and started: without blanks around it. -/
def stripped (command : String) : String := .ofList (trimBlanks command.toList)

def startLine (command : String) : String := "CMD: '" ++ stripped command ++ "'" ++ "\n"

def startMessage (command : String) : String := "start: " ++ stripped command

def endMessage (ended : Execution) (command : String) : String :=
  "end (" ++ ended.elapsed.fixedText 3 ++ "s, rc=" ++ ended.status.repr ++ "): " ++ stripped command

/-- The steps of running a command. If it cannot be started, there is no message about its end. -/
def executionSteps (env : Surroundings) (command : String) : List Step :=
  [.say (startLine command), .note (startMessage command), .execute (stripped command)] ++
    match env.execute (stripped command) with
    | .ok ended => [.note (endMessage ended command)]
    | .error _ => []

def executionResult (env : Surroundings) (command : String) : Except Failure Int :=
  match env.execute (stripped command) with
  | .ok ended => .ok ended.status
  | .error fault => .error (.effect (.start fault))

/-- Running a command takes the steps up to its start, and those behind it if it can be started. -/
lemma does_runCommand (env : Surroundings) (command : String) (s : Session) :
    Does env s (runCommand env command) (executionSteps env command)
      (executionResult env command) := by
  refine (does_print env _ s).bind fun s _ => (does_writeLog env _ s).bind fun s _ => ?_
  unfold executionResult
  cases hstart : env.execute (stripped command) with
  | ok ended =>
    refine (does_execute hstart).bind fun s _ => ?_
    exact (does_writeLog env _ s).bind_nil fun s => does_pure ended.status
  | error fault => exact (does_execute_error hstart _).bind_error

/-- The text of a command for a shell has no blanks around it. -/
lemma stripped_shellText (c : Command) : stripped c.shellText = c.shellText := by
  rw [stripped, Shell.trimBlanks_shellText, String.ofList_toList]

/-! ### The dialogue -/

def questionSteps (env : Surroundings) (c : Command) : List Step :=
  [.say "The command that will be executed is:\n\n", .say (commandLine env.terminal "\t" c.text),
    .say "\nAre you sure you wanna execute? (Y/n): \n"]

def answerSteps (input : List Char) : List Step :=
  [.listen, .note ("confirmation answer: " ++ literal (.ofList (answerOf input).1))]

/-- What is echoed in place of running a command. -/
def disabledNotice : String := "execution disabled, set `execute: true` in the config to run"

def replySteps (env : Surroundings) (c : Command) (execute : Bool) (input : List Char) :
    List Step :=
  if Consents input then
    if execute then executionSteps env c.shellText else echoSteps disabledNotice
  else [.say ("Exiting..." ++ "\n")]

def dialogueSteps (env : Surroundings) (c : Command) (execute : Bool) (input : List Char) :
    List Step :=
  questionSteps env c ++ (answerSteps input ++ replySteps env c execute input)

def dialogueResult (env : Surroundings) (c : Command) (execute : Bool) (input : List Char) :
    Except Failure Bool :=
  if Consents input then
    if execute then do
      let status ← executionResult env c.shellText
      if status ≠ 0 then .error (.exitStatus c.invocation status) else .ok true
    else .ok true
  else .ok false

lemma does_ask (env : Surroundings) (c : Command) (s : Session) :
    Does env s (ask env c) (questionSteps env c) (.ok ()) :=
  (does_print env _ s).bind fun s _ => (does_print env _ s).bind fun s _ => does_print env _ s

/-- The answer is read and logged, and it is yes just with consent. -/
lemma does_isConfirmed (env : Surroundings) (s : Session) :
    Does env s (isConfirmed env) (answerSteps s.input) (.ok (decide (Consents s.input))) := by
  rw [← beq_answerOf]
  exact (does_readAnswer env s).bind fun s' _ =>
    (does_writeLog env _ s').bind_nil fun _ => does_pure _

/-- The dialogue about a command takes its steps and nothing else. -/
lemma does_runConfirmed (env : Surroundings) (c : Command) (execute : Bool) (s : Session) :
    Does env s (runConfirmed env c execute) (dialogueSteps env c execute s.input)
      (dialogueResult env c execute s.input) := by
  refine (does_ask env c s).bind fun s' hs' => ?_
  have hinput : s'.input = s.input := by
    obtain ⟨folder, rfl⟩ := hs'.exists_past
    rfl
  rw [← hinput]
  refine (does_isConfirmed env s').bind fun s _ => ?_
  unfold replySteps dialogueResult
  by_cases hyes : Consents s'.input
  · rw [decide_eq_true hyes, if_pos hyes, if_pos hyes]
    cases execute with
    | false => exact (does_echo env disabledNotice s).bind_nil fun s => does_pure true
    | true =>
      rw [if_pos rfl, if_pos rfl]
      have hrun := does_runCommand env c.shellText s
      cases hresult : executionResult env c.shellText with
      | error e =>
        rw [hresult] at hrun
        exact hrun.bind_error
      | ok status =>
        rw [hresult] at hrun
        refine hrun.bind_nil fun s => ?_
        change Does env s (if status ≠ 0 then throw _ else pure true) []
          (if status ≠ 0 then .error _ else .ok true)
        split_ifs
        · exact does_throw _
        · exact does_pure true
  · rw [decide_eq_false hyes, if_neg hyes, if_neg hyes]
    exact (does_print env _ s).bind_nil fun s => does_pure false

end Montage
