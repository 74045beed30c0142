import Montage.Proofs.Session.Run

/-!
# Steps

A part of a run is told by the steps that it takes: messages for the log, texts for the output, an
answer that is read, a command that is started. Each step may fail, and the first one that does ends
the part. What has been printed and started by then is read off the steps in front of it.
-/

namespace Montage

open Run Session

/-- Something that a run does to its surroundings. -/
inductive Step
  /-- Gives a message to the log. -/
  | note (message : String)
  /-- Prints a text. -/
  | say (text : String)
  /-- Prints a text, unless in quiet mode. -/
  | tell (text : String)
  /-- Reads an answer. -/
  | listen
  /-- Starts a command. -/
  | execute (command : String)
  deriving DecidableEq

variable {α β : Type} {env : Surroundings} {s s' last : Session} {step : Step}
  {steps steps' done : List Step} {part : Run α} {next : α → Run β} {quiet : Bool}
  {e : Failure} {f : EffectFault} {folder : Folder}

namespace Step

def run (env : Surroundings) : Step → Run Unit
  | note message => writeLog env message
  | say text => print env text
  | tell text => do if !(← get).quiet then print env text
  | listen => discard readAnswer
  | execute command => discard (Session.execute env command)

@[simp] def text (quiet : Bool) : Step → String
  | say text => text
  | tell text => if quiet then "" else text
  | note _ | listen | execute _ => ""

@[simp] def message? : Step → Option String
  | note message => some message
  | say _ | tell _ | listen | execute _ => none

@[simp] def command? : Step → Option String
  | execute command => some command
  | note _ | say _ | tell _ | listen => none

@[simp] def rest (input : List Char) : Step → List Char
  | listen => (answerOf input).2
  | note _ | say _ | tell _ | execute _ => input

end Step

def perform (env : Surroundings) : List Step → Run Unit
  | [] => pure ()
  | step :: steps => do
    step.run env
    perform env steps

def textOf (quiet : Bool) (steps : List Step) : String := .join (steps.map (Step.text quiet))

def messagesOf (steps : List Step) : List String := steps.filterMap Step.message?

def commandsOf (steps : List Step) : List String := steps.filterMap Step.command?

def Session.inFolder (s : Session) (folder : Folder) : Session := { s with folder }

/-- The session after steps, with what has become of its folder. -/
def Session.past (s : Session) (steps : List Step) (folder : Folder) : Session where
  folder
  input := steps.foldl Step.rest s.input
  quiet := s.quiet
  log := s.log
  messages := s.messages + (messagesOf steps).length
  printed := s.printed ++ textOf s.quiet steps
  started := s.started ++ commandsOf steps

@[simp] lemma textOf_nil : textOf quiet [] = "" := rfl

@[simp] lemma textOf_cons :
    textOf quiet (step :: steps) = step.text quiet ++ textOf quiet steps := by
  rw [textOf, List.map_cons, String.join_cons]
  rfl

@[simp] lemma messagesOf_nil : messagesOf [] = [] := rfl

@[simp] lemma messagesOf_cons :
    messagesOf (step :: steps) = step.message?.toList ++ messagesOf steps := by
  rw [messagesOf, List.filterMap_cons]
  cases step.message? <;> rfl

@[simp] lemma commandsOf_nil : commandsOf [] = [] := rfl

@[simp] lemma commandsOf_cons :
    commandsOf (step :: steps) = step.command?.toList ++ commandsOf steps := by
  rw [commandsOf, List.filterMap_cons]
  cases step.command? <;> rfl

@[simp] lemma textOf_append :
    textOf quiet (steps ++ steps') = textOf quiet steps ++ textOf quiet steps' := by
  rw [textOf, List.map_append, String.join_append]
  rfl

@[simp] lemma messagesOf_append :
    messagesOf (steps ++ steps') = messagesOf steps ++ messagesOf steps' :=
  List.filterMap_append

@[simp] lemma commandsOf_append :
    commandsOf (steps ++ steps') = commandsOf steps ++ commandsOf steps' :=
  List.filterMap_append

lemma Session.past_nil (s : Session) (folder : Folder) : s.past [] folder = s.inFolder folder := by
  simp [past, inFolder, textOf, messagesOf, commandsOf]

/-- Steps after steps are all of these steps. -/
lemma Session.past_past (s : Session) (folder folder' : Folder) :
    (s.past steps folder).past steps' folder' = s.past (steps ++ steps') folder' := by
  simp only [past, List.foldl_append, textOf_append, messagesOf_append, commandsOf_append,
    List.length_append, Nat.add_assoc, String.append_assoc, List.append_assoc]

/-! ### One step -/

lemma on_print (env : Surroundings) (text : String) (s : Session) :
    (print env text).on s = if env.canPrint text then
        (.ok (), { s with printed := s.printed ++ text })
      else (.error (.effect .output), s) := by
  unfold print
  split_ifs <;> rfl

lemma on_execute (env : Surroundings) (command : String) (s : Session) :
    (Session.execute env command).on s = match env.execute command with
      | .error f => (.error (.effect (.start f)), s)
      | .ok ended => (.ok ended,
          { s with folder := ended.change s.folder, started := s.started ++ [command] }) := by
  unfold Session.execute
  cases env.execute command <;> rfl

/-- An entry is appended to the log and counted, unless it is refused; without a log it is only
counted. -/
lemma on_writeLog (env : Surroundings) (message : String) (s : Session) :
    (writeLog env message).on s = match s.log with
      | none => (.ok (), { s with messages := s.messages + 1 })
      | some path =>
        match s.folder.append path (logEntry (env.clock s.messages) message) with
        | .error f => (.error (.effect (.log f)), s)
        | .ok folder =>
          match env.refusal? s.messages with
          | some refusal =>
            (.error (.effect (.log refusal.fault)), s.inFolder (refusal.change s.folder))
          | none => (.ok (), { s with folder, messages := s.messages + 1 }) := by
  obtain ⟨folder, input, quiet, log, messages, printed, started⟩ := s
  unfold writeLog
  rw [on_get_bind]
  cases log with
  | none => rfl
  | some path =>
    dsimp only
    cases folder.append path (logEntry (env.clock messages) message) with
    | error f => rfl
    | ok folder =>
      dsimp only
      cases env.refusal? messages <;> rfl

/-- In quiet mode, an echo is not printed and cannot fail. -/
lemma on_tell (env : Surroundings) (text : String) (s : Session) :
    ((Step.tell text).run env).on s = if s.quiet then (.ok (), s) else (print env text).on s := by
  rw [Step.run, on_get_bind]
  cases s.quiet <;> rfl

lemma on_listen (env : Surroundings) (s : Session) : (Step.listen.run env).on s
    = (.ok (), { s with input := (answerOf s.input).2 }) := by
  rw [Step.run, on_discard]
  rfl

/-- The session after a single step. -/
lemma Session.past_singleton (s : Session) (step : Step) (folder : Folder) :
    s.past [step] folder = { s with
      folder
      input := step.rest s.input
      messages := s.messages + step.message?.toList.length
      printed := s.printed ++ step.text s.quiet
      started := s.started ++ step.command?.toList } := by
  rw [past, messagesOf_cons, messagesOf_nil, List.append_nil, commandsOf_cons, commandsOf_nil,
    List.append_nil, textOf_cons, textOf_nil, String.append_empty]
  rfl

/-- What a step that succeeds makes of the files: only messages and commands change them. -/
def Step.Leads (env : Surroundings) (s : Session) (folder : Folder) : Step → Prop
  | note message =>
    match s.log with
    | none => folder = s.folder
    | some path => s.folder.append path (logEntry (env.clock s.messages) message) = .ok folder
  | execute command => ∃ ended, env.execute command = .ok ended ∧ folder = ended.change s.folder
  | _ => folder = s.folder

/-- Why a step fails, and what it leaves of the files: a message fails for the log, a text for the
output, and a command for its start. -/
inductive Step.Fails (env : Surroundings) (s : Session) : Step → EffectFault → Folder → Prop
  | log {message path : String} {fault : FileFault} (hlog : s.log = some path)
    (happend : s.folder.append path (logEntry (env.clock s.messages) message) = .error fault) :
    Fails env s (.note message) (.log fault) s.folder
  | refused {message path : String} {refusal : Refusal} (hlog : s.log = some path)
    (hrefusal : env.refusal? s.messages = some refusal) :
    Fails env s (.note message) (.log refusal.fault) (refusal.change s.folder)
  | say {text : String} (hprint : env.canPrint text = false) :
    Fails env s (.say text) .output s.folder
  | tell {text : String} (hquiet : s.quiet = false) (hprint : env.canPrint text = false) :
    Fails env s (.tell text) .output s.folder
  | execute {command : String} {fault : StartFault} (hstart : env.execute command = .error fault) :
    Fails env s (.execute command) (.start fault) s.folder

/-- A step succeeds and does what it stands for, or it fails, and then it has done nothing, but
perhaps to files. -/
lemma Step.on_run_cases (env : Surroundings) (step : Step) (s : Session) :
    (∃ folder, (step.run env).on s = (.ok (), s.past [step] folder) ∧ step.Leads env s folder) ∨
      ∃ f folder, (step.run env).on s = (.error (.effect f), s.inFolder folder) ∧
        step.Fails env s f folder := by
  simp only [past_singleton]
  cases step with
  | note message =>
    unfold Leads
    rw [Step.run, on_writeLog]
    cases hlog : s.log with
    | none => exact .inl ⟨s.folder, by simp, rfl⟩
    | some path =>
      dsimp only
      cases happend : s.folder.append path (logEntry (env.clock s.messages) message) with
      | error fault => exact .inr ⟨_, s.folder, rfl, .log hlog happend⟩
      | ok folder =>
        dsimp only
        cases hrefusal : env.refusal? s.messages with
        | some refusal => exact .inr ⟨_, _, rfl, .refused hlog hrefusal⟩
        | none => exact .inl ⟨folder, by simp, rfl⟩
  | say text =>
    rw [Step.run, on_print]
    split_ifs with hprint
    · exact .inl ⟨s.folder, by simp, rfl⟩
    · exact .inr ⟨_, s.folder, rfl, .say (Bool.eq_false_iff.2 hprint)⟩
  | tell text =>
    rw [on_tell, on_print]
    obtain ⟨folder, input, quiet, log, messages, printed, started⟩ := s
    cases quiet with
    | true => exact .inl ⟨folder, by simp, rfl⟩
    | false =>
      rw [if_neg Bool.false_ne_true]
      split_ifs with hprint
      · exact .inl ⟨folder, by simp, rfl⟩
      · exact .inr ⟨_, folder, rfl, .tell rfl (Bool.eq_false_iff.2 hprint)⟩
  | listen =>
    rw [on_listen]
    exact .inl ⟨s.folder, by simp, rfl⟩
  | execute command =>
    rw [Step.run, on_discard, on_execute]
    cases hstart : env.execute command with
    | ok ended => exact .inl ⟨ended.change s.folder, by simp [Except.map], ended, hstart, rfl⟩
    | error fault => exact .inr ⟨_, s.folder, rfl, .execute hstart⟩

/-- A step that succeeds leads to a folder that is told from the step. -/
lemma Step.leads_of_run (h : (step.run env).on s = (.ok (), last)) :
    step.Leads env s last.folder := by
  obtain ⟨folder, hstep, hleads⟩ | ⟨f, folder, hstep, -⟩ := step.on_run_cases env s
  · obtain rfl := congrArg Prod.snd (hstep.symm.trans h)
    exact hleads
  · cases congrArg Prod.fst (hstep.symm.trans h)

/-- A step that fails has a reason, and changes nothing but files. -/
lemma Step.exists_fails (h : (step.run env).on s = (.error (.effect f), s')) :
    ∃ folder, s' = s.inFolder folder ∧ step.Fails env s f folder := by
  obtain ⟨folder, hstep, -⟩ | ⟨f', folder, hstep, hfails⟩ := step.on_run_cases env s
  · cases congrArg Prod.fst (hstep.symm.trans h)
  · cases hstep.symm.trans h
    exact ⟨folder, rfl, hfails⟩

/-- A step that fails for something else than the log leaves the files alone. -/
lemma Step.Fails.folder_eq (h : step.Fails env s f folder) (hf : ∀ fault, f ≠ .log fault) :
    folder = s.folder := by
  cases h with
  | log | refused => exact absurd rfl (hf _)
  | say | tell | execute => rfl

/-! ### Many steps -/

/-- Steps succeed one after the other, and lead from a session to another. -/
def Performs (env : Surroundings) (s : Session) (steps : List Step) (last : Session) : Prop :=
  (perform env steps).on s = (.ok (), last)

/-- Steps succeed up to one that fails, which ends them. -/
structure StopsAt (env : Surroundings) (s : Session) (steps done : List Step) (f : EffectFault)
    (last : Session) : Prop where
  result : (perform env steps).on s = (.error (.effect f), last)
  cut : ∃ step later before, steps = done ++ step :: later ∧ Performs env s done before ∧
    (step.run env).on before = (.error (.effect f), last)

lemma Performs.cons (h : (step.run env).on s = (.ok (), s')) (hsteps : Performs env s' steps last) :
    Performs env s (step :: steps) last := by
  rw [Performs, perform, on_bind, h]
  exact hsteps

lemma StopsAt.cons (h : (step.run env).on s = (.ok (), s'))
    (hsteps : StopsAt env s' steps done f last) :
    StopsAt env s (step :: steps) (step :: done) f last := by
  obtain ⟨next, later, before, rfl, hbefore, hnext⟩ := hsteps.cut
  refine ⟨?_, next, later, before, rfl, .cons h hbefore, hnext⟩
  rw [perform, on_bind, h]
  exact hsteps.result

lemma StopsAt.first (h : (step.run env).on s = (.error (.effect f), last)) :
    StopsAt env s (step :: steps) [] f last := by
  refine ⟨?_, step, steps, s, rfl, rfl, h⟩
  rw [perform, on_bind, h]

/-- Steps succeed all, or up to the first that fails. -/
lemma performs_or_stopsAt (env : Surroundings) (steps : List Step) (s : Session) :
    (∃ last, Performs env s steps last) ∨ ∃ done f last, StopsAt env s steps done f last := by
  induction steps generalizing s with
  | nil => exact .inl ⟨s, rfl⟩
  | cons step steps ih =>
    obtain ⟨folder, hstep, -⟩ | ⟨f, folder, hstep, -⟩ := step.on_run_cases env s
    · obtain ⟨last, hsteps⟩ | ⟨done, f, last, hsteps⟩ := ih (s.past [step] folder)
      · exact .inl ⟨last, .cons hstep hsteps⟩
      · exact .inr ⟨_, f, last, .cons hstep hsteps⟩
    · exact .inr ⟨[], f, _, .first hstep⟩

/-- Steps succeed one after the other. -/
lemma Performs.exists_cons (h : Performs env s (step :: steps) last) :
    ∃ folder, (step.run env).on s = (.ok (), s.past [step] folder) ∧
      Performs env (s.past [step] folder) steps last := by
  rw [Performs, perform, on_bind] at h
  obtain ⟨folder, hstep, -⟩ | ⟨f, folder, hstep, -⟩ := step.on_run_cases env s <;> rw [hstep] at h
  · exact ⟨folder, hstep, h⟩
  · nomatch congrArg Prod.fst h

/-- Only the folder after steps is not told from the steps. -/
lemma Performs.exists_past (h : Performs env s steps last) :
    ∃ folder, last = s.past steps folder := by
  induction steps generalizing s with
  | nil =>
    obtain rfl : s = last := congrArg Prod.snd h
    exact ⟨s.folder, (s.past_nil s.folder).symm⟩
  | cons step steps ih =>
    obtain ⟨folder, -, hsteps⟩ := h.exists_cons
    obtain ⟨folder', rfl⟩ := ih hsteps
    exact ⟨folder', s.past_past folder folder'⟩

/-- All of the steps that succeed have succeeded. -/
lemma Performs.exists_on_run (h : Performs env s steps last) (hstep : step ∈ steps) :
    ∃ before next, (step.run env).on before = (.ok (), next) := by
  induction steps generalizing s with
  | nil => nomatch hstep
  | cons first steps ih =>
    obtain ⟨folder, hfirst, hsteps⟩ := h.exists_cons
    obtain rfl | hstep := List.mem_cons.1 hstep
    · exact ⟨s, _, hfirst⟩
    · exact ih hsteps hstep

/-- A command is not passed over unless it can be started. -/
lemma Performs.exists_execute {command : String} (h : Performs env s steps last)
    (hcommand : .execute command ∈ steps) : ∃ ended, env.execute command = .ok ended := by
  obtain ⟨before, next, hrun⟩ := h.exists_on_run hcommand
  obtain ⟨ended, hstart, -⟩ := Step.leads_of_run hrun
  exact ⟨ended, hstart⟩

/-- Steps stop at one that fails. -/
lemma StopsAt.exists_fails (h : StopsAt env s steps done f last) :
    ∃ step later before folder, steps = done ++ step :: later ∧ Performs env s done before ∧
      last = before.inFolder folder ∧ step.Fails env before f folder := by
  obtain ⟨step, later, before, hcut, hbefore, hstep⟩ := h.cut
  obtain ⟨folder, hlast, hfails⟩ := Step.exists_fails hstep
  exact ⟨step, later, before, folder, hcut, hbefore, hlast, hfails⟩

/-- Where steps stop, the session is as the steps in front have left it, but for its folder. -/
lemma StopsAt.exists_past (h : StopsAt env s steps done f last) :
    ∃ folder, last = s.past done folder := by
  obtain ⟨step, later, before, folder, -, hbefore, rfl, -⟩ := h.exists_fails
  obtain ⟨_, rfl⟩ := hbefore.exists_past
  exact ⟨folder, rfl⟩

/-- The steps that succeeded are the first ones. -/
lemma StopsAt.isPrefix (h : StopsAt env s steps done f last) : done <+: steps := by
  obtain ⟨step, later, -, rfl, -⟩ := h.cut
  exact List.prefix_append _ _

/-- Steps are performed in two parts as in one. -/
lemma perform_append (env : Surroundings) (steps steps' : List Step) :
    perform env (steps ++ steps') = perform env steps >>= fun _ => perform env steps' := by
  induction steps with
  | nil => simp [perform]
  | cons step steps ih => simp [perform, ih]

/-! ### What parts of runs do -/

def echoSteps (message : String) : List Step := [.note message, .tell (message ++ "\n")]

/-- In a session, a part of a run does nothing but to take steps, and then gives a result. -/
def Run.Does (env : Surroundings) (s : Session) (part : Run α) (steps : List Step)
    (r : Except Failure α) : Prop :=
  part.on s = (perform env steps >>= fun _ => orFail r).on s

namespace Run

variable {r : Except Failure β}

lemma Does.of_performs {r : Except Failure α} (h : Does env s part steps r)
    (hsteps : Performs env s steps last) : part.on s = (r, last) := by
  rw [h, on_bind, hsteps]
  cases r <;> rfl

lemma Does.of_stopsAt {r : Except Failure α} (h : Does env s part steps r)
    (hsteps : StopsAt env s steps done f last) : part.on s = (.error (.effect f), last) := by
  rw [h, on_bind, hsteps.result]

/-- How steps end that are followed by a result: with this result, or with the fault of the first
step that fails. -/
inductive Ends (env : Surroundings) (s : Session) (steps : List Step) (r : Except Failure α) :
    Except Failure α → Session → Prop
  | performed {last : Session} (h : Performs env s steps last) : Ends env s steps r r last
  | stopped {done : List Step} {f : EffectFault} {last : Session}
    (h : StopsAt env s steps done f last) : Ends env s steps r (.error (.effect f)) last

/-- Steps all succeed, or stop at the first that fails. -/
lemma ends_perform (env : Surroundings) (steps : List Step) (r : Except Failure α) (s : Session) :
    (perform env steps >>= fun _ => orFail r).Ensures s (Ends env s steps r) := by
  rw [Ensures, on_bind]
  obtain ⟨last, hsteps⟩ | ⟨done, f, last, hsteps⟩ := performs_or_stopsAt env steps s
  · rw [hsteps]
    cases r <;> exact .performed hsteps
  · rw [hsteps.result]
    exact .stopped hsteps

/-- Whatever the end, some first steps have succeeded. -/
lemma Ends.exists_past {r r' : Except Failure α} (h : Ends env s steps r r' last) :
    ∃ done folder, done <+: steps ∧ last = s.past done folder := by
  cases h with
  | performed h =>
    obtain ⟨folder, rfl⟩ := h.exists_past
    exact ⟨steps, folder, List.prefix_rfl, rfl⟩
  | @stopped done f _ h =>
    obtain ⟨folder, rfl⟩ := h.exists_past
    exact ⟨done, folder, h.isPrefix, rfl⟩

/-- A part that takes steps ends as the steps do. -/
lemma Does.ends {r : Except Failure α} (h : Does env s part steps r) :
    part.Ensures s (Ends env s steps r) := by
  rw [Ensures, h]
  exact ends_perform env steps r s

lemma does_pure (a : α) : Does env s (pure a) [] (.ok a) := rfl

lemma does_throw (e : Failure) : Does env s (throw e : Run α) [] (.error e) := rfl

lemma does_get_bind {next : Session → Run β} :
    Does env s (get >>= next) steps r ↔ Does env s (next s) steps r := Iff.rfl

/-- A step takes itself. -/
lemma does_step (env : Surroundings) (step : Step) (s : Session) :
    Does env s (step.run env) [step] (.ok ()) := by
  rw [Does, on_bind, perform, perform, on_bind]
  rcases (step.run env).on s with ⟨_ | _, s'⟩ <;> rfl

/-- What comes after a part that gives a value does its steps behind those of the part. -/
lemma Does.bind {a : α} (h : Does env s part steps (.ok a))
    (hnext : ∀ s', Performs env s steps s' → Does env s' (next a) steps' r) :
    Does env s (part >>= next) (steps ++ steps') r := by
  rw [Does, on_bind, perform_append, bind_assoc, on_bind]
  obtain ⟨last, hsteps⟩ | ⟨done, f, last, hsteps⟩ := performs_or_stopsAt env steps s
  · rw [h.of_performs hsteps, hsteps]
    exact hnext last hsteps
  · rw [h.of_stopsAt hsteps, hsteps.result]

/-- After a part that gives a value without a step, the rest does its steps. -/
lemma Does.bind_pure {a : α} (h : Does env s part [] (.ok a))
    (hnext : Does env s (next a) steps' r) : Does env s (part >>= next) steps' r := by
  apply h.bind
  rintro s' hs'
  obtain rfl : s = s' := congrArg Prod.snd hs'
  exact hnext

/-- What comes after a part may take no steps of its own. -/
lemma Does.bind_nil {a : α} (h : Does env s part steps (.ok a))
    (hnext : ∀ s', Does env s' (next a) [] r) : Does env s (part >>= next) steps r := by
  rw [← List.append_nil steps]
  exact h.bind fun s' _ => hnext s'

/-- A part that fails ends what it is a part of. -/
lemma Does.bind_error (h : Does env s part steps (.error e)) :
    Does env s (part >>= next) steps (.error e) := by
  rw [Does, on_bind, on_bind]
  obtain ⟨last, hsteps⟩ | ⟨done, f, last, hsteps⟩ := performs_or_stopsAt env steps s
  · rw [h.of_performs hsteps, hsteps]
    rfl
  · rw [h.of_stopsAt hsteps, hsteps.result]

lemma Does.discard {r : Except Failure α} (h : Does env s part steps r) :
    Does env s (discard part) steps (r.map fun _ => ()) := by
  rw [Does, on_discard, h, on_bind, on_bind]
  rcases (perform env steps).on s with ⟨_ | _, s'⟩
  · rfl
  · cases r <;> rfl

lemma does_print (env : Surroundings) (text : String) (s : Session) :
    Does env s (print env text) [.say text] (.ok ()) := does_step env (.say text) s

lemma does_writeLog (env : Surroundings) (message : String) (s : Session) :
    Does env s (writeLog env message) [.note message] (.ok ()) := does_step env (.note message) s

lemma does_echo (env : Surroundings) (message : String) (s : Session) :
    Does env s (echo env message) (echoSteps message) (.ok ()) :=
  (does_writeLog env message s).bind fun s' _ => does_step env (.tell (message ++ "\n")) s'

lemma does_readAnswer (env : Surroundings) (s : Session) :
    Does env s readAnswer [.listen] (.ok (answerOf s.input).1) := by
  rw [Does, on_bind, perform, perform, on_bind, on_listen]
  rfl

/-- Starting a command is a step, and its result is what comes of it. -/
lemma does_execute {ended : Execution} {command : String} (h : env.execute command = .ok ended) :
    Does env s (Session.execute env command) [.execute command] (.ok ended) := by
  rw [Does, on_bind, perform, perform, on_bind, Step.run, on_discard, on_execute, h]
  rfl

/-- A command that cannot be started ends the steps there. -/
lemma does_execute_error {command : String} {fault : StartFault}
    (h : env.execute command = .error fault) (r : Except Failure Execution) :
    Does env s (Session.execute env command) [.execute command] r := by
  rw [Does, on_bind, perform, perform, on_bind, Step.run, on_discard, on_execute, h]
  rfl

end Run

end Montage
