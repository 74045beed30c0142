import Montage.Proofs.Application.Consent
import Montage.Proofs.Session.Twins
import Montage.Yaml.Document

/-!
# Quiet mode

A run in quiet mode differs from the same run without it in nothing but the lines that are echoed:
the operations and the command in front, and the note at the end that nothing is executed.
-/

namespace Montage.Application

open Run Session

variable {env : Surroundings} {search search' : Settings.Search} {arguments : List String}
  {settings : Settings} {file : Option String} {folder folder' : Folder}
  {s s' : Session} {e : Failure} {ops : List Operation} {shown stage input : String} {c : Command}
  {cs : List Char} {step : Step} {steps steps' done later : List Step}
  {alike : Folder → Folder → Prop}

/-! ### Steps without echoes -/

/-- No text among steps is held back in quiet mode. -/
def HasNoEcho (steps : List Step) : Prop := ∀ text, .tell text ∉ steps

lemma hasNoEcho_append : HasNoEcho (steps ++ steps') ↔ HasNoEcho steps ∧ HasNoEcho steps' := by
  unfold HasNoEcho
  simp only [List.mem_append, not_or, forall_and]

/-- Steps without echoes print the same in quiet mode. -/
lemma HasNoEcho.textOf_eq (h : HasNoEcho steps) : textOf false steps = textOf true steps := by
  induction steps with
  | nil => rfl
  | cons step steps ih =>
    have hstep : step.text false = step.text true := by
      cases step with
      | tell text => exact absurd List.mem_cons_self (h text)
      | note | say | listen | execute => rfl
    rw [textOf_cons, textOf_cons, hstep, ih fun text hmem => h text (List.mem_cons_of_mem _ hmem)]

lemma hasNoEcho_reportSteps (e : Failure) : HasNoEcho (reportSteps e) := by
  unfold reportSteps HasNoEcho
  cases e.problem? <;> simp

lemma hasNoEcho_failureSteps (stage : String) (e : Failure) : HasNoEcho (failureSteps stage e) := by
  have hreport := hasNoEcho_reportSteps e
  unfold failureSteps HasNoEcho at *
  cases e.problem? with
  | none => simp
  | some p => simpa using hreport

/-- The line about a command that is run is printed in quiet mode too. -/
lemma hasNoEcho_executionSteps (env : Surroundings) (command : String) :
    HasNoEcho (executionSteps env command) := by
  unfold executionSteps HasNoEcho
  cases env.execute (stripped command) <;> simp

lemma hasNoEcho_statusSteps (env : Surroundings) (c : Command) : HasNoEcho (statusSteps env c) := by
  unfold statusSteps
  cases env.execute c.shellText with
  | error fault => exact fun _ => List.not_mem_nil
  | ok ended =>
    dsimp only
    split_ifs
    · exact fun _ => List.not_mem_nil
    · exact hasNoEcho_reportSteps _

/-! ### The dialogue -/

/-- The line that is echoed behind a confirmed command that is not to be executed. -/
def lastEcho (execute : Bool) (input : List Char) : String :=
  if ¬ execute ∧ Consents input then disabledNotice ++ "\n" else ""

/-- In a dialogue, only the note that nothing is executed is echoed, as the last step. -/
lemma closingSteps_cases (env : Surroundings) (settings : Settings) (c : Command)
    (cs : List Char) : ∃ front, HasNoEcho front ∧
      ((closingSteps env settings c cs = front ∧ lastEcho settings.execute cs = "") ∨
        (closingSteps env settings c cs = front ++ [.tell (disabledNotice ++ "\n")] ∧
          lastEcho settings.execute cs = disabledNotice ++ "\n")) := by
  have hquestion : HasNoEcho (questionSteps env c) := by simp [HasNoEcho, questionSteps]
  have hanswer : HasNoEcho (answerSteps cs) := by simp [HasNoEcho, answerSteps]
  by_cases hyes : Consents cs
  · cases hexecute : settings.execute with
    | true =>
      refine ⟨_, ?_, .inl ⟨closingSteps_of_consents hyes hexecute, if_neg (by simp)⟩⟩
      simp only [hasNoEcho_append]
      exact ⟨hquestion, hanswer, hasNoEcho_executionSteps env _, hasNoEcho_statusSteps env c⟩
    | false =>
      refine ⟨questionSteps env c ++ (answerSteps cs ++ [.note disabledNotice]), ?_,
        .inr ⟨?_, if_pos ⟨by simp, hyes⟩⟩⟩
      · simp only [hasNoEcho_append]
        exact ⟨hquestion, hanswer, by simp [HasNoEcho]⟩
      · rw [closingSteps_of_disabled hyes hexecute, List.append_assoc, List.append_assoc]
        rfl
  · refine ⟨_, ?_, .inl ⟨closingSteps_of_declined hyes, if_neg (by simp [hyes])⟩⟩
    simp only [hasNoEcho_append]
    exact ⟨hquestion, hanswer, by simp [HasNoEcho]⟩

/-- Without quiet mode, a dialogue prints the last echo besides. -/
lemma textOf_closingSteps (env : Surroundings) (settings : Settings) (c : Command)
    (cs : List Char) : textOf false (closingSteps env settings c cs)
      = textOf true (closingSteps env settings c cs) ++ lastEcho settings.execute cs := by
  obtain ⟨front, hfront, ⟨hsteps, hlast⟩ | ⟨hsteps, hlast⟩⟩ :=
    closingSteps_cases env settings c cs
  · rw [hsteps, hlast, String.append_empty, hfront.textOf_eq]
  · rw [hsteps, hlast, textOf_append, textOf_append, hfront.textOf_eq]
    simp [Step.text]

/-- A dialogue that stops early has echoed nothing. -/
lemma hasNoEcho_of_cut (h : closingSteps env settings c cs = done ++ step :: later) :
    HasNoEcho done := by
  obtain ⟨front, hfront, ⟨hsteps, -⟩ | ⟨hsteps, -⟩⟩ := closingSteps_cases env settings c cs
  · rw [h] at hsteps
    rw [← hsteps, hasNoEcho_append] at hfront
    exact hfront.1
  · rw [h] at hsteps
    obtain heq | hdone := List.prefix_concat_iff.1 ⟨step :: later, hsteps⟩
    · rw [← heq] at hsteps
      simp at hsteps
    · exact fun text hmem => hfront text (hdone.subset hmem)

/-! ### The echoes in front -/

def headSteps (arguments : List String) (shown : String) (c : Command) : List Step :=
  .note (argvMessage arguments) :: (echoSteps shown ++ echoSteps c.display)

/-- A run whose operations compile echoes in front and then holds the dialogue. -/
lemma runSteps_eq_headSteps (h : reading env settings arguments s = .ok ops)
    (hshown : displayOperations ops = .ok shown)
    (hcompile : compileOperations env.curve settings.programs ops = .ok c) :
    runSteps env settings arguments s
      = headSteps arguments shown c ++ closingSteps env settings c s.input := by
  rw [runSteps_of_compile_eq_ok h hshown hcompile, headSteps, List.cons_append, List.append_assoc]

/-- The echoes in front are the operations and the command, and quiet mode holds both back. -/
lemma textOf_headSteps (arguments : List String) (shown : String) (c : Command) :
    textOf true (headSteps arguments shown c) = "" ∧
      textOf false (headSteps arguments shown c) = shown ++ "\n" ++ (c.display ++ "\n") := by
  constructor
  · rfl
  · simp [headSteps, echoSteps]

/-- A run that stops among the echoes in front has printed some of them, and nothing in quiet
mode. -/
lemma textOf_of_prefix_headSteps (h : done <+: headSteps arguments shown c) :
    textOf true done = "" ∧ (textOf false done = "" ∨ textOf false done = shown ++ "\n" ∨
      textOf false done = shown ++ "\n" ++ (c.display ++ "\n")) := by
  simp only [headSteps, echoSteps, List.cons_append, List.nil_append, List.prefix_cons_iff,
    List.prefix_nil] at h
  obtain rfl | ⟨_, rfl, rfl | ⟨_, rfl, rfl | ⟨_, rfl, rfl | ⟨_, rfl, rfl | ⟨_, rfl, rfl⟩⟩⟩⟩⟩ := h
  all_goals simp

/-- What a run has echoed when it stops early: nothing, or the first lines of those in front, and
all of them if anything else was printed. -/
lemma exists_front_of_cut (hd : headSteps arguments shown c
    ++ closingSteps env settings c cs = done ++ step :: later) :
    ∃ front, textOf false done = front ++ textOf true done ∧
      (front = "" ∨ front = shown ++ "\n" ∨ front = shown ++ "\n" ++ (c.display ++ "\n")) ∧
      (textOf true done ≠ "" → front = shown ++ "\n" ++ (c.display ++ "\n")) := by
  obtain hshort | ⟨rest, rfl⟩ := List.prefix_or_prefix_of_prefix
    (⟨step :: later, rfl⟩ : done <+: done ++ step :: later) (hd ▸ List.prefix_append _ _)
  · obtain ⟨htrue, hfront⟩ := textOf_of_prefix_headSteps hshort
    refine ⟨textOf false done, ?_, hfront, fun hne => absurd htrue hne⟩
    rw [htrue, String.append_empty]
  · rw [List.append_assoc, List.append_cancel_left_eq] at hd
    have hrest : HasNoEcho rest := hasNoEcho_of_cut hd
    obtain ⟨htrue, hfalse⟩ := textOf_headSteps arguments shown c
    refine ⟨_, ?_, .inr (.inr rfl), fun _ => rfl⟩
    rw [textOf_append, textOf_append, htrue, hfalse, hrest.textOf_eq, String.empty_append]

/-! ### Two runs -/

section

variable (h : Twins alike s s') (henv : env.Confuses s.log alike) (file : Option String)
  (arguments : List String)

include h henv

/-- A command line is read the same way in quiet mode. -/
lemma reading_quiet : reading env { settings with file, quiet := true } arguments s'
    = reading env settings arguments s := by
  have hnoted : alike ((writeLog env (argvMessage arguments)).on s).2.folder
      ((writeLog env (argvMessage arguments)).on s').2.folder := by
    have hnote : ∀ text, Step.note (argvMessage arguments) = .tell text → env.canPrint text :=
      fun _ => nofun
    obtain ⟨g, g', hg, hg', halike⟩ | ⟨f, g, g', hg, hg', halike⟩ := h.on_run henv hnote
    · rw [Step.run] at hg hg'
      rw [hg, hg']
      exact halike
    · rw [Step.run] at hg hg'
      rw [hg, hg']
      exact halike
  have haccepts : accepts { settings with file, quiet := true }
      ((writeLog env (argvMessage arguments)).on s').2.folder
      = accepts settings ((writeLog env (argvMessage arguments)).on s).2.folder := by
    funext path
    rw [accepts, accepts, henv.pathExists_eq _ _ hnoted]
  rw [reading, reading, haccepts]

/-- The steps of a run and their result do not depend on quiet mode. -/
lemma runSteps_quiet (hinput : s'.input = s.input) :
    runSteps env { settings with file, quiet := true } arguments s'
        = runSteps env settings arguments s ∧
      runResult env { settings with file, quiet := true } arguments s'
        = runResult env settings arguments s := by
  unfold runSteps runResult
  rw [reading_quiet h henv file arguments, hinput]
  exact ⟨rfl, rfl⟩

end

/-- How a run and the same one in quiet mode end: after all steps, or at the same step. -/
lemma exists_twin_ends (henv : env.Confuses settings.debugLog alike) (h : alike folder folder')
    (hload : Settings.load env.yaml search folder = .ok settings)
    (hload' : Settings.load env.yaml search' folder' = .ok { settings with file, quiet := true })
    (hquiet : settings.quiet = false)
    (hprint : ∀ text, .tell text ∈ runSteps env settings arguments
      ((start folder input).under settings) → env.canPrint text) :
    let s := (start folder input).under settings
    let s' := (start folder' input).under { settings with file, quiet := true }
    let steps := runSteps env settings arguments s
    ∃ r done g g', (run env search arguments).on (start folder input) = (r, s.past done g) ∧
      (run env search' arguments).on (start folder' input) = (r, s'.past done g') ∧ alike g g' ∧
      ((r = runResult env settings arguments s ∧ done = steps ∧
          Performs env s done (s.past done g)) ∨
        ∃ f step later, r = .error (.effect f) ∧ steps = done ++ step :: later) := by
  intro s s' steps
  have htwins : Twins alike s s' := ⟨hquiet, rfl, rfl, rfl, h⟩
  have hrun := does_run (s := start folder input) arguments hload
  have hrun' := does_run (s := start folder' input) arguments hload'
  obtain ⟨hsteps, hresult⟩ := runSteps_quiet htwins henv file arguments rfl
  rw [hsteps, hresult, on_bind] at hrun'
  rw [on_bind] at hrun
  obtain ⟨g, g', hg, hg', halike⟩ | ⟨done, f, g, g', hg, hg', halike⟩ :=
    htwins.performs_or_stopsAt henv hprint
  · refine ⟨runResult env settings arguments s, steps, g, g', hrun.trans ?_, hrun'.trans ?_, halike,
      .inl ⟨rfl, rfl, hg⟩⟩
    · rw [hg]
      cases runResult env settings arguments s <;> rfl
    · rw [hg']
      cases runResult env settings arguments s <;> rfl
  · obtain ⟨step, later, -, hcut, -⟩ := hg.cut
    refine ⟨.error (.effect f), done, g, g', hrun.trans ?_, hrun'.trans ?_, halike,
      .inr ⟨f, step, later, rfl, hcut⟩⟩
    · rw [hg.result]
    · rw [hg'.result]

/-- A run and the same one in quiet mode, in folders that nothing in a run tells apart, give the
same result, start the same commands, give the same messages to the log, and leave it and the folder
alike. A command line that was not read leaves no difference in what they print. For one that was
read the first run prints the operations and the command in front of what is printed in quiet mode,
and the last echo behind it. If an entry cannot be written, or anything else stops them, they stop
at the same step, and what was echoed by then stands in front. -/
theorem run_quiet (henv : env.Confuses settings.debugLog alike) (h : alike folder folder')
    (hload : Settings.load env.yaml search folder = .ok settings)
    (hload' : Settings.load env.yaml search' folder' = .ok { settings with file, quiet := true })
    (hquiet : settings.quiet = false)
    (hprint : ∀ text, .tell text ∈ runSteps env settings arguments
      ((start folder input).under settings) → env.canPrint text) :
    (run env search arguments).Ensures (start folder input) fun r last =>
      (run env search' arguments).Ensures (start folder' input) fun r' last' =>
        r' = r ∧ last'.started = last.started ∧ last'.messages = last.messages ∧
        (∀ path, settings.debugLog = some path →
          last'.folder.read? path = last.folder.read? path) ∧
        alike last.folder last'.folder ∧
        (∀ e, Reads env search arguments (start folder input) settings (.error e) →
          last.printed = last'.printed) ∧
        (∀ ops, Reads env search arguments (start folder input) settings (.ok ops) →
          (∀ score, .quality score ∈ ops → env.curve.Covers score) →
          ∃ shown c, displayOperations ops = .ok shown ∧
            compileOperations env.curve settings.programs ops = .ok c ∧
            ((∀ f, r ≠ .error (.effect f)) → last.printed = shown ++ "\n" ++ (c.display ++ "\n")
              ++ last'.printed ++ lastEcho settings.execute input.toList) ∧
            ∀ f, r = .error (.effect f) → ∃ front, last.printed = front ++ last'.printed ∧
              (front = "" ∨ front = shown ++ "\n" ∨
                front = shown ++ "\n" ++ (c.display ++ "\n")) ∧
              (last'.printed ≠ "" → front = shown ++ "\n" ++ (c.display ++ "\n"))) := by
  obtain ⟨r, done, g, g', hrun, hrun', halike, hends⟩ :=
    exists_twin_ends henv h hload hload' hquiet hprint
  rw [Ensures, hrun, Ensures, hrun']
  have hprinted : (((start folder input).under settings).past done g).printed
      = textOf false done := by
    rw [← hquiet]
    exact String.empty_append
  have hprinted' : (((start folder' input).under { settings with file, quiet := true }).past done
      g').printed = textOf true done := String.empty_append
  refine ⟨rfl, rfl, rfl, henv.read?_eq _ _ halike, halike, ?unread, ?read⟩ <;>
    rw [hprinted, hprinted']
  case unread =>
    intro e hreads
    have hsteps := runSteps_of_reading_eq_error hreads.reading_eq
    have hnone : HasNoEcho (runSteps env settings arguments
        ((start folder input).under settings)) := by
      intro text htext
      rw [hsteps] at htext
      exact hasNoEcho_failureSteps "parse" e text (by simpa using htext)
    have hdone : HasNoEcho done := by
      obtain ⟨-, rfl, -⟩ | ⟨f, step, later, -, hcut⟩ := hends
      · exact hnone
      · rw [hcut, hasNoEcho_append] at hnone
        exact hnone.1
    exact hdone.textOf_eq
  case read =>
    intro ops hreads hcurve
    obtain ⟨shown, c, hshown, hcompile⟩ :=
      exists_shown_compiled hreads.reading_eq hcurve settings.programs
    have hsteps := runSteps_eq_headSteps hreads.reading_eq hshown hcompile
    refine ⟨shown, c, hshown, hcompile, ?_, ?_⟩
    · intro hr
      obtain ⟨-, rfl, -⟩ | ⟨f, step, later, hf, -⟩ := hends
      · obtain ⟨htrue, hfalse⟩ := textOf_headSteps arguments shown c
        rw [hsteps, textOf_append, textOf_append, htrue, hfalse, textOf_closingSteps,
          String.empty_append, ← String.append_assoc]
        rfl
      · exact absurd hf (hr f)
    · intro f hf
      obtain ⟨hr, rfl, hperforms⟩ | ⟨f, step, later, -, hcut⟩ := hends
      · have hzero := runResult_of_performs hreads.reading_eq hshown hcompile hperforms
        cases hzero.symm.trans (hr.symm.trans hf)
      · rw [hsteps] at hcut
        exact exists_front_of_cut hcut

theorem run_quiet_disabled :
    let env : Surroundings := .calm false "12:00:00" 0 .zero some Yaml.read
    let search : Settings.Search := ⟨none, "c.yaml", "home"⟩
    let folder : Folder := ⟨[], [(["c.yaml"], .file "debug_log: d.log\n".toUTF8)]⟩
    let folder' : Folder :=
      folder.set ["c.yaml"] (.file "debug_log: d.log\nquiet: true\n".toUTF8)
    (run env search ["montage", "out.mp4"]).Ensures (start folder "Y\n") fun r last =>
      (run env search ["montage", "out.mp4"]).Ensures (start folder' "Y\n") fun r' last' =>
        r = .ok 0 ∧ r' = r ∧ last'.started = last.started ∧
        last'.folder.read? "d.log" = last.folder.read? "d.log" ∧
        last.printed = "[OutFilePath(path='out.mp4')]\n"
          ++ "Command(invocation='ffmpeg', args=('out.mp4',))\n" ++ last'.printed
          ++ "execution disabled, set `execute: true` in the config to run\n" := by
  intro env search folder folder'
  let settings : Settings := { Settings.standard with
    file := some "c.yaml", debugLog := some "d.log" }
  have hconfuses : env.Confuses settings.debugLog (Folder.Alike settings.debugLog) :=
    Surroundings.confuses_alike (fun _ _ h => nomatch h) (by rintro _ _ ⟨⟩ f g h; exact h)
  have hread : ∀ path, settings.debugLog = some path → folder'.read? path = folder.read? path := by
    rintro path ⟨⟩
    decide +kernel
  have halike : Folder.Alike settings.debugLog folder folder' :=
    ⟨Folder.sameShape_set rfl _, hread⟩
  have hload : Settings.load Yaml.read search folder = .ok settings := by decide +kernel
  have hload' : Settings.load Yaml.read search folder'
      = .ok { settings with file := some "c.yaml", quiet := true } := by decide +kernel
  have hzero : ((run env search ["montage", "out.mp4"]).on (start folder "Y\n")).1 = .ok 0 := by
    decide +kernel
  have hreads : Reads env search ["montage", "out.mp4"] (start folder "Y\n") settings
      (.ok [.output "out.mp4"]) := ⟨hload, parseArguments_output "montage" (by decide)⟩
  have hlist : displayOperations [.output "out.mp4"] = .ok "[OutFilePath(path='out.mp4')]" := by
    decide +kernel
  have hcommand : compileOperations some ⟨"ffmpeg", "ffplay"⟩ [.output "out.mp4"]
      = .ok ⟨"ffmpeg", ["out.mp4"]⟩ := by decide +kernel
  have hnote : lastEcho false "Y\n".toList
      = "execution disabled, set `execute: true` in the config to run\n" := by decide +kernel
  obtain ⟨hr, hstarted, -, hlog, -, -, hprinted⟩ :=
    run_quiet hconfuses halike hload hload' rfl (fun _ _ => rfl)
  obtain ⟨shown, c, hshown, hc, hprinted, -⟩ := hprinted _ hreads (by simp)
  obtain rfl := Except.ok.inj (hlist.symm.trans hshown)
  obtain rfl := Except.ok.inj (hcommand.symm.trans hc)
  refine ⟨hzero, hr, hstarted, hlog "d.log" rfl, (hprinted (by simp [hzero])).trans ?_⟩
  rw [← hnote]
  rfl

end Montage.Application
