import Montage.Proofs.Application.Consent
import Montage.Proofs.Fragments.Printable
import Montage.Proofs.Session.Logs

/-!
# The log of a run

What a run writes to its log, from the first entry to the last. All messages quote the texts that
they show, but those about a command that is started: these hold it as it is given to the shell, so
a line end in its program or its output path breaks their lines. All other entries are lines of the
log, and nothing else is.
-/

namespace Montage.Application

open Run Session

variable {env : Surroundings} {search : Settings.Search} {arguments : List String}
  {settings : Settings} {folder : Folder} {input stage path m : String} {s last : Session}
  {cs : List Char} {parts : List String} {e : Failure} {ops : List Operation} {c : Command}
  {shown command : String} {ended : Execution} {steps done : List Step}
  {r : Except Failure Int}

/-! ### Messages on one line -/

/-- The arguments are logged in quotes, with their line ends escaped. -/
lemma isLine_argvMessage (arguments : List String) : IsLine (argvMessage arguments) := by
  have hlist := isPrintableText_listText (isPrintableText_map_literal arguments)
  exact isLine_append.2 ⟨by decide, hlist.isLine⟩

/-- A command is logged as it is, so that its line ends break the message. -/
lemma isLine_startMessage : IsLine (startMessage command) ↔ IsLine (stripped command) := by
  rw [startMessage, isLine_append]
  exact and_iff_right (by decide)

lemma isLine_endMessage : IsLine (endMessage ended command) ↔ IsLine (stripped command) := by
  simp only [endMessage, isLine_append]
  exact and_iff_right ⟨⟨⟨⟨by decide, (isPrintableText_fixedText 3 _).isLine⟩, by decide⟩,
    (isPrintableText_intRepr _).isLine⟩, by decide⟩

/-- All messages among steps are on one line each. -/
def LogsLines (steps : List Step) : Prop := ∀ m ∈ messagesOf steps, IsLine m

lemma logsLines_nil : LogsLines [] := nofun

lemma logsLines_note_cons {steps : List Step} :
    LogsLines (.note m :: steps) ↔ IsLine m ∧ LogsLines steps := List.forall_mem_cons

lemma logsLines_append {steps steps' : List Step} :
    LogsLines (steps ++ steps') ↔ LogsLines steps ∧ LogsLines steps' := by
  unfold LogsLines
  rw [messagesOf_append, List.forall_mem_append]

/-- What is logged first are lines if all that is logged are. -/
lemma LogsLines.of_prefix {steps : List Step} (h : LogsLines steps) (hdone : done <+: steps) :
    LogsLines done := fun m hm => h m ((hdone.filterMap Step.message?).subset hm)

lemma logsLines_reportSteps (e : Failure) : LogsLines (reportSteps e) := by
  unfold reportSteps
  cases e.problem? <;> exact logsLines_nil

/-- Failures are logged in quotes. -/
lemma logsLines_failureSteps (hstage : IsLine stage) (e : Failure) :
    LogsLines (failureSteps stage e) := by
  unfold failureSteps
  cases e.problem? with
  | none => exact logsLines_nil
  | some p =>
    refine logsLines_note_cons.2 ⟨?_, logsLines_reportSteps e⟩
    simp only [isLine_append]
    exact ⟨⟨hstage, by decide⟩, p.isPrintableText_display.isLine⟩

lemma logsLines_echoSteps (h : IsLine m) : LogsLines (echoSteps m) :=
  logsLines_note_cons.2 ⟨h, nofun⟩

lemma logsLines_answerSteps (cs : List Char) : LogsLines (answerSteps cs) :=
  List.forall_mem_singleton.2 (isLine_append.2 ⟨by decide, (isPrintableText_literal _).isLine⟩)

/-- Up to the answer about its command, a run logs lines only. -/
lemma logsLines_frontSteps (env : Surroundings) (arguments : List String) (c : Command)
    (cs : List Char) (hshown : displayOperations ops = .ok shown) :
    LogsLines (frontSteps env arguments shown c cs) := by
  unfold frontSteps
  rw [logsLines_note_cons, logsLines_append, logsLines_append, logsLines_append]
  exact ⟨isLine_argvMessage arguments,
    logsLines_echoSteps (isPrintableText_displayOperations hshown).isLine,
    logsLines_echoSteps c.isPrintableText_display.isLine, nofun, logsLines_answerSteps cs⟩

/-- Of the messages about a command that is started, all are on one line just when it is. -/
lemma isLine_endSteps (hm : m ∈ messagesOf (endSteps env c)) : IsLine m ↔ IsLine c.shellText := by
  unfold endSteps statusSteps at hm
  cases hstart : env.execute c.shellText with
  | error fault =>
    rw [hstart] at hm
    nomatch hm
  | ok ended =>
    rw [hstart] at hm
    have hstatus : messagesOf (if ended.status = 0 then []
        else reportSteps (.exitStatus c.invocation ended.status)) = [] := by
      split_ifs <;> rfl
    dsimp only at hm
    rw [messagesOf_cons, hstatus, List.append_nil] at hm
    obtain rfl := List.mem_singleton.1 hm
    rw [isLine_endMessage, stripped_shellText]

/-- A dialogue that does not run its command logs lines only. -/
lemma logsLines_closingSteps (env : Surroundings) (c : Command)
    (hnot : ¬ (settings.execute = true ∧ Consents cs)) :
    LogsLines (closingSteps env settings c cs) := by
  by_cases hyes : Consents cs
  · have hexecute : settings.execute = false :=
      Bool.eq_false_iff.2 fun hexecute => hnot ⟨hexecute, hyes⟩
    rw [closingSteps_of_disabled hyes hexecute, logsLines_append, logsLines_append]
    exact ⟨nofun, logsLines_answerSteps cs, logsLines_echoSteps (by decide)⟩
  · rw [closingSteps_of_declined hyes, logsLines_append, logsLines_append]
    exact ⟨nofun, logsLines_answerSteps cs, nofun⟩

/-- Each message is logged by a step of its own. -/
lemma note_mem_of_mem_messagesOf (h : m ∈ messagesOf steps) : .note m ∈ steps := by
  obtain ⟨step, hstep, hmessage⟩ := List.mem_filterMap.1 h
  cases step with
  | note message =>
    obtain rfl := Option.some.inj hmessage
    exact hstep
  | say | tell | listen | execute => nomatch hmessage

lemma mem_messagesOf_of_note_mem (h : .note m ∈ steps) : m ∈ messagesOf steps :=
  List.mem_filterMap.2 ⟨_, h, rfl⟩

/-- Where a command is started, its start is logged before all messages that hold it as it is. -/
lemma isLine_or_of_consents (hread : reading env settings arguments s = .ok ops)
    (hshown : displayOperations ops = .ok shown)
    (hcompile : compileOperations env.curve settings.programs ops = .ok c)
    (hexecute : settings.execute = true) (hyes : Consents s.input)
    (hdone : done <+: runSteps env settings arguments s) (hm : m ∈ messagesOf done) :
    IsLine m ∨ .note (startMessage c.shellText) ∈ done ∧ (IsLine m ↔ IsLine c.shellText) := by
  rw [runSteps_of_consents hread hshown hcompile hexecute hyes] at hdone
  have hlead : ∀ m ∈ messagesOf (leadSteps env arguments shown c s.input),
      IsLine m ∨ m = startMessage c.shellText := by
    intro m hm
    unfold leadSteps at hm
    rw [messagesOf_append] at hm
    obtain hm | hm := List.mem_append.1 hm
    · exact .inl (logsLines_frontSteps env arguments c s.input hshown m hm)
    · exact .inr (List.mem_singleton.1 hm)
  have hiff : m = startMessage c.shellText → (IsLine m ↔ IsLine c.shellText) := by
    rintro rfl
    rw [isLine_startMessage, stripped_shellText]
  obtain hshort | hlong := List.prefix_or_prefix_of_prefix hdone (List.prefix_append _ _)
  · obtain hline | hstart := hlead m ((hshort.filterMap Step.message?).subset hm)
    · exact .inl hline
    · exact .inr ⟨hstart ▸ note_mem_of_mem_messagesOf hm, hiff hstart⟩
  · have hstart : .note (startMessage c.shellText) ∈ done :=
      hlong.subset (List.mem_append_right _ (by simp))
    have hall := (hdone.filterMap Step.message?).subset hm
    rw [← messagesOf, messagesOf_append, messagesOf_cons] at hall
    obtain hm | hm := List.mem_append.1 hall
    · exact (hlead m hm).imp_right fun hm => ⟨hstart, hiff hm⟩
    · exact .inr ⟨hstart, isLine_endSteps hm⟩

/-- A message of a run is on one line, unless it is about the start or the end of a command. -/
lemma isLine_or_of_mem (hdone : done <+: runSteps env settings arguments s)
    (hm : m ∈ messagesOf done) : IsLine m ∨ ∃ ops c, reading env settings arguments s = .ok ops ∧
      compileOperations env.curve settings.programs ops = .ok c ∧
      .note (startMessage c.shellText) ∈ done ∧ (IsLine m ↔ IsLine c.shellText) := by
  have hlines : LogsLines (runSteps env settings arguments s) → IsLine m :=
    fun h => h.of_prefix hdone m hm
  cases hread : reading env settings arguments s with
  | error e =>
    left
    apply hlines
    rw [runSteps_of_reading_eq_error hread, logsLines_note_cons]
    exact ⟨isLine_argvMessage arguments, logsLines_failureSteps (by decide) e⟩
  | ok ops =>
    obtain ⟨shown, hshown⟩ := exists_shown hread
    cases hcompile : compileOperations env.curve settings.programs ops with
    | error e =>
      left
      apply hlines
      rw [runSteps_of_compile_eq_error hread hshown hcompile, logsLines_note_cons,
        logsLines_append]
      exact ⟨isLine_argvMessage arguments,
        logsLines_echoSteps (isPrintableText_displayOperations hshown).isLine,
        logsLines_failureSteps (by decide) e⟩
    | ok c =>
      by_cases hconsent : settings.execute = true ∧ Consents s.input
      · have hor := isLine_or_of_consents hread hshown hcompile hconsent.1 hconsent.2 hdone hm
        exact hor.imp_right fun ⟨hstart, hiff⟩ => ⟨ops, c, rfl, hcompile, hstart, hiff⟩
      · left
        apply hlines
        rw [runSteps_of_compile_eq_ok hread hshown hcompile, logsLines_note_cons,
          logsLines_append, logsLines_append]
        exact ⟨isLine_argvMessage arguments,
          logsLines_echoSteps (isPrintableText_displayOperations hshown).isLine,
          logsLines_echoSteps c.isPrintableText_display.isLine,
          logsLines_closingSteps env c hconsent⟩

/-! ### Lines of the log -/

/-- A day and a time of day, with all digits. -/
def IsTimestamp (clock : String) : Prop :=
  clock.toList.map (fun c => if c.isDigit then '0' else c) = "0000-00-00 00:00:00".toList

instance (clock : String) : Decidable (IsTimestamp clock) := inferInstanceAs (Decidable (_ = _))

def logLine (clock message : String) : String := "[" ++ clock ++ "] " ++ message

/-- The lines of messages, each with the time at its number. -/
def linesFrom (clock : Nat → String) (n : Nat) (messages : List String) : List String :=
  (messages.zipIdx n).map fun (message, k) => logLine (clock k) message

lemma IsTimestamp.isLine {clock : String} (h : IsTimestamp clock) : IsLine clock := by
  intro hmem
  have hkept := List.mem_map_of_mem (f := fun c : Char => if c.isDigit then '0' else c) hmem
  rw [h] at hkept
  exact absurd hkept (by decide)

/-- Entries are taken apart into their lines just when all messages are on one line. -/
lemma linesOf_join_entriesFrom {clock : Nat → String} (hclock : ∀ n, IsTimestamp (clock n)) (n : Nat)
    (messages : List String) :
    linesOf (.join (entriesFrom clock n messages)) = linesFrom clock n messages ++ [""] ↔
      ∀ m ∈ messages, IsLine m := by
  have hentries : entriesFrom clock n messages = (linesFrom clock n messages).map (· ++ "\n") := by
    rw [entriesFrom, linesFrom, List.map_map]
    rfl
  have hline : ∀ k m, IsLine (logLine (clock k) m) ↔ IsLine m := by
    intro k m
    simp only [logLine, isLine_append]
    exact and_iff_right ⟨⟨by decide, (hclock k).isLine⟩, by decide⟩
  rw [hentries, linesOf_join_eq_iff, linesFrom, List.forall_mem_map]
  simp only [hline]
  rw [← List.forall_mem_map (f := Prod.fst), List.zipIdx_map_fst]

section

variable (env : Surroundings) (arguments : List String) (input : String)
  (hload : Settings.load env.yaml search folder = .ok settings)
  (hlog : settings.debugLog = some path) (hwritable : folder.IsLog path parts)
  (hfresh : folder.read? path = none) (henv : env.Spares [path])

include hload hlog hwritable hfresh henv

/-- A log that was not there before holds the entries of the messages of a run in the end. -/
lemma read?_run : (run env search arguments).Ensures (start folder input) fun r last =>
    let s := (start folder input).under settings
    let steps := runSteps env settings arguments s
    let done := reached env settings.quiet steps
    r = outcome env settings.quiet steps (runResult env settings arguments s) ∧
    last.messages = (messagesOf done).length ∧
    last.folder.read? path
      = some (String.join (entriesFrom env.clock 0 (messagesOf done))).toUTF8 := by
  apply (ends_run (s := start folder input) arguments hload).mono
  intro r last hends s steps done
  have hkept : ∀ path', s.log = some path' → path' ∈ [path] := by
    intro path' hpath'
    obtain rfl := Option.some.inj (hlog.symm.trans hpath')
    exact List.mem_singleton_self _
  have hlogs : s.folder.HasLogs [path] :=
    ⟨List.forall_mem_singleton.2 ⟨parts, hwritable⟩, by simp⟩
  have hcan : s.CanLog := fun path' hpath' => hlogs.isLog path' (hkept path' hpath')
  obtain ⟨hperforms, hresult⟩ : Performs env s done last ∧ _ :=
    hcan.of_ends (henv.keepsLog hkept) hends
  refine ⟨hresult, ?_, ?_⟩
  · obtain ⟨folder', rfl⟩ := hperforms.exists_past
    exact Nat.zero_add _
  · have hnone : ∀ parts, False → env.KeepsPlace parts := fun _ => False.elim
    have hrecorded := hperforms.recorded henv hnone hkept hlogs
    have hentries : recordedBy env s done path = entriesFrom env.clock 0 (messagesOf done) :=
      if_pos hlog
    have hne : entriesFrom env.clock 0 (messagesOf done) ≠ [] := List.cons_ne_nil _ _
    rw [hrecorded.read?_eq path (List.mem_singleton_self _), hentries, Folder.appended, if_neg hne]
    change some ((folder.read? path).getD .empty ++ _) = _
    rw [hfresh, Option.getD_none, ByteArray.empty_append]

/-- A log that was not there before holds the entries of a run in the end, one for each message that
was given to it and nothing else, if commands leave it alone. The messages are those of the steps up
to the first text that cannot be printed or command that cannot be started. The lines of the log are
these messages, each behind its time, just when no command is started that has a line end in its
program or its output path. -/
theorem run_log_lines (hclock : ∀ n, IsTimestamp (env.clock n)) :
    (run env search arguments).Ensures (start folder input) fun r last =>
      let s := (start folder input).under settings
      let steps := runSteps env settings arguments s
      let done := reached env settings.quiet steps
      r = outcome env settings.quiet steps (runResult env settings arguments s) ∧
      last.messages = (messagesOf done).length ∧
      ∃ text, last.folder.read? path = some text.toUTF8 ∧
        text = String.join (entriesFrom env.clock 0 (messagesOf done)) ∧
        (linesOf text = linesFrom env.clock 0 (messagesOf done) ++ [""] ↔
          ∀ ops c, reading env settings arguments s = .ok ops →
            compileOperations env.curve settings.programs ops = .ok c →
            .note (startMessage c.shellText) ∈ done →
              IsLine c.invocation ∧
                ∀ path, ops.getLast? = some (.output path) → IsLine path) := by
  apply (read?_run env arguments input hload hlog hwritable hfresh henv).mono
  rintro r last ⟨hresult, hmessages, hread⟩ s steps done
  refine ⟨hresult, hmessages, _, hread, rfl, ?_⟩
  rw [linesOf_join_entriesFrom hclock]
  constructor
  · intro hlines ops c hops hcompile hstart
    have hline := hlines _ (mem_messagesOf_of_note_mem hstart)
    rwa [isLine_startMessage, stripped_shellText, isLine_shellText hops hcompile] at hline
  · intro hline m hm
    obtain h | ⟨ops, c, hops, hcompile, hstart, hiff⟩ :=
      isLine_or_of_mem (List.takeWhile_prefix _) hm
    · exact h
    · rw [hiff, isLine_shellText hops hcompile]
      exact hline ops c hops hcompile hstart

end

theorem run_log_lines_executed :
    let env : Surroundings := .calm false "2024-01-02 03:04:05" 0 .zero some Yaml.read
    let folder : Folder := ⟨[], [(["c.yaml"], .file "debug_log: d.log\nexecute: true\n".toUTF8)]⟩
    (run env ⟨none, "c.yaml", "home"⟩ ["montage", "my film.mp4"]).Ensures (start folder "Y\n")
      fun _ last => ∃ text, last.folder.read? "d.log" = some text.toUTF8 ∧ linesOf text =
        ["[2024-01-02 03:04:05] argv: ['montage', 'my film.mp4']",
          "[2024-01-02 03:04:05] [OutFilePath(path='my film.mp4')]",
          "[2024-01-02 03:04:05] Command(invocation='ffmpeg', args=('my film.mp4',))",
          "[2024-01-02 03:04:05] confirmation answer: 'Y'",
          "[2024-01-02 03:04:05] start: ffmpeg 'my film.mp4'",
          "[2024-01-02 03:04:05] end (0.000s, rc=0): ffmpeg 'my film.mp4'", ""] := by
  intro env folder
  let settings : Settings := { Settings.standard with
    file := some "c.yaml", execute := true, debugLog := some "d.log" }
  have hload : Settings.load Yaml.read ⟨none, "c.yaml", "home"⟩ folder = .ok settings := by
    decide +kernel
  have hwritable : folder.IsLog "d.log" ["d.log"] :=
    ⟨by decide, by decide +kernel, nofun, fun _ => by decide +kernel⟩
  have hcommand : compileOperations some ⟨"ffmpeg", "ffplay"⟩ [.output "my film.mp4"]
      = .ok ⟨"ffmpeg", ["my film.mp4"]⟩ := by decide +kernel
  have hclock : IsTimestamp "2024-01-02 03:04:05" := by decide
  obtain ⟨-, -, text, hread, -, hlines⟩ := run_log_lines env ["montage", "my film.mp4"] "Y\n" hload
    rfl hwritable (by decide +kernel) (Surroundings.spares_calm ..) fun _ => hclock
  refine ⟨text, hread, (hlines.2 ?_).trans (by decide +kernel)⟩
  rintro ops c hops hc -
  obtain rfl := Except.ok.inj ((parseArguments_output "montage" (by decide)).symm.trans hops)
  obtain rfl := Except.ok.inj (hcommand.symm.trans hc)
  refine ⟨by decide, fun path hpath => ?_⟩
  obtain rfl : "my film.mp4" = path := by simpa using hpath
  decide

/-- A line end in an output path breaks the entries about the command, so that the log has lines
that are no entries and do not start with the time. -/
theorem run_log_broken_lines :
    let env : Surroundings := .calm false "2024-01-02 03:04:05" 0 .zero some Yaml.read
    let settings : Settings := { Settings.standard with
      file := some "c.yaml", execute := true, debugLog := some "d.log" }
    let folder : Folder := ⟨[], [(["c.yaml"], .file "debug_log: d.log\nexecute: true\n".toUTF8)]⟩
    let last := ((run env ⟨none, "c.yaml", "home"⟩ ["montage", "a\nb"]).on (start folder "Y\n")).2
    let steps := runSteps env settings ["montage", "a\nb"] ((start folder "Y\n").under settings)
    let lines := ["[2024-01-02 03:04:05] argv: ['montage', 'a\\nb']",
      "[2024-01-02 03:04:05] [OutFilePath(path='a\\nb')]",
      "[2024-01-02 03:04:05] Command(invocation='ffmpeg', args=('a\\nb',))",
      "[2024-01-02 03:04:05] confirmation answer: 'Y'",
      "[2024-01-02 03:04:05] start: ffmpeg 'a", "b'",
      "[2024-01-02 03:04:05] end (0.000s, rc=0): ffmpeg 'a", "b'"]
    let text := String.join (lines.map (· ++ "\n"))
    Settings.load env.yaml ⟨none, "c.yaml", "home"⟩ folder = .ok settings ∧
    folder.read? "d.log" = none ∧ IsTimestamp (env.clock 0) ∧
    parseArguments (accepts settings folder) ["montage", "a\nb"] = .ok [.output "a\nb"] ∧
    last.folder.read? "d.log" = some text.toUTF8 ∧ linesOf text = lines ++ [""] ∧
    "b'" ∉ linesFrom env.clock 0 (messagesOf steps) := by
  intro env settings folder last steps lines text
  have hload : Settings.load Yaml.read ⟨none, "c.yaml", "home"⟩ folder = .ok settings := by
    decide +kernel
  have hlines : linesOf text = lines ++ [""] := linesOf_join_eq_iff.2 (by decide +kernel)
  have hops : parseArguments (accepts settings folder) ["montage", "a\nb"] = .ok [.output "a\nb"] :=
    parseArguments_output "montage" (by decide)
  have hwritable : folder.IsLog "d.log" ["d.log"] :=
    ⟨by decide, by decide +kernel, nofun, fun _ => by decide +kernel⟩
  have hfresh : folder.read? "d.log" = none := by decide +kernel
  have htext : String.join (entriesFrom env.clock 0
      (messagesOf (reached env settings.quiet steps))) = text := by
    decide +kernel
  obtain ⟨-, -, hread⟩ :=
    read?_run env ["montage", "a\nb"] "Y\n" hload rfl hwritable hfresh (Surroundings.spares_calm ..)
  rw [htext] at hread
  exact ⟨hload, hfresh, by decide, hops, hread, hlines, by decide +kernel⟩

end Montage.Application
