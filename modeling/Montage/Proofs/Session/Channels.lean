import Montage.Proofs.Session.Confirmation
import Montage.Proofs.Session.Logs
import Montage.Yaml.Document

/-!
# Logs and console

A session writes to two channels, each with a switch of its own: to the log, which calls may
exchange for another one or for none, and to the console, which quiet mode closes to echoes. What
stands in the files of the logs and on the console after calls is read off the calls alone, each of
them taken with the switches before it, and it only ever grows. A call stops at a text that cannot
be printed or a command that cannot be started, and the calls behind it go on.
-/

namespace Montage

open Run

/-- A call that writes or switches, with the surroundings in which it is made. -/
inductive Session.Call
  | setQuiet (quiet : Bool)
  | setLog (log : Option String)
  | writeLog (env : Surroundings) (message : String)
  | echo (env : Surroundings) (message : String)
  | runCommand (env : Surroundings) (command : String)

namespace Session

variable {s s' : Session} {call : Call} {before calls earlier later : List Call}
  {logs : List String} {path : String} {env : Surroundings} {quiet : Bool}
  {places : List String → Prop}

namespace Call

def run : Call → Run Unit
  | setQuiet quiet => Session.setQuiet quiet
  | setLog log => Session.setLog log
  | writeLog env message => Session.writeLog env message
  | echo env message => Session.echo env message
  | runCommand env command => discard (Session.runCommand env command)

def log? : Call → Option (Option String)
  | setLog log => some log
  | _ => none

def quiet? : Call → Option Bool
  | setQuiet quiet => some quiet
  | _ => none

def env? : Call → Option Surroundings
  | setQuiet _ | setLog _ => none
  | writeLog env _ | echo env _ | runCommand env _ => some env

/-- Whether a call only makes a switch. -/
def isSwitch (call : Call) : Bool := call.env?.isNone

def messages : Call → List String
  | setQuiet _ | setLog _ => []
  | writeLog _ message | echo _ message => [message]
  | runCommand env command =>
    if env.canPrint (startLine command) then
      startMessage command ::
        match env.execute (stripped command) with
        | .ok ended => [endMessage ended command]
        | .error _ => []
    else []

/-- The entries that a call makes in the log, if the first of its messages has the number `n`. -/
def entries (n : Nat) (call : Call) : List String :=
  match call.env? with
  | some env => entriesFrom env.clock n call.messages
  | none => []

/-- The text that a call prints; quiet mode is for echoes only. -/
def text (quiet : Bool) : Call → String
  | setQuiet _ | setLog _ | writeLog _ _ => ""
  | echo env message =>
    if !quiet && env.canPrint (message ++ "\n") then message ++ "\n" else ""
  | runCommand env command =>
    if env.canPrint (startLine command) then startLine command else ""

/-- What a call gives if its messages get to the log. -/
def result (quiet : Bool) : Call → Except Failure Unit
  | setQuiet _ | setLog _ | writeLog _ _ => .ok ()
  | echo env message =>
    if quiet || env.canPrint (message ++ "\n") then .ok () else .error (.effect .output)
  | runCommand env command =>
    if env.canPrint (startLine command) then
      match env.execute (stripped command) with
      | .ok _ => .ok ()
      | .error f => .error (.effect (.start f))
    else .error (.effect .output)

/-- Calls in their order, each with the calls before it. -/
def issued (before : List Call) : List Call → List (List Call × Call)
  | [] => []
  | call :: calls => (before, call) :: issued (before ++ [call]) calls

lemma issued_concat : issued before (calls ++ [call])
    = issued before calls ++ [(before ++ calls, call)] := by
  induction calls generalizing before with
  | nil => rw [List.append_nil, List.nil_append, issued, issued, issued, List.nil_append]
  | cons first calls ih =>
    rw [List.cons_append, issued, ih, issued, List.append_assoc, List.singleton_append,
      List.cons_append]

/-! ### One call -/

def steps : Call → List Step
  | setQuiet _ | setLog _ => []
  | writeLog _ message => [.note message]
  | echo _ message => echoSteps message
  | runCommand env command => executionSteps env command

/-- A call in given surroundings takes its steps. -/
lemma does_run (h : call.env? = some env) (s : Session) : ∃ r, Does env s call.run call.steps r ∧
    ∀ quiet, outcome env quiet call.steps r = call.result quiet := by
  cases call with
  | setQuiet | setLog => nomatch h
  | writeLog env message =>
    obtain rfl := Option.some.inj h
    exact ⟨_, does_writeLog env message s, fun _ => rfl⟩
  | echo env message =>
    obtain rfl := Option.some.inj h
    refine ⟨_, does_echo env message s, fun quiet => ?_⟩
    simp only [outcome, steps, echoSteps, List.findSome?_cons, Step.fault?, result]
    split_ifs <;> rfl
  | runCommand env command =>
    obtain rfl := Option.some.inj h
    refine ⟨_, (does_runCommand env command s).discard, fun quiet => ?_⟩
    simp only [outcome, steps, executionSteps, executionResult, List.cons_append, List.nil_append,
      List.findSome?_cons, Step.fault?, result]
    cases env.canPrint (startLine command)
    · rfl
    · cases env.execute (stripped command) <;> rfl

/-- The messages of the steps that a call takes, and what these print. -/
lemma reached_steps (h : call.env? = some env) (quiet : Bool) :
    messagesOf (reached env quiet call.steps) = call.messages ∧
      textOf quiet (reached env quiet call.steps) = call.text quiet := by
  cases call with
  | setQuiet | setLog => nomatch h
  | writeLog env message => exact ⟨rfl, rfl⟩
  | echo env message =>
    obtain rfl := Option.some.inj h
    cases hprint : env.canPrint (message ++ "\n") <;> cases quiet <;>
      simp [steps, echoSteps, reached_cons, reached_nil, Step.isPossible, Step.fault?, hprint,
        messages, text, Step.message?, Step.text]
  | runCommand env command =>
    obtain rfl := Option.some.inj h
    cases hprint : env.canPrint (startLine command) with
    | false =>
      simp [steps, executionSteps, reached_cons, Step.isPossible, Step.fault?, hprint, messages,
        text]
    | true =>
      cases hstart : env.execute (stripped command) <;>
        simp [steps, executionSteps, reached_cons, reached_nil, Step.isPossible, Step.fault?,
          hprint, hstart, messages, text, Step.message?, Step.text]

/-- A call without surroundings makes its switch and does nothing else. -/
lemma on_run_of_switch (h : call.env? = none) (s : Session) : call.run.on s = (call.result s.quiet,
    { s with quiet := call.quiet?.getD s.quiet, log := call.log?.getD s.log }) ∧
      call.messages = [] ∧ ∀ quiet, call.text quiet = "" := by
  cases call with
  | setQuiet | setLog => exact ⟨rfl, rfl, fun _ => rfl⟩
  | writeLog | echo | runCommand => nomatch h

/-- A call in given surroundings makes no switch. -/
lemma switches_eq_none (h : call.env? = some env) : call.log? = none ∧ call.quiet? = none := by
  cases call with
  | setQuiet | setLog => nomatch h
  | writeLog | echo | runCommand => exact ⟨rfl, rfl⟩

end Call

/-! ### Many calls -/

/-- The session after calls, whether or not they succeed. -/
def after (s : Session) (calls : List Call) : Session :=
  calls.foldl (fun s call => (call.run.on s).2) s

lemma after_append : s.after (earlier ++ later) = (s.after earlier).after later :=
  List.foldl_append

/-- The log that is kept after calls: the last one that they switch to. -/
def logAfter (s : Session) (calls : List Call) : Option String :=
  (calls.filterMap Call.log?).getLastD s.log

/-- Whether the session is in quiet mode after calls. -/
def quietAfter (s : Session) (calls : List Call) : Bool :=
  (calls.filterMap Call.quiet?).getLastD s.quiet

/-- How many messages have been given to the log after calls. -/
def messagesAfter (s : Session) (calls : List Call) : Nat :=
  s.messages + (calls.flatMap Call.messages).length

/-- The entries of those calls that are made while the log at a path is kept. -/
def entriesIn (s : Session) (calls : List Call) (path : String) : List String :=
  (Call.issued [] calls).flatMap fun (before, call) =>
    if s.logAfter before = some path then call.entries (s.messagesAfter before) else []

/-- The texts that calls print, each in the quiet mode that it is made in. -/
def printedBy (s : Session) (calls : List Call) : String :=
  .join ((Call.issued [] calls).map fun (before, call) => call.text (s.quietAfter before))

/-- The last switch of logs counts. -/
lemma logAfter_concat : s.logAfter (calls ++ [call]) = call.log?.getD (s.logAfter calls) := by
  rw [logAfter, List.filterMap_append]
  cases hlog : call.log? with
  | none => rw [List.filterMap_cons_none hlog, List.filterMap_nil, List.append_nil]; rfl
  | some log =>
    rw [List.filterMap_cons_some hlog, List.filterMap_nil, List.getLastD_concat]
    rfl

lemma quietAfter_concat :
    s.quietAfter (calls ++ [call]) = call.quiet?.getD (s.quietAfter calls) := by
  rw [quietAfter, List.filterMap_append]
  cases hquiet : call.quiet? with
  | none => rw [List.filterMap_cons_none hquiet, List.filterMap_nil, List.append_nil]; rfl
  | some quiet =>
    rw [List.filterMap_cons_some hquiet, List.filterMap_nil, List.getLastD_concat]
    rfl

/-- A call adds its messages to the count. -/
lemma messagesAfter_concat :
    s.messagesAfter (calls ++ [call]) = s.messagesAfter calls + call.messages.length := by
  rw [messagesAfter, List.flatMap_append, List.flatMap_singleton, List.length_append, ← add_assoc]
  rfl

/-- A call adds its entries to the log that is kept when it is made. -/
lemma entriesIn_concat : s.entriesIn (calls ++ [call]) = fun path => s.entriesIn calls path ++
    if s.logAfter calls = some path then call.entries (s.messagesAfter calls) else [] := by
  funext path
  rw [entriesIn, Call.issued_concat, List.flatMap_append, List.flatMap_singleton]
  rfl

/-- A call prints behind all that was printed before it. -/
lemma printedBy_concat : s.printedBy (calls ++ [call])
    = s.printedBy calls ++ call.text (s.quietAfter calls) := by
  rw [printedBy, Call.issued_concat, List.map_append, String.join_append, List.map_singleton,
    String.join_cons, String.join_nil, String.append_empty]
  rfl

/-- All logs to which calls write are among some paths. -/
structure KeepsTo (s : Session) (logs : List String) (calls : List Call) : Prop where
  log_mem : ∀ path, s.log = some path → path ∈ logs
  setLog_mem : ∀ path, .setLog (some path) ∈ calls → path ∈ logs

lemma KeepsTo.of_append (h : s.KeepsTo logs (earlier ++ later)) : s.KeepsTo logs earlier where
  log_mem := h.log_mem
  setLog_mem := fun path hpath => h.setLog_mem path (List.mem_append_left _ hpath)

/-- The log that is kept is one of the given ones. -/
lemma KeepsTo.mem_of_logAfter (h : s.KeepsTo logs calls) (hlog : s.logAfter calls = some path) :
    path ∈ logs := by
  induction calls using List.reverseRecOn with
  | nil => exact h.log_mem path hlog
  | append_singleton calls call ih =>
    rw [logAfter_concat] at hlog
    cases call with
    | setLog log =>
      obtain rfl : log = some path := hlog
      exact h.setLog_mem path (List.mem_append_right _ (List.mem_singleton_self _))
    | setQuiet | writeLog | echo | runCommand => exact ih h.of_append hlog

/-- The surroundings in which calls write. -/
def surroundingsOf (calls : List Call) : List Surroundings := calls.filterMap Call.env?

/-- What holds of the surroundings of calls holds of those of the first and of the last of them. -/
lemma forall_surroundingsOf_append {p : Surroundings → Prop} :
    (∀ env ∈ surroundingsOf (earlier ++ later), p env) ↔
      (∀ env ∈ surroundingsOf earlier, p env) ∧ ∀ env ∈ surroundingsOf later, p env := by
  rw [surroundingsOf, List.filterMap_append, List.forall_mem_append]
  rfl

/-- What has come of a session through calls. -/
structure Accounts (s : Session) (logs : List String) (places : List String → Prop)
    (calls : List Call) (s' : Session) : Prop where
  log_eq : s'.log = s.logAfter calls
  quiet_eq : s'.quiet = s.quietAfter calls
  messages_eq : s'.messages = s.messagesAfter calls
  printed_eq : s'.printed = s.printed ++ s.printedBy calls
  recorded : s.folder.Recorded logs places (s.entriesIn calls) s'.folder

lemma Accounts.keepsTo (h : s.Accounts logs places earlier s')
    (hcalls : s.KeepsTo logs (earlier ++ later)) : s'.KeepsTo logs later where
  log_mem := fun _ hlog => hcalls.of_append.mem_of_logAfter (h.log_eq.symm.trans hlog)
  setLog_mem := fun path hpath => hcalls.setLog_mem path (List.mem_append_right _ hpath)

/-- A call that makes a switch is accounted for. -/
lemma Accounts.concat_switch (h : s.Accounts logs places calls s') (hswitch : call.env? = none) :
    ∃ s'', call.run.on s' = (call.result s'.quiet, s'') ∧
      s.Accounts logs places (calls ++ [call]) s'' := by
  have hentries : s.entriesIn (calls ++ [call]) = s.entriesIn calls := by
    rw [entriesIn_concat]
    funext path
    rw [Call.entries, hswitch, ite_self, List.append_nil]
  obtain ⟨hrun, hmessages, htext⟩ := Call.on_run_of_switch hswitch s'
  refine ⟨_, hrun, ?_⟩
  constructor
  case log_eq => rw [logAfter_concat, h.log_eq]
  case quiet_eq => rw [quietAfter_concat, h.quiet_eq]
  case messages_eq => rw [messagesAfter_concat, hmessages, ← h.messages_eq]; rfl
  case printed_eq => rw [printedBy_concat, htext, String.append_empty, ← h.printed_eq]
  case recorded =>
    rw [hentries]
    exact h.recorded

/-- A call that writes is accounted for. -/
lemma Accounts.concat_write (h : s.Accounts logs places calls s')
    (hcalls : s.KeepsTo logs (calls ++ call :: later)) (hwrites : call.env? = some env)
    (henv : env.Spares logs) (hplaces : ∀ parts, places parts → env.KeepsPlace parts) :
    ∃ s'', call.run.on s' = (call.result s'.quiet, s'') ∧
      s.Accounts logs places (calls ++ [call]) s'' := by
  have hkept := (h.keepsTo hcalls).log_mem
  have hcan : s'.CanLog := fun path hpath => h.recorded.hasLogs.isLog path (hkept path hpath)
  obtain ⟨r, hdoes, hresult⟩ := call.does_run hwrites s'
  obtain ⟨hperforms, hr⟩ := hcan.of_ends (henv.keepsLog hkept) hdoes.ends
  obtain ⟨hmessages, htext⟩ := Call.reached_steps hwrites s'.quiet
  have hrecorded := hperforms.recorded henv hplaces hkept h.recorded.hasLogs
  obtain ⟨hlog, hquiet⟩ := Call.switches_eq_none hwrites
  refine ⟨(call.run.on s').2, Prod.ext (hr.trans (hresult _)) rfl, ?_⟩
  generalize (call.run.on s').2 = s'' at hperforms hrecorded ⊢
  obtain ⟨folder, rfl⟩ := hperforms.exists_past
  constructor
  case log_eq => rw [logAfter_concat, hlog]; exact h.log_eq
  case quiet_eq => rw [quietAfter_concat, hquiet]; exact h.quiet_eq
  case messages_eq => rw [messagesAfter_concat, ← h.messages_eq, ← hmessages]; rfl
  case printed_eq =>
    rw [printedBy_concat, ← h.quiet_eq, ← htext, ← String.append_assoc, ← h.printed_eq]
    rfl
  case recorded =>
    have hentries : recordedBy env s' (reached env s'.quiet call.steps) = fun path =>
        if s.logAfter calls = some path then call.entries (s.messagesAfter calls) else [] := by
      funext path
      rw [recordedBy, hmessages, Call.entries, hwrites, h.log_eq, h.messages_eq]
    rw [hentries] at hrecorded
    rw [entriesIn_concat]
    exact h.recorded.trans hrecorded

/-- A call succeeds or not as its surroundings have it, and is accounted for. -/
lemma Accounts.concat (h : s.Accounts logs places calls s')
    (hcalls : s.KeepsTo logs (calls ++ call :: later))
    (henv : ∀ env ∈ surroundingsOf (calls ++ call :: later), env.Spares logs ∧
      ∀ parts, places parts → env.KeepsPlace parts) :
    ∃ s'', call.run.on s' = (call.result s'.quiet, s'') ∧
      s.Accounts logs places (calls ++ [call]) s'' := by
  cases hwrites : call.env? with
  | none => exact h.concat_switch hwrites
  | some env =>
    have hmem : env ∈ surroundingsOf (calls ++ call :: later) :=
      List.mem_filterMap.2 ⟨call, List.mem_append_right _ List.mem_cons_self, hwrites⟩
    exact h.concat_write hcalls hwrites (henv env hmem).1 (henv env hmem).2

/-- So are all calls together. -/
lemma accounts_after (hlogs : s.folder.HasLogs logs) (hcalls : s.KeepsTo logs calls)
    (henv : ∀ env ∈ surroundingsOf calls, env.Spares logs ∧
      ∀ parts, places parts → env.KeepsPlace parts) :
    s.Accounts logs places calls (s.after calls) := by
  induction calls using List.reverseRecOn with
  | nil => exact ⟨rfl, rfl, rfl, (String.append_empty).symm, .refl hlogs⟩
  | append_singleton calls call ih =>
    have hearlier := ih hcalls.of_append (forall_surroundingsOf_append.1 henv).1
    obtain ⟨s'', hrun, haccounts⟩ := hearlier.concat hcalls henv
    have hafter : s.after (calls ++ [call]) = s'' := by
      rw [after_append]
      exact congrArg Prod.snd hrun
    rwa [hafter]

/-! ### Switches -/

/-- Switches write nothing. -/
lemma after_of_isSwitch (h : ∀ call ∈ calls, call.isSwitch) :
    (s.after calls).folder = s.folder ∧ (s.after calls).printed = s.printed := by
  induction calls generalizing s with
  | nil => exact ⟨rfl, rfl⟩
  | cons call calls ih =>
    obtain ⟨hcall, hcalls⟩ := List.forall_mem_cons.1 h
    cases call with
    | setQuiet | setLog => exact ih hcalls
    | writeLog | echo | runCommand => nomatch hcall

/-- Calls that write to logs of their own give all their messages to them, and fail only for a text
that cannot be printed or a command that cannot be started. After them each log holds what it held
before and then the entries made while it was kept, in their order, and nothing else has been
written in any place that commands leave alone; on the console stand the echoes made while it was
not quiet and the commands that were run. What has been written once is never altered, and switches
write nothing. -/
theorem record_after (s : Session) (calls : List Call) (logs : List String)
    (hcalls : s.KeepsTo logs calls)
    (hwritable : ∀ path ∈ logs, ∃ g, s.folder.append path "" = .ok g)
    (hapart : ∀ path ∈ logs, ∀ path' ∈ logs,
      s.folder.resolve path = s.folder.resolve path' → path = path')
    (henv : ∀ env ∈ surroundingsOf calls, env.Spares logs) :
    let last := s.after calls
    (∀ earlier call later, calls = earlier ++ call :: later →
      (call.run.on (s.after earlier)).1 = call.result (s.quietAfter earlier)) ∧
    last.messages = s.messagesAfter calls ∧
    (∀ path ∈ logs, last.folder.read? path
      = Folder.appended (s.folder.read? path) (s.entriesIn calls path)) ∧
    (∀ parts, (∀ path ∈ logs, s.folder.resolve path ≠ .inside parts) →
      (∀ env ∈ surroundingsOf calls, env.KeepsPlace parts) →
      last.folder.find? parts = s.folder.find? parts) ∧
    last.printed = s.printed ++ s.printedBy calls ∧
    ∀ earlier later, calls = earlier ++ later →
      (∀ path ∈ logs, ∃ entries, last.folder.read? path
        = Folder.appended ((s.after earlier).folder.read? path) entries) ∧
      (∃ more, last.printed = (s.after earlier).printed ++ more) ∧
      ((∀ call ∈ later, call.isSwitch) → last.folder = (s.after earlier).folder ∧
        last.printed = (s.after earlier).printed) := by
  intro last
  let places parts := ∀ env ∈ surroundingsOf calls, env.KeepsPlace parts
  have hsurroundings : ∀ env ∈ surroundingsOf calls, env.Spares logs ∧
      ∀ parts, places parts → env.KeepsPlace parts :=
    fun env hmem => ⟨henv env hmem, fun parts hplace => hplace env hmem⟩
  have hlogs : s.folder.HasLogs logs := Folder.hasLogs_of_append hwritable hapart
  have haccounts : s.Accounts logs places calls last := accounts_after hlogs hcalls hsurroundings
  refine ⟨?results, haccounts.messages_eq, haccounts.recorded.read?_eq, ?places,
    haccounts.printed_eq, ?kept⟩
  case places =>
    intro parts hparts hplace
    exact haccounts.recorded.find?_eq parts hplace hparts
  case results =>
    rintro earlier call later rfl
    have hearlier := accounts_after hlogs hcalls.of_append
      (forall_surroundingsOf_append.1 hsurroundings).1
    obtain ⟨_, hrun, -⟩ := hearlier.concat hcalls hsurroundings
    rw [hrun, hearlier.quiet_eq]
  case kept =>
    rintro earlier later rfl
    rw [forall_surroundingsOf_append] at hsurroundings
    have hearlier := accounts_after hlogs hcalls.of_append hsurroundings.1
    have hlater := accounts_after hearlier.recorded.hasLogs (hearlier.keepsTo hcalls)
      hsurroundings.2
    have hlast : last = (s.after earlier).after later := after_append
    rw [hlast]
    exact ⟨fun path hpath => ⟨_, hlater.recorded.read?_eq path hpath⟩, ⟨_, hlater.printed_eq⟩,
      after_of_isSwitch⟩

theorem record_after_two_logs :
    let env (clock : Nat → String) : Surroundings :=
      { Surroundings.calm false "" 3 .zero some Yaml.read with clock }
    let frozen (time : String) := env fun _ => time
    let s := start ⟨[], [(["a.log"], .file "old\n".toUTF8)]⟩ ""
    let calls : List Call := [.setLog (some "a.log"), .echo (frozen "10:00") "one", .setQuiet true,
      .setLog (some "logs.txt"), .echo (frozen "10:01") "two",
      .runCommand (env fun n => if n = 2 then "10:02" else "10:05") " ls ", .setLog (some "a.log"),
      .writeLog (frozen "10:06") "three", .setLog none, .setQuiet false, .echo (frozen "10:07") "four"]
    let last := s.after calls
    last.folder.read? "a.log" = some "old\n[10:00] one\n[10:06] three\n".toUTF8 ∧
    last.folder.read? "logs.txt" = some
      "[10:01] two\n[10:02] start: ls\n[10:05] end (0.000s, rc=3): ls\n".toUTF8 ∧
    last.printed = "one\nCMD: 'ls'\nfour\n" := by
  intro env frozen s calls last
  have hcalls : s.KeepsTo ["a.log", "logs.txt"] calls := by
    refine ⟨nofun, fun path hpath => ?_⟩
    obtain rfl | rfl | rfl : path = "a.log" ∨ path = "logs.txt" ∨ path = "a.log" := by
      simpa [calls] using hpath
    all_goals decide
  have hfirst : s.folder.IsLog "a.log" ["a.log"] := ⟨by decide, by decide +kernel, nofun, nofun⟩
  have hsecond : s.folder.IsLog "logs.txt" ["logs.txt"] :=
    ⟨by decide, by decide +kernel, nofun, fun _ => by decide +kernel⟩
  have hwritable : ∀ path ∈ ["a.log", "logs.txt"], ∃ g, s.folder.append path "" = .ok g :=
    List.forall_mem_cons.2 ⟨⟨_, hfirst.append_eq ""⟩,
      List.forall_mem_singleton.2 ⟨_, hsecond.append_eq ""⟩⟩
  have hapart : ∀ path ∈ ["a.log", "logs.txt"], ∀ path' ∈ ["a.log", "logs.txt"],
      s.folder.resolve path = s.folder.resolve path' → path = path' := by
    decide +kernel
  have henv : ∀ clock, (env clock).Spares ["a.log", "logs.txt"] := fun clock =>
    ⟨fun _ => rfl, (Surroundings.spares_calm false "" 3 .zero some Yaml.read _).change⟩
  have hsurroundings : ∀ env ∈ surroundingsOf calls, env.Spares ["a.log", "logs.txt"] := by
    intro e he
    simp only [calls, surroundingsOf, List.mem_filterMap, List.mem_cons, List.not_mem_nil,
      or_false] at he
    obtain ⟨call, rfl | rfl | rfl | rfl | rfl | rfl | rfl | rfl | rfl | rfl | rfl, he⟩ := he <;>
      cases he <;> exact henv _
  obtain ⟨-, -, hread, -, hprinted, -⟩ :=
    record_after s calls _ hcalls hwritable hapart hsurroundings
  refine ⟨(hread _ (by decide)).trans (by decide +kernel),
    (hread _ (by decide)).trans (by decide +kernel), hprinted.trans (by decide +kernel)⟩

end Session

end Montage
