import Montage.Proofs.Session.Logging

/-!
# Several logs

What becomes of the files of several logs when entries are written to one of them: this one grows by
the entries, and all others stay as they are, as do places that commands leave alone. Changes of
this kind make up one such change, so it is what the steps of a run come to.
-/

namespace Montage

open Run Session

namespace Folder

variable {f g k : Folder} {logs entries entries' parts : List String} {path entry : String}
  {content : Option ByteArray} {written written' : String → List String}
  {places : List String → Prop} {change : Folder → Folder}

/-! ### Logs side by side -/

/-- Texts can be appended at all of the paths, and each of them leads to a file of its own. -/
structure HasLogs (f : Folder) (logs : List String) : Prop where
  isLog : ∀ path ∈ logs, ∃ parts, f.IsLog path parts
  apart : ∀ path ∈ logs, ∀ path' ∈ logs, f.resolve path = f.resolve path' → path = path'

/-- A change of the files leaves the log at a path alone. -/
def Spares (change : Folder → Folder) (path : String) : Prop :=
  ∀ f parts, f.IsLog path parts →
    (change f).IsLog path parts ∧ (change f).find? parts = f.find? parts

/-- What a log holds after entries were written to it; the first of them creates it. -/
def appended (content : Option ByteArray) (entries : List String) : Option ByteArray :=
  if entries = [] then content
  else some (content.getD .empty ++ (String.join entries).toUTF8)

lemma appended_nil : appended content [] = content := rfl

/-- Entries are appended one after the other. -/
lemma appended_append : appended content (entries ++ entries')
    = appended (appended content entries) entries' := by
  rcases eq_or_ne entries [] with rfl | hne
  · rfl
  rcases eq_or_ne entries' [] with rfl | hne'
  · rw [List.append_nil, appended_nil]
  · have hboth : entries ++ entries' ≠ [] := by simp [hne]
    rw [appended, appended, appended, if_neg hboth, if_neg hne, if_neg hne', Option.getD_some,
      String.join_append, ByteArray.append_assoc]
    exact congrArg (fun bytes => some (_ ++ bytes)) String.toByteArray_append

/-- Entries have been written to logs, and nothing else has changed there and in some other
places. -/
structure Recorded (f : Folder) (logs : List String) (places : List String → Prop)
    (written : String → List String) (g : Folder) : Prop where
  hasLogs : g.HasLogs logs
  resolve_eq : ∀ path ∈ logs, g.resolve path = f.resolve path
  read?_eq : ∀ path ∈ logs, g.read? path = appended (f.read? path) (written path)
  find?_eq : ∀ parts, places parts → (∀ path ∈ logs, f.resolve path ≠ .inside parts) →
    g.find? parts = f.find? parts

namespace Recorded

lemma refl (h : f.HasLogs logs) : f.Recorded logs places (fun _ => []) f where
  hasLogs := h
  resolve_eq := fun _ _ => rfl
  read?_eq := fun _ _ => rfl
  find?_eq := fun _ _ _ => rfl

/-- What is recorded later stands behind what is recorded before. -/
lemma trans (h : f.Recorded logs places written g) (h' : g.Recorded logs places written' k) :
    f.Recorded logs places (fun path => written path ++ written' path) k where
  hasLogs := h'.hasLogs
  resolve_eq := by
    intro path hpath
    rw [h'.resolve_eq path hpath, h.resolve_eq path hpath]
  read?_eq := by
    intro path hpath
    rw [h'.read?_eq path hpath, h.read?_eq path hpath, appended_append]
  find?_eq := by
    intro parts hplace hparts
    rw [h'.find?_eq parts hplace, h.find?_eq parts hplace hparts]
    intro path hpath
    rw [h.resolve_eq path hpath]
    exact hparts path hpath

end Recorded

/-- The paths at which texts can be appended are logs, if no two lead to one file. -/
lemma hasLogs_of_append (hwritable : ∀ path ∈ logs, ∃ g, f.append path "" = .ok g)
    (hapart : ∀ path ∈ logs, ∀ path' ∈ logs, f.resolve path = f.resolve path' → path = path') :
    f.HasLogs logs where
  isLog := by
    intro path hpath
    obtain ⟨g, hg⟩ := hwritable path hpath
    obtain ⟨parts, -, hlog, -⟩ := exists_isLog_of_append hg
    exact ⟨parts, hlog⟩
  apart := hapart

/-- Logs stay logs of their own where the ways to them stay as they are. -/
lemma HasLogs.of_isLog (h : f.HasLogs logs)
    (hlogs : ∀ path ∈ logs, ∀ parts, f.IsLog path parts → g.IsLog path parts) :
    g.HasLogs logs ∧ ∀ path ∈ logs, g.resolve path = f.resolve path := by
  have hresolve : ∀ path ∈ logs, g.resolve path = f.resolve path := by
    intro path hpath
    obtain ⟨parts, hlog⟩ := h.isLog path hpath
    rw [(hlogs _ hpath _ hlog).resolve_eq, hlog.resolve_eq]
  refine ⟨⟨fun path hpath => ?_, fun path hpath path' hpath' heq => ?_⟩, hresolve⟩
  · obtain ⟨parts, hlog⟩ := h.isLog path hpath
    exact ⟨parts, hlogs _ hpath _ hlog⟩
  · rw [hresolve _ hpath, hresolve _ hpath'] at heq
    exact h.apart _ hpath _ hpath' heq

/-- An entry goes to the log that is kept, and to no other. -/
lemma HasLogs.recorded_append (h : f.HasLogs logs) (hpath : path ∈ logs)
    (happend : f.append path entry = .ok g) :
    f.Recorded logs places (fun path' => if path = path' then [entry] else []) g := by
  obtain ⟨parts, bytes, hlog, rfl⟩ := exists_isLog_of_append happend
  have hkept : ∀ path' ∈ logs, ∀ parts', f.IsLog path' parts' →
      (f.set parts (.file bytes)).IsLog path' parts' :=
    fun path' _ parts' hlog' => hlog'.set_file hlog.noFolder bytes
  have hfind : ∀ parts', parts' ≠ parts →
      (f.set parts (.file bytes)).find? parts' = f.find? parts' := by
    intro parts' hne
    rw [find?_set, if_neg hne]
  obtain ⟨hlogs, hresolve⟩ := h.of_isLog hkept
  refine ⟨hlogs, hresolve, fun path' hpath' => ?_, fun parts' _ hparts' => hfind _ ?_⟩
  · by_cases heq : path = path'
    · subst heq
      rw [if_pos rfl, hlog.read?_append happend, appended, if_neg (List.cons_ne_nil _ _)]
      simp
    · obtain ⟨parts', hlog'⟩ := h.isLog path' hpath'
      have hne : parts' ≠ parts := by
        rintro rfl
        exact heq (h.apart _ hpath _ hpath' (hlog.resolve_eq.trans hlog'.resolve_eq.symm))
      rw [if_neg heq, appended_nil, (hkept _ hpath' _ hlog').read?_eq, hlog'.read?_eq, hfind _ hne]
  · rintro rfl
    exact hparts' path hpath hlog.resolve_eq

/-- A change that leaves all logs alone records nothing. -/
lemma HasLogs.recorded_change (h : f.HasLogs logs) (hspares : ∀ path ∈ logs, Spares change path)
    (hplaces : ∀ parts, places parts → (change f).find? parts = f.find? parts) :
    f.Recorded logs places (fun _ => []) (change f) := by
  obtain ⟨hlogs, hresolve⟩ := h.of_isLog fun path hpath parts hlog =>
    (hspares path hpath f parts hlog).1
  refine ⟨hlogs, hresolve, fun path hpath => ?_, fun parts hplace _ => hplaces parts hplace⟩
  obtain ⟨parts, hlog⟩ := h.isLog path hpath
  obtain ⟨hlog', hfind⟩ := hspares path hpath f parts hlog
  rw [appended_nil, hlog'.read?_eq, hlog.read?_eq, hfind]

end Folder

variable {env : Surroundings} {s last : Session} {step : Step} {steps : List Step}
  {logs messages messages' : List String} {places : List String → Prop} {folder : Folder}
  {clock : Nat → String} {n : Nat}

/-! ### Entries -/

def entriesFrom (clock : Nat → String) (n : Nat) (messages : List String) : List String :=
  (messages.zipIdx n).map fun (message, k) => logEntry (clock k) message

lemma entriesFrom_append : entriesFrom clock n (messages ++ messages')
    = entriesFrom clock n messages ++ entriesFrom clock (n + messages.length) messages' := by
  rw [entriesFrom, List.zipIdx_append, List.map_append]
  rfl

/-! ### Steps -/

/-- No entry is refused, and commands leave the logs alone. -/
structure Surroundings.Spares (env : Surroundings) (logs : List String) : Prop where
  refusal?_eq : ∀ n, env.refusal? n = none
  change : ∀ command ended, env.execute command = .ok ended →
    ∀ path ∈ logs, Folder.Spares ended.change path

/-- Commands leave a place alone. -/
def Surroundings.KeepsPlace (env : Surroundings) (parts : List String) : Prop :=
  ∀ command ended, env.execute command = .ok ended →
    ∀ folder, (ended.change folder).find? parts = folder.find? parts

/-- Surroundings that spare some logs keep each of them. -/
lemma Surroundings.Spares.keepsLog (henv : env.Spares logs)
    (hlog : ∀ path, s.log = some path → path ∈ logs) : env.KeepsLog s.log where
  refusal?_eq := henv.refusal?_eq
  isLog_change := fun path hpath command ended hended folder parts hparts =>
    ⟨parts, (henv.change command ended hended path (hlog path hpath) folder parts hparts).1⟩

lemma Surroundings.spares_calm (terminal : Bool) (time : String) (status : Int)
    (elapsed : Binary64) (curve : Curve) (yaml : Yaml.Reader) (logs : List String) :
    (calm terminal time status elapsed curve yaml).Spares logs where
  refusal?_eq := fun _ => rfl
  change := by
    rintro command _ ⟨⟩ path - folder parts hparts
    exact ⟨hparts, rfl⟩

/-- What a step records, and where. -/
def recordedBy (env : Surroundings) (s : Session) (steps : List Step) (path : String) :
    List String :=
  if s.log = some path then entriesFrom env.clock s.messages (messagesOf steps) else []

/-- Steps without messages record nothing. -/
lemma recordedBy_eq_nil (h : messagesOf steps = []) :
    recordedBy env s steps = fun _ => [] := by
  funext path
  rw [recordedBy, h]
  exact ite_self []

section

variable (henv : env.Spares logs) (hplaces : ∀ parts, places parts → env.KeepsPlace parts)
  (hlog : ∀ path, s.log = some path → path ∈ logs) (hlogs : s.folder.HasLogs logs)

include henv hplaces hlog hlogs

/-- A step records its message in the log that is kept, and nothing elsewhere. -/
lemma Step.recorded (h : (step.run env).on s = (.ok (), s.past [step] folder)) :
    s.folder.Recorded logs places (recordedBy env s [step]) folder := by
  have hleads := leads_of_run h
  cases step with
  | note message =>
    unfold Leads at hleads
    cases hkept : s.log with
    | none =>
      rw [hkept] at hleads
      obtain rfl : folder = s.folder := hleads
      have hnone : recordedBy env s [note message] = fun _ => [] := by
        funext path
        rw [recordedBy, hkept]
        rfl
      rw [hnone]
      exact .refl hlogs
    | some path =>
      rw [hkept] at hleads
      have hsome : recordedBy env s [note message]
          = fun path' => if path = path' then [logEntry (env.clock s.messages) message] else [] := by
        funext path'
        rw [recordedBy, hkept]
        simp only [Option.some_inj]
        rfl
      rw [hsome]
      exact hlogs.recorded_append (hlog path hkept) hleads
  | say | tell | listen =>
    obtain rfl : folder = s.folder := hleads
    rw [recordedBy_eq_nil rfl]
    exact .refl hlogs
  | execute command =>
    obtain ⟨ended, hended, hfolder⟩ := hleads
    obtain rfl : folder = _ := hfolder
    rw [recordedBy_eq_nil rfl]
    exact hlogs.recorded_change (henv.change command ended hended) fun parts hplace =>
      hplaces parts hplace command ended hended s.folder

/-- Steps record their messages in the log that is kept, and nothing else. -/
lemma Performs.recorded (h : Performs env s steps last) :
    s.folder.Recorded logs places (recordedBy env s steps) last.folder := by
  induction steps generalizing s with
  | nil =>
    obtain rfl : s = last := congrArg Prod.snd h
    rw [recordedBy_eq_nil rfl]
    exact .refl hlogs
  | cons step steps ih =>
    obtain ⟨folder, hstep, hsteps⟩ := h.exists_cons
    have hfirst := step.recorded henv hplaces hlog hlogs hstep
    have hrest := ih (s := s.past [step] folder) hlog hfirst.hasLogs hsteps
    have hall : recordedBy env s (step :: steps) = fun path =>
        recordedBy env s [step] path ++ recordedBy env (s.past [step] folder) steps path := by
      funext path
      unfold recordedBy
      change (if s.log = some path then _ else _)
        = (if s.log = some path then _ else _) ++ if s.log = some path then _ else _
      split_ifs
      · rw [← List.singleton_append, messagesOf_append, entriesFrom_append]
        rfl
      · rfl
    rw [hall]
    exact hfirst.trans hrest

end

end Montage
