import Montage.Proofs.Folder.Shape
import Montage.Proofs.Session.Steps

/-!
# Quiet mode, step by step

Two sessions that differ in quiet mode, and in folders that nothing in a run tells apart, take the
same steps: each succeeds in both or fails in both for the same cause. What is printed differs, and
nothing else.
-/

namespace Montage

open Run Session

variable {env : Surroundings} {s s' : Session} {step : Step} {steps : List Step}
  {alike : Folder → Folder → Prop} {folder folder' : Folder} {log : Option String}

/-- Folders are alike as far as a run can tell: the same paths exist in them and the log holds the
same, entries can be written to it in both or in none, and they stay alike in all that happens. -/
structure Surroundings.Confuses (env : Surroundings) (log : Option String)
    (alike : Folder → Folder → Prop) : Prop where
  pathExists_eq : ∀ f g, alike f g → ∀ path, g.pathExists path = f.pathExists path
  read?_eq : ∀ f g, alike f g → ∀ path, log = some path → g.read? path = f.read? path
  append : ∀ f g, alike f g → ∀ path, log = some path → ∀ text,
    (∃ fault, f.append path text = .error fault ∧ g.append path text = .error fault) ∨
      ∃ f' g', f.append path text = .ok f' ∧ g.append path text = .ok g' ∧ alike f' g'
  refusal : ∀ n refusal, env.refusal? n = some refusal →
    ∀ f g, alike f g → alike (refusal.change f) (refusal.change g)
  execute : ∀ command ended, env.execute command = .ok ended →
    ∀ f g, alike f g → alike (ended.change f) (ended.change g)

/-- Folders of one shape, with the same log. -/
def Folder.Alike (log : Option String) (f g : Folder) : Prop :=
  f.SameShape g ∧ ∀ path, log = some path → g.read? path = f.read? path

/-- What files hold may differ, but for the log, if commands do not tell such folders apart. -/
lemma Surroundings.confuses_alike
    (hrefusal : ∀ n refusal, env.refusal? n = some refusal →
      ∀ f g, Folder.Alike log f g → Folder.Alike log (refusal.change f) (refusal.change g))
    (hexecute : ∀ command ended, env.execute command = .ok ended →
      ∀ f g, Folder.Alike log f g → Folder.Alike log (ended.change f) (ended.change g)) :
    env.Confuses log (Folder.Alike log) where
  pathExists_eq := fun f g h => h.1.pathExists_eq
  read?_eq := fun f g h => h.2
  append := by
    rintro f g ⟨hshape, hread⟩ path hpath text
    obtain hfault | ⟨f', g', hf, hg, hshape'⟩ := hshape.append path text
    · exact .inl hfault
    · refine .inr ⟨f', g', hf, hg, hshape', fun path' hpath' => ?_⟩
      obtain rfl := Option.some.inj (hpath.symm.trans hpath')
      obtain ⟨parts, -, hlog, -⟩ := Folder.exists_isLog_of_append hf
      obtain ⟨parts', -, hlog', -⟩ := Folder.exists_isLog_of_append hg
      rw [hlog.read?_append hf, hlog'.read?_append hg, hread path hpath]
  refusal := hrefusal
  execute := hexecute

/-- One session is in quiet mode, the other is not, and they can log the same. -/
structure Twins (alike : Folder → Folder → Prop) (s s' : Session) : Prop where
  loud : s.quiet = false
  quiet : s'.quiet = true
  log_eq : s'.log = s.log
  messages_eq : s'.messages = s.messages
  folder : alike s.folder s'.folder

namespace Twins

/-- The same steps keep sessions twins. -/
lemma past (h : Twins alike s s') (hfolder : alike folder folder') (steps : List Step) :
    Twins alike (s.past steps folder) (s'.past steps folder') where
  loud := h.loud
  quiet := h.quiet
  log_eq := h.log_eq
  messages_eq := congrArg (· + _) h.messages_eq
  folder := hfolder

variable (h : Twins alike s s') (henv : env.Confuses s.log alike)

include h henv

/-- A step succeeds in both sessions or in none, unless it prints a text in one of them only that
cannot be printed. -/
lemma on_run (hprint : ∀ text, step = .tell text → env.canPrint text) :
    (∃ g g', (step.run env).on s = (.ok (), s.past [step] g) ∧
      (step.run env).on s' = (.ok (), s'.past [step] g') ∧ alike g g') ∨
    ∃ f g g', (step.run env).on s = (.error (.effect f), s.inFolder g) ∧
      (step.run env).on s' = (.error (.effect f), s'.inFolder g') ∧ alike g g' := by
  simp only [past_singleton]
  cases step with
  | note message =>
    simp only [Step.run, on_writeLog, h.log_eq, h.messages_eq]
    cases hlog : s.log with
    | none => exact .inl ⟨s.folder, s'.folder, by simp, by simp, h.folder⟩
    | some path =>
      dsimp only
      obtain ⟨fault, hf, hf'⟩ | ⟨g, g', hg, hg', halike⟩ :=
        henv.append _ _ h.folder path hlog (logEntry (env.clock s.messages) message)
      · rw [hf, hf']
        exact .inr ⟨_, s.folder, s'.folder, rfl, rfl, h.folder⟩
      · rw [hg, hg']
        dsimp only
        cases hrefusal : env.refusal? s.messages with
        | some refusal => exact .inr ⟨_, _, _, rfl, rfl, henv.refusal _ _ hrefusal _ _ h.folder⟩
        | none => exact .inl ⟨g, g', by simp, by simp, halike⟩
  | say text =>
    simp only [Step.run, on_print]
    split_ifs
    · exact .inl ⟨s.folder, s'.folder, by simp, by simp, h.folder⟩
    · exact .inr ⟨_, s.folder, s'.folder, rfl, rfl, h.folder⟩
  | tell text =>
    refine .inl ⟨s.folder, s'.folder, ?_, ?_, h.folder⟩
    · rw [on_tell, on_print, if_pos (hprint text rfl)]
      simp [h.loud]
    · obtain ⟨folder', input, quiet, log, messages, printed, started⟩ := s'
      obtain rfl : quiet = true := h.quiet
      rw [on_tell]
      simp
  | listen =>
    simp only [on_listen]
    exact .inl ⟨s.folder, s'.folder, by simp, by simp, h.folder⟩
  | execute command =>
    simp only [Step.run, on_discard, on_execute]
    cases hstart : env.execute command with
    | error fault => exact .inr ⟨_, s.folder, s'.folder, rfl, rfl, h.folder⟩
    | ok ended =>
      refine .inl ⟨_, _, ?_, ?_, henv.execute command ended hstart _ _ h.folder⟩
      · simp [Except.map]
      · simp [Except.map]

/-- Steps succeed in both sessions, or they stop in both at the same one. -/
lemma performs_or_stopsAt (hprint : ∀ text, .tell text ∈ steps → env.canPrint text) :
    (∃ g g', Performs env s steps (s.past steps g) ∧ Performs env s' steps (s'.past steps g') ∧
      alike g g') ∨
    ∃ done f g g', StopsAt env s steps done f (s.past done g) ∧
      StopsAt env s' steps done f (s'.past done g') ∧ alike g g' := by
  induction steps generalizing s s' with
  | nil =>
    refine .inl ⟨s.folder, s'.folder, ?_, ?_, h.folder⟩
    · rw [past_nil]
      rfl
    · rw [past_nil]
      rfl
  | cons step steps ih =>
    have hfirst : ∀ text, step = .tell text → env.canPrint text :=
      fun text heq => hprint text (heq ▸ List.mem_cons_self)
    have hrest : ∀ text, .tell text ∈ steps → env.canPrint text :=
      fun text hmem => hprint text (List.mem_cons_of_mem _ hmem)
    obtain ⟨g, g', hg, hg', halike⟩ | ⟨f, g, g', hg, hg', halike⟩ := h.on_run henv hfirst
    · obtain ⟨k, k', hk, hk', halike'⟩ | ⟨done, f, k, k', hk, hk', halike'⟩ :=
        ih (h.past halike [step]) henv hrest
      · rw [past_past] at hk hk'
        exact .inl ⟨k, k', .cons hg hk, .cons hg' hk', halike'⟩
      · rw [past_past] at hk hk'
        exact .inr ⟨_, f, k, k', .cons hg hk, .cons hg' hk', halike'⟩
    · refine .inr ⟨[], f, g, g', ?_, ?_, halike⟩
      · rw [past_nil]
        exact .first hg
      · rw [past_nil]
        exact .first hg'

end Twins

end Montage
