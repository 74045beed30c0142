import Montage.Proofs.Application.Consent
import Montage.Proofs.Arguments.Overlong
import Montage.Proofs.Compilation
import Montage.Proofs.Fragments
import Montage.Proofs.Session.Logging

/-!
# The status of a run

With settings, and a command line that is read or has a fault, a run ends with the status zero
unless one of its steps fails: an entry that its log does not take, a text that cannot be printed,
or a command that cannot be started. None of these is reported. A log that cannot be written stops
the run at the first entry, before anything is printed or started.
-/

namespace Montage.Application

open Run Session

variable {env : Surroundings} {search : Settings.Search} {arguments : List String}
  {settings : Settings} {s last : Session} {accepts : String → Bool} {c : Command}
  {r : Except Failure Int}

/-- A run whose steps all succeed ends with the status zero. -/
lemma runResult_eq_zero (hparse : ¬ IsOverlong arguments)
    (hcurve : ∀ score : Int, 0 ≤ score → score ≤ 4294967295 → env.curve.Covers score)
    (h : Performs env s (runSteps env settings arguments s) last) :
    runResult env settings arguments s = .ok 0 := by
  cases hread : reading env settings arguments s with
  | error e =>
    rw [runResult_of_reading_eq_error hread]
    cases cannotRead_of_parseArguments hread with
    | argument fault => rfl
    | number f => exact absurd (parseArguments_eq_number_iff.1 hread).2 hparse
  | ok ops =>
    have hcovers : ∀ score, .quality score ∈ ops → env.curve.Covers score := by
      intro score hscore
      obtain ⟨hnonneg, hle⟩ := score_bounds_of_parseArguments hread hscore
      exact hcurve score hnonneg hle
    obtain ⟨shown, c, hshown, hcompile⟩ := exists_shown_compiled hread hcovers settings.programs
    exact runResult_of_performs hread hshown hcompile h

/-- With settings, and a command line that is read or has a fault, a run takes its steps and then
ends with the status zero, or it stops at the first of them that fails. It does so at the first
entry where its log cannot be written. Where nothing else keeps entries from the log, it ends with
the status zero just when this log can be written, all texts can be printed and the command can be
started. -/
theorem run_status (hload : Settings.load env.yaml search s.folder = .ok settings)
    (hparse : (∃ ops, parseArguments accepts arguments = .ok ops) ∨
      ∃ fault, parseArguments accepts arguments = .error (.argument fault))
    (hcurve : ∀ score : Int, 0 ≤ score → score ≤ 4294967295 → env.curve.Covers score) :
    (run env search arguments).Ensures s fun r last =>
      let steps := runSteps env settings arguments (s.under settings)
      Ends env (s.under settings) steps (.ok 0) r last ∧
      (¬ (s.under settings).CanLog →
        ∃ f, r = .error (.effect (.log f)) ∧ last = s.under settings) ∧
      (env.KeepsLog settings.debugLog →
        (r = .ok 0 ↔ (s.under settings).CanLog ∧
          ∀ step ∈ steps, step.fault? env settings.quiet = none)) := by
  apply (ends_run arguments hload).mono
  intro r last hends steps
  have hzero : Ends env (s.under settings) steps (.ok 0) r last := by
    cases hends with
    | performed h =>
      rw [runResult_eq_zero (not_isOverlong_of_reports hparse) hcurve h]
      exact .performed h
    | stopped h => exact .stopped h
  have hfault : ¬ (s.under settings).CanLog →
      ∃ f, r = .error (.effect (.log f)) ∧ last = s.under settings := by
    intro hcannot
    obtain ⟨f, hf⟩ := exists_fault_of_not_canLog hcannot env (argvMessage arguments)
    have hfirst : (perform env steps).on (s.under settings)
        = (.error (.effect (.log f)), s.under settings) := by
      change (writeLog env (argvMessage arguments) >>= fun _ => perform env _).on _ = _
      rw [on_bind, hf]
    cases hzero with
    | performed h => nomatch congrArg Prod.fst (hfirst.symm.trans h)
    | stopped h =>
      obtain ⟨hr, hlast⟩ := Prod.mk.inj (hfirst.symm.trans h.result)
      exact ⟨f, congrArg _ (Except.error.inj hr).symm, hlast.symm⟩
  refine ⟨hzero, hfault, fun hkeeps => ⟨?_, ?_⟩⟩
  · rintro rfl
    have hcan : (s.under settings).CanLog := by
      by_contra hcannot
      obtain ⟨f, hf, -⟩ := hfault hcannot
      nomatch hf
    cases hzero with
    | performed h => exact ⟨hcan, (hcan.of_performs hkeeps h).2⟩
  · rintro ⟨hcan, hall⟩
    cases hzero with
    | performed h => rfl
    | stopped h =>
      obtain ⟨-, hfault, -⟩ := hcan.of_stopsAt hkeeps h
      nomatch (List.findSome?_eq_none_iff.2 hall).symm.trans hfault

theorem run_status_quality :
    (run (.calm false "12:00:00" (-9) .zero some Yaml.read) ⟨none, "c.yaml", "home"⟩
        ["montage", "--quality", "1", "a.mp4"]).Ensures
      (.start ((Folder.empty.addPath "c.yaml" "debug_log: logs/d.log\n".toUTF8).addPath "logs/"
        .empty) "Y\n")
      fun r _ => r = .ok 0 := by
  let env : Surroundings := .calm false "12:00:00" (-9) .zero some Yaml.read
  let folder := (Folder.empty.addPath "c.yaml" "debug_log: logs/d.log\n".toUTF8).addPath "logs/"
    .empty
  let settings : Settings := { Settings.standard with
    file := some "c.yaml", debugLog := some "logs/d.log" }
  have hload : Settings.load env.yaml ⟨none, "c.yaml", "home"⟩ folder = .ok settings := by
    decide +kernel
  have hparse : parseArguments (fun _ => true) ["montage", "--quality", "1", "a.mp4"]
      = .ok [.quality 1, .output "a.mp4"] := by decide +kernel
  have hnew : folder.find? ["logs", "d.log"] = none := by
    rw [← Option.isNone_iff_eq_none]
    decide +kernel
  have hcan : ((Session.start folder "Y\n").under settings).CanLog := by
    intro path hpath
    obtain rfl := Option.some.inj hpath
    have hnoFolder : folder.find? ["logs", "d.log"] ≠ some .folder := by
      rw [hnew]
      nofun
    exact ⟨_, by decide, by decide +kernel, hnoFolder, fun _ => by decide +kernel⟩
  obtain ⟨-, -, hiff⟩ := run_status (s := .start folder "Y\n") hload (.inl ⟨_, hparse⟩)
    fun _ => Curve.covers_some
  exact (hiff (Surroundings.keepsLog_calm ..)).2 ⟨hcan, by decide +kernel⟩

/-- A log in a folder that does not exist stops a run, and there is no report. -/
theorem run_log_in_missing_folder :
    let folder := Folder.empty.addPath "c.yaml" "debug_log: missing/d.log\n".toUTF8
    Settings.load Yaml.read ⟨none, "c.yaml", "home"⟩ folder = .ok { Settings.standard with
      file := some "c.yaml", debugLog := some "missing/d.log" } ∧
    parseArguments (fun _ => true) ["montage", "out.mp4"] = .ok [.output "out.mp4"] ∧
    ((run (.calm false "12:00:00" 0 .zero some Yaml.read) ⟨none, "c.yaml", "home"⟩
      ["montage", "out.mp4"]).on (.start folder "")).1 = .error (.effect (.log .noDirectory)) ∧
    (Failure.effect (.log .noDirectory)).problem? = none := by
  decide +kernel

end Montage.Application
