import Mathlib.Data.List.Basic
import Montage.Proofs.Result
import Montage.Settings.Load

/-!
# Why settings cannot be loaded

All failures to load settings: a fault of the settings, which is reported as one of the
configuration, a number with too many digits, or a file that has no value for another cause.
-/

namespace Montage.Settings

variable {s : Settings} {key : Yaml.Scalar} {value : Yaml.Content}
  {entries : List (Yaml.Scalar × Yaml.Content)} {bytes : ByteArray} {folder : Folder}
  {search : Search} {path : String} {e : Failure} {p : Problem} {read : Yaml.Reader}

inductive CannotLoad : Failure → Prop
  | setting (f : SettingFault) : CannotLoad (.setting f)
  | number (f : NumberFault) : CannotLoad (.number f)
  | document (f : Yaml.Fault) : CannotLoad (.document f)

lemma cannotLoad_of_applyEntry (h : s.applyEntry key value = .error e) : CannotLoad e := by
  unfold applyEntry at h
  split at h
  · split at h
    · nomatch h
    · obtain rfl := Except.error.inj h
      exact .setting _
  · simp only [bind_eq_error_iff, orNumberFailure_eq_error_iff] at h
    obtain ⟨f, -, rfl⟩ | ⟨shown, -, h⟩ := h
    · exact .number f
    · obtain rfl := Except.error.inj h
      exact .setting _

/-- Taking over entries fails for a fault of the settings, or a number that is too long. -/
lemma cannotLoad_of_apply (h : (s.apply entries).1 = some e) : CannotLoad e := by
  induction entries generalizing s with
  | nil => nomatch h
  | cons entry entries ih =>
    obtain ⟨key, value⟩ := entry
    rw [apply] at h
    cases hentry : s.applyEntry key value with
    | ok s' =>
      rw [hentry] at h
      exact ih h
    | error e' =>
      rw [hentry] at h
      obtain rfl := Option.some.inj h
      exact cannotLoad_of_applyEntry hentry

lemma cannotLoad_of_entriesOf (h : entriesOf read bytes = .error e) : CannotLoad e := by
  unfold entriesOf at h
  split at h
  · obtain rfl := Except.error.inj h
    exact .setting _
  · obtain rfl := Except.error.inj h
    exact .document _
  · nomatch h
  · nomatch h
  · obtain rfl := Except.error.inj h
    exact .setting _

lemma cannotLoad_of_ofFile (h : ofFile read folder path = .error e) : CannotLoad e := by
  unfold ofFile at h
  split at h
  · obtain rfl := Except.error.inj h
    exact .setting _
  split_ifs at h
  · obtain rfl := Except.error.inj h
    exact .setting _
  rw [bind_eq_error_iff] at h
  obtain hentries | ⟨entries, -, h⟩ := h
  · exact cannotLoad_of_entriesOf hentries
  · split at h
    · nomatch h
    · next happly =>
      obtain rfl := Except.error.inj h
      exact cannotLoad_of_apply (congrArg Prod.fst happly)

/-- So does loading settings, or for the document that it reads. -/
lemma cannotLoad_of_load (h : load read search folder = .error e) : CannotLoad e := by
  unfold load at h
  split at h
  · nomatch h
  · exact cannotLoad_of_ofFile h

end Montage.Settings
