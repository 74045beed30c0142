import Montage.Proofs.Settings
import Montage.Yaml.Document

/-!
# Spoiled settings files

Most of what can be wrong with a settings file is reported as a problem of the configuration. A few
files spoil the run instead: those that are no text, those with a day that no calendar has, and
those with a number for a key that is too long to be named in the report. This holds for every
reader of YAML that has no other failures.
-/

namespace Montage.Settings

open Yaml

variable {s : Settings} {key : Scalar} {value : Content} {entries before : List (Scalar × Content)}
  {read : Reader} {bytes : ByteArray} {folder : Folder} {search : Search} {path : String}
  {e : Failure} {f : NumberFault}

/-- What is not reported is no fault of the settings. -/
lemma setting_ne (he : e.problem? = none) (f : SettingFault) : .setting f ≠ e := by
  rintro rfl
  nomatch he

/-! ### Keys that cannot be named -/

/-- A key cannot be named just when it is a number of more than 4300 digits. -/
lemma display_eq_error_iff : key.display = .error f ↔
    ∃ n, key = .int n ∧ powerOfTen digitLimit ≤ n.natAbs ∧ f = .tooManyDigits := by
  cases key with
  | int n =>
    simp only [Scalar.display, decimalText]
    split_ifs with h
    · simp [h, eq_comm]
    · simp [h]
  | _ => simp [Scalar.display]

/-- An entry spoils the run just when its key cannot be named. -/
lemma applyEntry_eq_error_iff (he : e.problem? = none) : s.applyEntry key value = .error e ↔
    ∃ n, key = .int n ∧ powerOfTen digitLimit ≤ n.natAbs ∧ e = .number .tooManyDigits := by
  have hlong : (∃ f, key.display = .error f ∧ e = .number f) ↔
      ∃ n, key = .int n ∧ powerOfTen digitLimit ≤ n.natAbs ∧ e = .number .tooManyDigits := by
    simp only [display_eq_error_iff]
    constructor
    · rintro ⟨f, ⟨n, rfl, hn, rfl⟩, rfl⟩
      exact ⟨n, rfl, hn, rfl⟩
    · rintro ⟨n, rfl, hn, rfl⟩
      exact ⟨_, ⟨n, rfl, hn, rfl⟩, rfl⟩
  rw [← hlong]
  unfold applyEntry
  split
  · next key' hkey =>
    obtain ⟨name, rfl⟩ : ∃ name, key = .text name := by
      cases key with
      | text name => exact ⟨name, rfl⟩
      | _ => nomatch hkey
    split <;> simp [Scalar.display, setting_ne he]
  · simp [bind_eq_error_iff, setting_ne he]

lemma apply_cons_of_ok {s' : Settings} (h : s.applyEntry key value = .ok s') :
    s.apply ((key, value) :: entries) = s'.apply entries := by
  rw [apply, h]

lemma apply_cons_of_error (h : s.applyEntry key value = .error e) :
    s.apply ((key, value) :: entries) = (some e, s) := by
  rw [apply, h]

/-- Entries are taken over in two parts as in one. -/
lemma apply_append {s' : Settings} (h : s.apply before = (none, s')) :
    s.apply (before ++ entries) = s'.apply entries := by
  induction before generalizing s with
  | nil =>
    obtain rfl := (Prod.mk.inj h).2
    rfl
  | cons entry before ih =>
    obtain ⟨key, value⟩ := entry
    cases hentry : s.applyEntry key value with
    | ok s₁ =>
      rw [apply_cons_of_ok hentry] at h
      rw [List.cons_append, apply_cons_of_ok hentry]
      exact ih h
    | error e =>
      rw [apply_cons_of_error hentry] at h
      nomatch h

/-- An entry has a number for its key that cannot be written, and the entries before it are taken
over. -/
inductive HasLongKey (s : Settings) : List (Scalar × Content) → Prop
  | intro {before after : List (Scalar × Content)} {s' : Settings} {n : Int} (value : Content)
    (hbefore : s.apply before = (none, s')) (hn : powerOfTen digitLimit ≤ n.natAbs) :
    HasLongKey s (before ++ (.int n, value) :: after)

/-- Entries spoil the run just when the first that is not taken over has a key that cannot be
named. -/
lemma apply_eq_error_iff (he : e.problem? = none) : (s.apply entries).1 = some e ↔
    s.HasLongKey entries ∧ e = .number .tooManyDigits := by
  constructor
  · intro h
    induction entries generalizing s with
    | nil => nomatch h
    | cons entry entries ih =>
      obtain ⟨key, value⟩ := entry
      cases hentry : s.applyEntry key value with
      | ok s₁ =>
        rw [apply_cons_of_ok hentry] at h
        obtain ⟨⟨value', hbefore, hn⟩, rfl⟩ := ih h
        rw [← apply_cons_of_ok hentry] at hbefore
        exact ⟨.intro value' hbefore hn, rfl⟩
      | error e' =>
        rw [apply_cons_of_error hentry] at h
        obtain rfl := Option.some.inj h
        obtain ⟨n, rfl, hn, rfl⟩ := (applyEntry_eq_error_iff he).1 hentry
        have hkey : s.HasLongKey ([] ++ (.int n, value) :: entries) := .intro value rfl hn
        exact ⟨hkey, rfl⟩
  · rintro ⟨@⟨before, after, s', n, value, hbefore, hn⟩, rfl⟩
    have hentry : s'.applyEntry (.int n) value = .error (.number .tooManyDigits) :=
      (applyEntry_eq_error_iff he).2 ⟨n, rfl, hn, rfl⟩
    rw [apply_append hbefore, apply_cons_of_error hentry]

/-! ### Files that spoil a run -/

/-- A run reads its settings from a file of bounded size. -/
structure Search.Chooses (search : Search) (folder : Folder) (path : String) (bytes : ByteArray) :
    Prop where
  path?_eq : search.path? folder = some path
  read?_eq : folder.read? path = some bytes
  size_le : bytes.size ≤ sizeLimit

/-- What is expected of reading a file: bytes that are no text cannot be decoded, and a text has a
value, is no YAML, or names a day that no calendar has. -/
inductive Expected (bytes : ByteArray) : Except Fault Document → Prop
  | notText (h : String.fromUTF8? bytes = none) : Expected bytes (.error .encoding)
  | value (h : (String.fromUTF8? bytes).isSome) (d : Document) : Expected bytes (.ok d)
  | notYaml (h : (String.fromUTF8? bytes).isSome) (detail : String) :
    Expected bytes (.error (.notYaml detail))
  | impossibleDate (h : (String.fromUTF8? bytes).isSome) : Expected bytes (.error .impossibleDate)

/-- A settings file causes a failure that is not reported. -/
inductive Spoils (read : Reader) (path : String) (bytes : ByteArray) : Failure → Prop
  | notText (h : String.fromUTF8? bytes = none) : Spoils read path bytes (.document .encoding)
  | impossibleDate (h : read bytes = .error .impossibleDate) :
    Spoils read path bytes (.document .impossibleDate)
  /-- The first entry that is not acceptable has a number for its key that cannot be written. -/
  | key {entries : List (Scalar × Content)} (h : read bytes = .ok (.mapping entries))
    (hkey : ({ standard with file := some path } : Settings).HasLongKey (lastValues entries)) :
    Spoils read path bytes (.number .tooManyDigits)

/-- A run reads its settings from a file that spoils it. -/
def IsSpoiled (read : Reader) (search : Search) (folder : Folder) (e : Failure) : Prop :=
  ∃ path bytes, search.Chooses folder path bytes ∧ Spoils read path bytes e

lemma Spoils.problem?_eq_none (h : Spoils read path bytes e) : e.problem? = none := by
  cases h <;> rfl

/-- Of the failures to read a file, only those that say it is no YAML are reported. -/
lemma entriesOf_eq_error_iff (he : e.problem? = none) : entriesOf read bytes = .error e ↔
    ∃ f, read bytes = .error f ∧ (∀ detail, f ≠ .notYaml detail) ∧ e = .document f := by
  unfold entriesOf
  split
  · next h => simp +contextual [h, setting_ne he]
  · next f hf h =>
    rw [h]
    constructor
    · intro heq
      exact ⟨f, rfl, hf, (Except.error.inj heq).symm⟩
    · rintro ⟨f', hf', -, rfl⟩
      rw [Except.error.inj hf']
  · next h => simp [h]
  · next h => simp [h]
  · next h => simp [h, setting_ne he]

/-- Entries are those of a mapping, each key with its last value. -/
lemma entriesOf_eq_ok_iff (hne : entries ≠ []) : entriesOf read bytes = .ok entries ↔
    ∃ all, read bytes = .ok (.mapping all) ∧ entries = lastValues all := by
  unfold entriesOf
  split
  · next h => simp [h]
  · next h => simp [h]
  · next h => simp [h, hne.symm]
  · next h => simp [h, eq_comm]
  · next hd h =>
    rw [h]
    simp
    rintro all rfl
    exact absurd rfl (hd _)

lemma HasLongKey.ne_nil (h : s.HasLongKey entries) : entries ≠ [] := by
  cases h
  simp

/-- Where reading goes as expected, it fails without a report for one of two causes. -/
lemma Expected.entriesOf_eq_error_iff (hread : Expected bytes (read bytes))
    (he : e.problem? = none) : entriesOf read bytes = .error e ↔
      (String.fromUTF8? bytes = none ∧ e = .document .encoding) ∨
      (read bytes = .error .impossibleDate ∧ e = .document .impossibleDate) := by
  rw [Settings.entriesOf_eq_error_iff he]
  generalize read bytes = result at hread
  cases hread with
  | notText h => simp [h]
  | value h d => simp [Option.isSome_iff_ne_none.1 h]
  | notYaml h detail => simp [Option.isSome_iff_ne_none.1 h]
  | impossibleDate h => simp [Option.isSome_iff_ne_none.1 h]

/-- What spoils a file comes up when its entries are read, or when they are taken over. -/
lemma spoils_iff (hread : Expected bytes (read bytes)) (he : e.problem? = none) :
    Spoils read path bytes e ↔
      entriesOf read bytes = .error e ∨ ∃ entries, entriesOf read bytes = .ok entries ∧
        (({ standard with file := some path } : Settings).apply entries).1 = some e := by
  rw [hread.entriesOf_eq_error_iff he]
  simp only [apply_eq_error_iff he]
  constructor
  · rintro (h | h | ⟨h, hkey⟩)
    · exact .inl (.inl ⟨h, rfl⟩)
    · exact .inl (.inr ⟨h, rfl⟩)
    · exact .inr ⟨_, (entriesOf_eq_ok_iff hkey.ne_nil).2 ⟨_, h, rfl⟩, hkey, rfl⟩
  · rintro ((⟨h, rfl⟩ | ⟨h, rfl⟩) | ⟨entries, hentries, hkey, rfl⟩)
    · exact .notText h
    · exact .impossibleDate h
    · obtain ⟨all, hall, rfl⟩ := (entriesOf_eq_ok_iff hkey.ne_nil).1 hentries
      exact .key hall hkey

/-- A file of bounded size fails in being read, or in its entries. -/
lemma ofFile_eq_error_iff (he : e.problem? = none) : ofFile read folder path = .error e ↔
    ∃ bytes, folder.read? path = some bytes ∧ bytes.size ≤ sizeLimit ∧
      (entriesOf read bytes = .error e ∨ ∃ entries, entriesOf read bytes = .ok entries ∧
        (({ standard with file := some path } : Settings).apply entries).1 = some e) := by
  unfold ofFile
  split
  · next h => simp [h, setting_ne he]
  · next bytes h =>
    rw [h]
    split_ifs with hsize
    · simp [setting_ne he, Nat.not_le.2 hsize]
    · rw [bind_eq_error_iff]
      simp only [Option.some.injEq, exists_eq_left', Nat.not_lt.1 hsize, true_and]
      refine or_congr_right (exists_congr fun entries => and_congr_right fun _ => ?_)
      generalize apply _ entries = result
      obtain ⟨_ | e', s⟩ := result <;> simp [pure, Except.pure]

/-- The failures to load settings that are not reported are those of spoiled files. -/
lemma load_eq_error_iff
    (hread : ∀ path bytes, search.Chooses folder path bytes → Expected bytes (read bytes))
    (he : e.problem? = none) :
    load read search folder = .error e ↔ IsSpoiled read search folder e := by
  unfold load
  constructor
  · intro h
    split at h
    · nomatch h
    · next path hpath =>
      obtain ⟨bytes, hbytes, hsize, hentries⟩ := (ofFile_eq_error_iff he).1 h
      have hchooses : search.Chooses folder path bytes := ⟨hpath, hbytes, hsize⟩
      exact ⟨path, bytes, hchooses, (spoils_iff (hread path bytes hchooses) he).2 hentries⟩
  · rintro ⟨path, bytes, hchooses, hspoils⟩
    rw [hchooses.path?_eq]
    exact (ofFile_eq_error_iff he).2 ⟨bytes, hchooses.read?_eq, hchooses.size_le,
      (spoils_iff (hread path bytes hchooses) he).1 hspoils⟩

/-- Where reading goes as expected, settings are loaded, or a problem of the configuration is
reported, unless the settings file spoils the run. Then there are no settings and no report. -/
theorem load_reports_iff (read : Reader) (search : Search) (folder : Folder)
    (hread : ∀ path bytes, search.Chooses folder path bytes → Expected bytes (read bytes)) :
    (((∃ s, load read search folder = .ok s) ∨
      ∃ fault : SettingFault, load read search folder = .error (.setting fault) ∧
        fault.problem.category = .configuration) ↔ ∀ e, ¬ IsSpoiled read search folder e) ∧
    ∀ e, IsSpoiled read search folder e →
      load read search folder = .error e ∧ e.problem? = none := by
  have hspoiled : ∀ e, IsSpoiled read search folder e →
      load read search folder = .error e ∧ e.problem? = none := by
    intro e he
    have hnone : e.problem? = none := by
      obtain ⟨path, bytes, -, h⟩ := he
      exact h.problem?_eq_none
    exact ⟨(load_eq_error_iff hread hnone).2 he, hnone⟩
  refine ⟨⟨?_, ?_⟩, hspoiled⟩
  · intro h e he
    obtain ⟨hload, hnone⟩ := hspoiled e he
    obtain ⟨s, hs⟩ | ⟨fault, hfault, -⟩ := h
    · nomatch hs.symm.trans hload
    · exact setting_ne hnone fault (Except.error.inj (hfault.symm.trans hload))
  · intro h
    cases hload : load read search folder with
    | ok s => exact .inl ⟨s, rfl⟩
    | error e =>
      cases cannotLoad_of_load hload with
      | setting fault => exact .inr ⟨fault, rfl, rfl⟩
      | number f => exact absurd ((load_eq_error_iff hread rfl).1 hload) (h _)
      | document f => exact absurd ((load_eq_error_iff hread rfl).1 hload) (h _)

/-- A log named by a day that no calendar has. -/
theorem load_impossible_date :
    let search : Search := ⟨none, "c.yaml", "home"⟩
    let bytes := "debug_log: 2020-13-45\n".toUTF8
    let folder := Folder.empty.addPath "c.yaml" bytes
    (∀ path bytes, search.Chooses folder path bytes → Expected bytes (Yaml.read bytes)) ∧
    Spoils Yaml.read "c.yaml" bytes (.document .impossibleDate) ∧
    load Yaml.read search folder = .error (.document .impossibleDate) := by
  intro search bytes folder
  have hbytes : folder.read? "c.yaml" = some bytes := by decide +kernel
  have hdate : Yaml.read bytes = .error .impossibleDate := by decide +kernel
  have hread : ∀ path bytes, search.Chooses folder path bytes →
      Expected bytes (Yaml.read bytes) := by
    rintro path bytes' ⟨hpath, hbytes', -⟩
    obtain rfl : "c.yaml" = path := Option.some.inj hpath
    obtain rfl : bytes = bytes' := Option.some.inj (hbytes.symm.trans hbytes')
    rw [hdate]
    exact .impossibleDate (by decide +kernel)
  have hspoils : Spoils Yaml.read "c.yaml" bytes (.document .impossibleDate) := .impossibleDate hdate
  have hchooses : search.Chooses folder "c.yaml" bytes := ⟨rfl, hbytes, by decide +kernel⟩
  exact ⟨hread, hspoils, ((load_reports_iff _ _ _ hread).2 _ ⟨_, _, hchooses, hspoils⟩).1⟩

/-- A settings file of one byte that starts no character has no report, and no settings. -/
theorem load_stray_byte :
    load Yaml.read ⟨some "c.yaml", "", "home"⟩ (Folder.empty.addPath "c.yaml" ⟨#[0xff]⟩)
      = .error (.document .encoding) ∧
    (Failure.document .encoding).problem? = none := by
  decide +kernel

end Montage.Settings
