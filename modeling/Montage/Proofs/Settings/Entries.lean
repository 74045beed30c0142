import Mathlib.Data.List.TakeWhile
import Montage.Proofs.Settings.SpoiledFile

/-!
# Entries of settings

Settings are looked at as values under their keys. An entry that can be taken over sets the value
under its key and no other; any other entry is refused for one of four reasons, and stops the rest.
So the settings after entries that can all be taken over do not depend on their order.
-/

namespace Montage

open Yaml

variable {s s' s₁ : Settings} {key other : Settings.Key} {scalar : Scalar} {value : Content}
  {entry : Scalar × Content} {entries entries' before after : List (Scalar × Content)} {e : Failure}
  {cs : List Char}

/-- Nothing is left of a text without the blanks at its ends just when it has only blanks. -/
lemma trimBlanks_eq_nil_iff : trimBlanks cs = [] ↔ ∀ c ∈ cs, isBlank c := by
  have hends : trimBlanks cs = [] ↔ ∀ c ∈ cs.dropWhile isBlank, isBlank c := by
    rw [trimBlanks, List.reverse_eq_nil_iff, List.dropWhile_eq_nil_iff]
    simp only [List.mem_reverse]
  rw [hends]
  constructor
  · intro h
    rw [← List.dropWhile_eq_nil_iff]
    by_contra hne
    have hhead := List.head_dropWhile_not isBlank hne
    rw [h _ (List.head_mem hne)] at hhead
    nomatch hhead
  · intro h c hc
    exact h c ((List.dropWhile_sublist _).subset hc)

namespace Settings

/-! ### Values -/

def get (s : Settings) : Key → Content
  | .transcoder => .scalar (.text s.transcoder)
  | .player => .scalar (.text s.player)
  | .execute => .scalar (.bool s.execute)
  | .checkPaths => .scalar (.bool s.checkPaths)
  | .quiet => .scalar (.bool s.quiet)
  | .debugLog => .scalar (s.debugLog.elim .null .text)

/-- Settings are the values under their keys, and the file. -/
lemma eq_of_get_eq (hfile : s.file = s'.file) (h : ∀ key, s.get key = s'.get key) :
    s = s' := by
  obtain ⟨file, transcoder, player, execute, checkPaths, quiet, debugLog⟩ := s
  obtain ⟨file', transcoder', player', execute', checkPaths', quiet', debugLog'⟩ := s'
  obtain rfl : transcoder = transcoder' := by simpa [get] using h .transcoder
  obtain rfl : player = player' := by simpa [get] using h .player
  obtain rfl : execute = execute' := by simpa [get] using h .execute
  obtain rfl : checkPaths = checkPaths' := by simpa [get] using h .checkPaths
  obtain rfl : quiet = quiet' := by simpa [get] using h .quiet
  obtain rfl : file = file' := hfile
  obtain rfl : debugLog = debugLog' := by
    have hlog := h .debugLog
    cases debugLog <;> cases debugLog' <;> simp_all [get]
  rfl

/-- The settings name two programs. -/
def HasPrograms (s : Settings) : Prop :=
  trimBlanks s.transcoder.toList ≠ [] ∧ trimBlanks s.player.toList ≠ []

/-! ### Entries that can be taken over -/

def Key.IsProgram (key : Key) : Prop := key = .transcoder ∨ key = .player

/-- A value is of the type that a key asks for. -/
def Key.HasType (key : Key) (value : Content) : Prop :=
  match key with
  | .transcoder | .player => ∃ name, value = .scalar (.text name)
  | .execute | .checkPaths | .quiet => ∃ b, value = .scalar (.bool b)
  | .debugLog => value = .scalar .null ∨ ∃ path, value = .scalar (.text path)

/-- An entry can be taken over: its value is of the type of its key, and not a blank program. -/
inductive Acceptable : Scalar × Content → Prop
  | intro {key : Key} {value : Content} (htype : key.HasType value)
    (hblank : ∀ name, key.IsProgram → value = .scalar (.text name) → trimBlanks name.toList ≠ []) :
    Acceptable (.text key.name, value)

/-- An entry cannot be taken over, for the given reason. -/
inductive Refused : Scalar × Content → Failure → Prop
  /-- The key names no setting. -/
  | unknown {scalar : Scalar} {shown : String} (value : Content)
    (hkey : ∀ key : Key, scalar ≠ .text key.name) (hshown : scalar.display = .ok shown) :
    Refused (scalar, value) (.setting (.unknownKey shown))
  /-- The key names no setting and cannot be named itself, being too long a number. -/
  | unnamed {n : Int} (value : Content) (hn : powerOfTen digitLimit ≤ n.natAbs) :
    Refused (.int n, value) (.number .tooManyDigits)
  | wrongType {key : Key} {value : Content} (htype : ¬ key.HasType value) :
    Refused (.text key.name, value) (.setting (.wrongType key.name))
  | blank {key : Key} {name : String} (hkey : key.IsProgram)
    (hname : trimBlanks name.toList = []) :
    Refused (.text key.name, .scalar (.text name)) (.setting (.blankProgram key.name))

/-- No two entries name the same setting; keys that name none may repeat. -/
def NamesOnce (entries : List (Scalar × Content)) : Prop :=
  entries.Pairwise fun a b => ∀ key : Key, a.1 = .text key.name → b.1 ≠ .text key.name

/-- Settings come from others by taking over entries: under each key that is named stands the value
of its entry, and all else is as before. -/
structure Takes (s : Settings) (entries : List (Scalar × Content)) (s' : Settings) : Prop where
  file : s'.file = s.file
  named : ∀ key : Key, ∀ value, (.text key.name, value) ∈ entries → s'.get key = value
  others : ∀ key : Key, (∀ value, (.text key.name, value) ∉ entries) → s'.get key = s.get key

/-! ### Taking over one entry -/

/-- A scalar names a key just when it is the name of the key. -/
lemma Key.ofScalar?_eq_some_iff : Key.ofScalar? scalar = some key ↔ scalar = .text key.name := by
  constructor
  · intro h
    cases scalar with
    | text name =>
      have hname := List.find?_some h
      rw [beq_iff_eq] at hname
      rw [hname]
    | _ => nomatch h
  · rintro rfl
    cases key <;> decide

lemma isBlankText_iff {name : String} : isBlankText name ↔ trimBlanks name.toList = [] := by
  rw [isBlankText, List.all_eq_true, trimBlanks_eq_nil_iff]

lemma Key.ofScalar?_name (key : Key) : Key.ofScalar? (.text key.name) = some key :=
  Key.ofScalar?_eq_some_iff.2 rfl

/-- Different keys have different names. -/
lemma Key.name_inj (h : key.name = other.name) : key = other := by
  have hkey := Key.ofScalar?_name key
  rw [h, Key.ofScalar?_name] at hkey
  exact (Option.some.inj hkey).symm

/-- What can be taken over is set: it stands under its key, and all else is as before. -/
lemma exists_set (htype : key.HasType value)
    (hblank : ∀ name, key.IsProgram → value = .scalar (.text name) → trimBlanks name.toList ≠ []) :
    ∃ s', s.set key value = .ok s' ∧ s'.file = s.file ∧ s'.get key = value ∧
      ∀ other, other ≠ key → s'.get other = s.get other := by
  cases key with
  | transcoder | player =>
    obtain ⟨name, rfl⟩ := htype
    have hname : ¬ isBlankText name :=
      isBlankText_iff.not.2 (hblank name (by simp [Key.IsProgram]) rfl)
    have hset : ∀ key, ∀ f : String → Settings,
        (programName key (.scalar (.text name))).map f = .ok (f name) := by
      intro key f
      rw [programName, if_neg hname]
      rfl
    refine ⟨_, hset _ _, rfl, rfl, fun other hother => ?_⟩
    cases other <;> trivial
  | execute | checkPaths | quiet =>
    obtain ⟨b, rfl⟩ := htype
    refine ⟨_, rfl, rfl, rfl, fun other hother => ?_⟩
    cases other <;> trivial
  | debugLog =>
    obtain rfl | ⟨path, rfl⟩ := htype
    all_goals
      refine ⟨_, rfl, rfl, rfl, fun other hother => ?_⟩
      cases other <;> trivial

/-- A value of the wrong type is refused as such. -/
lemma set_of_not_hasType (h : ¬ key.HasType value) :
    s.set key value = .error (.wrongType key.name) := by
  cases key with
  | transcoder | player =>
    simp only [set, programName]
    split
    · exact absurd ⟨_, rfl⟩ h
    · rfl
  | execute | checkPaths | quiet =>
    simp only [set, truthValue]
    split
    · exact absurd ⟨_, rfl⟩ h
    · rfl
  | debugLog =>
    simp only [set, optionalText]
    split
    · exact absurd (.inr ⟨_, rfl⟩) h
    · exact absurd (.inl rfl) h
    · rfl

/-- A blank program is refused as such. -/
lemma set_of_blank {name : String} (hkey : key.IsProgram) (hname : trimBlanks name.toList = []) :
    s.set key (.scalar (.text name)) = .error (.blankProgram key.name) := by
  have hblank : isBlankText name := isBlankText_iff.2 hname
  obtain rfl | rfl := hkey <;> simp [set, programName, hblank, Except.map]

/-- An entry that can be taken over sets the value under its key. -/
lemma exists_applyEntry (h : Acceptable entry) : ∃ key value s',
    entry = (.text (Key.name key), value) ∧ s.applyEntry entry.1 entry.2 = .ok s' ∧
      s'.file = s.file ∧ s'.get key = value ∧
      ∀ other, other ≠ key → s'.get other = s.get other := by
  obtain @⟨key, value, htype, hblank⟩ := h
  obtain ⟨s', hset, hfile, hnamed, hothers⟩ := exists_set (s := s) htype hblank
  refine ⟨key, value, s', rfl, ?_, hfile, hnamed, hothers⟩
  rw [applyEntry, Key.ofScalar?_name]
  dsimp only
  rw [hset]

/-- An entry that is refused stops with the reason. -/
lemma applyEntry_of_refused (h : Refused entry e) : s.applyEntry entry.1 entry.2 = .error e := by
  cases h with
  | @unknown scalar shown value hkey hshown =>
    have hnone : Key.ofScalar? scalar = none :=
      Option.eq_none_iff_forall_ne_some.2 fun key hsome =>
        hkey key (Key.ofScalar?_eq_some_iff.1 hsome)
    rw [applyEntry, hnone]
    dsimp only
    rw [hshown]
    rfl
  | unnamed value hn => exact (applyEntry_eq_error_iff rfl).2 ⟨_, rfl, hn, rfl⟩
  | wrongType htype =>
    rw [applyEntry, Key.ofScalar?_name]
    dsimp only
    rw [set_of_not_hasType htype]
  | blank hkey hname =>
    rw [applyEntry, Key.ofScalar?_name]
    dsimp only
    rw [set_of_blank hkey hname]

/-- Each entry can be taken over, or is refused for a reason. -/
lemma acceptable_or_refused (entry : Scalar × Content) :
    Acceptable entry ∨ ∃ e, Refused entry e := by
  obtain ⟨scalar, value⟩ := entry
  by_cases hkey : ∃ key : Key, scalar = .text key.name
  · obtain ⟨key, rfl⟩ := hkey
    by_cases htype : key.HasType value
    · by_cases hblank : ∃ name, key.IsProgram ∧ value = .scalar (.text name) ∧
          trimBlanks name.toList = []
      · obtain ⟨name, hprogram, rfl, hname⟩ := hblank
        exact .inr ⟨_, .blank hprogram hname⟩
      · exact .inl ⟨htype, fun name hprogram hvalue hname =>
          hblank ⟨name, hprogram, hvalue, hname⟩⟩
    · exact .inr ⟨_, .wrongType htype⟩
  · rw [not_exists] at hkey
    cases hshown : scalar.display with
    | ok shown => exact .inr ⟨_, .unknown value hkey hshown⟩
    | error f =>
      obtain ⟨n, rfl, hn, -⟩ := display_eq_error_iff.1 hshown
      exact .inr ⟨_, .unnamed value hn⟩

/-! ### Taking over entries in order -/

lemma Takes.nil (s : Settings) : s.Takes [] s :=
  ⟨rfl, fun _ _ h => (List.not_mem_nil h).elim, fun _ _ => rfl⟩

/-- Entries that can all be taken over set the values under their keys. -/
lemma exists_takes (hkeys : NamesOnce entries) (h : ∀ entry ∈ entries, Acceptable entry) :
    ∃ s', s.apply entries = (none, s') ∧ s.Takes entries s' := by
  induction entries generalizing s with
  | nil => exact ⟨s, rfl, .nil s⟩
  | cons entry entries ih =>
    rw [List.forall_mem_cons] at h
    rw [NamesOnce, List.pairwise_cons] at hkeys
    obtain ⟨key, value, s₁, rfl, hentry, hfile, hnamed, hothers⟩ := exists_applyEntry (s := s) h.1
    obtain ⟨s', happly, htakes⟩ := ih (s := s₁) hkeys.2 h.2
    refine ⟨s', (apply_cons_of_ok hentry).trans happly, htakes.file.trans hfile, ?_, ?_⟩
    · intro other value' hmem
      rcases List.mem_cons.1 hmem with heq | hmem
      · obtain ⟨hname, rfl⟩ := Prod.mk.inj heq
        obtain rfl := Key.name_inj (Scalar.text.inj hname)
        -- no later entry has this key, and so its value stays
        have hlast : ∀ value', (.text other.name, value') ∉ entries := fun value' hmem =>
          hkeys.1 _ hmem other rfl rfl
        rw [htakes.others other hlast, hnamed]
      · exact htakes.named other value' hmem
    · intro other hnone
      have hne : other ≠ key := by
        rintro rfl
        exact hnone value (List.mem_cons_self)
      have hrest : ∀ value', (.text other.name, value') ∉ entries := fun value' hmem =>
        hnone value' (List.mem_cons_of_mem _ hmem)
      rw [htakes.others other hrest, hothers other hne]

/-- The first entry that is refused stops with its reason, after the entries before it. -/
lemma exists_takes_of_refused (hkeys : NamesOnce before)
    (hbefore : ∀ entry ∈ before, Acceptable entry) (h : Refused entry e) :
    ∃ s', s.apply (before ++ entry :: after) = (some e, s') ∧ s.Takes before s' := by
  obtain ⟨s', happly, htakes⟩ := exists_takes (s := s) hkeys hbefore
  refine ⟨s', ?_, htakes⟩
  rw [apply_append happly]
  exact apply_cons_of_error (applyEntry_of_refused h)

/-- Unless all entries can be taken over, one is the first that is refused. -/
lemma exists_first_refused (h : ¬ ∀ entry ∈ entries, Acceptable entry) :
    ∃ before entry after e, entries = before ++ entry :: after ∧
      (∀ entry ∈ before, Acceptable entry) ∧ Refused entry e := by
  induction entries with
  | nil => exact absurd (List.forall_mem_nil _) h
  | cons entry entries ih =>
    obtain hentry | ⟨e, hentry⟩ := acceptable_or_refused entry
    · rw [List.forall_mem_cons, not_and] at h
      obtain ⟨before, entry', after, e, rfl, hbefore, he⟩ := ih (h hentry)
      exact ⟨entry :: before, entry', after, e, rfl, List.forall_mem_cons.2 ⟨hentry, hbefore⟩, he⟩
    · exact ⟨[], entry, entries, e, rfl, List.forall_mem_nil _, hentry⟩

/-- Under entries with the same members, settings become the same. -/
lemma Takes.unique {s'' : Settings} (h : s.Takes entries s') (h' : s.Takes entries' s'')
    (hmem : ∀ entry, entry ∈ entries ↔ entry ∈ entries') : s' = s'' := by
  apply eq_of_get_eq (h.file.trans h'.file.symm)
  intro key
  by_cases hkey : ∃ value, (.text key.name, value) ∈ entries
  · obtain ⟨value, hvalue⟩ := hkey
    rw [h.named key value hvalue, h'.named key value ((hmem _).1 hvalue)]
  · rw [not_exists] at hkey
    rw [h.others key hkey, h'.others key fun value hvalue => hkey value ((hmem _).2 hvalue)]

/-! ### Programs -/

/-- The programs are the values under their keys. -/
lemma hasPrograms_iff : s.HasPrograms ↔ ∀ key : Key, ∀ name, key.IsProgram →
    s.get key = .scalar (.text name) → trimBlanks name.toList ≠ [] := by
  constructor
  · rintro ⟨htranscoder, hplayer⟩ key name (rfl | rfl) hget
    · obtain rfl : s.transcoder = name := by simpa [get] using hget
      exact htranscoder
    · obtain rfl : s.player = name := by simpa [get] using hget
      exact hplayer
  · intro h
    exact ⟨h .transcoder _ (.inl rfl) rfl, h .player _ (.inr rfl) rfl⟩

/-- The standard settings name two programs. -/
lemma hasPrograms_standard (file : Option String) :
    ({ standard with file := file } : Settings).HasPrograms := by
  have hnames : trimBlanks "ffmpeg".toList ≠ [] ∧ trimBlanks "ffplay".toList ≠ [] := by decide
  exact hnames

lemma Acceptable.not_blank {name : String}
    (h : Acceptable (.text key.name, .scalar (.text name))) (hkey : key.IsProgram) :
    trimBlanks name.toList ≠ [] := by
  generalize hentry : (Scalar.text key.name, Content.scalar (.text name)) = entry at h
  obtain @⟨key', value, htype, hblank⟩ := h
  obtain ⟨hname, rfl⟩ := Prod.mk.inj hentry
  obtain rfl := Key.name_inj (Scalar.text.inj hname)
  exact hblank name hkey rfl

/-- Taking over acceptable entries keeps the programs from being blank. -/
lemma Takes.hasPrograms (h : s.Takes entries s') (hentries : ∀ entry ∈ entries, Acceptable entry)
    (hs : s.HasPrograms) : s'.HasPrograms := by
  rw [hasPrograms_iff] at hs ⊢
  intro key name hkey hget
  by_cases hnamed : ∃ value, (.text key.name, value) ∈ entries
  · obtain ⟨value, hvalue⟩ := hnamed
    obtain rfl := (h.named key value hvalue).symm.trans hget
    exact (hentries _ hvalue).not_blank hkey
  · rw [not_exists] at hnamed
    rw [h.others key hnamed] at hget
    exact hs key name hkey hget

/-! ### Results -/

lemma Refused.not_acceptable (h : Refused entry e) : ¬ Acceptable entry := by
  intro hentry
  obtain ⟨-, -, s', -, hok, -⟩ := exists_applyEntry (s := standard) hentry
  nomatch hok.symm.trans (applyEntry_of_refused h)

lemma namesOnce_of_nodup (h : (entries.map Prod.fst).Nodup) : NamesOnce entries :=
  (List.pairwise_map.1 h).imp fun hne _ ha hb => hne (ha.trans hb.symm)

lemma NamesOnce.perm (h : NamesOnce entries) (hperm : entries.Perm entries') :
    NamesOnce entries' :=
  (hperm.pairwise_iff fun hab key hb ha => hab key ha hb).1 h

/-- All entries are taken over just when each of them can be. -/
lemma apply_eq_none_iff (hkeys : NamesOnce entries) :
    (s.apply entries).1 = none ↔ ∀ entry ∈ entries, Acceptable entry := by
  constructor
  · intro hnone
    by_contra h
    obtain ⟨before, entry, after, e, rfl, hbefore, he⟩ := exists_first_refused h
    obtain ⟨s', happly, -⟩ :=
      exists_takes_of_refused (s := s) (List.pairwise_append.1 hkeys).1 hbefore he
    rw [happly] at hnone
    nomatch hnone
  · intro h
    obtain ⟨s', happly, -⟩ := exists_takes (s := s) hkeys h
    rw [happly]

/-- What stops the taking over is a problem of the configuration, but for a key that is too long to
be named. -/
lemma problem_of_apply_iff : (∀ e, (s.apply entries).1 = some e →
    ∃ p, e.problem? = some p ∧ p.category = .configuration) ↔ ¬ s.HasLongKey entries := by
  constructor
  · intro h hlong
    obtain ⟨p, hp, -⟩ := h (.number .tooManyDigits) ((apply_eq_error_iff rfl).2 ⟨hlong, rfl⟩)
    nomatch hp
  · intro h e he
    cases cannotLoad_of_apply he with
    | setting f => exact ⟨f.problem, rfl, rfl⟩
    | number f => exact absurd ((apply_eq_error_iff rfl).1 he).1 h
    | document f => exact absurd ((apply_eq_error_iff rfl).1 he).1 h

/-- Entries are taken over, whatever their order, if all can be. Otherwise the first that cannot be
stops this with its reason, and just the entries before it are taken over. The reason is a problem
of the configuration, unless that entry has a number for its key that is too long to be named. In
any case the settings still name two programs, as the standard ones do. -/
theorem takes_apply (hkeys : NamesOnce entries) :
    ((s.apply entries).1 = none ↔ ∀ entry ∈ entries, Acceptable entry) ∧
    ((s.apply entries).1 = none → s.Takes entries (s.apply entries).2 ∧
      ∀ entries', entries.Perm entries' → s.apply entries' = s.apply entries) ∧
    (∀ before entry after, entries = before ++ entry :: after →
      (∀ entry ∈ before, Acceptable entry) → ¬ Acceptable entry →
      ∃ e, Refused entry e ∧ (s.apply entries).1 = some e ∧
        s.Takes before (s.apply entries).2) ∧
    ((∀ e, (s.apply entries).1 = some e →
      ∃ p, e.problem? = some p ∧ p.category = .configuration) ↔ ¬ s.HasLongKey entries) ∧
    (s.HasPrograms → (s.apply entries).2.HasPrograms) ∧
    ({ standard with file := s.file } : Settings).HasPrograms := by
  refine ⟨apply_eq_none_iff hkeys, ?_, ?_, problem_of_apply_iff, ?_, hasPrograms_standard s.file⟩
  · intro hnone
    have hall := (apply_eq_none_iff hkeys).1 hnone
    obtain ⟨s', happly, htakes⟩ := exists_takes (s := s) hkeys hall
    rw [happly]
    refine ⟨htakes, fun entries' hperm => ?_⟩
    obtain ⟨s'', happly', htakes'⟩ := exists_takes (s := s) (hkeys.perm hperm)
      fun entry hentry => hall entry (hperm.mem_iff.2 hentry)
    rw [happly', htakes.unique htakes' fun entry => hperm.mem_iff]
  · rintro before entry after rfl hbefore hentry
    obtain ⟨e, he⟩ := (acceptable_or_refused entry).resolve_left hentry
    obtain ⟨s', happly, htakes⟩ :=
      exists_takes_of_refused (s := s) (List.pairwise_append.1 hkeys).1 hbefore he
    rw [happly]
    exact ⟨e, he, rfl, htakes⟩
  · intro hs
    by_cases h : ∀ entry ∈ entries, Acceptable entry
    · obtain ⟨s', happly, htakes⟩ := exists_takes (s := s) hkeys h
      rw [happly]
      exact htakes.hasPrograms h hs
    · obtain ⟨before, entry, after, e, rfl, hbefore, he⟩ := exists_first_refused h
      obtain ⟨s', happly, htakes⟩ :=
        exists_takes_of_refused (s := s) (List.pairwise_append.1 hkeys).1 hbefore he
      rw [happly]
      exact htakes.hasPrograms hbefore hs

/-- A whole number is no truth value; what was taken over before it stays. -/
theorem takes_apply_wrong_type :
    let before := [(Scalar.text "quiet", Content.scalar (.bool true)),
      (.text "player", .scalar (.text "mpv"))]
    let entries := before ++ (.text "execute", .scalar (.int 1)) :: [(.null, .collection)]
    NamesOnce entries ∧ ¬ Acceptable (.text "execute", .scalar (.int 1)) ∧
    (∃ e, Refused (.text "execute", .scalar (.int 1)) e ∧ (standard.apply entries).1 = some e ∧
      standard.Takes before (standard.apply entries).2) ∧
    standard.apply entries = (some (.setting (.wrongType "execute")),
      { standard with player := "mpv", quiet := true }) := by
  intro before entries
  have hkeys : NamesOnce entries := namesOnce_of_nodup (by decide)
  have hbefore : ∀ entry ∈ before, Acceptable entry := by
    rw [List.forall_mem_cons, List.forall_mem_singleton]
    refine ⟨@Acceptable.intro .quiet _ ⟨true, rfl⟩ nofun,
      @Acceptable.intro .player _ ⟨"mpv", rfl⟩ fun name _ hname => ?_⟩
    obtain rfl : "mpv" = name := by simpa using hname
    decide
  have hrefused : Refused (.text "execute", .scalar (.int 1)) (.setting (.wrongType "execute")) :=
    @Refused.wrongType .execute _ nofun
  refine ⟨hkeys, hrefused.not_acceptable, ?_, by decide⟩
  exact (takes_apply hkeys).2.2.1 before _ _ rfl hbefore hrefused.not_acceptable

/-- A number of 4301 digits as a key is no reported problem. -/
theorem apply_long_key :
    standard.apply [(.int (powerOfTen 4300), .scalar .null)]
      = (some (.number .tooManyDigits), standard) ∧
    (Failure.number .tooManyDigits).problem? = none := by
  decide +kernel

end Settings

end Montage
