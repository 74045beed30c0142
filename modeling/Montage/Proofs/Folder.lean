import Mathlib.Data.List.Basic
import Montage.Folder

/-!
# Files that can be appended to

Whether a text can be appended at a path depends on what stands there and on the way to it, and not
on the text. Appending only ever changes the file at the end of the way, so a path at which a text
could be appended once stays one: of the entries of a log, the first one decides about all.
-/

namespace Montage.Folder

variable {f g : Folder} {parts p : List String} {here : Option (List String)} {path text : String}

/-! ### Entries -/

lemma lookup_map_replace {entries : List (List String × Entry)} (p q : List String) (e : Entry) :
    (entries.map fun (r, old) => if r = p then (r, e) else (r, old)).lookup q
      = (entries.lookup q).map fun old => if q = p then e else old := by
  induction entries with
  | nil => rfl
  | cons entry entries ih =>
    obtain ⟨r, old⟩ := entry
    have hentry : (if r = p then (r, e) else (r, old)) = (r, if r = p then e else old) := by
      split_ifs <;> rfl
    rw [List.map_cons]
    change ((if r = p then (r, e) else (r, old)) :: _).lookup q = _
    rw [hentry]
    by_cases hq : q = r
    · subst hq
      rw [List.lookup_cons_self, List.lookup_cons_self, Option.map_some]
    · rw [List.lookup_cons, List.lookup_cons, beq_eq_false_iff_ne.2 hq]
      exact ih

/-- An entry is found where it was set, and all others are found as before. -/
lemma find?_set (f : Folder) (p q : List String) (e : Entry) :
    (f.set p e).find? q = if q = p then some e else f.find? q := by
  unfold set
  by_cases hold : (f.find? p).isSome
  · rw [if_pos hold, find?, lookup_map_replace]
    split_ifs with hq
    · subst hq
      obtain ⟨old, hold⟩ := Option.isSome_iff_exists.1 hold
      rw [find?] at hold
      rw [hold, Option.map_some]
    · rw [Option.map_id']
      rfl
  · rw [if_neg hold, find?, List.lookup_append, List.lookup_cons, List.lookup_nil]
    split_ifs with hq
    · subst hq
      rw [Option.not_isSome_iff_eq_none, find?] at hold
      rw [hold, beq_self_eq_true, Option.none_or]
    · rw [beq_eq_false_iff_ne.2 hq, Option.or_none]
      rfl

/-! ### Ways -/

/-- A way leads to the same place where the same folders stand, unless it ends in a slash behind
nothing. -/
lemma walk_eq_of_folders (h : f.walk parts here = .inside p)
    (hfolders : ∀ q, f.find? q = some .folder → g.find? q = some .folder)
    (hslash : f.find? p = none → parts.getLast? ≠ some "") : g.walk parts here = .inside p := by
  induction parts generalizing here with
  | nil => cases here <;> exact h
  | cons part rest ih =>
    have hslash' : f.find? p = none → rest.getLast? ≠ some "" := by
      intro hnone hlast
      apply hslash hnone
      rw [List.getLast?_cons, hlast]
      rfl
    cases here with
    | none =>
      rw [walk] at h ⊢
      split_ifs at h ⊢
      exact ih h hslash'
    | some here =>
      by_cases htop : isTop here
      · rw [walk, if_pos htop] at h ⊢
        exact ih h hslash'
      · rw [walk, if_neg htop] at h ⊢
        cases hentry : f.find? here.reverse with
        | none =>
          rw [hentry] at h
          dsimp only at h
          split_ifs at h with hlast
          obtain ⟨rfl, rfl⟩ := hlast
          obtain rfl := Place.inside.inj h
          exact absurd rfl (hslash hentry)
        | some entry =>
          rw [hentry] at h
          cases entry with
          | file bytes => nomatch h
          | folder =>
            rw [hfolders _ hentry]
            exact ih h hslash'

/-- A text whose last part is empty ends with the separator. -/
lemma exists_append_of_getLast?_eq {ts : List (List Char)} (h : ts.getLast? = some [])
    (hne : ['/'].intercalate ts ≠ []) : ∃ cs, ['/'].intercalate ts = cs ++ ['/'] := by
  induction ts with
  | nil => nomatch h
  | cons t ts ih =>
    rcases eq_or_ne ts [] with rfl | hts
    · obtain rfl : t = [] := Option.some.inj h
      exact absurd rfl hne
    · rw [List.intercalate_cons_of_ne_nil hts]
      by_cases hend : ['/'].intercalate ts = []
      · exact ⟨t, by rw [hend, List.append_nil]⟩
      · have hlast : ts.getLast? = some [] := by
          rwa [List.getLast?_cons_of_ne_nil hts] at h
        obtain ⟨cs, hcs⟩ := ih hlast hend
        exact ⟨t ++ ['/'] ++ cs, by rw [hcs, List.append_assoc _ cs]⟩

/-- A path with an empty last part ends in a slash. -/
lemma endsWith_of_getLast?_partsOf (h : (partsOf path).getLast? = some "") (hne : path ≠ "") :
    path.endsWith "/" := by
  have hlast : (path.toList.splitOn '/').getLast? = some [] := by
    rw [partsOf, List.getLast?_map, Option.map_eq_some_iff] at h
    obtain ⟨last, hlast, hempty⟩ := h
    obtain rfl : last = [] := by simpa using hempty
    exact hlast
  have hnil : ['/'].intercalate (path.toList.splitOn '/') ≠ [] := by
    rw [List.intercalate_splitOn]
    simpa using hne
  obtain ⟨cs, hcs⟩ := exists_append_of_getLast?_eq hlast hnil
  rw [List.intercalate_splitOn] at hcs
  rw [← String.endsWith_toSlice, String.Slice.endsWith_string_iff]
  exact ⟨cs, by rw [String.copy_toSlice, hcs]; rfl⟩

/-! ### Appending -/

/-- A text can be appended at a path: at the end of its way, which has the given parts, stands a
file, or nothing but the folder for it. -/
structure IsLog (f : Folder) (path : String) (parts : List String) : Prop where
  noNul : path.toList.contains '\x00' = false
  resolve_eq : f.resolve path = .inside parts
  noFolder : f.find? parts ≠ some .folder
  noSlash : f.find? parts = none → path.endsWith "/" = false

/-- A log holds what stands in its place, or it is not there yet. -/
lemma IsLog.read?_eq (h : f.IsLog path parts) : f.read? path = match f.find? parts with
    | some (.file bytes) => some bytes
    | _ => none := by
  unfold read?
  exact h.resolve_eq ▸ rfl

/-- An appended text stands behind what the file held, if there was one. -/
lemma IsLog.append_eq (h : f.IsLog path parts) (text : String) : f.append path text
    = .ok (f.set parts (.file ((f.read? path).getD .empty ++ text.toUTF8))) := by
  rw [h.read?_eq, Folder.append, if_neg (Bool.eq_false_iff.1 h.noNul), h.resolve_eq]
  dsimp only
  cases hentry : f.find? parts with
  | none =>
    rw [h.noSlash hentry]
    simp
  | some entry =>
    cases entry with
    | file bytes => rfl
    | folder => exact absurd hentry h.noFolder

/-- Whatever can be appended to is a log, and only the file in its place changes. -/
lemma exists_isLog_of_append (h : f.append path text = .ok g) :
    ∃ parts bytes, f.IsLog path parts ∧ g = f.set parts (.file bytes) := by
  revert h
  fun_cases append f path text with
  | case6 hnul parts hplace bytes hentry =>
    intro h
    refine ⟨parts, _, ⟨Bool.eq_false_iff.2 hnul, hplace, ?_, ?_⟩, (Except.ok.inj h).symm⟩ <;>
    · rw [hentry]
      nofun
  | case8 hnul parts hplace hentry hslash =>
    intro h
    refine ⟨parts, _, ⟨Bool.eq_false_iff.2 hnul, hplace, ?_, ?_⟩, (Except.ok.inj h).symm⟩
    · rw [hentry]
      nofun
    · intro _
      exact Bool.eq_false_iff.2 hslash
  | _ => nofun

/-- Writing a file leaves the ways to all places as they are, but for a slash behind nothing. -/
lemma resolve_set (h : f.resolve path = .inside parts) (hp : f.find? p ≠ some .folder)
    (hslash : f.find? parts = none → path.endsWith "/" = false) (bytes : ByteArray) :
    (f.set p (.file bytes)).resolve path = .inside parts := by
  have hstart : (f.set p (.file bytes)).start path = f.start path := by
    unfold Folder.set start
    split_ifs <;> rfl
  rw [resolve] at h ⊢
  rw [hstart]
  split_ifs at h ⊢ with hempty
  apply walk_eq_of_folders h
  · intro q hq
    have hne : q ≠ p := fun heq => hp (heq ▸ hq)
    rw [find?_set, if_neg hne, hq]
  · intro hnone hlast
    have hend : path.endsWith "/" := endsWith_of_getLast?_partsOf hlast (by simpa using hempty)
    exact absurd hend (Bool.eq_false_iff.1 (hslash hnone))

/-- A path at which a text can be appended stays one when a file is written, this one or another. -/
lemma IsLog.set_file (h : f.IsLog path parts) (hp : f.find? p ≠ some .folder)
    (bytes : ByteArray) : (f.set p (.file bytes)).IsLog path parts := by
  refine ⟨h.noNul, resolve_set h.resolve_eq hp h.noSlash bytes, ?_, ?_⟩ <;>
    rw [find?_set] <;>
    split_ifs
  · nofun
  · exact h.noFolder
  · nofun
  · exact h.noSlash

/-- Writing the file leaves the way to it as it is. -/
lemma IsLog.set (h : f.IsLog path parts) (bytes : ByteArray) :
    (f.set parts (.file bytes)).IsLog path parts := h.set_file h.noFolder bytes

/-- A log that is appended to holds what it held and then the text. -/
lemma IsLog.read?_append (h : f.IsLog path parts) (happend : f.append path text = .ok g) :
    g.read? path = some ((f.read? path).getD .empty ++ text.toUTF8) := by
  obtain rfl := Except.ok.inj ((h.append_eq text).symm.trans happend)
  rw [(h.set _).read?_eq, find?_set, if_pos rfl]

end Montage.Folder
