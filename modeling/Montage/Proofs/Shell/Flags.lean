import Montage.Proofs.Fragments
import Montage.Proofs.Number.Bounded
import Montage.Proofs.Text.Fields

/-!
# Flags that stand as they are

Rate control flags and stream maps are recognised by a pattern when a command is written for a
shell, and are not quoted. Whatever flags a command has, they are of the pattern; and rate control
flags write their settings with all digits.
-/

namespace Montage

open Shell

variable {curve : Curve} {quality : Int} {r : RateControl} {s : String}

/-! ### Fragments that a shell gets unchanged -/

lemma fragment_eq_self (h : s.toList ∈ rateFragments ∨ s.toList ∈ mapFragments) :
    fragment s = s := by
  have hmark : ¬ "-vf ".toList <+: s.toList := by
    rcases h with h | h
    · exact not_filterMark_prefix_of_mem_rateFragments h
    · exact not_filterMark_prefix_of_mem_mapFragments h
  rw [fragment, fragmentChars_eq_self hmark h, String.ofList_toList]

lemma mergeMap_mem_mapFragments : mergeMap.toList ∈ mapFragments := by decide +kernel

/-! ### What rate control flags say -/

/-- Flags write settings: their six words are three names, each with a numeral behind it, and the
numerals denote the settings. -/
structure RateControl.Writes (r : RateControl) (flags crf rate size : String) : Prop where
  words : fieldsOf ' ' flags = ["-crf", crf, "-maxrate", rate ++ "M", "-bufsize", size ++ "M"]
  numerals : IsDigitRun crf.toList ∧ IsDigitRun rate.toList ∧ IsDigitRun size.toList
  settings : r.Has (placeValue crf.toList) (placeValue rate.toList) (placeValue size.toList)

lemma toList_repr_eq (n : Nat) : n.repr.toList = paddedDigits 0 n := by
  simp [paddedDigits]

lemma isDigitRun_repr (n : Nat) : IsDigitRun n.repr.toList := by
  rw [toList_repr_eq]
  exact isDigitRun_paddedDigits 0 n

lemma placeValue_repr (n : Nat) : placeValue n.repr.toList = n := by
  rw [toList_repr_eq, placeValue_paddedDigits]

lemma exists_writes_of_words {crf rate size : Nat} (h : r.Has crf rate size) (hwords : r.words
      = .ok ["-crf", crf.repr, "-maxrate", rate.repr ++ "M", "-bufsize", size.repr ++ "M"]) :
    ∃ flags, r.flags = .ok flags ∧ r.Writes flags crf.repr rate.repr size.repr := by
  have hblank : ∀ n : Nat, Lacks ' ' n.repr := lacks_repr rfl
  have hamount : ∀ n : Nat, Lacks ' ' (n.repr ++ "M") :=
    fun n => lacks_append.2 ⟨hblank n, by decide⟩
  refine ⟨" ".intercalate
    ["-crf", crf.repr, "-maxrate", rate.repr ++ "M", "-bufsize", size.repr ++ "M"], ?_, ?_, ?_, ?_⟩
  · rw [r.flags_eq_map_words, hwords]
    rfl
  · refine fieldsOf_intercalate rfl (List.cons_ne_nil _ _) ?_
    simp only [List.forall_mem_cons, List.not_mem_nil, false_implies, implies_true, and_true]
    exact ⟨by decide, hblank crf, by decide, hamount rate, by decide, hamount size⟩
  · exact ⟨isDigitRun_repr crf, isDigitRun_repr rate, isDigitRun_repr size⟩
  · rwa [placeValue_repr, placeValue_repr, placeValue_repr]

/-- Settings of a quality have flags, of the pattern of rate control, which write the settings. -/
lemma exists_writes_of_ofQuality (h : RateControl.ofQuality curve quality = .ok r) :
    ∃ flags crf rate size, r.flags = .ok flags ∧ flags.toList ∈ rateFragments ∧
      r.Writes flags crf rate size := by
  obtain ⟨hquality, hcovers⟩ := covers_of_ofQuality h
  obtain ⟨r', hr', crf, rate, size, hhas, hwords⟩ := RateControl.exists_words hquality hcovers
  obtain rfl := Except.ok.inj (hr'.symm.trans h)
  obtain ⟨flags, hflags, hwrites⟩ := exists_writes_of_words hhas hwords
  have hrateFlags : rateFlagsOf curve quality = .ok flags := bind_eq_ok_iff.2 ⟨r', h, hflags⟩
  exact ⟨flags, _, _, _, hflags, mem_rateFragments_of_rateFlagsOf hrateFlags, hwrites⟩

/-! ### Flags of commands -/

/-- The flags of all settings of qualities and the stream maps of all merges are of the patterns and
stand as they are; so do the rate control flags of all commands that operations compile to. -/
theorem fragment_flags_eq_self (curve : Curve) :
    (∀ quality r, RateControl.ofQuality curve quality = .ok r → ∃ flags crf rate size,
      r.flags = .ok flags ∧ flags.toList ∈ rateFragments ∧ fragment flags = flags ∧
      r.Writes flags crf rate size) ∧
    (∀ (d : Draft) paths, ∃ graph map,
      d.addOperation curve (.merge paths)
        = .ok { d with filters := d.filters ++ [graph], mapFlags := some map } ∧
      map.toList ∈ mapFragments ∧ fragment map = map) ∧
    ∀ programs ops c, compileOperations curve programs ops = .ok c →
      ∃ rateFlags, (lastScore? ops).mapM (rateFlagsOf curve) = .ok rateFlags ∧
        c = commandOf programs ops rateFlags ∧
        ∀ flags, rateFlags = some flags → fragment flags = flags ∧
          ∃ quality r crf rate size, lastScore? ops = some quality ∧
            RateControl.ofQuality curve quality = .ok r ∧ r.Writes flags crf rate size := by
  refine ⟨?_, ?_, ?_⟩
  · intro quality r hr
    obtain ⟨flags, crf, rate, size, hflags, hmem, hwrites⟩ := exists_writes_of_ofQuality hr
    exact ⟨flags, crf, rate, size, hflags, hmem, fragment_eq_self (.inl hmem), hwrites⟩
  · intro d paths
    exact ⟨_, _, rfl, mergeMap_mem_mapFragments, fragment_eq_self (.inr mergeMap_mem_mapFragments)⟩
  · intro programs ops c hc
    obtain ⟨rate, hrate, rfl⟩ := exists_rate_of_compileOperations hc
    refine ⟨rate, hrate, rfl, ?_⟩
    rintro flags rfl
    obtain ⟨-, hnone⟩ | ⟨quality, flags, hlast, hflags, hsome⟩ := flags_of_mapM_eq_ok hrate
    · nomatch hnone
    obtain rfl := Option.some.inj hsome
    obtain ⟨r, hr, hrflags⟩ := bind_eq_ok_iff.1 hflags
    obtain ⟨flags', crf, rate, size, hflags', hmem, hwrites⟩ := exists_writes_of_ofQuality hr
    obtain rfl := Except.ok.inj (hrflags.symm.trans hflags')
    exact ⟨fragment_eq_self (.inl hmem), quality, r, crf, rate, size, hlast, hr, hwrites⟩

/-- Rates beyond 2⁵³ are written with all digits. -/
theorem fragment_flags_large : ∃ r flags crf rate size,
    RateControl.ofQuality some 1000000000000000000000000000000 = .ok r ∧ r.flags = .ok flags ∧
    flags = "-crf 0 -maxrate 454545454545454570236018688M -bufsize 909090909090909140472037376M" ∧
    fragment flags = flags ∧ r.Writes flags crf rate size := by
  have hflags : rateFlagsOf some 1000000000000000000000000000000 = .ok
      "-crf 0 -maxrate 454545454545454570236018688M -bufsize 909090909090909140472037376M" := by
    decide +kernel
  obtain ⟨r, hr, hrflags⟩ := bind_eq_ok_iff.1 hflags
  obtain ⟨flags, crf, rate, size, hflags', -, hfragment, hwrites⟩ :=
    (fragment_flags_eq_self some).1 _ r hr
  obtain rfl := Except.ok.inj (hrflags.symm.trans hflags')
  exact ⟨r, _, crf, rate, size, hr, hrflags, rfl, hfragment, hwrites⟩

end Montage
