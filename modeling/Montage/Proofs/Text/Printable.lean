import Montage.Command
import Montage.Number.Text
import Montage.Operation
import Montage.Proofs.Result
import Montage.Proofs.Shell.Ends
import Montage.Proofs.Text.Fields

/-!
# Printable texts

Texts of printable characters, which stay on one line. A quoted text is one of them whatever it
quotes, and so is a number however it is written.
-/

namespace Montage

variable {s t sep shown : String} {ss : List String} {c : Char} {op : Operation}
  {ops : List Operation}

def IsPrintableText (s : String) : Prop := ∀ c ∈ s.toList, isPrintable c

instance : Decidable (IsPrintableText s) :=
  decidable_of_iff (s.toList.all isPrintable) List.all_eq_true

/-! ### Characters -/

/-- The ASCII characters from the blank to the tilde are printable. -/
lemma isPrintable_of_ascii (hlo : 0x20 ≤ c.toNat) (hhi : c.toNat ≤ 0x7E) : isPrintable c :=
  CharSet.contains_of_mem (List.mem_cons_self) hlo hhi

/-- No control character of ASCII is printable. -/
lemma le_toNat_of_isPrintable (h : isPrintable c) : 0x20 ≤ c.toNat := by
  have hranges : ∀ range ∈ CharSet.printable.ranges, 0x20 ≤ range.1 := by decide +kernel
  obtain ⟨range, hrange, hlo, -⟩ := CharSet.contains_iff.1 h
  exact (hranges range hrange).trans hlo

/-- Printable text has no control characters. -/
lemma IsPrintableText.lacks (h : IsPrintableText s) (hc : c.toNat < 0x20) : Lacks c s :=
  fun hmem => Nat.not_le_of_gt hc (le_toNat_of_isPrintable (h c hmem))

lemma isPrintable_of_isHarmless (h : Shell.isHarmless c) : isPrintable c := by
  have hcode := Shell.toNat_of_isHarmless h
  exact isPrintable_of_ascii (by omega) (by omega)

lemma isPrintable_of_isDigit (h : c.isDigit) : isPrintable c :=
  isPrintable_of_isHarmless (Shell.isHarmless_of_isDigit h)

lemma isPrintable_digitChar {n : Nat} (h : n < 16) : isPrintable n.digitChar := by
  have hdigits : ∀ n < 16, isPrintable n.digitChar := by decide
  exact hdigits n h

lemma isPrintable_of_mem_toDigits {n : Nat} (hc : c ∈ Nat.toDigits 16 n) : isPrintable c := by
  induction n using Nat.strongRecOn with
  | ind n ih =>
    rw [Nat.toDigits_eq_if (by decide)] at hc
    split_ifs at hc with hlt
    · rw [List.mem_singleton.1 hc]
      exact isPrintable_digitChar hlt
    · rcases List.mem_append.1 hc with hc | hc
      · exact ih (n / 16) (by omega) hc
      · rw [List.mem_singleton.1 hc]
        exact isPrintable_digitChar (Nat.mod_lt n (by decide))

/-! ### Texts put together -/

/-- A joined text is printable if both parts are. -/
lemma isPrintableText_append :
    IsPrintableText (s ++ t) ↔ IsPrintableText s ∧ IsPrintableText t := by
  simp only [IsPrintableText, String.toList_append, List.forall_mem_append]

lemma isPrintableText_intercalate (hsep : IsPrintableText sep) :
    IsPrintableText (sep.intercalate ss) ↔ ∀ s ∈ ss, IsPrintableText s := by
  rw [IsPrintableText, String.toList_intercalate, forall_mem_intercalate_iff hsep,
    List.forall_mem_map]
  rfl

/-- A list of printable texts is printable. -/
lemma isPrintableText_listText (h : ∀ s ∈ ss, IsPrintableText s) :
    IsPrintableText (listText ss) := by
  simp only [listText, isPrintableText_append]
  exact ⟨⟨by decide, (isPrintableText_intercalate (by decide)).2 h⟩, by decide⟩

/-- A tuple of printable texts is printable. -/
lemma isPrintableText_tupleText (h : ∀ s ∈ ss, IsPrintableText s) :
    IsPrintableText (tupleText ss) := by
  unfold tupleText
  split
  · simp only [isPrintableText_append]
    exact ⟨⟨by decide, h _ (by simp)⟩, by decide⟩
  · simp only [isPrintableText_append]
    exact ⟨⟨by decide, (isPrintableText_intercalate (by decide)).2 h⟩, by decide⟩

/-! ### Numbers -/

lemma isPrintable_of_mem_natDigits {n : Nat} (hc : c ∈ natDigits n) : isPrintable c :=
  isPrintable_of_isDigit (Nat.isDigit_of_mem_toDigits (by decide) (by decide) hc)

lemma isPrintableText_repr (n : Nat) : IsPrintableText n.repr := by
  have htext : n.repr.toList = natDigits n := String.toList_ofList
  rw [IsPrintableText, htext]
  exact fun c => isPrintable_of_mem_natDigits

lemma isPrintableText_intRepr (n : Int) : IsPrintableText n.repr := by
  cases n with
  | ofNat n => exact isPrintableText_repr n
  | negSucc n => exact isPrintableText_append.2 ⟨by decide, isPrintableText_repr _⟩

lemma isPrintable_of_mem_withPoint {whole fraction : List Char}
    (hwhole : ∀ c ∈ whole, isPrintable c) (hfraction : ∀ c ∈ fraction, isPrintable c) :
    ∀ c ∈ withPoint whole fraction, isPrintable c := by
  unfold withPoint
  split_ifs
  · exact hwhole
  · rw [List.forall_mem_append, List.forall_mem_cons]
    exact ⟨hwhole, by decide, hfraction⟩

/-- Numbers are written with printable characters. -/
lemma isPrintableText_fixedText (places : Nat) (x : Binary64) :
    IsPrintableText (x.fixedText places) := by
  rw [Binary64.fixedText]
  cases x with
  | nan bits => exact (by decide : IsPrintableText "nan")
  | infinite negative =>
    cases negative
    · exact (by decide : IsPrintableText "inf")
    · exact (by decide : IsPrintableText "-inf")
  | finite negative a =>
    have hsign : ∀ c ∈ if negative then ['-'] else [], isPrintable c := by
      split_ifs
      · exact List.forall_mem_singleton.2 (by decide)
      · exact List.forall_mem_nil _
    have hzeros : ∀ n, ∀ c ∈ List.replicate n '0', isPrintable c := by
      intro n c hc
      rw [List.eq_of_mem_replicate hc]
      decide
    rw [Binary64.textWith, IsPrintableText, String.toList_ofList, List.forall_mem_append]
    refine ⟨hsign, isPrintable_of_mem_withPoint (fun c => isPrintable_of_mem_natDigits) ?_⟩
    rw [List.forall_mem_append]
    exact ⟨hzeros _, fun c => isPrintable_of_mem_natDigits⟩

/-! ### Quoted texts -/

lemma isPrintable_quoteFor (cs : List Char) : isPrintable (quoteFor cs) := by
  unfold quoteFor
  split_ifs <;> decide

lemma isPrintable_of_mem_hexText {width n : Nat} (hc : c ∈ hexText width n) : isPrintable c := by
  rcases List.mem_append.1 hc with hc | hc
  · rw [List.eq_of_mem_replicate hc]
    decide
  · exact isPrintable_of_mem_toDigits hc

/-- An escaped character is printable, whatever it was. -/
lemma isPrintable_of_mem_escapeChar {quote : Char} (hquote : isPrintable quote) :
    ∀ d ∈ escapeChar quote c, isPrintable d := by
  have hbackslash : isPrintable '\\' := by decide
  have hpair : ∀ d, isPrintable d → ∀ d' ∈ ['\\', d], isPrintable d' := fun d hd =>
    List.forall_mem_cons.2 ⟨hbackslash, List.forall_mem_singleton.2 hd⟩
  have hhex : ∀ width n, ∀ d ∈ hexText width n, isPrintable d := fun _ _ _ =>
    isPrintable_of_mem_hexText
  unfold escapeChar
  split_ifs with hescaped _ _ _ hc
  · obtain rfl | rfl := hescaped
    · exact hpair _ hquote
    · exact hpair _ hbackslash
  · exact hpair _ (by decide)
  · exact hpair _ (by decide)
  · exact hpair _ (by decide)
  · simpa using hc
  all_goals
    simp only [List.forall_mem_cons]
    exact ⟨hbackslash, by decide, hhex _ _⟩

/-- A quoted text is printable, whatever it quotes. -/
lemma isPrintableText_literal (s : String) : IsPrintableText (literal s) := by
  have hquote := isPrintable_quoteFor s.toList
  rw [IsPrintableText, literal, String.toList_ofList, literalChars, List.forall_mem_cons,
    List.forall_mem_append, List.forall_mem_singleton]
  refine ⟨hquote, fun d hd => ?_, hquote⟩
  obtain ⟨c, -, hd⟩ := List.mem_flatMap.1 hd
  exact isPrintable_of_mem_escapeChar hquote d hd

/-! ### What is shown -/

/-- Problems are shown in printable text. -/
lemma Problem.isPrintableText_display (p : Problem) : IsPrintableText p.display := by
  have hname : IsPrintableText p.category.name := by cases p.category <;> decide
  simp only [Problem.display, isPrintableText_append]
  exact ⟨⟨⟨hname, by decide⟩, isPrintableText_literal _⟩, by decide⟩

lemma isPrintableText_decimalText {n : Int} (h : decimalText n = .ok s) : IsPrintableText s := by
  unfold decimalText at h
  split_ifs at h
  obtain rfl := Except.ok.inj h
  exact isPrintableText_intRepr n

lemma isPrintableText_map_literal (ss : List String) : ∀ s ∈ ss.map literal, IsPrintableText s := by
  rw [List.forall_mem_map]
  exact fun s _ => isPrintableText_literal s

/-- Operations are shown in printable text. -/
lemma Operation.isPrintableText_display (h : op.display = .ok shown) : IsPrintableText shown := by
  cases op with
  | resize width height =>
    simp only [Operation.display, bind_eq_ok_iff, pure_eq_ok_iff] at h
    obtain ⟨w, hw, h', hh, rfl⟩ := h
    simp only [isPrintableText_append]
    exact ⟨⟨⟨⟨by decide, isPrintableText_decimalText hw⟩, by decide⟩,
      isPrintableText_decimalText hh⟩, by decide⟩
  | quality score =>
    simp only [Operation.display, bind_eq_ok_iff, pure_eq_ok_iff] at h
    obtain ⟨s, hs, rfl⟩ := h
    simp only [isPrintableText_append]
    exact ⟨⟨by decide, isPrintableText_decimalText hs⟩, by decide⟩
  | merge paths =>
    obtain rfl := pure_eq_ok_iff.1 h
    simp only [isPrintableText_append]
    exact ⟨⟨by decide, isPrintableText_tupleText (isPrintableText_map_literal paths)⟩, by decide⟩
  | execution mode =>
    obtain rfl := pure_eq_ok_iff.1 h
    cases mode <;> decide
  | output path =>
    obtain rfl := pure_eq_ok_iff.1 h
    simp only [isPrintableText_append]
    exact ⟨⟨by decide, isPrintableText_literal path⟩, by decide⟩

lemma isPrintableText_displayOperations (h : displayOperations ops = .ok shown) :
    IsPrintableText shown := by
  simp only [displayOperations, bind_eq_ok_iff, pure_eq_ok_iff] at h
  obtain ⟨texts, htexts, rfl⟩ := h
  apply isPrintableText_listText
  induction ops generalizing texts with
  | nil =>
    obtain rfl := pure_eq_ok_iff.1 htexts
    simp
  | cons op ops ih =>
    simp only [List.mapM_cons, bind_eq_ok_iff, pure_eq_ok_iff] at htexts
    obtain ⟨text, htext, texts, htexts, rfl⟩ := htexts
    exact List.forall_mem_cons.2 ⟨op.isPrintableText_display htext, ih texts htexts⟩

/-- Commands are shown in printable text. -/
lemma Command.isPrintableText_display (c : Command) : IsPrintableText c.display := by
  unfold Command.display
  simp only [isPrintableText_append]
  exact ⟨⟨⟨⟨by decide, isPrintableText_literal _⟩, by decide⟩,
    isPrintableText_tupleText (isPrintableText_map_literal _)⟩, by decide⟩

end Montage
