import Mathlib.Data.Nat.Digits.Defs
import Mathlib.Tactic.Lemma
import Montage.Text.Literal

/-!
# Reading quoted texts

Whatever comes behind a quoted text, it tells where it ends and what it quotes. Lists and tuples of
texts of this kind tell their items.
-/

namespace Montage

variable {α : Type} {f : α → String} {cs ds x y : List Char}
  {quote close c : Char} {n width : Nat}

/-- Whatever stands behind it, each text tells what it was made from and where it ends. -/
def IsPrefixCode (f : α → String) : Prop :=
  ∀ ⦃a b x y⦄, (f a).toList ++ x = (f b).toList ++ y → a = b ∧ x = y

/-! ### Hexadecimal digits -/

def hexDigit (c : Char) : Nat := if c.isDigit then c.toNat - '0'.toNat else c.toNat - 'a'.toNat + 10

def hexValue (cs : List Char) : Nat := cs.foldl (fun n c => 16 * n + hexDigit c) 0

lemma hexDigit_digitChar (h : n < 16) : hexDigit n.digitChar = n := by
  have hdigits : ∀ n < 16, hexDigit n.digitChar = n := by decide
  exact hdigits n h

lemma hexValue_append_singleton : hexValue (cs ++ [c]) = 16 * hexValue cs + hexDigit c := by
  rw [hexValue, List.foldl_append]
  rfl

/-- Hexadecimal digits read as the number that they write. -/
lemma hexValue_toDigits (n : Nat) : hexValue (Nat.toDigits 16 n) = n := by
  induction n using Nat.strongRecOn with
  | ind n ih =>
    rw [Nat.toDigits_eq_if (by decide)]
    split_ifs with hlt
    · exact (Nat.zero_add _).trans (hexDigit_digitChar hlt)
    · rw [hexValue_append_singleton, ih (n / 16) (by omega),
        hexDigit_digitChar (Nat.mod_lt n (by decide)), Nat.div_add_mod]

/-- So they do with zeros in front. -/
lemma hexValue_hexText (width n : Nat) : hexValue (hexText width n) = n := by
  have hzeros : ∀ k, hexValue (List.replicate k '0') = 0 := by
    intro k
    induction k with
    | zero => rfl
    | succ k ih => rw [List.replicate_succ', hexValue_append_singleton, ih]; rfl
  rw [hexText, hexValue, List.foldl_append, ← hexValue, hzeros]
  exact hexValue_toDigits n

/-- A number is filled up with zeros to its width. -/
lemma length_hexText (hwidth : 0 < width) (hn : n < 16 ^ width) :
    (hexText width n).length = width := by
  have hle := Nat.toDigits_length 16 n width hwidth hn
  rw [hexText, List.length_append, List.length_replicate]
  omega

/-! ### Escapes -/

/-- The character that a text behind a backslash stands for, and the text after it. -/
def readEscaped : List Char → Option (Char × List Char)
  | 't' :: rest => some ('\t', rest)
  | 'n' :: rest => some ('\n', rest)
  | 'r' :: rest => some ('\r', rest)
  | 'x' :: rest => some (.ofNat (hexValue (rest.take 2)), rest.drop 2)
  | 'u' :: rest => some (.ofNat (hexValue (rest.take 4)), rest.drop 4)
  | 'U' :: rest => some (.ofNat (hexValue (rest.take 8)), rest.drop 8)
  | c :: rest => some (c, rest)
  | [] => none

/-- The first character that is meant by a text inside quotes, and the text after it. -/
def readQuoted : List Char → Option (Char × List Char)
  | c :: rest => if c = '\\' then readEscaped rest else some (c, rest)
  | [] => none

/-- The code of a character is read back from its escape. -/
lemma ofNat_hexValue_take (hwidth : 0 < width) (hc : c.toNat < 16 ^ width) :
    Char.ofNat (hexValue ((hexText width c.toNat ++ x).take width)) = c ∧
      (hexText width c.toNat ++ x).drop width = x := by
  have hlength := length_hexText hwidth hc
  rw [List.take_left' hlength, List.drop_left' hlength, hexValue_hexText, Char.ofNat_toNat]
  exact ⟨rfl, rfl⟩

/-- Each character is read back from what is written for it, up to where that ends. -/
lemma readQuoted_escapeChar (hquote : quote = '\'' ∨ quote = '"') :
    readQuoted (escapeChar quote c ++ x) = some (c, x) := by
  have hhex : ∀ {width}, 0 < width → c.toNat < 16 ^ width →
      some (Char.ofNat (hexValue ((hexText width c.toNat ++ x).take width)),
        (hexText width c.toNat ++ x).drop width) = some (c, x) := by
    intro width hwidth hc
    rw [(ofNat_hexValue_take hwidth hc).1, (ofNat_hexValue_take hwidth hc).2]
  unfold escapeChar
  split_ifs with hescaped htab hnewline hreturn hprintable hsmall hmiddle
  · obtain rfl | rfl := hescaped
    · obtain rfl | rfl := hquote <;> rfl
    · rfl
  · rw [htab]
    rfl
  · rw [hnewline]
    rfl
  · rw [hreturn]
    rfl
  · exact if_neg fun hbackslash => hescaped (.inr hbackslash)
  · exact hhex (by decide) hsmall
  · exact hhex (by decide) hmiddle
  · have hcode : c.toNat < 16 ^ 8 := by
      have hvalid : c.toNat.isValidChar := c.valid
      unfold Nat.isValidChar at hvalid
      omega
    exact hhex (by decide) hcode

/-- Nothing that is written for a character starts with the quote. -/
lemma quote_cons_ne_escapeChar_append (hquote : quote = '\'' ∨ quote = '"') :
    quote :: x ≠ escapeChar quote c ++ y := by
  intro heq
  have hbackslash : quote ≠ '\\' := by
    rintro rfl
    simp at hquote
  have hread : readQuoted (quote :: x) = some (c, y) := by rw [heq, readQuoted_escapeChar hquote]
  rw [readQuoted, if_neg hbackslash, Option.some_inj, Prod.mk.injEq] at hread
  obtain ⟨rfl, -⟩ := hread
  rw [escapeChar, if_pos (.inl rfl)] at heq
  exact hbackslash (List.cons.inj heq).1

/-! ### Quoted texts -/

/-- Both kinds of quotes are used. -/
lemma quoteFor_cases (cs : List Char) : quoteFor cs = '\'' ∨ quoteFor cs = '"' := by
  unfold quoteFor
  split_ifs
  · exact .inr rfl
  · exact .inl rfl

/-- Escaped text is read back up to its closing quote. -/
lemma eq_of_escaped_append (hquote : quote = '\'' ∨ quote = '"')
    (h : cs.flatMap (escapeChar quote) ++ quote :: x
      = ds.flatMap (escapeChar quote) ++ quote :: y) : cs = ds ∧ x = y := by
  have hends : ∀ {x c cs y}, quote :: x ≠ (c :: cs).flatMap (escapeChar quote) ++ quote :: y := by
    intro x c cs y
    rw [List.flatMap_cons, List.append_assoc]
    exact quote_cons_ne_escapeChar_append hquote
  induction cs generalizing ds with
  | nil =>
    cases ds with
    | nil => exact ⟨rfl, (List.cons.inj h).2⟩
    | cons d ds => exact absurd h hends
  | cons c cs ih =>
    cases ds with
    | nil => exact absurd h.symm hends
    | cons d ds =>
      rw [List.flatMap_cons, List.flatMap_cons, List.append_assoc, List.append_assoc] at h
      have hread := congrArg readQuoted h
      rw [readQuoted_escapeChar hquote, readQuoted_escapeChar hquote, Option.some_inj,
        Prod.mk.injEq] at hread
      obtain ⟨rfl, hrest⟩ := hread
      obtain ⟨rfl, rfl⟩ := ih hrest
      exact ⟨rfl, rfl⟩

/-- A quoted text tells what it quotes and where it ends. -/
lemma isPrefixCode_literal : IsPrefixCode literal := by
  intro s t x y h
  simp only [literal, String.toList_ofList, literalChars, List.cons_append, List.append_assoc,
    List.cons.injEq] at h
  obtain ⟨hquote, hrest⟩ := h
  rw [← hquote] at hrest
  obtain ⟨htext, rfl⟩ := eq_of_escaped_append (quoteFor_cases _) hrest
  exact ⟨String.toList_inj.1 htext, rfl⟩

/-- A literal starts with a quote. -/
lemma literal_append_ne {s : String} (hclose : close ≠ '\'' ∧ close ≠ '"') :
    (literal s).toList ++ x ≠ close :: y := by
  rw [literal, String.toList_ofList, literalChars, List.cons_append]
  intro heq
  rw [← (List.cons.inj heq).1] at hclose
  obtain hquote | hquote := quoteFor_cases s.toList
  · exact hclose.1 hquote
  · exact hclose.2 hquote

/-! ### Lists and tuples -/

/-- What stands behind the first of several items: a comma, a blank and an item each time. -/
def laterItems (f : α → String) (as : List α) : List Char :=
  as.flatMap fun a => ',' :: ' ' :: (f a).toList

lemma toList_intercalate_map_cons (f : α → String) (a : α) (as : List α) :
    (", ".intercalate ((a :: as).map f)).toList = (f a).toList ++ laterItems f as := by
  induction as generalizing a with
  | nil => simp [laterItems]
  | cons b bs ih =>
    have hne : (b :: bs).map f ≠ [] := List.cons_ne_nil _ _
    rw [List.map_cons, String.intercalate_cons_of_ne_nil hne, String.toList_append,
      String.toList_append, ih, List.append_assoc]
    rfl

section Items

variable (hf : IsPrefixCode f)
include hf

/-- Items are told apart by the commas between them. -/
lemma eq_of_laterItems_append (hclose : close ≠ ',')
    (h : laterItems f as ++ close :: x = laterItems f bs ++ close :: y) : as = bs ∧ x = y := by
  induction as generalizing bs with
  | nil =>
    cases bs with
    | nil => exact ⟨rfl, (List.cons.inj h).2⟩
    | cons b bs => exact absurd (List.cons.inj h).1 hclose
  | cons a as ih =>
    cases bs with
    | nil => exact absurd (List.cons.inj h).1.symm hclose
    | cons b bs =>
      simp only [laterItems, List.flatMap_cons, List.cons_append, List.append_assoc,
        List.cons.injEq, true_and] at h
      obtain ⟨rfl, hrest⟩ := hf h
      obtain ⟨rfl, rfl⟩ := ih hrest
      exact ⟨rfl, rfl⟩

/-- Items between brackets tell themselves and where they end, if what stands behind the first one
does, and if no item starts with the closing bracket. -/
lemma isPrefixCode_of_brackets {text : List α → String} {tail : List α → List Char}
    {opening closing : Char} (hnil : (text []).toList = [opening, closing])
    (hcons : ∀ a as, (text (a :: as)).toList = opening :: ((f a).toList ++ tail as))
    (htail : ∀ {as bs x y}, tail as ++ x = tail bs ++ y → as = bs ∧ x = y)
    (hstart : ∀ a x y, (f a).toList ++ x ≠ closing :: y) : IsPrefixCode text := by
  intro as bs x y h
  cases as with
  | nil =>
    cases bs with
    | nil =>
      rw [hnil] at h
      exact ⟨rfl, List.append_cancel_left h⟩
    | cons b bs =>
      simp only [hnil, hcons, List.cons_append, List.append_assoc, List.cons.injEq, true_and] at h
      exact absurd h.symm (hstart _ _ _)
  | cons a as =>
    cases bs with
    | nil =>
      simp only [hnil, hcons, List.cons_append, List.append_assoc, List.cons.injEq, true_and] at h
      exact absurd h (hstart _ _ _)
    | cons b bs =>
      simp only [hcons, List.cons_append, List.append_assoc, List.cons.injEq, true_and] at h
      obtain ⟨rfl, hrest⟩ := hf h
      obtain ⟨rfl, rfl⟩ := htail hrest
      exact ⟨rfl, rfl⟩

/-- A list is told from its text if no item looks like its end. -/
lemma isPrefixCode_listText (hstart : ∀ a x y, (f a).toList ++ x ≠ ']' :: y) :
    IsPrefixCode fun as : List α => listText (as.map f) := by
  have hnil : (listText (([] : List α).map f)).toList = ['[', ']'] := by simp [listText]
  have hcons : ∀ a as, (listText ((a :: as).map f)).toList
      = '[' :: ((f a).toList ++ (laterItems f as ++ [']'])) := by
    intro a as
    rw [listText, String.toList_append, String.toList_append, toList_intercalate_map_cons]
    simp
  refine isPrefixCode_of_brackets hf hnil hcons (fun h => ?_) hstart
  rw [List.append_assoc, List.append_assoc] at h
  exact eq_of_laterItems_append hf (by decide) h

/-- What stands behind the first item of a tuple; a single item is followed by a comma. -/
def tupleEnd (f : α → String) : List α → List Char
  | [] => [',', ')']
  | b :: bs => laterItems f (b :: bs) ++ [')']

/-- The end of a tuple tells its items. -/
lemma eq_of_tupleEnd_append (h : tupleEnd f as ++ x = tupleEnd f bs ++ y) : as = bs ∧ x = y := by
  -- the comma of a single item stands in front of the bracket, any other in front of a blank
  have hone : ∀ {b bs x y}, tupleEnd f [] ++ x ≠ tupleEnd f (b :: bs) ++ y := by
    intro b bs x y heq
    simp [tupleEnd, laterItems] at heq
  cases as with
  | nil =>
    cases bs with
    | nil => exact ⟨rfl, List.append_cancel_left h⟩
    | cons b bs => exact absurd h hone
  | cons a as =>
    cases bs with
    | nil => exact absurd h.symm hone
    | cons b bs =>
      rw [tupleEnd, tupleEnd, List.append_assoc, List.append_assoc] at h
      exact eq_of_laterItems_append hf (by decide) h

/-- A tuple is told from its text if no item looks like its end. -/
lemma isPrefixCode_tupleText (hstart : ∀ a x y, (f a).toList ++ x ≠ ')' :: y) :
    IsPrefixCode fun as : List α => tupleText (as.map f) := by
  have hnil : (tupleText (([] : List α).map f)).toList = ['(', ')'] := by simp [tupleText]
  have hcons : ∀ a as, (tupleText ((a :: as).map f)).toList
      = '(' :: ((f a).toList ++ tupleEnd f as) := by
    intro a as
    cases as with
    | nil => simp [tupleText, tupleEnd]
    | cons b bs =>
      have htext : tupleText ((a :: b :: bs).map f)
        = "(" ++ ", ".intercalate ((a :: b :: bs).map f) ++ ")" := rfl
      rw [htext, String.toList_append, String.toList_append, toList_intercalate_map_cons, tupleEnd]
      simp
  exact isPrefixCode_of_brackets hf hnil hcons (eq_of_tupleEnd_append hf) hstart

end Items

end Montage
