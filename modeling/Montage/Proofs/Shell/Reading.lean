import Mathlib.Data.List.Forall2
import Mathlib.Tactic.Lemma
import Montage.Shell

/-!
# Reading shell words

How a shell cuts a text into words. Blanks end a word. Single quotes keep everything between them,
and double quotes everything but the few characters that still mean something there. A text that
ends between quotes, or has a character with a meaning of its own outside them, is not read.

Quoting is undone by reading: `quoteChars cs` is read as the one word `cs`, whatever `cs` is, and
texts with a blank between them are read as the words of the one before those of the other.
-/

namespace Montage.Shell

/-- The quotes around a place in a text. -/
inductive Quotes
  | outside
  | single
  | double
  deriving DecidableEq, Repr

/-- The characters other than blanks and quotes that mean something outside quotes. -/
def isSpecial (c : Char) : Bool :=
  c ∈ ['\n', '|', '&', ';', '<', '>', '(', ')', '$', '\x60', '\\', '*', '?', '[', '#', '~', '\x7b',
    '\x7d', '!']

/-- The characters other than the closing quote that mean something between double quotes. -/
def isExpanded (c : Char) : Bool := c ∈ ['$', '\x60', '\\']

/-- A reader of a text: the quotes around it, the word that it is in, and the words before that. -/
structure Reader where
  quotes : Quotes
  word : Option (List Char)
  before : List (List Char)
  deriving DecidableEq, Repr

namespace Reader

/-- A reader that is in no word. -/
def between (before : List (List Char)) : Reader := ⟨.outside, none, before⟩

def words (r : Reader) : List (List Char) := r.before ++ r.word.toList

/-- The reader after it has put characters to its word, or begun one, between given quotes. -/
def inside (r : Reader) (quotes : Quotes) (cs : List Char) : Reader :=
  ⟨quotes, some (r.word.getD [] ++ cs), r.before⟩

def step (r : Reader) (c : Char) : Option Reader :=
  match r.quotes with
  | .outside =>
    if c = ' ' ∨ c = '\t' then some (between r.words)
    else if c = '\'' then some (r.inside .single [])
    else if c = '"' then some (r.inside .double [])
    else if isSpecial c then none
    else some (r.inside .outside [c])
  | .single => some (if c = '\'' then r.inside .outside [] else r.inside .single [c])
  | .double =>
    if c = '"' then some (r.inside .outside [])
    else if isExpanded c then none
    else some (r.inside .double [c])

def run (r : Reader) (cs : List Char) : Option Reader := cs.foldlM step r

end Reader

def wordsOf? (cs : List Char) : Option (List (List Char)) := do
  let r ← (Reader.between []).run cs
  if r.quotes = .outside then some r.words else none

def words? (s : String) : Option (List String) := (wordsOf? s.toList).map (List.map String.ofList)

/-! ### Steps and runs -/

namespace Reader

variable {r : Reader} {q p : Quotes} {cs ds : List Char} {c : Char}

@[simp] lemma inside_inside : (r.inside q cs).inside p ds = r.inside p (cs ++ ds) := by
  simp [inside]

@[simp] lemma run_nil : r.run [] = some r := rfl

lemma run_cons : r.run (c :: cs) = (r.step c).bind (·.run cs) := rfl

/-- Text is read in two parts as in one. -/
lemma run_append : r.run (cs ++ ds) = (r.run cs).bind (·.run ds) := List.foldlM_append

/-- Outside of quotes, a blank ends a word. -/
lemma step_blank (hr : r.quotes = .outside) : r.step ' ' = some (between r.words) := by
  simp [step, hr]

lemma step_single (hr : r.quotes = .outside) : r.step '\'' = some (r.inside .single []) := by
  simp [step, hr]

lemma step_double (hr : r.quotes = .outside) : r.step '"' = some (r.inside .double []) := by
  simp [step, hr]

/-- Outside of quotes, a harmless character stands for itself. -/
lemma step_harmless (hr : r.quotes = .outside) (hc : isHarmless c) :
    r.step c = some (r.inside .outside [c]) := by
  have hne : ∀ d, isHarmless d = false → c ≠ d := by
    rintro d hd rfl
    simp [hc] at hd
  have hspecial : isSpecial c = false := by
    by_contra h
    simp only [isSpecial, List.mem_cons, List.not_mem_nil, or_false, decide_eq_true_eq,
      Bool.not_eq_false] at h
    rcases h with h | h | h | h | h | h | h | h | h | h | h | h | h | h | h | h | h | h | h <;>
      exact hne _ (by decide) h
  simp [step, hr, hne ' ' (by decide), hne '\t' (by decide), hne '\'' (by decide),
    hne '"' (by decide), hspecial]

@[simp] lemma step_inside_single_quote :
    (r.inside .single cs).step '\'' = some (r.inside .outside cs) := by
  simp [step, inside]

/-- Between single quotes, each character stands for itself. -/
lemma step_inside_single (hc : c ≠ '\'') :
    (r.inside .single cs).step c = some (r.inside .single (cs ++ [c])) := by
  simp [step, inside, hc]

@[simp] lemma step_inside_double_quote :
    (r.inside .double cs).step '"' = some (r.inside .outside cs) := by
  simp [step, inside]

/-- Between double quotes, characters that are not expanded stand for themselves. -/
lemma step_inside_double (hc : c ≠ '"') (he : isExpanded c = false) :
    (r.inside .double cs).step c = some (r.inside .double (cs ++ [c])) := by
  simp [step, inside, hc, he]

end Reader

/-! ### Parts of words -/

/-- Outside quotes, the text is read as the given characters of a word. -/
def IsPart (text cs : List Char) : Prop :=
  ∀ r : Reader, r.quotes = .outside → r.run text = some (r.inside .outside cs)

/-- Two parts side by side make up one part. -/
lemma IsPart.append {t u cs ds : List Char} (ht : IsPart t cs) (hu : IsPart u ds) :
    IsPart (t ++ u) (cs ++ ds) := by
  intro r hr
  rw [Reader.run_append, ht r hr, Option.bind_some, hu _ rfl, Reader.inside_inside]

/-- Harmless characters make up a part that stands for itself. -/
lemma isPart_of_forall_isHarmless {cs : List Char} (hne : cs ≠ [])
    (h : ∀ c ∈ cs, isHarmless c) : IsPart cs cs := by
  induction cs with
  | nil => exact absurd rfl hne
  | cons c cs ih =>
    intro r hr
    rw [Reader.run_cons, Reader.step_harmless hr (h c (by simp)), Option.bind_some]
    rcases eq_or_ne cs [] with rfl | hcs
    · rfl
    · rw [ih hcs (fun d hd => h d (by simp [hd])) _ rfl, Reader.inside_inside]
      rfl

lemma run_inside_double (r : Reader) (cs : List Char) {ds : List Char}
    (h : ∀ d ∈ ds, d ≠ '"' ∧ isExpanded d = false) :
    (r.inside .double cs).run ds = some (r.inside .double (cs ++ ds)) := by
  induction ds generalizing cs with
  | nil => simp
  | cons d ds ih =>
    obtain ⟨hd, he⟩ := h d (by simp)
    rw [Reader.run_cons, Reader.step_inside_double hd he, Option.bind_some,
      ih _ fun e hmem => h e (by simp [hmem])]
    simp

/-- Double quotes keep a text without characters that they expand. -/
lemma isPart_double {cs : List Char} (h : ∀ c ∈ cs, c ≠ '"' ∧ isExpanded c = false) :
    IsPart ('"' :: (cs ++ ['"'])) cs := by
  intro r hr
  rw [Reader.run_cons, Reader.step_double hr, Option.bind_some, Reader.run_append,
    run_inside_double r [] h, Option.bind_some, Reader.run_cons, List.nil_append,
    Reader.step_inside_double_quote]
  rfl

/-- Between single quotes, a character is read from its quoting. -/
lemma run_quoteChar (r : Reader) (cs : List Char) (c : Char) :
    (r.inside .single cs).run (quoteChar c) = some (r.inside .single (cs ++ [c])) := by
  unfold quoteChar
  split
  · next h =>
    -- the quotes are left, a quote is read between double ones, and the quotes are entered again
    subst h
    have hkept : ∀ d ∈ ['\''], d ≠ '"' ∧ isExpanded d = false :=
      List.forall_mem_singleton.2 ⟨by decide, by decide⟩
    have hpart : IsPart ['"', '\'', '"'] ['\''] := isPart_double hkept
    rw [Reader.run_cons, Reader.step_inside_single_quote, Option.bind_some,
      show ['"', '\'', '"', '\''] = ['"', '\'', '"'] ++ ['\''] from rfl, Reader.run_append,
      hpart _ rfl, Option.bind_some, Reader.run_cons, Reader.step_single rfl]
    simp
  · next h => rw [Reader.run_cons, Reader.step_inside_single h]; rfl

lemma run_flatMap_quoteChar (r : Reader) (cs ds : List Char) :
    (r.inside .single cs).run (ds.flatMap quoteChar) = some (r.inside .single (cs ++ ds)) := by
  induction ds generalizing cs with
  | nil => simp
  | cons d ds ih =>
    rw [List.flatMap_cons, Reader.run_append, run_quoteChar, Option.bind_some, ih]
    simp

/-- Quoting is undone by reading. -/
lemma isPart_quoteChars (cs : List Char) : IsPart (quoteChars cs) cs := by
  unfold quoteChars
  split
  · next h => exact isPart_of_forall_isHarmless h.1 (by simpa using h.2)
  · intro r hr
    rw [Reader.run_cons, Reader.step_single hr, Option.bind_some, Reader.run_append,
      run_flatMap_quoteChar, Option.bind_some, Reader.run_cons, List.nil_append,
      Reader.step_inside_single_quote]
    rfl

/-! ### Words -/

/-- Where a word may begin, the text is read as the given words, and it ends outside quotes. -/
def ReadsAs (text : List Char) (ws : List (List Char)) : Prop :=
  ∀ before, ∃ r, (Reader.between before).run text = some r ∧ r.quotes = .outside ∧
    r.words = before ++ ws

lemma readsAs_nil : ReadsAs [] [] := fun before => ⟨.between before, rfl, rfl, rfl⟩

/-- A part reads as one word. -/
lemma IsPart.readsAs {text cs : List Char} (h : IsPart text cs) : ReadsAs text [cs] :=
  fun before => ⟨_, h (.between before) rfl, rfl,
    by simp [Reader.inside, Reader.between, Reader.words]⟩

/-- A blank keeps the words before it apart from those after it. -/
lemma ReadsAs.append_blank {t u : List Char} {vs ws : List (List Char)} (ht : ReadsAs t vs)
    (hu : ReadsAs u ws) : ReadsAs (t ++ ' ' :: u) (vs ++ ws) := by
  intro before
  obtain ⟨r, hrun, hquotes, hwords⟩ := ht before
  obtain ⟨r', hrun', hquotes', hwords'⟩ := hu r.words
  refine ⟨r', ?_, hquotes', by rw [hwords', hwords, List.append_assoc]⟩
  rw [Reader.run_append, hrun, Option.bind_some, Reader.run_cons, Reader.step_blank hquotes,
    Option.bind_some, hrun']

/-- Texts with blanks between them read as the words of each. -/
lemma readsAs_intercalate {ts : List (List Char)} {wss : List (List (List Char))}
    (h : List.Forall₂ ReadsAs ts wss) : ReadsAs ([' '].intercalate ts) wss.flatten := by
  induction h with
  | nil => exact readsAs_nil
  | @cons t ws ts wss ht hts ih =>
    cases hts with
    | nil => simpa using ht
    | cons hu hus =>
      rw [List.intercalate_cons_cons, List.append_assoc]
      exact ht.append_blank ih

lemma readsAs_intercalate_parts {ts ws : List (List Char)} (h : List.Forall₂ IsPart ts ws) :
    ReadsAs ([' '].intercalate ts) ws := by
  have hflat : (ws.map fun w => [w]).flatten = ws := by simp [← List.flatMap_def]
  rw [← hflat]
  refine readsAs_intercalate ?_
  rw [List.forall₂_map_right_iff]
  exact h.imp fun _ _ => IsPart.readsAs

/-- A text has the words that it reads as. -/
lemma ReadsAs.wordsOf?_eq {text : List Char} {ws : List (List Char)} (h : ReadsAs text ws) :
    wordsOf? text = some ws := by
  obtain ⟨r, hrun, hquotes, hwords⟩ := h []
  simp [wordsOf?, hrun, hquotes, hwords]

end Montage.Shell
