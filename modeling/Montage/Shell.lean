/-!
# Shell words

Writing texts so that a shell reads them back as they were. A text of harmless characters stands as
it is, any other between single quotes. A few argument fragments consist of several words by
themselves and must stay as they are.
-/

namespace Montage.Shell

def isHarmless (c : Char) : Bool :=
  c.isAlphanum || c ∈ ['_', '@', '%', '+', '=', ':', ',', '.', '/', '-']

/-- A character between single quotes; a single quote itself leaves them for a while. -/
def quoteChar (c : Char) : List Char :=
  if c = '\'' then ['\'', '"', '\'', '"', '\''] else [c]

def quoteChars (cs : List Char) : List Char :=
  if cs ≠ [] ∧ cs.all isHarmless then cs
  else '\'' :: (cs.flatMap quoteChar ++ ['\''])

def quote (s : String) : String := .ofList (quoteChars s.toList)

/-! ### Fragments of several words -/

/-- What a filter fragment starts with. -/
def filterMark : List Char := ['-', 'v', 'f', ' ']

def isNumber (word : List Char) : Bool := !word.isEmpty && word.all Char.isDigit

def isAmount (word : List Char) : Bool :=
  !word.dropLast.isEmpty && word.dropLast.all (fun c => c.isDigit || c ∈ ['.', 'e', '+'])
    && word.getLast? == some 'M'

/-- Whether words are rate control flags. -/
def isRateWords : List (List Char) → Bool
  | [crf, factor, maxRate, rate, bufSize, size] =>
    crf == "-crf".toList && isNumber factor && maxRate == "-maxrate".toList && isAmount rate
      && bufSize == "-bufsize".toList && isAmount size
  | _ => false

/-- Whether a word is a stream label in brackets and double quotes. -/
def isQuotedLabel (word : List Char) : Bool :=
  match word with
  | '"' :: '[' :: rest =>
    let label := rest.takeWhile Char.isLower
    !label.isEmpty && rest.drop label.length == [']', '"']
  | _ => false

/-- Whether words map one stream label or more, and then switch frame timing off. -/
def isMapWords : List (List Char) → Bool
  | flag :: label :: rest =>
    flag == "-map".toList && isQuotedLabel label
      && (rest == ["-vsync".toList, ['0']] || isMapWords rest)
  | _ => false

/-- An argument fragment as shell words. -/
def fragmentChars (cs : List Char) : List Char :=
  if filterMark.isPrefixOf cs then filterMark ++ quoteChars (cs.drop filterMark.length)
  else if isRateWords (cs.splitOn ' ') || isMapWords (cs.splitOn ' ') then cs
  else quoteChars cs

def fragment (s : String) : String := .ofList (fragmentChars s.toList)

end Montage.Shell
