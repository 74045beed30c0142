import Montage.Number.Binary64
import Montage.Yaml.Fault

/-!
# The characters of a text

A text is read in pieces: the first two pieces at once, and each later one when the reading reaches
it. What is wrong with a later piece therefore does not show in a text that is given up before.
Bytes are decoded in chunks, as many as a piece needs. All line ends are read as line feeds.
-/

namespace Montage.Yaml

/-- A text, as far as it can be read. -/
structure Input where
  chars : List Char
  /-- What happens when more than these characters is asked for; none if the text ends. -/
  beyond : Option Fault

/-! ### Characters -/

/-- The characters that a text may hold: tab, line ends, and all that Unicode does not call a
control, a surrogate or one of the two last code points of the first plane. -/
def isTextChar (c : Char) : Bool :=
  c == '\t' || c == '\n' || c == '\r' || c == '\u0085'
    || (' ' ≤ c && c ≤ '~') || ('\u00a0' ≤ c && c ≤ '\uFFFD') || 0x10000 ≤ c.toNat

/-- The text with all line ends as line feeds, after the reversed text `acc`. -/
def unifyLines : List Char → List Char → List Char
  | [], acc => acc.reverse
  | '\r' :: '\n' :: cs, acc => unifyLines cs ('\n' :: acc)
  | '\r' :: cs, acc => unifyLines cs ('\n' :: acc)
  | c :: cs, acc => unifyLines cs (c :: acc)

/-- The characters that bytes encode in UTF-8 from a place on, after the reversed text `acc`, and
the place of the first byte that is no part of one. -/
def decodeFrom (bytes : ByteArray) : Nat → Nat → List Char → List Char × Nat
  | 0, place, acc => (acc.reverse, place)
  | fuel + 1, place, acc =>
    match bytes.utf8DecodeChar? place with
    | some c => decodeFrom bytes fuel (place + c.utf8Size) (c :: acc)
    | none => (acc.reverse, place)

/-! ### Pieces -/

/-- The number of characters in a piece. -/
def pieceSize : Nat := 4096

/-- A text whose characters after the first `n` cannot all be read: of these, the full pieces can
be, if there are two at least. -/
def Input.cut (chars : List Char) (n : Nat) (f : Fault) : Input :=
  let pieces := n / pieceSize
  ⟨if pieces < 2 then [] else chars.take (pieces * pieceSize), some f⟩

/-- The text up to the piece that holds a character which no text may hold. -/
def Input.checked (input : Input) : Input :=
  match input.chars.findIdx? (!isTextChar ·) with
  | some i => .cut input.chars i .malformed
  | none => input

/-! ### Chunks -/

/-- The least number of bytes that are decoded at once. -/
def chunkSize : Nat := 8192

/-- The number of bytes that are decoded next: enough for the characters that are missing to a full
piece, if they take as many bytes each as the characters of the last chunk. -/
def nextChunk (missing bytes chars : Nat) : Nat :=
  let estimate := do
    let each ← (← Magnitude.ofNat? bytes).div? chars
    each.mul? (← Magnitude.ofNat? missing)
  max chunkSize (estimate.elim 0 Magnitude.floor)

/-- The characters that the first `n` bytes encode. A carriage return at their end waits for what
follows it. -/
def decodedTo (bytes : ByteArray) (n : Nat) : List Char :=
  let (chars, _) := decodeFrom (bytes.extract 0 n) n 0 []
  unifyLines (if chars.getLast? == some '\r' then chars.dropLast else chars) []

/-- Whether bytes may be the first ones of a character, of which more follow. -/
def isIncomplete (bytes : ByteArray) : Bool :=
  [0x80, 0x90, 0xA0].any fun next =>
    ((((bytes.push next).push 0x80).push 0x80).utf8DecodeChar? 0).isSome

/-- Where the chunk begins that cannot be decoded for the bytes at `bad`, from a chunk of `size`
bytes at `start` on, in front of which there are `count` characters. -/
def badChunk (bytes : ByteArray) (bad : Nat) : Nat → Nat → Nat → Nat → Nat
  | 0, start, _, _ => start
  | fuel + 1, start, count, size =>
    let stop := min (start + size) bytes.size
    if start == stop || (bad < stop && !isIncomplete (bytes.extract bad stop)) then start
    else
      let reached := (decodedTo bytes stop).length
      let missing := pieceSize - reached % pieceSize
      badChunk bytes bad fuel stop reached (nextChunk missing (stop - start) (reached - count))

/-- The text that bytes encode. Bytes that are not UTF-8 spoil all of their chunk. -/
def Input.ofBytes (bytes : ByteArray) : Input :=
  match String.fromUTF8? bytes with
  | some text => (⟨unifyLines text.toList [], none⟩ : Input).checked
  | none =>
    let (_, bad) := decodeFrom bytes bytes.size 0 []
    let known := decodedTo bytes (badChunk bytes bad (bytes.size + 1) 0 0 chunkSize)
    (Input.cut known known.length .encoding).checked

end Montage.Yaml
