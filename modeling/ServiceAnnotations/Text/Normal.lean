import ServiceAnnotations.Text.CharRange
import ServiceAnnotations.Text.Decomposition
import ServiceAnnotations.Text.MarkClass

/-! # Normal forms of texts

The same letter with a mark can be written as one character or as two. In normal form, marks stand in the
order of their classes, and everything that one character can stand for is written as that character. A Korean
syllable stands for two or three characters: a first, a middle and perhaps a last part, whose numbers give that of
the syllable. At most thirty marks follow one another: before each further one stands a joiner. -/
namespace ServiceAnnotations.Text.Normal

def firstSyllable : Nat := 0xac00
def firstLead : Nat := 0x1100
def firstVowel : Nat := 0x1161
def beforeTail : Nat := 0x11a7
def leadCount : Nat := 19
def vowelCount : Nat := 21
def tailCount : Nat := 28

def syllableParts? (n : Nat) : Option (List Nat) :=
  if firstSyllable ≤ n && n < firstSyllable + leadCount * vowelCount * tailCount then
    let index := n - firstSyllable
    let lead := firstLead + index / (vowelCount * tailCount)
    let vowel := firstVowel + index % (vowelCount * tailCount) / tailCount
    let tail := index % tailCount
    some (if tail = 0 then [lead, vowel] else [lead, vowel, beforeTail + tail])
  else none

def syllable? (a b : Nat) : Option Nat :=
  let isLead := firstLead ≤ a && a < firstLead + leadCount
  let isVowel := firstVowel ≤ b && b < firstVowel + vowelCount
  let isOpen := firstSyllable ≤ a && a < firstSyllable + leadCount * vowelCount * tailCount &&
    (a - firstSyllable) % tailCount = 0
  if isLead && isVowel then
    some (firstSyllable + ((a - firstLead) * vowelCount + (b - firstVowel)) * tailCount)
  else if isOpen && beforeTail < b && b < beforeTail + tailCount then some (a + (b - beforeTail))
  else none

/-- What a character stands for; none if it stands for itself alone. -/
def parts? (n : Nat) : Option (List Nat) :=
  match syllableParts? n with
  | some parts => some parts
  | none =>
    match (replacedChars.find? (·.1 = n)).or (replacedIdeographs.find? (·.1 = n)) with
    | some (_, a) => some [a]
    | none => ((composedChars.find? (·.1 = n)).or (dividedChars.find? (·.1 = n))).map fun (_, a, b) => [a, b]

/-- A character as the characters that it stands for in the end. -/
def decompose : Nat → Char → List Char
  | 0, c => [c]
  | fuel + 1, c =>
    if c.toNat < 0xc0 then [c]
    else match parts? c.toNat with
      | none => [c]
      | some parts => parts.flatMap fun n => decompose fuel (Char.ofNat n)

def maxDepth : Nat := 8

/-- Code points of characters that are no marks but can be joined to a character before them. -/
def joinedRanges : List (Nat × Nat) :=
  [(0x9be, 0x9be), (0x9d7, 0x9d7), (0xb3e, 0xb3e), (0xb56, 0xb57), (0xbbe, 0xbbe), (0xbd7, 0xbd7),
   (0xcc2, 0xcc2), (0xcd5, 0xcd6), (0xd3e, 0xd3e), (0xd57, 0xd57), (0xdcf, 0xdcf), (0xddf, 0xddf),
   (0x102e, 0x102e), (0x1161, 0x1175), (0x11a8, 0x11c2), (0x1b35, 0x1b35), (0x11127, 0x11127),
   (0x1133e, 0x1133e), (0x11357, 0x11357), (0x114b0, 0x114b0), (0x114ba, 0x114ba),
   (0x114bd, 0x114bd), (0x115af, 0x115af), (0x11930, 0x11930)]

def isFollower (c : Char) : Bool := markClass c != 0 || inRanges joinedRanges c.toNat

def maxMarks : Nat := 30

/-- The joiner, which is no mark and makes none of its neighbours change. -/
def joiner : Char := '\u034f'

/-- Puts a joiner before each mark that is one too many. `count` is the number of marks just before. -/
def divideMarks : (count : Nat) → List Char → List Char
  | _, [] => []
  | count, c :: rest =>
    let parts := decompose maxDepth c
    let leading := (parts.takeWhile isFollower).length
    if leading = 0 then c :: divideMarks (parts.reverse.takeWhile isFollower).length rest
    else if maxMarks < count + leading then joiner :: c :: divideMarks leading rest
    else c :: divideMarks (count + leading) rest

/-- Puts the marks that follow a character into the order of their classes, where marks of one class stay
in order. -/
def orderMarks : (marks : List Char) → List Char → List Char
  | marks, [] => sorted marks
  | marks, c :: rest =>
    if markClass c = 0 then sorted marks ++ c :: orderMarks [] rest
    else orderMarks (marks ++ [c]) rest
where
  sorted (marks : List Char) : List Char :=
    marks.mergeSort fun a b => markClass a ≤ markClass b

def composite? (a b : Char) : Option Char :=
  match syllable? a.toNat b.toNat with
  | some n => some (Char.ofNat n)
  | none =>
    (composedChars.find? fun e => e.2.1 = a.toNat && e.2.2 = b.toNat).map fun e => Char.ofNat e.1

/-- Joins characters with what follows them. `start` is the last character that is no mark, and `marks`
are those after it that could not be joined to it. A mark can only be joined if no mark of its class or a
later one stands before it. -/
def compose : (start : Char) → (marks : List Char) → List Char → List Char
  | start, marks, [] => start :: marks
  | start, marks, c :: rest =>
    let isFree := match marks.getLast? with
      | none => true
      | some last => markClass last < markClass c
    match if isFree then composite? start c else none with
    | some joined => compose joined marks rest
    | none =>
      if markClass c = 0 then start :: marks ++ compose c [] rest
      else compose start (marks ++ [c]) rest

/-- Joins characters with what follows them, where marks at the front stay as they are. -/
def composeAll (cs : List Char) : List Char :=
  match cs.dropWhile fun c => markClass c != 0 with
  | [] => cs
  | c :: rest => (cs.takeWhile fun c => markClass c != 0) ++ compose c [] rest

/-- The normal form of a text. Characters below 0x300 are in normal form. -/
def chars (cs : List Char) : List Char :=
  if cs.all (·.toNat < 0x300) then cs
  else composeAll (orderMarks [] ((divideMarks 0 cs).flatMap (decompose maxDepth)))

def text (s : String) : String := String.ofList (chars s.toList)

end ServiceAnnotations.Text.Normal
