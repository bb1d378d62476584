import Calculator.Text.Ranges

/-!
# Texts and their blank characters

A text is a list of characters. Blank characters, those with the Unicode property White_Space,
separate tokens and words and carry no meaning of their own: `words` cuts a text at its blanks and
`stripBlanks` takes them out. `lines` and `pieces` cut it at other marks.
-/

namespace Calculator

abbrev Text := List Char

/-- The number of bytes of a text in UTF-8. -/
def byteSize : Text → Nat
  | [] => 0
  | c :: rest => c.utf8Size + byteSize rest

/-! ## Blank characters -/

def blankRanges : Ranges :=
  [(0x09, 0x0D), (0x20, 0x20), (0x85, 0x85), (0xA0, 0xA0), (0x1680, 0x1680), (0x2000, 0x200A),
    (0x2028, 0x2029), (0x202F, 0x202F), (0x205F, 0x205F), (0x3000, 0x3000)]

/-- `char::is_whitespace`. -/
def isBlank (c : Char) : Bool := blankRanges.covers c.toNat

theorem isOrdered_blankRanges : blankRanges.isOrdered = true := by decide

/-- A text is blank if it holds nothing but blanks; the empty text is. -/
def isBlankText (text : Text) : Bool := text.all isBlank

def stripBlanks (text : Text) : Text := text.filter (!isBlank ·)

/-! ## Words -/

/-- Puts a character in front of the first word, which starts right behind it. -/
def joinWord (c : Char) : List Text → List Text
  | [] => [[c]]
  | word :: later => (c :: word) :: later

/-- `split_whitespace`: the longest runs without a blank, in order. -/
def words : Text → List Text
  | [] => []
  | c :: rest =>
    if isBlank c then words rest
    else if rest.head?.all isBlank then [c] :: words rest
    else joinWord c (words rest)

theorem flatten_joinWord (c : Char) (ws : List Text) : (joinWord c ws).flatten = c :: ws.flatten := by
  cases ws <;> rfl

@[simp] theorem words_nil : words [] = [] := rfl

theorem words_blank {c : Char} (h : isBlank c = true) (rest : Text) : words (c :: rest) = words rest := by
  simp [words, h]

theorem words_eq_nil_iff (text : Text) : words text = [] ↔ isBlankText text = true := by
  induction text with
  | nil => simp [isBlankText]
  | cons c rest ih =>
    by_cases h : isBlank c
    · simpa [words, h, isBlankText] using ih
    · cases hw : words rest <;> by_cases hr : rest.head?.all isBlank <;> simp [words, joinWord, isBlankText, h, hw, hr]

/-! ## Lines and other pieces -/

/-- `str::lines`. A line ends at a line feed, with one carriage return right before it taken along; the last
line need not end. -/
def lines : Text → List Text
  | [] => []
  | '\r' :: '\n' :: rest => [] :: lines rest
  | '\n' :: rest => [] :: lines rest
  | c :: rest => joinWord c (lines rest)

/-- The pieces of a text between the marks, empty ones included. -/
def pieces (mark : Char) : Text → List Text
  | [] => [[]]
  | c :: rest => if c = mark then [] :: pieces mark rest else joinWord c (pieces mark rest)

/-- Every line ended by a line feed. -/
def printed (ls : List Text) : Text := ls.flatMap (· ++ ['\n'])

end Calculator
