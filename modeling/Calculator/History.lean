import Calculator.Text.Blank

/-!
# The history of an interactive calculator

The latest hundred lines, none equal to the one before it. The history file starts with a mark and has
one entry a line, in which a backslash and a line feed are written with a backslash in front. A file
without the mark holds plain lines.
-/

namespace Calculator

/-- The entries, the oldest first, and whether one was added since they were last read or written. -/
structure History where
  entries : List Text := []
  changed : Bool := false
deriving DecidableEq, Repr

namespace History

def mark : Text := "#V2".toList

def most : Nat := 100

/-- Adds a line, unless it is empty or equal to the latest entry; the oldest entry makes room. -/
def add (h : History) (line : Text) : History :=
  if line = [] ∨ h.entries.getLast? = some line then h
  else ⟨(h.entries ++ [line]).drop (h.entries.length + 1 - most), true⟩

/-! ## The file -/

/-- How an entry is written. -/
def encode (entry : Text) : Text :=
  entry.flatMap fun c => if c = '\\' then ['\\', '\\'] else if c = '\n' then ['\\', 'n'] else [c]

/-- The entry that is written like this; a backslash before anything else is refused. -/
def decode? : Text → Option Text
  | [] => some []
  | '\\' :: '\\' :: rest => (decode? rest).map ('\\' :: ·)
  | '\\' :: 'n' :: rest => (decode? rest).map ('\n' :: ·)
  | c :: rest => if c = '\\' then none else (decode? rest).map (c :: ·)

theorem decode?_encode (entry : Text) : decode? (encode entry) = some entry := by
  induction entry with
  | nil => rfl
  | cons c rest ih =>
    rw [encode, List.flatMap_cons, ← encode]
    by_cases hb : c = '\\'
    · simp [hb, decode?, ih]
    · by_cases hn : c = '\n' <;> simp [hb, hn, decode?, ih]

def fileText (h : History) : Text := printed (mark :: h.entries.map encode)

/-- The history that a file holds. A line that cannot be decoded is an entry as it stands. -/
def ofFile (content : Text) : History :=
  let found := match lines content with
    | [] => []
    | first :: later =>
      if first = mark then later.map fun line => (decode? line).getD line else first :: later
  ⟨(found.foldl add {}).entries, false⟩

end History

end Calculator
