import Calculator.Text.Blank
import Calculator.Text.Joining

/-!
# Clusters

A cluster is what a reader takes for one character. `clusters` cuts a text into them; nothing is lost.
A backspace in a line takes back the cluster before it, and a line without backspaces stays as it is
(`erased_of_not_mem`).
-/

namespace Calculator

/-! ## Where a cluster goes on -/

/-- What the characters of a cluster so far say about its next one. -/
structure ClusterEnd where
  last : Joining := .control
  /-- A picture and its extensions stand at the end. -/
  picture : Bool := false
  /-- They and a joiner stand at the end. -/
  bridged : Bool := false
  /-- Half a flag stands at the end. -/
  halfFlag : Bool := false
  /-- A consonant and its marks stand at the end. -/
  consonant : Bool := false
  /-- One of these marks is a linker. -/
  linked : Bool := false
deriving DecidableEq, Repr

namespace ClusterEnd

/-- A mark behind a consonant that leaves it open to be linked. -/
def isTransparent (c : Char) : Bool :=
  (Joining.ofChar c == .extending || Joining.ofChar c == .joiner) && c != '\u200C'

def push (e : ClusterEnd) (c : Char) : ClusterEnd where
  last := .ofChar c
  picture := isPicture c || e.picture && Joining.ofChar c == .extending
  bridged := e.picture && Joining.ofChar c == .joiner
  halfFlag := Joining.ofChar c == .regional && !e.halfFlag
  consonant := isConsonant c || e.consonant && isTransparent c
  linked := e.consonant && isTransparent c && (e.linked || isLinker c)

def joins (e : ClusterEnd) (c : Char) : Bool :=
  match e.last, Joining.ofChar c with
  | .carriageReturn, .lineFeed => true
  | .carriageReturn, _ | .lineFeed, _ | .control, _ => false
  | _, .carriageReturn | _, .lineFeed | _, .control => false
  | _, .extending | _, .joiner | _, .spacing | .prepended, _ => true
  | .leading, .leading | .leading, .vowel | .leading, .openSyllable | .leading, .closedSyllable => true
  | .openSyllable, .vowel | .openSyllable, .trailing | .vowel, .vowel | .vowel, .trailing => true
  | .closedSyllable, .trailing | .trailing, .trailing => true
  | .regional, .regional => e.halfFlag
  | _, _ => e.linked && isConsonant c || e.bridged && isPicture c

end ClusterEnd

/-! ## Clusters of a text -/

/-- The clusters of a text that goes on behind the characters of a cluster. -/
def clustersAfter (e : ClusterEnd) : Text → List Text
  | [] => []
  | c :: rest =>
    if rest.head?.any (e.push c).joins then joinWord c (clustersAfter (e.push c) rest)
    else [c] :: clustersAfter {} rest

def clusters (text : Text) : List Text := clustersAfter {} text

theorem flatten_clustersAfter (e : ClusterEnd) (text : Text) : (clustersAfter e text).flatten = text := by
  induction text generalizing e with
  | nil => rfl
  | cons c rest ih =>
    unfold clustersAfter
    split
    · rw [flatten_joinWord, ih]
    · rw [List.flatten_cons, ih, List.singleton_append]

@[simp] theorem flatten_clusters (text : Text) : (clusters text).flatten = text := flatten_clustersAfter {} text

/-! ## Erased characters -/

/-- A line in the making: its characters, the latest first, and the sizes of its clusters in bytes. A
size is kept in one byte. -/
structure Draft where
  kept : Text := []
  sizes : List Nat := []
deriving DecidableEq, Repr

namespace Draft

/-- A text without the characters in front that hold its first `n` bytes. -/
def dropBytes (n : Nat) : Text → Text
  | [] => []
  | c :: rest => if n = 0 then c :: rest else dropBytes (n - c.utf8Size) rest

/-- A cluster is added; a backspace takes the latest one back, if there is one. -/
def enter (d : Draft) (cluster : Text) : Draft :=
  if cluster = ['\x08'] then
    match d.sizes with
    | [] => d
    | size :: sizes => ⟨dropBytes size d.kept, sizes⟩
  else ⟨cluster.reverse ++ d.kept, byteSize cluster % 256 :: d.sizes⟩

theorem kept_foldl_enter {typed : List Text} (h : ['\x08'] ∉ typed) (d : Draft) :
    (typed.foldl enter d).kept = typed.flatten.reverse ++ d.kept := by
  induction typed generalizing d with
  | nil => rfl
  | cons cluster later ih =>
    simp only [List.mem_cons, not_or] at h
    rw [List.foldl_cons, ih h.2, enter, if_neg (Ne.symm h.1)]
    simp

end Draft

/-- The line that is left when every backspace has done its work. -/
def erased (line : Text) : Text := ((clusters line).foldl Draft.enter {}).kept.reverse

theorem erased_of_not_mem {line : Text} (h : '\x08' ∉ line) : erased line = line := by
  have free : ['\x08'] ∉ clusters line := fun hm =>
    h (flatten_clusters line ▸ List.mem_flatten.2 ⟨_, hm, List.mem_singleton.2 rfl⟩)
  rw [erased, Draft.kept_foldl_enter free]
  simp

end Calculator
