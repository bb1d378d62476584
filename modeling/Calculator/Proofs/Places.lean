import Calculator.Proofs.Tokenization
import Mathlib.Data.List.Induction

/-!
# Places of tokens

A place can be counted from the start of the source (`Location.counted`), and a scan that goes on character by
character comes to the same place (`behind_start`). It can also be taken along in bytes, from the end of one token to
the start of the next and from there to its end, over the text between the two; this fails where the bytes run backwards
or lie inside a character (`slice?_eq_some_iff`). Main statement: every token stands where counting says, its bytes are
those that a scan by longest match finds, and taking the place along from one to the next never fails
(`tokens_located`).
-/

namespace Calculator

open Token

/-! ## Places counted from scratch -/

namespace Location

/-- The place behind a text that starts the source: the lines are one more than its line feeds, the columns one more
than the characters behind the last of them. -/
def counted (front : Text) : Location where
  line := 1 + front.count '\n'
  column := 1 + (front.reverse.takeWhile (· ≠ '\n')).length
  offset := byteSize front

theorem behind_append (here : Location) (v w : Text) : here.behind (v ++ w) = (here.behind v).behind w :=
  List.foldl_append

theorem counted_concat (front : Text) (c : Char) : counted (front ++ [c]) = (counted front).after c := by
  have hoffset : byteSize (front ++ [c]) = byteSize front + c.utf8Size := byteSize_append front [c]
  by_cases hc : c = '\n'
  · subst hc
    simp [counted, after, hoffset, Nat.add_assoc]
  · simp [counted, after, hoffset, hc, Nat.add_comm]

/-- Going on character by character comes to the place that is counted from scratch. -/
theorem behind_start (front : Text) : start.behind front = counted front := by
  induction front using List.reverseRecOn with
  | nil => rfl
  | append_singleton front c ih =>
    rw [behind_append, ih, counted_concat]
    rfl

end Location

/-! ## Texts between bytes -/

/-- Cuts a text behind its first `n` bytes; none if these end inside a character, or behind the text. -/
def splitBytes? : Nat → Text → Option (Text × Text)
  | 0, text => some ([], text)
  | _ + 1, [] => none
  | n + 1, c :: rest =>
    if c.utf8Size ≤ n + 1 then (splitBytes? (n + 1 - c.utf8Size) rest).map fun (front, back) => (c :: front, back)
    else none

/-- The text from one byte to another; none if they run backwards or one of them is inside a character. -/
def slice? (source : Text) (start stop : Nat) : Option Text :=
  if start ≤ stop then
    match splitBytes? start source with
    | none => none
    | some (_, back) => (splitBytes? (stop - start) back).map Prod.fst
  else none

theorem splitBytes?_append (front back : Text) :
    splitBytes? (byteSize front) (front ++ back) = some (front, back) := by
  induction front with
  | nil => cases back <;> rfl
  | cons c front ih =>
    have hsize : byteSize (c :: front) = c.utf8Size + byteSize front := byteSize_append [c] front
    have hpos := c.utf8Size_pos
    obtain ⟨n, hn⟩ : ∃ n, byteSize (c :: front) = n + 1 := ⟨byteSize (c :: front) - 1, by omega⟩
    have hle : c.utf8Size ≤ n + 1 := by omega
    have hrest : n + 1 - c.utf8Size = byteSize front := by omega
    simp [hn, splitBytes?, hle, hrest, ih]

theorem splitBytes?_eq_some_iff {n : Nat} {text front back : Text} :
    splitBytes? n text = some (front, back) ↔ text = front ++ back ∧ byteSize front = n := by
  constructor
  · intro h
    fun_induction splitBytes? n text generalizing front with
    | case1 text =>
      cases h
      exact ⟨rfl, rfl⟩
    | case2 => cases h
    | case3 n c rest hle ih =>
      obtain ⟨⟨front, back⟩, hrest, hcut⟩ := Option.map_eq_some_iff.1 h
      cases hcut
      obtain ⟨rfl, hsize⟩ := ih hrest
      have : byteSize (c :: front) = c.utf8Size + byteSize front := byteSize_append [c] front
      exact ⟨rfl, by omega⟩
    | case4 => cases h
  · rintro ⟨rfl, rfl⟩
    exact splitBytes?_append front back

theorem slice?_append (front w back : Text) :
    slice? (front ++ w ++ back) (byteSize front) (byteSize (front ++ w)) = some w := by
  have hle : byteSize front ≤ byteSize (front ++ w) := by
    rw [byteSize_append]
    omega
  have hsize : byteSize (front ++ w) - byteSize front = byteSize w := by
    rw [byteSize_append]
    omega
  rw [slice?, if_pos hle, hsize, List.append_assoc, splitBytes?_append]
  simp [splitBytes?_append]

/-- There is a text between two bytes just if both are ends of first parts of the source, the first one not the longer
part. -/
theorem slice?_eq_some_iff {source w : Text} {start stop : Nat} :
    slice? source start stop = some w ↔
      ∃ front back, source = front ++ w ++ back ∧ byteSize front = start ∧ byteSize (front ++ w) = stop := by
  constructor
  · intro h
    rw [slice?] at h
    split at h
    · rename_i hle
      split at h
      · cases h
      · rename_i front text hfront
        obtain ⟨⟨v, back⟩, hback, rfl⟩ := Option.map_eq_some_iff.1 h
        obtain ⟨rfl, rfl⟩ := splitBytes?_eq_some_iff.1 hfront
        obtain ⟨rfl, hsize⟩ := splitBytes?_eq_some_iff.1 hback
        refine ⟨front, back, by simp, rfl, ?_⟩
        rw [byteSize_append, hsize]
        omega
    · cases h
  · rintro ⟨front, back, rfl, rfl, rfl⟩
    exact slice?_append front w back

/-! ## Extents -/

/-- The kind of a token and the bytes where it starts and ends. -/
structure Extent where
  kind : Kind
  start : Nat
  stop : Nat
deriving DecidableEq, Repr

def Token.extent (t : Token) : Extent := ⟨t.kind, t.location.offset, t.endOffset⟩

/-- The extents of the tokens that a scanner by longest match cuts off a text whose first byte is counted as `n`. -/
inductive Extents : Nat → Text → List Extent → Prop
  | done {n : Nat} : Extents n [] []
  | skip {n : Nat} {w rest : Text} {out : List Extent} (longest : Longest none w rest)
      (later : Extents (n + byteSize w) rest out) : Extents n (w ++ rest) out
  | cut {n : Nat} {kind : Kind} {w rest : Text} {out : List Extent} (longest : Longest (some kind) w rest)
      (later : Extents (n + byteSize w) rest out) : Extents n (w ++ rest) (⟨kind, n, n + byteSize w⟩ :: out)

/-- The extents in a text are those of its tokens. -/
theorem extents_iff (here : Location) {text : Text} {extents : List Extent} :
    Extents here.offset text extents ↔ extents = (tokensFrom here text).map Token.extent := by
  constructor
  · intro h
    generalize hn : here.offset = n at h
    induction h generalizing here with
    | done => rfl
    | @skip n w rest out longest _ ih =>
      rw [tokensFrom_of_longest longest]
      exact ih (here.behind w) (by rw [offset_behind, hn])
    | @cut n kind w rest out longest _ ih =>
      rw [tokensFrom_of_longest longest, ih (here.behind w) (by rw [offset_behind, hn])]
      simp [Token.extent, endOffset, hn]
  · rintro rfl
    induction here, text using longest_induction with
    | done here => exact .done
    | skip here w rest longest ih =>
      rw [offset_behind] at ih
      rw [tokensFrom_of_longest longest]
      exact .skip longest ih
    | token here kind w rest longest ih =>
      rw [offset_behind] at ih
      rw [tokensFrom_of_longest longest]
      exact .cut longest ih

/-! ## Taking the place along -/

/-- `Lexer::update_position` up to the byte `n`: the place is taken along over the text between the two. -/
def Location.advance? (source : Text) (here : Location) (n : Nat) : Option Location :=
  (slice? source here.offset n).map fun w => { here.behind w with offset := n }

/-- `Lexer::next` on the extents: the place goes along from the end of a token to the start of the next one, and from
there to its end. -/
def locate? (source : Text) (here : Location) : List Extent → Option (List Token)
  | [] => some []
  | s :: later => do
    let first ← here.advance? source s.start
    let w ← slice? source s.start s.stop
    let last ← first.advance? source s.stop
    let ts ← locate? source last later
    return ⟨s.kind, w, first⟩ :: ts

theorem advance?_append {here : Location} {front : Text} (h : here.offset = byteSize front) (w back : Text) :
    here.advance? (front ++ w ++ back) (byteSize (front ++ w)) = some (here.behind w) := by
  have hoffset : (here.behind w).offset = byteSize (front ++ w) := by rw [offset_behind, h, byteSize_append]
  rw [Location.advance?, h, slice?_append, ← hoffset]
  rfl

/-- For one token the place is taken over the blanks in front of it and then over the token. -/
theorem locate?_cons {here : Location} {front : Text} (h : here.offset = byteSize front) (gap w back : Text)
    (kind : Kind) (later : List Extent) :
    locate? (front ++ gap ++ w ++ back) here
        (⟨kind, byteSize (front ++ gap), byteSize (front ++ gap ++ w)⟩ :: later) =
      (locate? (front ++ gap ++ w ++ back) ((here.behind gap).behind w) later).map
        (⟨kind, w, here.behind gap⟩ :: ·) := by
  have hfirst : here.advance? (front ++ gap ++ w ++ back) (byteSize (front ++ gap)) = some (here.behind gap) := by
    rw [List.append_assoc (front ++ gap)]
    exact advance?_append h gap (w ++ back)
  have hbehind : (here.behind gap).offset = byteSize (front ++ gap) := by
    rw [offset_behind, h, byteSize_append]
  have hlast := advance?_append hbehind w back
  have hlexeme := slice?_append (front ++ gap) w back
  simp only [locate?, hfirst, hlast, hlexeme, Option.bind_eq_bind, Option.bind_some, Option.pure_def]
  cases locate? (front ++ gap ++ w ++ back) ((here.behind gap).behind w) later <;> rfl

/-- The extents in a text lead to its tokens, also while the place has yet to be taken over the `gap` before it. -/
theorem locate?_of_extents {n : Nat} {text : Text} {extents : List Extent} (h : Extents n text extents)
    {source : Text} {here : Location} (front gap : Text) (hsource : source = front ++ gap ++ text)
    (hhere : here.offset = byteSize front) (hn : n = byteSize (front ++ gap)) :
    locate? source here extents = some (tokensFrom (here.behind gap) text) := by
  induction h generalizing front gap here with
  | done => rfl
  | @skip n w rest out longest _ ih =>
    rw [tokensFrom_of_longest longest, ← Location.behind_append]
    refine ih front (gap ++ w) (by simp [hsource]) hhere ?_
    rw [hn, ← List.append_assoc, byteSize_append (front ++ gap)]
  | @cut n kind w rest out longest _ ih =>
    have hstop : n + byteSize w = byteSize (front ++ gap ++ w) := by rw [hn, byteSize_append (front ++ gap)]
    have hlater : locate? source ((here.behind gap).behind w) out =
        some (tokensFrom ((here.behind gap).behind w) rest) := by
      refine ih (front ++ gap ++ w) [] (by simp [hsource]) ?_ (by simpa using hstop)
      rw [offset_behind, offset_behind, hhere, byteSize_append, byteSize_append]
    rw [← List.append_assoc] at hsource
    subst hsource
    rw [tokensFrom_of_longest longest, hstop, hn, locate?_cons hhere, hlater]
    rfl

/-! ## Where tokens stand -/

theorem location_of_mem_tokensFrom {here : Location} {text : Text} {t : Token} (ht : t ∈ tokensFrom here text) :
    ∃ front back, text = front ++ t.lexeme ++ back ∧ t.location = here.behind front := by
  induction here, text using longest_induction with
  | done here => cases ht
  | skip here w rest longest ih =>
    rw [tokensFrom_of_longest longest] at ht
    obtain ⟨front, back, rfl, hplace⟩ := ih ht
    exact ⟨w ++ front, back, by simp, by rw [Location.behind_append, hplace]⟩
  | token here kind w rest longest ih =>
    rw [tokensFrom_of_longest longest] at ht
    rcases List.mem_cons.1 ht with rfl | ht
    · exact ⟨[], rest, rfl, rfl⟩
    · obtain ⟨front, back, rfl, hplace⟩ := ih ht
      exact ⟨w ++ front, back, by simp, by rw [Location.behind_append, hplace]⟩

/-- A token stands behind a first part of the source, at the place that is counted for this part, and ends behind its
lexeme. Its bytes are those that a scan by longest match finds. Along these bytes the place is taken from one token to
the next without ever running backwards or stopping inside a character, and so the tokens are found again. -/
theorem tokens_located (source : Text) :
    (∀ t ∈ tokens source, ∃ front back, source = front ++ t.lexeme ++ back ∧ t.location = .counted front ∧
      t.endOffset = byteSize (front ++ t.lexeme)) ∧
    (∀ extents, Extents 0 source extents ↔ extents = (tokens source).map Token.extent) ∧
    locate? source .start ((tokens source).map Token.extent) = some (tokens source) := by
  refine ⟨fun t ht => ?_, fun extents => extents_iff .start, ?_⟩
  · obtain ⟨front, back, hsource, hplace⟩ := location_of_mem_tokensFrom ht
    rw [Location.behind_start] at hplace
    refine ⟨front, back, hsource, hplace, ?_⟩
    rw [endOffset, hplace, byteSize_append]
    rfl
  · exact locate?_of_extents ((extents_iff .start).2 rfl) [] [] rfl rfl rfl

/-- Columns count from the line feed. -/
example : (tokens "1 +\n  2".toList).map Token.location = [⟨1, 1, 0⟩, ⟨1, 3, 2⟩, ⟨2, 3, 6⟩] := by decide

end Calculator
