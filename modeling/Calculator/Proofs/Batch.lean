import Calculator.Session
import Calculator.Proofs.CharacterScan

/-!
# Batches and sessions

A batch takes its lines out of one text, a session is fed them one by one. The lines that a batch finds may
lack a carriage return at their end, but this is a blank, and blanks mean nothing to an evaluation. Main
statement: both give the same results and the same counts (`batch_eq_session`).
-/

namespace Calculator

/-! ## Lines of a joined text -/

/-- The text joins the lines, each of them ended by a line feed, with or without a carriage return in front of
it; the last line need not be ended. -/
inductive Joins : List Text → Text → Prop
  | nil : Joins [] []
  | last (line : Text) : Joins [line] line
  | cons {line ending text : Text} {ls : List Text} (ends : ending = ['\n'] ∨ ending = ['\r', '\n'])
      (later : Joins ls text) : Joins (line :: ls) (line ++ ending ++ text)

theorem lines_cons {c : Char} (hc : c ≠ '\n') {rest : Text} (h : c = '\r' → rest.head? ≠ some '\n') :
    lines (c :: rest) = joinWord c (lines rest) := by
  rw [lines]
  · rintro r rfl rfl
    exact h rfl rfl
  · exact hc

/-- A text without line feeds is put in front of the first line of what follows. -/
theorem lines_append {line rest : Text} (hline : '\n' ∉ line)
    (h : line.getLast? = some '\r' → rest.head? ≠ some '\n') :
    lines (line ++ rest) = line.foldr joinWord (lines rest) := by
  induction line with
  | nil => rfl
  | cons c line ih =>
    simp only [List.mem_cons, not_or] at hline
    rw [List.cons_append, List.foldr_cons]
    cases line with
    | nil => exact lines_cons (Ne.symm hline.1) fun hc => h (by rw [hc]; rfl)
    | cons d line =>
      have hd : (d :: line ++ rest).head? ≠ some '\n' := by
        rintro hd
        cases hd
        exact hline.2 (by simp)
      rw [lines_cons (Ne.symm hline.1) fun _ => hd, ih hline.2 (by rwa [List.getLast?_cons_cons] at h)]

theorem foldr_joinWord_nil_cons (line : Text) (later : List Text) :
    line.foldr joinWord ([] :: later) = line :: later := by
  induction line with
  | nil => rfl
  | cons c line ih => rw [List.foldr_cons, ih, joinWord]

theorem foldr_joinWord_nil {line : Text} (h : line ≠ []) : line.foldr joinWord [] = [line] := by
  induction line with
  | nil => exact absurd rfl h
  | cons c line ih =>
    cases line with
    | nil => rfl
    | cons d line => rw [List.foldr_cons, ih (List.cons_ne_nil d line), joinWord]

/-- A line that is not ended is found as it is, unless it is empty. -/
theorem lines_of_not_mem {line : Text} (hline : '\n' ∉ line) (hne : line ≠ []) : lines line = [line] := by
  have happend := @lines_append line [] hline (by simp)
  rw [List.append_nil, lines, foldr_joinWord_nil hne] at happend
  exact happend

/-- A line that is ended is found again, but for a carriage return of its own at its end. -/
theorem exists_lines_append {line ending : Text} (hline : '\n' ∉ line)
    (ends : ending = ['\n'] ∨ ending = ['\r', '\n']) (text : Text) :
    ∃ found, stripBlanks found = stripBlanks line ∧ lines (line ++ ending ++ text) = found :: lines text := by
  have hcrlf {front : Text} (hfront : '\n' ∉ front) : lines (front ++ '\r' :: '\n' :: text) = front :: lines text := by
    rw [lines_append hfront (by simp), lines, foldr_joinWord_nil_cons]
  rcases ends with rfl | rfl
  · by_cases hcr : line.getLast? = some '\r'
    · -- the carriage return is the line's, but it is taken for a part of the ending
      obtain ⟨init, rfl⟩ := List.getLast?_eq_some_iff.1 hcr
      have hinit : '\n' ∉ init := fun hmem => hline (by simp [hmem])
      have hblank : isBlank '\r' = true := by decide
      refine ⟨init, by simp [stripBlanks, hblank], ?_⟩
      rw [← hcrlf hinit]
      simp
    · refine ⟨line, rfl, ?_⟩
      rw [List.append_assoc, List.singleton_append, lines_append hline fun h => absurd h hcr, lines,
        foldr_joinWord_nil_cons]
  · refine ⟨line, rfl, ?_⟩
    rw [← hcrlf hline]
    simp

/-- Blanks apart, the expressions of a joined text are its lines that are not blank. -/
theorem map_stripBlanks_expressions {ls : List Text} {text : Text} (h : Joins ls text) (hls : ∀ l ∈ ls, '\n' ∉ l) :
    (expressions text).map stripBlanks = (ls.filter (!isBlankText ·)).map stripBlanks := by
  induction h with
  | nil => rfl
  | last line =>
    by_cases hne : line = []
    · subst hne
      rfl
    · rw [expressions, lines_of_not_mem (hls line (by simp)) hne]
  | @cons line ending text ls ends later ih =>
    obtain ⟨found, hfound, hlines⟩ := exists_lines_append (hls line (by simp)) ends text
    have hrest := ih fun l hl => hls l (by simp [hl])
    have hblank : isBlankText found = isBlankText line := by
      rw [Bool.eq_iff_iff, isBlankText_iff_stripBlanks, isBlankText_iff_stripBlanks, hfound]
    rw [expressions] at hrest ⊢
    rw [hlines, List.filter_cons, List.filter_cons, hblank]
    split
    · rw [List.map_cons, List.map_cons, hfound, hrest]
    · exact hrest

/-! ## Evaluations of lines -/

theorem evaluate_stripBlanks (line : Text) : evaluate (stripBlanks line) = evaluate line :=
  evaluate_congr (by simp [stripBlanks])

theorem map_evaluate_congr {ls ms : List Text} (h : ls.map stripBlanks = ms.map stripBlanks) :
    ls.map evaluate = ms.map evaluate := by
  have heval : evaluate ∘ stripBlanks = evaluate := funext evaluate_stripBlanks
  have hmap := congrArg (List.map evaluate) h
  rwa [List.map_map, List.map_map, heval] at hmap

theorem map_evaluate_expressions {ls : List Text} {text : Text} (h : Joins ls text) (hls : ∀ l ∈ ls, '\n' ∉ l) :
    (expressions text).map evaluate = (ls.filter (!isBlankText ·)).map evaluate :=
  map_evaluate_congr (map_stripBlanks_expressions h hls)

theorem countP_isInvalid (ls : List Text) : ls.countP isInvalid = (ls.map evaluate).countP (!·.isOk) := by
  rw [List.countP_map]
  rfl

/-! ## Sessions -/

namespace Session

/-- A line that does not end the session is counted, and answered with its result. -/
theorem count_of_not_isExit {line : Text} (h : isExit line = false) (s : Session) :
    s.count line = ⟨s.evaluated + 1, s.failed + (isInvalid line).toNat⟩ := by
  cases hinvalid : isInvalid line <;> simp [count, h, hinvalid]

theorem foldl_count {ls : List Text} (h : ∀ l ∈ ls, isExit l = false) (s : Session) :
    ls.foldl count s = ⟨s.evaluated + ls.length, s.failed + ls.countP isInvalid⟩ := by
  induction ls generalizing s with
  | nil => rfl
  | cons l ls ih =>
    rw [List.foldl_cons, count_of_not_isExit (h l (by simp)), ih fun m hm => h m (by simp [hm])]
    cases hinvalid : isInvalid l <;> simp [hinvalid] <;> omega

end Session

/-- A batch and a session, one given the lines joined to a text and the other those that are not blank one by one:
the batch shows the first line of each answer, and as many lines as the session has evaluated; and both count the
same lines as failed. -/
theorem batch_eq_session {ls : List Text} {text : Text} (h : Joins ls text)
    (hls : ∀ l ∈ ls, '\n' ∉ l ∧ Session.isExit l = false) :
    (Batch.ofText text).out.map some =
      (ls.filter (!isBlankText ·)).map (fun l => (Session.reply l).out.head?) ∧
    (Batch.ofText text).failed = ((ls.filter (!isBlankText ·)).foldl Session.count {}).failed ∧
    (Batch.ofText text).out.length = ((ls.filter (!isBlankText ·)).foldl Session.count {}).evaluated := by
  have hexit : ∀ l ∈ ls.filter (!isBlankText ·), Session.isExit l = false := fun l hl =>
    (hls l (List.mem_filter.1 hl).1).2
  have heval := map_evaluate_expressions h fun l hl => (hls l hl).1
  have hout : (Batch.ofText text).out = (ls.filter (!isBlankText ·)).map (render ∘ evaluate) := by
    rw [Batch.ofText, ← List.map_map, heval, List.map_map]
  have hfailed : (Batch.ofText text).failed = (ls.filter (!isBlankText ·)).countP isInvalid := by
    rw [Batch.ofText, countP_isInvalid, countP_isInvalid, heval]
  refine ⟨?_, ?_, ?_⟩
  · rw [hout, List.map_map]
    refine List.map_congr_left fun l hl => ?_
    simp [Session.reply, hexit l hl]
  · rw [Session.foldl_count hexit, hfailed]
    exact (Nat.zero_add _).symm
  · rw [Session.foldl_count hexit, hout, List.length_map, Nat.zero_add]

/-- `1+1` with a carriage return at its end, a blank line and `2*`, which is not ended. -/
theorem batch_eq_session_mixed :
    Joins [['1', '+', '1', '\r'], [' '], ['2', '*']]
      ['1', '+', '1', '\r', '\n', ' ', '\r', '\n', '2', '*'] ∧
    (Batch.ofText ['1', '+', '1', '\r', '\n', ' ', '\r', '\n', '2', '*']).failed = 1 ∧
    (Batch.ofText ['1', '+', '1', '\r', '\n', ' ', '\r', '\n', '2', '*']).out.length = 2 := by
  have h : Joins [['1', '+', '1', '\r'], [' '], ['2', '*']]
      ['1', '+', '1', '\r', '\n', ' ', '\r', '\n', '2', '*'] :=
    @Joins.cons ['1', '+', '1', '\r'] _ _ _ (.inl rfl) (@Joins.cons [' '] _ _ _ (.inr rfl) (.last ['2', '*']))
  obtain ⟨-, hfailed, hlength⟩ := batch_eq_session h (by decide)
  exact ⟨h, hfailed.trans rfl, hlength.trans rfl⟩

end Calculator
