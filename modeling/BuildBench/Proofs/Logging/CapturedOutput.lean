import Mathlib.Data.List.DropRight
import BuildBench.Proofs.Logging.Setups
import BuildBench.Text.Pieces

/-!
# Captured output in the log

What two streams of a process said is completed to whole lines, put together, stripped of line feeds
at its end and cut at its line ends again. If a line feed is the only character that ends a line
there, all this comes to the lines of the first stream, then those of the second one, without the
empty ones at the very end: a text is told by its lines with a line feed behind each, and both ways of
completing and cutting it go by them.

Each of these lines is one record behind the gutter, for whoever listens.
-/

namespace BuildBench

open BuildBench.Action

/-! ## Lines that line feeds end -/

namespace Text

/-- A line feed is the only character of a text that ends a line. -/
def OnlyLineFeeds (cs : List Char) : Prop := ∀ c ∈ cs, isLineBreak c = true → c = '\n'

instance (cs : List Char) : Decidable (OnlyLineFeeds cs) :=
  List.decidableBAll (fun c => isLineBreak c = true → c = '\n') cs

/-- The lines of a text that line feeds end: the pieces between these, without an empty one behind the
last of them. -/
def fedLines (cs : List Char) : List (List Char) :=
  if (pieces '\n' cs).getLast? = some [] then (pieces '\n' cs).dropLast else pieces '\n' cs

/-- Lines with a line feed behind each. -/
def ended (lines : List (List Char)) : List Char := lines.flatMap (· ++ ['\n'])

variable {cs line : List Char} {lines : List (List Char)}

/-- It is put together line by line. -/
theorem ended_append (lines more : List (List Char)) :
    ended (lines ++ more) = ended lines ++ ended more := List.flatMap_append

/-- The last line is ended like the others. -/
theorem ended_concat (lines : List (List Char)) (line : List Char) :
    ended (lines ++ [line]) = ended lines ++ line ++ ['\n'] := by
  rw [ended_append, List.append_assoc]
  exact congrArg _ (List.append_nil _)

/-- The pieces of a text are some lines with a line feed behind each, and what is behind the last. -/
theorem exists_pieces (cs : List Char) :
    ∃ whole rest, pieces '\n' cs = whole ++ [rest] ∧ cs = ended whole ++ rest := by
  induction cs with
  | nil => exact ⟨[], [], rfl, rfl⟩
  | cons c more ih =>
    obtain ⟨whole, rest, cut, rfl⟩ := ih
    rw [pieces, cut]
    split
    · next feed => exact ⟨[] :: whole, rest, rfl, by rw [feed]; rfl⟩
    · cases whole with
      | nil => exact ⟨[], c :: rest, rfl, rfl⟩
      | cons line others => exact ⟨(c :: line) :: others, rest, rfl, rfl⟩

/-- The piece behind the last line feed counts only when it is not empty. -/
theorem fedLines_eq {whole : List (List Char)} {rest : List Char}
    (cut : pieces '\n' cs = whole ++ [rest]) :
    fedLines cs = if rest = [] then whole else whole ++ [rest] := by
  simp [fedLines, cut]

/-- A piece between line feeds has none. -/
theorem not_mem_fedLines (among : line ∈ fedLines cs) : '\n' ∉ line := by
  unfold fedLines at among
  split at among
  · exact not_mem_of_mem_pieces (List.dropLast_subset _ among)
  · exact not_mem_of_mem_pieces among

/-- A line is a piece of the text. -/
theorem subset_of_mem_fedLines (among : line ∈ fedLines cs) : line ⊆ cs := by
  obtain ⟨whole, rest, cut, told⟩ := exists_pieces cs
  have piece : line ∈ whole ∨ line = rest := by
    rw [fedLines_eq cut] at among
    split at among
    · exact .inl among
    · simpa using among
  rw [told]
  rcases piece with before | rfl
  · intro c inside
    exact List.mem_append_left _ (List.mem_flatMap.mpr ⟨line, before, List.mem_append_left _ inside⟩)
  · exact List.subset_append_right _ _

/-- Completed to whole lines, a text is its lines with a line feed behind each. -/
theorem toList_endLine (s : String) : (endLine s).toList = ended (fedLines s.toList) := by
  obtain ⟨whole, rest, cut, told⟩ := exists_pieces s.toList
  rw [fedLines_eq cut]
  split
  · next nothing =>
    rw [nothing, List.append_nil] at told
    have complete : (s.isEmpty || s.toList.getLast? == some '\n') = true := by
      rcases List.eq_nil_or_concat whole with rfl | ⟨front, line, rfl⟩
      · simp [String.toList_eq_nil_iff.mp told]
      · simp [told, List.concat_eq_append, ended_concat]
    rw [endLine, if_pos complete, told]
  · next left =>
    have piece : rest ∈ pieces '\n' s.toList := by simp [cut]
    have plain := not_mem_of_mem_pieces piece
    have incomplete : ¬ (s.isEmpty || s.toList.getLast? == some '\n') = true := by
      have last : s.toList.getLast? = some (rest.getLast left) := by
        rw [told, List.getLast?_append_of_ne_nil _ left, List.getLast?_eq_some_getLast]
      have other : rest.getLast left ≠ '\n' := fun same => plain (same ▸ List.getLast_mem left)
      have filled : s ≠ "" := by
        rintro rfl
        cases last
      simp [last, other, filled]
    rw [endLine, if_neg incomplete, String.toList_append, told, ended_concat]
    rfl

/-! ## Cutting at line ends -/

/-- Characters that end no line. -/
def IsPlain (line : List Char) : Prop := ∀ c ∈ line, isLineBreak c = false

instance (line : List Char) : Decidable (IsPlain line) :=
  List.decidableBAll (isLineBreak · = false) line

/-- The line has characters of the text only, and its line feeds have ended lines. -/
theorem isPlain_of_fedLines (only : OnlyLineFeeds cs) (among : line ∈ fedLines cs) :
    IsPlain line := by
  intro c inside
  by_contra breaks
  have feed : c = '\n' := only c (subset_of_mem_fedLines among inside) (by simpa using breaks)
  exact not_mem_fedLines among (feed ▸ inside)

/-- A character that is no carriage return is told a line break or read. -/
theorem linesFrom_cons {c : Char} (other : c ≠ '\r') (read rest : List Char) :
    linesFrom read (c :: rest) =
      if isLineBreak c then read.reverse :: linesFrom [] rest else linesFrom (c :: read) rest := by
  rw [linesFrom]
  rintro _ rfl
  exact absurd rfl other

/-- A carriage return is a line break. -/
theorem IsPlain.not_return {c : Char} (plain : IsPlain (c :: line)) : c ≠ '\r' := by
  rintro rfl
  exact absurd (plain '\r' (List.mem_cons_self ..)) (by decide)

/-- A line up to its line feed is read as one. -/
theorem linesFrom_feed (plain : IsPlain line) (read rest : List Char) :
    linesFrom read (line ++ '\n' :: rest) = (read.reverse ++ line) :: linesFrom [] rest := by
  induction line generalizing read with
  | nil =>
    rw [List.nil_append, linesFrom_cons (by decide), if_pos (by decide), List.append_nil]
  | cons c more ih =>
    obtain ⟨here, others⟩ := List.forall_mem_cons.mp plain
    rw [List.cons_append, linesFrom_cons plain.not_return, here, if_neg Bool.false_ne_true,
      ih others, List.reverse_cons, List.append_assoc, List.singleton_append]

/-- What is left behind the last line feed is a line if it is not empty. -/
theorem linesFrom_rest (plain : IsPlain line) (read : List Char) (some : read.reverse ++ line ≠ []) :
    linesFrom read line = [read.reverse ++ line] := by
  induction line generalizing read with
  | nil =>
    have unread : read.isEmpty = false := by simpa using some
    rw [linesFrom, unread, if_neg Bool.false_ne_true, List.append_nil]
  | cons c more ih =>
    obtain ⟨here, others⟩ := List.forall_mem_cons.mp plain
    rw [linesFrom_cons plain.not_return, here, if_neg Bool.false_ne_true, ih others _ (by simp),
      List.reverse_cons, List.append_assoc, List.singleton_append]

/-- By induction on the lines: each is read up to its line feed and then told. -/
theorem linesFrom_ended (plain : ∀ line ∈ lines, IsPlain line) (rest : List Char) :
    linesFrom [] (ended lines ++ rest) = lines ++ linesFrom [] rest := by
  induction lines with
  | nil => rfl
  | cons line more ih =>
    obtain ⟨here, others⟩ := List.forall_mem_cons.mp plain
    have apart : ended (line :: more) ++ rest = line ++ '\n' :: (ended more ++ rest) := by
      simp [ended]
    rw [apart, linesFrom_feed here, ih others]
    rfl

/-- Stripped of line feeds at its end and cut again, a text of whole lines is its lines without the
empty ones at the end. -/
theorem linesFrom_stripped (plain : ∀ line ∈ lines, IsPlain line) :
    linesFrom [] (dropEndWhile (· == '\n') (ended lines)) = lines.rdropWhile List.isEmpty := by
  -- From the end: an empty line goes with its line feed, and any other one keeps what is before it.
  induction lines using List.reverseRecOn with
  | nil => rfl
  | append_singleton lines line ih =>
    obtain ⟨before, last⟩ := List.forall_mem_append.mp plain
    have here : IsPlain line := last line (List.mem_singleton_self line)
    have stripped : dropEndWhile (· == '\n') (ended (lines ++ [line])) =
        (ended lines ++ line).rdropWhile (· == '\n') := by
      rw [ended_concat]
      exact List.rdropWhile_concat_pos _ _ _ rfl
    rw [stripped]
    rcases List.eq_nil_or_concat line with rfl | ⟨front, c, rfl⟩
    · rw [List.append_nil, List.rdropWhile_concat_pos _ _ _ rfl]
      exact ih before
    · rw [List.concat_eq_append] at here ⊢
      have other : ¬ (c == '\n') = true := fun feed =>
        absurd (here c (by simp)) (by rw [beq_iff_eq.mp feed]; decide)
      rw [← List.append_assoc, List.rdropWhile_concat_neg (· == '\n') _ c other, List.append_assoc,
        linesFrom_ended before, linesFrom_rest here [] (by simp),
        List.rdropWhile_concat_neg _ _ _ (by simp)]
      rfl

end Text

/-! ## Lines of captured output -/

/-- The lines of a stream. One that was not captured has none. -/
def streamLines (stream : Option String) : List String :=
  (Text.fedLines (stream.getD "").toList).map String.ofList

/-- The lines of two streams, one after the other, without the empty ones at the very end. -/
def capturedLines (first second : Option String) : List String :=
  (streamLines first ++ streamLines second).rdropWhile (· == "")

/-- The record of a line of captured output. -/
def lineRecord (level : Level) (part line : String) : Record :=
  ⟨level, sourceName part, outputGutter ++ line⟩

section Captured

variable {first second : Option String} (onlyFirst : Text.OnlyLineFeeds (first.getD "").toList)
  (onlySecond : Text.OnlyLineFeeds (second.getD "").toList)

/-- Both are the lines of the one stream and then those of the other, without the empty ones at the
end. -/
theorem capturedLines_eq (first second : Option String) :
    capturedLines first second =
      ((Text.fedLines (first.getD "").toList ++ Text.fedLines (second.getD "").toList).rdropWhile
        List.isEmpty).map String.ofList := by
  have empty : (· == "") ∘ String.ofList = List.isEmpty := by
    funext line
    cases line <;> simp
  rw [capturedLines, streamLines, streamLines, ← List.map_append, List.rdropWhile, List.rdropWhile,
    ← List.map_reverse, List.dropWhile_map, empty, List.map_reverse]

/-- The lines of two streams are the captured ones and some empty ones. -/
theorem exists_blanks (first second : Option String) :
    ∃ blanks, streamLines first ++ streamLines second =
      capturedLines first second ++ List.replicate blanks "" := by
  have apart : capturedLines first second ++
      (streamLines first ++ streamLines second).rtakeWhile (· == "") =
        streamLines first ++ streamLines second := List.rdropWhile_append_rtakeWhile
  refine ⟨_, apart.symm.trans (congrArg _ (List.eq_replicate_of_mem fun line among => ?_))⟩
  simpa using List.mem_rtakeWhile_imp among

/-- The empty lines at the end have been dropped. -/
theorem getLast?_capturedLines (first second : Option String) :
    (capturedLines first second).getLast? ≠ some "" := by
  intro blank
  have some : capturedLines first second ≠ [] := by
    rintro none
    rw [none] at blank
    cases blank
  have last := List.rdropWhile_last_not (· == "") _ some
  rw [List.getLast?_eq_some_getLast some, Option.some.injEq] at blank
  exact last (beq_iff_eq.mpr blank)

include onlyFirst onlySecond

/-- It is a line of one of the two texts. -/
theorem isPlain_of_captured {line : List Char}
    (among : line ∈ Text.fedLines (first.getD "").toList ++ Text.fedLines (second.getD "").toList) :
    Text.IsPlain line :=
  (List.mem_append.mp among).elim (Text.isPlain_of_fedLines onlyFirst)
    (Text.isPlain_of_fedLines onlySecond)

/-- No record of captured output has a line end in it. -/
theorem isPlain_lineRecord {line : String} (among : line ∈ capturedLines first second)
    (level : Level) (part : String) : Text.IsPlain (lineRecord level part line).text.toList := by
  rw [capturedLines_eq] at among
  obtain ⟨cs, kept, rfl⟩ := List.mem_map.mp among
  have plain := isPlain_of_captured onlyFirst onlySecond ((List.rdropWhile_prefix _ _).subset kept)
  intro c inside
  rw [lineRecord, String.toList_append, String.toList_ofList] at inside
  rcases List.mem_append.mp inside with gutter | own
  · exact (by decide : Text.IsPlain outputGutter.toList) c gutter
  · exact plain c own

/-- Captured output is recorded by its lines. -/
theorem outputLines_joinCaptured :
    outputLines (Text.joinCaptured first second) =
      (capturedLines first second).map (outputGutter ++ ·) := by
  have ended : (Text.joinCaptured first second).toList =
      Text.ended (Text.fedLines (first.getD "").toList ++ Text.fedLines (second.getD "").toList) := by
    rw [Text.joinCaptured, String.toList_append, Text.toList_endLine, Text.toList_endLine,
      Text.ended_append]
  rw [outputLines, Text.lines, Text.stripFinalNewlines, String.toList_ofList, ended,
    Text.linesFrom_stripped fun _ => isPlain_of_captured onlyFirst onlySecond, capturedLines_eq]

/-- One record is made for each line, and those are the captured lines. -/
theorem logOutput_joinCaptured (level : Level) (part : String) :
    logOutput level part (Text.joinCaptured first second) =
      ((capturedLines first second).map (lineRecord level part)).forM record := by
  rw [logOutput, outputLines_joinCaptured onlyFirst onlySecond, List.forM_eq_forM,
    List.forM_eq_forM, List.forM_map, List.forM_map]
  rfl

end Captured

/-! ## Records -/

/-- By induction on the records: the journal takes each, and no handler but the journal is there. -/
theorem forM_record_collected (records : List Record) {w : World} (collects : w.handlers = [.journal])
    (reach : ∀ r ∈ records, Level.debug.rank ≤ r.level.rank) :
    records.forM record w = (.ok (), { w with records := w.records ++ records }) := by
  induction records generalizing w with
  | nil =>
    rw [List.append_nil]
    rfl
  | cons r rest ih =>
    obtain ⟨here, others⟩ := List.forall_mem_cons.mp reach
    have first : record r w = (.ok (), { w with records := w.records ++ [r] }) := by
      rw [record, modify_run, if_pos here]
      exact congrArg (fun handlers => (Except.ok (), handlers.foldl (emit r) w)) collects
    rw [List.forM, bind_run, first]
    dsimp only
    rw [ih (w := { w with records := w.records ++ [r] }) collects others, List.append_assoc,
      List.singleton_append]

/-- Recording is one kind of call, and what the calls do is already known. -/
theorem forM_record_follows {s : LogSetup} {w : World} (force : InForce s w)
    (records : List Record) :
    ∃ v, records.forM record w = (.ok (), v) ∧ Follows w s (records.map .write) v := by
  have same : (records.map LogCall.write).forM LogCall.perform = records.forM record := by
    rw [List.forM_eq_forM, List.forM_map]
    rfl
  rw [← same]
  obtain ⟨-, ended⟩ | ⟨refused, -⟩ := performAll_follows force (records.map .write)
  · exact ended
  · exact absurd (fun t among => by simp at among) refused

/-- Captured output in which only line feeds end lines is recorded by exactly the lines of the first
stream and then those of the second one, without the empty ones at the very end. Each line is one
record behind the gutter, no record has a line end in it, and nothing else happens: whoever collects
records gets these, and a console and a log file get each of them as they get any other record. -/
theorem capturedOutput_logged (level : Level) (part : String) (stdout stderr : Option String)
    (onlyOut : Text.OnlyLineFeeds (stdout.getD "").toList)
    (onlyErr : Text.OnlyLineFeeds (stderr.getD "").toList) :
    (∃ blanks, streamLines stdout ++ streamLines stderr =
        capturedLines stdout stderr ++ List.replicate blanks "") ∧
      (capturedLines stdout stderr).getLast? ≠ some "" ∧
      (∀ line ∈ capturedLines stdout stderr, (line ∈ streamLines stdout ∨ line ∈ streamLines stderr) ∧
        Text.IsPlain (lineRecord level part line).text.toList) ∧
      logOutput level part (Text.joinCaptured stdout stderr) =
        ((capturedLines stdout stderr).map (lineRecord level part)).forM record ∧
      (∀ w, w.handlers = [.journal] → Level.debug.rank ≤ level.rank →
        logOutput level part (Text.joinCaptured stdout stderr) w = (.ok (), { w with
          records := w.records ++ (capturedLines stdout stderr).map (lineRecord level part) })) ∧
      ∀ s w, InForce s w →
        ∃ v, logOutput level part (Text.joinCaptured stdout stderr) w = (.ok (), v) ∧
          Follows w s
            (((capturedLines stdout stderr).map (lineRecord level part)).map .write) v := by
  have logged := logOutput_joinCaptured onlyOut onlyErr level part
  refine ⟨exists_blanks stdout stderr, getLast?_capturedLines stdout stderr,
    fun line among => ⟨?own, isPlain_lineRecord onlyOut onlyErr among level part⟩, logged,
    ?collected, ?follows⟩
  case own => exact List.mem_append.mp ((List.rdropWhile_prefix _ _).subset among)
  case collected =>
    intro w collects reaches
    rw [logged]
    refine forM_record_collected _ collects fun r among => ?_
    obtain ⟨line, -, rfl⟩ := List.mem_map.mp among
    exact reaches
  case follows =>
    intro s w force
    rw [logged]
    exact forM_record_follows force _

/-- A machine on which every record is collected. -/
def collecting : World where
  files := { root := [] }
  processes := ⟨[], {}⟩
  replies := ⟨[], .refused .connection ""⟩
  handlers := [.journal]

/-- The first stream ends within a line and the second one with empty lines; and one stream is missing
where the other has nothing but an empty line. -/
theorem capturedOutput_logged_unfinished :
    (∃ v, logOutput .debug "build" (Text.joinCaptured (some "one\n\ntwo") (some "three\n\n\n"))
        collecting = (.ok (), v) ∧
      v.records.map Record.text = ["  | one", "  | ", "  | two", "  | three"]) ∧
    (∃ v, logOutput .debug "build" (Text.joinCaptured none (some "\n")) collecting = (.ok (), v) ∧
      v.records = []) := by
  obtain ⟨-, -, -, -, unfinished, -⟩ := capturedOutput_logged .debug "build" (some "one\n\ntwo")
    (some "three\n\n\n") (by decide +kernel) (by decide +kernel)
  obtain ⟨-, -, -, -, missing, -⟩ := capturedOutput_logged .debug "build" none (some "\n")
    (by decide +kernel) (by decide +kernel)
  exact ⟨⟨_, unfinished collecting rfl (by decide), by decide +kernel⟩,
    ⟨_, missing collecting rfl (by decide), by decide +kernel⟩⟩

end BuildBench
