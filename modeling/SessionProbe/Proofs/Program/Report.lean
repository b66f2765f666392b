import SessionProbe.Failure

set_option autoImplicit false

/-!
The lines of a report. A failure takes a line for what was attempted, an empty line, a heading, and
then the lines of its causes, the first cause first.
-/

namespace SessionProbe

theorem lines_append (before behind : String) :
    lines (before ++ "\n" ++ behind) = lines before ++ lines behind := by
  unfold lines
  rw [String.toList_append, String.toList_append, List.append_assoc]
  change List.map String.ofList (List.splitOn '\n' (before.toList ++ '\n' :: behind.toList)) = _
  rw [List.splitOn_append_cons_self, List.map_append]

theorem lines_eq_singleton {text : String} (single : '\n' ∉ text.toList) : lines text = [text] := by
  unfold lines
  rw [List.splitOn_eq_singleton single, List.map_singleton, String.ofList_toList]

theorem lines_intercalate (first : String) (more : List String) :
    lines (String.intercalate "\n" (first :: more)) = (first :: more).flatMap lines := by
  induction more generalizing first with
  | nil => simp
  | cons second rest ih =>
      rw [String.intercalate_cons_cons, lines_append, ih, ← List.flatMap_cons]

theorem causeLines_cons (cause : String) (more : List String) :
    ∃ label further, causeLines (cause :: more) = indented label cause :: further := by
  cases more with
  | nil => exact ⟨_, _, rfl⟩
  | cons second rest => exact ⟨_, _, rfl⟩

theorem Failure.lines_report (failure : Failure) (single : '\n' ∉ failure.attempt.toList)
    {cause : String} {more : List String} (texts : failure.cause.texts = cause :: more) :
    ∃ label further, lines ("Error: " ++ failure.report) =
      ("Error: " ++ failure.attempt) :: "" :: "Caused by:" ::
        (lines (indented label cause) ++ further) := by
  obtain ⟨label, behind, first⟩ := causeLines_cons cause more
  refine ⟨label, behind.flatMap lines, ?_⟩
  have parts : "Error: " ++ failure.report =
      ("Error: " ++ failure.attempt) ++ "\n" ++
        ("" ++ "\n" ++ ("Caused by:" ++ "\n" ++
          String.intercalate "\n" (causeLines failure.cause.texts))) := by
    have heading : "\n\nCaused by:\n" = "\n" ++ ("\n" ++ ("Caused by:" ++ "\n")) := by rfl
    rw [Failure.report, heading]
    simp only [String.append_assoc, String.empty_append]
  have heading : '\n' ∉ ("Error: " ++ failure.attempt).toList := by
    rw [String.toList_append, List.mem_append]
    rintro (label | attempt)
    · exact absurd label (by decide)
    · exact single attempt
  have emptyLine : lines "" = [""] := lines_eq_singleton (by decide)
  have causesLine : lines "Caused by:" = ["Caused by:"] := lines_eq_singleton (by decide)
  rw [parts, lines_append, lines_append, lines_append, lines_eq_singleton heading, emptyLine,
    causesLine, texts, first, lines_intercalate, List.flatMap_cons]
  rfl

end SessionProbe
