import EditorBridge.Finding.Report
import EditorBridge.Proofs.Text.Trimming

/-!
# Reports line by line

A report says what its lines say, and a line what is left of it without the white space at its end
(`ofReport_eq`).  So a report can be cut at any line feed, and white space in front of a line feed,
a carriage return for instance, makes no difference.
-/
namespace EditorBridge

open EditorBridge.Unicode EditorBridge.Text

namespace Text

/-- What the line feeds of a text keep apart, without the white space at the ends. -/
def contents (s : List Char) : List (List Char) := (s.splitOn '\n').map trimEnd

@[simp] theorem contents_nil : contents [] = [[]] := by
  simp [contents, trimEnd]

/-- A text can be cut at any of its line feeds. -/
theorem contents_append (a b : List Char) :
    contents (a ++ '\n' :: b) = contents a ++ contents b := by
  rw [contents, List.splitOn_append_cons_self, List.map_append, contents, contents]

theorem contents_of_not_mem {s : List Char} (oneLine : '\n' ∉ s) : contents s = [trimEnd s] := by
  rw [contents, List.splitOn_eq_singleton oneLine, List.map_singleton]

theorem trimEnd_cons_trimEnd (c : Char) (s : List Char) :
    trimEnd (c :: trimEnd s) = trimEnd (c :: s) := by
  rw [trimEnd, trimEnd, trimEnd_trimEnd]

/-- A character that ends no line belongs to the first one. -/
theorem contents_cons {c : Char} (inLine : c ≠ '\n') (s : List Char) :
    contents (c :: s) = (contents s).modifyHead fun line => trimEnd (c :: line) := by
  rw [contents, List.splitOn_cons_eq_if_modifyHead, if_neg (by simpa using inLine), contents]
  cases s.splitOn '\n' with
  | nil => rfl
  | cons line rest => simp [trimEnd_cons_trimEnd]

/-- The end of a line is white space. -/
theorem trimEnd_withoutLineEnd (piece : List Char) :
    trimEnd (withoutLineEnd piece) = trimEnd piece := by
  unfold withoutLineEnd
  split
  · rename_i rest reversed
    have whole : piece = rest.reverse ++ ['\r', '\n'] := by
      simpa using congrArg List.reverse reversed
    rw [whole, trimEnd_append (by decide)]
  · rename_i rest _ reversed
    have whole : piece = rest.reverse ++ ['\n'] := by
      simpa using congrArg List.reverse reversed
    rw [whole, trimEnd_append (by decide)]
  · rfl

/-- Pieces and lines have the same contents, but for an empty line that is no piece. -/
theorem contents_eq_or (s : List Char) :
    contents s = (cutAfter '\n' s).map trimEnd ∨
      contents s = (cutAfter '\n' s).map trimEnd ++ [[]] := by
  induction s with
  | nil => exact .inr contents_nil
  | cons c rest ih =>
    by_cases lineFeed : c = '\n'
    · have first : trimEnd ['\n'] = [] := by decide
      have cut : contents ('\n' :: rest) = [] :: contents rest := contents_append [] rest
      rw [lineFeed, cut, cutAfter, if_pos rfl, List.map_cons, first]
      exact ih.imp (congrArg ([] :: ·)) (congrArg ([] :: ·))
    · rw [contents_cons lineFeed, cutAfter, if_neg lineFeed]
      cases pieces : cutAfter '\n' rest with
      | nil =>
        -- Only the empty text has no piece, and then the character is a line by itself.
        have empty : rest = [] := by
          by_contra nonempty
          exact cutAfter_ne_nil nonempty pieces
        rw [empty, contents_nil]
        exact .inl rfl
      | cons piece more =>
        rw [pieces] at ih
        refine ih.imp (fun same => ?_) (fun same => ?_) <;>
          simp [same, prepend, trimEnd_cons_trimEnd]

/-- Whether a text is another one with white space put in front of some of its line feeds. -/
inductive Padded : List Char → List Char → Prop where
  | nil : Padded [] []
  | cons (c : Char) {s s' : List Char} (rest : Padded s s') : Padded (c :: s) (c :: s')
  | pad (white : List Char) (isWhite : white.all isWhiteSpace = true) (inLine : '\n' ∉ white)
      {s s' : List Char} (rest : Padded s s') : Padded ('\n' :: s) (white ++ '\n' :: s')

/-- A text with a carriage return in front of every line feed. -/
def withReturns (s : List Char) : List Char :=
  s.flatMap fun c => if c = '\n' then ['\r', '\n'] else [c]

theorem padded_withReturns (s : List Char) : Padded s (withReturns s) := by
  induction s with
  | nil => exact .nil
  | cons c rest ih =>
    by_cases lineFeed : c = '\n'
    · rw [lineFeed]
      exact .pad ['\r'] (by decide) (by decide) ih
    · have kept : withReturns (c :: rest) = c :: withReturns rest := by
        simp [withReturns, lineFeed]
      rw [kept]
      exact .cons c ih

theorem Padded.contents_eq {s s' : List Char} (padded : Padded s s') :
    contents s' = contents s := by
  induction padded with
  | nil => rfl
  | @cons c s s' _ ih =>
    by_cases lineFeed : c = '\n'
    · have cut (t : List Char) : contents ('\n' :: t) = [] :: contents t := contents_append [] t
      rw [lineFeed, cut, cut, ih]
    · rw [contents_cons lineFeed, contents_cons lineFeed, ih]
  | @pad white isWhite inLine s s' _ ih =>
    have cut : contents ('\n' :: s) = [] :: contents s := contents_append [] s
    rw [contents_append, contents_of_not_mem inLine, trimEnd_eq_nil_iff.mpr isWhite, cut, ih]
    rfl

end Text

namespace Finding

/-- What a line says is what its content says. -/
theorem ofChars?_trimEnd (line : List Char) :
    Report.ofChars? (trimEnd line) = Report.ofChars? line := by
  rw [Report.ofChars?, trimEnd_trimEnd, Report.ofChars?]

/-- A report says what the contents of its lines say. -/
theorem ofReport_eq (report : String) :
    ofReport report = (contents report.toList).filterMap Report.ofChars? := by
  have pieces : ofReport report =
      ((cutAfter '\n' report.toList).map trimEnd).filterMap Report.ofChars? := by
    rw [ofReport, lines, List.filterMap_map, List.filterMap_map]
    refine List.filterMap_congr fun piece _ => ?_
    rw [Function.comp_apply, Function.comp_apply, ← ofChars?_trimEnd (withoutLineEnd piece),
      trimEnd_withoutLineEnd]
  have blank : Report.ofChars? [] = none := rfl
  rw [pieces]
  obtain same | same := contents_eq_or report.toList
  · rw [same]
  · rw [same, List.filterMap_append, List.filterMap_cons_none blank, List.filterMap_nil,
      List.append_nil]

theorem ofReport_append (a b : String) :
    ofReport (a ++ "\n" ++ b) = ofReport a ++ ofReport b := by
  have cut : (a ++ "\n" ++ b).toList = a.toList ++ '\n' :: b.toList := by simp
  rw [ofReport_eq, cut, contents_append, List.filterMap_append, ofReport_eq, ofReport_eq]

theorem ofReport_of_padded {report report' : String}
    (padded : Padded report.toList report'.toList) : ofReport report' = ofReport report := by
  rw [ofReport_eq, padded.contents_eq, ofReport_eq]

theorem length_ofReport_le_one {report : String} (oneLine : '\n' ∉ report.toList) :
    (ofReport report).length ≤ 1 := by
  rw [ofReport_eq, contents_of_not_mem oneLine]
  exact List.length_filterMap_le ..

end Finding

namespace Summary

def counter (summary : Summary) : Severity → Nat
  | .error => summary.errors
  | .warning => summary.warnings
  | .note => summary.notes
  | .baseline => summary.baselined

theorem counter_of (findings : List Finding) (severity : Severity) :
    (of findings).counter severity =
      (findings.filter fun finding => finding.severity = severity).length := by
  rw [← List.countP_eq_length_filter]
  cases severity <;> rfl

/-- Every finding is counted once. -/
theorem sum_counters (findings : List Finding) :
    let summary := of findings
    summary.errors + summary.warnings + summary.notes + summary.baselined = findings.length := by
  induction findings with
  | nil => rfl
  | cons finding rest ih =>
    obtain ⟨_, _, _, _, severity, _, _⟩ := finding
    simp only [of, count, List.countP_cons, List.length_cons] at ih ⊢
    cases severity <;> simp <;> omega

end Summary

end EditorBridge
