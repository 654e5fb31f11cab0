import EditorBridge.Finding.Pattern
import EditorBridge.Proofs.Finding.Grammar

/-!
# Report lines as matches of the pattern

The reader of report lines finds the parts of a line by hand.  What it finds is what the pattern
catches: the first way to match in the order of preference.  Up to the message there is one way at
most from each place, so the order counts only for the two lazy runs, the path and the message.
-/
namespace EditorBridge

open EditorBridge.Unicode EditorBridge.Text

namespace Pattern

theorem after_append (a b s : List Char) :
    Report.after (a ++ b) s = (Report.after a s).bind (Report.after b) := by
  induction a generalizing s with
  | nil => rfl
  | cons c more ih =>
    cases s with
    | nil => rfl
    | cons d s => by_cases same : c = d <;> simp [Report.after, same, ih]

theorem ways_text {word : String} {t : List Char} (spelled : word.toList = t) (s : List Char) :
    (text word).ways s = ((Report.after t s).map fun rest => ⟨t, [], rest⟩).toList := by
  subst spelled
  unfold text
  induction word.toList generalizing s with
  | nil => rfl
  | cons c more ih =>
    cases s with
    | nil => rfl
    | cons d s =>
      by_cases same : d = c
      · subst same
        cases read : Report.after more s <;> simp [ways, Report.after, ih, read, Way.andThen]
      · simp [ways, Report.after, same, Ne.symm same]

theorem mem_runs_cons {lazily : Bool} {admits : Char → Bool} {c : Char} {s : List Char}
    {way : Way} : way ∈ runs lazily admits (c :: s) ↔ way = .stay (c :: s) ∨
      (admits c = true ∧ ∃ shorter ∈ runs lazily admits s, shorter.behind c = way) := by
  cases lazily <;> by_cases admitted : admits c = true <;> simp [runs, admitted, or_comm]

/-- A run is a beginning of the text, of characters of the set. -/
theorem of_mem_runs {lazily : Bool} {admits : Char → Bool} {s : List Char} {way : Way}
    (member : way ∈ runs lazily admits s) :
    way.groups = [] ∧ s = way.taken ++ way.rest ∧ ∀ c ∈ way.taken, admits c = true := by
  induction s generalizing way with
  | nil =>
    obtain rfl := List.mem_singleton.mp member
    exact ⟨rfl, rfl, by simp [Way.stay]⟩
  | cons c s ih =>
    obtain rfl | ⟨admitted, shorter, among, rfl⟩ := mem_runs_cons.mp member
    · exact ⟨rfl, rfl, by simp [Way.stay]⟩
    · obtain ⟨groups, text, all⟩ := ih among
      exact ⟨groups, congrArg (c :: ·) text, List.forall_mem_cons.mpr ⟨admitted, all⟩⟩

/-- Where nothing can go on with a character of the set, only the longest run counts. -/
theorem flatMap_runs {β : Type} {admits : Char → Bool} (lazily : Bool) (s : List Char)
    {next : Way → List β}
    (stops : ∀ way c rest, way.rest = c :: rest → admits c = true → next way = []) :
    (runs lazily admits s).flatMap next = next ⟨s.takeWhile admits, [], s.dropWhile admits⟩ := by
  induction s generalizing next with
  | nil => simp [runs, Way.stay]
  | cons c s ih =>
    by_cases admitted : admits c = true
    · have here : next (.stay (c :: s)) = [] := stops _ c s rfl admitted
      have longer : ((runs lazily admits s).map (.behind c)).flatMap next =
          next ⟨c :: s.takeWhile admits, [], s.dropWhile admits⟩ := by
        rw [List.flatMap_map]
        exact ih fun way d rest follows => stops (way.behind c) d rest follows
      cases lazily <;> simp [runs, admitted, here, longer]
    · simp [runs, admitted, Way.stay]

/-- A word of characters of a set and a mark after it, and what follows. -/
def word? (admits : Char → Bool) (mark : Char) (s : List Char) : Option (List Char × List Char) :=
  match s.takeWhile admits with
  | [] => none
  | c :: more => (Report.after [mark] (s.dropWhile admits)).map fun rest => (c :: more, rest)

theorem word?_eq_some_iff {admits : Char → Bool} {mark : Char} (apart : admits mark = false)
    {s word rest : List Char} : word? admits mark s = some (word, rest) ↔
      word ≠ [] ∧ (∀ c ∈ word, admits c = true) ∧ s = word ++ mark :: rest := by
  constructor
  · intro read
    have whole : s.takeWhile admits ++ s.dropWhile admits = s := List.takeWhile_append_dropWhile
    have all : ∀ c ∈ s.takeWhile admits, admits c = true :=
      fun _ member => List.mem_takeWhile_imp member
    unfold word? at read
    split at read
    · cases read
    · rename_i c more taken
      obtain ⟨rest', follows, same⟩ := Option.map_eq_some_iff.mp read
      obtain ⟨rfl, rfl⟩ := Prod.mk.inj same
      rw [taken, Report.after_eq_some_iff.mp follows] at whole
      rw [taken] at all
      exact ⟨List.cons_ne_nil c more, all, whole.symm⟩
  · rintro ⟨nonempty, all, rfl⟩
    rw [word?, Report.takeWhile_mark all apart, Report.dropWhile_mark all apart]
    cases word with
    | nil => exact absurd rfl nonempty
    | cons c more => simp [Report.after]

/-- A word is read in one way at most, since it cannot contain the mark. -/
theorem ways_word {admits : Char → Bool} {mark : Char} (apart : admits mark = false)
    {stop : String} (spelled : stop.toList = [mark]) (name : String) (s : List Char) :
    (both (group name (several false admits)) (text stop)).ways s =
      ((word? admits mark s).map fun found =>
        ⟨found.1 ++ [mark], [(name, found.1)], found.2⟩).toList := by
  cases s with
  | nil => simp [ways, several, word?]
  | cons c s =>
    by_cases admitted : admits c = true
    · simp only [ways, several, admitted, if_true, List.flatMap_cons, List.flatMap_nil,
        List.append_nil, List.map_map, List.flatMap_map, Function.comp_def, ways_text spelled]
      rw [flatMap_runs]
      · cases read : Report.after [mark] (s.dropWhile admits) <;>
          simp [word?, admitted, read, Way.named, Way.andThen]
      · rintro way d rest follows admitted'
        have other : ¬ mark = d := by
          rintro rfl
          rw [apart] at admitted'
          cases admitted'
        simp [follows, Report.after, other]
    · simp [ways, several, word?, admitted]

theorem number_eq_word? (s : List Char) : Report.number s = word? isDecimalDigit ':' s := by
  refine Option.ext fun found => ?_
  rw [Report.number_eq_some_iff, word?_eq_some_iff Report.not_isDecimalDigit_colon,
    Report.IsNumber, and_assoc]

theorem ways_number (name : String) (s : List Char) :
    (number name).ways s = ((Report.number s).map fun found =>
      ⟨found.1 ++ [':'], [(name, found.1)], found.2⟩).toList := by
  have colon : (":" : String).toList = [':'] := by decide
  rw [number, ways_word Report.not_isDecimalDigit_colon colon, number_eq_word?]

theorem ways_position (first second : String) (s : List Char) :
    (position first second).ways s = ((Report.position s).map fun found =>
      ⟨Report.spellPosition found.1.1 found.1.2, [(first, found.1.1), (second, found.1.2)],
        found.2⟩).toList := by
  cases line : Report.number s with
  | none => simp [position, ways, ways_number, Report.position, line]
  | some found =>
    cases column : Report.number found.2 <;>
      simp [position, ways, ways_number, Report.position, line, column, Way.andThen,
        Report.spellPosition]

/-- An end is taken where there is one, since no blank starts there. -/
theorem ways_stop (s : List Char) :
    stop.ways s = match Report.position s with
      | some (found, s') => ((Report.after [' '] s').map fun rest =>
          ⟨Report.spellPosition found.1 found.2 ++ [' '],
            [("end_line", found.1), ("end_col", found.2)], rest⟩).toList
      | none => ((Report.after [' '] s).map fun rest => ⟨[' '], [], rest⟩).toList := by
  have blank : (" " : String).toList = [' '] := by decide
  rw [stop, optional, ways, ways, ways_position, List.flatMap_append]
  cases read : Report.position s with
  | none => cases after : Report.after [' '] s <;>
      simp [ways, ways_text blank, Way.stay, Way.andThen, after]
  | some found =>
    have digit : Report.after [' '] s = none := by
      refine Option.eq_none_iff_forall_ne_some.mpr fun rest start => ?_
      obtain rfl : s = ' ' :: rest := Report.after_eq_some_iff.mp start
      rw [Report.position_blank] at read
      cases read
    cases after : Report.after [' '] found.2 <;>
      simp [ways, ways_text blank, Way.stay, Way.andThen, after, digit]

/-- A label is there if the severity that is read is its own. -/
theorem after_label (sev : Severity) (s : List Char) :
    Report.after (sev.name.toList ++ [':', ' ']) s =
      (Report.severity s).bind fun found => if found.1 = sev then some found.2 else none := by
  refine Option.ext fun rest => ?_
  rw [Report.after_eq_some_iff, List.append_assoc]
  refine Report.severity_eq_some_iff.symm.trans ?_
  cases Report.severity s with
  | none => simp
  | some found => by_cases same : found.1 = sev <;> simp [same, Prod.ext_iff]

theorem ways_label (sev : Severity) (s : List Char) :
    (both (group "severity" (text sev.name)) (text ": ")).ways s =
      ((Report.after (sev.name.toList ++ [':', ' ']) s).map fun rest =>
        ⟨sev.name.toList ++ [':', ' '], [("severity", sev.name.toList)], rest⟩).toList := by
  rw [after_append]
  cases word : Report.after sev.name.toList s with
  | none => simp [ways, ways_text rfl, word]
  | some rest =>
    cases follows : Report.after [':', ' '] rest <;>
      simp [ways, ways_text rfl, word, follows, Way.named, Way.andThen]

/-- A severity is read in one way at most. -/
theorem ways_severity (s : List Char) :
    severity.ways s = ((Report.severity s).map fun found =>
      ⟨found.1.name.toList ++ [':', ' '], [("severity", found.1.name.toList)],
        found.2⟩).toList := by
  have labels : severity.ways s = Severity.all.flatMap fun sev =>
      (both (group "severity" (text sev.name)) (text ": ")).ways s := by
    simp [severity, Severity.all, Severity.name, ways]
  rw [labels]
  simp only [ways_label, after_label]
  cases Report.severity s with
  | none => rfl
  | some found =>
    obtain ⟨sev, rest⟩ := found
    cases sev <;> simp [Severity.all]

theorem captures?_both (first second : Pattern) (s : List Char) :
    (both first second).captures? s = (first.ways s).findSome? fun way =>
      (second.captures? way.rest).map (way.groups ++ ·) := by
  rw [captures?, ways, List.head?_flatMap, List.map_findSome?]
  congr 1
  funext way
  simp only [List.head?_map, captures?, Option.map_map, Function.comp_def, Way.groups_andThen]

theorem findSome?_toList {α β : Type} (found : Option α) (next : α → Option β) :
    found.toList.findSome? next = found.bind next := by
  cases found with
  | none => rfl
  | some a => simp

theorem captures?_finish (s : List Char) :
    finish.captures? s = if s = [] then some [] else none := by
  cases s <;> simp [captures?, ways, Way.stay]

theorem not_isCodeCharacter_bracket : Report.isCodeCharacter ']' = false := by decide +kernel

theorem ways_bracketed (s : List Char) :
    bracketed.ways s =
      (((Report.after [' ', ' ', '['] s).bind (word? Report.isCodeCharacter ']')).map fun found =>
        ⟨' ' :: ' ' :: '[' :: (found.1 ++ [']']), [("code", found.1)], found.2⟩).toList := by
  have opening : ("  [" : String).toList = [' ', ' ', '['] := by decide
  have closing : ("]" : String).toList = [']'] := by decide
  rw [bracketed, ways, ways_text opening]
  cases Report.after [' ', ' ', '['] s with
  | none => rfl
  | some s' =>
    cases read : word? Report.isCodeCharacter ']' s' <;>
      simp [ways_word not_isCodeCharacter_bracket closing, read, Way.andThen]

/-- After a message there is nothing, or a code. -/
theorem captures?_ending_eq_some_iff {s : List Char} {groups : Groups} :
    ending.captures? s = some groups ↔ (s = [] ∧ groups = []) ∨
      ∃ k, s = ' ' :: ' ' :: '[' :: (k ++ [']']) ∧ k ≠ [] ∧
        (∀ c ∈ k, Report.isCodeCharacter c = true) ∧ groups = [("code", k)] := by
  rw [ending, captures?_both, optional, ways, List.findSome?_append, ways_bracketed,
    findSome?_toList, ways, List.findSome?_singleton]
  constructor
  · by_cases empty : s = []
    · subst empty
      simp [Report.after, captures?_finish, Way.stay]
    · intro caught
      rw [Way.rest_stay, captures?_finish s, if_neg empty, Option.map_none,
        Option.or_none] at caught
      simp only [Option.bind_eq_some_iff, Option.map_eq_some_iff, captures?_finish,
        Report.after_eq_some_iff] at caught
      obtain ⟨_, ⟨⟨k, rest⟩, ⟨s', rfl, read⟩, rfl⟩, found⟩ := caught
      obtain ⟨nonempty, all, rfl⟩ := (word?_eq_some_iff not_isCodeCharacter_bracket).mp read
      obtain ⟨_, finished, rfl⟩ := found
      by_cases last : rest = []
      · subst last
        obtain rfl := Option.some.inj finished
        exact .inr ⟨k, rfl, nonempty, all, rfl⟩
      · simp [last] at finished
  · rintro (⟨rfl, rfl⟩ | ⟨k, rfl, nonempty, all, rfl⟩)
    · rfl
    · have read : word? Report.isCodeCharacter ']' (k ++ [']']) = some (k, []) :=
        (word?_eq_some_iff not_isCodeCharacter_bracket).mpr ⟨nonempty, all, rfl⟩
      simp [Report.after, read, captures?_finish]

/-- The ways of a lazy run are asked from the shortest one on. -/
theorem findSome?_runs_cons {β : Type} (admits : Char → Bool) (c : Char) (s : List Char)
    (next : Way → Option β) :
    (runs true admits (c :: s)).findSome? next = (next (.stay (c :: s))).or (if admits c then
      (runs true admits s).findSome? fun way => next (way.behind c) else none) := by
  by_cases admitted : admits c = true <;>
    cases here : next (.stay (c :: s)) <;>
      simp [runs, admitted, here, List.findSome?_map, Function.comp_def]

/-- A lazy run goes no further than to the first place from which there is a way on. -/
theorem findSome?_runs {β : Type} {admits : Char → Bool} {m tail : List Char}
    {next : Way → Option β} {b : β} (all : ∀ c ∈ m, admits c = true)
    (first : ∀ front back, back ≠ [] → m = front ++ back → next ⟨front, [], back ++ tail⟩ = none)
    (here : next ⟨m, [], tail⟩ = some b) :
    (runs true admits (m ++ tail)).findSome? next = some b := by
  induction m generalizing next with
  | nil => cases tail <;> simp [runs, Way.stay, here]
  | cons c m ih =>
    obtain ⟨admitted, all⟩ := List.forall_mem_cons.mp all
    have stay : next (.stay (c :: m ++ tail)) = none := first [] (c :: m) (by simp) rfl
    have longer : (runs true admits (m ++ tail)).findSome? (fun way => next (way.behind c)) =
        some b :=
      ih all (fun front back nonempty text =>
        first (c :: front) back nonempty (congrArg (c :: ·) text)) here
    rw [List.cons_append] at stay ⊢
    rw [findSome?_runs_cons, stay, if_pos admitted, longer]
    rfl

theorem lineFeed_not_mem_of_captures?_ending {s : List Char} {groups : Groups}
    (caught : ending.captures? s = some groups) : '\n' ∉ s := by
  have apart : Report.isCodeCharacter '\n' = false := by decide +kernel
  obtain ⟨rfl, _⟩ | ⟨k, rfl, _, all, _⟩ := captures?_ending_eq_some_iff.mp caught
  · exact List.not_mem_nil
  · have line : '\n' ∉ k := by
      intro member
      rw [all _ member] at apart
      cases apart
    simp [line]

/-- What ends a text after a message is the code that is read from the end of that text. -/
theorem messageAndCode_of_captures?_ending {m s : List Char} (nonempty : m ≠ []) {groups : Groups}
    (caught : ending.captures? s = some groups) (more : s ≠ []) :
    ∃ k, Report.messageAndCode (m ++ s) = (m, some k) ∧ groups = [("code", k)] := by
  obtain ⟨rfl, _⟩ | ⟨k, rfl, nonempty', all, rfl⟩ := captures?_ending_eq_some_iff.mp caught
  · exact absurd rfl more
  · have word (d : Char) (member : d ∈ k) : isWordCharacter d = true ∨ d = '-' :=
      Report.isCodeCharacter_iff.mp (all d member)
    exact ⟨k, Report.messageAndCode_of_coded ⟨nonempty, nonempty', word, rfl⟩, rfl⟩

def caughtText (s : List Char) : Groups :=
  ("message", (Report.messageAndCode s).1) ::
    ((Report.messageAndCode s).2.elim [] fun k => [("code", k)])

/-- The message is the shortest beginning of a text after which the text may end. -/
theorem exists_shortest_message (c : Char) (s : List Char) :
    ∃ m rest groups, s = m ++ rest ∧ ending.captures? rest = some groups ∧
      caughtText (c :: s) = ("message", c :: m) :: groups ∧
      ∀ front back, back ≠ [] → m = front ++ back → ending.captures? (back ++ rest) = none := by
  -- An ending after a shorter beginning would make that beginning the message.
  have shortest {m rest : List Char} (text : s = m ++ rest)
      (read : ∀ front k, Report.messageAndCode (c :: s) = (c :: front, some k) → front = m)
      (front back : List Char) (nonempty : back ≠ []) (same : m = front ++ back) :
      ending.captures? (back ++ rest) = none := by
    refine Option.eq_none_iff_forall_ne_some.mpr fun groups caught => ?_
    obtain ⟨k, read', _⟩ := messageAndCode_of_captures?_ending (List.cons_ne_nil c front) caught
      (by simp [nonempty])
    rw [List.cons_append, ← List.append_assoc, ← same, ← text] at read'
    have whole := read front k read'
    rw [same] at whole
    exact nonempty (List.self_eq_append_right.mp whole)
  obtain ⟨message, k, coded, read⟩ | read := Report.messageAndCode_cases (c :: s)
  · obtain ⟨d, m, rfl⟩ := List.exists_cons_of_ne_nil coded.message_ne_nil
    obtain ⟨rfl, text⟩ := List.cons.inj coded.text_eq
    have all (d : Char) (member : d ∈ k) : Report.isCodeCharacter d = true :=
      Report.isCodeCharacter_iff.mpr (coded.word d member)
    refine ⟨m, _, [("code", k)], text, captures?_ending_eq_some_iff.mpr
      (.inr ⟨k, rfl, coded.code_ne_nil, all, rfl⟩), by simp [caughtText, read], shortest text ?_⟩
    intro front k' read'
    rw [read] at read'
    simpa using (congrArg Prod.fst read').symm
  · refine ⟨s, [], [], (List.append_nil s).symm, captures?_ending_eq_some_iff.mpr
      (.inl ⟨rfl, rfl⟩), by simp [caughtText, read], shortest (List.append_nil s).symm ?_⟩
    intro front k' read'
    rw [read] at read'
    cases read'

theorem captures?_message (s : List Char) :
    message.captures? s = if Report.isMessage s then some (caughtText s) else none := by
  cases s with
  | nil => rfl
  | cons c s =>
    by_cases blank : isWhiteSpace c = true
    · simp [message, captures?_both, ways, blank, Report.isMessage]
    · let next (way : Way) := (ending.captures? way.rest).map fun groups =>
        ("message", c :: way.taken) :: (way.groups ++ groups)
      have text : message.captures? (c :: s) = (runs true isInLine s).findSome? next := by
        simp [message, captures?_both, ways, blank, List.findSome?_map, Function.comp_def, next]
      rw [text]
      by_cases lineEnd : '\n' ∈ s
      · have isMessage : Report.isMessage (c :: s) = false := by simp [Report.isMessage, lineEnd]
        rw [isMessage, if_neg Bool.false_ne_true, List.findSome?_eq_none_iff]
        intro way member
        obtain ⟨_, rfl, all⟩ := of_mem_runs member
        refine Option.map_eq_none_iff.mpr (Option.eq_none_iff_forall_ne_some.mpr ?_)
        intro groups caught
        obtain taken | after := List.mem_append.mp lineEnd
        · cases all _ taken
        · exact lineFeed_not_mem_of_captures?_ending caught after
      · have isMessage : Report.isMessage (c :: s) = true := by
          simp [Report.isMessage, blank, lineEnd]
        rw [isMessage, if_pos rfl]
        obtain ⟨m, rest, groups, rfl, caught, whole, shortest⟩ := exists_shortest_message c s
        have inLine (d : Char) (member : d ∈ m) : isInLine d = true := by
          refine decide_eq_true ?_
          rintro rfl
          exact lineEnd (List.mem_append_left rest member)
        refine findSome?_runs inLine (fun front back nonempty same => ?_) ?_
        · simp [next, shortest front back nonempty same]
        · simp [next, caught, whole]

def caughtRemainder (found : Report.Remainder) : Groups :=
  ("line", found.line) :: ("col", found.column) ::
    ((found.stop.elim [] fun stop => [("end_line", stop.1), ("end_col", stop.2)]) ++
      ("severity", found.severity.name.toList) :: caughtText found.text)

theorem captures?_severity_message (s : List Char) :
    (both severity message).captures? s = (Report.severity s).bind fun found =>
      if Report.isMessage found.2 then
        some (("severity", found.1.name.toList) :: caughtText found.2) else none := by
  rw [captures?_both, ways_severity, findSome?_toList]
  cases Report.severity s with
  | none => rfl
  | some found =>
    by_cases isMessage : Report.isMessage found.2 = true <;> simp [captures?_message, isMessage]

/-- From the severity on, a remainder with an end and one without are read alike. -/
theorem captures?_from_severity (line column : List Char)
    (stop : Option (List Char × List Char)) (s : List Char) :
    ((both severity message).captures? s).map (fun groups => ("line", line) :: ("col", column) ::
      ((stop.elim [] fun stop => [("end_line", stop.1), ("end_col", stop.2)]) ++ groups)) =
    ((Report.severity s).bind fun found => if Report.isMessage found.2 then
      some ⟨line, column, stop, found.1, found.2⟩ else none).map caughtRemainder := by
  rw [captures?_severity_message]
  rcases Report.severity s with _ | ⟨sev, text⟩
  · rfl
  · by_cases isMessage : Report.isMessage text = true <;> simp [isMessage, caughtRemainder]

theorem captures?_remainder (s : List Char) :
    remainder.captures? s = (Report.remainder s).map caughtRemainder := by
  have colon : (":" : String).toList = [':'] := by decide
  rw [remainder, captures?_both, ways_text colon, findSome?_toList]
  cases s with
  | nil => rfl
  | cons c s =>
    by_cases start : c = ':'
    · subst start
      simp only [Report.after, if_true, Option.map_some, Option.bind_some, Report.remainder,
        captures?_both (position _ _), ways_position, captures?_both stop, ways_stop,
        findSome?_toList]
      cases Report.position s with
      | none => rfl
      | some found =>
        rcases ended : Report.position found.2 with _ | ⟨stop, rest⟩
        · rcases blank : Report.after [' '] found.2 with _ | rest
          · simp [ended, blank]
          · have alike := captures?_from_severity found.1.1 found.1.2 none rest
            simpa [ended, blank, Function.comp_def] using alike
        · rcases blank : Report.after [' '] rest with _ | rest
          · simp [ended, blank]
          · have alike := captures?_from_severity found.1.1 found.1.2 (some stop) rest
            simpa [ended, blank, Function.comp_def] using alike
    · simp [Report.after, Ne.symm start, Report.remainder, start]

/-- A lazy run before a remainder stops where the search for it does. -/
theorem findSome?_remainder (path s : List Char) :
    ((runs true isInLine s).findSome? fun way => (remainder.captures? way.rest).map
      fun groups => ("path", path.reverse ++ way.taken) :: (way.groups ++ groups)) =
    (Report.search path s).map fun found => ("path", found.1) :: caughtRemainder found.2 := by
  induction s generalizing path with
  | nil => simp [runs, Way.stay, captures?_remainder, Report.remainder, Report.search]
  | cons c s ih =>
    have longer := ih (c :: path)
    rw [findSome?_runs_cons, Way.rest_stay, captures?_remainder, Report.search]
    cases Report.remainder (c :: s) with
    | some found => simp
    | none =>
      by_cases lineEnd : c = '\n'
      · simp [lineEnd, isInLine]
      · simpa [lineEnd, isInLine] using longer

/-- What the pattern catches in a text are the parts that are read from it. -/
theorem captures?_reportLine (s : List Char) :
    reportLine.captures? s =
      (Report.parts s).map fun found => ("path", found.1) :: caughtRemainder found.2 := by
  cases s with
  | nil => rfl
  | cons c s =>
    rw [reportLine, captures?_both, Report.parts]
    by_cases lineEnd : c = '\n'
    · simp [ways, several, lineEnd, isInLine]
    · have searched := findSome?_remainder [c] s
      simpa [ways, several, lineEnd, isInLine, List.findSome?_map, Function.comp_def] using searched

end Pattern

namespace Finding

theorem ofGroups?_caught (path : List Char) (found : Report.Remainder) :
    ofGroups? (("path", path) :: Pattern.caughtRemainder found) = Report.finding? path found := by
  obtain ⟨line, column, stop, severity, text⟩ := found
  have label : (Severity.all.find? fun sev => sev.name.toList = severity.name.toList) =
      some severity := by
    cases severity <;> rfl
  rcases stop with _ | ⟨first, second⟩ <;>
    rcases read : Report.messageAndCode text with ⟨message, _ | code⟩ <;>
      simp [ofGroups?, Report.finding?, Pattern.caughtRemainder, Pattern.caughtText,
        List.lookup_cons, label, read]

/-- The finding on a line is the one that the first match of the pattern stands for. -/
theorem parse?_eq_ofGroups? (line : String) :
    parse? line = (Pattern.reportLine.captures? (trimEnd line.toList)).bind ofGroups? := by
  rw [Pattern.captures?_reportLine, parse?, Report.ofChars?]
  cases Report.parts (trimEnd line.toList) with
  | none => rfl
  | some found => exact (ofGroups?_caught found.1 found.2).symm

end Finding

end EditorBridge
