import EditorBridge.Finding.Report
import EditorBridge.Proofs.Text.Trimming
import Mathlib.Data.List.Induction
import Mathlib.Data.List.TakeWhile
import Mathlib.Data.Nat.Digits.Defs

/-!
# The grammar of report lines

What a report line is, said without the reader: a path, a remainder of fixed form, and nothing else.
The reader accepts exactly this (`parts_eq_some_iff`), and of the ways to cut a line it takes the
one with the shortest path.  The finding is then what that path and the remainder stand for
(`finding?_eq_some_iff`).
-/
namespace EditorBridge

open EditorBridge.Unicode EditorBridge.Text

namespace Report

/-- A line without the white space at its end. -/
def content (line : String) : List Char := line.toList.rdropWhile isWhiteSpace

/-- A run of digits, of any script. -/
def IsNumber (digits : List Char) : Prop := digits ≠ [] ∧ ∀ c ∈ digits, isDecimalDigit c = true

/-- Two numbers, each with a colon after it. -/
def spellPosition (line column : List Char) : List Char := line ++ ':' :: (column ++ [':'])

namespace Remainder

def spell (r : Remainder) : List Char :=
  ':' :: (spellPosition r.line r.column
    ++ (r.stop.elim [] fun (line, column) => spellPosition line column)
    ++ ' ' :: (r.severity.name.toList ++ ':' :: ' ' :: r.text))

/-- Whether numbers are numbers, and the message does not start in white space. -/
structure WellFormed (r : Remainder) : Prop where
  line : IsNumber r.line
  column : IsNumber r.column
  stop : ∀ line column, r.stop = some (line, column) → IsNumber line ∧ IsNumber column
  text : ∃ c ∈ r.text.head?, isWhiteSpace c = false

end Remainder

/-- A way to cut a text into a path, which is not empty, and a remainder. -/
structure Cut (t path : List Char) (found : Remainder) : Prop where
  path_ne_nil : path ≠ []
  wellFormed : found.WellFormed
  text_eq : t = path ++ found.spell

/-- The path and the remainder of a text: of the ways to cut it, the one with the shortest path. -/
structure Parts (t path : List Char) (found : Remainder) : Prop extends Cut t path found where
  shortest : ∀ path' found', Cut t path' found' → path.length ≤ path'.length

/-- Whether a run of digits is the number `n` in ASCII, and fits into 32 bits. -/
def Denotes (digits : List Char) (n : Nat) : Prop :=
  (∀ c ∈ digits, c.isDigit = true) ∧
    n = Nat.ofDigits 10 (digits.reverse.map fun c => c.toNat - '0'.toNat) ∧ n < UInt32.size

/-- How a text is cut into a message and the code in brackets after it. -/
structure Coded (text message code : List Char) : Prop where
  message_ne_nil : message ≠ []
  code_ne_nil : code ≠ []
  word : ∀ c ∈ code, isWordCharacter c = true ∨ c = '-'
  text_eq : text = message ++ ' ' :: ' ' :: '[' :: (code ++ [']'])

/-- Whether a finding is the one that a path and a remainder stand for. -/
structure Describes (path : List Char) (found : Remainder) (d : Finding) : Prop where
  path_eq : d.path = String.ofList path
  line : Denotes found.line d.line
  column : Denotes found.column d.column
  stop : ∀ line column, d.stop = some (line, column) ↔
    ∃ first second, found.stop = some (first, second) ∧ Denotes first line ∧ Denotes second column
  severity_eq : d.severity = found.severity
  coded : ∀ message code, Coded found.text message code →
    d.message = String.ofList message ∧ d.code = some (String.ofList code)
  plain : (¬ ∃ message code, Coded found.text message code) →
    d.message = String.ofList found.text ∧ d.code = none

theorem not_isDecimalDigit_colon : isDecimalDigit ':' = false := by decide

theorem takeWhile_mark {admits : Char → Bool} {mark : Char} {word : List Char}
    (all : ∀ c ∈ word, admits c = true) (apart : admits mark = false) (rest : List Char) :
    (word ++ mark :: rest).takeWhile admits = word := by
  rw [List.takeWhile_append_of_pos all, List.takeWhile_cons_of_neg (by simp [apart]),
    List.append_nil]

theorem dropWhile_mark {admits : Char → Bool} {mark : Char} {word : List Char}
    (all : ∀ c ∈ word, admits c = true) (apart : admits mark = false) (rest : List Char) :
    (word ++ mark :: rest).dropWhile admits = mark :: rest := by
  rw [List.dropWhile_append_of_pos all, List.dropWhile_cons_of_neg (by simp [apart])]

theorem number_eq_some_iff {s digits rest : List Char} :
    number s = some (digits, rest) ↔ IsNumber digits ∧ s = digits ++ ':' :: rest := by
  constructor
  · intro h
    have whole : s.takeWhile isDecimalDigit ++ s.dropWhile isDecimalDigit = s :=
      List.takeWhile_append_dropWhile
    have all : ∀ c ∈ s.takeWhile isDecimalDigit, isDecimalDigit c = true :=
      fun _ member => List.mem_takeWhile_imp member
    unfold number at h
    split at h
    · cases h
    · rename_i rest' dropped nonempty
      obtain ⟨rfl, rfl⟩ := Prod.mk.inj (Option.some.inj h)
      rw [dropped] at whole
      exact ⟨⟨nonempty, all⟩, whole.symm⟩
    · cases h
  · rintro ⟨⟨nonempty, all⟩, rfl⟩
    have taken := takeWhile_mark all not_isDecimalDigit_colon rest
    have dropped := dropWhile_mark all not_isDecimalDigit_colon rest
    rw [number, taken, dropped]
    cases digits with
    | nil => exact absurd rfl nonempty
    | cons c more => rfl

theorem position_eq_some_iff {s line column rest : List Char} :
    position s = some ((line, column), rest) ↔
      IsNumber line ∧ IsNumber column ∧ s = spellPosition line column ++ rest := by
  simp only [position, spellPosition, Option.bind_eq_bind, Option.bind_eq_some_iff, Prod.exists,
    Option.pure_def, Option.some.injEq, Prod.mk.injEq, number_eq_some_iff]
  constructor
  · rintro ⟨first, s', ⟨isLine, rfl⟩, second, s'', ⟨isColumn, rfl⟩, ⟨rfl, rfl⟩, rfl⟩
    exact ⟨isLine, isColumn, by simp⟩
  · rintro ⟨isLine, isColumn, rfl⟩
    exact ⟨line, _, ⟨isLine, by simp⟩, column, rest, ⟨isColumn, rfl⟩, ⟨rfl, rfl⟩, rfl⟩

theorem after_eq_some_iff {a s rest : List Char} : after a s = some rest ↔ s = a ++ rest := by
  induction a generalizing s with
  | nil => simp [after, eq_comm]
  | cons c more ih =>
    cases s with
    | nil => simp [after]
    | cons d s' =>
      by_cases same : c = d
      · simp [after, same, ih]
      · simp [after, same, Ne.symm same]

theorem severity_eq_some_iff {s rest : List Char} {sev : Severity} :
    severity s = some (sev, rest) ↔ s = sev.name.toList ++ ':' :: ' ' :: rest := by
  have word (sev' : Severity) (rest' : List Char) :
      after (sev'.name.toList ++ [':', ' ']) s = some rest' ↔
        s = sev'.name.toList ++ ':' :: ' ' :: rest' := by
    rw [after_eq_some_iff, List.append_assoc]
    rfl
  constructor
  · intro h
    obtain ⟨sev', _, found⟩ := List.exists_of_findSome?_eq_some h
    obtain ⟨rest', read, same⟩ := Option.map_eq_some_iff.mp found
    obtain ⟨rfl, rfl⟩ := Prod.mk.inj same
    exact (word sev' rest').mp read
  · rintro rfl
    cases sev <;> rfl

theorem isMessage_iff {text : List Char} :
    isMessage text = true ↔ (∃ c ∈ text.head?, isWhiteSpace c = false) ∧ '\n' ∉ text := by
  have lineFeed : isWhiteSpace '\n' = true := by decide
  cases text with
  | nil => simp [isMessage]
  | cons c rest =>
    simp only [isMessage, Bool.and_eq_true, Bool.not_eq_true', List.contains_eq_mem,
      decide_eq_false_iff_not, List.head?_cons, Option.mem_some, exists_eq_left', List.mem_cons,
      not_or]
    constructor
    · rintro ⟨start, plain⟩
      refine ⟨start, ?_, plain⟩
      rintro rfl
      rw [lineFeed] at start
      cases start
    · rintro ⟨start, _, plain⟩
      exact ⟨start, plain⟩

/-- A position is read where there is one; a severity comes after a blank, which is no digit. -/
theorem position_blank (s : List Char) : position (' ' :: s) = none := by
  have blank : isDecimalDigit ' ' = false := by decide
  simp [position, number, blank]

/-- The end of a finding is read where there is one. -/
theorem position_stop {stop : Option (List Char × List Char)} (rest : List Char)
    (isNumber : ∀ line column, stop = some (line, column) → IsNumber line ∧ IsNumber column) :
    position ((stop.elim [] fun (line, column) => spellPosition line column) ++ ' ' :: rest) =
      stop.map fun found => (found, ' ' :: rest) := by
  match stop with
  | none => exact position_blank rest
  | some (line, column) =>
    obtain ⟨isLine, isColumn⟩ := isNumber line column rfl
    exact position_eq_some_iff.mpr ⟨isLine, isColumn, rfl⟩

theorem remainder_spell {r : Remainder} (wellFormed : r.WellFormed) (oneLine : '\n' ∉ r.text) :
    remainder r.spell = some r := by
  let final := r.severity.name.toList ++ ':' :: ' ' :: r.text
  let stopText := r.stop.elim [] fun (line, column) => spellPosition line column
  have text_eq : r.spell =
      ':' :: (spellPosition r.line r.column ++ (stopText ++ ' ' :: final)) := by
    rw [← List.append_assoc]
    rfl
  have start : position (spellPosition r.line r.column ++ (stopText ++ ' ' :: final)) =
      some ((r.line, r.column), stopText ++ ' ' :: final) :=
    position_eq_some_iff.mpr ⟨wellFormed.line, wellFormed.column, rfl⟩
  have stop : position (stopText ++ ' ' :: final) = r.stop.map fun found => (found, ' ' :: final) :=
    position_stop final wellFormed.stop
  have word : severity final = some (r.severity, r.text) := severity_eq_some_iff.mpr rfl
  have message : isMessage r.text = true := isMessage_iff.mpr ⟨wellFormed.text, oneLine⟩
  have blank : after [' '] (' ' :: final) = some final := after_eq_some_iff.mpr rfl
  have built : some ⟨r.line, r.column, r.stop, r.severity, r.text⟩ = some r := rfl
  rw [text_eq]
  -- Where there is no end, the blank before the severity keeps one from being read.
  cases kind : r.stop with
  | none =>
    have absent : stopText = [] := by simp [stopText, kind]
    rw [absent, List.nil_append] at start stop ⊢
    rw [kind] at stop built
    simpa [remainder, start, stop, blank, word, message] using built
  | some found =>
    rw [kind] at stop built
    simpa [remainder, start, stop, blank, word, message] using built

/-- What is read is a remainder: its parts are those of the grammar, and it has their text. -/
theorem spell_of_remainder {s : List Char} {r : Remainder} (read : remainder s = some r) :
    r.WellFormed ∧ r.spell = s ∧ '\n' ∉ r.text := by
  unfold remainder at read
  split at read
  · simp only [Option.bind_eq_bind, Option.bind_eq_some_iff, Prod.exists] at read
    obtain ⟨line, column, s', start, sev, text, ⟨final, blank, word⟩, built⟩ := read
    obtain ⟨isLine, isColumn, rfl⟩ := position_eq_some_iff.mp start
    obtain rfl := severity_eq_some_iff.mp word
    split at built
    · rename_i message
      obtain rfl := Option.some.inj built
      obtain ⟨textStart, oneLine⟩ := isMessage_iff.mp message
      cases stop : position s' with
      | none =>
        rw [stop] at blank
        obtain rfl : s' = _ := after_eq_some_iff.mp blank
        exact ⟨⟨isLine, isColumn, by simp, textStart⟩, by simp [Remainder.spell], oneLine⟩
      | some found =>
        obtain ⟨⟨first, second⟩, rest⟩ := found
        obtain ⟨isFirst, isSecond, rfl⟩ := position_eq_some_iff.mp stop
        rw [stop] at blank
        obtain rfl : rest = _ := after_eq_some_iff.mp blank
        refine ⟨⟨isLine, isColumn, ?_, textStart⟩, by simp [Remainder.spell], oneLine⟩
        rintro _ _ ⟨rfl, rfl⟩
        exact ⟨isFirst, isSecond⟩
    · cases built
  · cases read

/-- A text is read as the one remainder whose text it is. -/
theorem remainder_eq_some_iff {s : List Char} {r : Remainder} :
    remainder s = some r ↔ r.WellFormed ∧ r.spell = s ∧ '\n' ∉ r.text := by
  refine ⟨spell_of_remainder, ?_⟩
  rintro ⟨wellFormed, rfl, oneLine⟩
  exact remainder_spell wellFormed oneLine

theorem IsNumber.lineFeed_not_mem {digits : List Char} (isNumber : IsNumber digits) :
    '\n' ∉ digits := by
  intro member
  have digit := isNumber.2 _ member
  have other : isDecimalDigit '\n' = false := by decide
  rw [other] at digit
  cases digit

/-- The only part of a remainder in which a line could end is the message. -/
theorem Remainder.WellFormed.lineFeed_mem_spell_iff {r : Remainder} (wellFormed : r.WellFormed) :
    '\n' ∈ r.spell ↔ '\n' ∈ r.text := by
  have start : '\n' ∉ spellPosition r.line r.column := by
    simp [spellPosition, wellFormed.line.lineFeed_not_mem, wellFormed.column.lineFeed_not_mem]
  have word : '\n' ∉ r.severity.name.toList := by cases r.severity <;> decide
  have stop : '\n' ∉ r.stop.elim [] fun (line, column) => spellPosition line column := by
    cases kind : r.stop with
    | none => simp
    | some found =>
      obtain ⟨isFirst, isSecond⟩ := wellFormed.stop found.1 found.2 kind
      simp [spellPosition, isFirst.lineFeed_not_mem, isSecond.lineFeed_not_mem]
  simp [spell, start, word, stop]

/-- Whether the first remainder in a text is the one after `front`, and no line ends before it. -/
structure Nearest (s front : List Char) (found : Remainder) : Prop where
  oneLine : '\n' ∉ front
  read : ∃ rest, s = front ++ rest ∧ remainder rest = some found
  least : ∀ front' rest', s = front' ++ rest' → (remainder rest').isSome = true →
    front.length ≤ front'.length

/-- A remainder at the very start is the first. -/
theorem nearest_iff_of_remainder {s front : List Char} {found here : Remainder}
    (read : remainder s = some here) : Nearest s front found ↔ front = [] ∧ found = here := by
  constructor
  · rintro ⟨_, ⟨rest, text, read'⟩, least⟩
    have empty : front.length ≤ 0 := least [] s rfl (by simp [read])
    obtain rfl := List.length_eq_zero_iff.mp (Nat.le_zero.mp empty)
    obtain rfl : s = rest := text
    exact ⟨rfl, Option.some.inj (read'.symm.trans read)⟩
  · rintro ⟨rfl, rfl⟩
    exact ⟨List.not_mem_nil, ⟨s, rfl, read⟩, fun _ _ _ _ => Nat.zero_le _⟩

/-- Where no remainder starts, the next character is passed over, unless the line ends with it. -/
theorem nearest_cons_iff {c : Char} {s front : List Char} {found : Remainder}
    (absent : remainder (c :: s) = none) :
    Nearest (c :: s) front found ↔
      c ≠ '\n' ∧ ∃ more, front = c :: more ∧ Nearest s more found := by
  constructor
  · rintro ⟨oneLine, ⟨rest, text, read⟩, least⟩
    cases front with
    | nil =>
      obtain rfl : c :: s = rest := text
      rw [absent] at read
      cases read
    | cons d more =>
      obtain ⟨rfl, rfl⟩ := List.cons.inj text
      simp only [List.mem_cons, not_or] at oneLine
      refine ⟨Ne.symm oneLine.1, more, rfl, oneLine.2, ⟨rest, rfl, read⟩, ?_⟩
      intro front' rest' text' readable
      exact Nat.le_of_succ_le_succ (least (c :: front') rest' (congrArg (c :: ·) text') readable)
  · rintro ⟨inLine, more, rfl, oneLine, ⟨rest, rfl, read⟩, least⟩
    refine ⟨by simp [oneLine, Ne.symm inLine], ⟨rest, rfl, read⟩, ?_⟩
    intro front' rest' text' readable
    cases front' with
    | nil =>
      obtain rfl : c :: (more ++ rest) = rest' := text'
      rw [absent] at readable
      cases readable
    | cons d front' =>
      obtain ⟨rfl, text''⟩ := List.cons.inj text'
      exact Nat.succ_le_succ (least front' rest' text'' readable)

theorem search_eq_some_iff {start s path : List Char} {found : Remainder} :
    search start s = some (path, found) ↔
      ∃ front, path = start.reverse ++ front ∧ Nearest s front found := by
  induction s generalizing start with
  | nil =>
    refine ⟨fun h => by simp [search] at h, ?_⟩
    rintro ⟨front, _, ⟨_, ⟨rest, text, read⟩, _⟩⟩
    obtain ⟨rfl, rfl⟩ := List.append_eq_nil_iff.mp text.symm
    simp [remainder] at read
  | cons c s ih =>
    rw [search]
    cases here : remainder (c :: s) with
    | some found' =>
      simp only [nearest_iff_of_remainder here]
      simp [eq_comm]
    | none =>
      simp only [nearest_cons_iff here]
      by_cases inLine : c = '\n'
      · simp [inLine]
      · rw [if_neg inLine, ih]
        simp [inLine]

/-- A line is cut as the grammar says, if it is one line. -/
theorem parts_eq_some_iff {t path : List Char} {found : Remainder} :
    parts t = some (path, found) ↔ '\n' ∉ t ∧ Parts t path found := by
  cases t with
  | nil =>
    refine ⟨fun h => by simp [parts] at h, ?_⟩
    rintro ⟨_, cut⟩
    exact absurd (List.append_eq_nil_iff.mp cut.text_eq.symm).1 cut.path_ne_nil
  | cons c s =>
    rw [parts]
    split
    · rename_i lineFeed
      simp [lineFeed]
    · rename_i inLine
      -- The first character is in every path, so the search begins after it.
      rw [search_eq_some_iff]
      constructor
      · rintro ⟨front, rfl, oneLine, ⟨rest, rfl, read⟩, least⟩
        obtain ⟨wellFormed, rfl, plain⟩ := remainder_eq_some_iff.mp read
        have whole : '\n' ∉ c :: (front ++ found.spell) := by
          simp [Ne.symm inLine, oneLine, wellFormed.lineFeed_mem_spell_iff, plain]
        refine ⟨whole, ⟨by simp, wellFormed, rfl⟩, ?_⟩
        rintro path' found' ⟨nonempty, wellFormed', text'⟩
        obtain ⟨d, front', rfl⟩ := List.exists_cons_of_ne_nil nonempty
        obtain ⟨rfl, text''⟩ := List.cons.inj text'
        have plain' : '\n' ∉ found'.text := by
          rw [text', List.mem_append, not_or, wellFormed'.lineFeed_mem_spell_iff] at whole
          exact whole.2
        have read' := remainder_spell wellFormed' plain'
        exact Nat.succ_le_succ (least front' found'.spell text'' (by rw [read']; rfl))
      · rintro ⟨oneLine, ⟨nonempty, wellFormed, text⟩, shortest⟩
        obtain ⟨d, front, rfl⟩ := List.exists_cons_of_ne_nil nonempty
        obtain ⟨rfl, rfl⟩ := List.cons.inj text
        rw [List.mem_cons, not_or] at oneLine
        obtain ⟨frontLine, spellLine⟩ := List.mem_append.not.mp oneLine.2 |> not_or.mp
        have plain : '\n' ∉ found.text := wellFormed.lineFeed_mem_spell_iff.not.mp spellLine
        refine ⟨front, rfl, frontLine, ⟨found.spell, rfl, remainder_spell wellFormed plain⟩, ?_⟩
        intro front' rest' text' readable
        obtain ⟨found', read'⟩ := Option.isSome_iff_exists.mp readable
        obtain ⟨wellFormed', rfl, _⟩ := remainder_eq_some_iff.mp read'
        have cut : Cut (c :: (front ++ found.spell)) (c :: front') found' :=
          ⟨List.cons_ne_nil _ _, wellFormed', congrArg (c :: ·) text'⟩
        exact Nat.le_of_succ_le_succ (shortest _ _ cut)

theorem spellPosition_inj {line column line' column' rest rest' : List Char}
    (isLine : IsNumber line) (isColumn : IsNumber column) (isLine' : IsNumber line')
    (isColumn' : IsNumber column')
    (same : spellPosition line column ++ rest = spellPosition line' column' ++ rest') :
    line = line' ∧ column = column' ∧ rest = rest' := by
  have read : position (spellPosition line column ++ rest) = some ((line, column), rest) :=
    position_eq_some_iff.mpr ⟨isLine, isColumn, rfl⟩
  rw [position_eq_some_iff.mpr ⟨isLine', isColumn', same⟩] at read
  simp only [Option.some.injEq, Prod.mk.injEq] at read
  exact ⟨read.1.1.symm, read.1.2.symm, read.2.symm⟩

theorem severityWord_inj {sev sev' : Severity} {rest rest' : List Char}
    (same : sev.name.toList ++ ':' :: ' ' :: rest = sev'.name.toList ++ ':' :: ' ' :: rest') :
    sev = sev' ∧ rest = rest' := by
  have read := severity_eq_some_iff.mpr same
  rw [severity_eq_some_iff.mpr (Eq.refl (sev.name.toList ++ ':' :: ' ' :: rest))] at read
  exact Prod.mk.inj (Option.some.inj read)

/-- A text is the text of at most one remainder. -/
theorem Remainder.WellFormed.spell_inj {r r' : Remainder} (wellFormed : r.WellFormed)
    (wellFormed' : r'.WellFormed) (same : r.spell = r'.spell) : r = r' := by
  simp only [Remainder.spell, List.cons.injEq, List.append_assoc, true_and] at same
  obtain ⟨line, column, rest⟩ := spellPosition_inj wellFormed.line wellFormed.column
    wellFormed'.line wellFormed'.column same
  have read := position_stop (r.severity.name.toList ++ ':' :: ' ' :: r.text) wellFormed.stop
  rw [rest, position_stop _ wellFormed'.stop] at read
  have stop : r.stop = r'.stop := by
    simpa [Function.comp_def] using congrArg (Option.map Prod.fst) read.symm
  rw [stop] at rest
  obtain ⟨severity, text⟩ := severityWord_inj (List.cons.inj (List.append_cancel_left rest)).2
  cases r
  cases r'
  simp_all

/-- A text is cut in one way only. -/
theorem Parts.unique {t path path' : List Char} {found found' : Remainder}
    (parts : Parts t path found) (parts' : Parts t path' found') :
    path = path' ∧ found = found' := by
  have size : path.length = path'.length :=
    Nat.le_antisymm (parts.shortest _ _ parts'.toCut) (parts'.shortest _ _ parts.toCut)
  obtain ⟨rfl, same⟩ := List.append_inj (parts.text_eq.symm.trans parts'.text_eq) size
  exact ⟨rfl, parts.wellFormed.spell_inj parts'.wellFormed same⟩

/-- A text that can be cut has a shortest path. -/
theorem Cut.exists_parts {t path : List Char} {found : Remainder} (cut : Cut t path found) :
    ∃ path found, Parts t path found := by
  induction size : path.length using Nat.strong_induction_on generalizing path found with
  | _ n ih =>
    by_cases least : ∀ path' found', Cut t path' found' → path.length ≤ path'.length
    · exact ⟨path, found, cut, least⟩
    · push Not at least
      obtain ⟨path', found', cut', shorter⟩ := least
      exact ih path'.length (size ▸ shorter) cut' rfl

theorem asciiDigit?_eq_some_iff {c : Char} {n : Nat} :
    asciiDigit? c = some n ↔ c.isDigit = true ∧ n = c.toNat - '0'.toNat := by
  have digit : c.isDigit = true ↔ '0' ≤ c ∧ c ≤ '9' := by
    simp [Char.isDigit, Char.le_def]
  rw [asciiDigit?, digit]
  split
  · rename_i isDigit
    simp [isDigit, eq_comm]
  · rename_i other
    simp [other]

theorem value?_concat (front : List Char) (c : Char) :
    value? (front ++ [c]) =
      (value? front).bind fun n => (asciiDigit? c).map (n * 10 + ·) := by
  rw [value?, List.foldlM_append]
  simp [value?]

/-- The value is the positional one. -/
theorem value?_eq_some_iff {digits : List Char} {n : Nat} :
    value? digits = some n ↔ (∀ c ∈ digits, c.isDigit = true) ∧
      n = Nat.ofDigits 10 (digits.reverse.map fun c => c.toNat - '0'.toNat) := by
  -- The last digit weighs least, so the digits before it are a number of their own.
  induction digits using List.reverseRecOn generalizing n with
  | nil =>
    have empty : value? [] = some 0 := rfl
    rw [empty, Option.some.injEq, eq_comm]
    simp
  | append_singleton front c ih =>
    rw [value?_concat]
    simp only [Option.bind_eq_some_iff, Option.map_eq_some_iff, ih, asciiDigit?_eq_some_iff,
      List.reverse_append, List.reverse_singleton, List.singleton_append, List.map_cons,
      Nat.ofDigits_cons, List.forall_mem_append, List.forall_mem_singleton]
    constructor
    · rintro ⟨_, ⟨all, rfl⟩, _, ⟨digit, rfl⟩, rfl⟩
      exact ⟨⟨all, digit⟩, by omega⟩
    · rintro ⟨⟨all, digit⟩, rfl⟩
      exact ⟨_, ⟨all, rfl⟩, _, ⟨digit, rfl⟩, by omega⟩

theorem word?_eq_some_iff {digits : List Char} {n : Nat} :
    word? digits = some n ↔ Denotes digits n := by
  rw [word?, Option.filter_eq_some_iff, value?_eq_some_iff, Denotes, decide_eq_true_iff, and_assoc]

theorem isCodeCharacter_iff {c : Char} :
    isCodeCharacter c = true ↔ isWordCharacter c = true ∨ c = '-' := by
  simp [isCodeCharacter]

/-- A text with a code, read from its end. -/
theorem coded_iff_reverse {text message code : List Char} :
    Coded text message code ↔ message ≠ [] ∧ code ≠ [] ∧
      (∀ c ∈ code.reverse, isCodeCharacter c = true) ∧
      text.reverse = ']' :: (code.reverse ++ '[' :: ' ' :: ' ' :: message.reverse) := by
  simp only [List.mem_reverse, isCodeCharacter_iff]
  constructor
  · rintro ⟨nonempty, nonempty', word, rfl⟩
    exact ⟨nonempty, nonempty', word, by simp⟩
  · rintro ⟨nonempty, nonempty', word, reversed⟩
    exact ⟨nonempty, nonempty', word, by simpa using congrArg List.reverse reversed⟩

theorem messageAndCode_of_coded {text message code : List Char}
    (coded : Coded text message code) : messageAndCode text = (message, some code) := by
  obtain ⟨nonempty, nonempty', word, reversed⟩ := coded_iff_reverse.mp coded
  have bracket : isCodeCharacter '[' = false := by decide +kernel
  let rest := '[' :: ' ' :: ' ' :: message.reverse
  have taken : (code.reverse ++ rest).takeWhile isCodeCharacter = code.reverse :=
    takeWhile_mark word bracket _
  have dropped : (code.reverse ++ rest).dropWhile isCodeCharacter = rest :=
    dropWhile_mark word bracket _
  obtain ⟨k, code', code_eq⟩ := List.exists_cons_of_ne_nil (List.reverse_ne_nil_iff.mpr nonempty')
  obtain ⟨d, message', message_eq⟩ :=
    List.exists_cons_of_ne_nil (List.reverse_ne_nil_iff.mpr nonempty)
  have rest_eq : rest = '[' :: ' ' :: ' ' :: d :: message' := by rw [← message_eq]
  rw [code_eq] at taken dropped reversed
  rw [rest_eq] at taken dropped
  rw [message_eq] at reversed
  rw [messageAndCode, reversed]
  simp only [taken, dropped]
  rw [← message_eq, ← code_eq, List.reverse_reverse, List.reverse_reverse]

/-- What is read as a code is one; otherwise the message is the whole text. -/
theorem messageAndCode_cases (text : List Char) :
    (∃ message code, Coded text message code ∧ messageAndCode text = (message, some code)) ∨
      messageAndCode text = (text, none) := by
  unfold messageAndCode
  split
  · rename_i s reversed
    have whole : s.takeWhile isCodeCharacter ++ s.dropWhile isCodeCharacter = s :=
      List.takeWhile_append_dropWhile
    have all : ∀ c ∈ s.takeWhile isCodeCharacter, isCodeCharacter c = true :=
      fun _ member => List.mem_takeWhile_imp member
    split
    · rename_i c code d message taken dropped
      rw [taken, dropped] at whole
      rw [taken] at all
      refine .inl ⟨_, _, coded_iff_reverse.mpr ⟨by simp, by simp, ?_, ?_⟩, rfl⟩
      · simpa only [List.reverse_reverse] using all
      · rw [reversed, ← whole, List.reverse_reverse, List.reverse_reverse]
    · exact .inr rfl
  · exact .inr rfl

theorem messageAndCode_eq_none {text : List Char}
    (plain : ¬ ∃ message code, Coded text message code) : messageAndCode text = (text, none) := by
  obtain ⟨message, code, coded, _⟩ | read := messageAndCode_cases text
  · exact absurd ⟨message, code, coded⟩ plain
  · exact read

theorem Denotes.unique {digits : List Char} {n n' : Nat} (denotes : Denotes digits n)
    (denotes' : Denotes digits n') : n = n' :=
  denotes.2.1.trans denotes'.2.1.symm

/-- A path and a remainder stand for one finding only. -/
theorem Describes.unique {path : List Char} {found : Remainder} {d d' : Finding}
    (describes : Describes path found d) (describes' : Describes path found d') : d = d' := by
  have stop : d.stop = d'.stop := by
    ext ⟨line, column⟩
    exact (describes.stop line column).trans (describes'.stop line column).symm
  have message : d.message = d'.message ∧ d.code = d'.code := by
    by_cases coded : ∃ message code, Coded found.text message code
    · obtain ⟨message, code, coded⟩ := coded
      obtain ⟨message_eq, code_eq⟩ := describes.coded message code coded
      obtain ⟨message_eq', code_eq'⟩ := describes'.coded message code coded
      exact ⟨message_eq.trans message_eq'.symm, code_eq.trans code_eq'.symm⟩
    · obtain ⟨message_eq, code_eq⟩ := describes.plain coded
      obtain ⟨message_eq', code_eq'⟩ := describes'.plain coded
      exact ⟨message_eq.trans message_eq'.symm, code_eq.trans code_eq'.symm⟩
  have path_eq := describes.path_eq.trans describes'.path_eq.symm
  have line := describes.line.unique describes'.line
  have column := describes.column.unique describes'.column
  have severity_eq := describes.severity_eq.trans describes'.severity_eq.symm
  cases d
  cases d'
  simp_all

theorem finding?_isSome_iff {path : List Char} {found : Remainder} :
    (finding? path found).isSome = true ↔
      (∃ n, Denotes found.line n) ∧ ∃ n, Denotes found.column n := by
  simp [finding?, ← word?_eq_some_iff, Option.isSome_iff_exists, Option.bind_eq_some_iff]

theorem describes_of_finding? {path : List Char} {found : Remainder} {d : Finding}
    (read : finding? path found = some d) : Describes path found d := by
  simp only [finding?, Option.bind_eq_bind, Option.bind_eq_some_iff, word?_eq_some_iff] at read
  obtain ⟨line, isLine, column, isColumn, built⟩ := read
  obtain rfl := Option.some.inj built
  refine ⟨rfl, isLine, isColumn, ?_, rfl, ?_, ?_⟩
  · intro line column
    simp [Option.bind_eq_some_iff, word?_eq_some_iff]
  · intro message code coded
    simp [messageAndCode_of_coded coded]
  · intro plain
    simp [messageAndCode_eq_none plain]

theorem finding?_eq_some_iff {path : List Char} {found : Remainder} {d : Finding} :
    finding? path found = some d ↔ Describes path found d := by
  refine ⟨describes_of_finding?, ?_⟩
  intro describes
  obtain ⟨d', read⟩ := Option.isSome_iff_exists.mp
    (finding?_isSome_iff.mpr ⟨⟨_, describes.line⟩, ⟨_, describes.column⟩⟩)
  rw [read, describes.unique (describes_of_finding? read)]

end Report

namespace Finding

open Report

theorem parse?_eq_some_iff {line : String} {d : Finding} :
    parse? line = some d ↔ '\n' ∉ content line ∧
      ∃ path found, Parts (content line) path found ∧ Describes path found d := by
  simp only [parse?, ofChars?, trimEnd_eq_rdropWhile, content, Option.bind_eq_bind,
    Option.bind_eq_some_iff, Prod.exists, parts_eq_some_iff, finding?_eq_some_iff, and_assoc,
    exists_and_left]

theorem parse?_isSome_iff {line : String} :
    (parse? line).isSome = true ↔ '\n' ∉ content line ∧
      ∃ path found, Parts (content line) path found ∧
        (∃ n, Denotes found.line n) ∧ ∃ n, Denotes found.column n := by
  constructor
  · intro read
    obtain ⟨d, read⟩ := Option.isSome_iff_exists.mp read
    obtain ⟨oneLine, path, found, parts, describes⟩ := parse?_eq_some_iff.mp read
    exact ⟨oneLine, path, found, parts, ⟨_, describes.line⟩, ⟨_, describes.column⟩⟩
  · rintro ⟨oneLine, path, found, parts, numbers⟩
    have read : (finding? path found).isSome = true := finding?_isSome_iff.mpr numbers
    obtain ⟨d, read⟩ := Option.isSome_iff_exists.mp read
    have whole := parse?_eq_some_iff.mpr ⟨oneLine, path, found, parts, finding?_eq_some_iff.mp read⟩
    exact Option.isSome_iff_exists.mpr ⟨d, whole⟩

/-- A line is a finding exactly if its content is one line and has the form of a report line, with
numbers in ASCII that fit into 32 bits after the shortest path; the finding is then the one that
this path and the remainder stand for, and the remainder has its form in one way only. -/
theorem report_line_grammar (line : String) :
    ((parse? line).isSome = true ↔ '\n' ∉ content line ∧
      (∃ path found, Cut (content line) path found) ∧
      ∀ path found, Parts (content line) path found →
        (∃ n, Denotes found.line n) ∧ ∃ n, Denotes found.column n) ∧
    (∀ d, parse? line = some d ↔ '\n' ∉ content line ∧
      ∃ path found, Parts (content line) path found ∧ Describes path found d) ∧
    (∀ path path' found found', Parts (content line) path found →
      Parts (content line) path' found' → path = path' ∧ found = found') ∧
    ∀ r r' : Remainder, r.WellFormed → r'.WellFormed → r.spell = r'.spell → r = r' := by
  refine ⟨?_, fun d => parse?_eq_some_iff, fun _ _ _ _ => Parts.unique,
    fun _ _ => Remainder.WellFormed.spell_inj⟩
  rw [parse?_isSome_iff]
  refine and_congr_right fun _ => ⟨?_, ?_⟩
  · rintro ⟨path, found, parts, numbers⟩
    refine ⟨⟨path, found, parts.toCut⟩, fun path' found' parts' => ?_⟩
    obtain ⟨_, rfl⟩ := parts.unique parts'
    exact numbers
  · rintro ⟨⟨_, _, cut⟩, numbers⟩
    obtain ⟨path, found, parts⟩ := cut.exists_parts
    exact ⟨path, found, parts, numbers path found parts⟩

/-- Of two places where a remainder starts, the first ends the path. -/
example : parse? "a:1:2: note: b:3:4: error: c" =
    some ⟨"a", 1, 2, none, .note, "b:3:4: error: c", none⟩ := by
  decide +kernel

end Finding

end EditorBridge
