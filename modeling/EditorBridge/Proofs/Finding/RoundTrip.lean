import EditorBridge.Proofs.Finding.Grammar
import Mathlib.Data.List.Chain

/-!
# Writing and reading findings

The line of a finding is read as that finding again (`parse_render`), unless a part of it could be
taken for another one: a colon and a digit in the path, or a bracketed word at the end of a message
without a code.  Everything else may stand in a path or in a message, other report lines included.
-/
namespace EditorBridge

open EditorBridge.Unicode EditorBridge.Text

namespace Report

theorem isDecimalDigit_of_isDigit {c : Char} (digit : c.isDigit = true) :
    isDecimalDigit c = true := by
  simp only [Char.isDigit, Bool.and_eq_true, decide_eq_true_eq, UInt32.le_iff_toNat_le] at digit
  exact Ranges.contains_head digit.1 digit.2

theorem isDigit_of_mem_toDigits {n : Nat} : ∀ c ∈ Nat.toDigits 10 n, c.isDigit = true :=
  fun _ member => Nat.isDigit_of_mem_toDigits (by decide) (by decide) member

theorem isNumber_toDigits (n : Nat) : IsNumber (Nat.toDigits 10 n) :=
  ⟨Nat.toDigits_ne_nil, fun c member =>
    isDecimalDigit_of_isDigit (isDigit_of_mem_toDigits c member)⟩

/-- The digits of a number have it as their value. -/
theorem ofDigits_toDigits (n : Nat) :
    Nat.ofDigits 10 ((Nat.toDigits 10 n).reverse.map fun c => c.toNat - '0'.toNat) = n := by
  induction n using Nat.strong_induction_on with
  | _ n ih =>
    have value {m : Nat} (small : m < 10) : (Nat.digitChar m).toNat - '0'.toNat = m :=
      Nat.toNat_digitChar_sub_48_of_lt_ten small
    rw [Nat.toDigits_eq_if (by decide)]
    split
    · rename_i small
      rw [List.reverse_singleton, List.map_singleton, Nat.ofDigits_singleton, value small]
    · have front := ih (n / 10) (by omega)
      rw [List.reverse_append, List.reverse_singleton, List.singleton_append, List.map_cons,
        Nat.ofDigits_cons, front, value (Nat.mod_lt n (by decide))]
      omega

theorem denotes_toDigits {n : Nat} (fits : n < UInt32.size) : Denotes (Nat.toDigits 10 n) n :=
  ⟨isDigit_of_mem_toDigits, (ofDigits_toDigits n).symm, fits⟩

def written (d : Finding) : Remainder where
  line := Nat.toDigits 10 d.line
  column := Nat.toDigits 10 d.column
  stop := d.stop.map fun (line, column) => (Nat.toDigits 10 line, Nat.toDigits 10 column)
  severity := d.severity
  text := d.message.toList
    ++ d.code.elim [] fun code => ' ' :: ' ' :: '[' :: (code.toList ++ [']'])

theorem toList_renderPosition (line column : Nat) :
    (Finding.renderPosition line column).toList =
      spellPosition (Nat.toDigits 10 line) (Nat.toDigits 10 column) := by
  simp [Finding.renderPosition, spellPosition]

/-- The line is the path and the remainder. -/
theorem toList_render (d : Finding) : d.render.toList = d.path.toList ++ (written d).spell := by
  obtain ⟨path, line, column, stop, severity, message, code⟩ := d
  cases stop <;> cases code <;>
    simp [Finding.render, written, Remainder.spell, toList_renderPosition]

end Report

namespace Finding

open Report

/-- Whether no part of a finding can be taken for another: the path has no position in it, the
numbers fit, and the message ends where the line or the code begins. -/
structure Unambiguous (d : Finding) : Prop where
  path_ne_nil : d.path.toList ≠ []
  path_oneLine : '\n' ∉ d.path.toList
  path_plain : d.path.toList.IsChain fun a b => ¬ (a = ':' ∧ isDecimalDigit b = true)
  line_lt : d.line < UInt32.size
  column_lt : d.column < UInt32.size
  stop_lt : ∀ line column, d.stop = some (line, column) →
    line < UInt32.size ∧ column < UInt32.size
  message_start : ∃ c ∈ d.message.toList.head?, isWhiteSpace c = false
  message_oneLine : '\n' ∉ d.message.toList
  code_word : ∀ code, d.code = some code →
    code.toList ≠ [] ∧ ∀ c ∈ code.toList, isWordCharacter c = true ∨ c = '-'
  message_stop : d.code = none →
    (∀ c ∈ d.message.toList.getLast?, isWhiteSpace c = false) ∧
      ¬ ∃ front code, Coded d.message.toList front code

end Finding

namespace Report

variable {d : Finding}

theorem wellFormed_written (unambiguous : d.Unambiguous) : (written d).WellFormed where
  line := isNumber_toDigits d.line
  column := isNumber_toDigits d.column
  stop := by
    intro line column isStop
    obtain ⟨position, _, same⟩ := Option.map_eq_some_iff.mp isStop
    obtain ⟨rfl, rfl⟩ := Prod.mk.inj same
    exact ⟨isNumber_toDigits _, isNumber_toDigits _⟩
  text := by
    obtain ⟨c, start, visible⟩ := unambiguous.message_start
    exact ⟨c, List.mem_head?_append_of_mem_head? start, visible⟩

/-- A message with a code after it is cut at the code. -/
theorem coded_written {code : String} (unambiguous : d.Unambiguous) (isCode : d.code = some code) :
    Coded (written d).text d.message.toList code.toList := by
  obtain ⟨nonempty, word⟩ := unambiguous.code_word code isCode
  obtain ⟨c, start, _⟩ := unambiguous.message_start
  have message_ne_nil : d.message.toList ≠ [] := by
    intro empty
    simp [empty] at start
  exact ⟨message_ne_nil, nonempty, word, by simp [written, isCode]⟩

theorem Remainder.exists_spell_eq_append (r : Remainder) : ∃ front, r.spell = front ++ r.text :=
  ⟨':' :: (spellPosition r.line r.column
    ++ (r.stop.elim [] fun position => spellPosition position.1 position.2)
    ++ ' ' :: (r.severity.name.toList ++ [':', ' '])), by cases h : r.stop <;> simp [spell, h]⟩

/-- A line ends in its code or in its message, and not in white space. -/
theorem getLast?_render (unambiguous : d.Unambiguous) :
    ∀ c ∈ d.render.toList.getLast?, isWhiteSpace c = false := by
  obtain ⟨front, spell_eq⟩ := (written d).exists_spell_eq_append
  rw [toList_render, spell_eq, ← List.append_assoc]
  cases isCode : d.code with
  | none =>
    have text_eq : (written d).text = d.message.toList := by simp [written, isCode]
    obtain ⟨c, start, _⟩ := unambiguous.message_start
    have message_ne_nil : d.message.toList ≠ [] := List.ne_nil_of_mem (List.mem_of_mem_head? start)
    rw [text_eq, List.getLast?_append_of_ne_nil _ message_ne_nil]
    exact (unambiguous.message_stop isCode).1
  | some code =>
    have text_eq : (written d).text =
        d.message.toList ++ ' ' :: ' ' :: '[' :: code.toList ++ [']'] := by simp [written, isCode]
    rw [text_eq, ← List.append_assoc, List.getLast?_append_of_ne_nil _ (by simp)]
    intro c member
    obtain rfl : ']' = c := by simpa using member
    decide

theorem lineFeed_not_mem_render (unambiguous : d.Unambiguous) : '\n' ∉ d.render.toList := by
  have outside : isWordCharacter '\n' = false := by decide +kernel
  have text : '\n' ∉ (written d).text := by
    cases isCode : d.code with
    | none => simpa [written, isCode] using unambiguous.message_oneLine
    | some code =>
      have plain : '\n' ∉ code.toList := by
        intro member
        obtain word | hyphen := (unambiguous.code_word code isCode).2 _ member
        · rw [outside] at word
          cases word
        · cases hyphen
      simp [written, isCode, unambiguous.message_oneLine, plain]
  rw [toList_render, List.mem_append, not_or,
    (wellFormed_written unambiguous).lineFeed_mem_spell_iff]
  exact ⟨unambiguous.path_oneLine, text⟩

/-- A remainder starts with a colon and a digit. -/
theorem Remainder.WellFormed.exists_spell_eq {r : Remainder} (wellFormed : r.WellFormed) :
    ∃ c rest, r.spell = ':' :: c :: rest ∧ isDecimalDigit c = true := by
  obtain ⟨nonempty, all⟩ := wellFormed.line
  obtain ⟨c, more, digits⟩ := List.exists_cons_of_ne_nil nonempty
  have isDigit : isDecimalDigit c = true := all c (by simp [digits])
  simp only [spell, spellPosition, digits, List.cons_append]
  exact ⟨c, _, rfl, isDigit⟩

/-- No remainder starts within the path. -/
theorem parts_render (unambiguous : d.Unambiguous) :
    Parts d.render.toList d.path.toList (written d) := by
  refine ⟨⟨unambiguous.path_ne_nil, wellFormed_written unambiguous, toList_render d⟩, ?_⟩
  rintro path' found' ⟨_, wellFormed', text_eq'⟩
  obtain ⟨c, rest, start, isDigit⟩ := wellFormed'.exists_spell_eq
  rw [toList_render, List.append_eq_append_iff] at text_eq'
  obtain ⟨more, rfl, _⟩ | ⟨more, path_eq, spell_eq⟩ := text_eq'
  · simp
  · -- Otherwise the colon and the digit are both in the path, or the digit is the colon after it.
    rw [start] at spell_eq
    match more with
    | [] => simp [path_eq]
    | [a] =>
      obtain ⟨c', rest', start', _⟩ := (wellFormed_written unambiguous).exists_spell_eq
      rw [start'] at spell_eq
      simp only [List.singleton_append, List.cons.injEq] at spell_eq
      rw [spell_eq.2.1, not_isDecimalDigit_colon] at isDigit
      cases isDigit
    | a :: b :: more =>
      simp only [List.cons_append, List.cons.injEq] at spell_eq
      have plain := unambiguous.path_plain
      rw [path_eq, List.isChain_append_cons_cons] at plain
      exact absurd ⟨spell_eq.1.symm, spell_eq.2.1 ▸ isDigit⟩ plain.2.1

/-- The parts of a finding's line stand for that finding. -/
theorem describes_written (unambiguous : d.Unambiguous) :
    Describes d.path.toList (written d) d where
  path_eq := String.ofList_toList.symm
  line := denotes_toDigits unambiguous.line_lt
  column := denotes_toDigits unambiguous.column_lt
  stop := by
    intro line column
    constructor
    · intro isStop
      obtain ⟨line_lt, column_lt⟩ := unambiguous.stop_lt line column isStop
      exact ⟨_, _, by rw [written, isStop]; rfl, denotes_toDigits line_lt,
        denotes_toDigits column_lt⟩
    · rintro ⟨first, second, isStop, isLine, isColumn⟩
      obtain ⟨⟨line', column'⟩, stop_eq, same⟩ := Option.map_eq_some_iff.mp isStop
      obtain ⟨rfl, rfl⟩ := Prod.mk.inj same
      obtain ⟨line_lt, column_lt⟩ := unambiguous.stop_lt line' column' stop_eq
      rw [stop_eq, isLine.unique (denotes_toDigits line_lt),
        isColumn.unique (denotes_toDigits column_lt)]
  severity_eq := rfl
  coded := by
    intro message code coded
    cases isCode : d.code with
    | none =>
      have text_eq : (written d).text = d.message.toList := by simp [written, isCode]
      rw [text_eq] at coded
      exact absurd ⟨message, code, coded⟩ (unambiguous.message_stop isCode).2
    | some code' =>
      have read := messageAndCode_of_coded coded
      rw [messageAndCode_of_coded (coded_written unambiguous isCode)] at read
      obtain ⟨rfl, same⟩ := Prod.mk.inj read
      obtain rfl := Option.some.inj same
      simp
  plain := by
    intro plain
    cases isCode : d.code with
    | none => simp [written, isCode]
    | some code => exact absurd ⟨_, _, coded_written unambiguous isCode⟩ plain

end Report

namespace Finding

open Report

/-- The line of a finding, with any white space after it, is read as that finding. -/
theorem parse_render (d : Finding) (unambiguous : d.Unambiguous) (after : String)
    (white : isBlank after = true) : parse? (d.render ++ after) = some d := by
  have content_eq : content (d.render ++ after) = d.render.toList := by
    rw [content, String.toList_append, ← trimEnd_eq_rdropWhile, trimEnd_append white]
    exact trimEnd_eq_self_iff.mpr (getLast?_render unambiguous)
  rw [parse?_eq_some_iff, content_eq]
  exact ⟨lineFeed_not_mem_render unambiguous, _, _, parts_render unambiguous,
    describes_written unambiguous⟩

/-- A drive and blanks in the path, and a message that looks like a report line, with a code and
without one. -/
theorem parse_render_of_nested :
    let coded : Finding := ⟨"C:\\my files\\m.py", 12, 5, some (12, 4294967295), .error,
      "a.py:1:2: note: see [x] and b.py:3:4: error: y  [z]", some "return-value"⟩
    let plain : Finding := ⟨"a b:", 0, 1, none, .note, "m.py:1:2:1:4: warning: y [z]", none⟩
    let white := " \t\r\n"
    (coded.Unambiguous ∧ plain.Unambiguous ∧ isBlank white = true) ∧
      coded.render = "C:\\my files\\m.py:12:5:12:4294967295: error: "
        ++ "a.py:1:2: note: see [x] and b.py:3:4: error: y  [z]  [return-value]" ∧
      plain.render = "a b::0:1: note: m.py:1:2:1:4: warning: y [z]" ∧
      parse? (coded.render ++ white) = some coded ∧
      parse? (plain.render ++ white) = some plain := by
  intro coded plain white
  have isCoded : coded.Unambiguous := by
    refine ⟨by decide, by decide, by decide, by decide, by decide, ?_, ⟨'a', by decide⟩,
      by decide, ?_, nofun⟩
    · rintro line column ⟨rfl, rfl⟩
      decide
    · rintro code ⟨rfl⟩
      have letters : "return-value".toList.all isCodeCharacter = true := by decide +kernel
      exact ⟨by decide, fun c member =>
        isCodeCharacter_iff.mp (List.all_eq_true.mp letters c member)⟩
  have isPlain : plain.Unambiguous := by
    refine ⟨by decide, by decide, by decide, by decide, by decide, nofun, ⟨'m', by decide⟩,
      by decide, nofun, fun _ => ⟨?_, ?_⟩⟩
    · intro c last
      have bracket : plain.message.toList.getLast? = some ']' := by decide
      obtain rfl : ']' = c := Option.some.inj (bracket.symm.trans last)
      decide
    · rintro ⟨message, code, coded⟩
      have read : messageAndCode plain.message.toList = (plain.message.toList, none) := by
        decide +kernel
      rw [messageAndCode_of_coded coded] at read
      cases (Prod.mk.inj read).2
  have isWhite : isBlank white = true := by decide
  exact ⟨⟨isCoded, isPlain, isWhite⟩, by decide +kernel, by decide +kernel,
    parse_render coded isCoded white isWhite, parse_render plain isPlain white isWhite⟩

end Finding

end EditorBridge
