import EditorBridge.Proofs.Command.Tokens
import EditorBridge.Proofs.Session.Composition
import EditorBridge.Proofs.Session.StdoutLines
import EditorBridge.Proofs.Session.TokenOrder
import EditorBridge.Proofs.Text.Unquoting

/-!
# Echoes

The echo of a command shows all its tokens on one line, and no token can forge another one or break
the line: every character of the echo has a glyph of its own or is the space, and the tokens are
read back from it (`echo_unforgeable`).

What has no glyph is a matter of the character tables; that control characters are among it, and all
separators but the space, is checked on their members.
-/
namespace EditorBridge

namespace Unicode

def Ranges.members (ranges : Ranges) : List Nat :=
  ranges.flatMap fun range => List.range' range.1 (range.2 + 1 - range.1)

theorem Ranges.mem_members {ranges : Ranges} {n : Nat} (within : ranges.contains n = true) :
    n ∈ ranges.members := by
  induction ranges with
  | nil => cases within
  | cons range rest ih =>
    obtain ⟨low, high⟩ := range
    rw [members, List.flatMap_cons, List.mem_append]
    rw [contains] at within
    split at within
    · cases within
    · split at within
      · left
        rw [List.mem_range'_1]
        omega
      · exact .inr (ih within)

/-- Control characters, the category `Cc`. -/
def controls : Ranges := [(0x0, 0x1f), (0x7f, 0x9f)]

/-- Separators of words, lines and paragraphs, the categories `Zs`, `Zl` and `Zp`. -/
def separators : Ranges := [
  (0x20, 0x20), (0xa0, 0xa0), (0x1680, 0x1680), (0x2000, 0x200a), (0x2028, 0x2029),
  (0x202f, 0x202f), (0x205f, 0x205f), (0x3000, 0x3000)]

/-- A control character. -/
def isControl (c : Char) : Bool := controls.contains c.toNat

/-- A separator of words, lines or paragraphs. -/
def isSeparator (c : Char) : Bool := separators.contains c.toNat

theorem not_isPrintable_of_isControl {c : Char} (control : isControl c = true) :
    isPrintable c = false := by
  have all : ∀ n ∈ controls.members, unprintable.contains n = true := by decide +kernel
  rw [isPrintable, all _ (Ranges.mem_members control)]
  rfl

/-- The space is the only separator that is shown. -/
theorem eq_space_of_isSeparator {c : Char} (shown : isPrintable c = true)
    (separator : isSeparator c = true) : c = ' ' := by
  have all : ∀ n ∈ separators.members, n = 0x20 ∨ unprintable.contains n = true := by
    decide +kernel
  rcases all _ (Ranges.mem_members separator) with space | hidden
  · exact Char.toNat_inj.mp space
  · rw [isPrintable, hidden] at shown
    cases shown

theorem Ranges.not_contains_of_lt {low high n : Nat} {rest : Ranges} (below : n < low) :
    Ranges.contains ((low, high) :: rest) n = false := by
  rw [contains, if_pos below]

/-- The space and the visible characters of ASCII. -/
def isVisible (c : Char) : Bool := 0x20 ≤ c.toNat && c.toNat < 0x7f

theorem standsAlone_of_isVisible {c : Char} (visible : isVisible c = true) :
    standsAlone c = true := by
  simp only [isVisible, Bool.and_eq_true, decide_eq_true_eq] at visible
  have above : 0x1f < c.toNat := by omega
  have below : c.toNat < 0x7f := by omega
  have printed : unprintable.contains c.toNat = false :=
    (Ranges.contains_tail above (Nat.zero_le 0x1f)).trans (Ranges.not_contains_of_lt below)
  have filled : fillers.contains c.toNat = false := Ranges.not_contains_of_lt (by omega)
  have extending : graphemeExtenders.contains c.toNat = false :=
    Ranges.not_contains_of_lt (by omega)
  rw [standsAlone, isPrintable, extendsGrapheme, printed, filled, extending]
  rfl

end Unicode

namespace Text

open EditorBridge.Unicode

theorem standsAlone_of_mem_hexadecimal {n : Nat} : ∀ c ∈ hexadecimal n, standsAlone c = true := by
  have digit : ∀ d < 16, isVisible (Nat.digitChar d) = true := by decide
  induction n using Nat.strongRecOn with
  | _ n ih =>
    rw [hexadecimal, Nat.toDigits_eq_if (by decide)]
    split
    · rename_i small
      simpa using standsAlone_of_isVisible (digit n small)
    · intro c member
      rcases List.mem_append.mp member with front | last
      · exact ih (n / 16) (by omega) c front
      · rw [List.mem_singleton.mp last]
        exact standsAlone_of_isVisible (digit _ (Nat.mod_lt n (by decide)))

/-- The characters of a text that are visible stand for themselves. -/
theorem standsAlone_of_all {chars : List Char} (visible : chars.all isVisible = true) :
    ∀ c ∈ chars, standsAlone c = true := fun c member =>
  standsAlone_of_isVisible (List.all_eq_true.mp visible c member)

theorem standsAlone_of_mem_escape {c : Char} : ∀ d ∈ escape c, standsAlone d = true := by
  unfold escape
  split
  case h_7 =>
    split
    · rename_i alone
      simpa using alone
    · rw [codePointEscape, List.forall_mem_append, List.forall_mem_append]
      exact ⟨⟨standsAlone_of_all (by decide), standsAlone_of_mem_hexadecimal⟩,
        standsAlone_of_all (by decide)⟩
  all_goals exact standsAlone_of_all (by decide)

theorem standsAlone_of_mem_quote {s : List Char} : ∀ c ∈ quote s, standsAlone c = true := by
  have mark : standsAlone '"' = true := standsAlone_of_isVisible (by decide)
  rw [quote, List.cons_append, List.forall_mem_cons, List.forall_mem_append]
  refine ⟨mark, fun c member => ?_, by simpa using mark⟩
  obtain ⟨d, _, written⟩ := List.mem_flatMap.mp member
  exact standsAlone_of_mem_escape c written

theorem forall_mem_intersperse {α : Type} {p : α → Prop} {separator : α} {items : List α}
    (between : p separator) (all : ∀ item ∈ items, p item) :
    ∀ item ∈ items.intersperse separator, p item := by
  induction items with
  | nil => exact all
  | cons item rest ih =>
    rw [List.forall_mem_cons] at all
    cases rest with
    | nil => simpa using all.1
    | cons next more =>
      rw [List.intersperse_cons_cons, List.forall_mem_cons, List.forall_mem_cons]
      exact ⟨all.1, between, ih all.2⟩

/-- Every character of a quoted list stands for itself. -/
theorem standsAlone_of_mem_quotedList {items : List String} :
    ∀ c ∈ (quotedList items).toList, standsAlone c = true := by
  have quoted : ∀ part ∈ items.map fun s => quote s.toList, ∀ c ∈ part, standsAlone c = true := by
    rw [List.forall_mem_map]
    exact fun _ _ => standsAlone_of_mem_quote
  have between : ∀ c ∈ [',', ' '], standsAlone c = true := standsAlone_of_all (by decide)
  have parts := forall_mem_intersperse between quoted
  rw [quotedList, String.toList_ofList, bracketed, List.cons_append, List.forall_mem_cons,
    List.forall_mem_append]
  refine ⟨standsAlone_of_isVisible (by decide), fun c member => ?_,
    standsAlone_of_all (by decide)⟩
  obtain ⟨part, isPart, within⟩ := List.mem_flatten.mp member
  exact parts part isPart c within

end Text

theorem Command.lineFeed_not_mem_echo (command : Command) : '\n' ∉ command.echo.toList := by
  intro member
  have alone : Unicode.standsAlone '\n' = true := Text.standsAlone_of_mem_quotedList _ member
  have hidden : Unicode.isPrintable '\n' = false := Unicode.not_isPrintable_of_lt (by decide)
  rw [Unicode.standsAlone, hidden] at alone
  cases alone

theorem Program.lineFeed_not_mem_timeOfDay (microseconds : Nat) :
    '\n' ∉ (timeOfDay microseconds).toList := by
  have padding (width n : Nat) : '\n' ∉ (padded width n).toList := fun member => by
    have digit := isDigit_of_mem_padded _ member
    cases digit
  simp [timeOfDay, padding]

/-- The echo of a line ends with the one line feed that it has. -/
theorem Deed.oneLine_echo (command : Command) (microseconds : Nat) :
    Input.OneLine (Utf8.encode (echo command (Program.timeOfDay microseconds))) := by
  constructor
  · rw [Utf8.count_lineFeed_encode]
    simp [echo, List.count_eq_zero_of_not_mem command.lineFeed_not_mem_echo,
      List.count_eq_zero_of_not_mem (Program.lineFeed_not_mem_timeOfDay microseconds)]
  · refine (Utf8.getLast?_encode_iff (a := '\n') (by decide) _).mpr ?_
    rw [echo, String.toList_append]
    exact List.getLast?_concat

namespace Session

open EditorBridge.Unicode

/-- The echo shows all tokens, and nothing but characters that are shown: no control character, no
separator but the space, and none that would attach to the character before it.  The tokens are read
back from it, whatever their characters, so different tokens have different echoes.  Whatever the
line, the first thing that is written for it is its echo with the time of day, and that is one line.
-/
theorem echo_unforgeable {σ : Type} (client : Client σ) (state : σ) (microseconds : Nat) :
    (∀ tokens : List String,
      let echo := Text.quotedList tokens
      (∀ c ∈ echo.toList, isPrintable c = true ∧ extendsGrapheme c = false ∧
        isControl c = false ∧ (isSeparator c = true → c = ' ')) ∧
      Text.readList? echo = some tokens) ∧
    (∀ command : Command, command.echo = Text.quotedList command.tokens) ∧
    (∀ command command' : Command, command.echo = command'.echo ↔ command = command') ∧
    ∀ line : String,
      let command := Command.parse line
      let time := Program.timeOfDay microseconds
      let written := Utf8.encode ("MYPY " ++ command.echo ++ " " ++ time ++ "\n")
      (∃ rest : Trace, ((answerLine client time line).run (.healthy state)).trace =
        .wrote .err written :: rest) ∧
      Input.OneLine written := by
  let answered (line : String) : Trace :=
    ((answerEchoed client (Command.parse line)).run (.healthy state)).trace
  refine ⟨fun tokens => ⟨fun c member => ?_, Text.readList?_quotedList tokens⟩, fun _ => rfl,
    fun command command' => ⟨fun same => ?_, congrArg _⟩, fun line => ⟨⟨answered line, ?_⟩, ?_⟩⟩
  · have alone := Text.standsAlone_of_mem_quotedList c member
    rw [standsAlone, Bool.and_eq_true, Bool.not_eq_true'] at alone
    obtain ⟨shown, apart⟩ := alone
    refine ⟨shown, apart, ?_, eq_space_of_isSeparator shown⟩
    by_contra control
    rw [not_isPrintable_of_isControl (by simpa using control)] at shown
    cases shown
  · have read := Text.readList?_quotedList command.tokens
    have read' := Text.readList?_quotedList command'.tokens
    have same' : Text.quotedList command.tokens = Text.quotedList command'.tokens := same
    rw [same', read'] at read
    exact Command.ext_tokens (Option.some.inj read).symm
  · exact congrArg Outcome.trace (run_answerLine_healthy client state _ line)
  · exact Deed.oneLine_echo (Command.parse line) microseconds

end Session

end EditorBridge
