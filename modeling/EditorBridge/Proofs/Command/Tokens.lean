import EditorBridge.Command.Line
import EditorBridge.Proofs.Text.Trimming
import Mathlib.Data.List.Infix

/-!
# Tokens and their text

Cutting a line into tokens and joining tokens are inverse to each other (`join_split`,
`split_join`).  Of three colons in a row the first two are the separator, so the token lists that
come from a text are those in which no token contains a separator and none but the last ends in a
colon (`IsCut`); those that come from a trimmed text have, in addition, no white space at either
end (`Canonical`).
-/
namespace EditorBridge

open EditorBridge.Unicode

namespace Command

def separator : List Char := [':', ':']

/-- Whether a list of tokens is one that a text is cut into. -/
structure IsCut (tokens : List (List Char)) : Prop where
  ne_nil : tokens ≠ []
  /-- No token contains a separator. -/
  whole : ∀ token ∈ tokens, ¬ separator <:+: token
  /-- No token but the last ends in a colon. -/
  closed : ∀ token ∈ tokens.dropLast, token.getLast? ≠ some ':'

/-- Whether a list of tokens is one that an input line is cut into. -/
structure Canonical (tokens : List (List Char)) : Prop extends IsCut tokens where
  /-- The first token does not start in white space. -/
  start : ∀ first ∈ tokens.head?, ∀ c ∈ first.head?, isWhiteSpace c = false
  /-- The last token does not end in white space. -/
  stop : ∀ last ∈ tokens.getLast?, ∀ c ∈ last.getLast?, isWhiteSpace c = false

theorem separator_isPrefix_cons_iff {c : Char} {s : List Char} :
    separator <+: c :: s ↔ c = ':' ∧ ∃ rest, s = ':' :: rest := by
  rw [separator, List.cons_prefix_cons]
  constructor
  · rintro ⟨rfl, rest, rfl⟩
    exact ⟨rfl, rest, rfl⟩
  · rintro ⟨rfl, rest, rfl⟩
    exact ⟨rfl, rest, rfl⟩

theorem split_separator (s : List Char) : split (separator ++ s) = [] :: split s := by
  rw [separator, List.cons_append, List.cons_append, List.nil_append, split]

/-- A character that starts no separator belongs to the first token. -/
theorem split_cons {c : Char} {s : List Char} (inside : ¬ separator <+: c :: s) :
    split (c :: s) = extend c (split s) := by
  refine split.eq_3 c s fun rest colon more => ?_
  exact inside (separator_isPrefix_cons_iff.mpr ⟨colon, rest, more⟩)

/-- A text without separators is one token. -/
theorem split_of_whole {token : List Char} (whole : ¬ separator <:+: token) :
    split token = [token] := by
  induction token with
  | nil => rfl
  | cons c rest ih =>
    rw [List.infix_cons_iff, not_or] at whole
    rw [split_cons whole.1, ih whole.2]
    rfl

/-- A token ends at the first separator. -/
theorem split_append {token : List Char} (whole : ¬ separator <:+: token ++ [':'])
    (rest : List Char) : split (token ++ separator ++ rest) = token :: split rest := by
  induction token with
  | nil => exact split_separator rest
  | cons c more ih =>
    rw [List.cons_append, List.infix_cons_iff, not_or] at whole
    have inside : ¬ separator <+: c :: (more ++ separator ++ rest) := by
      intro starts
      obtain ⟨colon, _, next⟩ := separator_isPrefix_cons_iff.mp starts
      -- The second colon is the one that follows the token, or stands in it.
      refine whole.1 (separator_isPrefix_cons_iff.mpr ⟨colon, ?_⟩)
      cases more with
      | nil => exact ⟨[], rfl⟩
      | cons d _ =>
        obtain ⟨rfl, _⟩ := List.cons.inj next
        exact ⟨_, rfl⟩
    rw [List.cons_append, List.cons_append, split_cons inside, ih whole.2]
    rfl

/-- A token and a colon contain no separator exactly if the token contains none and does not end in
a colon. -/
theorem whole_concat_iff {token : List Char} :
    (¬ separator <:+: token ++ [':']) ↔ ¬ separator <:+: token ∧ token.getLast? ≠ some ':' := by
  rw [← not_or, not_iff_not, List.infix_concat_iff, or_comm]
  refine or_congr_right ?_
  rw [separator, List.getLast?_eq_some_iff]
  constructor
  · rintro ⟨front, split⟩
    have split' : (front ++ [':']) ++ [':'] = token ++ [':'] := by simpa using split
    exact ⟨front, (List.append_cancel_right split').symm⟩
  · rintro ⟨front, rfl⟩
    exact ⟨front, by simp⟩

theorem IsCut.tail {token next : List Char} {rest : List (List Char)}
    (cut : IsCut (token :: next :: rest)) : IsCut (next :: rest) where
  ne_nil := List.cons_ne_nil _ _
  whole := fun other member => cut.whole other (List.mem_cons_of_mem _ member)
  closed := fun other member => cut.closed other (List.mem_cons_of_mem _ member)

theorem split_join {tokens : List (List Char)} (cut : IsCut tokens) :
    split (join tokens) = tokens := by
  induction tokens with
  | nil => exact absurd rfl cut.ne_nil
  | cons token rest ih =>
    have whole := cut.whole token (List.mem_cons_self ..)
    cases rest with
    | nil => exact split_of_whole whole
    | cons next more =>
      have closed := cut.closed token (List.mem_cons_self ..)
      have joined : join (token :: next :: more) =
          token ++ separator ++ join (next :: more) := by simp [join, separator]
      rw [joined, split_append (whole_concat_iff.mpr ⟨whole, closed⟩), ih cut.tail]

/-- A character in front that starts no separator belongs to the first token. -/
theorem IsCut.extend {c : Char} {token : List Char} {more : List (List Char)}
    (cut : IsCut (token :: more)) (inside : ¬ separator <+: c :: join (token :: more)) :
    IsCut ((c :: token) :: more) where
  ne_nil := List.cons_ne_nil _ _
  whole := by
    rw [List.forall_mem_cons]
    refine ⟨?_, fun other member => cut.whole other (List.mem_cons_of_mem _ member)⟩
    rw [List.infix_cons_iff, not_or]
    refine ⟨fun starts => inside ?_, cut.whole token (List.mem_cons_self ..)⟩
    obtain ⟨colon, after, rfl⟩ := separator_isPrefix_cons_iff.mp starts
    refine separator_isPrefix_cons_iff.mpr ⟨colon, ?_⟩
    cases more <;> exact ⟨_, rfl⟩
  closed := by
    cases more with
    | nil => simp
    | cons next rest =>
      rw [List.dropLast_cons_cons, List.forall_mem_cons]
      refine ⟨?_, fun other member => cut.closed other (List.mem_cons_of_mem _ member)⟩
      cases token with
      | nil =>
        -- The separator after an empty token would begin one character earlier.
        intro colon
        obtain rfl : c = ':' := by simpa using colon
        exact inside (separator_isPrefix_cons_iff.mpr ⟨rfl, _, rfl⟩)
      | cons d after =>
        rw [List.getLast?_cons_cons]
        exact cut.closed _ (List.mem_cons_self ..)

theorem isCut_split (s : List Char) : IsCut (split s) := by
  induction s using split.induct with
  | case1 => exact ⟨by simp [split], by simp [split, separator], by simp [split]⟩
  | case2 rest ih =>
    rw [split]
    obtain ⟨token, more, tokens_eq⟩ := List.exists_cons_of_ne_nil (split_ne_nil rest)
    rw [tokens_eq] at ih ⊢
    refine ⟨List.cons_ne_nil _ _, ?_, ?_⟩
    · rw [List.forall_mem_cons]
      exact ⟨by simp [separator], ih.whole⟩
    · rw [List.dropLast_cons_cons, List.forall_mem_cons]
      exact ⟨by simp, ih.closed⟩
  | case3 c rest inside ih =>
    have inside' : ¬ separator <+: c :: rest := fun starts => by
      obtain ⟨colon, more, next⟩ := separator_isPrefix_cons_iff.mp starts
      exact inside more colon next
    have text := join_split rest
    obtain ⟨token, more, tokens_eq⟩ := List.exists_cons_of_ne_nil (split_ne_nil rest)
    rw [tokens_eq] at ih text
    rw [split_cons inside', tokens_eq]
    rw [← text] at inside'
    exact ih.extend inside'

/-- Whether a token is the first of a text's tokens: it ends where the first separator begins, or
with the text. -/
def IsFirstToken (token s : List Char) : Prop :=
  (s = token ∧ ¬ separator <:+: token) ∨
    ∃ rest, s = token ++ separator ++ rest ∧ ¬ separator <:+: token ++ [':']

theorem isFirstToken_head_split {s token : List Char} (first : token ∈ (split s).head?) :
    IsFirstToken token s := by
  have text := join_split s
  have cut := isCut_split s
  obtain ⟨more, tokens_eq⟩ := List.head?_eq_some_iff.mp first
  rw [tokens_eq] at text cut
  have whole := cut.whole token (List.mem_cons_self ..)
  cases more with
  | nil => exact .inl ⟨text.symm, whole⟩
  | cons next rest =>
    have closed := cut.closed token (List.mem_cons_self ..)
    exact .inr ⟨join (next :: rest), by rw [← text]; simp [join, separator],
      whole_concat_iff.mpr ⟨whole, closed⟩⟩

/-- A colon of a separator is no white space. -/
theorem forall_mem_or_colon {c? : Option Char} :
    (∀ c ∈ c?.or (some ':'), isWhiteSpace c = false) ↔ ∀ c ∈ c?, isWhiteSpace c = false := by
  have colon : isWhiteSpace ':' = false := by decide
  cases c? <;> simp [colon]

theorem head?_join_cons_cons (token next : List Char) (more : List (List Char)) :
    (join (token :: next :: more)).head? = token.head?.or (some ':') := by
  cases token <;> rfl

theorem getLast?_join_cons_cons (token next : List Char) (more : List (List Char)) :
    (join (token :: next :: more)).getLast? = (join (next :: more)).getLast?.or (some ':') := by
  have joined : join (token :: next :: more) =
      (token ++ separator) ++ join (next :: more) := by simp [join, separator]
  rw [joined, List.getLast?_append]
  simp [separator]

theorem start_join_iff {tokens : List (List Char)} :
    (∀ c ∈ (join tokens).head?, isWhiteSpace c = false) ↔
      ∀ first ∈ tokens.head?, ∀ c ∈ first.head?, isWhiteSpace c = false := by
  match tokens with
  | [] => simp [join]
  | [token] => simp [join]
  | token :: next :: more =>
    rw [head?_join_cons_cons, forall_mem_or_colon]
    simp

theorem stop_join_iff {tokens : List (List Char)} :
    (∀ c ∈ (join tokens).getLast?, isWhiteSpace c = false) ↔
      ∀ last ∈ tokens.getLast?, ∀ c ∈ last.getLast?, isWhiteSpace c = false := by
  induction tokens with
  | nil => simp [join]
  | cons token rest ih =>
    cases rest with
    | nil => simp [join]
    | cons next more =>
      rw [getLast?_join_cons_cons, forall_mem_or_colon, ih, List.getLast?_cons_cons]

/-- The canonical lists of tokens are those of trimmed texts. -/
theorem canonical_iff {tokens : List (List Char)} :
    Canonical tokens ↔ IsCut tokens ∧ Text.trim (join tokens) = join tokens := by
  rw [Text.trim_eq_self_iff, start_join_iff, stop_join_iff]
  exact ⟨fun canonical => ⟨canonical.toIsCut, canonical.start, canonical.stop⟩,
    fun ⟨cut, start, stop⟩ => ⟨cut, start, stop⟩⟩

theorem canonical_split_trim (s : List Char) : Canonical (split (Text.trim s)) := by
  rw [canonical_iff, join_split, Text.trim_trim]
  exact ⟨isCut_split _, rfl⟩

/-- The canonical lists of tokens are those that are found again in their text. -/
theorem canonical_iff_split_join {tokens : List (List Char)} :
    Canonical tokens ↔ split (Text.trim (join tokens)) = tokens := by
  constructor
  · intro canonical
    rw [(canonical_iff.mp canonical).2, split_join canonical.toIsCut]
  · intro found
    rw [← found]
    exact canonical_split_trim _

theorem tokens_parse (line : String) :
    (parse line).tokens = (split (Text.trim line.toList)).map String.ofList := by
  obtain ⟨token, rest, tokens_eq⟩ :=
    List.exists_cons_of_ne_nil (split_ne_nil (Text.trim line.toList))
  rw [parse, tokens_eq]
  rfl

theorem toList_tokens_parse (line : String) :
    (parse line).tokens.map String.toList = split (Text.trim line.toList) := by
  rw [tokens_parse, List.map_map]
  simp [Function.comp_def]

/-- The argument of a command is the first token of its line. -/
theorem isFirstToken_argument (line : String) :
    IsFirstToken (parse line).argument.toList (Text.trim line.toList) := by
  apply isFirstToken_head_split
  rw [← toList_tokens_parse]
  rfl

theorem join_eq_intercalate (tokens : List (List Char)) :
    join tokens = separator.intercalate tokens := by
  induction tokens with
  | nil => rfl
  | cons token rest ih =>
    cases rest with
    | nil => simp [join]
    | cons next more => simp [join, separator, ih]

theorem render_eq_intercalate (command : Command) :
    command.render = "::".intercalate command.tokens := by
  apply String.toList_inj.mp
  rw [render, String.toList_ofList, String.toList_intercalate, join_eq_intercalate]
  rfl

/-- The text of a command is its line, trimmed. -/
theorem render_parse (line : String) : (parse line).render = Text.trimmed line := by
  rw [render, toList_tokens_parse, join_split]
  rfl

theorem ext_tokens {command command' : Command} (h : command.tokens = command'.tokens) :
    command = command' := by
  obtain ⟨argument_eq, others_eq⟩ := List.cons.inj h
  cases command
  cases command'
  simp_all

/-- A line gives the command of its trimmed text. -/
theorem parse_eq_iff {line line' : String} :
    parse line = parse line' ↔ Text.trimmed line = Text.trimmed line' := by
  constructor
  · intro same
    rw [← render_parse, ← render_parse, same]
  · intro same
    have same' : Text.trim line.toList = Text.trim line'.toList := String.ofList_inj.mp same
    exact ext_tokens (by rw [tokens_parse, tokens_parse, same'])

end Command

namespace Opcode

theorem ofToken?_eq_some_iff {token : String} {op : Opcode} :
    ofToken? token = some op ↔ token = op.name := by
  constructor
  · intro found
    have named := List.find?_some found
    simpa [eq_comm] using named
  · rintro rfl
    exact ofToken?_name op

end Opcode

namespace Command

/-- An operation is reported exactly if one of the tokens selects it. -/
theorem mem_opcodes_iff {command : Command} {op : Opcode} :
    op ∈ command.opcodes ↔ ∃ token ∈ command.tokens, Opcode.ofToken? token = some op := by
  simp only [opcodes, List.mem_filter, Opcode.mem_all, true_and, has, List.contains_iff_mem,
    Opcode.ofToken?_eq_some_iff, exists_eq_right]

/-- Cutting a line into tokens and joining tokens are inverse to each other, and the token lists of
lines are the canonical ones.  So white space around a line does not matter, and two lines give the
same command exactly if they are the same text once trimmed.  The operations reported are those that
a token selects, each once, in the order in which they are carried out. -/
theorem parse_inverse_of_render :
    (∀ line, Canonical ((parse line).tokens.map String.toList) ∧
      "::".intercalate (parse line).tokens = Text.trimmed line) ∧
    (∀ tokens : List String, Canonical (tokens.map String.toList) ↔
      (parse ("::".intercalate tokens)).tokens = tokens) ∧
    (∀ command : Command, command.render = "::".intercalate command.tokens) ∧
    (∀ before line after, Text.isBlank before = true → Text.isBlank after = true →
      parse (before ++ line ++ after) = parse line) ∧
    (∀ line, parse (parse line).render = parse line) ∧
    (∀ line line', parse line = parse line' ↔ Text.trimmed line = Text.trimmed line') ∧
    ∀ command : Command,
      (∀ op, op ∈ command.opcodes ↔
        ∃ token ∈ command.tokens, Opcode.ofToken? token = some op) ∧
      command.opcodes.Nodup ∧ command.opcodes.Sublist [.check, .suggest, .inspect] := by
  refine ⟨?_, ?_, render_eq_intercalate, ?_, ?_, fun _ _ => parse_eq_iff, ?_⟩
  · intro line
    rw [toList_tokens_parse, ← render_eq_intercalate]
    exact ⟨canonical_split_trim _, render_parse line⟩
  · intro tokens
    have text : ("::".intercalate tokens).toList =
        separator.intercalate (tokens.map String.toList) := String.toList_intercalate
    rw [canonical_iff_split_join, join_eq_intercalate, ← text, ← toList_tokens_parse]
    exact List.map_inj_right fun _ _ => String.toList_inj.mp
  · intro before line after leading trailing
    rw [parse_eq_iff, Text.trimmed, Text.trimmed, String.toList_append, String.toList_append,
      Text.trim_append line.toList leading trailing]
  · intro line
    rw [parse_eq_iff, render_parse, Text.trimmed, Text.trimmed, String.toList_ofList,
      Text.trim_trim]
  · intro command
    refine ⟨fun _ => mem_opcodes_iff, ?_, List.filter_sublist⟩
    exact (List.filter_sublist (l := Opcode.all)).nodup (by decide)

end Command

end EditorBridge
