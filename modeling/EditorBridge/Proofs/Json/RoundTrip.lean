import EditorBridge.Json.Reader

/-!
# Written values are read back

A value is read back from its written form (`parse?_render`), whatever characters its strings have,
as long as its numbers can be read and it is not nested too deeply (`Readable`).  The reader is
followed through the written form (`readOn`): where it takes a value, it comes out where that value
is complete (`ReadBack`).  This is an induction on what is readable, which leaves room for what
comes after the value, because a value may be part of another.

The written form is one line: whatever is below the blank is escaped (`plain_render`).
-/
namespace EditorBridge.Json

open EditorBridge.Text
open Token (stringText lex isNumberCharacter isSpace next?)

/-- A control character is read from its two hexadecimal digits. -/
theorem hexValue?_hexDigit : ∀ n < 0x20,
    hexValue? ['0', '0', hexDigit (n / 16), hexDigit (n % 16)] = some n ∧
      scalar? n = some (Char.ofNat n) := by
  decide

/-- A character without an escape stands for itself. -/
theorem stringText_cons {c : Char} (noQuote : c ≠ '"') (noBackslash : c ≠ '\\')
    (visible : ¬ c.toNat < 0x20) (rest : List Char) :
    stringText (c :: rest) = (stringText rest).cons c := by
  rw [stringText, if_neg visible]
  · exact noQuote
  · exact fun _ _ _ _ _ backslash _ => noBackslash backslash
  · exact fun _ _ backslash _ => noBackslash backslash

theorem stringText_unicode {a b c d ch : Char} {unit : Nat}
    (value : hexValue? [a, b, c, d] = some unit) (scalar : scalar? unit = some ch)
    (rest : List Char) :
    stringText ('\\' :: 'u' :: a :: b :: c :: d :: rest) = (stringText rest).cons ch := by
  rw [stringText]
  simp only [value, scalar]

/-- Each character is read back from its escape. -/
theorem stringText_escape (c : Char) (rest : List Char) :
    stringText (escape c ++ rest) = (stringText rest).cons c := by
  unfold escape
  split
  case h_8 =>
    rename_i noQuote noBackslash _ _ _ _ _
    split
    · rename_i control
      obtain ⟨value, scalar⟩ := hexValue?_hexDigit c.toNat control
      rw [Char.ofNat_toNat] at scalar
      exact stringText_unicode value scalar rest
    · rename_i visible
      exact stringText_cons noQuote noBackslash visible rest
  all_goals rfl

/-- A text is read back from between its quotes. -/
theorem stringText_flatMap_escape (text rest : List Char) :
    stringText (text.flatMap escape ++ '"' :: rest) = some (text, rest) := by
  induction text with
  | nil => rfl
  | cons c text ih =>
    rw [List.flatMap_cons, List.append_assoc, stringText_escape, ih]
    rfl

/-- Whether digits are a number that can be read. -/
def IsNumber (digits : List Char) : Prop :=
  digits.all isNumberCharacter = true ∧
    ∃ decimal, Decimal.parse? (Token.withoutSign digits) = some decimal ∧
      decimal.productTooLarge = false

/-- Whether a number is at its end where a text starts. -/
def EndsNumber (rest : List Char) : Prop := ∀ c ∈ rest.head?, isNumberCharacter c = false

/-- Where the reader comes to when it goes through a text. -/
def readOn (state : Expected) (text : List Char) : Option Expected :=
  (lex text).bind fun tokens => tokens.foldlM Expected.step state

theorem readOn_nil (state : Expected) : readOn state [] = some state := by
  rw [readOn, lex]
  rfl

/-- The reader takes the tokens of a text one by one. -/
theorem readOn_next? {c : Char} {s rest : List Char} {token : Token} (visible : isSpace c = false)
    (first : next? (c :: s) = some (token, rest)) (state : Expected) :
    readOn state (c :: s) = (state.step token).bind fun state => readOn state rest := by
  have lexed : lex (c :: s) = (lex rest).map (token :: ·) := by
    rw [lex]
    simp only [visible, Bool.false_eq_true, if_false]
    split
    · rename_i none
      rw [first] at none
      cases none
    · rename_i some
      rw [first] at some
      cases some
      rfl
  unfold readOn
  rw [lexed]
  cases lex rest with
  | none => simp
  | some tokens => rfl

theorem readOn_punctuation {c : Char} {mark : Token} (isMark : Token.punctuation? c = some mark)
    (state : Expected) (rest : List Char) :
    readOn state (c :: rest) = (state.step mark).bind fun state => readOn state rest := by
  have visible : isSpace c = false := by
    unfold Token.punctuation? at isMark
    split at isMark <;> first | rfl | cases isMark
  refine readOn_next? visible ?_ state
  simp only [next?, isMark]

theorem readOn_step {c : Char} {mark : Token} {state next : Expected}
    (isMark : Token.punctuation? c = some mark) (stepped : state.step mark = some next)
    (rest : List Char) : readOn state (c :: rest) = readOn next rest := by
  rw [readOn_punctuation isMark, stepped]
  rfl

theorem readOn_quote (state : Expected) (text rest : List Char) :
    readOn state (quote text ++ rest) =
      (state.step (.string text)).bind fun state => readOn state rest := by
  have written : quote text ++ rest = '"' :: (text.flatMap escape ++ '"' :: rest) := by
    simp [quote]
  have read : next? ('"' :: (text.flatMap escape ++ '"' :: rest)) =
      (stringText (text.flatMap escape ++ '"' :: rest)).map
        fun scanned => (.string scanned.1, scanned.2) := rfl
  rw [stringText_flatMap_escape] at read
  rw [written]
  exact readOn_next? rfl read state

theorem next?_number {c : Char} (numeric : isNumberCharacter c = true) (rest : List Char) :
    isSpace c = false ∧ next? (c :: rest) = Token.number? (c :: rest) := by
  have noMark : Token.punctuation? c = none := by
    unfold Token.punctuation?
    split <;> first | rfl | cases numeric
  have noQuote : c ≠ '"' := by
    rintro rfl
    cases numeric
  constructor
  · cases space : isSpace c with
    | false => rfl
    | true =>
      simp only [isSpace, Bool.or_eq_true, decide_eq_true_eq] at space
      obtain ((rfl | rfl) | rfl) | rfl := space <;> cases numeric
  · simp only [next?, noMark, if_neg noQuote, numeric, if_true]

theorem readOn_number {digits rest : List Char} (isNumber : IsNumber digits)
    (ended : EndsNumber rest) (state : Expected) :
    readOn state (digits ++ rest) =
      (state.step (.number digits)).bind fun state => readOn state rest := by
  obtain ⟨all, decimal, parsed, within⟩ := isNumber
  have numeric : ∀ c ∈ digits, isNumberCharacter c = true := List.all_eq_true.mp all
  have nothing : rest.takeWhile isNumberCharacter = [] := by
    cases rest with
    | nil => rfl
    | cons c more => exact List.takeWhile_cons_of_neg (by simp [ended c rfl])
  have everything : rest.dropWhile isNumberCharacter = rest := by
    cases rest with
    | nil => rfl
    | cons c more => exact List.dropWhile_cons_of_neg (by simp [ended c rfl])
  have read : Token.number? (digits ++ rest) = some (.number digits, rest) := by
    simp only [Token.number?, List.takeWhile_append_of_pos numeric,
      List.dropWhile_append_of_pos numeric, nothing, everything, List.append_nil, parsed, within,
      Bool.false_eq_true, if_false]
  cases digits with
  | nil => cases parsed
  | cons c more =>
    obtain ⟨visible, first⟩ := next?_number (numeric c List.mem_cons_self) (more ++ rest)
    exact readOn_next? visible (first.trans read) state

/-- Whether a value can be read back: its numbers can, and no more than so many arrays and objects
are open at a time. -/
inductive Readable : Nat → Json → Prop where
  | null (room : Nat) : Readable room .null
  | bool (room : Nat) (value : Bool) : Readable room (.bool value)
  | number (room : Nat) {digits : List Char} (isNumber : IsNumber digits) :
      Readable room (.number digits)
  | string (room : Nat) (text : List Char) : Readable room (.string text)
  | array {room : Nat} {items : List Json} (readable : ∀ item ∈ items, Readable room item) :
      Readable (room + 1) (.array items)
  | object {room : Nat} {fields : List (List Char × Json)}
      (readable : ∀ field ∈ fields, Readable room field.2) : Readable (room + 1) (.object fields)

namespace Expected

/-- Whether the reader takes a value next, within the given frames. -/
def Awaits (state : Expected) (stack : List Frame) : Prop :=
  ∀ token ≠ .closeArray, state.step token = start stack token

/-- Whether the reader takes a key next, after the given fields of an object. -/
def AwaitsKey (state : Expected) (fields : List (List Char × Json)) (stack : List Frame) : Prop :=
  ∀ key, state.step (.string key) = some (.colon fields key stack)

theorem awaits_value (stack : List Frame) : (value stack).Awaits stack := fun _ _ => rfl

theorem awaits_item (stack : List Frame) : (item stack).Awaits (.array [] :: stack) := by
  intro token other
  cases token <;> first | rfl | exact absurd rfl other

theorem awaitsKey_firstKey (stack : List Frame) : (firstKey stack).AwaitsKey [] stack :=
  fun _ => rfl

theorem awaitsKey_key (fields : List (List Char × Json)) (stack : List Frame) :
    (key fields stack).AwaitsKey fields stack :=
  fun _ => rfl

end Expected

open Expected

/-- A value that is written where the reader takes one brings it to where the value is complete. -/
def ReadBack (room : Nat) (v : Json) : Prop :=
  ∀ {state : Expected} {stack : List Frame} {rest : List Char}, state.Awaits stack →
    stack.length + room ≤ depthLimit → EndsNumber rest →
      readOn state (v.render ++ rest) = (complete v stack).bind fun state => readOn state rest

theorem endsNumber_nil : EndsNumber [] := by
  simp [EndsNumber]

theorem endsNumber_punctuation {c : Char} {mark : Token}
    (isMark : Token.punctuation? c = some mark) (rest : List Char) : EndsNumber (c :: rest) := by
  rintro d ⟨⟩
  unfold Token.punctuation? at isMark
  split at isMark <;> first | rfl | cases isMark

theorem renderItems_cons_cons (item next : Json) (later : List Json) :
    renderItems (item :: next :: later) = item.render ++ ',' :: renderItems (next :: later) := by
  rw [renderItems]
  simp

theorem renderFields_cons_cons (key : List Char) (v : Json) (next : List Char × Json)
    (later : List (List Char × Json)) :
    renderFields ((key, v) :: next :: later) =
      quote key ++ ':' :: (v.render ++ ',' :: renderFields (next :: later)) := by
  rw [renderFields]
  · simp
  · simp

/-- Items are read back one by one, each in an array with those before it. -/
theorem readOn_items {room : Nat} {item : Json} {more done : List Json}
    (read : ∀ v ∈ item :: more, ReadBack room v) {state : Expected} {stack : List Frame}
    (awaits : state.Awaits (.array done :: stack)) (limited : stack.length + 1 + room ≤ depthLimit)
    (rest : List Char) :
    readOn state (renderItems (item :: more) ++ ']' :: rest) =
      (complete (.array (done.reverse ++ item :: more)) stack).bind
        fun state => readOn state rest := by
  induction more generalizing item done state with
  | nil =>
    have first : readOn state (item.render ++ ']' :: rest) =
        readOn (.more (.array (item :: done)) stack) (']' :: rest) :=
      read item List.mem_cons_self awaits limited (endsNumber_punctuation rfl rest)
    rw [renderItems, first, readOn_punctuation rfl, step, List.reverse_cons]
  | cons next later ih =>
    let following := renderItems (next :: later) ++ ']' :: rest
    have first : readOn state (item.render ++ ',' :: following) =
        readOn (.more (.array (item :: done)) stack) (',' :: following) :=
      read item List.mem_cons_self awaits limited (endsNumber_punctuation rfl following)
    have comma : readOn (.more (.array (item :: done)) stack) (',' :: following) =
        readOn (.value (.array (item :: done) :: stack)) following :=
      readOn_step rfl rfl following
    have others := ih (fun v member => read v (List.mem_cons_of_mem _ member))
      (awaits_value (.array (item :: done) :: stack))
    rw [List.reverse_cons, List.append_assoc] at others
    rw [renderItems_cons_cons, List.append_assoc]
    exact (first.trans comma).trans others

/-- A field is read back in an object with those before it. -/
theorem readOn_field {room : Nat} (key : List Char) {v : Json} (read : ReadBack room v)
    {done : List (List Char × Json)} {state : Expected} {stack : List Frame}
    (awaits : state.AwaitsKey done stack) (limited : stack.length + 1 + room ≤ depthLimit)
    {rest : List Char} (ended : EndsNumber rest) :
    readOn state (quote key ++ ':' :: (v.render ++ rest)) =
      readOn (.more (.object ((key, v) :: done)) stack) rest := by
  have named : readOn state (quote key ++ ':' :: (v.render ++ rest)) =
      readOn (.value (.field done key :: stack)) (v.render ++ rest) := by
    rw [readOn_quote, awaits key]
    exact readOn_step rfl rfl _
  exact named.trans (read (awaits_value _) limited ended)

/-- Fields are read back one by one. -/
theorem readOn_fields {room : Nat} {key : List Char} {v : Json}
    {more done : List (List Char × Json)} (read : ∀ field ∈ (key, v) :: more, ReadBack room field.2)
    {state : Expected} {stack : List Frame} (awaits : state.AwaitsKey done stack)
    (limited : stack.length + 1 + room ≤ depthLimit) (rest : List Char) :
    readOn state (renderFields ((key, v) :: more) ++ '\x7d' :: rest) =
      (complete (.object (done.reverse ++ (key, v) :: more)) stack).bind
        fun state => readOn state rest := by
  induction more generalizing key v done state with
  | nil =>
    have first := readOn_field key (read (key, v) List.mem_cons_self) awaits limited
      (endsNumber_punctuation (c := '\x7d') rfl rest)
    rw [renderFields, List.append_assoc, List.cons_append, first, readOn_punctuation rfl, step,
      List.reverse_cons]
  | cons next later ih =>
    let following := renderFields (next :: later) ++ '\x7d' :: rest
    have first := readOn_field key (read (key, v) List.mem_cons_self) awaits limited
      (endsNumber_punctuation (c := ',') rfl following)
    have comma : readOn (.more (.object ((key, v) :: done)) stack) (',' :: following) =
        readOn (.key ((key, v) :: done) stack) following :=
      readOn_step rfl rfl following
    have others := ih (fun field member => read field (List.mem_cons_of_mem _ member))
      (awaitsKey_key ((key, v) :: done) stack)
    rw [List.reverse_cons, List.append_assoc] at others
    rw [renderFields_cons_cons, List.append_assoc, List.cons_append, List.append_assoc]
    exact (first.trans comma).trans others

/-- What is readable is read back. -/
theorem readBack_of_readable {room : Nat} {v : Json} (readable : Readable room v) :
    ReadBack room v := by
  induction readable with
  | null room =>
    intro state stack rest awaits _ _
    have read : readOn state (render .null ++ rest) =
        (state.step .null).bind fun state => readOn state rest :=
      readOn_next? rfl rfl state
    rw [read, awaits _ (by simp), start]
  | bool room value =>
    intro state stack rest awaits _ _
    have read : readOn state (render (.bool value) ++ rest) =
        (state.step (.bool value)).bind fun state => readOn state rest := by
      cases value <;> exact readOn_next? rfl rfl state
    rw [read, awaits _ (by simp), start]
  | number room isNumber =>
    intro state stack rest awaits _ ended
    rw [render, readOn_number isNumber ended, awaits _ (by simp), start]
  | string room text =>
    intro state stack rest awaits _ _
    rw [render, readOn_quote, awaits _ (by simp), start]
  | @array room items _ read =>
    intro state stack rest awaits limited _
    have written : render (.array items) ++ rest = '[' :: (renderItems items ++ ']' :: rest) := by
      simp [render]
    have space : start stack .openArray = some (.item stack) := if_pos (by omega)
    have opened : readOn state (render (.array items) ++ rest) =
        readOn (.item stack) (renderItems items ++ ']' :: rest) :=
      written ▸ readOn_step rfl ((awaits .openArray (by simp)).trans space) _
    rw [opened]
    cases items with
    | nil =>
      have closed : readOn (.item stack) (']' :: rest) =
          ((item stack).step .closeArray).bind fun state => readOn state rest :=
        readOn_punctuation rfl _ rest
      exact closed
    | cons item more => exact readOn_items read (awaits_item stack) (by omega) rest
  | @object room fields _ read =>
    intro state stack rest awaits limited _
    have written : render (.object fields) ++ rest =
        '\x7b' :: (renderFields fields ++ '\x7d' :: rest) := by
      simp [render]
    have space : start stack .openObject = some (.firstKey stack) := if_pos (by omega)
    have opened : readOn state (render (.object fields) ++ rest) =
        readOn (.firstKey stack) (renderFields fields ++ '\x7d' :: rest) :=
      written ▸ readOn_step rfl ((awaits .openObject (by simp)).trans space) _
    rw [opened]
    cases fields with
    | nil =>
      have closed : readOn (.firstKey stack) ('\x7d' :: rest) =
          ((firstKey stack).step .closeObject).bind fun state => readOn state rest :=
        readOn_punctuation rfl _ rest
      exact closed
    | cons field more => exact readOn_fields read (awaitsKey_firstKey stack) (by omega) rest

/-- A value is read back from its written form. -/
theorem parse?_render {v : Json} (readable : Readable depthLimit v) : parse? v.render = some v := by
  have read : readOn (.value []) (v.render ++ []) = some (.nothing v) :=
    (readBack_of_readable readable (awaits_value []) (by simp) endsNumber_nil).trans
      (readOn_nil (.nothing v))
  rw [List.append_nil, readOn] at read
  obtain ⟨tokens, lexed, folded⟩ := Option.bind_eq_some_iff.mp read
  simp [parse?, lexed, ofTokens?, folded]

/-- Whether a text has no control characters, so that it is on one line. -/
def Plain (text : List Char) : Prop := ∀ c ∈ text, 0x20 ≤ c.toNat

instance (text : List Char) : Decidable (Plain text) :=
  List.decidableBAll (fun c : Char => 0x20 ≤ c.toNat) text

theorem plain_cons {c : Char} {text : List Char} :
    Plain (c :: text) ↔ 0x20 ≤ c.toNat ∧ Plain text :=
  List.forall_mem_cons

theorem plain_append {a b : List Char} : Plain (a ++ b) ↔ Plain a ∧ Plain b :=
  List.forall_mem_append

theorem plain_escape (c : Char) : Plain (escape c) := by
  have digits : ∀ n < 0x20, Plain ['\\', 'u', '0', '0', hexDigit (n / 16), hexDigit (n % 16)] := by
    decide
  unfold escape
  split
  case h_8 =>
    split
    · rename_i control
      exact digits c.toNat control
    · rename_i visible
      exact plain_cons.mpr ⟨Nat.not_lt.mp visible, by decide⟩
  all_goals decide

theorem plain_quote (text : List Char) : Plain (quote text) := by
  have body : Plain (text.flatMap escape) := by
    intro c member
    obtain ⟨d, _, written⟩ := List.mem_flatMap.mp member
    exact plain_escape d c written
  exact plain_cons.mpr ⟨by decide, plain_append.mpr ⟨body, by decide⟩⟩

theorem IsNumber.plain {digits : List Char} (isNumber : IsNumber digits) : Plain digits := by
  have control : ∀ n < 0x20, isNumberCharacter (Char.ofNat n) = false := by decide
  intro c member
  refine Nat.not_lt.mp fun below => ?_
  have other := control c.toNat below
  rw [Char.ofNat_toNat, List.all_eq_true.mp isNumber.1 c member] at other
  cases other

theorem plain_renderItems {items : List Json} (plain : ∀ item ∈ items, Plain item.render) :
    Plain (renderItems items) := by
  induction items with
  | nil => simp [renderItems, Plain]
  | cons item more ih =>
    have others := ih fun item member => plain item (List.mem_cons_of_mem _ member)
    have first := plain item List.mem_cons_self
    cases more with
    | nil => rwa [renderItems]
    | cons next later =>
      rw [renderItems_cons_cons]
      exact plain_append.mpr ⟨first, plain_cons.mpr ⟨by decide, others⟩⟩

theorem plain_renderFields {fields : List (List Char × Json)}
    (plain : ∀ field ∈ fields, Plain field.2.render) : Plain (renderFields fields) := by
  induction fields with
  | nil => simp [renderFields, Plain]
  | cons field more ih =>
    obtain ⟨key, v⟩ := field
    have others := ih fun field member => plain field (List.mem_cons_of_mem _ member)
    have first : Plain v.render := plain (key, v) List.mem_cons_self
    cases more with
    | nil =>
      rw [renderFields]
      exact plain_append.mpr ⟨plain_quote key, plain_cons.mpr ⟨by decide, first⟩⟩
    | cons next later =>
      rw [renderFields_cons_cons]
      exact plain_append.mpr ⟨plain_quote key, plain_cons.mpr
        ⟨by decide, plain_append.mpr ⟨first, plain_cons.mpr ⟨by decide, others⟩⟩⟩⟩

/-- The written form of a value is on one line. -/
theorem plain_render {room : Nat} {v : Json} (readable : Readable room v) : Plain v.render := by
  induction readable with
  | null room => decide
  | bool room value => cases value <;> decide
  | number room isNumber =>
    rw [render]
    exact isNumber.plain
  | string room text =>
    rw [render]
    exact plain_quote text
  | array _ plain =>
    rw [render]
    exact plain_cons.mpr ⟨by decide, plain_append.mpr ⟨plain_renderItems plain, by decide⟩⟩
  | object _ plain =>
    rw [render]
    exact plain_cons.mpr ⟨by decide, plain_append.mpr ⟨plain_renderFields plain, by decide⟩⟩

end EditorBridge.Json
