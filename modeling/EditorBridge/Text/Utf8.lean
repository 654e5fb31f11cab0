/-!
# UTF-8

Encoding, and a decoder that reads one byte at a time.  The decoder's state is the sequence under
way: how many continuation bytes it still needs and which values the next of them may have.  A byte
that does not continue the sequence ends it as ill-formed and is read again as a first byte, so
every ill-formed run is cut into its longest prefixes of well-formed sequences.

A scan yields `none` for each ill-formed run.  `decode?` wants none of them; `decodeLossy` shows
the replacement character for each.
-/
namespace EditorBridge

abbrev Bytes := List UInt8

namespace Utf8

def encode (s : String) : Bytes := s.toList.flatMap String.utf8EncodeChar

structure Pending where
  /-- Continuation bytes still to come, at least one. -/
  needed : Nat
  /-- The least value that the next byte may have. -/
  low : UInt8
  /-- The greatest value that the next byte may have. -/
  high : UInt8
  /-- The bits read so far. -/
  bits : Nat
  deriving DecidableEq, Repr

/-- The values of a continuation byte, when the first byte does not restrict it further. -/
def continuation (needed : Nat) (bits : Nat) : Pending := ⟨needed, 0x80, 0xBF, bits⟩

/-- What a byte read as a first byte yields: characters or ill-formed runs, and the sequence it
opens.  The restricted ranges exclude overlong forms, surrogates and values above `U+10FFFF`. -/
def first (b : UInt8) : List (Option Char) × Option Pending :=
  if b ≤ 0x7F then ([some (Char.ofNat b.toNat)], none)
  else if b < 0xC2 then ([none], none)
  else if b ≤ 0xDF then ([], some (continuation 1 (b.toNat - 0xC0)))
  else if b = 0xE0 then ([], some ⟨2, 0xA0, 0xBF, 0⟩)
  else if b = 0xED then ([], some ⟨2, 0x80, 0x9F, 0xD⟩)
  else if b ≤ 0xEF then ([], some (continuation 2 (b.toNat - 0xE0)))
  else if b = 0xF0 then ([], some ⟨3, 0x90, 0xBF, 0⟩)
  else if b ≤ 0xF3 then ([], some (continuation 3 (b.toNat - 0xF0)))
  else if b = 0xF4 then ([], some ⟨3, 0x80, 0x8F, 4⟩)
  else ([none], none)

def step (state : Option Pending) (b : UInt8) : List (Option Char) × Option Pending :=
  match state with
  | none => first b
  | some p =>
      if p.low ≤ b ∧ b ≤ p.high then
        let bits := p.bits * 64 + (b.toNat - 0x80)
        if p.needed ≤ 1 then ([some (Char.ofNat bits)], none)
        else ([], some (continuation (p.needed - 1) bits))
      else
        let next := first b
        (none :: next.1, next.2)

/-- The characters and ill-formed runs of a byte string, read from the given state. -/
def scanFrom : Option Pending → Bytes → List (Option Char)
  | none, [] => []
  | some _, [] => [none]
  | state, b :: rest => (step state b).1 ++ scanFrom (step state b).2 rest

/-- The characters and ill-formed runs of a byte string. -/
def scan (bytes : Bytes) : List (Option Char) := scanFrom none bytes

def replacement : Char := '\uFFFD'

/-- The characters of a byte string, with the replacement character for each ill-formed run. -/
def decodeLossyChars (bytes : Bytes) : List Char := (scan bytes).map (·.getD replacement)

/-- The text of a byte string, with the replacement character for each ill-formed run. -/
def decodeLossy (bytes : Bytes) : String := String.ofList (decodeLossyChars bytes)

/-- The text of a well-formed byte string. -/
def decode? (bytes : Bytes) : Option String := ((scan bytes).mapM id).map String.ofList

@[simp] theorem encode_append (s t : String) : encode (s ++ t) = encode s ++ encode t := by
  simp [encode]

@[simp] theorem encode_empty : encode "" = [] := rfl

theorem utf8EncodeChar_ne_nil (c : Char) : String.utf8EncodeChar c ≠ [] := by
  have length := String.length_utf8EncodeChar c
  have size := Char.utf8Size_pos c
  intro none
  rw [none, List.length_nil] at length
  omega

theorem encode_eq_nil_iff {s : String} : encode s = [] ↔ s.toList = [] := by
  unfold encode
  cases s.toList with
  | nil => simp
  | cons c rest => simp [utf8EncodeChar_ne_nil c]

def ascii (c : Char) : UInt8 := UInt8.ofNat c.toNat

section

variable {a : Char} (isAscii : a.toNat < 128)
include isAscii

theorem utf8EncodeChar_ascii : String.utf8EncodeChar a = [ascii a] := by
  have small : a.val.toNat ≤ 127 := Nat.le_of_lt_succ isAscii
  simp only [String.utf8EncodeChar, small, if_true]
  rfl

/-- The byte of an ASCII character is no part of any other character. -/
theorem ascii_mem_utf8EncodeChar {c : Char} : ascii a ∈ String.utf8EncodeChar c ↔ c = a := by
  constructor
  · intro member
    by_cases small : c.toNat < 128
    · rw [utf8EncodeChar_ascii small, List.mem_singleton, ascii, ascii, ← UInt8.toNat_inj] at member
      simp only [UInt8.toNat_ofNat'] at member
      exact Char.ext (UInt32.toNat_inj.mp (show c.toNat = a.toNat by omega))
    · -- every byte of a longer form is at least 128
      exfalso
      simp only [Char.toNat] at small
      simp only [String.utf8EncodeChar, ascii, Char.toNat] at member isAscii
      rw [if_neg (by omega)] at member
      split at member
      · simp only [List.mem_cons, List.not_mem_nil, or_false, ← UInt8.toNat_inj,
          UInt8.toNat_ofNat'] at member
        omega
      · split at member <;>
        · simp only [List.mem_cons, List.not_mem_nil, or_false, ← UInt8.toNat_inj,
            UInt8.toNat_ofNat'] at member
          omega
  · rintro rfl
    simp [utf8EncodeChar_ascii isAscii]

theorem count_encode (s : String) : (encode s).count (ascii a) = s.toList.count a := by
  unfold encode
  induction s.toList with
  | nil => rfl
  | cons c rest ih =>
    rw [List.flatMap_cons, List.count_append, ih, List.count_cons]
    by_cases same : c = a
    · subst same
      simp [utf8EncodeChar_ascii isAscii, Nat.add_comm]
    · have absent : ascii a ∉ String.utf8EncodeChar c := fun member =>
        same ((ascii_mem_utf8EncodeChar isAscii).mp member)
      simp [List.count_eq_zero_of_not_mem absent, same]

/-- A text starts with an ASCII character exactly if its encoding starts with the byte. -/
theorem head?_encode_iff (s : String) :
    (encode s).head? = some (ascii a) ↔ s.toList.head? = some a := by
  unfold encode
  cases s.toList with
  | nil => simp
  | cons c rest =>
    obtain ⟨b, more, written⟩ := List.exists_cons_of_ne_nil (utf8EncodeChar_ne_nil c)
    rw [List.flatMap_cons, written, List.cons_append, List.head?_cons, List.head?_cons,
      Option.some_inj, Option.some_inj]
    constructor
    · rintro rfl
      exact (ascii_mem_utf8EncodeChar isAscii).mp (written ▸ List.mem_cons_self)
    · rintro rfl
      rw [utf8EncodeChar_ascii isAscii] at written
      exact (List.cons.inj written).1.symm

/-- A text ends in an ASCII character exactly if its encoding ends in the byte. -/
theorem getLast?_encode_iff (s : String) :
    (encode s).getLast? = some (ascii a) ↔ s.toList.getLast? = some a := by
  unfold encode
  cases h : s.toList.getLast? with
  | none => simp [List.getLast?_eq_none_iff.mp h]
  | some c =>
    obtain ⟨front, split⟩ := List.getLast?_eq_some_iff.mp h
    have written := utf8EncodeChar_ne_nil c
    have last : (String.utf8EncodeChar c).getLast? = some (ascii a) ↔ c = a := by
      constructor
      · exact fun last => (ascii_mem_utf8EncodeChar isAscii).mp (List.mem_of_getLast? last)
      · rintro rfl
        simp [utf8EncodeChar_ascii isAscii]
    rw [List.getLast?_eq_some_getLast written] at last
    rw [split, List.flatMap_append, List.flatMap_singleton, List.getLast?_append,
      List.getLast?_eq_some_getLast written, Option.some_or, last]
    simp

end

/-- A text of ASCII characters takes one byte for each. -/
theorem length_encode_of_ascii {s : String} (isAscii : ∀ c ∈ s.toList, c.toNat < 128) :
    (encode s).length = s.length := by
  unfold encode
  rw [← String.length_toList]
  generalize s.toList = chars at isAscii ⊢
  induction chars with
  | nil => rfl
  | cons c rest ih =>
    have first := utf8EncodeChar_ascii (isAscii c (by simp))
    have later := ih fun d member => isAscii d (List.mem_cons_of_mem _ member)
    simp [first, later]

end Utf8

end EditorBridge
