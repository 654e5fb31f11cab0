import EditorBridge.Text.Utf8

/-!
# Decoding what was encoded

The decoder gives a text back from its encoding.  So the bytes that survive decoding and encoding
are those that encode a text; in all others each ill-formed run has become a replacement character.

The value of a character is read six bits at a time, so the bits of a sequence under way are those
of the value without the six, twelve or eighteen that are still to come.
-/
namespace EditorBridge.Utf8

/-- The byte that continues a sequence with the last six bits of a number. -/
def tail (n : Nat) : UInt8 := UInt8.ofNat (n % 64 + 128)

theorem toNat_tail (n : Nat) : (tail n).toNat = n % 64 + 128 := by
  rw [tail, UInt8.toNat_ofNat']
  omega

theorem tail_mem_continuation (n : Nat) : 0x80 ≤ tail n ∧ tail n ≤ 0xBF := by
  simp only [UInt8.le_iff_toNat_le, toNat_tail, UInt8.reduceToNat]
  omega

theorem bits_tail (n : Nat) : n / 64 * 64 + ((tail n).toNat - 0x80) = n := by
  rw [toNat_tail]
  omega

section

variable {least greatest : UInt8} {n : Nat} (above : least ≤ tail n) (below : tail n ≤ greatest)
include above below

/-- A byte that continues the sequence under way, with others to come. -/
theorem step_more (needed : Nat) :
    step (some ⟨needed + 2, least, greatest, n / 64⟩) (tail n) =
      ([], some (continuation (needed + 1) n)) := by
  simp [step, above, below, bits_tail]

/-- The last byte of the sequence under way. -/
theorem step_last :
    step (some ⟨1, least, greatest, n / 64⟩) (tail n) = ([some (Char.ofNat n)], none) := by
  simp [step, above, below, bits_tail]

end

section

variable {v : Nat}

theorem step_one_byte (high : v < 0x80) :
    step none (UInt8.ofNat v) = ([some (Char.ofNat v)], none) := by
  have value : (UInt8.ofNat v).toNat = v := by
    rw [UInt8.toNat_ofNat']
    omega
  have ascii : UInt8.ofNat v ≤ 0x7F := by
    rw [UInt8.le_iff_toNat_le, value]
    exact Nat.le_of_lt_succ high
  simp only [step, first, ascii, if_true, value]

theorem step_first_of_two (low : 0x80 ≤ v) (high : v < 0x800) :
    step none (UInt8.ofNat (v / 64 % 32 + 192)) = ([], some (continuation 1 (v / 64))) := by
  have value : (UInt8.ofNat (v / 64 % 32 + 192)).toNat = v / 64 + 192 := by
    rw [UInt8.toNat_ofNat']
    omega
  simp only [step, first, UInt8.le_iff_toNat_le, UInt8.lt_iff_toNat_lt, value, UInt8.reduceToNat]
  rw [if_neg (by omega), if_neg (by omega), if_pos (by omega), Nat.add_sub_cancel]

/-- The second of three bytes is in the range that the first asks for, because the value needs three
bytes and is no surrogate. -/
theorem step_first_of_three (low : 0x800 ≤ v) (high : v < 0x10000)
    (scalar : v < 0xD800 ∨ 0xDFFF < v) :
    ∃ least greatest, step none (UInt8.ofNat (v / 4096 % 16 + 224)) =
        ([], some ⟨2, least, greatest, v / 64 / 64⟩) ∧
      least ≤ tail (v / 64) ∧ tail (v / 64) ≤ greatest := by
  have value : (UInt8.ofNat (v / 4096 % 16 + 224)).toNat = v / 64 / 64 + 224 := by
    rw [UInt8.toNat_ofNat']
    omega
  simp only [step, first, UInt8.le_iff_toNat_le, UInt8.lt_iff_toNat_lt, ← UInt8.toNat_inj, value,
    toNat_tail, UInt8.reduceToNat]
  rw [if_neg (by omega), if_neg (by omega), if_neg (by omega)]
  by_cases overlong : v / 64 / 64 = 0
  · exact ⟨0xA0, 0xBF, by simp [overlong], by simp; omega, by simp; omega⟩
  by_cases surrogate : v / 64 / 64 = 13
  · exact ⟨0x80, 0x9F, by simp [surrogate], by simp, by simp; omega⟩
  · refine ⟨0x80, 0xBF, ?_, by simp, by simp; omega⟩
    rw [if_neg (by omega), if_neg (by omega), if_pos (by omega), Nat.add_sub_cancel]
    rfl

/-- The second of four bytes is in the range that the first asks for, because the value needs four
bytes and is not too great. -/
theorem step_first_of_four (low : 0x10000 ≤ v) (high : v < 0x110000) :
    ∃ least greatest, step none (UInt8.ofNat (v / 262144 % 8 + 240)) =
        ([], some ⟨3, least, greatest, v / 64 / 64 / 64⟩) ∧
      least ≤ tail (v / 64 / 64) ∧ tail (v / 64 / 64) ≤ greatest := by
  have value : (UInt8.ofNat (v / 262144 % 8 + 240)).toNat = v / 64 / 64 / 64 + 240 := by
    rw [UInt8.toNat_ofNat']
    omega
  simp only [step, first, UInt8.le_iff_toNat_le, UInt8.lt_iff_toNat_lt, ← UInt8.toNat_inj, value,
    toNat_tail, UInt8.reduceToNat]
  rw [if_neg (by omega), if_neg (by omega), if_neg (by omega), if_neg (by omega),
    if_neg (by omega), if_neg (by omega)]
  by_cases overlong : v / 64 / 64 / 64 = 0
  · exact ⟨0x90, 0xBF, by simp [overlong], by simp; omega, by simp; omega⟩
  by_cases greatest : v / 64 / 64 / 64 = 4
  · exact ⟨0x80, 0x8F, by simp [greatest], by simp, by simp; omega⟩
  · refine ⟨0x80, 0xBF, ?_, by simp, by simp; omega⟩
    rw [if_neg (by omega), if_pos (by omega), Nat.add_sub_cancel]
    rfl

end

theorem scanFrom_cons {state next : Option Pending} {b : UInt8} {read : List (Option Char)}
    (h : step state b = (read, next)) (rest : Bytes) :
    scanFrom state (b :: rest) = read ++ scanFrom next rest := by
  cases state <;> simp only [scanFrom, h]

/-- The decoder reads the bytes of a character and is ready for the next one. -/
theorem scanFrom_utf8EncodeChar (c : Char) (rest : Bytes) :
    scanFrom none (String.utf8EncodeChar c ++ rest) = some c :: scanFrom none rest := by
  have whole : Char.ofNat c.val.toNat = c := Char.ofNat_toNat c
  have scalar : c.val.toNat < 0xD800 ∨ 0xDFFF < c.val.toNat ∧ c.val.toNat < 0x110000 := c.valid
  unfold String.utf8EncodeChar
  generalize c.val.toNat = v at whole scalar ⊢
  have ended := step_last (tail_mem_continuation v).1 (tail_mem_continuation v).2
  rw [whole] at ended
  by_cases one : v ≤ 127
  · have alone := step_one_byte (v := v) (by omega)
    rw [whole] at alone
    rw [if_pos one]
    exact scanFrom_cons alone rest
  by_cases two : v ≤ 2047
  · have begun := step_first_of_two (v := v) (by omega) (by omega)
    rw [if_neg one, if_pos two]
    exact (scanFrom_cons begun _).trans (scanFrom_cons ended rest)
  by_cases three : v ≤ 65535
  · obtain ⟨least, greatest, begun, above, below⟩ :=
      step_first_of_three (v := v) (by omega) (by omega) (by omega)
    rw [if_neg one, if_neg two, if_pos three]
    exact (scanFrom_cons begun _).trans
      ((scanFrom_cons (step_more above below 0) _).trans (scanFrom_cons ended rest))
  · obtain ⟨least, greatest, begun, above, below⟩ :=
      step_first_of_four (v := v) (by omega) (by omega)
    have third := step_more (tail_mem_continuation (v / 64)).1 (tail_mem_continuation (v / 64)).2 0
    have twelve : v / 4096 = v / 64 / 64 := by omega
    rw [if_neg one, if_neg two, if_neg three, twelve]
    exact (scanFrom_cons begun _).trans ((scanFrom_cons (step_more above below 1) _).trans
      ((scanFrom_cons third _).trans (scanFrom_cons ended rest)))

/-- Of an encoded text its characters are read. -/
theorem scan_encode (s : String) : scan (encode s) = s.toList.map some := by
  rw [scan, encode]
  induction s.toList with
  | nil => rfl
  | cons c rest ih => rw [List.flatMap_cons, scanFrom_utf8EncodeChar, ih, List.map_cons]

/-- Decoding gives an encoded text back. -/
@[simp] theorem decodeLossy_encode (s : String) : decodeLossy (encode s) = s := by
  rw [decodeLossy, decodeLossyChars, scan_encode]
  simp [Function.comp_def]

/-- An encoded text is well-formed. -/
@[simp] theorem decode?_encode (s : String) : decode? (encode s) = some s := by
  have whole (chars : List Char) : (chars.map some).mapM id = some chars := by
    induction chars with
    | nil => rfl
    | cons c rest ih =>
      rw [List.map_cons, List.mapM_cons, ih]
      rfl
  rw [decode?, scan_encode, whole, Option.map_some, String.ofList_toList]

/-- Different texts have different encodings. -/
theorem encode_inj {s t : String} : encode s = encode t ↔ s = t := by
  refine ⟨fun same => ?_, congrArg encode⟩
  rw [← decodeLossy_encode s, same, decodeLossy_encode]

/-- The bytes that survive decoding and encoding are those that encode a text. -/
theorem encode_decodeLossy_eq_iff {bytes : Bytes} :
    encode (decodeLossy bytes) = bytes ↔ ∃ s, bytes = encode s := by
  constructor
  · exact fun survived => ⟨_, survived.symm⟩
  · rintro ⟨s, rfl⟩
    rw [decodeLossy_encode]

end EditorBridge.Utf8
