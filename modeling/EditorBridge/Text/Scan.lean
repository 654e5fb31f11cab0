/-!
# Scanning quoted texts

A scanner reads a text up to its closing mark and yields the text with what follows the mark, or
nothing when the mark is missing or the text is not allowed.
-/
namespace EditorBridge.Text

/-- The text read so far, and the rest of the input. -/
abbrev Scan := Option (List Char × List Char)

def Scan.cons (c : Char) : Scan → Scan
  | some (text, rest) => some (c :: text, rest)
  | none => none

/-- What is left after a scan is shorter than a bound. -/
def Scan.Within (bound : Nat) (scan : Scan) : Prop :=
  ∀ text rest, scan = some (text, rest) → rest.length < bound

theorem Scan.within_none (bound : Nat) : Scan.Within bound none := by simp [Scan.Within]

theorem Scan.within_some {bound : Nat} {text rest : List Char} (h : rest.length < bound) :
    Scan.Within bound (some (text, rest)) := by
  intro text' rest' heq
  simp only [Option.some.injEq, Prod.mk.injEq] at heq
  exact heq.2 ▸ h

theorem Scan.Within.mono {bound bound' : Nat} {scan : Scan} (h : scan.Within bound)
    (hle : bound ≤ bound') : scan.Within bound' :=
  fun text rest heq => Nat.lt_of_lt_of_le (h text rest heq) hle

theorem Scan.Within.cons {bound bound' : Nat} {scan : Scan} {c : Char} (h : scan.Within bound)
    (hle : bound ≤ bound') : (scan.cons c).Within bound' := by
  intro text rest heq
  unfold Scan.cons at heq
  split at heq
  · simp only [Option.some.injEq, Prod.mk.injEq] at heq
    exact heq.2 ▸ Nat.lt_of_lt_of_le (h _ _ rfl) hle
  · simp at heq

def hexDigit? (c : Char) : Option Nat :=
  if '0' ≤ c ∧ c ≤ '9' then some (c.toNat - '0'.toNat)
  else if 'a' ≤ c ∧ c ≤ 'f' then some (c.toNat - 'a'.toNat + 10)
  else if 'A' ≤ c ∧ c ≤ 'F' then some (c.toNat - 'A'.toNat + 10)
  else none

def hexValue? (digits : List Char) : Option Nat :=
  digits.foldlM (fun n c => (hexDigit? c).map (n * 16 + ·)) 0

/-- The character with a code point, if there is one. -/
def scalar? (n : Nat) : Option Char := if n.isValidChar then some (Char.ofNat n) else none

end EditorBridge.Text
