import EditorBridge.Text.Raw

/-!
# Letters for bytes

Three bytes are written as four letters of six bits each.  What is left at the end is filled up with
zero bits, and the letters with signs that stand for nothing.
-/
namespace EditorBridge.Base64

/-- The letters for six bits. -/
def alphabet : Raw :=
  "ABCDEFGHIJKLMNOPQRSTUVWXYZabcdefghijklmnopqrstuvwxyz0123456789+/".toList

def letterOf (n : Nat) : Char := (alphabet[n % 64]?).getD 'A'

def encode : Raw → Raw
  | a :: b :: c :: rest =>
      let n := (a.toNat * 256 + b.toNat) * 256 + c.toNat
      letterOf (n / 262144) :: letterOf (n / 4096) :: letterOf (n / 64) :: letterOf n ::
        encode rest
  | [a, b] =>
      let n := (a.toNat * 256 + b.toNat) * 4
      [letterOf (n / 4096), letterOf (n / 64), letterOf n, '=']
  | [a] =>
      let n := a.toNat * 16
      [letterOf (n / 64), letterOf n, '=', '=']
  | [] => []

/-- The six bits that a letter stands for. -/
def bits? (c : Char) : Option Nat :=
  let n := alphabet.findIdx (· = c)
  if n < alphabet.length then some n else none

/-- The bytes for letters, and whether that was right up to the end. -/
def decode : Raw → Raw × Bool
  | a :: b :: '=' :: '=' :: rest =>
      match bits? a, bits? b with
      | some a, some b =>
          let (more, right) := decode rest
          (Char.ofNat ((a * 64 + b) / 16) :: more, right)
      | _, _ => ([], false)
  | a :: b :: c :: '=' :: rest =>
      match bits? a, bits? b, bits? c with
      | some a, some b, some c =>
          let n := ((a * 64 + b) * 64 + c) / 4
          let (more, right) := decode rest
          (Char.ofNat (n / 256) :: Char.ofNat (n % 256) :: more, right)
      | _, _, _ => ([], false)
  | a :: b :: c :: d :: rest =>
      match bits? a, bits? b, bits? c, bits? d with
      | some a, some b, some c, some d =>
          let n := ((a * 64 + b) * 64 + c) * 64 + d
          let (more, right) := decode rest
          (Char.ofNat (n / 65536) :: Char.ofNat (n / 256 % 256) :: Char.ofNat (n % 256) :: more,
            right)
      | some a, some b, some c, none =>
          let n := ((a * 64 + b) * 64 + c) / 4
          ([Char.ofNat (n / 256), Char.ofNat (n % 256)], false)
      | some a, some b, none, _ => ([Char.ofNat ((a * 64 + b) / 16)], false)
      | _, _, _, _ => ([], false)
  | [a, b, c] =>
      match bits? a, bits? b, bits? c with
      | some a, some b, some c =>
          let n := ((a * 64 + b) * 64 + c) / 4
          ([Char.ofNat (n / 256), Char.ofNat (n % 256)], false)
      | some a, some b, none => ([Char.ofNat ((a * 64 + b) / 16)], false)
      | _, _, _ => ([], false)
  | [a, b] =>
      match bits? a, bits? b with
      | some a, some b => ([Char.ofNat ((a * 64 + b) / 16)], false)
      | _, _ => ([], false)
  | [_] => ([], false)
  | [] => ([], true)

end EditorBridge.Base64
