import EditorBridge.Unicode.Ranges

/-!
# White space

The property `White_Space`, and the removal of white space at the ends of a text.
-/
namespace EditorBridge.Unicode

/-- Code points with the property `White_Space`. -/
def whiteSpace : Ranges := [
  (0x9, 0xd), (0x20, 0x20), (0x85, 0x85), (0xa0, 0xa0), (0x1680, 0x1680), (0x2000, 0x200a),
  (0x2028, 0x2029), (0x202f, 0x202f), (0x205f, 0x205f), (0x3000, 0x3000)]

/-- A character of white space. -/
def isWhiteSpace (c : Char) : Bool := whiteSpace.contains c.toNat

end EditorBridge.Unicode
