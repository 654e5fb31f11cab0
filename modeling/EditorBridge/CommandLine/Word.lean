import EditorBridge.Text.Utf8

/-!
# Words of a command line

The shapes of arguments that the `clap` library tells apart.

An argument that starts with two hyphens names a flag, with or without a value after an equals sign;
one that starts with a single hyphen is a cluster of one-letter flags; two hyphens alone end the
flags.  Anything else, a lone hyphen included, stands for itself.
-/
namespace EditorBridge.CommandLine

/-- What an argument looks like, before anyone knows which flags there are. -/
inductive Word where
  /-- The end of the flags. -/
  | endOfFlags
  /-- A flag by its long name, perhaps with a value attached. -/
  | long (name : Bytes) (value : Option Bytes)
  /-- One-letter flags. -/
  | letters (cluster : Bytes)
  | plain (bytes : Bytes)
  deriving DecidableEq, Repr

namespace Word

/-- The byte that starts a flag. -/
def hyphen : UInt8 := 0x2D

/-- The byte between a flag and its value. -/
def equals : UInt8 := 0x3D

/-- A flag's name and the value after the first equals sign. -/
def splitValue : Bytes → Bytes × Option Bytes
  | [] => ([], none)
  | b :: rest =>
      if b = equals then ([], some rest)
      else
        let (name, value) := splitValue rest
        (b :: name, value)

def ofArgument : Bytes → Word
  | [0x2D, 0x2D] => endOfFlags
  | 0x2D :: 0x2D :: rest => long (splitValue rest).1 (splitValue rest).2
  | [0x2D] => plain [hyphen]
  | 0x2D :: cluster => letters cluster
  | bytes => plain bytes

def argument : Word → Bytes
  | endOfFlags => [hyphen, hyphen]
  | long name none => hyphen :: hyphen :: name
  | long name (some value) => hyphen :: hyphen :: name ++ equals :: value
  | letters cluster => hyphen :: cluster
  | plain bytes => bytes

theorem splitValue_append (name value : Bytes) (h : equals ∉ name) :
    splitValue (name ++ equals :: value) = (name, some value) := by
  induction name with
  | nil => simp [splitValue]
  | cons b rest ih =>
    have hb : b ≠ equals := fun e => h (e ▸ List.mem_cons_self)
    simp [splitValue, hb, ih fun m => h (List.mem_cons_of_mem _ m)]

theorem splitValue_of_not_mem (name : Bytes) (h : equals ∉ name) :
    splitValue name = (name, none) := by
  induction name with
  | nil => rfl
  | cons b rest ih =>
    have hb : b ≠ equals := fun e => h (e ▸ List.mem_cons_self)
    simp [splitValue, hb, ih fun m => h (List.mem_cons_of_mem _ m)]

end Word

end EditorBridge.CommandLine
