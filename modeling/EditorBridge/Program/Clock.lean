/-!
# The time of day

Hours, minutes, seconds and microseconds, each with all its places.
-/
namespace EditorBridge.Program

/-- A number with zeros in front, up to a width. -/
def padded (width n : Nat) : String :=
  let digits := toString n
  String.ofList (List.replicate (width - digits.length) '0') ++ digits

/-- The time of day some microseconds after midnight, of this day or an earlier one. -/
def timeOfDay (microseconds : Nat) : String :=
  let seconds := microseconds / 1000000
  padded 2 (seconds / 3600 % 24) ++ ":" ++ padded 2 (seconds / 60 % 60) ++ ":"
    ++ padded 2 (seconds % 60) ++ "." ++ padded 6 (microseconds % 1000000)

end EditorBridge.Program
