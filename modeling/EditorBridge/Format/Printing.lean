import EditorBridge.Format.Quoting
import EditorBridge.Format.Directive
import EditorBridge.Format.Escape

/-!
# Printing by a format

A format is used again as long as there are arguments left, and missing arguments are empty or zero.
What is wrong with an argument is complained about in its place; what is wrong with the format ends
the printing.
-/
namespace EditorBridge.Format

/-- What printing gives, in order. -/
inductive Printed where
  | text (raw : Raw)
  | complaint (raw : Raw)
  deriving DecidableEq, Repr

inductive Stop where
  /-- An escape says so. -/
  | ended
  | wrong (complaint : Raw)
  deriving DecidableEq, Repr

/-- Where printing is: the arguments left, what has been printed with the last piece first, whether
an argument was asked for, and whether all arguments were good. -/
structure Progress where
  arguments : List Raw
  printed : List Printed
  consumed : Bool
  good : Bool

/-- Printing goes on until it is stopped. -/
abbrev Print := ExceptT Stop (StateM Progress)

def put (raw : Raw) : Print Unit :=
  modify fun progress => { progress with printed := .text raw :: progress.printed }

def complain (isHarmless : Bool) (raw : Raw) : Print Unit :=
  modify fun progress =>
    { progress with
      printed := .complaint raw :: progress.printed
      good := progress.good && isHarmless }

/-- The next argument, if there is one. -/
def takeArgument? : Print (Option Raw) := do
  match (← get).arguments with
  | [] =>
      modify fun progress => { progress with consumed := true }
      return none
  | argument :: rest => do
      modify fun progress => { progress with arguments := rest, consumed := true }
      return some argument

def takeArgument : Print Raw := return (← takeArgument?).getD []

def shown (dialect : Dialect) (argument : Raw) : Raw :=
  match dialect with
  | .shell => argument
  | .program => Quoting.shown argument

/-- Complain about what is left of an argument after its number, or about its size. -/
def checkNumber (dialect : Dialect) (argument rest : Raw) (isTooGreat : Bool) : Print Unit := do
  let complainOf (text : String) : Print Unit :=
    complain false (shown dialect argument ++ ": ".toList ++ text.toList)
  let (noNumber, tooLong) := match dialect with
    | .shell => ("expected numeric value", "not completely converted")
    | .program => ("expected a numeric value", "value not completely converted")
  let complainOfRest : Print Unit := complainOf (if rest = argument then noNumber else tooLong)
  let complainOfSize : Print Unit := complainOf "Numerical result out of range"
  match dialect with
  | .shell =>
      if rest ≠ [] then complainOfRest
      else if isTooGreat then complainOfSize
  | .program =>
      if isTooGreat then complainOfSize
      else if rest ≠ [] then complainOfRest

/-- The character after a quote counts as its number. -/
def characterNumber? (dialect : Dialect) (argument : Raw) : Print (Option Nat) := do
  match dialect, argument with
  | .shell, quote :: rest =>
      return if quote = '\'' || quote = '"' then some ((rest.headD '\x00').toNat) else none
  | .program, quote :: c :: rest =>
      if quote = '\'' || quote = '"' then do
        if rest ≠ [] then
          complain true ("warning: ".toList ++ rest ++
            ": character(s) following character constant have been ignored".toList)
        return some c.toNat
      else return none
  | _, _ => return none

def takeNumber (dialect : Dialect) (signed : Bool) : Print Int := do
  match ← takeArgument? with
  | none => return 0
  | some argument =>
      match ← characterNumber? dialect argument with
      | some n => return n
      | none => do
          let number := readNumber signed argument
          checkNumber dialect argument number.rest number.isTooGreat
          return number.value

/-- The number of the next argument, which may have a point or an exponent. -/
def takeFraction (dialect : Dialect) : Print (Bool × Magnitude) := do
  match ← takeArgument? with
  | none => return (false, .finite 0 1)
  | some argument =>
      match ← characterNumber? dialect argument with
      | some n => return (false, .finite n 1)
      | none => do
          let fraction := readFraction argument
          checkNumber dialect argument fraction.rest false
          return (fraction.negative, fraction.magnitude)

def putInterpreted (dialect : Dialect) (directive : Directive) (text : Raw) : Print Unit := do
  let interpreted := interpret dialect .argument text
  put (directive.ofText interpreted.text)
  if interpreted.isBroken then throw (.wrong "missing hexadecimal number in escape".toList)
  if !interpreted.goesOn then throw .ended

def Dialect.accuracy : Dialect → Directive.Accuracy
  | shell => ⟨53, 1⟩
  | program => ⟨64, 4⟩

def Dialect.flags : Dialect → Raw
  | shell => "#-+ 0".toList
  | program => "'I-+ #0".toList

/-- Whether a conversion goes with flags and a precision. -/
def Dialect.admits (dialect : Dialect) (directive : Directive) (hasPrecision : Bool) : Bool :=
  let conversion := directive.conversion
  let isOneOf (letters : String) : Bool := letters.toList.contains conversion
  match dialect with
  | .shell => isOneOf "bcsdiouxXaAeEfFgG"
  | .program =>
      isOneOf "csdiouxXaAeEfFgG" &&
        !((directive.has '\'' || directive.has 'I') && isOneOf "aAceEosxX") &&
        !(directive.has '#' && isOneOf "cdisu") &&
        !(directive.has '0' && isOneOf "cs") &&
        !(hasPrecision && isOneOf "c")

/-- A width or a precision, from the format or from an argument, and the rest of the format. -/
def measure (dialect : Dialect) (format : Raw) : Print (Option Int × Raw) := do
  match format with
  | '*' :: rest => return (some (← takeNumber dialect true), rest)
  | format => do
      let digits := format.takeWhile Char.isDigit
      return ((Raw.nat? digits).map fun n => (n : Int), format.drop digits.length)

/-- Print the next argument as a directive asks for. -/
def putArgument (dialect : Dialect) (directive : Directive) : Print Unit := do
  match directive.conversion with
  | 's' => put (directive.ofText (← takeArgument))
  | 'b' => putInterpreted dialect directive (← takeArgument)
  | 'c' => put (directive.ofCharacter ((← takeArgument).headD '\x00'))
  | 'd' | 'i' => put (directive.ofInt (← takeNumber dialect true))
  | 'o' | 'u' | 'x' | 'X' => put (directive.ofNat (← takeNumber dialect false).toNat)
  | _ => do
      let (negative, magnitude) ← takeFraction dialect
      put (directive.ofFraction dialect.accuracy negative magnitude)

/-- Print by a directive after its percent sign, and give the rest of the format. -/
def putDirective (dialect : Dialect) (format : Raw) : Print Raw := do
  let flags := format.takeWhile dialect.flags.contains
  let (width, rest) ← measure dialect (format.drop flags.length)
  let (precision, rest, hasPrecision) ← match rest with
    | '.' :: rest => do
        let (precision, rest) ← measure dialect rest
        pure (some (precision.getD 0), rest, true)
    | rest => pure (none, rest, false)
  let rest := match dialect with
    | .shell => rest
    | .program => rest.dropWhile "lLhjtz".toList.contains
  let upTo (rest : Raw) : Raw := '%' :: format.take (format.length - rest.length)
  match dialect, rest with
  | .shell, [] => throw (.wrong "missing format character".toList)
  | .program, [] => throw (.wrong (upTo [] ++ ": invalid conversion specification".toList))
  | dialect, conversion :: rest =>
      let directive : Directive := ⟨flags, width, precision, conversion⟩
      if dialect.admits directive hasPrecision then do
        putArgument dialect directive
        return rest
      else throw (.wrong (upTo rest ++ (match dialect with
        | .shell => ": invalid directive"
        | .program => ": invalid conversion specification").toList))

def printOnce (dialect : Dialect) : Nat → Raw → Print Unit
  | 0, _ => return ()
  | fuel + 1, format => do
      let plain := format.takeWhile fun c => c ≠ '\\' && c ≠ '%'
      if plain ≠ [] then put plain
      match format.drop plain.length with
      | [] => return ()
      | '\\' :: rest =>
          match escape dialect .format rest with
          | .ends => throw .ended
          | .broken => throw (.wrong "missing hexadecimal number in escape".toList)
          | .means meaning rest => do
              put meaning
              printOnce dialect fuel rest
      | _ :: '%' :: rest => do
          put ['%']
          printOnce dialect fuel rest
      | _ :: rest =>
          match dialect, rest with
          | .program, 'b' :: rest => do
              putInterpreted dialect ⟨[], none, none, 's'⟩ (← takeArgument)
              printOnce dialect fuel rest
          | .program, 'q' :: rest => do
              put (Quoting.forShell (← takeArgument))
              printOnce dialect fuel rest
          | dialect, rest => do
              let rest ← putDirective dialect rest
              printOnce dialect fuel rest

/-- Go through a format until the arguments are used up. -/
def printAll (dialect : Dialect) (format : Raw) : Nat → Print Unit
  | 0 => return ()
  | fuel + 1 => do
      modify fun progress => { progress with consumed := false }
      printOnce dialect (format.length + 1) format
      let progress ← get
      match progress.arguments with
      | [] => return ()
      | argument :: _ =>
          if progress.consumed then printAll dialect format fuel
          else if dialect = .program then
            complain true ("warning: ignoring excess arguments, starting with ".toList ++
              shown dialect argument)

/-- What comes of a format and arguments. -/
structure Outcome where
  printed : List Printed
  good : Bool
  /-- What is wrong with the format. -/
  fault : Option Raw

def print (dialect : Dialect) (format : Raw) (arguments : List Raw) : Outcome :=
  let (result, progress) :=
    (printAll dialect format (arguments.length + 1)).run.run ⟨arguments, [], false, true⟩
  let fault := match result with
    | .error (.wrong complaint) => some complaint
    | _ => none
  ⟨progress.printed.reverse, progress.good, fault⟩

end EditorBridge.Format
