import EditorBridge.Shell.Condition
import EditorBridge.Utility.Basic

/-!
# Judging conditions

Conditions are judged as by a shell, but complaints have other words.
-/
namespace EditorBridge.Utility

open Host Act
open Shell (Condition.Fault)

def conditionComplaint (arguments : List Raw) : Condition.Fault → Raw
  | .missingArgument _ => "missing argument after ".toList ++ Quoting.shown (arguments.getLastD [])
  | .unexpectedOperator argument =>
      if arguments.length = 2 then
        Quoting.shown (arguments.headD []) ++ ": unary operator expected".toList
      else if arguments.length = 3 then
        Quoting.shown ((arguments[1]?).getD []) ++ ": binary operator expected".toList
      else "extra argument ".toList ++ Quoting.shown argument
  | .noNumber text => "invalid integer ".toList ++ Quoting.shown text
  | .unclosed => "')' expected".toList

def test : Utility := fun arguments => do
  let place : Shell.Condition.Place := ⟨(← machine).files, (← task).directory⟩
  let arguments := arguments.map fun argument => if argument = "==".toList then ['='] else argument
  match Shell.Condition.judge place (arguments.length + 1) arguments with
  | .ok holds => return if holds then 0 else 1
  | .error fault => giveUp (conditionComplaint arguments fault)

def bracket : Utility := fun arguments => do
  if arguments.getLast? = some [']'] then test arguments.dropLast
  else giveUp "missing ']'".toList

end EditorBridge.Utility
