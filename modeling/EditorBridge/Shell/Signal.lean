import EditorBridge.Text.Raw

/-!
# Signals

Their numbers, the names under which scripts know them, and what is said about a program that one
has killed.
-/
namespace EditorBridge.Shell.Signal

/-- The names by number, the end of a shell being the first. -/
def names : List String :=
  ["EXIT", "HUP", "INT", "QUIT", "ILL", "TRAP", "ABRT", "BUS", "FPE", "KILL", "USR1", "SEGV",
    "USR2", "PIPE", "ALRM", "TERM", "16", "CHLD", "CONT", "STOP", "TSTP", "TTIN", "TTOU", "URG",
    "XCPU", "XFSZ", "VTALRM", "PROF", "WINCH", "IO", "PWR", "SYS", "32", "33", "RTMIN", "RTMIN+1",
    "RTMIN+2", "RTMIN+3", "RTMIN+4", "RTMIN+5", "RTMIN+6", "RTMIN+7", "RTMIN+8", "RTMIN+9",
    "RTMIN+10", "RTMIN+11", "RTMIN+12", "RTMIN+13", "RTMIN+14", "RTMIN+15", "RTMAX-14", "RTMAX-13",
    "RTMAX-12", "RTMAX-11", "RTMAX-10", "RTMAX-9", "RTMAX-8", "RTMAX-7", "RTMAX-6", "RTMAX-5",
    "RTMAX-4", "RTMAX-3", "RTMAX-2", "RTMAX-1", "RTMAX"]

def count : Nat := 65

def name (signal : Nat) : Raw := (names[signal]?.getD "").toList

/-- The texts for signals that are no real-time signals. -/
def texts : List (Nat × String) :=
  [(1, "Hangup"), (2, "Interrupt"), (3, "Quit"), (4, "Illegal instruction"),
    (5, "Trace/breakpoint trap"), (6, "Aborted"), (7, "Bus error"), (8, "Floating point exception"),
    (9, "Killed"), (10, "User defined signal 1"), (11, "Segmentation fault"),
    (12, "User defined signal 2"), (13, "Broken pipe"), (14, "Alarm clock"), (15, "Terminated"),
    (16, "Stack fault"), (17, "Child exited"), (18, "Continued"), (19, "Stopped (signal)"),
    (20, "Stopped"), (21, "Stopped (tty input)"), (22, "Stopped (tty output)"),
    (23, "Urgent I/O condition"), (24, "CPU time limit exceeded"), (25, "File size limit exceeded"),
    (26, "Virtual timer expired"), (27, "Profiling timer expired"), (28, "Window changed"),
    (29, "I/O possible"), (30, "Power failure"), (31, "Bad system call")]

def text (signal : Nat) : Raw :=
  match texts.lookup signal with
  | some text => text.toList
  | none =>
      if 34 ≤ signal then "Real-time signal ".toList ++ Raw.ofNat (signal - 34)
      else "Unknown signal ".toList ++ Raw.ofNat signal

/-- What is said about a program that a signal has killed: nothing, if somebody has interrupted it
or it could not write. -/
def obituary (signal : Nat) : Raw :=
  if signal = 2 || signal = 13 then [] else text signal ++ ['\n']

def ofNumber? (text : Raw) : Option Nat :=
  (Raw.nat? text).bind fun n => if n < count then some n else none

/-- The signal of a number or a name, whose letters may be small; the names start with a certain
one. -/
def ofText? (least : Nat) (text : Raw) : Option Nat :=
  if text ≠ [] && text.all Char.isDigit then ofNumber? text
  else
    let text := String.ofList (text.map Char.toUpper)
    ((List.range count).drop least).find? fun signal => names[signal]? = some text

end EditorBridge.Shell.Signal
