import EditorBridge.CommandLine.Flags
import EditorBridge.Proofs.Text.Decoding
import Mathlib.Data.List.Nodup
import Mathlib.Logic.Function.Basic

/-!
# What written flags say

Flags say at most one thing under each name (`Flags.meaning?`), and what a written flag says is
entered under its name, if there is nothing yet (`take_eq_ok_iff`, `exists_take`).  So written flags
are taken in exactly if each has its own name and a meaning, and what comes of them has these
meanings and no others (`takeAll_eq_ok_iff`).  The order of the flags does not matter.
-/
namespace EditorBridge.CommandLine

inductive Meaning where
  | path (path : Path)
  | text (text : String)
  | seconds (count : Nat)
  /-- The flag is there. -/
  | given
  deriving DecidableEq

/-- Whether a value is a decimal numeral, perhaps with a plus sign, for a number of 64 bits. -/
def IsNumeral (value : Bytes) (n : Nat) : Prop :=
  ∃ sign digits : List Char, Utf8.decode? value = some (String.ofList (sign ++ digits)) ∧
    (sign = [] ∨ sign = ['+']) ∧ digits ≠ [] ∧ (∀ c ∈ digits, c.isDigit = true) ∧
    Nat.ofDigitChars 10 digits 0 = n ∧ n < UInt64.size

inductive OptionName.Reads : OptionName → Bytes → Meaning → Prop
  | config {path : Path} (ne_nil : path ≠ []) : Reads .config path (.path path)
  | program {value : Bytes} {text : String} (isText : Utf8.decode? value = some text) :
      Reads .program value (.text text)
  | statusFile {value : Bytes} {text : String} (isText : Utf8.decode? value = some text) :
      Reads .statusFile value (.text text)
  | projectDir {path : Path} (ne_nil : path ≠ []) : Reads .projectDir path (.path path)
  | timeout {value : Bytes} {n : Nat} (isNumeral : IsNumeral value n) :
      Reads .timeout value (.seconds n)

def Written.Means : Written → Meaning → Prop
  | option name value _, meaning => name.Reads value meaning
  | switch _, meaning => meaning = .given
  | letterVerbose, meaning => meaning = .given

namespace Flags

def meaning? (flags : Flags) : FlagName → Option Meaning
  | .option .config => flags.config.map .path
  | .option .program => flags.program.map .text
  | .option .statusFile => flags.statusFile.map .text
  | .option .projectDir => flags.projectDir.map .path
  | .option .timeout => flags.timeout.map .seconds
  | .switch .printConfig => if flags.printConfig then some .given else .none
  | .switch .verbose => if flags.verbose then some .given else .none
  | .help => .none
  | .version => .none

@[simp] theorem meaning?_none (name : FlagName) : none.meaning? name = .none := by
  cases name with
  | option option => cases option <;> rfl
  | switch switch => cases switch <;> rfl
  | help => rfl
  | version => rfl

/-- Flags are what they say. -/
theorem eq_of_meaning? {a b : Flags} (same : a.meaning? = b.meaning?) : a = b := by
  have text := Option.map_injective fun s t (h : Meaning.text s = .text t) => Meaning.text.inj h
  have path := Option.map_injective fun s t (h : Meaning.path s = .path t) => Meaning.path.inj h
  have seconds := Option.map_injective fun m n (h : Meaning.seconds m = .seconds n) =>
    Meaning.seconds.inj h
  have on {p q : Bool} (h : (if p then some Meaning.given else .none) =
      if q then some .given else .none) : p = q := by
    cases p <;> cases q <;> first | rfl | cases h
  have name (name : FlagName) : a.meaning? name = b.meaning? name := congrFun same name
  obtain ⟨config, program, statusFile, projectDir, timeout, printConfig, verbose⟩ := a
  obtain ⟨config', program', statusFile', projectDir', timeout', printConfig', verbose'⟩ := b
  obtain rfl : config = config' := path (name (.option .config))
  obtain rfl : program = program' := text (name (.option .program))
  obtain rfl : statusFile = statusFile' := text (name (.option .statusFile))
  obtain rfl : projectDir = projectDir' := path (name (.option .projectDir))
  obtain rfl : timeout = timeout' := seconds (name (.option .timeout))
  obtain rfl : printConfig = printConfig' := on (name (.switch .printConfig))
  obtain rfl : verbose = verbose' := on (name (.switch .verbose))
  rfl

end Flags

theorem pathValue_eq_ok_iff {value path : Bytes} :
    pathValue value = .ok path ↔ value ≠ [] ∧ path = value := by
  unfold pathValue
  split <;> simp_all [eq_comm]

theorem textValue_eq_ok_iff {value : Bytes} {text : String} :
    textValue value = .ok text ↔ Utf8.decode? value = some text := by
  unfold textValue
  split <;> simp_all

theorem number?_eq_some_iff {digits : List Char} {n : Nat} :
    number? digits = some n ↔ digits ≠ [] ∧ (∀ c ∈ digits, c.isDigit = true) ∧
      Nat.ofDigitChars 10 digits 0 = n ∧ n < UInt64.size := by
  have value : digits.foldl (fun n c => n * 10 + (c.toNat - '0'.toNat)) 0 =
      Nat.ofDigitChars 10 digits 0 := by
    simp only [Nat.ofDigitChars, Nat.mul_comm]
  unfold number?
  rw [value]
  simp only [List.all_eq_true]
  split
  · rename_i written
    split
    · rename_i fits
      rw [Option.some_inj]
      exact ⟨fun same => ⟨written.1, written.2, same, same ▸ fits⟩, fun denoted => denoted.2.2.1⟩
    · rename_i large
      exact iff_of_false nofun fun denoted => large (denoted.2.2.1 ▸ denoted.2.2.2)
  · rename_i other
    exact iff_of_false nofun fun denoted => other ⟨denoted.1, denoted.2.1⟩

section

variable {value : Bytes} {n : Nat}

theorem numberValue_of_signed {digits : List Char}
    (isText : Utf8.decode? value = some (String.ofList ('+' :: digits))) :
    numberValue value = .ok n ↔ number? digits = some n := by
  simp only [numberValue, textValue_eq_ok_iff.mpr isText, bind, Except.bind, String.toList_ofList]
  split <;> simp_all [pure, Except.pure]

theorem numberValue_of_unsigned {digits : List Char}
    (isText : Utf8.decode? value = some (String.ofList digits)) (plain : digits.head? ≠ some '+') :
    numberValue value = .ok n ↔ number? digits = some n := by
  simp only [numberValue, textValue_eq_ok_iff.mpr isText, bind, Except.bind, String.toList_ofList]
  split <;> split at * <;> simp_all [pure, Except.pure]

theorem numberValue_eq_ok_iff : numberValue value = .ok n ↔ IsNumeral value n := by
  constructor
  · intro read
    cases isText : Utf8.decode? value with
    | none => simp [numberValue, textValue, isText, bind, Except.bind] at read
    | some text =>
      rw [← String.ofList_toList (s := text)] at isText
      by_cases signed : text.toList.head? = some '+'
      · obtain ⟨digits, whole⟩ := List.head?_eq_some_iff.mp signed
        rw [whole] at isText
        exact ⟨['+'], digits, isText, .inr rfl,
          number?_eq_some_iff.mp ((numberValue_of_signed isText).mp read)⟩
      · exact ⟨[], text.toList, isText, .inl rfl,
          number?_eq_some_iff.mp ((numberValue_of_unsigned isText signed).mp read)⟩
  · rintro ⟨sign, digits, isText, rfl | rfl, denoted⟩
    · -- A numeral without a sign is not mistaken for one with a sign: a plus is no digit.
      have plain : digits.head? ≠ some '+' := fun signed =>
        absurd (denoted.2.1 '+' (List.mem_of_head? signed)) (by decide)
      exact (numberValue_of_unsigned isText plain).mpr (number?_eq_some_iff.mpr denoted)
    · exact (numberValue_of_signed isText).mpr (number?_eq_some_iff.mpr denoted)

end

/-- The decimal numeral of a number of 64 bits. -/
theorem isNumeral_toString {n : Nat} (fits : n < UInt64.size) :
    IsNumeral (Utf8.encode (toString n)) n := by
  refine ⟨[], Nat.toDigits 10 n, ?_, .inl rfl, Nat.toDigits_ne_nil,
    fun _ member => Nat.isDigit_of_mem_toDigits (by decide) (by decide) member,
    Nat.ofDigitChars_toDigits (by decide) (by decide), fits⟩
  rw [Utf8.decode?_encode, List.nil_append, ← Nat.repr_eq_ofList_toDigits]
  rfl

def OptionName.read (value : Bytes) : OptionName → Except UsageError Meaning
  | .config => (pathValue value).map .path
  | .program => (textValue value).map .text
  | .statusFile => (textValue value).map .text
  | .projectDir => (pathValue value).map .path
  | .timeout => (numberValue value).map .seconds

theorem OptionName.read_eq_ok_iff {name : OptionName} {value : Bytes} {meaning : Meaning} :
    name.read value = .ok meaning ↔ name.Reads value meaning := by
  have mapped {α : Type} {read : Except UsageError α} {say : α → Meaning} :
      read.map say = .ok meaning ↔ ∃ a, read = .ok a ∧ say a = meaning := by
    cases read <;> simp [Except.map]
  constructor
  · intro accepted
    cases name <;> obtain ⟨a, known, rfl⟩ := mapped.mp accepted
    · obtain ⟨ne_nil, rfl⟩ := pathValue_eq_ok_iff.mp known
      exact .config ne_nil
    · exact .program (textValue_eq_ok_iff.mp known)
    · exact .statusFile (textValue_eq_ok_iff.mp known)
    · obtain ⟨ne_nil, rfl⟩ := pathValue_eq_ok_iff.mp known
      exact .projectDir ne_nil
    · exact .timeout (numberValue_eq_ok_iff.mp known)
  · rintro (ne_nil | isText | isText | ne_nil | isNumeral)
    · exact mapped.mpr ⟨_, pathValue_eq_ok_iff.mpr ⟨ne_nil, rfl⟩, rfl⟩
    · exact mapped.mpr ⟨_, textValue_eq_ok_iff.mpr isText, rfl⟩
    · exact mapped.mpr ⟨_, textValue_eq_ok_iff.mpr isText, rfl⟩
    · exact mapped.mpr ⟨_, pathValue_eq_ok_iff.mpr ⟨ne_nil, rfl⟩, rfl⟩
    · exact mapped.mpr ⟨_, numberValue_eq_ok_iff.mpr isNumeral, rfl⟩

/-- A written flag means one thing. -/
theorem Written.Means.unique {item : Written} {a b : Meaning} (ha : item.Means a)
    (hb : item.Means b) : a = b := by
  cases item with
  | option name value attached =>
    have same := (OptionName.read_eq_ok_iff.mpr ha).symm.trans (OptionName.read_eq_ok_iff.mpr hb)
    exact Except.ok.inj same
  | switch name => exact Eq.trans ha (Eq.symm hb)
  | letterVerbose => exact Eq.trans ha (Eq.symm hb)

namespace Flags

variable {flags next : Flags}

/-- A setting that is entered had no value, and the other settings keep theirs. -/
theorem entered_iff {α : Type} {current : Option α} {value : Except UsageError α}
    {set : Option α → Flags} {say : α → Meaning} {name : FlagName}
    (now : flags.meaning? name = current.map say)
    (changed : ∀ a, (set a).meaning? = Function.update flags.meaning? name (a.map say)) :
    (assignOnce current value >>= fun a => pure (set a)) = .ok next ↔
      flags.meaning? name = .none ∧ ∃ meaning, value.map say = .ok meaning ∧
        next.meaning? = Function.update flags.meaning? name (some meaning) := by
  rw [now]
  cases current with
  | some a => simp [assignOnce, bind, Except.bind]
  | none =>
    cases value with
    | error error => simp [assignOnce, bind, Except.bind, Except.map]
    | ok a =>
      have entered : (assignOnce .none (.ok a) >>= fun a => pure (set a)) =
          (.ok (set (some a)) : Except UsageError Flags) := rfl
      rw [entered, Except.ok.injEq]
      constructor
      · rintro rfl
        exact ⟨rfl, say a, rfl, changed (some a)⟩
      · rintro ⟨-, meaning, ⟨⟩, same⟩
        exact eq_of_meaning? ((changed (some a)).trans same.symm)

theorem setOption_eq_ok_iff {name : OptionName} {value : Bytes} :
    flags.setOption name value = .ok next ↔
      flags.meaning? (.option name) = .none ∧ ∃ meaning, name.Reads value meaning ∧
        next.meaning? = Function.update flags.meaning? (.option name) (some meaning) := by
  simp only [← OptionName.read_eq_ok_iff]
  cases name <;> refine entered_iff rfl fun a => funext fun other => ?_ <;>
    rcases other with (_ | _ | _ | _ | _) | (_ | _) | _ | _ <;> rfl

theorem exists_entered {α : Type} {current : Option α} {value : Except UsageError α}
    {set : Option α → Flags} {say : α → Meaning} {meaning : Meaning}
    (free : current.map say = .none) (accepted : value.map say = .ok meaning) :
    ∃ next, (assignOnce current value >>= fun a => pure (set a)) = .ok next := by
  cases current with
  | some a => cases free
  | none =>
    cases value with
    | error error => cases accepted
    | ok a => exact ⟨set (some a), rfl⟩

/-- A switch that is turned on was off. -/
theorem turned_iff {current : Bool} {set : Bool → Flags} {name : FlagName}
    (now : flags.meaning? name = if current then some .given else .none)
    (changed : (set true).meaning? = Function.update flags.meaning? name (some .given)) :
    (switchOnce current >>= fun on => pure (set on)) = .ok next ↔
      flags.meaning? name = .none ∧ ∃ meaning, meaning = .given ∧
        next.meaning? = Function.update flags.meaning? name (some meaning) := by
  rw [now]
  cases current with
  | true => simp [switchOnce, bind, Except.bind]
  | false =>
    have turned : (switchOnce false >>= fun on => pure (set on)) =
        (.ok (set true) : Except UsageError Flags) := rfl
    rw [turned, Except.ok.injEq]
    constructor
    · rintro rfl
      exact ⟨rfl, .given, rfl, changed⟩
    · rintro ⟨-, _, rfl, same⟩
      exact eq_of_meaning? (changed.trans same.symm)

theorem setSwitch_eq_ok_iff (name : SwitchName) :
    flags.setSwitch name = .ok next ↔ flags.meaning? (.switch name) = .none ∧
      ∃ meaning, meaning = .given ∧
        next.meaning? = Function.update flags.meaning? (.switch name) (some meaning) := by
  cases name <;> refine turned_iff rfl (funext fun other => ?_) <;>
    rcases other with (_ | _ | _ | _ | _) | (_ | _) | _ | _ <;> rfl

theorem exists_setSwitch (name : SwitchName) (free : flags.meaning? (.switch name) = .none) :
    ∃ next, flags.setSwitch name = .ok next := by
  have off {current : Bool} (free : (if current then some Meaning.given else .none) = .none) :
      switchOnce current = .ok true := by
    cases current with
    | true => cases free
    | false => rfl
  cases name with
  | printConfig => exact ⟨{ flags with printConfig := true }, by rw [setSwitch, off free]; rfl⟩
  | verbose => exact ⟨{ flags with verbose := true }, by rw [setSwitch, off free]; rfl⟩

def take (flags : Flags) : Written → Except UsageError Flags
  | .option name value _ => flags.setOption name value
  | .switch name => flags.setSwitch name
  | .letterVerbose => flags.setSwitch .verbose

/-- A written flag is taken in if nothing has been said under its name and it has a meaning. -/
theorem take_eq_ok_iff {item : Written} :
    flags.take item = .ok next ↔ flags.meaning? item.flag = .none ∧ ∃ meaning, item.Means meaning ∧
      next.meaning? = Function.update flags.meaning? item.flag (some meaning) := by
  cases item with
  | option name value attached => exact setOption_eq_ok_iff
  | switch name => exact setSwitch_eq_ok_iff name
  | letterVerbose => exact setSwitch_eq_ok_iff .verbose

/-- Whatever has a meaning is taken in where nothing has been said. -/
theorem exists_take {item : Written} {meaning : Meaning} (free : flags.meaning? item.flag = .none)
    (means : item.Means meaning) : ∃ next, flags.take item = .ok next := by
  cases item with
  | option name value attached =>
    have accepted : name.read value = .ok meaning := OptionName.read_eq_ok_iff.mpr means
    cases name <;> exact exists_entered free accepted
  | switch name => exact exists_setSwitch name free
  | letterVerbose => exact exists_setSwitch .verbose free

def takeAll (flags : Flags) (items : List Written) : Except UsageError Flags :=
  items.foldlM take flags

theorem takeAll_cons_eq_ok_iff {item : Written} {rest : List Written} :
    flags.takeAll (item :: rest) = .ok next ↔
      ∃ middle, flags.take item = .ok middle ∧ middle.takeAll rest = .ok next := by
  rw [takeAll, List.foldlM_cons]
  cases flags.take item <;> simp [bind, Except.bind, takeAll]

/-- Written flags are taken in exactly if each has a name of its own and a meaning, and they are all
that is said. -/
theorem takeAll_eq_ok_iff {items : List Written} :
    flags.takeAll items = .ok next ↔
      (items.map Written.flag).Nodup ∧
      (∀ item ∈ items, flags.meaning? item.flag = .none ∧
        ∃ meaning, item.Means meaning ∧ next.meaning? item.flag = some meaning) ∧
      ∀ name ∉ items.map Written.flag, next.meaning? name = flags.meaning? name := by
  induction items generalizing flags with
  | nil =>
    have kept : flags.takeAll [] = .ok flags := rfl
    rw [kept, Except.ok.injEq]
    refine ⟨?_, fun ⟨_, _, same⟩ => (eq_of_meaning? (funext fun name => same name (by simp))).symm⟩
    rintro rfl
    exact ⟨List.nodup_nil, nofun, fun _ _ => rfl⟩
  | cons item rest ih =>
    rw [takeAll_cons_eq_ok_iff, List.map_cons, List.nodup_cons, List.forall_mem_cons]
    constructor
    · rintro ⟨middle, taken, others⟩
      obtain ⟨free, meaning, means, entered⟩ := take_eq_ok_iff.mp taken
      obtain ⟨distinct, meant, kept⟩ := ih.mp others
      have entered' : middle.meaning? item.flag = some meaning := by
        rw [entered, Function.update_self]
      -- What the first flag says stands in the way of every later one of its name.
      have first : item.flag ∉ rest.map Written.flag := by
        intro again
        obtain ⟨other, member, same⟩ := List.mem_map.mp again
        have clear := (meant other member).1
        rw [same, entered'] at clear
        cases clear
      have before {name : FlagName} (other : name ≠ item.flag) :
          middle.meaning? name = flags.meaning? name := by
        rw [entered, Function.update_of_ne other]
      refine ⟨⟨first, distinct⟩, ⟨⟨free, meaning, means, (kept _ first).trans entered'⟩, ?_⟩, ?_⟩
      · intro other member
        have different : other.flag ≠ item.flag := fun same =>
          first (same ▸ List.mem_map_of_mem member)
        obtain ⟨clear, said⟩ := meant other member
        exact ⟨(before different).symm.trans clear, said⟩
      · intro name absent
        rw [List.mem_cons, not_or] at absent
        exact (kept name absent.2).trans (before absent.1)
    · rintro ⟨⟨first, distinct⟩, ⟨⟨free, meaning, means, said⟩, meant⟩, kept⟩
      -- The first flag can be taken in, and then only its own name is no longer free.
      obtain ⟨middle, taken⟩ := exists_take free means
      obtain ⟨_, _, means', entered⟩ := take_eq_ok_iff.mp taken
      obtain rfl := means.unique means'
      refine ⟨middle, taken, ih.mpr ⟨distinct, fun other member => ?_, fun name absent => ?_⟩⟩
      · have different : other.flag ≠ item.flag := fun same =>
          first (same ▸ List.mem_map_of_mem member)
        obtain ⟨clear, said⟩ := meant other member
        exact ⟨by rw [entered, Function.update_of_ne different, clear], said⟩
      · rw [entered]
        by_cases same : name = item.flag
        · rw [same, Function.update_self, said]
        · rw [Function.update_of_ne same]
          exact kept name (by rw [List.mem_cons, not_or]; exact ⟨same, absent⟩)

end Flags

end EditorBridge.CommandLine
