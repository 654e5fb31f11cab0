import EditorBridge.Program.Clock
import EditorBridge.Proofs.Session.Account
import Mathlib.Data.List.Forall2
import Mathlib.Data.Nat.Digits.Defs

/-!
# Sessions compose

An input whose first part ends with a line is served like its two parts, the second from the world
that the first has left.  Nothing else is carried over: the rest of the session knows the number of
the line, which it uses to look at the clock and at the end to log how many lines there were.

Runs at different times cannot agree to the byte.  They are alike when they differ in the time of
day within the echoes and in nothing else; since every time of day takes the same number of bytes,
a stream that fails does so at the same place in both.
-/
namespace EditorBridge

open EditorBridge.Action EditorBridge.Session

variable {σ α β : Type}

/-- The number of bytes that a time of day takes. -/
def Session.stampSize : Nat := 15

/-- Whether a clock always gives times of that size. -/
def Session.Stamped (clock : Nat → String) : Prop :=
  ∀ n, (Utf8.encode (clock n)).length = stampSize

namespace Program

theorem toNat_lt_of_isDigit {c : Char} (digit : c.isDigit = true) : c.toNat < 128 := by
  simp only [Char.isDigit, Bool.and_eq_true, decide_eq_true_eq, UInt32.le_iff_toNat_le] at digit
  exact Nat.lt_of_le_of_lt digit.2 (by decide)

theorem isDigit_of_mem_padded {width n : Nat} :
    ∀ c ∈ (padded width n).toList, c.isDigit = true := by
  intro c member
  rw [padded, String.toList_append, String.toList_ofList] at member
  rcases List.mem_append.mp member with zero | digit
  · rw [List.eq_of_mem_replicate zero]
    decide
  · exact Nat.isDigit_of_mem_toDigits (b := 10) (by decide) (by decide) (by simpa using digit)

theorem length_padded {width n : Nat} (pos : 0 < width) (h : n < 10 ^ width) :
    (Utf8.encode (padded width n)).length = width := by
  have fits : (toString n).length ≤ width := Nat.repr_length n width pos h
  have isAscii : ∀ c ∈ (padded width n).toList, c.toNat < 128 := fun c member =>
    toNat_lt_of_isDigit (isDigit_of_mem_padded c member)
  rw [Utf8.length_encode_of_ascii isAscii, padded, String.length_append, String.length_ofList,
    List.length_replicate]
  omega

end Program

/-- Hours, minutes and seconds have two places each, and microseconds six. -/
theorem Session.stamped_timeOfDay (microseconds : Nat → Nat) :
    Stamped fun n => Program.timeOfDay (microseconds n) := by
  intro n
  have two : ∀ k, k < 100 → (Utf8.encode (Program.padded 2 k)).length = 2 := fun k small =>
    Program.length_padded (by decide) small
  have six : (Utf8.encode (Program.padded 6 (microseconds n % 1000000))).length = 6 :=
    Program.length_padded (by decide) (Nat.mod_lt _ (by decide))
  simp only [Program.timeOfDay, Utf8.encode_append, List.length_append, six]
  rw [two _ (by omega), two _ (by omega), two _ (by omega)]
  rfl

/-- An event at one time of day and at another: the same, unless it is the echo of a line, of which
a stream has taken some bytes. -/
inductive Event.Alike : Event → Event → Prop
  | same (event : Event) : Alike event event
  | echo (command : Command) (time time' : String) (taken : Nat) :
      Alike (.wrote .err ((Utf8.encode (Deed.echo command time)).take taken))
        (.wrote .err ((Utf8.encode (Deed.echo command time')).take taken))

/-- Traces that differ in times of day only. -/
def Trace.Alike : Trace → Trace → Prop := List.Forall₂ Event.Alike

namespace Trace.Alike

theorem refl (trace : Trace) : Trace.Alike trace trace := by
  induction trace with
  | nil => exact .nil
  | cons event rest ih => exact .cons (.same event) ih

theorem append {a a' b b' : Trace} (first : Trace.Alike a a') (second : Trace.Alike b b') :
    Trace.Alike (a ++ b) (a' ++ b') := by
  induction first with
  | nil => exact second
  | cons event _ ih => exact .cons event ih

/-- The time of day has no part in how often a line is waited for. -/
theorem readings_eq {trace trace' : Trace} (alike : Trace.Alike trace trace') :
    trace.readings = trace'.readings := by
  unfold readings
  induction alike with
  | nil => rfl
  | cons event _ ih =>
    have same : ∀ bytes : Bytes, (bytes.map (Sign.byte .err)).count .wait = 0 := fun bytes => by
      simp [List.count_eq_zero]
    rw [signs_cons, signs_cons, List.count_append, List.count_append, ih]
    cases event with
    | same _ => rfl
    | echo command time time' taken => simp only [Event.signs, same]

end Trace.Alike

/-- Outcomes that differ in times of day only. -/
structure Outcome.Alike (outcome outcome' : Outcome σ α) : Prop where
  trace : Trace.Alike outcome.trace outcome'.trace
  world_eq : outcome.world = outcome'.world
  result_eq : outcome.result = outcome'.result

namespace Outcome.Alike

theorem refl (outcome : Outcome σ α) : outcome.Alike outcome := ⟨.refl _, rfl, rfl⟩

theorem after {outcome outcome' : Outcome σ α} (alike : outcome.Alike outcome') {past past' : Trace}
    (before : Trace.Alike past past') : (outcome.after past).Alike (outcome'.after past') :=
  ⟨before.append alike.trace, alike.world_eq, alike.result_eq⟩

/-- Actions that start alike and go on alike are alike. -/
theorem bind {action action' : Action σ α} {next next' : α → Action σ β} {world : World σ}
    (first : (action.run world).Alike (action'.run world))
    (second : ∀ a world, ((next a).run world).Alike ((next' a).run world)) :
    ((action >>= next).run world).Alike ((action' >>= next').run world) := by
  cases h : (action.run world).result with
  | error error =>
    rw [run_bind_error h, run_bind_error (first.result_eq.symm.trans h)]
    exact ⟨first.trace, first.world_eq, rfl⟩
  | ok a =>
    rw [run_bind_ok h, run_bind_ok (first.result_eq.symm.trans h), ← first.world_eq]
    exact (second a _).after first.trace

end Outcome.Alike

/-- An echo takes the same place on a stream at any time of day. -/
theorem echo_alike (command : Command) {time time' : String}
    (size : (Utf8.encode time).length = (Utf8.encode time').length) (world : World σ) :
    ((writeLine .err (echoLine command time)).run world).Alike
      ((writeLine .err (echoLine command time')).run world) := by
  let bytes := Utf8.encode (Deed.echo command time)
  let bytes' := Utf8.encode (Deed.echo command time')
  let taken := world.err.taken bytes.length
  let accepted (echo : Bytes) : Trace := if taken = 0 then [] else [.wrote .err (echo.take taken)]
  have long : bytes'.length = bytes.length := by simp [bytes, bytes', Deed.echo, size]
  have alike : Trace.Alike (accepted bytes) (accepted bytes') := by
    unfold accepted
    split
    · exact .nil
    · exact .cons (.echo command time time' taken) .nil
  have written (echo : Bytes) (same : echo.length = bytes.length) :
      (write .err echo).run world =
        if taken < bytes.length then
          ⟨accepted echo ++ [.failed (.closed .err)],
            world.setSink .err (world.err.afterWrite taken), .error (.stream (.closed .err))⟩
        else ⟨accepted echo, world.setSink .err (world.err.afterWrite taken), .ok ()⟩ := by
    simp only [write, Action.run, World.sink, same]
    rfl
  have first : (writeLine .err (echoLine command time)).run world = _ := written bytes rfl
  have second : (writeLine .err (echoLine command time')).run world = _ := written bytes' long
  rw [first, second]
  split
  · exact ⟨alike.append (.refl _), rfl, rfl⟩
  · exact ⟨alike, rfl, rfl⟩

section

variable (client : Client σ) (clock clock' : Nat → String) {unreadable unreadable' : Option Nat}
  (handled handled' : Nat)

/-- A turn depends on the number of its line by the clock and by whether the line can be read. -/
theorem takeTurn_alike (readable : (unreadable == some handled) = (unreadable' == some handled'))
    (size : (Utf8.encode (clock handled)).length = (Utf8.encode (clock' handled')).length)
    (piece : Bytes) (world : World σ) :
    ((takeTurn client clock unreadable handled piece).run world).Alike
      ((takeTurn client clock' unreadable' handled' piece).run world) := by
  have waited : (await unreadable handled false : Action σ Unit) =
      await unreadable' handled' false := by
    simp only [await, readable]
  unfold takeTurn
  rw [waited]
  refine (Outcome.Alike.refl _).bind fun _ world => ?_
  exact (echo_alike _ size world).bind fun _ world => .refl _

/-- The record of the end of the input, if a session gets there. -/
def Session.closing (lines : Nat) : Except BridgeError Unit → Trace
  | .ok () => [.logged (inputClosed lines)]
  | .error _ => []

/-- Outcomes of sessions that differ in times of day, and in how many lines they say there were. -/
structure Outcome.AlikeUpTo (outcome outcome' : Outcome σ Unit) (lines lines' : Nat) : Prop where
  trace : ∃ events events', Trace.Alike events events' ∧
    outcome.trace = events ++ closing lines outcome.result ∧
    outcome'.trace = events' ++ closing lines' outcome.result
  world_eq : outcome.world = outcome'.world
  result_eq : outcome.result = outcome'.result

/-- Sessions that take the same turn and go on alike are alike. -/
theorem Outcome.Alike.bindUpTo {turn turn' rest rest' : Action σ Unit} {lines lines' : Nat}
    {world : World σ} (first : (turn.run world).Alike (turn'.run world))
    (second : ∀ world, ((rest.run world).AlikeUpTo (rest'.run world) lines lines')) :
    ((turn >>= fun _ => rest).run world).AlikeUpTo ((turn' >>= fun _ => rest').run world)
      lines lines' := by
  cases h : (turn.run world).result with
  | error error =>
    rw [run_bind_error h, run_bind_error (first.result_eq.symm.trans h)]
    exact ⟨⟨_, _, first.trace, (List.append_nil _).symm, (List.append_nil _).symm⟩,
      first.world_eq, rfl⟩
  | ok a =>
    rw [run_bind_ok h, run_bind_ok (first.result_eq.symm.trans h), ← first.world_eq]
    obtain ⟨⟨events, events', alike, shown, shown'⟩, world_eq, result_eq⟩ :=
      second (turn.run world).world
    refine ⟨⟨_, _, first.trace.append alike, ?_, ?_⟩, world_eq, result_eq⟩
    · simp only [Outcome.after, shown, List.append_assoc]
    · simp only [Outcome.after, shown', List.append_assoc]

/-- A session that starts at a later line, with the clock and the line that cannot be read moved by
as many lines. -/
theorem servePieces_later (before : Nat) (ahead : ∀ n ∈ unreadable, before ≤ n)
    (sized : Stamped clock) (sized' : Stamped clock') (endSeen : Bool) (pieces : List Bytes)
    (world : World σ) :
    ((servePieces client clock (unreadable.map (· - before)) handled endSeen pieces).run
      world).AlikeUpTo
        ((servePieces client clock' unreadable (before + handled) endSeen pieces).run world)
        (handled + pieces.length) (before + (handled + pieces.length)) := by
  have readable (n : Nat) :
      (unreadable.map (· - before) == some n) = (unreadable == some (before + n)) := by
    cases unreadable with
    | none => rfl
    | some line =>
      have : before ≤ line := ahead line rfl
      rw [Bool.eq_iff_iff]
      simp only [Option.map_some, beq_iff_eq, Option.some.injEq]
      omega
  induction pieces generalizing handled endSeen world with
  | nil =>
    have waited : (await (unreadable.map (· - before)) handled endSeen : Action σ Unit) =
        await unreadable (before + handled) endSeen := by
      simp only [await, readable]
    simp only [servePieces]
    rw [waited]
    exact Outcome.Alike.bindUpTo (.refl _) fun _ => ⟨⟨[], [], .nil, rfl, rfl⟩, rfl, rfl⟩
  | cons piece rest ih =>
    have turn := takeTurn_alike client clock clock' handled (before + handled) (readable handled)
      ((sized _).trans (sized' _).symm) piece
    have next := ih (handled + 1) (!Input.terminated piece)
    have count : handled + (rest.length + 1) = handled + 1 + rest.length := by omega
    rw [List.length_cons, count]
    exact (turn world).bindUpTo next

theorem await_unreadable (handled : Nat) (world : World σ) :
    (await (some handled) handled false).run world =
      ⟨[.reading false, .failed .unread], world, .error (.stream .unread)⟩ := by
  simp only [await, Bool.not_false, BEq.rfl, Bool.and_self, if_true]
  rfl

theorem await_readable (h : unreadable ≠ some handled) (world : World σ) :
    (await unreadable handled false).run world = ⟨[.reading false], world, .ok ()⟩ := by
  have readable : (unreadable == some handled) = false := by simpa using h
  simp only [await, readable, Bool.and_false, Bool.false_eq_true, if_false]
  rfl

theorem takeTurn_unreadable (handled : Nat) (piece : Bytes) (world : World σ) :
    (takeTurn client clock (some handled) handled piece).run world =
      ⟨[.reading false, .failed .unread], world, .error (.stream .unread)⟩ := by
  have failed := await_unreadable handled world
  unfold takeTurn
  rw [run_bind_error (by rw [failed]), failed]

/-- A line that cannot be read ends the session before it is known what would come. -/
theorem servePieces_unreadable (handled : Nat) (pieces : List Bytes) (world : World σ) :
    (servePieces client clock (some handled) handled false pieces).run world =
      ⟨[.reading false, .failed .unread], world, .error (.stream .unread)⟩ := by
  cases pieces with
  | nil =>
    have failed := await_unreadable handled world
    simp only [servePieces]
    rw [run_bind_error (by rw [failed]), failed]
  | cons piece rest =>
    have failed := takeTurn_unreadable client clock handled piece world
    rw [run_servePieces_error (by rw [failed]), failed]

/-- At its end an input says how many lines there were. -/
theorem servePieces_nil (readable : unreadable ≠ some handled) (world : World σ) :
    (servePieces client clock unreadable handled false []).run world =
      ⟨[.reading false, .logged (inputClosed handled)], world, .ok ()⟩ := by
  have waited := await_readable handled readable world
  simp only [servePieces]
  rw [run_bind_ok (a := ()) (by rw [waited]), waited]
  rfl

/-- Pieces with all their line feeds are served before what follows them.  If they end the session,
what follows makes no difference; if not, it is served from the world that they leave. -/
theorem servePieces_append (sized : Stamped clock) (sized' : Stamped clock') {pieces : List Bytes}
    (terminated : ∀ piece ∈ pieces, Input.terminated piece = true) (more : List Bytes)
    (world : World σ) :
    let first := (servePieces client clock unreadable handled false pieces).run world
    let both := (servePieces client clock' unreadable handled false (pieces ++ more)).run world
    (∀ error, first.result = .error error → first.Alike both) ∧
      (first.result = .ok () →
        (∀ n ∈ unreadable, handled ≤ n → handled + pieces.length < n) ∧
          ∃ early joined, Trace.Alike early joined ∧
            first.trace =
              early ++ .reading false :: closing (handled + pieces.length) (.ok ()) ∧
            both = ((servePieces client clock' unreadable (handled + pieces.length) false
              more).run first.world).after joined) := by
  induction pieces generalizing handled world with
  | nil =>
    intro first both
    by_cases readable : unreadable = some handled
    · subst readable
      have failed : first = _ := servePieces_unreadable client clock handled [] world
      have failed' : both = _ := servePieces_unreadable client clock' handled more world
      constructor
      · intro error _
        rw [failed, failed']
        exact .refl _
      · intro ok
        rw [failed] at ok
        cases ok
    · have first_eq : first = _ := servePieces_nil client clock handled readable world
      rw [first_eq]
      refine ⟨fun _ h => (by cases h), fun _ => ⟨fun n line passed => ?_, [], [], .nil, rfl, rfl⟩⟩
      have other : handled ≠ n := by
        rintro rfl
        exact readable line
      exact Nat.lt_of_le_of_ne passed other
  | cons piece rest ih =>
    intro first both
    have more_to_come : (!Input.terminated piece) = false := by simp [terminated piece]
    have turn : ((takeTurn client clock unreadable handled piece).run world).Alike
        ((takeTurn client clock' unreadable handled piece).run world) :=
      takeTurn_alike client clock clock' handled handled rfl ((sized _).trans (sized' _).symm) piece
        world
    let after := ((takeTurn client clock unreadable handled piece).run world).world
    cases h : ((takeTurn client clock unreadable handled piece).run world).result with
    | error error =>
      have first_eq : first = ⟨_, _, .error error⟩ := run_servePieces_error h false rest
      have both_eq : both = ⟨_, _, .error error⟩ :=
        run_servePieces_error (turn.result_eq.symm.trans h) false (rest ++ more)
      rw [first_eq, both_eq]
      exact ⟨fun _ _ => ⟨turn.trace, turn.world_eq, rfl⟩, fun ok => by cases ok⟩
    | ok _ =>
      have first_eq : first =
          ((servePieces client clock unreadable (handled + 1) false rest).run after).after
            ((takeTurn client clock unreadable handled piece).run world).trace := by
        rw [← more_to_come]
        exact run_servePieces_ok h false rest
      have both_eq : both =
          ((servePieces client clock' unreadable (handled + 1) false (rest ++ more)).run
            after).after ((takeTurn client clock' unreadable handled piece).run world).trace := by
        rw [← more_to_come]
        unfold after
        rw [turn.world_eq]
        exact run_servePieces_ok (turn.result_eq.symm.trans h) false (rest ++ more)
      have later := ih (handled + 1)
        (fun p member => terminated p (List.mem_cons_of_mem _ member)) after
      rw [first_eq, both_eq]
      constructor
      · exact fun error failed => (later.1 error failed).after turn.trace
      · intro ok
        obtain ⟨ahead, early, joined, alike, shown, continued⟩ := later.2 ok
        have count : handled + (piece :: rest).length = handled + 1 + rest.length := by
          rw [List.length_cons]
          omega
        rw [count]
        refine ⟨fun n line passed => ?_, _, _, turn.trace.append alike, ?_, ?_⟩
        · have other : n ≠ handled := by
            rintro rfl
            rw [Option.mem_def.mp line, takeTurn_unreadable] at h
            cases h
          exact ahead n line (by omega)
        · simp only [Outcome.after, shown, List.append_assoc]
        · simp only [Outcome.after, continued, List.append_assoc]

end

namespace Session

/-- A session on an input whose first part ends with a line is the session on that part, without
its end, and then the session on the rest, from the world that the first one leaves; the record at
the end counts the lines of both.  If the session on the first part fails, so does the session on
both, in the same way and without starting to read the rest.  Clocks apart, nothing else differs. -/
theorem serve_append (client : Client σ) (first second whole : Nat → String)
    (sized : Stamped first) (sized' : Stamped second) (sizedWhole : Stamped whole)
    (unreadable : Option Nat) (a b : Bytes) (cut : Text.Terminated Input.lineFeed a)
    (world : World σ) :
    let lines := (Input.pieces a).length
    let begun := (serve client first ⟨a, unreadable⟩).run world
    let ended := (serve client second ⟨b, unreadable.map (· - lines)⟩).run begun.world
    let both := (serve client whole ⟨a ++ b, unreadable⟩).run world
    (begun.result = .ok () →
      both.result = ended.result ∧ both.world = ended.world ∧
        ∃ early late joined,
          begun.trace = early ++ .reading false :: closing lines (.ok ()) ∧
            ended.trace = late ++ closing (Input.pieces b).length ended.result ∧
            both.trace = joined ++ closing (lines + (Input.pieces b).length) ended.result ∧
            Trace.Alike (early ++ late) joined) ∧
      ∀ error, begun.result = .error error →
        begun.Alike both ∧ both.trace.readings = begun.trace.readings := by
  intro lines begun ended both
  have terminated : ∀ piece ∈ Input.pieces a, Input.terminated piece = true :=
    fun piece member => decide_eq_true (Text.getLast?_of_mem_cutAfter cut piece member)
  have pieces : Input.pieces (a ++ b) = Input.pieces a ++ Input.pieces b :=
    Text.cutAfter_append cut b
  have both_eq : both = (servePieces client whole unreadable 0 false
      (Input.pieces a ++ Input.pieces b)).run world := by
    unfold both serve
    rw [pieces]
  obtain ⟨failed, continued⟩ :=
    servePieces_append client first whole 0 sized sizedWhole terminated (Input.pieces b) world
  rw [← both_eq] at failed continued
  refine ⟨fun ok => ?_, fun error h => ?_⟩
  · obtain ⟨ahead, early, joined, alike, shown, rest⟩ := continued ok
    rw [Nat.zero_add] at ahead shown rest
    have later := servePieces_later client second whole 0 lines
      (fun n line => Nat.le_of_lt (ahead n line (Nat.zero_le n))) sized' sizedWhole false
      (Input.pieces b) begun.world
    rw [Nat.zero_add] at later
    obtain ⟨⟨late, late', alike', ended_eq, rest_eq⟩, world_eq, result_eq⟩ := later
    rw [rest]
    refine ⟨result_eq.symm, world_eq.symm, early, late, joined ++ late', shown, ended_eq, ?_,
      alike.append alike'⟩
    rw [List.append_assoc]
    exact congrArg (joined ++ ·) rest_eq
  · have alike := failed error h
    exact ⟨alike, alike.trace.readings_eq.symm⟩

/-- Two lines, at three times of day, on a stderr that has no room for the second echo. -/
theorem serve_append_without_room :
    let replies : List (Except DaemonError Reply) := [.ok ⟨"ok\n", "", some 0⟩]
    let world : World _ := ⟨.healthy, ⟨some 40, none⟩, replies⟩
    let first := fun n => Program.timeOfDay (n + 7)
    let second := fun n => Program.timeOfDay (n + 60000000)
    let whole := fun n => Program.timeOfDay (1000000 * n)
    let begun := (serve Client.scripted first ⟨Utf8.encode "run\n", some 2⟩).run world
    let ended := (serve Client.scripted second ⟨Utf8.encode "x::inspect", some 1⟩).run begun.world
    let both := (serve Client.scripted whole ⟨Utf8.encode "run\nx::inspect", some 2⟩).run world
    Stamped first ∧ Stamped second ∧ Stamped whole ∧
      Text.Terminated Input.lineFeed (Utf8.encode "run\n") ∧ begun.result = .ok () ∧
      both.result = ended.result ∧ both.world = ended.world ∧
      ∃ early late joined,
        begun.trace = early ++ .reading false :: closing 1 (.ok ()) ∧
          ended.trace = late ++ closing 1 ended.result ∧
          both.trace = joined ++ closing (1 + 1) ended.result ∧
          Trace.Alike (early ++ late) joined := by
  have ended : Text.Terminated Input.lineFeed (Utf8.encode "run\n") := by decide +kernel
  refine ⟨stamped_timeOfDay _, stamped_timeOfDay _, stamped_timeOfDay _, ended, by rfl, ?_⟩
  exact (serve_append Client.scripted _ _ _ (stamped_timeOfDay (· + 7))
    (stamped_timeOfDay (· + 60000000)) (stamped_timeOfDay (1000000 * ·)) (some 2)
    (Utf8.encode "run\n") (Utf8.encode "x::inspect") ended
    ⟨.healthy, ⟨some 40, none⟩, [.ok ⟨"ok\n", "", some 0⟩]⟩).1 (by rfl)

end Session

end EditorBridge
