import EditorBridge.Host.Run
import EditorBridge.Proofs.Daemon.Forwarding

/-!
# What launching a program comes to

On the machine an invocation is refused, and then nothing has happened, or it becomes a pool of
tasks that is stepped until the first task and everybody who could write for it are done.  Fuel only
bounds these steps (`Pool.completes_iff`).  A program that has an output has come to it by them, in
time; a timeout tells the time that was allowed, and there is none without such a limit.  So a
session on this machine fails by a timeout only if its configuration sets one.
-/
namespace EditorBridge

open EditorBridge.Action EditorBridge.Session Execution

namespace Host

namespace Pool

/-- Whether no task is endless, and the time allowed is not over. -/
def isInTime (pool : Pool) : Bool :=
  !(pool.isOverdue || pool.machine.deadline.any (· ≤ pool.machine.clock))

/-- Steps in time, up to the first pool in which a task and its writers are done. -/
inductive Completes (id : Nat) : Pool → Pool → Prop where
  | here {pool : Pool} (inTime : pool.isInTime = true) (isOver : pool.isOver id = true) :
      Completes id pool pool
  | step {pool next final : Pool} (inTime : pool.isInTime = true) (going : pool.isOver id = false)
      (stepped : pool.step = some next) (rest : Completes id next final) : Completes id pool final

theorem Completes.isOver {id : Nat} {pool final : Pool} (completes : Completes id pool final) :
    final.isOver id = true := by
  induction completes with
  | here _ isOver => exact isOver
  | step _ _ _ _ ih => exact ih

/-- A task that is over has come to an end of its own. -/
theorem exists_ending_of_isOver {id : Nat} {pool : Pool} (isOver : pool.isOver id = true) :
    ∃ ending, pool.machine.endings.lookup id = some ending := by
  simp only [Pool.isOver, Bool.and_eq_true, List.any_eq_true, decide_eq_true_eq] at isOver
  obtain ⟨⟨⟨entry, member, rfl⟩, _⟩, _⟩ := isOver
  refine Option.ne_none_iff_exists'.mp fun absent => ?_
  exact absurd (List.lookup_eq_none_iff.mp absent entry member) (by simp)

theorem complete_succ (id fuel : Nat) (pool : Pool) :
    complete id (fuel + 1) pool =
      if pool.isInTime = false then (pool, none)
      else if pool.isOver id = true then (pool, pool.machine.endings.lookup id)
      else match pool.step with
        | some pool => complete id fuel pool
        | none => (pool, none) := by
  cases inTime : pool.isInTime with
  | false => simp_all [complete, isInTime]
  | true =>
    simp_all only [complete, isInTime, Bool.not_eq_eq_eq_not, Bool.not_true, Bool.false_eq_true,
      if_false]
    rfl

theorem completes_of_complete {id fuel : Nat} {pool final : Pool} {ending : Shell.Ending}
    (complete_eq : complete id fuel pool = (final, some ending)) :
    Completes id pool final ∧ final.machine.endings.lookup id = some ending := by
  induction fuel generalizing pool with
  | zero => cases complete_eq
  | succ fuel ih =>
    rw [complete_succ] at complete_eq
    split at complete_eq
    · cases complete_eq
    · rename_i inTime
      split at complete_eq
      · rename_i isOver
        obtain ⟨rfl, found⟩ := Prod.mk.inj complete_eq
        exact ⟨.here (by simpa using inTime) isOver, found⟩
      · rename_i going
        split at complete_eq
        · rename_i next stepped
          obtain ⟨rest, found⟩ := ih complete_eq
          exact ⟨.step (by simpa using inTime) (by simpa using going) stepped rest, found⟩
        · cases complete_eq

/-- With fuel enough, the steps that there are are taken. -/
theorem Completes.complete {id : Nat} {pool final : Pool} (completes : Completes id pool final) :
    ∃ least, ∀ fuel, least ≤ fuel →
      Pool.complete id fuel pool = (final, final.machine.endings.lookup id) := by
  induction completes with
  | here inTime isOver =>
    refine ⟨1, fun fuel enough => ?_⟩
    obtain ⟨fuel, rfl⟩ := Nat.exists_eq_add_of_le' enough
    simp [complete_succ, inTime, isOver]
  | step inTime going stepped _ ih =>
    obtain ⟨least, taken⟩ := ih
    refine ⟨least + 1, fun fuel enough => ?_⟩
    obtain ⟨fuel, rfl⟩ := Nat.exists_eq_add_of_le' enough
    rw [← Nat.add_assoc]
    simp [complete_succ, inTime, going, stepped, taken]

/-- Steps lead to the end of a task exactly if some fuel is enough to find its ending. -/
theorem completes_iff {id : Nat} {pool final : Pool} :
    Completes id pool final ↔ ∃ fuel ending, complete id fuel pool = (final, some ending) := by
  refine ⟨fun completes => ?_, fun ⟨_, _, found⟩ => (completes_of_complete found).1⟩
  obtain ⟨least, taken⟩ := completes.complete
  obtain ⟨ending, found⟩ := exists_ending_of_isOver completes.isOver
  exact ⟨least, ending, found ▸ taken least (Nat.le_refl least)⟩

end Pool

/-- The output of a program whose task has come to an end. -/
def collected (pool : Pool) (ending : Shell.Ending) : Output where
  stdout := Raw.toBytes (pool.machine.pipe 0).content
  stderr := Raw.toBytes (pool.machine.pipe 1).content
  exitCode := match ending with
    | .exited status => some status
    | .killed _ => none

section

variable (files : FileTree) (directory : Location) (limit : Option Nat)

/-- A loaded program has an output that its steps lead to, or takes longer than it may, or does not
end. -/
theorem outcome_cases (program : String) (loaded : Loaded) :
    (∃ pool ending,
      Pool.Completes firstTask (.start files directory limit loaded) pool ∧
        pool.machine.endings.lookup firstTask = some ending ∧
        outcome files directory limit program loaded =
          (pool.machine.files, .ok (collected pool ending))) ∨
    (∃ milliseconds, limit = some milliseconds ∧
      (outcome files directory limit program loaded).2 = .error (.timeout (milliseconds / 1000))) ∨
    (limit = none ∧ (outcome files directory limit program loaded).2 =
      .error (.wait program "the program does not end")) := by
  rcases stepped : (Pool.start files directory limit loaded).complete firstTask stepLimit with
    ⟨pool, _ | ending⟩
  · cases limit with
    | none => exact .inr (.inr ⟨rfl, by simp [outcome, stepped]⟩)
    | some milliseconds => exact .inr (.inl ⟨milliseconds, rfl, by simp [outcome, stepped]⟩)
  · obtain ⟨completes, found⟩ := Pool.completes_of_complete stepped
    refine .inl ⟨pool, ending, completes, found, ?_⟩
    cases ending <;> simp [outcome, stepped, collected]

/-- An invocation is refused and changes nothing, or a program has been loaded and has its
outcome. -/
theorem run_cases (invocation : Invocation) :
    (∃ error : SystemError, run files directory invocation limit =
      (files, .error (.spawn invocation.programText error.message))) ∨
    ∃ place loaded, workingDirectory files directory invocation.directory = .ok place ∧
      run files directory invocation limit =
        outcome files place limit invocation.programText loaded := by
  unfold run
  cases unfit? invocation with
  | some error => exact .inl ⟨error, rfl⟩
  | none =>
    cases workingDirectory files directory invocation.directory with
    | error error => exact .inl ⟨error, rfl⟩
    | ok place =>
      dsimp only
      cases Image.find files place (Image.searchPath.map Raw.ofBytes)
          (Raw.ofBytes invocation.program) (invocation.arguments.map Raw.ofBytes) with
      | error error => exact .inl ⟨error, rfl⟩
      | ok loaded => exact .inr ⟨place, loaded, rfl, rfl⟩

/-- A timeout tells the limit, in whole seconds. -/
theorem limit_of_timeout {invocation : Invocation} {seconds : Nat}
    (timedOut : (run files directory invocation limit).2 = .error (.timeout seconds)) :
    ∃ milliseconds, limit = some milliseconds ∧ seconds = milliseconds / 1000 := by
  obtain ⟨error, refused⟩ | ⟨place, loaded, _, ran⟩ :=
    run_cases files directory limit invocation
  · rw [refused] at timedOut
    cases timedOut
  · rw [ran] at timedOut
    obtain ⟨_, _, _, _, ended⟩ | ⟨milliseconds, limited, late⟩ | ⟨_, endless⟩ :=
      outcome_cases files place limit invocation.programText loaded
    · rw [ended] at timedOut
      cases timedOut
    · rw [late] at timedOut
      cases timedOut
      exact ⟨milliseconds, limited, rfl⟩
    · rw [endless] at timedOut
      cases timedOut

end

end Host

/-- A launcher for which a program takes too long only if there is a limit, which it tells. -/
def Launcher.Punctual {ρ : Type} (launcher : Launcher ρ) : Prop :=
  ∀ invocation timeout site seconds,
    (launcher.run invocation timeout site).2 = .error (.timeout seconds) → timeout = some seconds

theorem Host.launcher_punctual : Host.launcher.Punctual := by
  intro invocation timeout site seconds timedOut
  obtain ⟨milliseconds, limited, rfl⟩ := limit_of_timeout _ _ _ timedOut
  obtain ⟨allowed, rfl, rfl⟩ := Option.map_eq_some_iff.mp limited
  simp

namespace Launcher.Punctual

variable {ρ : Type} {launcher : Launcher ρ}

/-- A request times out with its own opcode, and with the number that is configured. -/
theorem timeout_of_invoke (punctual : launcher.Punctual) {config : Config} {request : Request}
    {site : Site ρ} {op : Opcode} {seconds : Nat}
    (timedOut : (ProgramClient.invoke launcher config request site).reply =
      .error (.timeout op seconds)) :
    op = request.opcode ∧ config.timeoutSecs.value = some seconds := by
  rw [ProgramClient.invoke_reply] at timedOut
  cases launched : (ProgramClient.launch launcher config request site).2 with
  | ok output =>
    rw [launched] at timedOut
    cases timedOut
  | error failure =>
    rw [launched] at timedOut
    cases failure with
    | timeout seconds' =>
      cases timedOut
      exact ⟨rfl, punctual _ _ _ _ launched⟩
    | _ => cases timedOut

end Launcher.Punctual

/-- Only the client can be late, since a reply fails by its status. -/
theorem Exchange.result_of_fatal_timeout {exchange : Exchange} {op : Opcode} {seconds : Nat}
    (fatal : exchange.fatal? = some (.timeout op seconds)) :
    exchange.opcode ≠ .inspect ∧ exchange.result = .error (.timeout op seconds) := by
  obtain ⟨command, kind, result⟩ := exchange
  have failed : kind ≠ .inspect ∧
      failure? ⟨command, kind, result⟩ = some (.timeout op seconds) := by
    cases kind <;> simp_all [fatal?]
  refine ⟨failed.1, ?_⟩
  cases result with
  | error error => exact congrArg Except.error (Option.some.inj failed.2)
  | ok reply =>
    have status := failed.2
    rw [Exchange.failure?_reply, Reply.error?] at status
    split at status
    · split at status <;> cases status
    · cases status

namespace Session

/-- A session that ends with a failure of the client has come to an exchange that failed so. -/
theorem exists_exchange_of_daemon {σ : Type} {client : Client σ} {clock : Nat → String}
    {input : Input} {world : World σ} {failure : DaemonFailure}
    (ended : ((serve client clock input).run world).result = .error (.daemon failure)) :
    failure.captured = "" ∧ ∃ before exchange after,
      client.conversation world.client input.bytes = before ++ .exchange exchange :: after ∧
        exchange.fatal? = some failure.error := by
  have tracks : ((serve client clock input).run world).Tracks
      ((serve client clock (.ofBytes input.bytes)).run (.healthy world.client)) :=
    servePieces_tracks client clock input.unreadable 0 false (Input.pieces input.bytes) world
  cases tracks with
  | broken _ _ _ _ _ _ _ _ result_eq =>
    rw [ended] at result_eq
    cases result_eq
  | whole _ _ _ result_eq _ =>
    rw [ended, (serve_accords client clock world.client input.bytes).result_eq] at result_eq
    cases found : (client.conversation world.client input.bytes).findSome? Deed.fatal? with
    | none =>
      rw [found] at result_eq
      cases result_eq
    | some error =>
      rw [found] at result_eq
      cases result_eq
      obtain ⟨deed, member, fatal⟩ := List.exists_of_findSome?_eq_some found
      obtain ⟨before, after, split⟩ := List.append_of_mem member
      cases deed with
      | exchange exchange => exact ⟨rfl, before, exchange, after, split, fatal⟩
      | _ => cases fatal

/-- A session ends for want of time only if a timeout is configured.  A check or a request for
suggestions has then taken longer, and the error says how long that is. -/
theorem timed_out_session {ρ : Type} {launcher : Launcher ρ} (punctual : launcher.Punctual)
    (config : Config) (clock : Nat → String) (input : Input) (world : World (Site ρ))
    {error : BridgeError}
    (ended : ((serve (Client.program launcher config) clock input).run world).result =
      .error error)
    (late : error.exitStatus = .timeout) :
    ∃ op seconds, config.timeoutSecs.value = some seconds ∧ op ≠ .inspect ∧
      error = .daemon ⟨.timeout op seconds, ""⟩ := by
  cases error with
  | stream _ => cases late
  | config _ => cases late
  | daemon failure =>
    obtain ⟨cause, captured⟩ := failure
    cases cause with
    | timeout op seconds =>
      obtain ⟨rfl, before, exchange, after, split, fatal⟩ := exists_exchange_of_daemon ended
      obtain ⟨other, timedOut⟩ := Exchange.result_of_fatal_timeout fatal
      have replied := Client.result_carryOut split
      rw [timedOut] at replied
      obtain ⟨rfl, limited⟩ := punctual.timeout_of_invoke replied.symm
      refine ⟨_, seconds, limited, ?_, rfl⟩
      rwa [Exchange.request, Request.opcode_about]
    | _ => cases late

/-- Whatever programs do on the machine, nothing takes too long where no timeout is configured. -/
theorem exitStatus_ne_timeout (config : Config) (unlimited : config.timeoutSecs.value = none)
    (clock : Nat → String) (input : Input) (world : World (Site Unit)) {error : BridgeError}
    (ended : ((serve (Client.program Host.launcher config) clock input).run world).result =
      .error error) : error.exitStatus ≠ .timeout := by
  intro late
  obtain ⟨_, _, limited, _⟩ :=
    timed_out_session Host.launcher_punctual config clock input world ended late
  rw [unlimited] at limited
  cases limited

end Session

end EditorBridge
