import EditorBridge.Proofs.CommandLine.Switches
import EditorBridge.Proofs.Program.Stages

/-!
# The log and the editor

The log goes to stderr only.  Whatever the filter of the environment admits, and whether or not the
command line wishes for a verbose log, what the editor reads on stdout, the exit status and the
files are the same (`log_unseen`).

Two runs are compared stage by stage: the flags differ in one switch, the configurations in one
setting, and the client program is the same.
-/
namespace EditorBridge

open EditorBridge.CommandLine

variable {ρ : Type}

namespace Config

/-- A configuration that says nothing about the log. -/
def unlogged (config : Config) : Config := { config with verbose := .byDefault false }

/-- The wish for a verbose log decides nothing else, nor whether there is a configuration. -/
theorem discover_wish (tree : FileTree) (directory : Location) (start : Path)
    (overrides : Overrides) (wish : Option Bool) :
    (discover tree directory start { overrides with verbose := wish }).map unlogged =
      (discover tree directory start overrides).map unlogged := by
  have chosen : chooseFile tree directory start { overrides with verbose := wish } =
      chooseFile tree directory start overrides := rfl
  unfold discover
  rw [chosen]
  cases chooseFile tree directory start overrides with
  | error error => rfl
  | ok file =>
    cases loaded : loadChosen tree directory file with
    | error error => simp only [bind, Except.bind, loaded, Except.map]
    | ok base =>
      -- The log has no part in what is judged.
      have judged : fault? tree directory
          (base.withOverrides { overrides with verbose := wish }) =
            fault? tree directory (base.withOverrides overrides) := rfl
      simp only [bind, Except.bind, loaded, judged]
      cases fault? tree directory (base.withOverrides overrides) with
      | some error => rfl
      | none => rfl

end Config

/-- Configurations that differ in what they say about the log have the same client program. -/
theorem Client.program_congr (launcher : Launcher ρ) {config config' : Config}
    (same : config.unlogged = config'.unlogged) :
    Client.program launcher config = Client.program launcher config' := by
  have kept (config : Config) :
      Client.program launcher config.unlogged = Client.program launcher config := rfl
  rw [← kept, same, kept]

namespace CommandLine

/-- Arguments, with a wish for a verbose log in front of them or without. -/
def withWish (wish : Bool) (arguments : List Bytes) : List Bytes :=
  if wish then Utf8.encode "-v" :: arguments else arguments

namespace Flags

/-- The wish is all that it changes. -/
theorem read_withWish {arguments : List Bytes} (absent : gives .verbose arguments = false)
    (wish : Bool) :
    read (withWish wish arguments) = (read arguments).map (put · .verbose wish) := by
  cases wish with
  | true => exact read_cons_verbose absent
  | false => exact read_put .verbose absent

/-- Nothing is listed unless that is asked for. -/
theorem printConfig_of_read {arguments : List Bytes} {flags : Flags}
    (absent : gives .printConfig arguments = false) (given : read arguments = .ok flags) :
    flags.printConfig = false := by
  have off := read_put .printConfig absent
  rw [given] at off
  exact congrArg printConfig (Except.ok.inj off)

end Flags

end CommandLine

namespace Program

variable (launcher : Launcher ρ) (site : Site ρ) (input : Bytes)

structure Result.SameButStderr (result result' : Result ρ) : Prop where
  stdout_eq : result.stdout = result'.stdout
  status_eq : result.status = result'.status
  site_eq : result.site = result'.site

theorem Result.SameButStderr.refl (result : Result ρ) : result.SameButStderr result :=
  ⟨rfl, rfl, rfl⟩

/-- Nothing but stderr depends on the log while the input is served. -/
theorem serve_sameButStderr (around around' : Surroundings) {config config' : Config}
    (same : config.unlogged = config'.unlogged) :
    (serve launcher around config site input).SameButStderr
      (serve launcher around' config' site input) := by
  obtain ⟨stdout_eq, status_eq, site_eq⟩ := serve_accounts launcher around config site input
  obtain ⟨stdout_eq', status_eq', site_eq'⟩ := serve_accounts launcher around' config' site input
  rw [← Client.program_congr launcher same] at stdout_eq' status_eq' site_eq'
  exact ⟨stdout_eq.trans stdout_eq'.symm, status_eq.trans status_eq'.symm,
    site_eq.trans site_eq'.symm⟩

/-- With flags that differ in the wish for a verbose log, either no configuration is found for the
same reason, or the configurations found differ in what they say about the log. -/
theorem run_sameButStderr_of_flags (around around' : Surroundings)
    {arguments arguments' : List Bytes} {flags : Flags} {wish wish' : Bool}
    (given : Flags.read arguments = .ok (flags.put .verbose wish))
    (given' : Flags.read arguments' = .ok (flags.put .verbose wish'))
    (unlisted : flags.printConfig = false) :
    (run launcher around site arguments input).SameButStderr
      (run launcher around' site arguments' input) := by
  let discovered (flags : Flags) : Except ConfigError Config :=
    Config.discover site.files site.directory (pathOf site.directory) flags.overrides
  have alike : (discovered (flags.put .verbose wish)).map Config.unlogged =
      (discovered (flags.put .verbose wish')).map Config.unlogged :=
    (Config.discover_wish _ _ _ flags.overrides (some wish)).trans
      (Config.discover_wish _ _ _ flags.overrides (some wish')).symm
  cases found : discovered (flags.put .verbose wish) with
  | error error =>
    cases found' : discovered (flags.put .verbose wish') with
    | error error' =>
      rw [found, found'] at alike
      obtain rfl : error = error' := Except.error.inj alike
      rw [run_of_begin_over launcher around input (begin_of_error given found),
        run_of_begin_over launcher around' input (begin_of_error given' found')]
      exact .refl _
    | ok config' =>
      rw [found, found'] at alike
      cases alike
  | ok config =>
    cases found' : discovered (flags.put .verbose wish') with
    | error error' =>
      rw [found, found'] at alike
      cases alike
    | ok config' =>
      rw [found, found'] at alike
      have begun := begin_of_config given found
      have begun' := begin_of_config given' found'
      have off (wish : Bool) : ¬ (flags.put .verbose wish).printConfig = true :=
        ne_true_of_eq_false unlisted
      rw [if_neg (off _)] at begun begun'
      rw [run, begun, run, begun']
      exact serve_sameButStderr launcher site input around around' (Except.ok.inj alike)

/-- The log cannot be told from stdout, from the exit status or from the files.  Two runs on
arguments that neither wish for a verbose log nor ask for the configuration are the same but for
stderr, whatever filters the environment has and whether or not a wish for a verbose log comes
first. -/
theorem log_unseen (launcher : Launcher ρ) (site : Site ρ) (arguments : List Bytes) (input : Bytes)
    (wishless : gives .verbose arguments = false)
    (unlisted : gives .printConfig arguments = false) (around around' : Surroundings)
    (wish wish' : Bool) :
    let result := run launcher around site (withWish wish arguments) input
    let result' := run launcher around' site (withWish wish' arguments) input
    result.stdout = result'.stdout ∧ result.status = result'.status ∧
      result.site = result'.site := by
  intro result result'
  have given := Flags.read_withWish wishless wish
  have given' := Flags.read_withWish wishless wish'
  have same : result.SameButStderr result' := by
    cases read : Flags.read arguments with
    | error refusal =>
      rw [read] at given given'
      have ended := run_of_begin_over launcher around input (begin_of_refusal given site)
      have ended' := run_of_begin_over launcher around' input (begin_of_refusal given' site)
      simp only [result, result', ended, ended']
      exact .refl _
    | ok flags =>
      rw [read] at given given'
      exact run_sameButStderr_of_flags launcher site input around around' given given'
        (Flags.printConfig_of_read unlisted read)
  exact ⟨same.stdout_eq, same.status_eq, same.site_eq⟩

/-- A check with findings, once without a log, and once with a wish for a verbose one and a filter
that admits warnings. -/
theorem log_unseen_after_check :
    let report := Utf8.encode "pkg/mod.py:1:5: error: Name not defined\n"
    let site : Site (List (Except Execution.Failure Execution.Output)) :=
      ⟨.empty, [], [.ok ⟨report, [], some 1⟩]⟩
    let arguments := [Utf8.encode "--timeout", Utf8.encode "30"]
    let input := Utf8.encode "run\n"
    let silent : Surroundings :=
      ⟨[], some "off", fun _ => "09:00:00.000000", "09:00:00.000000", "1"⟩
    let warning : Surroundings := { silent with logFilter := some "warn" }
    let result := run Launcher.scripted silent site (withWish false arguments) input
    let result' := run Launcher.scripted warning site (withWish true arguments) input
    gives .verbose arguments = false ∧ gives .printConfig arguments = false ∧
      (result.stdout = result'.stdout ∧ result.status = result'.status ∧
        result.site = result'.site) ∧
      result.stdout = report ++ Utf8.encode "# done!\n" ∧
      result.stderr.length < result'.stderr.length := by
  intro report site arguments input silent warning result result'
  have wishless : gives .verbose arguments = false := by decide +kernel
  have unlisted : gives .printConfig arguments = false := by decide +kernel
  have same := log_unseen Launcher.scripted site arguments input wishless unlisted silent warning
    false true
  exact ⟨wishless, unlisted, same, by decide +kernel, by decide +kernel⟩

end Program

end EditorBridge
