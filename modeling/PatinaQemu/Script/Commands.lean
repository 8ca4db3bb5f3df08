import PatinaQemu.Script.Images
import PatinaQemu.Script.Errors
import PatinaQemu.Runner.Launch

set_option autoImplicit false

/-!
# The QEMU command lines the repository launches

Three callers build a QEMU command line with `QemuCommandBuilder`: the Q35 runner, the SBSA
runner, and the script, whose `_configure_settings` builds one chain per platform. Each chain
calls every method at most once, in a fixed order and without `with_custom`, so the options of
a category on the command line are the ones its only call wrote (`owned_run_of_only`). What
each caller passes then decides, for every input, what the guest gets.

## Main results

* `launched_commands_wellFormed` — every command line the repository launches is well formed
* `network_none_outside_q35Runner` — only the Q35 runner ever gives the guest a network
* `launched_serial_console` — where each caller serves the serial console: on TCP by default
  for Q35, so that a debugger can attach, and on standard I/O by default for SBSA
-/

namespace PatinaQemu

open QemuCommandBuilder

section Settings

variable {host : ScriptHost} {args : ScriptArgs}

/-- The QEMU command of a settings record is the executable and the arguments of the builder
its platform's branch built. -/
theorem configureSettings_qemu_cmd_eq {settings : Settings}
    (built : configureSettings host args = .ok settings) :
    ∃ c exe, platformConfiguration host args = .ok c ∧ settings.qemu_cmd = exe :: c.builder.args := by
  obtain ⟨c, configured, built⟩ := bind_eq_ok.1 built
  rcases hexe : c.builder.executable with _ | _ | _ | exe | _ <;>
    simp only [QemuCommandBuilder.build, hexe, pure, Except.pure, reduceCtorEq] at built
  cases built
  exact ⟨c, exe, configured, rfl⟩

end Settings

/-- Every QEMU command the script runs is the one its settings hold. -/
theorem scriptMain_qemu_cmd {host : ScriptHost} {pipeline : PipelineHost} {args : ScriptArgs}
    {cmd : List String} (ran : ScriptEvent.runQemu cmd ∈ (scriptMain host pipeline args).1) :
    ∃ settings, configureSettings host (parseArguments args) = .ok settings ∧
      cmd = settings.qemu_cmd := by
  cases built : configureSettings host (parseArguments args) with
  | error e => simp [scriptMain_of_error host pipeline args built] at ran
  | ok settings =>
    rw [scriptMain_of_built host pipeline args built] at ran
    exact ⟨settings, rfl, (mem_stages_fst_eq pipeline settings).2.2 cmd ran⟩

/-! ## Every QEMU command line is well formed -/

/-- The QEMU command of every settings record is an executable followed by well-formed
arguments. -/
theorem configureSettings_qemu_wellFormed {host : ScriptHost} {args : ScriptArgs}
    {settings : Settings} (built : configureSettings host args = .ok settings) :
    ∃ exe qemu_args, settings.qemu_cmd = exe :: qemu_args ∧ WellFormedArgs qemu_args := by
  obtain ⟨c, exe, configured, cmd⟩ := configureSettings_qemu_cmd_eq built
  refine ⟨exe, _, cmd, ?_⟩
  rcases platformConfiguration_builder configured with ⟨-, built⟩ | ⟨-, built⟩ <;> rw [built] <;>
    exact (argsInv_run (argsInv_init _ _) _ (by exact noCustom_of_all rfl)).wellFormed

/-- Every QEMU argument list the repository launches is well formed (`WellFormedArgs`): the
list each runner joins with spaces for `RunCmd`, and the list the script hands to
`subprocess.run`. It reads as option-value pairs, each option one the builder writes, with no
option twice that QEMU takes once, one network and one display backend, complete SMBIOS
records and one block of serial ports. -/
theorem launched_commands_wellFormed :
    (∀ env host events ret, q35Runner env host = .ok (events, ret) →
      ∃ copied parts exe args,
        events = copied ++ (launchQemu host [0xC0000005, 33] parts exe args).1 ∧
        Event.runCmd exe.toStr (" ".intercalate args) ∈ events ∧ WellFormedArgs args) ∧
    (∀ env host events ret, sbsaRunner env host = .ok (events, ret) →
      ∃ thread parts exe args,
        events = thread ++ (launchQemu host [0xC0000005] parts exe args).1 ++
          thread.map (fun _ => .joinThread) ∧
        Event.runCmd exe.toStr (" ".intercalate args) ∈ events ∧ WellFormedArgs args) ∧
    ∀ host pipeline args cmd, ScriptEvent.runQemu cmd ∈ (scriptMain host pipeline args).1 →
      ∃ exe qemu_args, cmd = exe :: qemu_args ∧ WellFormedArgs qemu_args := by
  refine ⟨fun env host => (runners_launch_wellFormed env host).1,
    fun env host => (runners_launch_wellFormed env host).2, fun host pipeline args cmd ran => ?_⟩
  obtain ⟨settings, built, rfl⟩ := scriptMain_qemu_cmd ran
  exact configureSettings_qemu_wellFormed built

/-! ## The network -/

theorem owned_network_q35ScriptCalls (executable : PyObj) (host : ScriptHost) (args : ScriptArgs)
    (code_fd : PurePath) (var_store : String) (serial_port : Int) :
    owned .network (pairs (run (init executable .Q35)
      (q35ScriptCalls host args code_fd var_store serial_port)).args) = [("-net", "none")] := by
  have split : q35ScriptCalls host args code_fd var_store serial_port =
      (q35ScriptCalls host args code_fd var_store serial_port).take 9 ++
        .withNetwork (.obj (.bool false)) (.obj .none) (.bool false) ::
          (q35ScriptCalls host args code_fd var_store serial_port).drop 10 := rfl
  rw [split, owned_run_of_only (by rfl) (by rfl) (by rfl) withNetwork_off_args]
  rfl

theorem owned_network_sbsaScriptCalls (executable : PyObj) (host : ScriptHost) (args : ScriptArgs)
    (code_fd : PurePath) (var_store : String) :
    owned .network (pairs (run (init executable .SBSA)
      (sbsaScriptCalls host args code_fd var_store)).args) = [("-net", "none")] := by
  have split : sbsaScriptCalls host args code_fd var_store =
      (sbsaScriptCalls host args code_fd var_store).take 10 ++
        .withNetwork (.obj (.bool false)) (.obj .none) (.bool false) ::
          (sbsaScriptCalls host args code_fd var_store).drop 11 := rfl
  rw [split, owned_run_of_only (by rfl) (by rfl) (by rfl) withNetwork_off_args]
  rfl

/-- Only the Q35 runner ever gives the guest a network. Every argument list the SBSA runner
joins for `RunCmd`, and every command the script launches on either platform, holds
`-net none` as its only network option, whatever the settings and arguments. -/
theorem network_none_outside_q35Runner :
    (∀ env host events ret, sbsaRunner env host = .ok (events, ret) →
      ∃ thread parts exe args,
        events = thread ++ (launchQemu host [0xC0000005] parts exe args).1 ++
          thread.map (fun _ => .joinThread) ∧
        Event.runCmd exe.toStr (" ".intercalate args) ∈ events ∧
        owned .network (pairs args) = [("-net", "none")]) ∧
    ∀ host pipeline args cmd, ScriptEvent.runQemu cmd ∈ (scriptMain host pipeline args).1 →
      ∃ exe qemu_args, cmd = exe :: qemu_args ∧ owned .network (pairs qemu_args) = [("-net", "none")] := by
  refine ⟨fun env host events ret ran => ?_, fun host pipeline args cmd ran => ?_⟩
  · obtain ⟨_, parts, b, _, rfl, launched, -⟩ := sbsaRunner_of_ok ran
    have events_eq := (Prod.mk.inj launched).1
    exact ⟨_, parts, _, _, events_eq, by simp [events_eq, runCmd_mem_launchQemu],
      owned_network_sbsaChain env host _ _ _ _⟩
  · obtain ⟨settings, built, rfl⟩ := scriptMain_qemu_cmd ran
    obtain ⟨c, exe, configured, cmd⟩ := configureSettings_qemu_cmd_eq built
    refine ⟨exe, _, cmd, ?_⟩
    rcases platformConfiguration_builder configured with ⟨-, built⟩ | ⟨-, built⟩ <;> rw [built]
    · exact owned_network_q35ScriptCalls _ _ _ _ _ _
    · exact owned_network_sbsaScriptCalls _ _ _ _ _

/-! ## The serial console -/

/-- An `int | None` port serves the console when it is neither `None` nor 0. -/
theorem serialPort_intArg (port : Option Int) :
    (if (intArg port).truthy then some (intArg port).toStr else none) =
      (port.filter (· != 0)).map toString := by
  cases port with
  | none => rfl
  | some n => by_cases zero : n = 0 <;> simp [intArg, PyObj.truthy, PyObj.toStr, Option.filter, zero]

theorem owned_serial_q35ScriptCalls (executable : PyObj) (host : ScriptHost) (args : ScriptArgs)
    (code_fd : PurePath) (var_store : String) (serial_port : Int) :
    owned .serialPort (pairs (run (init executable .Q35)
      (q35ScriptCalls host args code_fd var_store serial_port)).args) =
      serialConsole (((some serial_port).filter (· != 0)).map toString) := by
  have split : q35ScriptCalls host args code_fd var_store serial_port =
      (q35ScriptCalls host args code_fd var_store serial_port).take 12 ++
        .withSerialPort (intArg (some serial_port)) [] "127.0.0.1" ::
          (q35ScriptCalls host args code_fd var_store serial_port).drop 13 := rfl
  rw [split, owned_run_of_only (by rfl) (by rfl) (by rfl) withSerialPort_args,
    owned_serialArgs, serialPort_intArg]

theorem owned_serial_sbsaScriptCalls (executable : PyObj) (host : ScriptHost) (args : ScriptArgs)
    (code_fd : PurePath) (var_store : String) :
    owned .serialPort (pairs (run (init executable .SBSA)
      (sbsaScriptCalls host args code_fd var_store)).args) =
      serialConsole ((args.serial_port.filter (· != 0)).map toString) := by
  have split : sbsaScriptCalls host args code_fd var_store =
      (sbsaScriptCalls host args code_fd var_store).take 13 ++
        .withSerialPort (intArg args.serial_port) [] "127.0.0.1" ::
          (sbsaScriptCalls host args code_fd var_store).drop 14 := rfl
  rw [split, owned_run_of_only (by rfl) (by rfl) (by rfl) withSerialPort_args,
    owned_serialArgs, serialPort_intArg]

/-- Where the serial console of every launched QEMU goes, as the argument list each runner
joins for `RunCmd` and the command the script runs say. Both Q35 callers serve it on TCP on
the local host, so that a debugger can attach: the runner on `SERIAL_PORT` or else port 50001,
the script on `--serial-port` or else 50001, where a port 0 falls back to standard I/O. The SBSA
callers have no default port: without one, the console is standard I/O. -/
theorem launched_serial_console :
    (∀ env host events ret, q35Runner env host = .ok (events, ret) →
      ∃ copied parts exe args,
        events = copied ++ (launchQemu host [0xC0000005, 33] parts exe args).1 ∧
        Event.runCmd exe.toStr (" ".intercalate args) ∈ events ∧
        owned .serialPort (pairs args) =
          serialConsole (some ((env.getStr "SERIAL_PORT" none).getD "50001"))) ∧
    (∀ env host events ret, sbsaRunner env host = .ok (events, ret) →
      ∃ thread parts exe args,
        events = thread ++ (launchQemu host [0xC0000005] parts exe args).1 ++
          thread.map (fun _ => .joinThread) ∧
        Event.runCmd exe.toStr (" ".intercalate args) ∈ events ∧
        owned .serialPort (pairs args) = serialConsole (env.getStr "SERIAL_PORT" none)) ∧
    ∀ host pipeline args cmd, ScriptEvent.runQemu cmd ∈ (scriptMain host pipeline args).1 →
      ∃ exe qemu_args, cmd = exe :: qemu_args ∧
        owned .serialPort (pairs qemu_args) = serialConsole
          (((if args.platform = "Q35" then some (args.serial_port.getD 50001) else args.serial_port).filter
            (· != 0)).map toString) := by
  refine ⟨fun env host events ret ran => ?_, fun env host events ret ran => ?_,
    fun host pipeline args cmd ran => ?_⟩
  · obtain ⟨_, copied, _, parts, b, -, -, rfl, launched, -⟩ := q35Runner_of_ok ran
    have events_eq := (Prod.mk.inj launched).1
    exact ⟨copied, parts, _, _, events_eq, by simp [events_eq, runCmd_mem_launchQemu],
      owned_serial_q35Chain env host _ _ _ _⟩
  · obtain ⟨_, parts, b, _, rfl, launched, -⟩ := sbsaRunner_of_ok ran
    have events_eq := (Prod.mk.inj launched).1
    exact ⟨_, parts, _, _, events_eq, by simp [events_eq, runCmd_mem_launchQemu],
      owned_serial_sbsaChain env host _ _ _ _⟩
  · obtain ⟨settings, built, rfl⟩ := scriptMain_qemu_cmd ran
    obtain ⟨c, exe, configured, cmd⟩ := configureSettings_qemu_cmd_eq built
    obtain ⟨-, platform, -, -, serial⟩ := parseArguments_fields args
    refine ⟨exe, _, cmd, ?_⟩
    rcases platformConfiguration_builder configured with ⟨q35, built⟩ | ⟨sbsa, built⟩ <;>
      rw [built, ← platform, ← serial]
    · rw [owned_serial_q35ScriptCalls, if_pos q35]
    · rw [owned_serial_sbsaScriptCalls, if_neg (by rw [sbsa]; decide)]

end PatinaQemu
