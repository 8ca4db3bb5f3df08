import PatinaQemu.Runner.QemuRunner
import PatinaQemu.Builder.Failure

set_option autoImplicit false

/-!
# What the runners launch

Where `QemuRunner.Runner` returns, nothing before the launch raised: the build output was
set, the variable store was copied where it had to be, the version was probed, and no call of
the builder chain raised. The command line QEMU runs is then the one the whole chain built,
and what the builder guarantees of every run (`ArgsInv`) holds of it.

## Main results

* `q35Runner_of_ok`, `sbsaRunner_of_ok` — a run that returns launches the builder the whole
  chain built, after the copy of the variable store or the start of the TPM emulator
* `runners_launch_wellFormed` — every command line either runner launches is well formed
* `q35Runner_var_store` — the Q35 runner never overwrites a variable store, and QEMU writes to
  the store the settings name
* `q35Runner_network` — the Q35 runner never forwards a port, and gives the guest a network
  only when a DFCI variable store is set
* `sbsaRunner_tpm_emulator` — the SBSA runner starts the TPM emulator exactly when QEMU's
  command line has TPM options, on the socket they name, around the launch
* `sbsaRunner_tpm_state_dir` — that emulator keeps its state in the socket's directory
* `q35Runner_tpm_without_emulator` — the Q35 runner gives QEMU the same TPM options, and never
  starts the emulator that has to serve them
* `owned_serial_q35Chain`, `owned_serial_sbsaChain` — where each runner serves the serial
  console (`serialConsole`)
-/

namespace PatinaQemu

open QemuCommandBuilder

theorem fspath_eq_ok {s : Option String} {p : String} : fspath s = .ok p ↔ s = some p := by
  cases s <;> simp [fspath]

section Inversion

variable {env : Env} {host : Host} {events : List Event} {ret : Int}

/-- A Q35 run that returns launched the builder of its whole chain, after the copy of the
variable store; its `with_network` call did not raise. -/
theorem q35Runner_of_ok (ran : q35Runner env host = .ok (events, ret)) :
    ∃ output_path copied store parts b,
      env.getStr "BUILD_OUTPUT_BASE" none = some output_path ∧
      dfciVarStore host (host.join (host.join output_path "FV") "QEMUQ35_VARS.fd")
        (env.getStr "DFCI_VAR_STORE" none) = .ok (copied, store) ∧
      b = run (init (.str (qemuExecutablePath host (env.getStr "QEMU_PATH" none)
          (env.getStr "QEMU_DIR" none) "qemu-system-x86_64")) .Q35)
        (q35Calls env host (host.join (host.join output_path "FV") "QEMUQ35_CODE.fd") store ++
          [q35Network env] ++ q35LateCalls env host (".".intercalate parts)) ∧
      (events, ret) = (copied ++ (launchQemu host [0xC0000005, 33] parts b.executable b.args).1,
        (launchQemu host [0xC0000005, 33] parts b.executable b.args).2) ∧
      ((q35Network env).apply (run (init (.str (qemuExecutablePath host (env.getStr "QEMU_PATH" none)
          (env.getStr "QEMU_DIR" none) "qemu-system-x86_64")) .Q35)
        (q35Calls env host (host.join (host.join output_path "FV") "QEMUQ35_CODE.fd") store))).2 =
        none := by
  obtain ⟨output_path, output, ran⟩ := bind_eq_ok.1 ran
  obtain ⟨⟨copied, store⟩, stored, ran⟩ := bind_eq_ok.1 ran
  obtain ⟨qemu_version, -, ran⟩ := bind_eq_ok.1 ran
  obtain ⟨b, chained, ran⟩ := bind_eq_ok.1 ran
  obtain ⟨parts, -, ran⟩ := bind_eq_ok.1 ran
  obtain ⟨b', chained', ran⟩ := bind_eq_ok.1 ran
  refine ⟨output_path, copied, store, parts, b', fspath_eq_ok.1 output, stored, ?_,
    (Except.ok.inj ran).symm, apply_snd_of_chain chained⟩
  rw [← run_eq_of_chain chained', ← run_eq_of_chain chained, run_append]
  rfl

/-- An SBSA run that returns launched the builder of its whole chain, between the start and
the join of the TPM emulator thread when `TPM_DEV` is set, and that join was not interrupted. -/
theorem sbsaRunner_of_ok (ran : sbsaRunner env host = .ok (events, ret)) :
    ∃ output_path parts b,
      env.getStr "BUILD_OUTPUT_BASE" none = some output_path ∧
      b = run (init (.str (qemuExecutablePath host (env.getStr "QEMU_PATH" none)
          (env.getStr "QEMU_DIR" none) "qemu-system-aarch64")) .SBSA)
        (sbsaCalls env host (host.join (host.join output_path "FV") "QEMU_EFI.fd")
          (host.join (host.join output_path "FV") "SECURE_FLASH0.fd") ++
          sbsaLateCalls env host (".".intercalate parts)) ∧
      (events, ret) = (((env.getStr "TPM_DEV" none).toList.map fun tpm_path =>
          Event.startThread "swtpm" (swtpmArgs tpm_path)) ++
          (launchQemu host [0xC0000005] parts b.executable b.args).1 ++
          ((env.getStr "TPM_DEV" none).toList.map fun tpm_path =>
            Event.startThread "swtpm" (swtpmArgs tpm_path)).map fun _ => Event.joinThread,
        (launchQemu host [0xC0000005] parts b.executable b.args).2) ∧
      (env.getStr "TPM_DEV" none = none ∨ host.joinInterrupted = false) := by
  obtain ⟨output_path, output, ran⟩ := bind_eq_ok.1 ran
  obtain ⟨qemu_version, -, ran⟩ := bind_eq_ok.1 ran
  obtain ⟨b, chained, ran⟩ := bind_eq_ok.1 ran
  obtain ⟨parts, -, ran⟩ := bind_eq_ok.1 ran
  obtain ⟨b', chained', ran⟩ := bind_eq_ok.1 ran
  split at ran
  · cases ran
  rename_i joined
  refine ⟨output_path, parts, b', fspath_eq_ok.1 output, ?_, (Except.ok.inj ran).symm, ?_⟩
  · rw [← run_eq_of_chain chained', ← run_eq_of_chain chained, run_append]
  · cases tpm : env.getStr "TPM_DEV" none <;> simp_all

end Inversion

/-! ## The command line QEMU runs -/

/-- The argument list either runner joins for `RunCmd` is well formed (`WellFormedArgs`): it
reads as option-value pairs, each option one the builder writes, with no option twice that
QEMU takes once, one network and one display backend, complete SMBIOS records and one block
of serial ports. -/
theorem runners_launch_wellFormed (env : Env) (host : Host) :
    (∀ events ret, q35Runner env host = .ok (events, ret) →
      ∃ copied parts exe args,
        events = copied ++ (launchQemu host [0xC0000005, 33] parts exe args).1 ∧
        Event.runCmd exe.toStr (" ".intercalate args) ∈ events ∧ WellFormedArgs args) ∧
    ∀ events ret, sbsaRunner env host = .ok (events, ret) →
      ∃ thread parts exe args,
        events = thread ++ (launchQemu host [0xC0000005] parts exe args).1 ++
          thread.map (fun _ => .joinThread) ∧
        Event.runCmd exe.toStr (" ".intercalate args) ∈ events ∧ WellFormedArgs args := by
  refine ⟨fun events ret ran => ?_, fun events ret ran => ?_⟩
  · obtain ⟨_, copied, _, parts, b, _, _, rfl, launched, -⟩ := q35Runner_of_ok ran
    have events_eq := (Prod.mk.inj launched).1
    exact ⟨copied, parts, _, _, events_eq, by simp [events_eq, runCmd_mem_launchQemu],
      (argsInv_run (argsInv_init _ _) _ (by exact noCustom_of_all rfl)).wellFormed⟩
  · obtain ⟨_, parts, b, _, rfl, launched, -⟩ := sbsaRunner_of_ok ran
    have events_eq := (Prod.mk.inj launched).1
    exact ⟨_, parts, _, _, events_eq, by simp [events_eq, runCmd_mem_launchQemu],
      (argsInv_run (argsInv_init _ _) _ (by exact noCustom_of_all rfl)).wellFormed⟩

/-! ## The variable store of the Q35 runner -/

theorem dfciVarStore_of_ok {host : Host} {orig : String} {dfci : Option String} {copied : List Event}
    {store : String} (stored : dfciVarStore host orig dfci = .ok (copied, store)) :
    store = dfci.getD orig ∧ ∀ e ∈ copied, ∃ dst, e = .copy orig dst ∧ dfci = some dst ∧
      host.fs.isfile dst = false := by
  unfold dfciVarStore at stored
  split at stored
  · split at stored
    · cases stored
      simp
    · split at stored
      · cases stored
      · cases stored
        simp_all
  · cases stored
    simp

/-- Settings that enable the network, with the DFCI variable store `store` if any. -/
def networkEnv (store : Option String) : Env :=
  ⟨fun key => if key = "BUILD_OUTPUT_BASE" then some "Build"
    else if key = "ENABLE_NETWORK" then some "true"
    else if key = "DFCI_VAR_STORE" then store else none, fun _ => none⟩

/-- A setting read as a string is never empty, when its default is not. -/
theorem given_getStr (env : Env) (key : String) {default : Option String}
    (nonEmpty : given default = default) : given (env.getStr key default) = env.getStr key default := by
  cases v : env.value key with
  | none => simpa [Env.getStr, readStr, v] using nonEmpty
  | some s =>
    by_cases empty : s = ""
    · simpa [Env.getStr, readStr, v, given_some, empty] using nonEmpty
    · simp [Env.getStr, readStr, v, given, empty]

/-- The Q35 runner's `with_network`, on an unconfigured network and when it does not raise:
a user network without forwarded ports behind an `e1000` card when `ENABLE_NETWORK` and
`DFCI_VAR_STORE` are both set, and `-net none` otherwise. -/
theorem q35Network_step {env : Env} {b : QemuCommandBuilder} (unset : b.added .network = false)
    (noRaise : ((q35Network env).apply b).2 = none) :
    (step b (q35Network env)).args = b.args ++
      if env.getBool "ENABLE_NETWORK" false = true ∧ (env.getStr "DFCI_VAR_STORE" none).isSome then
        ["-netdev", "user,id=net0", "-device", optValue ["e1000", "netdev=net0"]]
      else ["-net", "none"] := by
  by_cases enabled : env.getBool "ENABLE_NETWORK" false = true ∧
      (env.getStr "DFCI_VAR_STORE" none).isSome
  · have ports : (forwardPorts (env.getBool "ENABLE_NETWORK" false)
        (env.getStr "DFCI_VAR_STORE" none)).truthy = true := by
      simp [forwardPorts, given_getStr, enabled, PyArg.truthy]
    rw [if_pos enabled]
    cases sel : (env.getBool "BOOT_TO_FRONT_PAGE" false || env.getBool "ALT_BOOT_ENABLE" false)
    all_goals simp only [step, Call.apply, q35Network, withNetwork, unset, ports, sel, if_false,
      Bool.not_true, Bool.false_eq_true] at noRaise ⊢
    · simp [netdevConfig, PyArg.truthy, PyObj.truthy]
    · simp [netdevConfig, PyArg.truthy, PyObj.truthy, PyArg.iter] at noRaise
  · have ports : (forwardPorts (env.getBool "ENABLE_NETWORK" false)
        (env.getStr "DFCI_VAR_STORE" none)).truthy = false := by
      simp only [forwardPorts, given_getStr, given_none]
      rw [if_neg enabled]
      rfl
    rw [if_neg enabled]
    simp [step, Call.apply, q35Network, withNetwork, unset, ports]

/-- The network options of the Q35 chain, when its `with_network` call does not raise. -/
theorem owned_network_q35Chain (env : Env) (host : Host) (executable : PyObj)
    (code_fd store version : String)
    (noRaise : ((q35Network env).apply
      (run (init executable .Q35) (q35Calls env host code_fd store))).2 = none) :
    (env.getBool "ENABLE_NETWORK" false = true ∧ (env.getStr "DFCI_VAR_STORE" none).isSome ∧
        owned .network (pairs (run (init executable .Q35) (q35Calls env host code_fd store ++
          [q35Network env] ++ q35LateCalls env host version)).args) = [("-netdev", "user,id=net0")] ∧
        ["-device", optValue ["e1000", "netdev=net0"]] <:+: (run (init executable .Q35)
          (q35Calls env host code_fd store ++ [q35Network env] ++ q35LateCalls env host version)).args) ∨
      (¬ (env.getBool "ENABLE_NETWORK" false = true ∧ (env.getStr "DFCI_VAR_STORE" none).isSome) ∧
        owned .network (pairs (run (init executable .Q35) (q35Calls env host code_fd store ++
          [q35Network env] ++ q35LateCalls env host version)).args) = [("-net", "none")]) := by
  have unset : (run (init executable .Q35) (q35Calls env host code_fd store)).added .network =
      false := added_run_of_forall_ne (by exact notCategory_of_all rfl)
  have stepped := q35Network_step unset noRaise
  have kept := (args_prefix_run (step (run (init executable .Q35) (q35Calls env host code_fd store))
    (q35Network env)) (q35LateCalls env host version)).isInfix
  rw [← run_cons, ← run_append, stepped] at kept
  rw [List.append_assoc, List.singleton_append, owned_run_of_only (by rfl) (by rfl) (by rfl)
    fun _ => stepped]
  by_cases enabled : env.getBool "ENABLE_NETWORK" false = true ∧
      (env.getStr "DFCI_VAR_STORE" none).isSome
  · rw [if_pos enabled] at kept ⊢
    exact .inl ⟨enabled.1, enabled.2, rfl,
      List.IsInfix.trans ⟨["-netdev", "user,id=net0"], [], rfl⟩ ((List.suffix_append _ _).isInfix.trans kept)⟩
  · rw [if_neg enabled]
    exact .inr ⟨enabled, rfl⟩

/-- The Q35 runner never forwards a port. In every run that returns, the network options of the
argument list it joins for `RunCmd` are a user network `user,id=net0` without `hostfwd`,
behind an `e1000` card, when `ENABLE_NETWORK` and `DFCI_VAR_STORE` are both set, and
`-net none` otherwise: with `ENABLE_NETWORK` alone the guest has no network. -/
theorem q35Runner_network (env : Env) (host : Host) {events : List Event} {ret : Int}
    (ran : q35Runner env host = .ok (events, ret)) :
    ∃ copied parts exe args,
      events = copied ++ (launchQemu host [0xC0000005, 33] parts exe args).1 ∧
      Event.runCmd exe.toStr (" ".intercalate args) ∈ events ∧
      ((env.getBool "ENABLE_NETWORK" false = true ∧ (env.getStr "DFCI_VAR_STORE" none).isSome ∧
          owned .network (pairs args) = [("-netdev", "user,id=net0")] ∧
          ["-device", optValue ["e1000", "netdev=net0"]] <:+: args) ∨
        (¬ (env.getBool "ENABLE_NETWORK" false = true ∧ (env.getStr "DFCI_VAR_STORE" none).isSome) ∧
          owned .network (pairs args) = [("-net", "none")])) := by
  obtain ⟨output_path, copied, store, parts, b, -, -, rfl, launched, noRaise⟩ := q35Runner_of_ok ran
  have events_eq := (Prod.mk.inj launched).1
  exact ⟨copied, parts, _, _, events_eq, by simp [events_eq, runCmd_mem_launchQemu],
    owned_network_q35Chain env host _ _ _ _ noRaise⟩

/-- `ENABLE_NETWORK` without a DFCI variable store: the guest gets no network. -/
theorem q35Runner_network_without_store :
    ∃ events ret copied parts exe args,
      q35Runner (networkEnv none) (windowsHost "8.2.0" (some 7)) = .ok (events, ret) ∧
      events = copied ++ (launchQemu (windowsHost "8.2.0" (some 7)) [0xC0000005, 33] parts exe args).1 ∧
      Event.runCmd exe.toStr (" ".intercalate args) ∈ events ∧
      owned .network (pairs args) = [("-net", "none")] :=
  have ran : q35Runner (networkEnv none) (windowsHost "8.2.0" (some 7)) = .ok (_, _) := rfl
  match q35Runner_network (networkEnv none) (windowsHost "8.2.0" (some 7)) ran with
  | ⟨_, _, _, _, _, _, .inl ⟨_, stored, _⟩⟩ => absurd stored (by decide)
  | ⟨copied, parts, exe, args, events, launched, .inr ⟨_, unnetworked⟩⟩ =>
    ⟨_, _, copied, parts, exe, args, ran, events, launched, unnetworked⟩

/-- `with_network(False)` on an unconfigured network writes `-net none`. -/
theorem withNetwork_off_args {b : QemuCommandBuilder} (unset : b.added .network = false) :
    (step b (.withNetwork (.obj (.bool false)) (.obj .none) (.bool false))).args =
      b.args ++ ["-net", "none"] := by
  simp [step, Call.apply, withNetwork, unset, PyArg.truthy, PyObj.truthy]

/-- The SBSA chain disables the network, and nothing after changes that. -/
theorem owned_network_sbsaChain (env : Env) (host : Host) (executable : PyObj)
    (code_fd var_store version : String) :
    owned .network (pairs (run (init executable .SBSA)
      (sbsaCalls env host code_fd var_store ++ sbsaLateCalls env host version)).args) =
      [("-net", "none")] := by
  have split : sbsaCalls env host code_fd var_store ++ sbsaLateCalls env host version =
      (sbsaCalls env host code_fd var_store).take 11 ++
        .withNetwork (.obj (.bool false)) (.obj .none) (.bool false) :: sbsaLateCalls env host version :=
    rfl
  rw [split, owned_run_of_only (by rfl) (by rfl) (by rfl) withNetwork_off_args]
  rfl

/-! ## The TPM emulator -/

/-- `with_tpm(tpm_dev)` on an unconfigured TPM writes the options of the device, if any. -/
theorem withTpm_args {tpm_dev : Option String} {b : QemuCommandBuilder} (unset : b.added .tpm = false) :
    (step b (.withTpm tpm_dev)).args = b.args ++ (tpm_dev.map (tpmArgs b.architecture)).getD [] :=
  once_args_of_not_added b unset _

/-- The TPM options of the SBSA chain: the socket and the emulator backend for a set
`TPM_DEV`, none otherwise. -/
theorem owned_tpm_sbsaChain (env : Env) (host : Host) (executable : PyObj)
    (code_fd var_store version : String) :
    owned .tpm (pairs (run (init executable .SBSA)
      (sbsaCalls env host code_fd var_store ++ sbsaLateCalls env host version)).args) =
      match env.getStr "TPM_DEV" none with
      | some tpm_path => [("-chardev", optValue ["socket", "id=chrtpm", "path=" ++ tpm_path]),
          ("-tpmdev", optValue ["emulator", "id=tpm0", "chardev=chrtpm"])]
      | none => [] := by
  have split : sbsaCalls env host code_fd var_store ++ sbsaLateCalls env host version =
      (sbsaCalls env host code_fd var_store ++ (sbsaLateCalls env host version).take 1) ++
        .withTpm (env.getStr "TPM_DEV" none) :: (sbsaLateCalls env host version).drop 2 := rfl
  rw [split, owned_run_of_only (by rfl) (by rfl) (by rfl) withTpm_args,
    architecture_run]
  cases env.getStr "TPM_DEV" none <;> rfl

/-- The SBSA runner starts the TPM emulator exactly when the argument list it joins for
`RunCmd` holds TPM options. With `TPM_DEV` set, it starts `swtpm` on a thread before the
launch, serving the socket that the list's `-chardev` connects to, and joins the thread after
QEMU returns; with `TPM_DEV` unset or empty, it starts no thread and the list has no
`-chardev` and no `-tpmdev`. -/
theorem sbsaRunner_tpm_emulator (env : Env) (host : Host) {events : List Event} {ret : Int}
    (ran : sbsaRunner env host = .ok (events, ret)) :
    ∃ thread parts exe args,
      events = thread ++ (launchQemu host [0xC0000005] parts exe args).1 ++
        thread.map (fun _ => .joinThread) ∧
      Event.runCmd exe.toStr (" ".intercalate args) ∈ events ∧
      ((env.getStr "TPM_DEV" none = none ∧ thread = [] ∧ owned .tpm (pairs args) = []) ∨
        ∃ tpm_path, env.getStr "TPM_DEV" none = some tpm_path ∧
          thread = [.startThread "swtpm" (swtpmArgs tpm_path)] ∧
          owned .tpm (pairs args) = [("-chardev", optValue ["socket", "id=chrtpm", "path=" ++ tpm_path]),
            ("-tpmdev", optValue ["emulator", "id=tpm0", "chardev=chrtpm"])]) := by
  obtain ⟨output_path, parts, b, _, rfl, launched, -⟩ := sbsaRunner_of_ok ran
  have events_eq := (Prod.mk.inj launched).1
  refine ⟨_, parts, _, _, events_eq, by simp [events_eq, runCmd_mem_launchQemu], ?_⟩
  rw [owned_tpm_sbsaChain]
  cases env.getStr "TPM_DEV" none with
  | none => exact .inl ⟨rfl, rfl, rfl⟩
  | some tpm_path => exact .inr ⟨tpm_path, rfl, rfl, rfl⟩

/-- A TPM socket in the settings: the emulator is started on it before QEMU and joined after. -/
theorem sbsaRunner_tpm_emulator_socket :
    ∃ events ret, sbsaRunner ⟨fun key => if key = "BUILD_OUTPUT_BASE" then some "Build"
        else if key = "TPM_DEV" then some "/tmp/tpm/swtpm-sock" else none, fun _ => none⟩
      (windowsHost "8.2.0" (some 7)) = .ok (events, ret) ∧
    ∃ thread parts exe args,
      events = thread ++ (launchQemu (windowsHost "8.2.0" (some 7)) [0xC0000005] parts exe args).1 ++
        thread.map (fun _ => .joinThread) ∧
      Event.runCmd exe.toStr (" ".intercalate args) ∈ events ∧
      ((some "/tmp/tpm/swtpm-sock" = none ∧ thread = [] ∧ owned .tpm (pairs args) = []) ∨
        ∃ tpm_path, some "/tmp/tpm/swtpm-sock" = some tpm_path ∧
          thread = [.startThread "swtpm" (swtpmArgs tpm_path)] ∧
          owned .tpm (pairs args) = [("-chardev", optValue ["socket", "id=chrtpm", "path=" ++ tpm_path]),
            ("-tpmdev", optValue ["emulator", "id=tpm0", "chardev=chrtpm"])]) :=
  have ran : sbsaRunner ⟨fun key => if key = "BUILD_OUTPUT_BASE" then some "Build"
      else if key = "TPM_DEV" then some "/tmp/tpm/swtpm-sock" else none, fun _ => none⟩
      (windowsHost "8.2.0" (some 7)) = .ok (_, _) := rfl
  ⟨_, _, ran, sbsaRunner_tpm_emulator _ _ ran⟩

/-- `'/'.join(tpm_path.rsplit('/', 1)[:-1])` is the directory part of the path: the path is it,
a `/` and a name without `/`, or holds no `/` and the directory is empty. -/
theorem tpmStateDir_spec (tpm_path : String) :
    (∃ name, '/' ∉ name.toList ∧ tpm_path = tpmStateDir tpm_path ++ "/" ++ name) ∨
      ('/' ∉ tpm_path.toList ∧ tpmStateDir tpm_path = "") := by
  have split := List.takeWhile_append_dropWhile (fun c => decide (c ≠ '/')) tpm_path.toList.reverse
  rw [tpmStateDir]
  cases rest : tpm_path.toList.reverse.dropWhile fun c => decide (c ≠ '/') with
  | nil =>
    refine .inr ⟨fun mem => ?_, rfl⟩
    simpa using List.dropWhile_eq_nil_iff.1 rest '/' (List.mem_reverse.2 mem)
  | cons c dir =>
    have slash := List.head_dropWhile_not (fun c => decide (c ≠ '/')) tpm_path.toList.reverse
      (by rw [rest]; exact List.cons_ne_nil _ _)
    simp only [rest, List.head_cons, decide_eq_false_iff_not, not_not] at slash
    rw [rest, slash] at split
    refine .inl ⟨⟨(tpm_path.toList.reverse.takeWhile fun c => decide (c ≠ '/')).reverse⟩,
      fun mem => by simpa using List.mem_takeWhile_imp (List.mem_reverse.1 mem), String.ext ?_⟩
    have reversed := congrArg List.reverse split
    rw [List.reverse_reverse, List.reverse_append, List.reverse_cons] at reversed
    exact reversed.symm

/-- The TPM emulator the SBSA runner starts keeps its state in the directory of the socket QEMU
connects to: `TPM_DEV` is that directory, a `/` and the socket's name. A socket path without a
`/` gives the emulator an empty state directory. -/
theorem sbsaRunner_tpm_state_dir (env : Env) (host : Host) {events : List Event} {ret : Int}
    (ran : sbsaRunner env host = .ok (events, ret)) {tpm_path : String}
    (tpm : env.getStr "TPM_DEV" none = some tpm_path) :
    ∃ dir, Event.startThread "swtpm" ("socket --tpmstate dir=" ++ dir ++ " --ctrl type=unixio,path=" ++
        tpm_path ++ " --tpm2 --log level=20") ∈ events ∧
      ((∃ name, '/' ∉ name.toList ∧ tpm_path = dir ++ "/" ++ name) ∨
        ('/' ∉ tpm_path.toList ∧ dir = "")) := by
  obtain ⟨_, parts, b, _, -, launched, -⟩ := sbsaRunner_of_ok ran
  refine ⟨tpmStateDir tpm_path, ?_, tpmStateDir_spec tpm_path⟩
  rw [(Prod.mk.inj launched).1, tpm]
  exact List.mem_append_left _ (List.mem_append_left _ (List.mem_singleton_self _))

/-- A socket under `/tmp/tpm`: the emulator keeps its state in `/tmp/tpm`. -/
theorem sbsaRunner_tpm_state_dir_tmp :
    ∃ events ret, sbsaRunner ⟨fun key => if key = "BUILD_OUTPUT_BASE" then some "Build"
        else if key = "TPM_DEV" then some "/tmp/tpm/swtpm-sock" else none, fun _ => none⟩
      (windowsHost "8.2.0" (some 7)) = .ok (events, ret) ∧
    ∃ dir, Event.startThread "swtpm" ("socket --tpmstate dir=" ++ dir ++
        " --ctrl type=unixio,path=" ++ "/tmp/tpm/swtpm-sock" ++ " --tpm2 --log level=20") ∈ events ∧
      ((∃ name, '/' ∉ name.toList ∧ "/tmp/tpm/swtpm-sock" = dir ++ "/" ++ name) ∨
        ('/' ∉ "/tmp/tpm/swtpm-sock".toList ∧ dir = "")) :=
  have ran : sbsaRunner ⟨fun key => if key = "BUILD_OUTPUT_BASE" then some "Build"
      else if key = "TPM_DEV" then some "/tmp/tpm/swtpm-sock" else none, fun _ => none⟩
      (windowsHost "8.2.0" (some 7)) = .ok (_, _) := rfl
  ⟨_, _, ran, sbsaRunner_tpm_state_dir _ _ ran rfl⟩

/-- The TPM options of the Q35 chain: the socket and the emulator backend for a set
`TPM_DEV`, none otherwise. -/
theorem owned_tpm_q35Chain (env : Env) (host : Host) (executable : PyObj)
    (code_fd store version : String) :
    owned .tpm (pairs (run (init executable .Q35) (q35Calls env host code_fd store ++
      [q35Network env] ++ q35LateCalls env host version)).args) =
      match env.getStr "TPM_DEV" none with
      | some tpm_path => [("-chardev", optValue ["socket", "id=chrtpm", "path=" ++ tpm_path]),
          ("-tpmdev", optValue ["emulator", "id=tpm0", "chardev=chrtpm"])]
      | none => [] := by
  have split : q35Calls env host code_fd store ++ [q35Network env] ++ q35LateCalls env host version =
      (q35Calls env host code_fd store ++ [q35Network env] ++ (q35LateCalls env host version).take 1) ++
        .withTpm (env.getStr "TPM_DEV" none) :: (q35LateCalls env host version).drop 2 := rfl
  rw [split, owned_run_of_only (by rfl) (by rfl) (by rfl) withTpm_args,
    architecture_run]
  cases env.getStr "TPM_DEV" none <;> rfl

theorem startThread_not_mem_launchQemu (host : Host) (accepted : List Int)
    (qemu_version : List String) (executable : PyObj) (args : List String) (cmd a : String) :
    Event.startThread cmd a ∉ (launchQemu host accepted qemu_version executable args).1 := by
  simp only [launchQemu]
  split <;> [split; skip] <;> simp

/-- The Q35 runner never starts the TPM emulator. With `TPM_DEV` set, the argument list it
joins for `RunCmd` connects a TPM to the socket it names, and no event of the run starts the
emulator that has to serve it. -/
theorem q35Runner_tpm_without_emulator (env : Env) (host : Host) {events : List Event} {ret : Int}
    (ran : q35Runner env host = .ok (events, ret)) :
    ∃ copied parts exe args,
      events = copied ++ (launchQemu host [0xC0000005, 33] parts exe args).1 ∧
      Event.runCmd exe.toStr (" ".intercalate args) ∈ events ∧
      (∀ cmd a, Event.startThread cmd a ∉ events) ∧
      owned .tpm (pairs args) = match env.getStr "TPM_DEV" none with
        | some tpm_path => [("-chardev", optValue ["socket", "id=chrtpm", "path=" ++ tpm_path]),
            ("-tpmdev", optValue ["emulator", "id=tpm0", "chardev=chrtpm"])]
        | none => [] := by
  obtain ⟨output_path, copied, store, parts, b, -, stored, rfl, launched, -⟩ := q35Runner_of_ok ran
  have events_eq := (Prod.mk.inj launched).1
  refine ⟨copied, parts, _, _, events_eq, by simp [events_eq, runCmd_mem_launchQemu],
    fun cmd a started => ?_, owned_tpm_q35Chain env host _ _ _ _⟩
  rw [events_eq, List.mem_append] at started
  rcases started with copy | launch
  · obtain ⟨dst, same, -⟩ := (dfciVarStore_of_ok stored).2 _ copy
    cases same
  · exact startThread_not_mem_launchQemu host _ _ _ _ cmd a launch

/-- A TPM socket in the Q35 settings: QEMU connects to it, and the runner starts nothing. -/
theorem q35Runner_tpm_socket_unserved :
    ∃ events ret, q35Runner ⟨fun key => if key = "BUILD_OUTPUT_BASE" then some "Build"
        else if key = "TPM_DEV" then some "/tmp/tpm/swtpm-sock" else none, fun _ => none⟩
      (windowsHost "8.2.0" (some 7)) = .ok (events, ret) ∧
    ∃ copied parts exe args,
      events = copied ++ (launchQemu (windowsHost "8.2.0" (some 7)) [0xC0000005, 33] parts exe args).1 ∧
      Event.runCmd exe.toStr (" ".intercalate args) ∈ events ∧
      (∀ cmd a, Event.startThread cmd a ∉ events) ∧
      owned .tpm (pairs args) = match some "/tmp/tpm/swtpm-sock" with
        | some tpm_path => [("-chardev", optValue ["socket", "id=chrtpm", "path=" ++ tpm_path]),
            ("-tpmdev", optValue ["emulator", "id=tpm0", "chardev=chrtpm"])]
        | none => [] :=
  have ran : q35Runner ⟨fun key => if key = "BUILD_OUTPUT_BASE" then some "Build"
      else if key = "TPM_DEV" then some "/tmp/tpm/swtpm-sock" else none, fun _ => none⟩
      (windowsHost "8.2.0" (some 7)) = .ok (_, _) := rfl
  ⟨_, _, ran, q35Runner_tpm_without_emulator _ _ ran⟩

/-! ## The serial console -/

/-- Where QEMU's serial console goes, as the `-serial` options that hold it: a TCP server on
the local host for a port, standard I/O without one. -/
def serialConsole : Option String → List (String × String)
  | some port => [("-serial", "tcp:127.0.0.1:" ++ port ++ ",server,nowait")]
  | none => [("-serial", "stdio")]

/-- `with_serial_port(port)` without log files serves the console on `port` when it is
truthy. -/
theorem owned_serialArgs (port : PyObj) :
    owned .serialPort (pairs (serialArgs port [] "127.0.0.1")) =
      serialConsole (if port.truthy then some port.toStr else none) := by
  by_cases truthy : port.truthy <;> simp [serialArgs, serialConsole, truthy] <;> rfl

theorem serialPort_of_given {s : Option String} (nonEmpty : given s = s) :
    (if (pyOpt s).truthy then some (pyOpt s).toStr else none) = s := by
  cases s with
  | none => rfl
  | some v =>
    by_cases empty : v = ""
    · simp [given, empty] at nonEmpty
    · simp [pyOpt, empty]

theorem getStr_some_default (env : Env) (key d : String) :
    env.getStr key (some d) = some ((env.getStr key none).getD d) := by
  unfold Env.getStr readStr
  cases given (env.value key) <;> rfl

/-- `with_serial_port` on an unconfigured serial port writes its options. -/
theorem withSerialPort_args {port : PyObj} {log_files : List PyObj} {ip : String}
    {b : QemuCommandBuilder} (unset : b.added .serialPort = false) :
    (step b (.withSerialPort port log_files ip)).args = b.args ++ serialArgs port log_files ip :=
  once_args_of_not_added b unset _

/-- The Q35 chain serves the console on TCP, on `SERIAL_PORT` or else port 50001. -/
theorem owned_serial_q35Chain (env : Env) (host : Host) (executable : PyObj)
    (code_fd store version : String) :
    owned .serialPort (pairs (run (init executable .Q35) (q35Calls env host code_fd store ++
      [q35Network env] ++ q35LateCalls env host version)).args) =
      serialConsole (some ((env.getStr "SERIAL_PORT" none).getD "50001")) := by
  have split : q35Calls env host code_fd store ++ [q35Network env] ++ q35LateCalls env host version =
      (q35Calls env host code_fd store ++ [q35Network env] ++ (q35LateCalls env host version).take 3) ++
        .withSerialPort (pyOpt (env.getStr "SERIAL_PORT" (some "50001"))) [] "127.0.0.1" ::
          (q35LateCalls env host version).drop 4 := rfl
  rw [split, owned_run_of_only (by rfl) (by rfl) (by rfl) withSerialPort_args,
    owned_serialArgs, serialPort_of_given (given_getStr env "SERIAL_PORT" rfl),
    getStr_some_default]

/-- The SBSA chain serves the console on TCP when `SERIAL_PORT` is set, on standard I/O
otherwise. -/
theorem owned_serial_sbsaChain (env : Env) (host : Host) (executable : PyObj)
    (code_fd var_store version : String) :
    owned .serialPort (pairs (run (init executable .SBSA)
      (sbsaCalls env host code_fd var_store ++ sbsaLateCalls env host version)).args) =
      serialConsole (env.getStr "SERIAL_PORT" none) := by
  have split : sbsaCalls env host code_fd var_store ++ sbsaLateCalls env host version =
      (sbsaCalls env host code_fd var_store ++ (sbsaLateCalls env host version).take 3) ++
        .withSerialPort (pyOpt (env.getStr "SERIAL_PORT" none)) [] "127.0.0.1" ::
          (sbsaLateCalls env host version).drop 4 := rfl
  rw [split, owned_run_of_only (by rfl) (by rfl) (by rfl) withSerialPort_args,
    owned_serialArgs, serialPort_of_given (given_getStr env "SERIAL_PORT" rfl)]

end PatinaQemu
