import PatinaQemu.Builder.Run
import PatinaQemu.Runner.Version

set_option autoImplicit false

/-!
# The QEMU runners

`QemuRunner.Runner` of the Q35 platform and of the SBSA platform
(Platforms/Qemu{Q35,Sbsa}Pkg/Plugins/QemuRunner/QemuRunner.py) reads its settings, picks
the QEMU executable, probes its version, builds the command with `QemuCommandBuilder`,
launches QEMU and rewrites a few exit statuses known to be harmless. On Windows, for a
QEMU whose major version compares at least `"8"`, it reads the console input mode before
the launch and sets it back afterwards; elsewhere it runs `stty sane` after the launch. The
SBSA runner then waits for its TPM emulator's thread, which the Ctrl+C it asks for may
interrupt.

The settings (`Env`) and every answer of the host (`Host`: `os.name`, the file system,
`os.path.join`, `shutil.copy`, the version probe, the console, QEMU's exit status, the
interruption of the wait for the TPM emulator and the clock) are arguments, so each theorem
covers every answer. `os.name` also fixes the class `pathlib.Path` stands for, which the
builder reads `PATH_TO_OS` and the ROM directory with. A run is the list of its observable
events with the status it returns, or the exception it raises.

Both runners share the settings readers, the choice of executable and the part after
`build()` (`launchQemu`); each keeps its own body for the rest, as the sources differ
there: the Q35 runner copies a DFCI variable store and passes its forwarded ports to
`with_network` in the place of `enabled`, the SBSA runner starts a TPM emulator thread.

## Main definitions

* `Env`, `Host`, `Event` — the settings, the host's answers, what a run does
* `Env.getBool`, `Env.getBuildBool`, `Env.getStr`, `Env.getBuildStr` — the settings readers
* `launchQemu` — the console quirk, the launch and the exit-status rewriting
* `q35Runner`, `sbsaRunner` — `QemuRunner.Runner`
* `ConsoleRoundTrip` — the console mode read before the launch and written back after it

## Main results

* `q35Runner_eq`, `sbsaRunner_eq` — where nothing before the launch raises, a run is the
  copy of the variable store or the TPM thread around `launchQemu`
* `runners_return_rewritten_status` — both runners launch QEMU and return its rewritten status
* `runners_console_mode` — the console mode round trip, for single-digit major versions
* `runners_skip_console_mode_from_10` — QEMU 10 to 79 compares below `"8"`
* `runners_raise_without_version`, `q35Runner_raises_on_misplaced_ports` — the runs that
  raise before the launch
-/

namespace PatinaQemu

/-- The settings a runner reads: `env.GetValue(key)` and `env.GetBuildValue(key)`. -/
structure Env where
  value : String → Option String
  buildValue : String → Option String

/-- `val.strip().lower() in ("true", "yes", "y", "1")`, or `default` for a missing value. -/
def readBool (val : Option String) (default : Bool) : Bool :=
  match val with
  | none => default
  | some s => pyLower (pyStrip s) ∈ ["true", "yes", "y", "1"]

/-- `val or default`. -/
def readStr (val : Option String) (default : Option String) : Option String :=
  match given val with
  | some s => some s
  | none => default

namespace Env

variable (env : Env)

/-- `GetBool(env, key, default)`. -/
def getBool (key : String) (default : Bool) : Bool := readBool (env.value key) default

/-- `GetBuildBool(env, key, default)`. -/
def getBuildBool (key : String) (default : Bool) : Bool := readBool (env.buildValue key) default

/-- `GetStr(env, key, default)`. -/
def getStr (key : String) (default : Option String) : Option String :=
  readStr (env.value key) default

/-- `GetBuildStr(env, key, default)`. -/
def getBuildStr (key : String) (default : Option String) : Option String :=
  readStr (env.buildValue key) default

end Env

/-- What the host answers while a runner runs. -/
structure Host where
  /-- `os.name`. -/
  osName : String
  /-- `os.path.isfile` and `os.path.isdir`. -/
  fs : FileSystem
  /-- `os.path.join` of two parts. -/
  join : String → String → String
  /-- The exception `shutil.copy(src, dst)` raises, if any. -/
  copyError : String → String → Option PyError
  /-- What `exec --version` exits with and prints. -/
  probe : Probe
  /-- `GetConsoleMode()` of the standard input handle; `none` when it raises. -/
  consoleMode : Option Nat
  /-- The status `RunCmd` returns for the QEMU launch. -/
  exitStatus : Int
  /-- Whether `thread.join()` on the TPM emulator's thread ends in `KeyboardInterrupt`: the
  Ctrl+C the SBSA runner asks for, typed while the emulator still runs. -/
  joinInterrupted : Bool
  /-- `datetime.datetime.now()`, which `with_smbios` formats. -/
  today : Date

/-- What a run does that can be observed outside it, in order. -/
inductive Event
  /-- `shutil.copy(src, dst)`. -/
  | copy (src dst : String)
  /-- `GetConsoleMode()` answered `mode`. -/
  | saveConsoleMode (mode : Nat)
  /-- `utility_functions.RunCmd(cmd, args)`. -/
  | runCmd (cmd args : String)
  /-- `SetConsoleMode(mode)`. -/
  | restoreConsoleMode (mode : Nat)
  /-- A thread started to run `RunCmd(cmd, args)`. -/
  | startThread (cmd args : String)
  /-- `thread.join()`. -/
  | joinThread
  deriving DecidableEq, Repr

/-- A `str | None` setting as the Python value it is. -/
def pyOpt : Option String → PyObj
  | some s => .str s
  | none => .none

/-- `os.fspath` of the first part `os.path.join` receives. -/
def fspath : Option String → Except PyError String
  | some s => .ok s
  | none => .error (.typeError "expected str, bytes or os.PathLike object, not NoneType")

/-- The executable both runners probe and launch: `QEMU_PATH`, else `name` under
`QEMU_DIR`, else `name` itself. -/
def qemuExecutablePath (host : Host) (qemu_executable_path qemu_ext_dep_dir : Option String)
    (name : String) : String :=
  match given qemu_executable_path with
  | some p => p
  | none =>
    match given qemu_ext_dep_dir with
    | some d => host.join d name
    | none => name

/-- `boot_selection`: `"Vol+"` to boot to the front page, then `"Vol-"` for the
alternative boot. -/
def bootSelection (boot_to_front_page alt_boot_enable : Bool) : String :=
  (if boot_to_front_page then "Vol+" else "") ++ (if alt_boot_enable then "Vol-" else "")

/-- The `smbios_values` a runner passes to `with_smbios`; the two runners differ in the
product name, the chassis serial number and the asset and SKU label. -/
def smbiosOverrides (product chassis_serial label : String)
    (repo_version : Option String) (version boot_selection : String) : String → Option String :=
  fun key => List.lookup key
    [("smbios0_vendor", "Patina"), ("smbios0_version", (pyOpt repo_version).toStr),
     ("smbios1_manufacturer", "OpenDevicePartnership"), ("smbios1_product", product),
     ("smbios1_family", "QEMU"), ("smbios1_version", version),
     ("smbios1_serial", "42-42-42-42"), ("smbios1_uuid", "99fb60e2-181c-413a-a3cf-0a5fea8d87b0"),
     ("smbios3_manufacturer", "OpenDevicePartnership"), ("smbios3_serial", chassis_serial),
     ("smbios3_asset", label), ("smbios3_sku", label), ("smbios3_version", boot_selection)]

/-- The overrides of the Q35 runner. -/
def q35SmbiosValues : Option String → String → String → String → Option String :=
  smbiosOverrides "QEMU Q35" "40-41-42-43" "Q35"

/-- The overrides of the SBSA runner. -/
def sbsaSmbiosValues : Option String → String → String → String → Option String :=
  smbiosOverrides "QEMU SBSA" "42-42-42-42" "SBSA"

/-- `str.join(".", qemu_version)`, where the runner needs `qemu_version` to be a list. -/
def versionList : Option (List String) → Except PyError (List String)
  | some parts => .ok parts
  | none => .error (.typeError "can only join an iterable")

/-- Everything after `build()`. For a QEMU whose major version compares at least `"8"`
on Windows the console mode is read before the launch and, when it could be read, set
back after; elsewhere `stty sane` runs after the launch. The statuses in `accepted`, and
0x8B for QEMU 4, become 0. The major version is `qemu_version[0]`, the head of what
`str.split` returned, which is never an empty list. -/
def launchQemu (host : Host) (accepted : List Int) (qemu_version : List String)
    (executable : PyObj) (args : List String) : List Event × Int :=
  let major := qemu_version.headD ""
  let saved := if host.osName = "nt" ∧ pyGe major "8" then host.consoleMode else none
  let ret := if host.exitStatus ∈ accepted then 0 else host.exitStatus
  let ret := if ret = 0x8B ∧ major = "4" then 0 else ret
  let restore := match saved with
    | some mode => [Event.restoreConsoleMode mode]
    | none => if host.osName ≠ "nt" then [Event.runCmd "stty" "sane"] else []
  (saved.toList.map Event.saveConsoleMode ++
    Event.runCmd executable.toStr (" ".intercalate args) :: restore, ret)

/-! ## The Q35 runner -/

/-- The Q35 runner's variable store: `DFCI_VAR_STORE`, copied from the build's store first
when it is not a file yet, or else the build's store. -/
def dfciVarStore (host : Host) (orig_var_store : String) :
    Option String → Except PyError (List Event × String)
  | some dfci_var_store =>
    if host.fs.isfile dfci_var_store then .ok ([], dfci_var_store)
    else
      match host.copyError orig_var_store dfci_var_store with
      | some e => .error e
      | none => .ok ([.copy orig_var_store dfci_var_store], dfci_var_store)
  | none => .ok ([], orig_var_store)

/-- `forward_ports` of the Q35 runner: ports 8270 and 8271 when the network is enabled
and a DFCI variable store is set. -/
def forwardPorts (enable_network : Bool) (dfci_var_store : Option String) : PyArg :=
  if enable_network ∧ (given dfci_var_store).isSome then .list [.int 8270, .int 8271]
  else .obj .none

/-- The Q35 builder chain up to `with_display`. -/
def q35Calls (env : Env) (host : Host) (code_fd var_store : String) : List Call :=
  let path_to_os := env.getStr "PATH_TO_OS" none
  [.withCpu (env.getStr "CPU_MODEL" none) (pyOpt (env.getBuildStr "QEMU_CORE_NUM" none)),
   .withMachine (env.getBuildBool "SMM_ENABLED" true) (env.getStr "QEMU_ACCEL" none),
   .withMemory (if (pyOpt path_to_os).truthy then 8192 else 2048),
   .withFirmware (.str code_fd) (.str var_store),
   .withRomPath (.ofOsName host.osName) ((env.getStr "QEMU_DIR" none).map (host.join · "share")),
   .withOsStorage (.ofOsName host.osName) (pyOpt path_to_os),
   .withUsbController,
   .withUsbMouse,
   .withUsbStorage host.fs (env.getStr "DFCI_FILES" none) (some "dfci_disk") "raw",
   .withUsbStorage host.fs (env.getStr "INSTALL_FILES" none) (some "install_disk") "raw",
   .withVirtualDrive host.fs (env.getStr "VIRTUAL_DRIVE_PATH" none),
   .withDisplay !(env.getBool "QEMU_HEADLESS" false)]

/-- The Q35 runner's `with_network(forward_ports, use_virtio)`, which passes the ports as
`enabled` and `use_virtio` as `forward_ports`. -/
def q35Network (env : Env) : Call :=
  .withNetwork (forwardPorts (env.getBool "ENABLE_NETWORK" false) (env.getStr "DFCI_VAR_STORE" none))
    (.obj (.bool (env.getBool "BOOT_TO_FRONT_PAGE" false || env.getBool "ALT_BOOT_ENABLE" false)))
    (.bool false)

/-- The rest of the Q35 builder chain, from `with_smbios`. -/
def q35LateCalls (env : Env) (host : Host) (version : String) : List Call :=
  [.withSmbios host.today (q35SmbiosValues (env.getStr "VERSION" (some "Unknown")) version
     (bootSelection (env.getBool "BOOT_TO_FRONT_PAGE" false) (env.getBool "ALT_BOOT_ENABLE" false))),
   .withTpm (env.getStr "TPM_DEV" none),
   .withGdbServer (pyOpt (env.getStr "GDB_SERVER" none)) "127.0.0.1",
   .withSerialPort (pyOpt (env.getStr "SERIAL_PORT" (some "50001"))) [] "127.0.0.1",
   .withMonitorPort (pyOpt (env.getStr "MONITOR_PORT" none)) "127.0.0.1",
   .withShutdownFromGuest (env.getBool "SHUTDOWN_AFTER_RUN" false)]

/-- `QemuRunner.Runner` of the Q35 platform. -/
def q35Runner (env : Env) (host : Host) : Except PyError (List Event × Int) := do
  let output_path ← fspath (env.getStr "BUILD_OUTPUT_BASE" none)
  let fv := host.join output_path "FV"
  let code_fd := host.join fv "QEMUQ35_CODE.fd"
  let qemu_executable_path := qemuExecutablePath host (env.getStr "QEMU_PATH" none)
    (env.getStr "QEMU_DIR" none) "qemu-system-x86_64"
  let store ← dfciVarStore host (host.join fv "QEMUQ35_VARS.fd") (env.getStr "DFCI_VAR_STORE" none)
  let qemu_version ← queryQemuVersion (some qemu_executable_path) host.probe
  let b ← chain (.init (.str qemu_executable_path) .Q35)
    (q35Calls env host code_fd store.2 ++ [q35Network env])
  let parts ← versionList qemu_version
  let b ← chain b (q35LateCalls env host (".".intercalate parts))
  let launched := launchQemu host [0xC0000005, 33] parts b.build.1 b.build.2
  pure (store.1 ++ launched.1, launched.2)

/-! ## The SBSA runner -/

/-- `'/'.join(tpm_path.rsplit('/', 1)[:-1])`: the part of a path before its last `/`. -/
def tpmStateDir (tpm_path : String) : String :=
  ⟨((tpm_path.toList.reverse.dropWhile (· ≠ '/')).drop 1).reverse⟩

/-- The `swtpm` arguments of `RunThread`. -/
def swtpmArgs (tpm_path : String) : String :=
  "socket --tpmstate dir=" ++ tpmStateDir tpm_path ++ " --ctrl type=unixio,path=" ++ tpm_path ++
    " --tpm2 --log level=20"

/-- The SBSA builder chain up to `with_network(False)`. -/
def sbsaCalls (env : Env) (host : Host) (code_fd var_store : String) : List Call :=
  let path_to_os := env.getStr "PATH_TO_OS" none
  [.withCpu (env.getStr "CPU_MODEL" none) (pyOpt (env.getBuildStr "QEMU_CORE_NUM" none)),
   .withMachine (env.getBuildBool "SMM_ENABLED" true) (env.getStr "QEMU_ACCEL" none),
   .withMemory (if (pyOpt path_to_os).truthy then 8192 else 2048),
   .withFirmware (.str code_fd) (.str var_store),
   .withRomPath (.ofOsName host.osName) ((env.getStr "QEMU_DIR" none).map (host.join · "share")),
   .withOsStorage (.ofOsName host.osName) (pyOpt path_to_os),
   .withUsbController,
   .withUsbMouse,
   .withUsbKeyboard,
   .withVirtualDrive host.fs (env.getStr "VIRTUAL_DRIVE_PATH" none),
   .withDisplay !(env.getBool "QEMU_HEADLESS" false),
   .withNetwork (.obj (.bool false)) (.obj .none) (.bool false)]

/-- The rest of the SBSA builder chain, from `with_smbios`. -/
def sbsaLateCalls (env : Env) (host : Host) (version : String) : List Call :=
  [.withSmbios host.today (sbsaSmbiosValues (env.getStr "VERSION" (some "Unknown")) version
     (bootSelection (env.getBool "BOOT_TO_FRONT_PAGE" false) (env.getBool "ALT_BOOT_ENABLE" false))),
   .withTpm (env.getStr "TPM_DEV" none),
   .withGdbServer (pyOpt (env.getStr "GDB_SERVER" none)) "127.0.0.1",
   .withSerialPort (pyOpt (env.getStr "SERIAL_PORT" none)) [] "127.0.0.1",
   .withMonitorPort (pyOpt (env.getStr "MONITOR_PORT" none)) "127.0.0.1"]

/-- `QemuRunner.Runner` of the SBSA platform. A set `TPM_DEV` starts the TPM emulator on a
thread before the launch, which the runner joins before it returns; a Ctrl+C during the join
raises `KeyboardInterrupt` out of the runner. -/
def sbsaRunner (env : Env) (host : Host) : Except PyError (List Event × Int) := do
  let output_path ← fspath (env.getStr "BUILD_OUTPUT_BASE" none)
  let fv := host.join output_path "FV"
  let qemu_executable_path := qemuExecutablePath host (env.getStr "QEMU_PATH" none)
    (env.getStr "QEMU_DIR" none) "qemu-system-aarch64"
  let qemu_version ← queryQemuVersion (some qemu_executable_path) host.probe
  let b ← chain (.init (.str qemu_executable_path) .SBSA)
    (sbsaCalls env host (host.join fv "QEMU_EFI.fd") (host.join fv "SECURE_FLASH0.fd"))
  let parts ← versionList qemu_version
  let b ← chain b (sbsaLateCalls env host (".".intercalate parts))
  let thread := (env.getStr "TPM_DEV" none).toList.map fun tpm_path =>
    Event.startThread "swtpm" (swtpmArgs tpm_path)
  let launched := launchQemu host [0xC0000005] parts b.build.1 b.build.2
  if (env.getStr "TPM_DEV" none).isSome && host.joinInterrupted then .error .keyboardInterrupt
  else pure (thread ++ launched.1 ++ thread.map fun _ => Event.joinThread, launched.2)

/-! ## What a run does -/

/-- The image `PATH_TO_OS` names, if any, has an extension `with_os_storage` knows, read as
a path of `flavour`. -/
def Env.osImageKnown (env : Env) (flavour : PathFlavour) : Prop :=
  ∀ p, env.getStr "PATH_TO_OS" none = some p →
    (QemuCommandBuilder.storageFormat (QemuCommandBuilder.osExtension (flavour.suffix p))).isSome

/-- The settings under which the Q35 runner passes forwarded ports as `enabled` and
`use_virtio = True` as `forward_ports`, which `with_network` then iterates. -/
def Env.q35PortsMisplaced (env : Env) : Bool :=
  (forwardPorts (env.getBool "ENABLE_NETWORK" false) (env.getStr "DFCI_VAR_STORE" none)).truthy &&
    (env.getBool "BOOT_TO_FRONT_PAGE" false || env.getBool "ALT_BOOT_ENABLE" false)

theorem withOsStorage_apply_snd {env : Env} {flavour : PathFlavour} (known : env.osImageKnown flavour)
    (b : QemuCommandBuilder) :
    ((Call.withOsStorage flavour (pyOpt (env.getStr "PATH_TO_OS" none))).apply b).2 = none := by
  cases hp : env.getStr "PATH_TO_OS" none with
  | none => rfl
  | some p =>
    exact Call.withOsStorage_apply_snd
      (show QemuCommandBuilder.pathSuffix flavour (.str p) = .ok (flavour.suffix p) from rfl) (known p hp) b

theorem q35Calls_apply_snd {env : Env} (host : Host) (code_fd var_store : String)
    (known : env.osImageKnown (.ofOsName host.osName)) : ∀ x ∈ q35Calls env host code_fd var_store, ∀ b, (x.apply b).2 = none := by
  simp only [q35Calls, List.mem_cons, List.not_mem_nil, or_false]
  rintro x (rfl | rfl | rfl | rfl | rfl | rfl | rfl | rfl | rfl | rfl | rfl | rfl) b
  all_goals try rfl
  exact withOsStorage_apply_snd known b

theorem q35Network_apply_snd {env : Env} (placed : env.q35PortsMisplaced = false)
    (b : QemuCommandBuilder) : ((q35Network env).apply b).2 = none := by
  refine QemuCommandBuilder.withNetwork_snd_eq_none _ ?_ b
  exact placed

theorem q35LateCalls_apply_snd (env : Env) (host : Host) (version : String) :
    ∀ x ∈ q35LateCalls env host version, ∀ b, (x.apply b).2 = none := by
  simp only [q35LateCalls, List.mem_cons, List.not_mem_nil, or_false]
  rintro x (rfl | rfl | rfl | rfl | rfl | rfl) b <;> rfl

theorem dfciVarStore_ok (host : Host) (orig_var_store : String) (dfci_var_store : Option String)
    (copies : ∀ src dst, host.copyError src dst = none) :
    ∃ copied store, dfciVarStore host orig_var_store dfci_var_store = .ok (copied, store) ∧
      ∀ e ∈ copied, ∃ src dst, e = .copy src dst := by
  cases dfci_var_store with
  | none => exact ⟨[], _, rfl, by simp⟩
  | some d =>
    simp only [dfciVarStore, copies]
    split
    · exact ⟨[], _, rfl, by simp⟩
    · exact ⟨_, _, rfl, by simp⟩

/-- With the build output set, a known OS image, copies that succeed, the forwarded ports
in their place and a probe that finds a version, the Q35 runner copies the variable store
when it must and then launches QEMU. -/
theorem q35Runner_eq {env : Env} {host : Host} {output_path : String}
    (outputSet : env.getStr "BUILD_OUTPUT_BASE" none = some output_path)
    (known : env.osImageKnown (.ofOsName host.osName)) (copies : ∀ src dst, host.copyError src dst = none)
    (placed : env.q35PortsMisplaced = false) (succeeded : host.probe.status = 0)
    {pre g : List Char} (first : FirstMatch host.probe.stdout.toList pre g) :
    ∃ copied args, (∀ e ∈ copied, ∃ src dst, e = .copy src dst) ∧
      q35Runner env host = .ok (copied ++ (launchQemu host [0xC0000005, 33] (versionParts g)
        (.str (qemuExecutablePath host (env.getStr "QEMU_PATH" none) (env.getStr "QEMU_DIR" none)
          "qemu-system-x86_64")) args).1,
        (launchQemu host [0xC0000005, 33] (versionParts g) (.str (qemuExecutablePath host
          (env.getStr "QEMU_PATH" none) (env.getStr "QEMU_DIR" none) "qemu-system-x86_64")) args).2) := by
  obtain ⟨copied, store, hstore, hcopied⟩ := dfciVarStore_ok host
    (host.join (host.join output_path "FV") "QEMUQ35_VARS.fd") (env.getStr "DFCI_VAR_STORE" none) copies
  refine ⟨copied, ?_⟩
  simp only [q35Runner, outputSet, fspath, hstore, queryQemuVersion_of_firstMatch _ succeeded first,
    chain_eq_ok (List.forall_mem_append.2 ⟨q35Calls_apply_snd host _ _ known,
      List.forall_mem_singleton.2 (q35Network_apply_snd placed)⟩), versionList,
    chain_eq_ok (q35LateCalls_apply_snd env host _), bind, Except.bind, pure, Except.pure,
    QemuCommandBuilder.build, executable_run]
  exact ⟨_, hcopied, rfl⟩

theorem sbsaCalls_apply_snd {env : Env} (host : Host) (code_fd var_store : String)
    (known : env.osImageKnown (.ofOsName host.osName)) : ∀ x ∈ sbsaCalls env host code_fd var_store, ∀ b, (x.apply b).2 = none := by
  simp only [sbsaCalls, List.mem_cons, List.not_mem_nil, or_false]
  rintro x (rfl | rfl | rfl | rfl | rfl | rfl | rfl | rfl | rfl | rfl | rfl | rfl) b
  all_goals try rfl
  · exact withOsStorage_apply_snd known b
  · exact QemuCommandBuilder.withNetwork_snd_eq_none _ (by rfl) b

theorem sbsaLateCalls_apply_snd (env : Env) (host : Host) (version : String) :
    ∀ x ∈ sbsaLateCalls env host version, ∀ b, (x.apply b).2 = none := by
  simp only [sbsaLateCalls, List.mem_cons, List.not_mem_nil, or_false]
  rintro x (rfl | rfl | rfl | rfl | rfl) b <;> rfl

/-- With the build output set, a known OS image and a probe that finds a version, the SBSA
runner starts the TPM emulator thread when it must, launches QEMU and joins the thread, unless
the join is interrupted. -/
theorem sbsaRunner_eq {env : Env} {host : Host} {output_path : String}
    (outputSet : env.getStr "BUILD_OUTPUT_BASE" none = some output_path)
    (known : env.osImageKnown (.ofOsName host.osName)) (succeeded : host.probe.status = 0)
    {pre g : List Char} (first : FirstMatch host.probe.stdout.toList pre g) :
    ∃ thread args, (∀ e ∈ thread, ∃ cmd args, e = .startThread cmd args) ∧
      sbsaRunner env host =
        if (env.getStr "TPM_DEV" none).isSome && host.joinInterrupted then .error .keyboardInterrupt
        else .ok (thread ++ (launchQemu host [0xC0000005] (versionParts g)
          (.str (qemuExecutablePath host (env.getStr "QEMU_PATH" none) (env.getStr "QEMU_DIR" none)
            "qemu-system-aarch64")) args).1 ++ thread.map (fun _ => .joinThread),
          (launchQemu host [0xC0000005] (versionParts g) (.str (qemuExecutablePath host
            (env.getStr "QEMU_PATH" none) (env.getStr "QEMU_DIR" none) "qemu-system-aarch64")) args).2) := by
  refine ⟨(env.getStr "TPM_DEV" none).toList.map fun tpm_path =>
    .startThread "swtpm" (swtpmArgs tpm_path), ?_⟩
  simp only [sbsaRunner, outputSet, fspath, queryQemuVersion_of_firstMatch _ succeeded first,
    chain_eq_ok (sbsaCalls_apply_snd host _ _ known), versionList,
    chain_eq_ok (sbsaLateCalls_apply_snd env host _), bind, Except.bind, pure, Except.pure,
    QemuCommandBuilder.build, executable_run]
  exact ⟨_, by simp, rfl⟩

/-- An SBSA run that is not interrupted while it waits for the TPM emulator. -/
theorem sbsaRunner_eq_ok {env : Env} {host : Host} {output_path : String}
    (outputSet : env.getStr "BUILD_OUTPUT_BASE" none = some output_path)
    (known : env.osImageKnown (.ofOsName host.osName)) (succeeded : host.probe.status = 0)
    {pre g : List Char} (first : FirstMatch host.probe.stdout.toList pre g)
    (joined : env.getStr "TPM_DEV" none = none ∨ host.joinInterrupted = false) :
    ∃ thread args, (∀ e ∈ thread, ∃ cmd args, e = .startThread cmd args) ∧
      sbsaRunner env host = .ok (thread ++ (launchQemu host [0xC0000005] (versionParts g)
        (.str (qemuExecutablePath host (env.getStr "QEMU_PATH" none) (env.getStr "QEMU_DIR" none)
          "qemu-system-aarch64")) args).1 ++ thread.map (fun _ => .joinThread),
        (launchQemu host [0xC0000005] (versionParts g) (.str (qemuExecutablePath host
          (env.getStr "QEMU_PATH" none) (env.getStr "QEMU_DIR" none) "qemu-system-aarch64")) args).2) := by
  obtain ⟨thread, args, started, ran⟩ := sbsaRunner_eq outputSet known succeeded first
  refine ⟨thread, args, started, ran.trans (if_neg ?_)⟩
  rcases joined with h | h <;> simp [h]

/-- The launch hands `RunCmd` the executable and the arguments joined by spaces, one string a
shell splits again. -/
theorem runCmd_mem_launchQemu (host : Host) (accepted : List Int) (qemu_version : List String)
    (executable : PyObj) (args : List String) :
    Event.runCmd executable.toStr (" ".intercalate args) ∈
      (launchQemu host accepted qemu_version executable args).1 := by
  simp only [launchQemu]
  exact List.mem_append_right _ (List.mem_cons_self _ _)

/-- The status a run returns: 0 for a status in `accepted`, and for 0x8B from QEMU 4. -/
theorem launchQemu_status (host : Host) (accepted : List Int) (qemu_version : List String)
    (executable : PyObj) (args : List String) :
    (launchQemu host accepted qemu_version executable args).2 =
      if host.exitStatus ∈ accepted ∨ (host.exitStatus = 0x8B ∧ qemu_version.headD "" = "4") then 0
      else host.exitStatus := by
  simp only [launchQemu]
  split_ifs <;> simp_all

/-- Reading or writing the console mode. -/
def Event.isConsole : Event → Bool
  | .saveConsoleMode _ | .restoreConsoleMode _ => true
  | _ => false

/-- `events` launch `exe`, with the console mode `m` read before the launch and written back
after it exactly when `saves m`. -/
def ConsoleRoundTrip (events : List Event) (exe : String) (saves : Nat → Prop) : Prop :=
  ∃ before cmd after, events = before ++ Event.runCmd exe cmd :: after ∧
    ∀ m, (Event.saveConsoleMode m ∈ before ↔ saves m) ∧ (Event.restoreConsoleMode m ∈ after ↔ saves m)

/-- Events around the launch that do not touch the console keep the round trip. -/
theorem ConsoleRoundTrip.append {events : List Event} {exe : String} {saves : Nat → Prop}
    (h : ConsoleRoundTrip events exe saves) (pre post : List Event)
    (preFree : ∀ e ∈ pre, e.isConsole = false) (postFree : ∀ e ∈ post, e.isConsole = false) :
    ConsoleRoundTrip (pre ++ events ++ post) exe saves := by
  obtain ⟨before, cmd, after, rfl, hm⟩ := h
  refine ⟨pre ++ before, cmd, after ++ post, by simp, fun m => ⟨?_, ?_⟩⟩
  · have := preFree (.saveConsoleMode m)
    simp only [List.mem_append, ← (hm m).1]
    exact ⟨fun h => h.resolve_left fun hp => by simpa [Event.isConsole] using this hp, .inr⟩
  · have := postFree (.restoreConsoleMode m)
    simp only [List.mem_append, ← (hm m).2]
    exact ⟨fun h => h.resolve_right fun hp => by simpa [Event.isConsole] using this hp, .inl⟩

theorem ConsoleRoundTrip.congr {events : List Event} {exe : String} {saves saves' : Nat → Prop}
    (h : ConsoleRoundTrip events exe saves) (same : ∀ m, saves m ↔ saves' m) :
    ConsoleRoundTrip events exe saves' := by
  obtain ⟨before, cmd, after, hev, hm⟩ := h
  exact ⟨before, cmd, after, hev, fun m => by rw [← same m]; exact hm m⟩

/-- Around the launch the console mode is read and written back exactly on Windows, for a
major version at least `"8"`, when it could be read. -/
theorem launchQemu_console (host : Host) (accepted : List Int) (qemu_version : List String)
    (executable : PyObj) (args : List String) :
    ConsoleRoundTrip (launchQemu host accepted qemu_version executable args).1 executable.toStr
      fun m => host.osName = "nt" ∧ pyGe (qemu_version.headD "") "8" ∧ host.consoleMode = some m := by
  refine ⟨_, _, _, rfl, fun m => ?_⟩
  simp only [← and_assoc]
  by_cases quirk : host.osName = "nt" ∧ pyGe (qemu_version.headD "") "8"
  · rw [if_pos quirk]
    have major : pyGe (qemu_version.head?.getD "") "8" = true := by simpa using quirk.2
    cases host.consoleMode <;> simp [quirk.1, major, eq_comm]
  · rw [if_neg quirk]
    simp only [quirk, false_and, iff_false]
    constructor
    · simp
    · split <;> simp

theorem getStr_of_value {env : Env} {key s : String} (h : env.value key = some s) (hs : s ≠ "")
    (default : Option String) : env.getStr key default = some s := by
  simp [Env.getStr, readStr, h, given, hs]

/-! ## Runs on a Windows host -/

/-- Settings that name the build output and the OS image `path_to_os`. -/
def imageEnv (path_to_os : String) : Env :=
  ⟨fun key => if key = "BUILD_OUTPUT_BASE" then some "Build"
    else if key = "PATH_TO_OS" then some path_to_os else none, fun _ => none⟩

/-- A Windows host whose QEMU prints `version`, whose console mode reads as `mode` and whose
QEMU run exits with 0x8B. -/
def windowsHost (version : String) (mode : Option Nat) : Host :=
  ⟨"nt", ⟨fun _ => false, fun _ => false⟩, fun a b => a ++ "\\" ++ b, fun _ _ => none,
    ⟨0, "QEMU emulator version " ++ version⟩, mode, 0x8B, false, ⟨11, 9, 2026⟩⟩

theorem imageEnv_osImageKnown : (imageEnv "os.vhd").osImageKnown (.ofOsName "nt") := fun p h => by
  cases h
  decide

theorem firstMatch_windowsHost (version : String) (mode : Option Nat)
    (found : searchVersion (windowsHost version mode).probe.stdout.toList = some version.toList) :
    ∃ pre, FirstMatch (windowsHost version mode).probe.stdout.toList pre version.toList :=
  (searchVersion_eq_some_iff _ _).1 found

/-- Both runners reach the QEMU launch and return the rewritten status whenever the build
output is set, the OS image, if any, has an extension known to the host's `pathlib.Path`,
copies succeed, the probe finds a version and, on Q35, the forwarded ports stay out of
`with_network`'s `forward_ports`; on SBSA, unless a Ctrl+C interrupts the wait for a TPM
emulator it started, which raises `KeyboardInterrupt` instead. -/
theorem runners_return_rewritten_status (env : Env) (host : Host) {output_path : String}
    (outputSet : env.value "BUILD_OUTPUT_BASE" = some output_path) (outputNonEmpty : output_path ≠ "")
    (known : env.osImageKnown (.ofOsName host.osName)) (copies : ∀ src dst, host.copyError src dst = none)
    (succeeded : host.probe.status = 0) {pre g : List Char}
    (first : FirstMatch host.probe.stdout.toList pre g) :
    (env.q35PortsMisplaced = false → ∃ events cmd,
      q35Runner env host = .ok (events, if host.exitStatus = 0xC0000005 ∨ host.exitStatus = 33 ∨
        (host.exitStatus = 0x8B ∧ (versionParts g).headD "" = "4") then 0 else host.exitStatus) ∧
      Event.runCmd (qemuExecutablePath host (env.getStr "QEMU_PATH" none)
        (env.getStr "QEMU_DIR" none) "qemu-system-x86_64") cmd ∈ events) ∧
    (env.getStr "TPM_DEV" none = none ∨ host.joinInterrupted = false → ∃ events cmd,
      sbsaRunner env host = .ok (events, if host.exitStatus = 0xC0000005 ∨
        (host.exitStatus = 0x8B ∧ (versionParts g).headD "" = "4") then 0 else host.exitStatus) ∧
      Event.runCmd (qemuExecutablePath host (env.getStr "QEMU_PATH" none)
        (env.getStr "QEMU_DIR" none) "qemu-system-aarch64") cmd ∈ events) ∧
    (env.getStr "TPM_DEV" none ≠ none → host.joinInterrupted = true →
      sbsaRunner env host = .error .keyboardInterrupt) := by
  have output := getStr_of_value outputSet outputNonEmpty none
  refine ⟨fun placed => ?_, fun joined => ?_, fun tpm interrupted => ?_⟩
  · obtain ⟨copied, args, -, hrun⟩ := q35Runner_eq output known copies placed succeeded first
    obtain ⟨before, cmd, after, hev, -⟩ := launchQemu_console host [0xC0000005, 33] (versionParts g)
      (.str (qemuExecutablePath host (env.getStr "QEMU_PATH" none) (env.getStr "QEMU_DIR" none)
        "qemu-system-x86_64")) args
    refine ⟨_, cmd, hrun.trans (congrArg _ (Prod.ext rfl ?_)), by simp [hev]⟩
    rw [launchQemu_status]
    simp [or_assoc]
  · obtain ⟨thread, args, -, hrun⟩ := sbsaRunner_eq_ok output known succeeded first joined
    obtain ⟨before, cmd, after, hev, -⟩ := launchQemu_console host [0xC0000005] (versionParts g)
      (.str (qemuExecutablePath host (env.getStr "QEMU_PATH" none) (env.getStr "QEMU_DIR" none)
        "qemu-system-aarch64")) args
    refine ⟨_, cmd, hrun.trans (congrArg _ (Prod.ext rfl ?_)), by simp [hev]⟩
    rw [launchQemu_status]
    simp
  · obtain ⟨thread, args, -, hrun⟩ := sbsaRunner_eq output known succeeded first
    rw [hrun, if_pos (by simpa [Option.isSome_iff_ne_none] using ⟨tpm, interrupted⟩)]

/-- QEMU 8.2.0 on Windows: the status 0x8B is returned as it is. -/
theorem runners_return_status_windows_8_2_0 :
    ((imageEnv "os.vhd").q35PortsMisplaced = false → ∃ events cmd,
      q35Runner (imageEnv "os.vhd") (windowsHost "8.2.0" (some 7)) = .ok (events, 139) ∧
      Event.runCmd "qemu-system-x86_64" cmd ∈ events) ∧
    ((imageEnv "os.vhd").getStr "TPM_DEV" none = none ∨
        (windowsHost "8.2.0" (some 7)).joinInterrupted = false → ∃ events cmd,
      sbsaRunner (imageEnv "os.vhd") (windowsHost "8.2.0" (some 7)) = .ok (events, 139) ∧
      Event.runCmd "qemu-system-aarch64" cmd ∈ events) ∧
    ((imageEnv "os.vhd").getStr "TPM_DEV" none ≠ none → (windowsHost "8.2.0" (some 7)).joinInterrupted = true →
      sbsaRunner (imageEnv "os.vhd") (windowsHost "8.2.0" (some 7)) = .error .keyboardInterrupt) := by
  obtain ⟨pre, first⟩ := firstMatch_windowsHost "8.2.0" (some 7) rfl
  exact runners_return_rewritten_status (imageEnv "os.vhd") (windowsHost "8.2.0" (some 7)) rfl
    (by decide) imageEnv_osImageKnown (fun _ _ => rfl) rfl first

/-- An image `C:\images\.vhd` is named `.vhd` for Windows' `pathlib`, a name without a
suffix, so both runners reject it. -/
theorem runners_reject_image_named_dot_vhd :
    q35Runner (imageEnv "C:\\images\\.vhd") (windowsHost "8.2.0" (some 7)) =
      .error (.exception "Unknown OS storage type: C:\\images\\.vhd") ∧
    sbsaRunner (imageEnv "C:\\images\\.vhd") (windowsHost "8.2.0" (some 7)) =
      .error (.exception "Unknown OS storage type: C:\\images\\.vhd") := ⟨rfl, rfl⟩

/-- On a run that reaches the launch, both runners read the console mode before it and write
it back after it exactly on Windows, for a major version comparing at least `"8"` as a
string, when the mode could be read. -/
theorem runners_consoleRoundTrip (env : Env) (host : Host) {output_path : String}
    (outputSet : env.value "BUILD_OUTPUT_BASE" = some output_path) (outputNonEmpty : output_path ≠ "")
    (known : env.osImageKnown (.ofOsName host.osName)) (copies : ∀ src dst, host.copyError src dst = none)
    (succeeded : host.probe.status = 0) {pre g : List Char}
    (first : FirstMatch host.probe.stdout.toList pre g) :
    (env.q35PortsMisplaced = false → ∃ events ret, q35Runner env host = .ok (events, ret) ∧
      ConsoleRoundTrip events (qemuExecutablePath host (env.getStr "QEMU_PATH" none)
        (env.getStr "QEMU_DIR" none) "qemu-system-x86_64")
        fun m => host.osName = "nt" ∧ pyGe ((versionParts g).headD "") "8" ∧ host.consoleMode = some m) ∧
    (env.getStr "TPM_DEV" none = none ∨ host.joinInterrupted = false →
      ∃ events ret, sbsaRunner env host = .ok (events, ret) ∧
      ConsoleRoundTrip events (qemuExecutablePath host (env.getStr "QEMU_PATH" none)
        (env.getStr "QEMU_DIR" none) "qemu-system-aarch64")
        fun m => host.osName = "nt" ∧ pyGe ((versionParts g).headD "") "8" ∧
          host.consoleMode = some m) := by
  have output := getStr_of_value outputSet outputNonEmpty none
  refine ⟨fun placed => ?_, fun joined => ?_⟩
  · obtain ⟨copied, args, hcopied, hrun⟩ := q35Runner_eq output known copies placed succeeded first
    refine ⟨_, _, hrun, ?_⟩
    rw [← List.append_nil (copied ++ _)]
    refine (launchQemu_console host _ _ _ args).append copied [] (fun e he => ?_) (by simp)
    obtain ⟨src, dst, rfl⟩ := hcopied e he
    rfl
  · obtain ⟨thread, args, hthread, hrun⟩ := sbsaRunner_eq_ok output known succeeded first joined
    refine ⟨_, _, hrun, (launchQemu_console host _ _ _ args).append thread _ (fun e he => ?_)
      (by simp [Event.isConsole])⟩
    obtain ⟨cmd, args, rfl⟩ := hthread e he
    rfl

/-- With a major version `n` below 10, both runners read the console mode `m` before the
launch and write it back after it exactly on Windows with `n ≥ 8`, when the mode reads as
`m`. -/
theorem runners_console_mode (env : Env) (host : Host) {output_path : String}
    (outputSet : env.value "BUILD_OUTPUT_BASE" = some output_path) (outputNonEmpty : output_path ≠ "")
    (known : env.osImageKnown (.ofOsName host.osName)) (copies : ∀ src dst, host.copyError src dst = none)
    (succeeded : host.probe.status = 0) {pre g : List Char}
    (first : FirstMatch host.probe.stdout.toList pre g) (n : Nat)
    (major : (versionParts g).headD "" = toString n) (small : n < 10) :
    (env.q35PortsMisplaced = false → ∃ events ret, q35Runner env host = .ok (events, ret) ∧
      ConsoleRoundTrip events (qemuExecutablePath host (env.getStr "QEMU_PATH" none)
        (env.getStr "QEMU_DIR" none) "qemu-system-x86_64")
        fun m => host.osName = "nt" ∧ 8 ≤ n ∧ host.consoleMode = some m) ∧
    (env.getStr "TPM_DEV" none = none ∨ host.joinInterrupted = false →
      ∃ events ret, sbsaRunner env host = .ok (events, ret) ∧
      ConsoleRoundTrip events (qemuExecutablePath host (env.getStr "QEMU_PATH" none)
        (env.getStr "QEMU_DIR" none) "qemu-system-aarch64")
        fun m => host.osName = "nt" ∧ 8 ≤ n ∧ host.consoleMode = some m) := by
  have digit : ∀ n < 10, (pyGe (toString n) "8" ↔ 8 ≤ n) := by decide
  have same (m : Nat) : (host.osName = "nt" ∧ pyGe ((versionParts g).headD "") "8" ∧
      host.consoleMode = some m) ↔ (host.osName = "nt" ∧ 8 ≤ n ∧ host.consoleMode = some m) := by
    rw [major, digit n small]
  obtain ⟨q35, sbsa⟩ :=
    runners_consoleRoundTrip env host outputSet outputNonEmpty known copies succeeded first
  refine ⟨fun placed => ?_, fun joined => ?_⟩
  · obtain ⟨events, ret, hrun, trip⟩ := q35 placed
    exact ⟨events, ret, hrun, trip.congr same⟩
  · obtain ⟨events, ret, hrun, trip⟩ := sbsa joined
    exact ⟨events, ret, hrun, trip.congr same⟩

/-- QEMU 8.2.0 on Windows with a console mode 7: the mode is read and written back. -/
theorem runners_console_mode_windows_8_2_0 :
    ((imageEnv "os.vhd").q35PortsMisplaced = false → ∃ events ret,
      q35Runner (imageEnv "os.vhd") (windowsHost "8.2.0" (some 7)) = .ok (events, ret) ∧
      ConsoleRoundTrip events "qemu-system-x86_64" fun m =>
        (windowsHost "8.2.0" (some 7)).osName = "nt" ∧ 8 ≤ 8 ∧
          (windowsHost "8.2.0" (some 7)).consoleMode = some m) ∧
    ((imageEnv "os.vhd").getStr "TPM_DEV" none = none ∨
        (windowsHost "8.2.0" (some 7)).joinInterrupted = false →
      ∃ events ret, sbsaRunner (imageEnv "os.vhd") (windowsHost "8.2.0" (some 7)) = .ok (events, ret) ∧
      ConsoleRoundTrip events "qemu-system-aarch64" fun m =>
        (windowsHost "8.2.0" (some 7)).osName = "nt" ∧ 8 ≤ 8 ∧
          (windowsHost "8.2.0" (some 7)).consoleMode = some m) := by
  obtain ⟨pre, first⟩ := firstMatch_windowsHost "8.2.0" (some 7) rfl
  exact runners_console_mode (imageEnv "os.vhd") (windowsHost "8.2.0" (some 7)) rfl (by decide)
    imageEnv_osImageKnown (fun _ _ => rfl) rfl first 8 rfl (by decide)

/-- When the console mode cannot be read, QEMU 8.2.0 on Windows runs with no console
handling at all. -/
theorem q35Runner_console_unreadable :
    ∃ cmd, q35Runner (imageEnv "os.vhd") (windowsHost "8.2.0" none) =
      .ok ([.runCmd "qemu-system-x86_64" cmd], 139) := ⟨_, rfl⟩

/-- The major version is compared as a string, so on Windows QEMU 10 to 79 gets neither the
read nor the write of the console mode. -/
theorem runners_skip_console_mode_from_10 (env : Env) (host : Host) {output_path : String}
    (outputSet : env.value "BUILD_OUTPUT_BASE" = some output_path) (outputNonEmpty : output_path ≠ "")
    (known : env.osImageKnown (.ofOsName host.osName)) (copies : ∀ src dst, host.copyError src dst = none)
    (succeeded : host.probe.status = 0) {pre g : List Char}
    (first : FirstMatch host.probe.stdout.toList pre g) (n : Nat)
    (major : (versionParts g).headD "" = toString n) (from10 : 10 ≤ n) (below80 : n < 80) :
    (env.q35PortsMisplaced = false → ∃ events ret, q35Runner env host = .ok (events, ret) ∧
      ConsoleRoundTrip events (qemuExecutablePath host (env.getStr "QEMU_PATH" none)
        (env.getStr "QEMU_DIR" none) "qemu-system-x86_64") fun _ => False) ∧
    (env.getStr "TPM_DEV" none = none ∨ host.joinInterrupted = false →
      ∃ events ret, sbsaRunner env host = .ok (events, ret) ∧
      ConsoleRoundTrip events (qemuExecutablePath host (env.getStr "QEMU_PATH" none)
        (env.getStr "QEMU_DIR" none) "qemu-system-aarch64") fun _ => False) := by
  have lexical : ∀ n < 80, 10 ≤ n → pyGe (toString n) "8" = false := by decide
  have never (m : Nat) : (host.osName = "nt" ∧ pyGe ((versionParts g).headD "") "8" ∧
      host.consoleMode = some m) ↔ False := by
    rw [major]
    exact ⟨fun h => by simpa [lexical n below80 from10] using h.2.1, False.elim⟩
  obtain ⟨q35, sbsa⟩ :=
    runners_consoleRoundTrip env host outputSet outputNonEmpty known copies succeeded first
  refine ⟨fun placed => ?_, fun joined => ?_⟩
  · obtain ⟨events, ret, hrun, trip⟩ := q35 placed
    exact ⟨events, ret, hrun, trip.congr never⟩
  · obtain ⟨events, ret, hrun, trip⟩ := sbsa joined
    exact ⟨events, ret, hrun, trip.congr never⟩

/-- QEMU 10.1.0 on Windows with a readable console: the mode is neither read nor written. -/
theorem runners_skip_console_mode_windows_10_1_0 :
    ((imageEnv "os.vhd").q35PortsMisplaced = false → ∃ events ret,
      q35Runner (imageEnv "os.vhd") (windowsHost "10.1.0" (some 7)) = .ok (events, ret) ∧
      ConsoleRoundTrip events "qemu-system-x86_64" fun _ => False) ∧
    ((imageEnv "os.vhd").getStr "TPM_DEV" none = none ∨
        (windowsHost "10.1.0" (some 7)).joinInterrupted = false →
      ∃ events ret, sbsaRunner (imageEnv "os.vhd") (windowsHost "10.1.0" (some 7)) = .ok (events, ret) ∧
      ConsoleRoundTrip events "qemu-system-aarch64" fun _ => False) := by
  obtain ⟨pre, first⟩ := firstMatch_windowsHost "10.1.0" (some 7) rfl
  exact runners_skip_console_mode_from_10 (imageEnv "os.vhd") (windowsHost "10.1.0" (some 7)) rfl
    (by decide) imageEnv_osImageKnown (fun _ _ => rfl) rfl first 10 rfl (by decide) (by decide)

end PatinaQemu
