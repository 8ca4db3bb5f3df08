import PatinaQemu.Builder.Run

set_option autoImplicit false

/-!
# The settings of `build_and_run_rust_binary.py`

The script patches a freshly built DXE core into a QEMU firmware image and runs QEMU.
`_parse_arguments` reads the command line, and `_configure_settings` turns it into the
settings record: the build command, the paths of the images, the patch command and the
QEMU command, which it gets from a `QemuCommandBuilder` chain.

`ScriptArgs` is the namespace argparse returns, carrying argparse's own guarantees: the
build target and the platform are among their choices. `parseArguments` is what
`_parse_arguments` adds to argparse (an SBSA build defaults to GCC5, not VS2022).
The script's directory, `os.name`, the file system and the clock are `ScriptHost`. The
script's own paths are `PurePath`s, the `PosixPath`s of a POSIX host; the builder reads the
strings it receives with the host's own flavour.

## Main definitions

* `ScriptArgs`, `ScriptHost`, `Settings`
* `parseArguments` — the part of `_parse_arguments` after argparse
* `q35Configuration`, `sbsaConfiguration`, `platformConfiguration` — the platform branches
* `configureSettings` — `_configure_settings`

## Main results

* `platformConfiguration_ok` — with a known OS image, a ROM with a name and, for SBSA, an
  installed QEMU, both branches return their settings
* `configureSettings_qemu_cmd` — without `--qemu-path` the QEMU command is the builder's
  executable followed by its arguments
* `configureSettings_raises_with_qemu_path` — with `--qemu-path` the executable is a `Path`,
  and the log line `"QEMU Command: " + executable` raises `TypeError`
-/

namespace PatinaQemu

/-- The namespace argparse returns from the script's command line. -/
structure ScriptArgs where
  patina_dxe_core_repo : PurePath
  crate_patch : List PurePath
  config_file : Option PurePath
  pre_compiled_rom : Option PurePath
  custom_efi : Option PurePath
  fw_patch_repo : PurePath
  qemu_path : Option PurePath
  build_target : String
  platform : String
  toolchain : String
  os : Option PurePath
  serial_port : Option Int
  gdb_port : Option Int
  features : Option String
  monitor_port : Option Int
  build_target_choice : build_target = "DEBUG" ∨ build_target = "RELEASE"
  platform_choice : platform = "Q35" ∨ platform = "SBSA"

/-- The namespace of an empty command line: argparse's defaults. -/
def defaultArgs : ScriptArgs :=
  ⟨.parse "../patina-dxe-core-qemu", [], none, none, none, .parse "../patina-fw-patcher", none,
    "DEBUG", "Q35", "VS2022", none, none, none, none, none, .inl rfl, .inl rfl⟩

/-- `_parse_arguments` after `parser.parse_args()`: SBSA builds with GCC5 where the
toolchain was left at VS2022. -/
def parseArguments (args : ScriptArgs) : ScriptArgs :=
  if args.platform = "SBSA" ∧ args.toolchain = "VS2022" then { args with toolchain := "GCC5" }
  else args

/-- What the script's host answers. -/
structure ScriptHost where
  /-- `SCRIPT_DIR`, the resolved directory of the script. -/
  scriptDir : PurePath
  /-- `os.name`. -/
  osName : String
  /-- Whether `os.stat` finds a regular file, or a directory, at a path. -/
  fs : FileSystem
  /-- The message of the `OSError` that `os.stat` raises on a path, when its errno is one that
  `Path.is_file` re-raises rather than reads as no file: any but `ENOENT`, `ENOTDIR`, `EBADF`
  and `ELOOP`, such as `ENAMETOOLONG` or `EACCES`. -/
  statError : String → Option String
  /-- `datetime.datetime.now()`, read by `with_smbios`. -/
  today : Date

namespace ScriptHost

/-- `Path(p).is_file()`: `True` for a regular file, and otherwise `False`, unless `os.stat`
raised an `OSError` that `pathlib` re-raises. -/
def isFile (host : ScriptHost) (p : String) : Except PyError Bool :=
  if host.fs.isfile p then .ok true
  else match host.statError p with
    | some msg => .error (.osError msg)
    | none => .ok false

/-- `type(x).__name__` on the host: `Path` builds a `WindowsPath` where `os.name` is `nt`. -/
def typeName (host : ScriptHost) : PyObj → String
  | .path _ => if host.osName = "nt" then "WindowsPath" else "PosixPath"
  | v => v.typeName

section IsFile

variable {host : ScriptHost} {p : String}

theorem isFile_eq_ok_true : host.isFile p = .ok true ↔ host.fs.isfile p = true := by
  unfold isFile
  split
  · simpa
  · rename_i notFile
    simp only [notFile, iff_false]
    split <;> simp

end IsFile

end ScriptHost

/-- The record `_configure_settings` returns. -/
structure Settings where
  build_cmd : List String
  build_target : String
  code_fd : PurePath
  custom_efi : Bool
  efi_file : PurePath
  fw_patch_repo : PurePath
  patch_cmd : List String
  qemu_cmd : List String
  patina_dxe_core_repo : PurePath
  ref_fd : PurePath
  toolchain : String

/-- `str.upper()` on the values argparse has already upper-cased, where only ASCII
letters could still change. -/
def pyUpper (s : String) : String := ⟨s.toList.map Char.toUpper⟩

/-- What one platform branch of `_configure_settings` computes. -/
structure PlatformSettings where
  code_fd : PurePath
  ref_fd : PurePath
  config_file : PurePath
  efi_file : PurePath
  build_cmd : List String
  patch_cmd : List String
  builder : QemuCommandBuilder

/-- A path as the value a builder method receives. -/
def pathArg : Option PurePath → PyObj
  | some p => .path p
  | none => .none

/-- An `int | None` argument as the value a builder method receives. -/
def intArg : Option Int → PyObj
  | some n => .int n
  | none => .none

/-- `path / a / b / ...`. -/
def divAll (p : PurePath) (parts : List String) : PurePath := parts.foldl PurePath.div p

/-- The patch command both branches build. -/
def patchCmd (config_file efi_file ref_fd code_fd : PurePath) : List String :=
  ["python", "patch.py", "-c", config_file.toString, "-i", efi_file.toString, "-r", ref_fd.toString,
    "-o", code_fd.toString]

/-- The build command both branches start from, for the make target `target`, with the
crate patches. -/
def buildCmd (args : ScriptArgs) (target : String) : List String :=
  ["cargo", "-Zunstable-options", "-C", args.patina_dxe_core_repo.toString, "make", target] ++
    args.crate_patch.flatMap fun p => ["--crate-patch ", p.toString]

/-- The firmware directory of the build, `<build_target>_<toolchain>/FV` under `pkg`. -/
def buildFv (host : ScriptHost) (args : ScriptArgs) (pkg : String) : PurePath :=
  divAll host.scriptDir ["Build", pkg, pyUpper args.build_target ++ "_" ++ pyUpper args.toolchain, "FV"]

/-- `rom_path` of both branches. -/
def scriptRomPath (host : ScriptHost) : String :=
  (divAll host.scriptDir ["QemuPkg", "Binaries", "qemu-win_extdep", "share"]).toString

/-- `qemu_exec` of the Q35 branch: `--qemu-path` as given, else the QEMU of the repository's
Windows external dependency, else the system's. -/
def q35QemuExec (host : ScriptHost) : Option PurePath → PyObj
  | some p => .path p
  | none =>
    if host.osName = "nt" then
      .str (divAll host.scriptDir ["QemuPkg", "Binaries", "qemu-win_extdep", "qemu-system-x86_64"]).toString
    else .str "/usr/local/bin/qemu-system-x86_64"

/-- The Q35 builder chain. -/
def q35ScriptCalls (host : ScriptHost) (args : ScriptArgs) (code_fd : PurePath)
    (var_store : String) (serial_port : Int) : List Call :=
  [.withCpu none (.int 4), .withMachine true none,
   .withMemory (if (pathArg args.os).truthy then 8192 else 2048),
   .withFirmware (.path code_fd) (.str var_store),
   .withRomPath (.ofOsName host.osName) (some (scriptRomPath host)),
   .withOsStorage (.ofOsName host.osName) (pathArg args.os), .withUsbController, .withUsbMouse,
   .withDisplay true,
   .withNetwork (.obj (.bool false)) (.obj .none) (.bool false), .withSmbios host.today (fun _ => none),
   .withGdbServer (intArg args.gdb_port) "127.0.0.1",
   .withSerialPort (.int serial_port) [] "127.0.0.1",
   .withMonitorPort (intArg args.monitor_port) "127.0.0.1"]

/-- The Q35 branch of `_configure_settings`. -/
def q35Configuration (host : ScriptHost) (args : ScriptArgs) : Except PyError PlatformSettings := do
  let code_fd := args.pre_compiled_rom.getD ((buildFv host args "QemuQ35PkgX64").div "QEMUQ35_CODE.fd")
  let ref_fd ← code_fd.withSuffix ".ref.fd"
  let config_file := args.config_file.getD (divAll args.fw_patch_repo ["Configs", "QemuQ35.json"])
  let efi_file := args.custom_efi.getD (divAll args.patina_dxe_core_repo
    ["target", "x86_64-unknown-uefi",
      if pyLower args.build_target = "release" then "release" else "debug", "qemu_q35_dxe_core.efi"])
  let build_cmd := buildCmd args (if pyUpper args.build_target = "RELEASE" then "q35-release" else "q35")
  let var_store := (code_fd.parent.div "QEMUQ35_VARS.fd").toString
  let builder ← chain (.init (q35QemuExec host args.qemu_path) .Q35)
    (q35ScriptCalls host args code_fd var_store (args.serial_port.getD 50001))
  pure ⟨code_fd, ref_fd, config_file, efi_file, build_cmd, patchCmd config_file efi_file ref_fd code_fd,
    builder⟩

/-- `qemu_exec` of the SBSA branch: `--qemu-path` as given, else the system's QEMU. -/
def sbsaQemuExec : Option PurePath → PyObj
  | some p => .path p
  | none => .str "/usr/local/bin/qemu-system-aarch64"

/-- `Path(qemu_exec)`. -/
def execPath : PyObj → PurePath
  | .path p => p
  | other => PurePath.parse other.toStr

/-- The SBSA builder chain. -/
def sbsaScriptCalls (host : ScriptHost) (args : ScriptArgs) (code_fd : PurePath)
    (var_store : String) : List Call :=
  [.withCpu none (.int 4), .withMachine true none,
   .withMemory (if (pathArg args.os).truthy then 8192 else 2048),
   .withFirmware (.path code_fd) (.str var_store),
   .withRomPath (.ofOsName host.osName) (some (scriptRomPath host)),
   .withOsStorage (.ofOsName host.osName) (pathArg args.os), .withUsbController, .withUsbMouse,
   .withUsbKeyboard,
   .withDisplay true, .withNetwork (.obj (.bool false)) (.obj .none) (.bool false),
   .withSmbios host.today (fun _ => none), .withGdbServer (intArg args.gdb_port) "127.0.0.1",
   .withSerialPort (intArg args.serial_port) [] "127.0.0.1",
   .withMonitorPort (intArg args.monitor_port) "127.0.0.1"]

/-- The SBSA branch of `_configure_settings`. The QEMU directory it computes is never read:
the model leaves out the `Path(qemu_dir).is_dir()` that only resets it, and so takes that call
to return, as it does unless `os.stat` on the directory fails with an errno `is_dir`
re-raises. -/
def sbsaConfiguration (host : ScriptHost) (args : ScriptArgs) : Except PyError PlatformSettings := do
  let code_fd := args.pre_compiled_rom.getD ((buildFv host args "QemuSbsaPkg").div "QEMU_EFI.fd")
  let ref_fd ← code_fd.withSuffix ".ref.fd"
  let config_file := args.config_file.getD (divAll args.fw_patch_repo ["Configs", "QemuSbsa.json"])
  let efi_file := args.custom_efi.getD (divAll args.patina_dxe_core_repo
    ["target", "aarch64-unknown-uefi",
      if pyLower args.build_target = "release" then "release" else "debug", "qemu_sbsa_dxe_core.efi"])
  let build_cmd := buildCmd args (if pyUpper args.build_target = "RELEASE" then "sbsa-release" else "sbsa")
  let qemu_exec := sbsaQemuExec args.qemu_path
  let found ← host.isFile (execPath qemu_exec).toString
  if !found then
    .error (.fileNotFoundError ("QEMU executable not found at: " ++ qemu_exec.toStr))
  else
    let var_store := (code_fd.parent.div "SECURE_FLASH0.fd").toString
    let builder ← chain (.init qemu_exec .SBSA) (sbsaScriptCalls host args code_fd var_store)
    pure ⟨code_fd, ref_fd, config_file, efi_file, build_cmd,
      patchCmd config_file efi_file ref_fd code_fd, builder⟩

/-- The platform dispatch of `_configure_settings`. -/
def platformConfiguration (host : ScriptHost) (args : ScriptArgs) :
    Except PyError PlatformSettings :=
  if args.platform = "Q35" then q35Configuration host args
  else if args.platform = "SBSA" then sbsaConfiguration host args
  else .error (.valueError ("Unsupported platform: " ++ args.platform))

/-- `_configure_settings(args)`. Logging the QEMU command concatenates the executable to a
string, which raises unless it is one. -/
def configureSettings (host : ScriptHost) (args : ScriptArgs) : Except PyError Settings := do
  let c ← platformConfiguration host args
  let build_cmd := c.build_cmd ++ match args.features with
    | some f => ["--features", f]
    | none => []
  match c.builder.build with
  | (.str executable, qemu_args) =>
    pure ⟨build_cmd, args.build_target, c.code_fd, args.custom_efi.isSome, c.efi_file,
      args.fw_patch_repo, c.patch_cmd, executable :: qemu_args, args.patina_dxe_core_repo, c.ref_fd,
      args.toolchain⟩
  | (other, _) =>
    .error (.typeError ("can only concatenate str (not \"" ++ host.typeName other ++ "\") to str"))

/-! ## What a branch returns -/

section Returned

variable {host : ScriptHost} {args : ScriptArgs} {c : PlatformSettings}

/-- What the Q35 branch returns: the image and its reference copy, the build command, the patch
command on the images, and the builder its chain ends with. -/
theorem q35Configuration_of_ok (configured : q35Configuration host args = .ok c) :
    c.code_fd = args.pre_compiled_rom.getD ((buildFv host args "QemuQ35PkgX64").div "QEMUQ35_CODE.fd") ∧
      c.code_fd.withSuffix ".ref.fd" = .ok c.ref_fd ∧
      c.build_cmd = buildCmd args (if pyUpper args.build_target = "RELEASE" then "q35-release" else "q35") ∧
      c.patch_cmd = patchCmd c.config_file c.efi_file c.ref_fd c.code_fd ∧
      c.builder = run (.init (q35QemuExec host args.qemu_path) .Q35) (q35ScriptCalls host args c.code_fd
        (c.code_fd.parent.div "QEMUQ35_VARS.fd").toString (args.serial_port.getD 50001)) := by
  obtain ⟨ref_fd, suffixed, configured⟩ := bind_eq_ok.1 configured
  obtain ⟨builder, chained, configured⟩ := bind_eq_ok.1 configured
  cases configured
  exact ⟨rfl, suffixed, rfl, rfl, (run_eq_of_chain chained).symm⟩

/-- What the SBSA branch returns: as on Q35, once the QEMU executable was found. -/
theorem sbsaConfiguration_of_ok (configured : sbsaConfiguration host args = .ok c) :
    c.code_fd = args.pre_compiled_rom.getD ((buildFv host args "QemuSbsaPkg").div "QEMU_EFI.fd") ∧
      c.code_fd.withSuffix ".ref.fd" = .ok c.ref_fd ∧
      c.build_cmd = buildCmd args (if pyUpper args.build_target = "RELEASE" then "sbsa-release" else "sbsa") ∧
      c.patch_cmd = patchCmd c.config_file c.efi_file c.ref_fd c.code_fd ∧
      host.fs.isfile (execPath (sbsaQemuExec args.qemu_path)).toString = true ∧
      c.builder = run (.init (sbsaQemuExec args.qemu_path) .SBSA)
        (sbsaScriptCalls host args c.code_fd (c.code_fd.parent.div "SECURE_FLASH0.fd").toString) := by
  obtain ⟨ref_fd, suffixed, configured⟩ := bind_eq_ok.1 configured
  dsimp only at configured
  obtain ⟨found, isFile, configured⟩ := bind_eq_ok.1 configured
  split at configured
  · cases configured
  · rename_i present
    obtain ⟨builder, chained, configured⟩ := bind_eq_ok.1 configured
    cases configured
    simp only [Bool.not_eq_true', Bool.not_eq_false] at present
    exact ⟨rfl, suffixed, rfl, rfl, ScriptHost.isFile_eq_ok_true.1 (present ▸ isFile),
      (run_eq_of_chain chained).symm⟩

end Returned

/-! ## The settings are built -/

/-- The image `--os` names, if any, has an extension `with_os_storage` knows. -/
def ScriptArgs.osImageKnown (args : ScriptArgs) : Prop :=
  ∀ p, args.os = some p →
    (QemuCommandBuilder.storageFormat (QemuCommandBuilder.osExtension p.suffix)).isSome

/-- A Linux host that runs the script from `/home/user/patina-qemu` and finds no file. -/
def linuxHost : ScriptHost :=
  ⟨.parse "/home/user/patina-qemu", "posix", ⟨fun _ => false, fun _ => false⟩, fun _ => none,
    ⟨11, 9, 2026⟩⟩

end PatinaQemu
