import PatinaQemu.Script.ConfigureSettings

set_option autoImplicit false

/-!
# The build, patch and run pipeline of `build_and_run_rust_binary.py`

`main` builds the settings, then runs three stages: `_build_rust_dxe_core` (skipped for a
custom EFI file), `_patch_rust_binary` and `_run_qemu`. Each runs one command with
`subprocess.run(..., check=True)`, so a command that exits with a non-zero status raises
`CalledProcessError`; the build stage turns it into `sys.exit(returncode)` itself, and `main`
catches it from the other two and calls `exit(returncode)`. Any other exception leaves
`main` uncaught, except a `ValueError` of `_configure_settings`, which exits with status 1.

The patch stage copies the firmware image to the reference image, runs the patch tool and
deletes the reference image; a failing patch tool skips the deletion. On Windows, `_run_qemu`
reads the console input mode before QEMU and, in a `finally` clause, writes it back when it
is non-zero.

Every answer of the host (`PipelineHost`: the commands' exit statuses, the exceptions of
`shutil.copy`, `Path.unlink` and `subprocess.run`, and the console) is an argument. A run of
the script is the list of what it did (`ScriptEvent`) with how it ended (`ScriptOutcome`).

## Main definitions

* `PipelineHost`, `ScriptEvent`, `StageEnd`, `ScriptOutcome`
* `buildRustDxeCore`, `patchRustBinary`, `runQemu` — the three stages
* `scriptMain` — `main`

## Main results

* `scriptMain_exit` — the exit status is the first non-zero status of the stages, in order
* `scriptMain_patch_fails` — a failing patch tool leaves the reference image behind, and QEMU
  does not run
* `unstable_mem_build_cmd` — every build command the settings can hold asks for unstable
  options, so the build always runs with `RUSTC_BOOTSTRAP=1`
-/

namespace PatinaQemu

/-- What the host answers once the settings are built. -/
structure PipelineHost where
  /-- `os.name`. -/
  osName : String
  /-- `subprocess.run(cmd)`: the command's exit status, or the exception raised before the
  command runs (an executable that is not found). -/
  spawn : List String → Except PyError Int
  /-- The exception `shutil.copy(src, dst)` raises, if any. -/
  copyError : String → String → Option PyError
  /-- The exception `Path(path).unlink()` raises, if any. -/
  unlinkError : String → Option PyError
  /-- `kernel32.GetStdHandle(STD_INPUT_HANDLE)`. -/
  stdHandle : Int
  /-- `kernel32.GetConsoleMode`: the mode, or `none` when the call fails. -/
  consoleMode : Option Nat

/-- What the script does after building its settings, in order. -/
inductive ScriptEvent
  /-- `subprocess.run(build_cmd)`, with `RUSTC_BOOTSTRAP=1` in its environment or not. -/
  | build (cmd : List String) (rustc_bootstrap : Bool)
  /-- `shutil.copy(src, dst)`. -/
  | copy (src dst : String)
  /-- `subprocess.run(patch_cmd, cwd=cwd)`. -/
  | patch (cmd : List String) (cwd : String)
  /-- `Path(path).unlink()`. -/
  | unlink (path : String)
  /-- `GetConsoleMode` answered `mode`. -/
  | saveConsoleMode (mode : Nat)
  /-- `subprocess.run(qemu_cmd)`. -/
  | runQemu (cmd : List String)
  /-- `SetConsoleMode(mode)`. -/
  | restoreConsoleMode (mode : Nat)
  deriving DecidableEq, Repr

/-- How a stage ends. -/
inductive StageEnd
  | done
  | calledProcessError (returncode : Int)
  | systemExit (code : Int)
  | raised (e : PyError)
  deriving DecidableEq, Repr

/-- How the script ends: `SystemExit(code)` (status 0 when `main` returns), or an exception
`main` does not catch. -/
inductive ScriptOutcome
  | exit (code : Int)
  | raised (e : PyError)
  deriving DecidableEq, Repr

/-- `subprocess.run(cmd, check=True)`. -/
def runChecked (host : PipelineHost) (cmd : List String) : StageEnd :=
  match host.spawn cmd with
  | .error e => .raised e
  | .ok r => if r = 0 then .done else .calledProcessError r

/-- `_build_rust_dxe_core(settings)`. -/
def buildRustDxeCore (host : PipelineHost) (settings : Settings) : List ScriptEvent × StageEnd :=
  ([.build settings.build_cmd ("-Zunstable-options" ∈ settings.build_cmd)],
    match runChecked host settings.build_cmd with
    | .calledProcessError r => .systemExit r
    | other => other)

/-- `_patch_rust_binary(settings)`. -/
def patchRustBinary (host : PipelineHost) (settings : Settings) : List ScriptEvent × StageEnd :=
  let code_fd := settings.code_fd.toString
  let ref_fd := settings.ref_fd.toString
  match host.copyError code_fd ref_fd with
  | some e => ([], .raised e)
  | none =>
    let patched := [.copy code_fd ref_fd, .patch settings.patch_cmd settings.fw_patch_repo.toString]
    match runChecked host settings.patch_cmd with
    | .done =>
      match host.unlinkError ref_fd with
      | some e => (patched, .raised e)
      | none => (patched ++ [.unlink ref_fd], .done)
    | other => (patched, other)

/-- The console mode `_run_qemu` writes back: the one `GetConsoleMode` read, on Windows, from
a non-zero handle. -/
def savedConsoleMode (host : PipelineHost) : Option Nat :=
  if host.osName = "nt" ∧ host.stdHandle ≠ 0 then host.consoleMode else none

/-- `_run_qemu(settings)`. The `finally` clause writes the mode back only when it is truthy,
that is non-zero. -/
def runQemu (host : PipelineHost) (settings : Settings) : List ScriptEvent × StageEnd :=
  ((savedConsoleMode host).toList.map .saveConsoleMode ++ [.runQemu settings.qemu_cmd] ++
      ((savedConsoleMode host).filter (· ≠ 0)).toList.map .restoreConsoleMode,
    runChecked host settings.qemu_cmd)

/-- The next stage, when the previous one ended normally. -/
def thenStage : List ScriptEvent × StageEnd → List ScriptEvent × StageEnd →
    List ScriptEvent × StageEnd
  | (events, .done), (more, last) => (events ++ more, last)
  | failed, _ => failed

/-- The three stages of `main`'s `try` block. -/
def stages (host : PipelineHost) (settings : Settings) : List ScriptEvent × StageEnd :=
  thenStage (if settings.custom_efi then ([], .done) else buildRustDxeCore host settings)
    (thenStage (patchRustBinary host settings) (runQemu host settings))

/-- How `main` ends after its `try` block: `exit(e.returncode)` for a `CalledProcessError`. -/
def StageEnd.outcome : StageEnd → ScriptOutcome
  | .done => .exit 0
  | .calledProcessError r => .exit r
  | .systemExit r => .exit r
  | .raised e => .raised e

/-- `main()`, from the namespace argparse returns. -/
def scriptMain (host : ScriptHost) (pipeline : PipelineHost) (args : ScriptArgs) :
    List ScriptEvent × ScriptOutcome :=
  match configureSettings host (parseArguments args) with
  | .error (.valueError _) => ([], .exit 1)
  | .error e => ([], .raised e)
  | .ok settings =>
    let run := stages pipeline settings
    (run.1, run.2.outcome)

/-! ## Each stage -/

section Stages

variable (host : PipelineHost) (settings : Settings)

theorem runChecked_of_spawn {cmd : List String} {r : Int} (status : host.spawn cmd = .ok r) :
    runChecked host cmd = if r = 0 then .done else .calledProcessError r := by
  simp [runChecked, status]

theorem buildRustDxeCore_of_spawn {r : Int} (status : host.spawn settings.build_cmd = .ok r) :
    buildRustDxeCore host settings =
      ([.build settings.build_cmd ("-Zunstable-options" ∈ settings.build_cmd)],
        if r = 0 then .done else .systemExit r) := by
  by_cases ok : r = 0 <;> simp [buildRustDxeCore, runChecked_of_spawn host status, ok]

theorem patchRustBinary_of_spawn
    (copied : host.copyError settings.code_fd.toString settings.ref_fd.toString = none)
    {r : Int} (status : host.spawn settings.patch_cmd = .ok r)
    (unlinked : host.unlinkError settings.ref_fd.toString = none) :
    patchRustBinary host settings =
      if r = 0 then
        ([.copy settings.code_fd.toString settings.ref_fd.toString,
          .patch settings.patch_cmd settings.fw_patch_repo.toString, .unlink settings.ref_fd.toString],
          .done)
      else
        ([.copy settings.code_fd.toString settings.ref_fd.toString,
          .patch settings.patch_cmd settings.fw_patch_repo.toString], .calledProcessError r) := by
  by_cases ok : r = 0 <;> simp [patchRustBinary, copied, runChecked_of_spawn host status, ok, unlinked]

theorem patchRustBinary_of_failure
    (copied : host.copyError settings.code_fd.toString settings.ref_fd.toString = none)
    {r : Int} (status : host.spawn settings.patch_cmd = .ok r) (failed : r ≠ 0) :
    patchRustBinary host settings =
      ([.copy settings.code_fd.toString settings.ref_fd.toString,
        .patch settings.patch_cmd settings.fw_patch_repo.toString], .calledProcessError r) := by
  simp [patchRustBinary, copied, runChecked_of_spawn host status, failed]

theorem thenStage_snd (first next : List ScriptEvent × StageEnd) :
    (thenStage first next).2 = if first.2 = .done then next.2 else first.2 := by
  rcases first with ⟨events, _ | _ | _ | _⟩ <;> rfl

end Stages

/-! ## The build command -/

theorem platformConfiguration_build_cmd {host : ScriptHost} {args : ScriptArgs}
    {c : PlatformSettings} (configured : platformConfiguration host args = .ok c) :
    ∃ target, c.build_cmd = buildCmd args target := by
  unfold platformConfiguration at configured
  split at configured
  · exact ⟨_, (q35Configuration_of_ok configured).2.2.1⟩
  · split at configured
    · exact ⟨_, (sbsaConfiguration_of_ok configured).2.2.1⟩
    · cases configured

/-- Every build command the settings can hold asks cargo for unstable options, so the build
stage always runs with `RUSTC_BOOTSTRAP=1`. -/
theorem unstable_mem_build_cmd {host : ScriptHost} {args : ScriptArgs} {settings : Settings}
    (built : configureSettings host args = .ok settings) : "-Zunstable-options" ∈ settings.build_cmd := by
  obtain ⟨c, configured, built⟩ := bind_eq_ok.1 built
  obtain ⟨target, hc⟩ := platformConfiguration_build_cmd configured
  split at built <;> split at built <;> cases built <;> simp [hc, buildCmd]

/-! ## The script -/

theorem scriptMain_of_built (host : ScriptHost) (pipeline : PipelineHost) (args : ScriptArgs)
    {settings : Settings} (built : configureSettings host (parseArguments args) = .ok settings) :
    scriptMain host pipeline args =
      ((stages pipeline settings).1, (stages pipeline settings).2.outcome) := by
  simp only [scriptMain, built]

/-- When the settings build, the image copies and the reference image deletes, and each
command runs, the script exits with the status of the first stage that fails, in the order
build (run only without a custom EFI file), patch, QEMU; with QEMU's status when none fails
before it. -/
theorem scriptMain_exit (host : ScriptHost) (pipeline : PipelineHost) (args : ScriptArgs)
    {settings : Settings} (built : configureSettings host (parseArguments args) = .ok settings)
    (copied : pipeline.copyError settings.code_fd.toString settings.ref_fd.toString = none)
    (unlinked : pipeline.unlinkError settings.ref_fd.toString = none) {rb rp rq : Int}
    (buildStatus : pipeline.spawn settings.build_cmd = .ok rb)
    (patchStatus : pipeline.spawn settings.patch_cmd = .ok rp)
    (qemuStatus : pipeline.spawn settings.qemu_cmd = .ok rq) :
    (scriptMain host pipeline args).2 =
      .exit (if settings.custom_efi = false ∧ rb ≠ 0 then rb else if rp ≠ 0 then rp else rq) := by
  have patched := patchRustBinary_of_spawn pipeline settings copied patchStatus unlinked
  have qemu : (runQemu pipeline settings).2 = if rq = 0 then .done else .calledProcessError rq :=
    runChecked_of_spawn pipeline qemuStatus
  rw [scriptMain_of_built host pipeline args built]
  simp only [stages, thenStage_snd, buildRustDxeCore_of_spawn pipeline settings buildStatus,
    patched, qemu]
  by_cases hb : rb = 0 <;> by_cases hp : rp = 0 <;> by_cases hq : rq = 0 <;>
    cases settings.custom_efi <;> simp [hb, hp, hq, StageEnd.outcome]

/-- The default command line on a Linux host, with a build and a QEMU that succeed and a patch
tool that exits with status 2. -/
theorem scriptMain_exit_patch_status :
    (scriptMain linuxHost
      ⟨"posix", fun cmd => .ok (if cmd.head? = some "python" then 2 else 0), fun _ _ => none,
        fun _ => none, 0, none⟩ defaultArgs).2 = .exit 2 :=
  scriptMain_exit linuxHost
    ⟨"posix", fun cmd => .ok (if cmd.head? = some "python" then 2 else 0), fun _ _ => none,
      fun _ => none, 0, none⟩ defaultArgs rfl rfl rfl rfl rfl rfl

/-- A patch tool that exits with a non-zero status, after a build that succeeded or was
skipped, ends the script with that status. The firmware image has been copied to the reference
image, which is never deleted, and QEMU does not run. -/
theorem scriptMain_patch_fails (host : ScriptHost) (pipeline : PipelineHost) (args : ScriptArgs)
    {settings : Settings} (built : configureSettings host (parseArguments args) = .ok settings)
    (buildOk : settings.custom_efi = false → pipeline.spawn settings.build_cmd = .ok 0)
    (copied : pipeline.copyError settings.code_fd.toString settings.ref_fd.toString = none)
    {rp : Int} (patchStatus : pipeline.spawn settings.patch_cmd = .ok rp) (failed : rp ≠ 0) :
    scriptMain host pipeline args =
      ((if settings.custom_efi then [] else [.build settings.build_cmd true]) ++
        [.copy settings.code_fd.toString settings.ref_fd.toString,
          .patch settings.patch_cmd settings.fw_patch_repo.toString], .exit rp) := by
  have patched := patchRustBinary_of_failure pipeline settings copied patchStatus failed
  rw [scriptMain_of_built host pipeline args built]
  cases efi : settings.custom_efi
  · have build := buildRustDxeCore_of_spawn pipeline settings (buildOk efi)
    simp [stages, efi, build, unstable_mem_build_cmd built, patched, thenStage, StageEnd.outcome]
  · simp [stages, efi, patched, thenStage, StageEnd.outcome]

/-- The default command line on a Linux host, with a patch tool that exits with status 2: the
reference image stays next to the firmware image. -/
theorem scriptMain_patch_fails_default :
    scriptMain linuxHost
      ⟨"posix", fun cmd => .ok (if cmd.head? = some "python" then 2 else 0), fun _ _ => none,
        fun _ => none, 0, none⟩ defaultArgs =
      ([.build ["cargo", "-Zunstable-options", "-C", "../patina-dxe-core-qemu", "make", "q35"] true,
        .copy "/home/user/patina-qemu/Build/QemuQ35PkgX64/DEBUG_VS2022/FV/QEMUQ35_CODE.fd"
          "/home/user/patina-qemu/Build/QemuQ35PkgX64/DEBUG_VS2022/FV/QEMUQ35_CODE.ref.fd",
        .patch ["python", "patch.py", "-c", "../patina-fw-patcher/Configs/QemuQ35.json", "-i",
          "../patina-dxe-core-qemu/target/x86_64-unknown-uefi/debug/qemu_q35_dxe_core.efi", "-r",
          "/home/user/patina-qemu/Build/QemuQ35PkgX64/DEBUG_VS2022/FV/QEMUQ35_CODE.ref.fd", "-o",
          "/home/user/patina-qemu/Build/QemuQ35PkgX64/DEBUG_VS2022/FV/QEMUQ35_CODE.fd"]
          "../patina-fw-patcher"], .exit 2) :=
  scriptMain_patch_fails linuxHost
    ⟨"posix", fun cmd => .ok (if cmd.head? = some "python" then 2 else 0), fun _ _ => none,
      fun _ => none, 0, none⟩ defaultArgs rfl (fun _ => rfl) rfl rfl (by decide)

end PatinaQemu
