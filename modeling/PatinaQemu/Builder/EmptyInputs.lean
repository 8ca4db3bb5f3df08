import PatinaQemu.Builder.Run

set_option autoImplicit false

/-!
# Calls with nothing to add

Most methods of the builder skip an optional input that is `None` or empty: they return the
builder as it was, without setting their category's flag, so that a later call with a real
input still configures the category. `with_usb_storage` and `with_virtual_drive` also skip a
drive path that is neither a file nor a directory; `with_usb_storage` has then already taken a
number from the counter when it names the disk itself. `with_tpm` alone tests its input with
`is None`, so an empty TPM path configures the TPM.

The counter is read only by a call that names a disk by it (`step_withIndex`), so a skipped
call, which changes nothing else, leaves every later run that names no disk by the counter
building what it would have built without it.

## Main definitions

* `emptyInput`, `PyObj.isEmptyInput` — an optional input that is `None` or empty
* `Call.skipsInput` — the calls with such an input, and the drive calls whose path is neither
  a file nor a directory

## Main results

* `step_withIndex`, `run_withIndex` — only a call that numbers a disk reads the counter
* `skipped_call_changes_nothing` — a skipped call raises nothing and changes nothing but the
  counter, and the later runs that number no disk behave as without it
* `withTpm_empty_configures` — `with_tpm("")` configures the TPM, and a later path is ignored
-/

namespace PatinaQemu

open QemuCommandBuilder

/-- An optional `str` input that is `None` or empty. -/
def emptyInput : Option String → Bool
  | some s => decide (s = "")
  | none => true

/-- A value that is `None` or the empty string. -/
def PyObj.isEmptyInput : PyObj → Bool
  | .none => true
  | .str s => decide (s = "")
  | _ => false

/-- A drive path that is `None`, empty, or neither a file nor a directory. -/
def missingDrive (fs : FileSystem) : Option String → Bool
  | some p => decide (p = "") || (!fs.isfile p && !fs.isdir p)
  | none => true

/-- The calls with nothing to add: an optional input that is `None` or empty (for `with_tpm`,
`None`), or a drive path that is neither a file nor a directory. -/
def Call.skipsInput : Call → Bool
  | .withRomPath _ rom_dir => emptyInput rom_dir
  | .withFirmware code_fd _ => code_fd.isEmptyInput
  | .withUsbStorage fs drive_file _ _ => missingDrive fs drive_file
  | .withVirtualDrive fs virtual_drive => missingDrive fs virtual_drive
  | .withOsStorage _ path_to_os => path_to_os.isEmptyInput
  | .withTpm tpm_dev => tpm_dev.isNone
  | .withGdbServer port _ => port.isEmptyInput
  | .withMonitorPort port _ => port.isEmptyInput
  | _ => false

theorem given_eq_none_of_emptyInput {o : Option String} (h : emptyInput o = true) :
    given o = none := by
  cases o with
  | none => rfl
  | some s => simpa [emptyInput, given_some] using h

theorem truthy_eq_false_of_isEmptyInput {v : PyObj} (h : v.isEmptyInput = true) :
    v.truthy = false := by
  cases v <;> simp_all [PyObj.isEmptyInput, PyObj.truthy]

theorem missingDrive_some {fs : FileSystem} {p : String} (h : missingDrive fs (some p) = true)
    (hp : p ≠ "") : fs.isfile p = false ∧ fs.isdir p = false := by
  simpa [missingDrive, hp] using h

/-! ## The counter is read only by a call that numbers a disk -/

section Counter

variable (b : QemuCommandBuilder) (n : Nat)

theorem once_withIndex (c : Category) (emit : Option (List String)) :
    ({ b with usbStorageIndex := n } : QemuCommandBuilder).once c emit =
      { b.once c emit with usbStorageIndex := n } := by
  unfold once
  cases b.added c <;> cases emit <;> rfl

theorem attachUsbDisk_withIndex (fs : FileSystem) (f fmt i : String) :
    ({ b with usbStorageIndex := n } : QemuCommandBuilder).attachUsbDisk fs f fmt i =
      { b.attachUsbDisk fs f fmt i with usbStorageIndex := n } := by
  unfold attachUsbDisk
  split <;> [rfl; split <;> rfl]

theorem withOsStorage_withIndex (f : PathFlavour) (p : PyObj) :
    ({ b with usbStorageIndex := n } : QemuCommandBuilder).withOsStorage f p =
      (b.withOsStorage f p).map fun b' => { b' with usbStorageIndex := n } := by
  unfold withOsStorage
  cases p.truthy
  · rfl
  · simp only [Bool.not_true, Bool.false_eq_true, ite_false, bind, Except.bind]
    rcases pathSuffix f p with e | q
    · rfl
    · dsimp only
      cases storageFormat (osExtension q) <;> rfl

/-- A call that names no disk by the counter acts the same whatever the counter holds. -/
theorem step_withIndex {y : Call} (h : y.takesUsbIndex = false) :
    step { b with usbStorageIndex := n } y = { step b y with usbStorageIndex := n } := by
  cases y with
  | withUsbStorage fs f i fmt =>
    simp only [step, Call.apply, withUsbStorage]
    cases hf : given f with
    | none => rfl
    | some p =>
      cases hi : given i with
      | some d => exact attachUsbDisk_withIndex b n fs p fmt d
      | none => simp [Call.takesUsbIndex, hf, hi] at h
  | withVirtualDrive fs v =>
    simp only [step, Call.apply, withVirtualDrive]
    split <;> [rfl; split <;> [rfl; split <;> rfl]]
  | withOsStorage f p =>
    simp only [step, Call.apply, withOsStorage_withIndex]
    cases b.withOsStorage f p <;> rfl
  | withNetwork e f u =>
    simp only [step, Call.apply, withNetwork]
    split <;> [rfl; split <;> [rfl; split <;> rfl]]
  | withShutdownFromGuest s =>
    simp only [step, Call.apply, withShutdownFromGuest]
    split <;> rfl
  | withCustom args => rfl
  | _ =>
    simp only [step, Call.apply, withRomPath, withMachine, withCpu, withFirmware,
      withUsbController, withUsbMouse, withUsbKeyboard, withMemory, withSmbios, withTpm,
      withDisplay, withGdbServer, withSerialPort, withMonitorPort, once_withIndex]

theorem run_withIndex {ys : List Call} (unnumbered : ∀ y ∈ ys, y.takesUsbIndex = false) :
    run { b with usbStorageIndex := n } ys = { run b ys with usbStorageIndex := n } := by
  induction ys generalizing b with
  | nil => rfl
  | cons y ys ih =>
    rw [run_cons, run_cons, step_withIndex b n (unnumbered y (List.mem_cons_self _ _))]
    exact ih _ fun z hz => unnumbered z (List.mem_cons_of_mem _ hz)

end Counter

/-! ## A skipped call -/

/-- A skipped call raises nothing, and the state it leaves differs from the one it found at
most in the counter, which advances when the call names its (missing) disk itself. -/
theorem apply_of_skipsInput (b : QemuCommandBuilder) {x : Call} (skips : x.skipsInput = true) :
    x.apply b =
      ({ b with usbStorageIndex := b.usbStorageIndex + if x.takesUsbIndex then 1 else 0 }, none) := by
  cases x with
  | withRomPath f d =>
    simp [Call.apply, withRomPath, given_eq_none_of_emptyInput skips, Call.takesUsbIndex]
  | withFirmware code vars =>
    simp [Call.apply, withFirmware, truthy_eq_false_of_isEmptyInput skips, Call.takesUsbIndex]
  | withOsStorage f p =>
    simp [Call.apply, withOsStorage, truthy_eq_false_of_isEmptyInput skips, Call.takesUsbIndex]
  | withTpm t =>
    cases t with
    | none => simp [Call.apply, withTpm, Call.takesUsbIndex]
    | some _ => cases skips
  | withGdbServer port ip =>
    simp [Call.apply, withGdbServer, truthy_eq_false_of_isEmptyInput skips, Call.takesUsbIndex]
  | withMonitorPort port ip =>
    simp [Call.apply, withMonitorPort, truthy_eq_false_of_isEmptyInput skips, Call.takesUsbIndex]
  | withUsbStorage fs f i fmt =>
    cases f with
    | none => simp [Call.apply, withUsbStorage, Call.takesUsbIndex]
    | some p =>
      by_cases hp : p = ""
      · simp [Call.apply, withUsbStorage, Call.takesUsbIndex, given_some, hp]
      · obtain ⟨notFile, notDir⟩ := missingDrive_some skips hp
        cases hi : given i <;>
          simp [Call.apply, withUsbStorage, Call.takesUsbIndex, given_some, hp, hi, attachUsbDisk,
            notFile, notDir]
  | withVirtualDrive fs v =>
    cases v with
    | none => simp [Call.apply, withVirtualDrive, Call.takesUsbIndex]
    | some p =>
      by_cases hp : p = ""
      · simp [Call.apply, withVirtualDrive, Call.takesUsbIndex, given_some, hp]
      · obtain ⟨notFile, notDir⟩ := missingDrive_some skips hp
        simp [Call.apply, withVirtualDrive, Call.takesUsbIndex, given_some, hp, notFile, notDir]
  | _ => cases skips

/-- For both machines and every state: a call whose optional input is `None` or empty (for
`with_tpm`, `None`), or a `with_usb_storage` or `with_virtual_drive` call whose path is neither
a file nor a directory, returns without raising and leaves the arguments and every flag as
they were, and every later sequence of calls that numbers no disk by the counter builds the
same command, with the same flags, as it would have without it. -/
theorem skipped_call_changes_nothing (b : QemuCommandBuilder) {x : Call}
    (skips : x.skipsInput = true) :
    x.apply b =
        ({ b with usbStorageIndex := b.usbStorageIndex + if x.takesUsbIndex then 1 else 0 }, none) ∧
      ∀ ys : List Call, (∀ y ∈ ys, y.takesUsbIndex = false) →
        (run (step b x) ys).build = (run b ys).build ∧ (run (step b x) ys).added = (run b ys).added := by
  have applied := apply_of_skipsInput b skips
  refine ⟨applied, fun ys unnumbered => ?_⟩
  rw [step, applied, run_withIndex b _ unnumbered]
  exact ⟨rfl, rfl⟩

/-- An empty ROM directory, then a real one: the real one is used. -/
theorem romPath_empty_then_given :
    (run (init (.str "qemu-system-x86_64") .Q35)
        [.withRomPath .posix (some ""), .withRomPath .posix (some "share")]).build =
      (run (init (.str "qemu-system-x86_64") .Q35) [.withRomPath .posix (some "share")]).build :=
  ((skipped_call_changes_nothing (init (.str "qemu-system-x86_64") .Q35)
    (show (Call.withRomPath .posix (some "")).skipsInput = true from rfl)).2
    [.withRomPath .posix (some "share")] (by decide)).1

/-- `with_tpm` skips only `None`: an empty path configures the TPM, and the path a later
call gives is ignored. -/
theorem withTpm_empty_configures :
    (run (init (.str "qemu-system-x86_64") .Q35)
        [.withTpm (some ""), .withTpm (some "/tmp/swtpm.sock")]).args =
      initialArgs .Q35 ++ tpmArgs .Q35 "" := rfl

end PatinaQemu
