import PatinaQemu.Builder.Declarations

set_option autoImplicit false

/-!
# The flash drives of a command line

The firmware lives on QEMU's pflash drives: the `-drive` values with an
`if=pflash` field. Only `with_firmware` writes that field, and it is guarded, so
the flash drives of any run are those of the first `with_firmware` call that has
a code image: on Q35 the code on unit 0 and the variables on unit 1, on SBSA the
variables (when given) on unit 0 and the code on unit 1, the code read-only in
both. This holds when the paths, drive ids and formats of the run contain no comma;
a comma lets a drive id smuggle in an `if=pflash` field
(`usbStorage_comma_id_adds_flash_drive`).

## Main definitions

* `flashFields`, `flashDeclarations` — the flash drives, as field lists
* `firstFirmware` — the first `with_firmware` call with a code image

## Main results

* `flashDeclarations_run` — the flash drives are exactly those of `firstFirmware`
-/

namespace PatinaQemu

open QemuCommandBuilder

/-- The field lists of the pflash drives among some declarations. -/
def flashFields (ds : List (String × List String)) : List (List String) :=
  (ds.filter fun d => d.1 = "-drive" ∧ "if=pflash" ∈ d.2).map Prod.snd

/-- The pflash drives of an argument list. -/
def flashDeclarations (args : List String) : List (List String) := flashFields (declarations args)

@[simp] theorem flashFields_nil : flashFields [] = [] := rfl

@[simp] theorem flashFields_append (ds es : List (String × List String)) :
    flashFields (ds ++ es) = flashFields ds ++ flashFields es := by
  simp [flashFields]

/-- The first `with_firmware` call with a code image, and its images. -/
def firstFirmware : List Call → Option (PyObj × PyObj)
  | [] => none
  | .withFirmware code vars :: xs => if code.truthy then some (code, vars) else firstFirmware xs
  | _ :: xs => firstFirmware xs

/-! ## Which calls declare flash drives -/

theorem flashFields_flashDrives (arch : QemuArchitecture) (code vars : PyObj) :
    flashFields (Call.flashDrives arch code vars) = (Call.flashDrives arch code vars).map Prod.snd := by
  cases arch <;> by_cases hv : vars.truthy <;> simp [flashFields, Call.flashDrives, hv]

theorem flashFields_usbDisk (file fmt id : String) : flashFields (Call.usbDisk file fmt id) = [] := by
  simp (disch := decide) [flashFields, Call.usbDisk, ne_append_of_not_isPrefix]

theorem flashFields_osDisk (arch : QemuArchitecture) (file fmt : String) :
    flashFields (Call.osDisk arch file fmt) = [] := by
  cases arch <;> simp (disch := decide) [flashFields, Call.osDisk, ne_append_of_not_isPrefix]

/-- Every call but `with_firmware` declares no flash drive. -/
theorem flashFields_declares (b : QemuCommandBuilder) (x : Call)
    (notFirmware : ∀ code vars, x ≠ .withFirmware code vars) : flashFields (x.declares b) = [] := by
  cases x with
  | withFirmware code vars => exact absurd rfl (notFirmware code vars)
  | withUsbStorage fs f i fmt =>
    simp only [Call.declares]
    split
    · rfl
    · split <;> [skip; split] <;> simp [flashFields_usbDisk]
  | withVirtualDrive fs v =>
    simp only [Call.declares]
    split
    · rfl
    · split <;> [skip; split] <;> simp (disch := decide) [flashFields, ne_append_of_not_isPrefix]
  | withOsStorage _ p =>
    simp only [Call.declares]
    split
    · split <;> simp [flashFields_osDisk]
    · rfl
  | withNetwork e f u =>
    simp only [Call.declares]
    split_ifs <;> (try split) <;> simp [flashFields]
  | _ =>
    simp only [Call.declares]
    (try split_ifs) <;> simp [flashFields]

theorem Call.eq_withFirmware_of_category {x : Call} (h : x.category = some .firmware) :
    ∃ code vars, x = .withFirmware code vars := by
  cases x <;> simp [Call.category] at h ⊢

/-- A call other than `with_firmware` leaves the firmware unconfigured. -/
theorem firmware_unset_step {b : QemuCommandBuilder} {x : Call}
    (notFirmware : ∀ code vars, x ≠ .withFirmware code vars) (h : b.added .firmware = false) :
    (step b x).added .firmware = false := by
  rcases added_step b x with e | ⟨c, hc, e⟩
  · rw [e, h]
  · have hne : Category.firmware ≠ c := by
      rintro rfl
      obtain ⟨code, vars, rfl⟩ := Call.eq_withFirmware_of_category hc
      exact notFirmware code vars rfl
    rw [e, Function.update_noteq hne, h]

theorem firstFirmware_cons_of_ne {x : Call} (notFirmware : ∀ code vars, x ≠ .withFirmware code vars)
    (xs : List Call) : firstFirmware (x :: xs) = firstFirmware xs := by
  cases x <;> simp_all [firstFirmware]

/-! ## Over a run -/

/-- Once the firmware is configured, no call declares a flash drive. -/
theorem flashFields_declaresRun_of_added {b : QemuCommandBuilder} (xs : List Call)
    (h : b.added .firmware = true) : flashFields (declaresRun b xs) = [] := by
  induction xs generalizing b with
  | nil => rfl
  | cons x xs ih =>
    have hx : flashFields (x.declares b) = [] := by
      by_cases hf : ∃ code vars, x = .withFirmware code vars
      · obtain ⟨code, vars, rfl⟩ := hf
        simp [Call.declares, h]
      · simp only [not_exists] at hf
        exact flashFields_declares b x hf
    rw [declaresRun, flashFields_append, hx, ih (added_step_of_added x h)]
    rfl

/-- While the firmware is unconfigured, a run declares the flash drives of its first
`with_firmware` call with a code image, and no other. -/
theorem flashFields_declaresRun {b : QemuCommandBuilder} (xs : List Call)
    (h : b.added .firmware = false) :
    flashFields (declaresRun b xs) =
      match firstFirmware xs with
      | none => []
      | some (code, vars) => (Call.flashDrives b.architecture code vars).map Prod.snd := by
  induction xs generalizing b with
  | nil => rfl
  | cons x xs ih =>
    by_cases hx : ∃ code vars, x = .withFirmware code vars
    · obtain ⟨code, vars, rfl⟩ := hx
      by_cases hc : code.truthy
      · have set : (step b (.withFirmware code vars)).added .firmware = true := by
          simp [step, Call.apply, withFirmware, hc, once_some_of_not_added b h]
        simp [declaresRun, Call.declares, h, hc, firstFirmware, flashFields_flashDrives,
          flashFields_declaresRun_of_added xs set]
      · have same : step b (.withFirmware code vars) = b := by
          simp [step, Call.apply, withFirmware, hc]
        simp [declaresRun, Call.declares, hc, firstFirmware, same, ih h]
    · simp only [not_exists] at hx
      rw [declaresRun, flashFields_append, flashFields_declares b x hx,
        ih (firmware_unset_step hx h), step_architecture, firstFirmware_cons_of_ne hx]
      rfl

/-- In every run without `with_custom` whose paths, drive ids and formats contain no
comma, the pflash drives are exactly those the first `with_firmware` call with a
code image writes: none without such a call; on Q35 the code on unit 0, read-only,
and the vars image on unit 1; on SBSA the vars image on unit 0 when one is given and
the code on unit 1, read-only. -/
theorem flashDeclarations_run (executable : PyObj) (arch : QemuArchitecture) (xs : List Call)
    (noCustom : ∀ x ∈ xs, x.isCustom = false) (commaFree : ∀ x ∈ xs, x.commaFree = true) :
    flashDeclarations (run (init executable arch) xs).build.2 =
      match firstFirmware xs with
      | none => []
      | some (code, vars) => (Call.flashDrives arch code vars).map Prod.snd := by
  rw [build, flashDeclarations,
    declarations_run _ xs (length_initialArgs_even arch) noCustom commaFree, flashFields_append,
    flashFields_declaresRun xs rfl]
  cases arch <;> simp [init, declarations_initialArgs, flashFields]

theorem flashDeclarations_sbsa_first_firmware :
    flashDeclarations (run (init (.str "qemu-system-aarch64") .SBSA)
        [.withFirmware (.str "QEMU_EFI.fd") .none,
         .withFirmware (.str "OTHER_EFI.fd") (.str "SECURE_FLASH0.fd")]).build.2 =
      [["if=pflash", "format=raw", "unit=1", "file=" ++ "QEMU_EFI.fd", "readonly=on"]] :=
  flashDeclarations_run _ _ _ (by decide) (by decide)

/-- A comma in a USB drive id smuggles an `if=pflash` field into a drive that no
`with_firmware` call wrote. -/
theorem usbStorage_comma_id_adds_flash_drive :
    let xs := [Call.withUsbStorage ⟨fun _ => true, fun _ => false⟩ (some "disk.img")
      (some "d,if=pflash") "raw"]
    firstFirmware xs = none ∧
      flashDeclarations (run (init (.str "qemu-system-x86_64") .Q35) xs).build.2 =
        [["file=disk.img", "format=raw", "media=disk", "if=none", "id=d", "if=pflash"]] := by
  decide

end PatinaQemu
