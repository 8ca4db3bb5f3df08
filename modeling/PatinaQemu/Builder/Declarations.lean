import PatinaQemu.Builder.OptionValue

set_option autoImplicit false

/-!
# The drives and devices a command line declares

QEMU creates one block device for each `-drive` value and one device for each
`-device` value; an `id=` field names it and the other fields configure it.
`declarations` reads these declarations off an argument list the way QEMU does, and
`Call.declares` says which declarations each builder call adds, as the field lists
its method writes.

The two levels meet in `declarations_step`: when a call writes no comma through its
string arguments (`Call.commaFree`), the argument list gains exactly what the call
declares. `declarations_run` extends this to every run without `with_custom`.

## Main definitions

* `declarations` — the `-drive` and `-device` values of an argument list, decoded
* `Call.declares`, `declaresRun` — what one call, and a run of calls, declares
* `Call.commaFree` — the call's paths, drive ids and formats contain no comma

## Main results

* `declarations_step` — one call adds exactly what it declares
* `declarations_run` — a run adds what its calls declare, in order
-/

namespace PatinaQemu

open QemuCommandBuilder

/-- The `-drive` and `-device` values of an argument list, each read as QEMU reads it. -/
def declarations (args : List String) : List (String × List String) :=
  (decodedPairs args).filter fun d => d.1 = "-drive" ∨ d.1 = "-device"

@[simp] theorem declarations_nil : declarations [] = [] := rfl

@[simp] theorem declarations_cons_cons (o v : String) (rest : List String) :
    declarations (o :: v :: rest) =
      (if o = "-drive" ∨ o = "-device" then [(o, qemuOptFields v)] else []) ++
        declarations rest := by
  by_cases h : o = "-drive" ∨ o = "-device" <;>
    simp [declarations, decodedPairs, List.filter_cons, h]

theorem declarations_append {xs : List String} (even : xs.length % 2 = 0) (ys : List String) :
    declarations (xs ++ ys) = declarations xs ++ declarations ys := by
  simp [declarations, decodedPairs, pairs_append even]

theorem declarations_eq_filter (toks : List String) :
    declarations toks = (decodedPairs toks).filter fun d => d.1 = "-drive" ∨ d.1 = "-device" :=
  rfl

/-- A text that does not start as `t` does is not `t`, whatever follows it. -/
theorem ne_append_of_not_isPrefix {a t : String} (h : ¬ a.toList <+: t.toList) (s : String) :
    t ≠ a ++ s := fun e => h ⟨s.toList, by rw [e]; simp [String.toList]⟩

/-- A string without a comma. -/
def noComma (s : String) : Bool := decide (',' ∉ s.toList)

@[simp] theorem noComma_iff (s : String) : noComma s = true ↔ ',' ∉ s.toList := by
  simp [noComma]

namespace Call

/-- The call writes no comma into an option value through its string arguments: the
firmware images, the USB disk's path, id and format, the virtual drive's path and the
OS image's path contain none. -/
def commaFree : Call → Bool
  | withFirmware code vars => noComma code.toStr && noComma vars.toStr
  | withUsbStorage _ f i fmt =>
    noComma ((given f).getD "") && noComma ((given i).getD "") && noComma fmt
  | withVirtualDrive _ v => noComma ((given v).getD "")
  | withOsStorage _ p => noComma p.toStr
  | _ => true

/-- The pflash drives `with_firmware` writes for its code and vars images. -/
def flashDrives (arch : QemuArchitecture) (code vars : PyObj) : List (String × List String) :=
  match arch with
  | .Q35 =>
    [("-drive", ["if=pflash", "format=raw", "unit=0", "file=" ++ code.toStr, "readonly=on"]),
     ("-drive", ["if=pflash", "format=raw", "unit=1", "file=" ++ vars.toStr])]
  | .SBSA =>
    (if vars.truthy then
      [("-drive", ["if=pflash", "format=raw", "unit=0", "file=" ++ vars.toStr])] else []) ++
    [("-drive", ["if=pflash", "format=raw", "unit=1", "file=" ++ code.toStr, "readonly=on"])]

/-- A USB disk: its drive, whose `file=` field is `file`, and its `usb-storage` device. -/
def usbDisk (file fmt id : String) : List (String × List String) :=
  [("-drive", ["file=" ++ file, "format=" ++ fmt, "media=disk", "if=none", "id=" ++ id]),
   ("-device", ["usb-storage", "bus=usb.0", "drive=" ++ id])]

/-- The disk `with_os_storage` attaches a non-ISO image as. -/
def osDisk (arch : QemuArchitecture) (file fmt : String) : List (String × List String) :=
  match arch with
  | .Q35 =>
    [("-drive", ["file=" ++ file, "format=" ++ fmt, "if=none", "id=os_nvme"]),
     ("-device", ["nvme", "serial=nvme-1", "drive=os_nvme"])]
  | .SBSA =>
    [("-drive", ["file=" ++ file, "format=" ++ fmt, "if=none", "id=os_disk"]),
     ("-device", ["ahci", "id=ahci"]),
     ("-device", ["ide-hd", "drive=os_disk", "bus=ahci.0"])]

/-- The format `with_os_storage` attaches its image with, when it neither skips the
call nor raises. -/
def osFormat (flavour : PathFlavour) (p : PyObj) : Option String :=
  if p.truthy then
    match pathSuffix flavour p with
    | .ok suffix => storageFormat (osExtension suffix)
    | .error _ => none
  else none

/-- The declarations a call adds to the command line of `b`. -/
def declares (b : QemuCommandBuilder) : Call → List (String × List String)
  | withFirmware code vars =>
    if b.added .firmware = false ∧ code.truthy then flashDrives b.architecture code vars else []
  | withUsbController =>
    if b.added .usbController then [] else [("-device", ["qemu-xhci", "id=usb"])]
  | withUsbMouse =>
    if b.added .usbMouse then [] else [("-device", ["usb-mouse", "id=input0", "bus=usb.0", "port=1"])]
  | withUsbKeyboard =>
    if b.added .usbKeyboard then [] else [("-device", ["usb-kbd", "id=input1", "bus=usb.0", "port=2"])]
  | withUsbStorage fs f i fmt =>
    match given f with
    | none => []
    | some f =>
      let id := (given i).getD ("usb_storage_" ++ toString b.usbStorageIndex)
      if fs.isfile f then usbDisk f fmt id
      else if fs.isdir f then usbDisk ("fat:rw:" ++ f) fmt id else []
  | withVirtualDrive fs v =>
    match given v with
    | none => []
    | some v =>
      if fs.isfile v then [("-drive", ["file=" ++ v, "if=virtio"])]
      else if fs.isdir v then [("-drive", ["file=fat:rw:" ++ v, "format=raw", "media=disk"])]
      else []
  | withOsStorage flavour p =>
    match osFormat flavour p with
    | some f => if f = "iso" then [] else osDisk b.architecture p.toStr f
    | none => []
  | withNetwork e f u =>
    if b.added .network ∨ e.truthy = false then [] else
      match netdevConfig f with
      | .ok _ => [("-device", [if u.truthy then "virtio-net-pci" else "e1000", "netdev=net0"])]
      | .error _ => []
  | withTpm t =>
    if b.added .tpm ∨ t = none ∨ b.architecture = .SBSA then []
    else [("-device", ["tpm-tis", "tpmdev=tpm0"])]
  | withShutdownFromGuest s =>
    if s ∧ b.architecture = .Q35 then
      [("-device", ["isa-debug-exit", "iobase=0xf4", "iosize=0x04"])] else []
  | _ => []

end Call

/-- What a run declares, call after call. -/
def declaresRun : QemuCommandBuilder → List Call → List (String × List String)
  | _, [] => []
  | b, x :: xs => x.declares b ++ declaresRun (step b x) xs

/-! ## One call adds what it declares -/

theorem given_eq_some {o : Option String} {s : String} :
    given o = some s ↔ o = some s ∧ s ≠ "" := by
  cases o with
  | none => simp
  | some t =>
    rw [given_some]
    split_ifs with h
    · simp [h, eq_comm]
    · simp only [Option.some.injEq]
      exact ⟨fun e => ⟨e, e ▸ h⟩, fun e => e.1⟩

theorem declarations_usbStorageArgs {file fmt id : String} (commaFree : ',' ∉ file.toList)
    (fmtCommaFree : ',' ∉ fmt.toList) (idCommaFree : ',' ∉ id.toList) :
    declarations (usbStorageArgs file fmt id) = Call.usbDisk file fmt id := by
  simp [declarations_eq_filter, decodedPairs_usbStorageArgs commaFree fmtCommaFree idCommaFree,
    Call.usbDisk]

theorem declarations_osStorageArgs (arch : QemuArchitecture) {file fmt : String}
    (commaFree : ',' ∉ file.toList) (fmtCommaFree : ',' ∉ fmt.toList) :
    declarations (osStorageArgs arch file fmt) =
      if fmt = "iso" then [] else Call.osDisk arch file fmt := by
  by_cases iso : fmt = "iso"
  · simp [osStorageArgs, iso]
  · cases arch <;> simp [iso, declarations_eq_filter, Call.osDisk,
      decodedPairs_osStorageArgs _ commaFree fmtCommaFree iso]

section Step

variable {b : QemuCommandBuilder}

theorem declarations_once (even : b.args.length % 2 = 0) (c : Category)
    (emit : Option (List String)) :
    declarations (b.once c emit).args =
      declarations b.args ++ if b.added c then [] else (emit.map declarations).getD [] := by
  unfold once
  split
  · simp_all
  · cases emit <;> simp_all [declarations_append even]

theorem length_step_even {b : QemuCommandBuilder} (x : Call) (hx : x.isCustom = false)
    (even : b.args.length % 2 = 0) : (step b x).args.length % 2 = 0 := by
  rcases effect_step b x hx with ⟨_, toks, _, hk, h, _⟩ | ⟨toks, hk, h, _⟩ <;>
    simp only [h, List.length_append] <;> have := hk.even <;> omega

theorem declarations_step (x : Call) (even : b.args.length % 2 = 0) (hx : x.isCustom = false)
    (hc : x.commaFree = true) :
    declarations (step b x).args = declarations b.args ++ x.declares b := by
  cases x with
  | withRomPath _ d =>
    simp only [step, Call.apply, withRomPath, declarations_once even]
    cases given d <;> simp [Call.declares]
  | withMachine smm accel =>
    simp only [step, Call.apply, withMachine, declarations_once even]
    cases b.architecture <;> cases smm <;> simp [Call.declares, machineArgs]
  | withCpu model n =>
    simp only [step, Call.apply, withCpu, declarations_once even]
    cases b.architecture <;> by_cases hn : n.truthy <;> simp [Call.declares, cpuArgs, hn]
  | withFirmware code vars =>
    simp only [Call.commaFree, Bool.and_eq_true, noComma_iff] at hc
    simp only [step, Call.apply, withFirmware, declarations_once even]
    by_cases h : code.truthy
    · by_cases hf : b.added .firmware <;> cases hb : b.architecture <;>
        by_cases hv : vars.truthy <;>
        simp [Call.declares, h, hf, hb, hv, declarations_eq_filter, Call.flashDrives,
          decodedPairs_firmwareArgs_Q35 _ _ hc.1 hc.2, decodedPairs_firmwareArgs_SBSA _ _ hc.1 hc.2]
    · simp [Call.declares, h]
  | withUsbController =>
    simp only [step, Call.apply, withUsbController, declarations_once even]
    by_cases h : b.added .usbController <;>
      simp (disch := simp +decide) [Call.declares, h, qemuOptFields_optValue]
  | withUsbMouse =>
    simp only [step, Call.apply, withUsbMouse, declarations_once even]
    by_cases h : b.added .usbMouse <;>
      simp (disch := simp +decide) [Call.declares, h, qemuOptFields_optValue]
  | withUsbKeyboard =>
    simp only [step, Call.apply, withUsbKeyboard, declarations_once even]
    by_cases h : b.added .usbKeyboard <;>
      simp (disch := simp +decide) [Call.declares, h, qemuOptFields_optValue]
  | withUsbStorage fs f i fmt =>
    simp only [Call.commaFree, Bool.and_eq_true, noComma_iff] at hc
    obtain ⟨⟨hf, hi⟩, hfmt⟩ := hc
    simp only [step, Call.apply, Call.declares]
    cases hg : given f with
    | none => simp [withUsbStorage, hg]
    | some p =>
      obtain ⟨rfl, hp⟩ := given_eq_some.1 hg
      simp only [hg, Option.getD_some] at hf
      have hid : ',' ∉ ((given i).getD ("usb_storage_" ++ toString b.usbStorageIndex)).toList :=
        usbStorageId_commaFree b fun s h => by simpa [h] using hi
      rw [withUsbStorage_args b fs i fmt hp, declarations_append even]
      by_cases h1 : fs.isfile p
      · simp [h1, declarations_usbStorageArgs hf hfmt hid]
      · by_cases h2 : fs.isdir p
        · have fat : ',' ∉ ("fat:rw:" ++ p).toList := commaFree_append (by decide) hf
          simp [h1, h2, declarations_usbStorageArgs fat hfmt hid]
        · simp [h1, h2]
  | withVirtualDrive fs v =>
    simp only [Call.commaFree, noComma_iff] at hc
    simp only [step, Call.apply, withVirtualDrive, Call.declares]
    cases hg : given v with
    | none => simp
    | some p =>
      simp only [hg, Option.getD_some] at hc
      by_cases h1 : fs.isfile p
      · have file : qemuOptFields (optValue ["file=" ++ p, "if=virtio"]) = ["file=" ++ p, "if=virtio"] :=
          qemuOptFields_optValue _ (by simp)
            (by simp +decide (disch := first | decide | assumption) [plainField_append])
        simp [h1, declarations_append even, file]
      · by_cases h2 : fs.isdir p
        · have dir : qemuOptFields (optValue ["file=fat:rw:" ++ p, "format=raw", "media=disk"]) =
              ["file=fat:rw:" ++ p, "format=raw", "media=disk"] :=
            qemuOptFields_optValue _ (by simp)
              (by simp +decide (disch := first | decide | assumption) [plainField_append])
          simp [h1, h2, declarations_append even, dir]
        · simp [h1, h2]
  | withMemory n =>
    simp only [step, Call.apply, withMemory, declarations_once even]
    simp [Call.declares]
  | withOsStorage flavour p =>
    simp only [Call.commaFree, noComma_iff] at hc
    simp only [step, Call.apply, Call.declares, Call.osFormat]
    by_cases ht : p.truthy
    · cases hq : pathSuffix flavour p with
      | error e => simp [withOsStorage, ht, hq, bind, Except.bind]
      | ok q =>
        cases hs : storageFormat (osExtension q) with
        | none => simp [withOsStorage, ht, hq, hs, bind, Except.bind]
        | some f =>
          have hf : ',' ∉ f.toList := by
            rcases storageFormat_eq_some hs with rfl | rfl | rfl <;> decide
          simp [withOsStorage, ht, hq, hs, bind, Except.bind, declarations_append even,
            declarations_osStorageArgs _ hc hf]
    · simp [withOsStorage, ht]
  | withNetwork e f u =>
    simp only [step, Call.apply, withNetwork, Call.declares]
    by_cases hn : b.added .network
    · simp [hn]
    · by_cases he : e.truthy
      · cases hd : netdevConfig f with
        | error => simp [hn, he, hd]
        | ok cfg =>
          by_cases hu : u.truthy <;>
            simp (disch := simp +decide) [hn, he, hd, hu, declarations_append even,
              qemuOptFields_optValue]
      · simp [hn, he, declarations_append even]
  | withSmbios today m =>
    simp only [step, Call.apply, withSmbios, declarations_once even]
    simp [Call.declares, smbiosArgs]
  | withTpm t =>
    simp only [step, Call.apply, withTpm, declarations_once even, Call.declares]
    by_cases h : b.added .tpm
    · simp [h]
    · cases t with
      | none => simp [h]
      | some p =>
        cases hb : b.architecture <;>
          simp (disch := simp +decide) [h, hb, tpmArgs, qemuOptFields_optValue]
  | withDisplay e =>
    simp only [step, Call.apply, withDisplay, declarations_once even]
    cases b.architecture <;> cases e <;> simp [Call.declares]
  | withGdbServer port ip =>
    simp only [step, Call.apply, withGdbServer, declarations_once even]
    by_cases h : port.truthy <;> simp [Call.declares, h]
  | withSerialPort port logs ip =>
    simp only [step, Call.apply, withSerialPort, declarations_once even, Call.declares]
    by_cases h : port.truthy
    · simp [h, serialArgs]
    · simp [h, serialArgs, declarations_eq_filter, decodedPairs, List.filter_map]
  | withMonitorPort port ip =>
    simp only [step, Call.apply, withMonitorPort, declarations_once even]
    by_cases h : port.truthy <;> simp [Call.declares, h]
  | withShutdownFromGuest s =>
    simp only [step, Call.apply, withShutdownFromGuest, Call.declares]
    by_cases h : s = true ∧ b.architecture = .Q35
    · simp (disch := simp +decide) [h, declarations_append even, qemuOptFields_optValue]
    · simp [h]
  | withCustom args => simp [Call.isCustom] at hx

end Step

/-- Over a run without `with_custom` whose calls write no comma, the argument list gains
exactly what the calls declare, in order. -/
theorem declarations_run (b : QemuCommandBuilder) (xs : List Call)
    (even : b.args.length % 2 = 0) (noCustom : ∀ x ∈ xs, x.isCustom = false)
    (commaFree : ∀ x ∈ xs, x.commaFree = true) :
    declarations (run b xs).args = declarations b.args ++ declaresRun b xs := by
  induction xs generalizing b with
  | nil => simp [declaresRun]
  | cons x xs ih =>
    have hx := noCustom x (List.mem_cons_self _ _)
    rw [run_cons, ih (step b x) (length_step_even x hx even)
        (fun y hy => noCustom y (List.mem_cons_of_mem _ hy))
        (fun y hy => commaFree y (List.mem_cons_of_mem _ hy)),
      declarations_step x even hx (commaFree x (List.mem_cons_self _ _)), declaresRun,
      List.append_assoc]

theorem length_initialArgs_even (arch : QemuArchitecture) : (initialArgs arch).length % 2 = 0 := by
  cases arch <;> rfl

/-- Q35 starts with its debug-exit device, SBSA with nothing. -/
theorem declarations_initialArgs (arch : QemuArchitecture) :
    declarations (initialArgs arch) =
      match arch with
      | .Q35 => [("-device", ["isa-debug-exit", "iobase=0xf4", "iosize=0x04"])]
      | .SBSA => [] := by
  cases arch <;> decide

end PatinaQemu
