import PatinaQemu.Python.Path

set_option autoImplicit false

/-!
# The QEMU command builder

`QemuCommandBuilder` (Platforms/Common/Qemu/QemuCommandBuilder.py) accumulates
the argument list of one QEMU invocation for a Q35 or an SBSA machine. Its state
is the executable, the architecture, the argument list, fifteen "already added"
flags and the counter that numbers generated USB-storage ids.

Fourteen of the configuration methods share one shape, `once`: when their
category is already configured they return the builder unchanged; otherwise,
when their arguments call for it, they set the category's flag and append
their tokens. `with_network` sets its flag before it can raise, so it keeps a
body of its own. The storage, shutdown and custom methods carry no flag.

Each method is a definition under the method's name. The file-system answers
(`os.path.isfile`, `os.path.isdir`), the clock reading of `with_smbios` and the
class `pathlib.Path` stands for on the host (`PathFlavour`), which `with_rom_path`
and `with_os_storage` read a string with, are arguments, so that every answer is
covered.

## Main definitions

* `QemuArchitecture`, `Category` — the two machines and the fifteen flags
* `QemuCommandBuilder`, `QemuCommandBuilder.init` — the state and `__init__`
* `QemuCommandBuilder.once` — the guard shared by the flagged methods
* `QemuCommandBuilder.withRomPath`, ..., `QemuCommandBuilder.build`
-/

namespace PatinaQemu

/-- `QemuArchitecture`. -/
inductive QemuArchitecture
  | Q35
  | SBSA
  deriving DecidableEq, Repr

/-- The configuration categories that carry an "already added" flag. -/
inductive Category
  | romPath | machine | cpu | firmware | usbController | usbMouse | usbKeyboard | memory
  | network | smbios | tpm | display | gdbServer | serialPort | monitorPort
  deriving DecidableEq, Repr

/-- A `str | None` argument when it is truthy. -/
def given : Option String → Option String
  | some s => if s = "" then none else some s
  | none => none

@[simp] theorem given_none : given none = none := rfl

theorem given_some (s : String) : given (some s) = if s = "" then none else some s := rfl

/-- The clock reading `datetime.datetime.now()` that `with_smbios` formats. -/
structure Date where
  month : Nat
  day : Nat
  year : Nat
  deriving DecidableEq, Repr

/-- A number printed with at least two digits, as `%m` and `%d` print it. -/
def pad2 (n : Nat) : String := if n < 10 then "0" ++ toString n else toString n

/-- `strftime("%m/%d/%Y")`. -/
def Date.strftime (d : Date) : String :=
  pad2 d.month ++ "/" ++ pad2 d.day ++ "/" ++ toString d.year

/-- A QEMU option value made of comma-separated fields, the way the builder's
f-strings write them (`f"file={path},if=virtio"` is `optValue ["file=" ++ path, "if=virtio"]`). -/
def optValue : List String → String
  | [] => ""
  | [f] => f
  | f :: fs => f ++ "," ++ optValue fs

/-- The state of a `QemuCommandBuilder` object. -/
structure QemuCommandBuilder where
  executable : PyObj
  architecture : QemuArchitecture
  args : List String
  /-- The fifteen `_..._added` flags. -/
  added : Category → Bool
  usbStorageIndex : Nat

namespace QemuCommandBuilder

variable (b : QemuCommandBuilder)

/-- The tokens `__init__` puts first: a debug console and a debug-exit device on
Q35, nothing on SBSA. -/
def initialArgs : QemuArchitecture → List String
  | .Q35 => ["-debugcon", "stdio", "-global", "ICH9-LPC.disable_s3=1",
      "-global", "isa-debugcon.iobase=0x402",
      "-device", optValue ["isa-debug-exit", "iobase=0xf4", "iosize=0x04"]]
  | .SBSA => []

/-- `QemuCommandBuilder(executable, architecture)`. -/
def init (executable : PyObj) (architecture : QemuArchitecture) : QemuCommandBuilder :=
  ⟨executable, architecture, initialArgs architecture, fun _ => false, 0⟩

/-- `self._args.extend(toks)`. -/
def extend (toks : List String) : QemuCommandBuilder := { b with args := b.args ++ toks }

/-- Set the flag of category `c`. -/
def mark (c : Category) : QemuCommandBuilder :=
  { b with added := Function.update b.added c true }

/-- The guard of the flagged methods: nothing when `c` is already configured or
when the arguments ask for nothing (`emit = none`); otherwise mark `c` and
append the tokens. -/
def once (c : Category) (emit : Option (List String)) : QemuCommandBuilder :=
  if b.added c then b else
    match emit with
    | none => b
    | some toks => (b.mark c).extend toks

@[simp] theorem extend_args (toks : List String) : (b.extend toks).args = b.args ++ toks := rfl
@[simp] theorem extend_added (toks : List String) : (b.extend toks).added = b.added := rfl
@[simp] theorem extend_architecture (toks : List String) :
    (b.extend toks).architecture = b.architecture := rfl
@[simp] theorem extend_executable (toks : List String) :
    (b.extend toks).executable = b.executable := rfl
@[simp] theorem extend_usbStorageIndex (toks : List String) :
    (b.extend toks).usbStorageIndex = b.usbStorageIndex := rfl
@[simp] theorem mark_args (c : Category) : (b.mark c).args = b.args := rfl
@[simp] theorem mark_added (c : Category) :
    (b.mark c).added = Function.update b.added c true := rfl
@[simp] theorem mark_architecture (c : Category) :
    (b.mark c).architecture = b.architecture := rfl
@[simp] theorem mark_executable (c : Category) : (b.mark c).executable = b.executable := rfl
@[simp] theorem mark_usbStorageIndex (c : Category) :
    (b.mark c).usbStorageIndex = b.usbStorageIndex := rfl

theorem once_of_added {c : Category} (h : b.added c = true) (emit : Option (List String)) :
    b.once c emit = b := by simp [once, h]

@[simp] theorem once_none (c : Category) : b.once c none = b := by
  unfold once; split <;> rfl

theorem once_some_of_not_added {c : Category} (h : b.added c = false) (toks : List String) :
    b.once c (some toks) = (b.mark c).extend toks := by simp [once, h]

theorem once_args_of_not_added {c : Category} (h : b.added c = false) (emit : Option (List String)) :
    (b.once c emit).args = b.args ++ emit.getD [] := by
  cases emit <;> simp [once, h]

@[simp] theorem once_architecture (c : Category) (emit : Option (List String)) :
    (b.once c emit).architecture = b.architecture := by
  unfold once; split <;> [rfl; cases emit <;> rfl]

@[simp] theorem once_executable (c : Category) (emit : Option (List String)) :
    (b.once c emit).executable = b.executable := by
  unfold once; split <;> [rfl; cases emit <;> rfl]

@[simp] theorem once_usbStorageIndex (c : Category) (emit : Option (List String)) :
    (b.once c emit).usbStorageIndex = b.usbStorageIndex := by
  unfold once; split <;> [rfl; cases emit <;> rfl]

/-- `with_rom_path(rom_dir)`, on a host whose `pathlib.Path` is of `flavour`. -/
def withRomPath (flavour : PathFlavour) (rom_dir : Option String) : QemuCommandBuilder :=
  b.once .romPath ((given rom_dir).map fun d => ["-L", flavour.str d])

/-- The `accel=` clause of `with_machine`: kept only for a whitelisted accelerator. -/
def accelClause (accel : Option String) : String :=
  match given accel with
  | some a =>
    let l := pyLower a
    if l ∈ ["kvm", "tcg", "whpx"] then ",accel=" ++ l else ""
  | none => ""

/-- The tokens of `with_machine`. -/
def machineArgs (arch : QemuArchitecture) (smm_enabled : Bool) (accel : Option String) :
    List String :=
  (match arch with
    | .Q35 => ["-machine", "q35,smm=" ++ (if smm_enabled then "on" else "off") ++ accelClause accel]
    | .SBSA => ["-machine", "sbsa-ref"]) ++
  (if smm_enabled then ["-global", "driver=cfi.pflash01,property=secure,value=on"] else [])

/-- `with_machine(smm_enabled, accel)`. -/
def withMachine (smm_enabled : Bool) (accel : Option String) : QemuCommandBuilder :=
  b.once .machine (some (machineArgs b.architecture smm_enabled accel))

/-- The tokens of `with_cpu`. -/
def cpuArgs (arch : QemuArchitecture) (model : Option String) (core_count : PyObj) :
    List String :=
  (match arch with
    | .Q35 => ["-cpu", (given model).getD "qemu64" ++
        ",+rdrand,+umip,+smep,+pdpe1gb,+popcnt,+sse,+sse2,+sse3,+ssse3,+sse4.2,+sse4.1"]
    | .SBSA => ["-cpu", "max,sve=off,sme=off"]) ++
  (if core_count.truthy then ["-smp", core_count.toStr] else [])

/-- `with_cpu(model, core_count)`. -/
def withCpu (model : Option String) (core_count : PyObj) : QemuCommandBuilder :=
  b.once .cpu (some (cpuArgs b.architecture model core_count))

/-- The tokens of `with_firmware`: Q35 puts the code on unit 0 and the variables
on unit 1, SBSA the variables (when given) on unit 0 and the code on unit 1. -/
def firmwareArgs (arch : QemuArchitecture) (code_fd vars_fd : PyObj) : List String :=
  match arch with
  | .Q35 =>
    ["-drive", optValue ["if=pflash", "format=raw", "unit=0", "file=" ++ code_fd.toStr, "readonly=on"],
     "-drive", optValue ["if=pflash", "format=raw", "unit=1", "file=" ++ vars_fd.toStr]]
  | .SBSA =>
    (if vars_fd.truthy then
      ["-drive", optValue ["if=pflash", "format=raw", "unit=0", "file=" ++ vars_fd.toStr]]
    else []) ++
    ["-drive", optValue ["if=pflash", "format=raw", "unit=1", "file=" ++ code_fd.toStr, "readonly=on"]]

example : firmwareArgs .Q35 (.str "CODE.fd") (.str "VARS.fd") =
    ["-drive", "if=pflash,format=raw,unit=0,file=CODE.fd,readonly=on",
     "-drive", "if=pflash,format=raw,unit=1,file=VARS.fd"] := rfl

/-- `with_firmware(code_fd, vars_fd)`. -/
def withFirmware (code_fd vars_fd : PyObj) : QemuCommandBuilder :=
  b.once .firmware (if code_fd.truthy then some (firmwareArgs b.architecture code_fd vars_fd)
    else none)

/-- `with_usb_controller()`. -/
def withUsbController : QemuCommandBuilder :=
  b.once .usbController (some ["-device", optValue ["qemu-xhci", "id=usb"]])

/-- `with_usb_mouse()`. -/
def withUsbMouse : QemuCommandBuilder :=
  b.once .usbMouse (some ["-device", optValue ["usb-mouse", "id=input0", "bus=usb.0", "port=1"]])

/-- `with_usb_keyboard()`. -/
def withUsbKeyboard : QemuCommandBuilder :=
  b.once .usbKeyboard (some ["-device", optValue ["usb-kbd", "id=input1", "bus=usb.0", "port=2"]])

/-- The drive and device of one USB disk; `file` is the drive's `file=` value. -/
def usbStorageArgs (file drive_format drive_id : String) : List String :=
  ["-drive", optValue ["file=" ++ file, "format=" ++ drive_format, "media=disk", "if=none",
      "id=" ++ drive_id],
   "-device", optValue ["usb-storage", "bus=usb.0", "drive=" ++ drive_id]]

/-- Attach a USB disk under `drive_id`: the path itself when it is a file, a FAT view
of it when it is a directory, and nothing otherwise. -/
def attachUsbDisk (fs : FileSystem) (drive_file drive_format drive_id : String) :
    QemuCommandBuilder :=
  if fs.isfile drive_file then b.extend (usbStorageArgs drive_file drive_format drive_id)
  else if fs.isdir drive_file then
    b.extend (usbStorageArgs ("fat:rw:" ++ drive_file) drive_format drive_id)
  else b

example : usbStorageArgs "disk.img" "raw" "usb_storage_0" =
    ["-drive", "file=disk.img,format=raw,media=disk,if=none,id=usb_storage_0",
     "-device", "usb-storage,bus=usb.0,drive=usb_storage_0"] := rfl

/-- `with_usb_storage(drive_file, drive_id, drive_format)`. Without an explicit id the
counter names the disk and advances, whether or not the path then proves to be a
file or a directory. -/
def withUsbStorage (fs : FileSystem) (drive_file drive_id : Option String)
    (drive_format : String) : QemuCommandBuilder :=
  match given drive_file with
  | none => b
  | some f =>
    match given drive_id with
    | some i => b.attachUsbDisk fs f drive_format i
    | none => { b with usbStorageIndex := b.usbStorageIndex + 1 }.attachUsbDisk fs f drive_format
        ("usb_storage_" ++ toString b.usbStorageIndex)

/-- `with_virtual_drive(virtual_drive)`. -/
def withVirtualDrive (fs : FileSystem) (virtual_drive : Option String) : QemuCommandBuilder :=
  match given virtual_drive with
  | none => b
  | some v =>
    if fs.isfile v then b.extend ["-drive", optValue ["file=" ++ v, "if=virtio"]]
    else if fs.isdir v then
      b.extend ["-drive", optValue ["file=fat:rw:" ++ v, "format=raw", "media=disk"]]
    else b

/-- `with_memory(size_mb)`. -/
def withMemory (size_mb : Int) : QemuCommandBuilder :=
  b.once .memory (some ["-m", toString size_mb])

/-- `Path(x).suffix` for the value `with_os_storage` receives: a string is read as a path
of the host's `flavour`, a path object keeps its own. -/
def pathSuffix (flavour : PathFlavour) : PyObj → Except PyError String
  | .str s => .ok (flavour.suffix s)
  | .path p => .ok p.suffix
  | v =>
    let t := v.typeName
    .error (.typeError ("expected str, bytes or os.PathLike object, not " ++ t))

/-- The format table of `with_os_storage`. -/
def storageFormat (ext : String) : Option String :=
  if ext = ".vhd" then some "raw"
  else if ext = ".qcow2" then some "qcow2"
  else if ext = ".iso" then some "iso"
  else none

/-- `suffix.lower().replace('"', "")`, the image type `with_os_storage` looks up. -/
def osExtension (suffix : String) : String := ⟨(pyLower suffix).toList.filter (· ≠ '"')⟩

/-- The tokens `with_os_storage` appends for an image of a known format. -/
def osStorageArgs (arch : QemuArchitecture) (file storage_format : String) : List String :=
  if storage_format = "iso" then ["-cdrom", file]
  else match arch with
    | .Q35 =>
      ["-drive", optValue ["file=" ++ file, "format=" ++ storage_format, "if=none", "id=os_nvme"],
       "-device", optValue ["nvme", "serial=nvme-1", "drive=os_nvme"]]
    | .SBSA =>
      ["-drive", optValue ["file=" ++ file, "format=" ++ storage_format, "if=none", "id=os_disk"],
       "-device", optValue ["ahci", "id=ahci"],
       "-device", optValue ["ide-hd", "drive=os_disk", "bus=ahci.0"]]

/-- `with_os_storage(path_to_os)`, on a host whose `pathlib.Path` is of `flavour`: the one
method that refuses its input. -/
def withOsStorage (flavour : PathFlavour) (path_to_os : PyObj) : Except PyError QemuCommandBuilder :=
  if !path_to_os.truthy then .ok b else do
    let suffix ← pathSuffix flavour path_to_os
    match storageFormat (osExtension suffix) with
    | none =>
      let shown := path_to_os.toStr
      .error (.exception ("Unknown OS storage type: " ++ shown))
    | some storage_format => .ok (b.extend (osStorageArgs b.architecture path_to_os.toStr storage_format))

/-- The `-netdev` value of `with_network`: one `hostfwd` clause per forwarded port. -/
def netdevConfig (forward_ports : PyArg) : Except PyError String :=
  if !forward_ports.truthy then .ok "user,id=net0" else do
    let ports ← forward_ports.iter
    pure (ports.foldl (fun acc port =>
      let p := port.toStr
      acc ++ ",hostfwd=tcp::" ++ p ++ "-:" ++ p) "user,id=net0")

/-- `with_network(enabled, forward_ports, use_virtio)`, returning the builder's state
and the exception it raised, if any. The flag is set before the ports are
iterated, so a call that raises still marks the category. -/
def withNetwork (enabled forward_ports : PyArg) (use_virtio : PyObj) :
    QemuCommandBuilder × Option PyError :=
  if b.added .network then (b, none) else
    let b := b.mark .network
    if !enabled.truthy then (b.extend ["-net", "none"], none) else
      match netdevConfig forward_ports with
      | .error e => (b, some e)
      | .ok cfg => (b.extend (["-netdev", cfg] ++
          if use_virtio.truthy then ["-device", optValue ["virtio-net-pci", "netdev=net0"]]
          else ["-device", optValue ["e1000", "netdev=net0"]]), none)

/-- The default SMBIOS table of `with_smbios`, with `date` the formatted clock. -/
def smbiosDefaults (arch : QemuArchitecture) (date : String) : List (String × String) :=
  let q35 := arch = .Q35
  [("smbios0_vendor", "Patina"),
   ("smbios0_version", if q35 then "patina-q35-patched" else "patina-sbsa-patched"),
   ("smbios0_date", date),
   ("smbios1_manufacturer", "OpenDevicePartnership"),
   ("smbios1_product", if q35 then "QEMU Q35" else "QEMU SBSA"),
   ("smbios1_family", "QEMU"),
   ("smbios1_version", "10.0.0"),
   ("smbios1_serial", "42-42-42-42"),
   ("smbios1_uuid", "99fb60e2-181c-413a-a3cf-0a5fea8d87b0"),
   ("smbios3_manufacturer", "OpenDevicePartnership"),
   ("smbios3_serial", if q35 then "40-41-42-43" else "42-42-42-42"),
   ("smbios3_asset", if q35 then "Q35" else "SBSA"),
   ("smbios3_sku", if q35 then "Q35" else "SBSA"),
   ("smbios3_version", "")]

/-- `values[key]` after `defaults.update(smbios_values)`. -/
def smbiosValue (arch : QemuArchitecture) (date : String) (smbios_values : String → Option String)
    (key : String) : String :=
  (smbios_values key).getD (((smbiosDefaults arch date).lookup key).getD "")

/-- The three `-smbios` records of `with_smbios`, for the merged table `v`. -/
def smbiosArgs (v : String → String) : List String :=
  let q (s : String) : String := "\"" ++ s ++ "\""
  ["-smbios", optValue ["type=0", "vendor=" ++ q (v "smbios0_vendor"),
      "version=" ++ q (v "smbios0_version"), "date=" ++ q (v "smbios0_date"), "uefi=on"],
   "-smbios", optValue ["type=1", "manufacturer=" ++ q (v "smbios1_manufacturer"),
      "product=" ++ q (v "smbios1_product"), "family=" ++ q (v "smbios1_family"),
      "version=" ++ q (v "smbios1_version"), "serial=" ++ q (v "smbios1_serial"),
      "uuid=" ++ v "smbios1_uuid"],
   "-smbios", optValue ["type=3", "manufacturer=" ++ q (v "smbios3_manufacturer"),
      "serial=" ++ q (v "smbios3_serial"), "asset=" ++ q (v "smbios3_asset"),
      "sku=" ++ q (v "smbios3_sku"), "version=" ++ q (v "smbios3_version")]]

/-- `with_smbios(smbios_values)` on the day `today`; a `None` or empty dictionary is
the map with no keys. -/
def withSmbios (today : Date) (smbios_values : String → Option String) : QemuCommandBuilder :=
  b.once .smbios (some (smbiosArgs (smbiosValue b.architecture today.strftime smbios_values)))

/-- The tokens of `with_tpm`; SBSA adds no TPM device. -/
def tpmArgs (arch : QemuArchitecture) (tpm_dev : String) : List String :=
  ["-chardev", optValue ["socket", "id=chrtpm", "path=" ++ tpm_dev],
   "-tpmdev", optValue ["emulator", "id=tpm0", "chardev=chrtpm"]] ++
  (match arch with
    | .Q35 => ["-device", optValue ["tpm-tis", "tpmdev=tpm0"]]
    | .SBSA => [])

/-- `with_tpm(tpm_dev)`: only `None` is skipped, an empty path is not. -/
def withTpm (tpm_dev : Option String) : QemuCommandBuilder :=
  b.once .tpm (tpm_dev.map (tpmArgs b.architecture))

/-- `with_display(enabled)`. -/
def withDisplay (enabled : Bool) : QemuCommandBuilder :=
  b.once .display (some (if !enabled then ["-display", "none"]
    else match b.architecture with
      | .Q35 => ["-vga", "cirrus"]
      | .SBSA => []))

/-- `with_gdb_server(port, ip)`. -/
def withGdbServer (port : PyObj) (ip : String) : QemuCommandBuilder :=
  b.once .gdbServer (if port.truthy then some ["-gdb", "tcp:" ++ ip ++ ":" ++ port.toStr] else none)

/-- The tokens of `with_serial_port`: a TCP server, or standard I/O followed by one
`file:` sink per log file. -/
def serialArgs (port : PyObj) (log_files : List PyObj) (ip : String) : List String :=
  if port.truthy then ["-serial", "tcp:" ++ ip ++ ":" ++ port.toStr ++ ",server,nowait"]
  else ["-serial", "stdio"] ++ log_files.flatMap fun f => ["-serial", "file:" ++ f.toStr]

/-- `with_serial_port(port, log_files, ip)`; `None` log files are the empty list. -/
def withSerialPort (port : PyObj) (log_files : List PyObj) (ip : String) : QemuCommandBuilder :=
  b.once .serialPort (some (serialArgs port log_files ip))

/-- `with_monitor_port(port, ip)`. -/
def withMonitorPort (port : PyObj) (ip : String) : QemuCommandBuilder :=
  b.once .monitorPort
    (if port.truthy then some ["-monitor", "tcp:" ++ ip ++ ":" ++ port.toStr ++ ",server,nowait"]
      else none)

/-- `with_shutdown_from_guest(shutdown)`: a second debug-exit device on Q35. -/
def withShutdownFromGuest (shutdown : Bool) : QemuCommandBuilder :=
  if shutdown ∧ b.architecture = .Q35 then
    b.extend ["-device", optValue ["isa-debug-exit", "iobase=0xf4", "iosize=0x04"]]
  else b

/-- `with_custom(*args)`. -/
def withCustom (args : List String) : QemuCommandBuilder := b.extend args

/-- `build()`: the executable and the argument list. -/
def build : PyObj × List String := (b.executable, b.args)

end QemuCommandBuilder

end PatinaQemu
