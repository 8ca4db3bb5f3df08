import PatinaQemu.Builder.Basic

set_option autoImplicit false

/-!
# Runs of the command builder

A caller drives a `QemuCommandBuilder` by a sequence of method calls. `Call` is
one such call with its arguments (and, for the two methods that ask the file
system, the answers it gets); `Call.apply` runs it and returns the builder's
state afterwards together with the exception it raised, if any. `run` applies a
list of calls one after another, keeping the state each call leaves behind,
raising or not, as a caller that catches the exception sees it; `chain` stops at
the first exception, as a fluent call chain does.

## Main results

* `added_step` — a call sets at most its own category's flag and clears none
* `step_of_added` — a flagged method whose category is configured changes nothing
* `run_erase_configured` — once a category is configured, deleting every later call
  of its method changes neither `build()` nor the counter, and the flag stays set
* `run_eq_of_chain` — a chain that returns gives the state `run` gives
-/

namespace PatinaQemu

/-- One call of a `QemuCommandBuilder` method, with its arguments. -/
inductive Call
  | withRomPath (flavour : PathFlavour) (rom_dir : Option String)
  | withMachine (smm_enabled : Bool) (accel : Option String)
  | withCpu (model : Option String) (core_count : PyObj)
  | withFirmware (code_fd vars_fd : PyObj)
  | withUsbController
  | withUsbMouse
  | withUsbKeyboard
  | withUsbStorage (fs : FileSystem) (drive_file drive_id : Option String) (drive_format : String)
  | withVirtualDrive (fs : FileSystem) (virtual_drive : Option String)
  | withMemory (size_mb : Int)
  | withOsStorage (flavour : PathFlavour) (path_to_os : PyObj)
  | withNetwork (enabled forward_ports : PyArg) (use_virtio : PyObj)
  | withSmbios (today : Date) (smbios_values : String → Option String)
  | withTpm (tpm_dev : Option String)
  | withDisplay (enabled : Bool)
  | withGdbServer (port : PyObj) (ip : String)
  | withSerialPort (port : PyObj) (log_files : List PyObj) (ip : String)
  | withMonitorPort (port : PyObj) (ip : String)
  | withShutdownFromGuest (shutdown : Bool)
  | withCustom (args : List String)

namespace Call

open QemuCommandBuilder

/-- The category whose flag the call's method checks, if any. -/
def category : Call → Option Category
  | withRomPath _ _ => some .romPath
  | withMachine _ _ => some .machine
  | withCpu _ _ => some .cpu
  | withFirmware _ _ => some .firmware
  | withUsbController => some .usbController
  | withUsbMouse => some .usbMouse
  | withUsbKeyboard => some .usbKeyboard
  | withMemory _ => some .memory
  | withNetwork _ _ _ => some .network
  | withSmbios _ _ => some .smbios
  | withTpm _ => some .tpm
  | withDisplay _ => some .display
  | withGdbServer _ _ => some .gdbServer
  | withSerialPort _ _ _ => some .serialPort
  | withMonitorPort _ _ => some .monitorPort
  | _ => none

/-- Run the call: the builder's state afterwards and the exception raised, if any. -/
def apply (b : QemuCommandBuilder) : Call → QemuCommandBuilder × Option PyError
  | withRomPath flavour rom_dir => (b.withRomPath flavour rom_dir, none)
  | withMachine smm_enabled accel => (b.withMachine smm_enabled accel, none)
  | withCpu model core_count => (b.withCpu model core_count, none)
  | withFirmware code_fd vars_fd => (b.withFirmware code_fd vars_fd, none)
  | withUsbController => (b.withUsbController, none)
  | withUsbMouse => (b.withUsbMouse, none)
  | withUsbKeyboard => (b.withUsbKeyboard, none)
  | withUsbStorage fs drive_file drive_id drive_format =>
    (b.withUsbStorage fs drive_file drive_id drive_format, none)
  | withVirtualDrive fs virtual_drive => (b.withVirtualDrive fs virtual_drive, none)
  | withMemory size_mb => (b.withMemory size_mb, none)
  | withOsStorage flavour path_to_os =>
    match b.withOsStorage flavour path_to_os with
    | .ok b' => (b', none)
    | .error e => (b, some e)
  | withNetwork enabled forward_ports use_virtio => b.withNetwork enabled forward_ports use_virtio
  | withSmbios today smbios_values => (b.withSmbios today smbios_values, none)
  | withTpm tpm_dev => (b.withTpm tpm_dev, none)
  | withDisplay enabled => (b.withDisplay enabled, none)
  | withGdbServer port ip => (b.withGdbServer port ip, none)
  | withSerialPort port log_files ip => (b.withSerialPort port log_files ip, none)
  | withMonitorPort port ip => (b.withMonitorPort port ip, none)
  | withShutdownFromGuest shutdown => (b.withShutdownFromGuest shutdown, none)
  | withCustom args => (b.withCustom args, none)

end Call

/-- The state a call leaves behind, whether or not it raised. -/
def step (b : QemuCommandBuilder) (x : Call) : QemuCommandBuilder := (x.apply b).1

/-- The state after a sequence of calls. -/
def run (b : QemuCommandBuilder) (xs : List Call) : QemuCommandBuilder := xs.foldl step b

/-- A fluent call chain: the calls in order, stopping at the first exception. -/
def chain (b : QemuCommandBuilder) : List Call → Except PyError QemuCommandBuilder
  | [] => .ok b
  | x :: xs =>
    match x.apply b with
    | (b', none) => chain b' xs
    | (_, some e) => .error e

@[simp] theorem run_nil (b : QemuCommandBuilder) : run b [] = b := rfl

@[simp] theorem run_cons (b : QemuCommandBuilder) (x : Call) (xs : List Call) :
    run b (x :: xs) = run (step b x) xs := rfl

theorem run_append (b : QemuCommandBuilder) (xs ys : List Call) :
    run b (xs ++ ys) = run (run b xs) ys := List.foldl_append _ _ _ _

/-- A chain that returns ends in the state `run` computes. -/
theorem run_eq_of_chain {b b' : QemuCommandBuilder} {xs : List Call}
    (h : chain b xs = .ok b') : run b xs = b' := by
  induction xs generalizing b with
  | nil => exact Except.ok.inj h
  | cons x xs ih =>
    rcases hx : x.apply b with ⟨b₁, _ | e⟩ <;> simp only [chain, hx] at h
    · simpa [step, hx] using ih h
    · cases h

/-- In a chain that returns, no call raised. -/
theorem apply_snd_of_chain {b b' : QemuCommandBuilder} {pre post : List Call} {x : Call}
    (h : chain b (pre ++ x :: post) = .ok b') : (x.apply (run b pre)).2 = none := by
  induction pre generalizing b with
  | nil =>
    rcases hx : x.apply b with ⟨b₁, _ | e⟩
    · rw [run_nil, hx]
    · simp [chain, hx] at h
  | cons y pre ih =>
    rcases hy : y.apply b with ⟨b₁, _ | e⟩ <;> simp only [List.cons_append, chain, hy] at h
    · simpa [step, hy] using ih h
    · cases h

/-- A chain through calls that cannot raise is a run. -/
theorem chain_append {pre : List Call} (safe : ∀ x ∈ pre, ∀ b, (x.apply b).2 = none)
    (b : QemuCommandBuilder) (post : List Call) :
    chain b (pre ++ post) = chain (run b pre) post := by
  induction pre generalizing b with
  | nil => rfl
  | cons x pre ih =>
    rcases hx : x.apply b with ⟨b', _ | e⟩
    · rw [List.cons_append, chain, hx, run_cons, step, hx]
      exact ih (fun y hy => safe y (List.mem_cons_of_mem _ hy)) b'
    · cases hx ▸ safe x (List.mem_cons_self _ _) b

theorem chain_eq_ok {xs : List Call} (safe : ∀ x ∈ xs, ∀ b, (x.apply b).2 = none)
    (b : QemuCommandBuilder) : chain b xs = .ok (run b xs) := by
  simpa using chain_append safe b []

theorem bind_eq_ok {α β : Type} {x : Except PyError α} {f : α → Except PyError β} {r : β} :
    x >>= f = .ok r ↔ ∃ a, x = .ok a ∧ f a = .ok r := by
  cases x <;> simp [bind, Except.bind]

/-- `with_network` raises only when it iterates a truthy `forward_ports` of an enabled
network. -/
theorem QemuCommandBuilder.withNetwork_snd_eq_none {enabled forward_ports : PyArg} (use_virtio : PyObj)
    (h : (enabled.truthy && forward_ports.truthy) = false) (b : QemuCommandBuilder) :
    (b.withNetwork enabled forward_ports use_virtio).2 = none := by
  unfold QemuCommandBuilder.withNetwork
  split
  · rfl
  split
  · rfl
  have off : forward_ports.truthy = false := by simp_all
  simp [QemuCommandBuilder.netdevConfig, off]

/-- `with_os_storage` does not raise on a path whose extension it knows. -/
theorem Call.withOsStorage_apply_snd {flavour : PathFlavour} {path_to_os : PyObj} {suffix : String}
    (parsed : QemuCommandBuilder.pathSuffix flavour path_to_os = .ok suffix)
    (known : (QemuCommandBuilder.storageFormat (QemuCommandBuilder.osExtension suffix)).isSome)
    (b : QemuCommandBuilder) : ((Call.withOsStorage flavour path_to_os).apply b).2 = none := by
  obtain ⟨fmt, hfmt⟩ := Option.isSome_iff_exists.1 known
  have ok : ∃ b', b.withOsStorage flavour path_to_os = .ok b' := by
    unfold QemuCommandBuilder.withOsStorage
    split
    · exact ⟨_, rfl⟩
    · simp only [parsed, bind, Except.bind, hfmt]
      exact ⟨_, rfl⟩
  obtain ⟨b', hb'⟩ := ok
  simp only [Call.apply, hb']

namespace QemuCommandBuilder

variable (b : QemuCommandBuilder)

/-- `once` sets at most the flag it guards. -/
theorem added_once (c : Category) (emit : Option (List String)) :
    (b.once c emit).added = b.added ∨ (b.once c emit).added = Function.update b.added c true := by
  unfold once
  split
  · exact .inl rfl
  · split <;> simp

theorem added_attachUsbDisk (fs : FileSystem) (f fmt i : String) :
    (b.attachUsbDisk fs f fmt i).added = b.added := by
  unfold attachUsbDisk; split <;> [rfl; split <;> rfl]

theorem added_withUsbStorage (fs : FileSystem) (f i : Option String) (fmt : String) :
    (b.withUsbStorage fs f i fmt).added = b.added := by
  unfold withUsbStorage
  split
  · rfl
  · split <;> exact added_attachUsbDisk _ _ _ _ _

theorem added_withVirtualDrive (fs : FileSystem) (v : Option String) :
    (b.withVirtualDrive fs v).added = b.added := by
  unfold withVirtualDrive
  split
  · rfl
  · split <;> [rfl; split <;> rfl]

theorem added_withShutdownFromGuest (s : Bool) : (b.withShutdownFromGuest s).added = b.added := by
  unfold withShutdownFromGuest; split <;> rfl

theorem added_withNetwork (e f : PyArg) (u : PyObj) :
    (b.withNetwork e f u).1.added = b.added ∨
      (b.withNetwork e f u).1.added = Function.update b.added .network true := by
  unfold withNetwork
  split
  · exact .inl rfl
  · refine .inr ?_
    split
    · rfl
    · split <;> rfl

/-- `with_os_storage` raises, or leaves the builder as it was, or appends the tokens of an
image of a known format. -/
theorem withOsStorage_cases (f : PathFlavour) (p : PyObj) :
    (∃ e, b.withOsStorage f p = .error e) ∨ b.withOsStorage f p = .ok b ∨
      ∃ fmt, b.withOsStorage f p = .ok (b.extend (osStorageArgs b.architecture p.toStr fmt)) := by
  unfold withOsStorage
  split
  · exact .inr (.inl rfl)
  · cases pathSuffix f p with
    | error e => exact .inl ⟨e, rfl⟩
    | ok suffix =>
      simp only [bind, Except.bind]
      cases storageFormat (osExtension suffix) with
      | none => exact .inl ⟨_, rfl⟩
      | some fmt => exact .inr (.inr ⟨fmt, rfl⟩)

/-- A `with_os_storage` call leaves the builder as it was, raising or not, or appends the
tokens of an image of a known format. -/
theorem step_withOsStorage (f : PathFlavour) (p : PyObj) :
    step b (.withOsStorage f p) = b ∨
      ∃ fmt, step b (.withOsStorage f p) = b.extend (osStorageArgs b.architecture p.toStr fmt) := by
  rcases withOsStorage_cases b f p with ⟨e, h⟩ | h | ⟨fmt, h⟩ <;>
    simp only [step, Call.apply, h, true_or]
  exact .inr ⟨fmt, rfl⟩

theorem step_withOsStorage_added (f : PathFlavour) (p : PyObj) :
    (step b (.withOsStorage f p)).added = b.added := by
  rcases step_withOsStorage b f p with h | ⟨fmt, h⟩ <;> rw [h]
  rfl

end QemuCommandBuilder

open QemuCommandBuilder

/-- A call sets at most the flag of its own category, and clears none. -/
theorem added_step (b : QemuCommandBuilder) (x : Call) :
    (step b x).added = b.added ∨
      ∃ c, x.category = some c ∧ (step b x).added = Function.update b.added c true := by
  cases x with
  | withUsbStorage fs f i fmt => exact .inl (added_withUsbStorage b fs f i fmt)
  | withVirtualDrive fs v => exact .inl (added_withVirtualDrive b fs v)
  | withOsStorage f p => exact .inl (step_withOsStorage_added b f p)
  | withShutdownFromGuest s => exact .inl (added_withShutdownFromGuest b s)
  | withCustom args => exact .inl rfl
  | withNetwork e f u =>
    rcases added_withNetwork b e f u with h | h
    · exact .inl h
    · exact .inr ⟨_, rfl, h⟩
  | _ =>
    first
    | (rcases added_once b _ _ with h | h
       · exact .inl h
       · exact .inr ⟨_, rfl, h⟩)

/-- No call changes the executable or the architecture. -/
theorem step_frame (b : QemuCommandBuilder) (x : Call) :
    (step b x).executable = b.executable ∧ (step b x).architecture = b.architecture := by
  cases x with
  | withUsbStorage fs f i fmt =>
    simp only [step, Call.apply, withUsbStorage]
    split
    · exact ⟨rfl, rfl⟩
    · split <;> (unfold attachUsbDisk; split <;> [exact ⟨rfl, rfl⟩; split <;> exact ⟨rfl, rfl⟩])
  | withVirtualDrive fs v =>
    simp only [step, Call.apply, withVirtualDrive]
    split <;> [exact ⟨rfl, rfl⟩; split <;> [exact ⟨rfl, rfl⟩; split <;> exact ⟨rfl, rfl⟩]]
  | withOsStorage f p =>
    rcases step_withOsStorage b f p with h | ⟨fmt, h⟩ <;> rw [h] <;> exact ⟨rfl, rfl⟩
  | withNetwork e f u =>
    simp only [step, Call.apply, withNetwork]
    split <;> [exact ⟨rfl, rfl⟩; split <;> [exact ⟨rfl, rfl⟩; split <;> exact ⟨rfl, rfl⟩]]
  | withShutdownFromGuest s =>
    simp only [step, Call.apply, withShutdownFromGuest]
    split <;> exact ⟨rfl, rfl⟩
  | _ =>
    simp [step, Call.apply, withRomPath, withMachine, withCpu, withFirmware, withUsbController,
      withUsbMouse, withUsbKeyboard, withMemory, withSmbios, withTpm, withDisplay, withGdbServer,
      withSerialPort, withMonitorPort, withCustom]

theorem step_architecture (b : QemuCommandBuilder) (x : Call) :
    (step b x).architecture = b.architecture := (step_frame b x).2

theorem executable_run (b : QemuCommandBuilder) (xs : List Call) :
    (run b xs).executable = b.executable := by
  induction xs generalizing b with
  | nil => rfl
  | cons x xs ih => rw [run_cons, ih, (step_frame b x).1]

theorem architecture_run (b : QemuCommandBuilder) (xs : List Call) :
    (run b xs).architecture = b.architecture := by
  induction xs generalizing b with
  | nil => rfl
  | cons x xs ih => rw [run_cons, ih, step_architecture]

/-- Whether the call names a USB disk by the counter: `with_usb_storage` with a drive
file and no id. -/
def Call.takesUsbIndex : Call → Bool
  | .withUsbStorage _ f i _ => (given f).isSome && (given i).isNone
  | _ => false

theorem attachUsbDisk_usbStorageIndex (b : QemuCommandBuilder) (fs : FileSystem) (f fmt i : String) :
    (b.attachUsbDisk fs f fmt i).usbStorageIndex = b.usbStorageIndex := by
  unfold attachUsbDisk; split <;> [rfl; split <;> rfl]

/-- The counter advances by one exactly at a call that takes an index from it. -/
theorem usbStorageIndex_step (b : QemuCommandBuilder) (x : Call) :
    (step b x).usbStorageIndex = b.usbStorageIndex + if x.takesUsbIndex then 1 else 0 := by
  cases x with
  | withUsbStorage fs f i fmt =>
    simp only [step, Call.apply, withUsbStorage, Call.takesUsbIndex]
    split
    · simp [*]
    · split <;> simp [*, attachUsbDisk_usbStorageIndex]
  | withVirtualDrive fs v =>
    simp only [step, Call.apply, withVirtualDrive, Call.takesUsbIndex]
    split <;> [rfl; split <;> [rfl; split <;> rfl]]
  | withOsStorage f p =>
    rcases step_withOsStorage b f p with h | ⟨fmt, h⟩ <;> rw [h] <;> rfl
  | withNetwork e f u =>
    simp only [step, Call.apply, withNetwork, Call.takesUsbIndex]
    split <;> [rfl; split <;> [rfl; split <;> rfl]]
  | withShutdownFromGuest s =>
    simp only [step, Call.apply, withShutdownFromGuest, Call.takesUsbIndex]
    split <;> rfl
  | _ =>
    simp [step, Call.apply, Call.takesUsbIndex, withRomPath, withMachine, withCpu, withFirmware,
      withUsbController, withUsbMouse, withUsbKeyboard, withMemory, withSmbios, withTpm,
      withDisplay, withGdbServer, withSerialPort, withMonitorPort, withCustom]

/-- Flags only ever go from unset to set. -/
theorem added_step_of_added {b : QemuCommandBuilder} (x : Call) {c : Category}
    (h : b.added c = true) : (step b x).added c = true := by
  rcases added_step b x with h' | ⟨c', -, h'⟩ <;> rw [h']
  · exact h
  · by_cases hc : c = c' <;> simp [Function.update_apply, hc, h]

theorem added_run_of_added {b : QemuCommandBuilder} (xs : List Call) {c : Category}
    (h : b.added c = true) : (run b xs).added c = true := by
  induction xs generalizing b with
  | nil => exact h
  | cons x xs ih => exact ih (added_step_of_added x h)

/-- Calls of other categories leave a flag as it is. -/
theorem added_run_of_forall_ne {b : QemuCommandBuilder} {xs : List Call} {c : Category}
    (other : ∀ x ∈ xs, x.category ≠ some c) : (run b xs).added c = b.added c := by
  induction xs generalizing b with
  | nil => rfl
  | cons x xs ih =>
    rw [run_cons, ih fun y hy => other y (List.mem_cons_of_mem _ hy)]
    rcases added_step b x with h | ⟨c', hc', h⟩
    · rw [h]
    · rw [h, Function.update_noteq]
      rintro rfl
      exact other x (List.mem_cons_self _ _) hc'

/-- A flagged method whose category is already configured changes nothing. -/
theorem step_of_added {b : QemuCommandBuilder} {x : Call} {c : Category}
    (hc : x.category = some c) (h : b.added c = true) : step b x = b := by
  cases x <;> simp only [Call.category, reduceCtorEq, Option.some.injEq] at hc <;> subst hc <;>
    simp [step, Call.apply, withRomPath, withMachine, withCpu, withFirmware, withUsbController,
      withUsbMouse, withUsbKeyboard, withMemory, withSmbios, withTpm, withDisplay, withGdbServer,
      withSerialPort, withMonitorPort, withNetwork, once_of_added _ h, h]

theorem run_filter_of_added {b : QemuCommandBuilder} (xs : List Call) {c : Category}
    (h : b.added c = true) : run b xs = run b (xs.filter (·.category ≠ some c)) := by
  induction xs generalizing b with
  | nil => rfl
  | cons x xs ih =>
    by_cases hx : x.category = some c
    · simp [List.filter_cons, hx, step_of_added hx h, ih h]
    · simp [List.filter_cons, hx, ih (added_step_of_added x h)]

/-- Once category `c` is configured, no later call clears its flag, and deleting every
later call of its method, whatever its arguments, changes neither `build()` nor the
USB-storage counter. -/
theorem run_erase_configured (b : QemuCommandBuilder) (pre post : List Call) (c : Category)
    (h : (run b pre).added c = true) :
    (run b (pre ++ post)).added c = true ∧
      (run b (pre ++ post)).build = (run b (pre ++ post.filter (·.category ≠ some c))).build ∧
      (run b (pre ++ post)).usbStorageIndex =
        (run b (pre ++ post.filter (·.category ≠ some c))).usbStorageIndex := by
  rw [run_append, run_append, ← run_filter_of_added post h]
  exact ⟨added_run_of_added post h, rfl, rfl⟩

/-- A default memory size followed by an override: the override is dropped. -/
theorem memory_override_dropped :
    (run (init (.str "qemu-system-x86_64") .Q35) [.withMemory 2048]).added .memory = true ∧
      (run (init (.str "qemu-system-x86_64") .Q35)
          ([.withMemory 2048] ++ [.withMemory 8192, .withCpu none (.int 4)])).build =
        (run (init (.str "qemu-system-x86_64") .Q35) ([.withMemory 2048] ++
          [Call.withMemory 8192, .withCpu none (.int 4)].filter (·.category ≠ some .memory))).build :=
  ⟨rfl, (run_erase_configured (init (.str "qemu-system-x86_64") .Q35) [.withMemory 2048]
    [.withMemory 8192, .withCpu none (.int 4)] .memory rfl).2.1⟩

end PatinaQemu
