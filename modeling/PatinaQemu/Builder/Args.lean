import PatinaQemu.Builder.Run

set_option autoImplicit false

/-!
# The argument list read as option pairs

QEMU reads its command line as options each followed by one value. Every method of
the builder appends whole (option, value) pairs, so `build()`'s list read two
tokens at a time (`pairs`) is exactly the sequence of options the builder meant.

Each option but `-global`, `-device`, `-drive` and `-cdrom` belongs to one flagged
category (`optionOwner`). The invariant `ArgsInv` says that the pairs a category owns
are absent while its flag is unset and, once it is set, are shaped as one call of
its method emits them (`Shape`). A call appends a `Chunk`: options of its own
category only. From this, over every sequence of calls other than `with_custom`:

## Main results

* `argsInv_step` — one call keeps the invariant
* `build_args_wellFormed` — the arguments are pairs of known options; `-debugcon`,
  `-machine`, `-cpu`, `-smp`, `-m`, `-L`, `-chardev`, `-tpmdev`, `-gdb`, `-monitor`
  occur at most once, at most one of `-net`/`-netdev` and of `-vga`/`-display`
  occurs, the `-smbios` records are none or one each of types 0, 1 and 3, and the
  `-serial` pairs are contiguous with at most one `stdio`
-/

namespace PatinaQemu

open QemuCommandBuilder

/-- The argument list read as consecutive (option, value) pairs. -/
def pairs : List String → List (String × String)
  | o :: v :: rest => (o, v) :: pairs rest
  | _ => []

@[simp] theorem pairs_nil : pairs [] = [] := rfl

@[simp] theorem pairs_cons_cons (o v : String) (rest : List String) :
    pairs (o :: v :: rest) = (o, v) :: pairs rest := rfl

theorem pairs_append : ∀ {xs : List String}, xs.length % 2 = 0 → ∀ ys,
    pairs (xs ++ ys) = pairs xs ++ pairs ys
  | [], _, _ => rfl
  | [_], h, _ => by simp at h
  | _ :: _ :: rest, h, ys => by
    have hr : rest.length % 2 = 0 := by simp at h; omega
    simp [pairs_append hr ys]

@[simp] theorem pairs_flatMap (a : String) (g : PyObj → String) (xs : List PyObj) :
    pairs (xs.flatMap fun f => [a, g f]) = xs.map fun f => (a, g f) := by
  induction xs with
  | nil => rfl
  | cons x xs ih => simpa using ih

theorem length_flatMap_even (a : String) (g : PyObj → String) (xs : List PyObj) :
    (xs.flatMap fun f => [a, g f]).length % 2 = 0 := by
  induction xs with
  | nil => rfl
  | cons x xs ih => simp [List.flatMap_cons] at ih ⊢; omega

/-- The options the builder itself writes. -/
def optionNames : List String :=
  ["-debugcon", "-global", "-device", "-L", "-machine", "-cpu", "-smp", "-drive", "-m", "-cdrom",
    "-net", "-netdev", "-smbios", "-chardev", "-tpmdev", "-display", "-vga", "-gdb", "-serial",
    "-monitor"]

/-- The flagged category whose method alone writes option `o`. -/
def optionOwner (o : String) : Option Category :=
  if o = "-L" then some .romPath
  else if o = "-machine" then some .machine
  else if o = "-cpu" ∨ o = "-smp" then some .cpu
  else if o = "-m" then some .memory
  else if o = "-net" ∨ o = "-netdev" then some .network
  else if o = "-smbios" then some .smbios
  else if o = "-chardev" ∨ o = "-tpmdev" then some .tpm
  else if o = "-display" ∨ o = "-vga" then some .display
  else if o = "-gdb" then some .gdbServer
  else if o = "-serial" then some .serialPort
  else if o = "-monitor" then some .monitorPort
  else none

/-- The pairs whose option category `c` owns. -/
def owned (c : Category) (ps : List (String × String)) : List (String × String) :=
  ps.filter fun p => optionOwner p.1 = some c

/-- The first field of an `-smbios` record, `type=N`. -/
def typeField (v : String) : String := ⟨v.toList.takeWhile (· ≠ ',')⟩

/-- The option sequences one call of a category's method may write. -/
def allowed : Category → List (List String)
  | .romPath => [[], ["-L"]]
  | .machine => [[], ["-machine"]]
  | .cpu => [[], ["-cpu"], ["-cpu", "-smp"]]
  | .memory => [[], ["-m"]]
  | .network => [[], ["-net"], ["-netdev"]]
  | .tpm => [[], ["-chardev", "-tpmdev"]]
  | .display => [[], ["-display"], ["-vga"]]
  | .gdbServer => [[], ["-gdb"]]
  | .monitorPort => [[], ["-monitor"]]
  | _ => [[]]

/-- How the pairs a category owns look after at most one effective call. -/
def Shape (c : Category) (L : List (String × String)) : Prop :=
  match c with
  | .smbios => L.map (fun p => typeField p.2) ∈ [[], ["type=0", "type=1", "type=3"]]
  | .serialPort => L.countP (· = ("-serial", "stdio")) ≤ 1
  | c => L.map Prod.fst ∈ allowed c

theorem shape_nil (c : Category) : Shape c [] := by
  cases c <;> (unfold Shape; decide)

/-- The tokens one call appends when it has category `c` (`none` for the unflagged
methods): pairs of known options other than `-debugcon`, owned by `c` or by no one,
shaped as `c` emits them; a serial call writes only `-serial` pairs. -/
structure Chunk (c : Option Category) (toks : List String) : Prop where
  even : toks.length % 2 = 0
  known : ∀ p ∈ pairs toks, p.1 ∈ optionNames ∧ p.1 ≠ "-debugcon"
  owner : ∀ p ∈ pairs toks, optionOwner p.1 = none ∨ optionOwner p.1 = c
  shape : ∀ c', c = some c' → Shape c' (owned c' (pairs toks))
  serial : c = some .serialPort → ∀ p ∈ pairs toks, p.1 = "-serial"

theorem chunk_nil (c : Option Category) : Chunk c [] :=
  ⟨rfl, by simp, by simp, fun c' _ => shape_nil c', by simp⟩

/-- The `-serial` pairs form one contiguous block. -/
def SerialBlock (ps : List (String × String)) : Prop :=
  ∃ pre mid post, ps = pre ++ mid ++ post ∧ (∀ p ∈ mid, p.1 = "-serial") ∧
    ∀ p ∈ pre ++ post, p.1 ≠ "-serial"

/-- The invariant of every run without `with_custom`. -/
structure ArgsInv (b : QemuCommandBuilder) : Prop where
  even : b.args.length % 2 = 0
  known : ∀ p ∈ pairs b.args, p.1 ∈ optionNames
  unset : ∀ c, b.added c = false → owned c (pairs b.args) = []
  shape : ∀ c, Shape c (owned c (pairs b.args))
  debugcon : (pairs b.args).countP (·.1 = "-debugcon") ≤ 1
  serial : SerialBlock (pairs b.args)

/-! ## Every method appends a chunk -/

section Chunks

variable (arch : QemuArchitecture)

theorem even_of_pairs {toks : List String}
    (htoks : ((pairs toks).flatMap fun p => [p.1, p.2]) = toks) : toks.length % 2 = 0 := by
  have double : ∀ ps : List (String × String),
      (ps.flatMap fun p => [p.1, p.2]).length = 2 * ps.length := by
    intro ps
    induction ps with
    | nil => rfl
    | cons p ps ih => simp [ih]; omega
  have := double (pairs toks)
  rw [htoks] at this
  omega

/-- A chunk of a category other than `-serial`, checked on its options alone (`opts` lists
them, and `fits` is decided on that list), given the shape of what `c` owns in it. -/
theorem chunk_of_fits {c : Category} {toks : List String} (opts : List String)
    (htoks : ((pairs toks).flatMap fun p => [p.1, p.2]) = toks)
    (hopts : (pairs toks).map Prod.fst = opts)
    (fits : ∀ o ∈ opts, o ∈ optionNames ∧ o ≠ "-debugcon" ∧
      (optionOwner o = none ∨ optionOwner o = some c))
    (notSerial : c ≠ .serialPort) (shape : Shape c (owned c (pairs toks))) :
    Chunk (some c) toks := by
  have mem : ∀ p ∈ pairs toks, p.1 ∈ opts := fun p hp => hopts ▸ List.mem_map_of_mem _ hp
  refine ⟨even_of_pairs htoks, fun p hp => ⟨(fits _ (mem p hp)).1, (fits _ (mem p hp)).2.1⟩,
    fun p hp => (fits _ (mem p hp)).2.2, ?_, fun hc => absurd (Option.some.inj hc) notSerial⟩
  rintro c' ⟨⟩
  exact shape

/-- A chunk of a category other than `-smbios` and `-serial`, checked on its options alone. -/
theorem chunk_of_options {c : Category} {toks : List String} (opts : List String)
    (htoks : ((pairs toks).flatMap fun p => [p.1, p.2]) = toks)
    (hopts : (pairs toks).map Prod.fst = opts)
    (fits : (∀ o ∈ opts, o ∈ optionNames ∧ o ≠ "-debugcon" ∧
      (optionOwner o = none ∨ optionOwner o = some c)) ∧
      c ≠ .smbios ∧ c ≠ .serialPort ∧ opts.filter (fun o => optionOwner o = some c) ∈ allowed c) :
    Chunk (some c) toks := by
  obtain ⟨known, notSmbios, notSerial, shaped⟩ := fits
  have owned_opts : (owned c (pairs toks)).map Prod.fst =
      opts.filter (fun o => optionOwner o = some c) := by
    rw [← hopts, List.filter_map]
    rfl
  refine chunk_of_fits opts htoks hopts known notSerial ?_
  cases c <;> simp only [Shape, owned_opts] <;> first | exact shaped | simp at notSmbios notSerial

/-- An unflagged chunk, checked on its options alone. -/
theorem chunk_none_of_options {toks : List String} (opts : List String)
    (htoks : ((pairs toks).flatMap fun p => [p.1, p.2]) = toks)
    (hopts : (pairs toks).map Prod.fst = opts)
    (fits : ∀ o ∈ opts, o ∈ optionNames ∧ o ≠ "-debugcon" ∧ optionOwner o = none) :
    Chunk none toks := by
  have mem : ∀ p ∈ pairs toks, p.1 ∈ opts := fun p hp => hopts ▸ List.mem_map_of_mem _ hp
  exact ⟨even_of_pairs htoks, fun p hp => ⟨(fits _ (mem p hp)).1, (fits _ (mem p hp)).2.1⟩,
    fun p hp => .inl (fits _ (mem p hp)).2.2, nofun, nofun⟩

theorem file_ne_stdio (s : String) : "file:" ++ s ≠ "stdio" := fun h => by
  simpa using congrArg (fun t : String => t.toList.take 1) h

theorem chunk_romPath (d : String) : Chunk (some .romPath) ["-L", d] :=
  chunk_of_options ["-L"] rfl rfl (by decide)

theorem chunk_machineArgs (smm : Bool) (accel : Option String) :
    Chunk (some .machine) (machineArgs arch smm accel) := by
  cases arch <;> cases smm <;> first
    | exact chunk_of_options ["-machine"] rfl rfl (by decide)
    | exact chunk_of_options ["-machine", "-global"] rfl rfl (by decide)

theorem chunk_cpuArgs (model : Option String) (n : PyObj) :
    Chunk (some .cpu) (cpuArgs arch model n) := by
  unfold cpuArgs
  cases arch <;> cases n.truthy <;> first
    | exact chunk_of_options ["-cpu"] rfl rfl (by decide)
    | exact chunk_of_options ["-cpu", "-smp"] rfl rfl (by decide)

theorem chunk_firmwareArgs (code vars : PyObj) :
    Chunk (some .firmware) (firmwareArgs arch code vars) := by
  unfold firmwareArgs
  cases arch <;> cases vars.truthy <;> first
    | exact chunk_of_options ["-drive"] rfl rfl (by decide)
    | exact chunk_of_options ["-drive", "-drive"] rfl rfl (by decide)

theorem chunk_device {c : Option Category} (hc : c ≠ some .serialPort) (v : String) :
    Chunk c ["-device", v] := by
  constructor <;> simp [optionNames, optionOwner, owned, hc]
  intro c' _; exact shape_nil _

theorem chunk_memory (v : String) : Chunk (some .memory) ["-m", v] :=
  chunk_of_options ["-m"] rfl rfl (by decide)

/-- The first field of a value of several fields is read off before its first comma. -/
theorem typeField_optValue (f g : String) (fs : List String) (hf : ',' ∉ f.toList) :
    typeField (optValue (f :: g :: fs)) = f := by
  have hp : ∀ c ∈ f.data, decide (c ≠ ',') = true := fun c hc => by
    simpa using fun h : c = ',' => hf (h ▸ hc)
  simp only [typeField, optValue, String.toList, String.data_append, List.append_assoc]
  rw [List.takeWhile_append_of_pos hp]
  simp

theorem chunk_smbiosArgs (v : String → String) : Chunk (some .smbios) (smbiosArgs v) := by
  refine chunk_of_fits ["-smbios", "-smbios", "-smbios"] rfl rfl (by decide) (by decide) ?_
  have owned_all : owned .smbios (pairs (smbiosArgs v)) = pairs (smbiosArgs v) := rfl
  rw [owned_all]
  show List.map _ _ ∈ _
  simp only [smbiosArgs, pairs_cons_cons, pairs_nil, List.map_cons, List.map_nil]
  rw [typeField_optValue _ _ _ (by decide), typeField_optValue _ _ _ (by decide),
    typeField_optValue _ _ _ (by decide)]
  decide

theorem chunk_tpmArgs (t : String) : Chunk (some .tpm) (tpmArgs arch t) := by
  cases arch
  · exact chunk_of_options ["-chardev", "-tpmdev", "-device"] rfl rfl (by decide)
  · exact chunk_of_options ["-chardev", "-tpmdev"] rfl rfl (by decide)

theorem chunk_display (enabled : Bool) :
    Chunk (some .display) (if !enabled then ["-display", "none"] else match arch with
      | .Q35 => ["-vga", "cirrus"]
      | .SBSA => []) := by
  cases arch <;> cases enabled <;> first
    | exact chunk_of_options ["-display"] rfl rfl (by decide)
    | exact chunk_of_options ["-vga"] rfl rfl (by decide)
    | exact chunk_of_options [] rfl rfl (by decide)

theorem chunk_gdb (v : String) : Chunk (some .gdbServer) ["-gdb", v] :=
  chunk_of_options ["-gdb"] rfl rfl (by decide)

theorem chunk_monitor (v : String) : Chunk (some .monitorPort) ["-monitor", v] :=
  chunk_of_options ["-monitor"] rfl rfl (by decide)

/-- A serial chunk: `-serial` pairs only, with `stdio` at most once. -/
theorem chunk_serial {toks : List String} (even : toks.length % 2 = 0)
    (allSerial : ∀ p ∈ pairs toks, p.1 = "-serial")
    (stdio : (pairs toks).countP (· = ("-serial", "stdio")) ≤ 1) :
    Chunk (some .serialPort) toks := by
  have serialOwner : optionOwner "-serial" = some .serialPort := by decide
  have owned_all : owned .serialPort (pairs toks) = pairs toks :=
    List.filter_eq_self.2 fun p hp => by simp [allSerial p hp, serialOwner]
  refine ⟨even, fun p hp => ?_, fun p hp => .inr (allSerial p hp ▸ serialOwner), ?_,
    fun _ => allSerial⟩
  · rw [allSerial p hp]
    decide
  · rintro c ⟨⟩
    rw [owned_all]
    exact stdio

theorem chunk_serialArgs (port : PyObj) (log_files : List PyObj) (ip : String) :
    Chunk (some .serialPort) (serialArgs port log_files ip) := by
  by_cases h : port.truthy
  · simp only [serialArgs, h, if_true]
    exact chunk_serial (by simp) (by simp) ((List.countP_le_length _).trans (by simp))
  · have even := length_flatMap_even "-serial" (fun f => "file:" ++ f.toStr) log_files
    simp only [serialArgs, h, Bool.false_eq_true, if_false]
    refine chunk_serial (by simp only [List.length_append, List.length_cons, List.length_nil]; omega)
      (by simp) ?_
    simp [List.countP_map, Function.comp_def, file_ne_stdio]

theorem chunk_netdev (cfg : String) (use_virtio : PyObj) :
    Chunk (some .network) (["-netdev", cfg] ++
      if use_virtio.truthy then ["-device", "virtio-net-pci,netdev=net0"]
      else ["-device", "e1000,netdev=net0"]) := by
  cases use_virtio.truthy <;> exact chunk_of_options ["-netdev", "-device"] rfl rfl (by decide)

theorem chunk_net_none : Chunk (some .network) ["-net", "none"] :=
  chunk_of_options ["-net"] rfl rfl (by decide)

theorem chunk_usbStorageArgs (f fmt i : String) : Chunk none (usbStorageArgs f fmt i) :=
  chunk_none_of_options ["-drive", "-device"] rfl rfl (by decide)

theorem chunk_drive (v : String) : Chunk none ["-drive", v] :=
  chunk_none_of_options ["-drive"] rfl rfl (by decide)

theorem chunk_osStorageArgs (file fmt : String) : Chunk none (osStorageArgs arch file fmt) := by
  unfold osStorageArgs
  split
  · exact chunk_none_of_options ["-cdrom"] rfl rfl (by decide)
  · cases arch
    · exact chunk_none_of_options ["-drive", "-device"] rfl rfl (by decide)
    · exact chunk_none_of_options ["-drive", "-device", "-device"] rfl rfl (by decide)

end Chunks

/-! ## One call keeps the invariant -/

/-- Whether the call is `with_custom`, whose arbitrary tokens no invariant covers. -/
def Call.isCustom : Call → Bool
  | .withCustom _ => true
  | _ => false

/-- What a call other than `with_custom` does to the arguments and the flags: append a
chunk of its own category and set that category's flag, or append an unflagged
chunk and leave the flags alone. -/
def Effect (b b' : QemuCommandBuilder) : Prop :=
  (∃ c toks, b.added c = false ∧ Chunk (some c) toks ∧ b'.args = b.args ++ toks ∧
      b'.added = Function.update b.added c true) ∨
    ∃ toks, Chunk none toks ∧ b'.args = b.args ++ toks ∧ b'.added = b.added

theorem effect_self (b : QemuCommandBuilder) : Effect b b := .inr ⟨[], chunk_nil none, by simp, rfl⟩

theorem effect_once (b : QemuCommandBuilder) (c : Category) {emit : Option (List String)}
    (h : ∀ toks, emit = some toks → Chunk (some c) toks) : Effect b (b.once c emit) := by
  unfold once
  split
  · exact effect_self b
  · rename_i hc
    cases emit with
    | none => exact effect_self b
    | some toks => exact .inl ⟨c, toks, by simpa using hc, h toks rfl, rfl, rfl⟩

theorem effect_extend (b : QemuCommandBuilder) {toks : List String} (h : Chunk none toks) :
    Effect b (b.extend toks) := .inr ⟨toks, h, rfl, rfl⟩

theorem effect_attachUsbDisk (b : QemuCommandBuilder) (fs : FileSystem) (f fmt i : String) :
    Effect b (b.attachUsbDisk fs f fmt i) := by
  unfold attachUsbDisk
  split
  · exact effect_extend b (chunk_usbStorageArgs _ _ _)
  · split
    · exact effect_extend b (chunk_usbStorageArgs _ _ _)
    · exact effect_self b

theorem effect_withUsbStorage (b : QemuCommandBuilder) (fs : FileSystem) (f i : Option String)
    (fmt : String) : Effect b (b.withUsbStorage fs f i fmt) := by
  unfold withUsbStorage
  split
  · exact effect_self b
  · split
    · exact effect_attachUsbDisk b _ _ _ _
    · exact effect_attachUsbDisk { b with usbStorageIndex := b.usbStorageIndex + 1 } _ _ _ _

/-- Every call other than `with_custom` has an `Effect`. -/
theorem effect_step (b : QemuCommandBuilder) (x : Call) (hx : x.isCustom = false) :
    Effect b (step b x) := by
  cases x with
  | withRomPath f d =>
    refine effect_once b _ fun _ h => ?_
    obtain ⟨d, -, rfl⟩ := Option.map_eq_some'.mp h
    exact chunk_romPath _
  | withMachine smm accel => exact effect_once b _ (by rintro _ ⟨⟩; exact chunk_machineArgs _ _ _)
  | withCpu model n => exact effect_once b _ (by rintro _ ⟨⟩; exact chunk_cpuArgs _ _ _)
  | withFirmware code vars =>
    refine effect_once b _ fun _ h => ?_
    split at h <;> cases h
    exact chunk_firmwareArgs _ _ _
  | withUsbController => exact effect_once b _ (by rintro _ ⟨⟩; exact chunk_device (by simp) _)
  | withUsbMouse => exact effect_once b _ (by rintro _ ⟨⟩; exact chunk_device (by simp) _)
  | withUsbKeyboard => exact effect_once b _ (by rintro _ ⟨⟩; exact chunk_device (by simp) _)
  | withUsbStorage fs f i fmt => exact effect_withUsbStorage b fs f i fmt
  | withVirtualDrive fs v =>
    simp only [step, Call.apply, withVirtualDrive]
    split
    · exact effect_self b
    · split
      · exact effect_extend b (chunk_drive _)
      · split
        · exact effect_extend b (chunk_drive _)
        · exact effect_self b
  | withMemory n => exact effect_once b _ (by rintro _ ⟨⟩; exact chunk_memory _)
  | withOsStorage f p =>
    rcases step_withOsStorage b f p with h | ⟨fmt, h⟩ <;> rw [h]
    · exact effect_self b
    · exact effect_extend b (chunk_osStorageArgs _ _ _)
  | withNetwork e f u =>
    simp only [step, Call.apply, withNetwork]
    split
    · exact effect_self b
    · rename_i hc
      have hc : b.added .network = false := by simpa using hc
      split
      · exact .inl ⟨_, _, hc, chunk_net_none, rfl, rfl⟩
      · split
        · exact .inl ⟨_, [], hc, chunk_nil _, by simp, rfl⟩
        · exact .inl ⟨_, _, hc, chunk_netdev _ _, rfl, rfl⟩
  | withSmbios today m => exact effect_once b _ (by rintro _ ⟨⟩; exact chunk_smbiosArgs _)
  | withTpm t =>
    refine effect_once b _ fun _ h => ?_
    obtain ⟨t, -, rfl⟩ := Option.map_eq_some'.mp h
    exact chunk_tpmArgs _ _
  | withDisplay e => exact effect_once b _ (by rintro _ ⟨⟩; exact chunk_display _ _)
  | withGdbServer port ip =>
    refine effect_once b _ fun _ h => ?_
    split at h <;> cases h
    exact chunk_gdb _
  | withSerialPort port logs ip =>
    exact effect_once b _ (by rintro _ ⟨⟩; exact chunk_serialArgs _ _ _)
  | withMonitorPort port ip =>
    refine effect_once b _ fun _ h => ?_
    split at h <;> cases h
    exact chunk_monitor _
  | withShutdownFromGuest sd =>
    simp only [step, Call.apply, withShutdownFromGuest]
    split
    · exact effect_extend b (chunk_device (by simp) _)
    · exact effect_self b
  | withCustom args => simp [Call.isCustom] at hx

section Invariant

variable {b b' : QemuCommandBuilder} {toks : List String}

theorem owned_append (c : Category) (ps qs : List (String × String)) :
    owned c (ps ++ qs) = owned c ps ++ owned c qs := List.filter_append _ _

theorem owned_chunk_eq_nil {c : Option Category} (hk : Chunk c toks) {c' : Category}
    (hc : c ≠ some c') : owned c' (pairs toks) = [] := by
  simp only [owned, List.filter_eq_nil_iff, decide_eq_true_eq]
  intro p hp h
  rcases hk.owner p hp with h' | h' <;> rw [h'] at h
  · cases h
  · exact hc h

theorem not_serial_of_owned_nil {ps : List (String × String)}
    (h : owned .serialPort ps = []) : ∀ p ∈ ps, p.1 ≠ "-serial" := by
  intro p hp hs
  have := List.filter_eq_nil_iff.mp h p hp
  simp [hs, optionOwner] at this

theorem not_serial_of_chunk {c : Option Category} (hk : Chunk c toks)
    (hc : c ≠ some .serialPort) : ∀ p ∈ pairs toks, p.1 ≠ "-serial" :=
  not_serial_of_owned_nil (owned_chunk_eq_nil hk hc)

theorem serialBlock_of_forall {ps : List (String × String)} (h : ∀ p ∈ ps, p.1 ≠ "-serial") :
    SerialBlock ps := ⟨ps, [], [], by simp, by simp, by simpa using h⟩

/-- Appending a chunk of category `c` keeps the invariant, provided the flags that end up
unset were unset before and are not `c`'s, and `c` was not yet configured. -/
theorem argsInv_append {c : Option Category} (hb : ArgsInv b) (hk : Chunk c toks)
    (hargs : b'.args = b.args ++ toks)
    (hadd : ∀ c', b'.added c' = false → b.added c' = false ∧ c ≠ some c')
    (hfresh : ∀ c', c = some c' → b.added c' = false) : ArgsInv b' := by
  have hP : pairs b'.args = pairs b.args ++ pairs toks := by rw [hargs, pairs_append hb.even]
  constructor
  · rw [hargs, List.length_append]; have := hk.even; have := hb.even; omega
  · rw [hP]; intro p hp
    rcases List.mem_append.mp hp with h | h
    · exact hb.known p h
    · exact (hk.known p h).1
  · intro c' hc'
    obtain ⟨h₁, h₂⟩ := hadd c' hc'
    rw [hP, owned_append, hb.unset c' h₁, owned_chunk_eq_nil hk h₂, List.nil_append]
  · intro c'
    rw [hP, owned_append]
    by_cases hcc : c = some c'
    · rw [hb.unset c' (hfresh c' hcc), List.nil_append]; exact hk.shape c' hcc
    · rw [owned_chunk_eq_nil hk hcc, List.append_nil]; exact hb.shape c'
  · have h0 : (pairs toks).countP (·.1 = "-debugcon") = 0 :=
      List.countP_eq_zero.mpr fun p hp => by simpa using (hk.known p hp).2
    rw [hP, List.countP_append, h0]
    exact hb.debugcon
  · rw [hP]
    by_cases hcs : c = some .serialPort
    · refine ⟨pairs b.args, pairs toks, [], by simp, hk.serial hcs, ?_⟩
      simpa using not_serial_of_owned_nil (hb.unset _ (hfresh _ hcs))
    · obtain ⟨pre, mid, post, heq, hmid, hout⟩ := hb.serial
      refine ⟨pre, mid, post ++ pairs toks, by simp [heq], hmid, fun p hp => ?_⟩
      rcases List.mem_append.mp hp with h | h
      · exact hout p (List.mem_append_left _ h)
      · rcases List.mem_append.mp h with h | h
        · exact hout p (List.mem_append_right _ h)
        · exact not_serial_of_chunk hk hcs p h

theorem argsInv_of_effect (hb : ArgsInv b) (he : Effect b b') : ArgsInv b' := by
  rcases he with ⟨c, toks, hc, hk, hargs, hadd⟩ | ⟨toks, hk, hargs, hadd⟩
  · refine argsInv_append hb hk hargs (fun c' h => ?_) (fun c' h => by cases h; exact hc)
    by_cases hcc : c' = c
    · subst hcc; simp [hadd] at h
    · rw [hadd, Function.update_noteq hcc] at h
      exact ⟨h, fun h' => hcc (Option.some.inj h').symm⟩
  · exact argsInv_append hb hk hargs (fun c' h => ⟨hadd ▸ h, by simp⟩) (by simp)

/-- One call other than `with_custom` keeps the invariant. -/
theorem argsInv_step (hb : ArgsInv b) (x : Call) (hx : x.isCustom = false) :
    ArgsInv (step b x) :=
  argsInv_of_effect hb (effect_step b x hx)

/-- The argument list only grows, `with_custom` included. -/
theorem args_prefix_step (b : QemuCommandBuilder) (x : Call) : b.args <+: (step b x).args := by
  cases hx : x.isCustom
  · rcases effect_step b x hx with ⟨_, toks, -, -, h, -⟩ | ⟨toks, -, h, -⟩ <;> exact ⟨toks, h.symm⟩
  · cases x <;> simp only [Call.isCustom, reduceCtorEq] at hx
    exact ⟨_, rfl⟩

theorem args_prefix_run (b : QemuCommandBuilder) (xs : List Call) : b.args <+: (run b xs).args := by
  induction xs generalizing b with
  | nil => exact List.prefix_refl _
  | cons x xs ih => exact (args_prefix_step b x).trans (ih _)

/-- Whether a fixed call chain meets a condition is read off the chain by evaluation. -/
theorem noCustom_of_all {xs : List Call} (h : (xs.all fun x => !x.isCustom) = true) :
    ∀ x ∈ xs, x.isCustom = false := fun x hx => by simpa using List.all_eq_true.1 h x hx

theorem notCategory_of_all {xs : List Call} {c : Category}
    (h : (xs.all fun x => x.category != some c) = true) : ∀ x ∈ xs, x.category ≠ some c :=
  fun x hx => by simpa using List.all_eq_true.1 h x hx

/-- The first `with_firmware` call with a code image writes its drives, and they stay. -/
theorem firmwareArgs_infix_run (b : QemuCommandBuilder) (pre : List Call)
    (others : ∀ x ∈ pre, x.category ≠ some .firmware) (fresh : b.added .firmware = false)
    (code : PyObj) (truthy : code.truthy = true) (vars : PyObj) (post : List Call) :
    firmwareArgs b.architecture code vars <:+: (run b (pre ++ .withFirmware code vars :: post)).args := by
  have unset : (run b pre).added .firmware = false := (added_run_of_forall_ne others).trans fresh
  have stepped : (step (run b pre) (.withFirmware code vars)).args =
      (run b pre).args ++ firmwareArgs b.architecture code vars := by
    simp [step, Call.apply, withFirmware, truthy, once_some_of_not_added _ unset, architecture_run]
  obtain ⟨rest, h⟩ := args_prefix_run (step (run b pre) (.withFirmware code vars)) post
  rw [run_append, run_cons, ← h, stepped]
  exact ⟨(run b pre).args, rest, rfl⟩

theorem argsInv_run (hb : ArgsInv b) (xs : List Call) (hxs : ∀ x ∈ xs, x.isCustom = false) :
    ArgsInv (run b xs) := by
  induction xs generalizing b with
  | nil => exact hb
  | cons x xs ih =>
    exact ih (argsInv_step hb x (hxs x (List.mem_cons_self _ _)))
      fun y hy => hxs y (List.mem_cons_of_mem _ hy)

theorem argsInv_init (executable : PyObj) (arch : QemuArchitecture) :
    ArgsInv (init executable arch) := by
  have unowned : ∀ c, owned c (pairs (initialArgs arch)) = [] := by
    intro c
    cases arch <;> cases c <;> decide
  have closed : (initialArgs arch).length % 2 = 0 ∧
      (∀ p ∈ pairs (initialArgs arch), p.1 ∈ optionNames) ∧
      (pairs (initialArgs arch)).countP (·.1 = "-debugcon") ≤ 1 ∧
      ∀ p ∈ pairs (initialArgs arch), p.1 ≠ "-serial" := by
    cases arch <;> decide
  exact ⟨closed.1, closed.2.1, fun c _ => unowned c, fun c => unowned c ▸ shape_nil c,
    closed.2.2.1, serialBlock_of_forall closed.2.2.2⟩

end Invariant

/-! ## The arguments of every run -/

/-- The shape of `build()`'s arguments read as pairs: known options only; the single
options at most once; at most one network and one display choice; no `-smbios`
records or exactly one each of types 0, 1 and 3; one contiguous block of `-serial`
pairs with at most one `stdio`. -/
structure WellFormedArgs (args : List String) : Prop where
  even : args.length % 2 = 0
  known : ∀ p ∈ pairs args, p.1 ∈ optionNames
  atMostOnce : ∀ o ∈ ["-debugcon", "-machine", "-cpu", "-smp", "-m", "-L", "-chardev", "-tpmdev",
    "-gdb", "-monitor"], (pairs args).countP (·.1 = o) ≤ 1
  network : (pairs args).countP (fun p => p.1 = "-net" ∨ p.1 = "-netdev") ≤ 1
  display : (pairs args).countP (fun p => p.1 = "-vga" ∨ p.1 = "-display") ≤ 1
  smbios : ((pairs args).filter (·.1 = "-smbios")).map (fun p => typeField p.2) ∈
    [[], ["type=0", "type=1", "type=3"]]
  serial : SerialBlock (pairs args)
  stdio : (pairs args).countP (· = ("-serial", "stdio")) ≤ 1

section Consequences

variable {b : QemuCommandBuilder}

theorem countP_eq_countP_owned (c : Category) (ps : List (String × String))
    (q : String × String → Bool) (hq : ∀ p, q p = true → optionOwner p.1 = some c) :
    ps.countP q = (owned c ps).countP q := by
  rw [owned, List.countP_filter]
  congr 1
  funext p
  by_cases h : q p <;> simp [h, hq p]

theorem countP_eq_le_one_of_nodup {l : List String} (h : l.Nodup) (o : String) :
    l.countP (· = o) ≤ 1 := by
  induction l with
  | nil => simp
  | cons a l ih =>
    obtain ⟨ha, hl⟩ := List.nodup_cons.mp h
    by_cases hao : a = o
    · subst hao
      have : l.countP (· = a) = 0 :=
        List.countP_eq_zero.mpr fun x hx hxa => ha (by simpa [of_decide_eq_true hxa] using hx)
      simp [this]
    · simpa [hao] using ih hl

theorem allowed_nodup (c : Category) : ∀ l ∈ allowed c, l.Nodup := by
  cases c <;> decide

/-- An option whose category writes it at most once occurs at most once. -/
theorem countP_le_one_of_allowed (ps : List (String × String)) {o : String} (c : Category)
    (ho : optionOwner o = some c) (hs : (owned c ps).map Prod.fst ∈ allowed c) :
    ps.countP (·.1 = o) ≤ 1 := by
  rw [countP_eq_countP_owned c _ _ fun p hp => by rw [of_decide_eq_true hp]; exact ho]
  have : (owned c ps).countP (·.1 = o) = ((owned c ps).map Prod.fst).countP (· = o) := by
    rw [List.countP_map]; rfl
  exact this ▸ countP_eq_le_one_of_nodup (allowed_nodup c _ hs) o

/-- The options of a category that writes at most one pair occur at most once together. -/
theorem countP_le_one_of_allowed_length (ps : List (String × String)) (c : Category)
    (q : String × String → Bool) (hq : ∀ p, q p = true → optionOwner p.1 = some c)
    (hs : (owned c ps).map Prod.fst ∈ allowed c) (hc : ∀ l ∈ allowed c, l.length ≤ 1) :
    ps.countP q ≤ 1 := by
  rw [countP_eq_countP_owned c _ q hq]
  exact (List.countP_le_length _).trans (by simpa using hc _ hs)

theorem optionOwner_eq_smbios_iff {o : String} (h : o ∈ optionNames) :
    optionOwner o = some .smbios ↔ o = "-smbios" := by
  simp only [optionNames, List.mem_cons, List.mem_singleton, List.not_mem_nil, or_false] at h
  rcases h with rfl | rfl | rfl | rfl | rfl | rfl | rfl | rfl | rfl | rfl | rfl | rfl | rfl | rfl |
    rfl | rfl | rfl | rfl | rfl | rfl <;> decide

theorem ArgsInv.wellFormed (hb : ArgsInv b) : WellFormedArgs b.args where
  even := hb.even
  known := hb.known
  atMostOnce o ho := by
    simp only [List.mem_cons, List.mem_singleton, List.not_mem_nil, or_false] at ho
    rcases ho with rfl | rfl | rfl | rfl | rfl | rfl | rfl | rfl | rfl | rfl
    · exact hb.debugcon
    · exact countP_le_one_of_allowed _ .machine rfl (hb.shape .machine)
    · exact countP_le_one_of_allowed _ .cpu rfl (hb.shape .cpu)
    · exact countP_le_one_of_allowed _ .cpu rfl (hb.shape .cpu)
    · exact countP_le_one_of_allowed _ .memory rfl (hb.shape .memory)
    · exact countP_le_one_of_allowed _ .romPath rfl (hb.shape .romPath)
    · exact countP_le_one_of_allowed _ .tpm rfl (hb.shape .tpm)
    · exact countP_le_one_of_allowed _ .tpm rfl (hb.shape .tpm)
    · exact countP_le_one_of_allowed _ .gdbServer rfl (hb.shape .gdbServer)
    · exact countP_le_one_of_allowed _ .monitorPort rfl (hb.shape .monitorPort)
  network := countP_le_one_of_allowed_length _ .network _
    (fun p hp => by rcases of_decide_eq_true hp with h | h <;> rw [h] <;> rfl)
    (hb.shape .network) (by decide)
  display := countP_le_one_of_allowed_length _ .display _
    (fun p hp => by rcases of_decide_eq_true hp with h | h <;> rw [h] <;> rfl)
    (hb.shape .display) (by decide)
  smbios := by
    have h := hb.shape .smbios
    have heq : owned .smbios (pairs b.args) = (pairs b.args).filter (·.1 = "-smbios") :=
      List.filter_congr fun p hp => by simp only [optionOwner_eq_smbios_iff (hb.known p hp)]
    rwa [heq] at h
  serial := hb.serial
  stdio := by
    rw [countP_eq_countP_owned .serialPort _ _ fun p hp => by rw [of_decide_eq_true hp]; rfl]
    exact hb.shape .serialPort

end Consequences

/-- Over every sequence of calls other than `with_custom`, on either machine,
`build()`'s arguments are well-formed option pairs. -/
theorem build_args_wellFormed (executable : PyObj) (arch : QemuArchitecture) (xs : List Call)
    (hxs : ∀ x ∈ xs, x.isCustom = false) :
    WellFormedArgs (run (QemuCommandBuilder.init executable arch) xs).build.2 :=
  (argsInv_run (argsInv_init executable arch) xs hxs).wellFormed

/-- The end-to-end case of a Q35 machine with 2048 MB and networking disabled. -/
theorem wellFormed_q35_memory_no_network :
    (∀ x ∈ [Call.withMemory 2048, .withNetwork (.obj (.bool false)) (.obj .none) (.bool false)],
      x.isCustom = false) ∧
    WellFormedArgs (run (QemuCommandBuilder.init (.str "qemu-system-x86_64") .Q35)
      [.withMemory 2048, .withNetwork (.obj (.bool false)) (.obj .none) (.bool false)]).build.2 :=
  ⟨by decide, build_args_wellFormed _ _ _ (by decide)⟩

end PatinaQemu
