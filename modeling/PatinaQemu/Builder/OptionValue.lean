import PatinaQemu.Builder.Args

set_option autoImplicit false

/-!
# How QEMU reads an option value

QEMU splits a value such as `file=disk.img,format=raw` into fields at single
commas, and reads a doubled comma `,,` as one literal comma (`get_opt_value` in
its option parser). `optFields` is that reading, and `decodedPairs` reads a token
list as option pairs with every value decoded.

The builder inserts paths, drive ids and formats into such values without
doubling their commas. A value `optValue fields` decodes back to `fields`
whenever no field contains a comma (`qemuOptFields_optValue`); a path with a
comma is read as several fields (`virtualDrive_comma_path_split`).

## Main results

* `qemuOptFields_optValue` — comma-free, non-empty fields decode to themselves
* `embedded_paths_decode` — every value carrying a comma-free path decodes to the
  fields its method writes, the path field equal to the path
-/

namespace PatinaQemu

open QemuCommandBuilder

/-- Add a character in front of the first field. -/
def consHead (c : Char) : List (List Char) → List (List Char)
  | [] => [[c]]
  | f :: fs => (c :: f) :: fs

/-- QEMU's reading of an option value: a single comma ends a field, `,,` is a
literal comma. -/
def optFields : List Char → List (List Char)
  | [] => [[]]
  | ',' :: ',' :: rest => consHead ',' (optFields rest)
  | ',' :: rest => [] :: optFields rest
  | c :: rest => consHead c (optFields rest)

/-- The fields QEMU reads in an option value. -/
def qemuOptFields (v : String) : List String := (optFields v.toList).map String.mk

example : qemuOptFields "file=a,,b,if=virtio" = ["file=a,b", "if=virtio"] := by decide

/-- A token list read as option pairs, every value decoded into its fields. -/
def decodedPairs (toks : List String) : List (String × List String) :=
  (pairs toks).map fun p => (p.1, qemuOptFields p.2)

theorem optFields_cons_of_ne {c : Char} (hc : c ≠ ',') (rest : List Char) :
    optFields (c :: rest) = consHead c (optFields rest) := by
  rw [optFields.eq_4] <;> simp [hc]

theorem optFields_of_comma_free : ∀ {xs : List Char}, ',' ∉ xs → optFields xs = [xs]
  | [], _ => rfl
  | c :: rest, h => by
    rw [List.mem_cons, not_or] at h
    rw [optFields_cons_of_ne (Ne.symm h.1), optFields_of_comma_free h.2]
    rfl

/-- A comma after a comma-free field ends the field, unless another comma follows. -/
theorem optFields_append_comma : ∀ {a : List Char} (b : List Char), ',' ∉ a →
    b.head? ≠ some ',' → optFields (a ++ ',' :: b) = a :: optFields b
  | [], b, _, hb => by
    cases b with
    | nil => rfl
    | cons c rest =>
      have hc : c ≠ ',' := fun h => hb (by simp [h])
      rw [List.nil_append, optFields.eq_3 _ (by simp [hc])]
  | c :: a, b, ha, hb => by
    rw [List.mem_cons, not_or] at ha
    rw [List.cons_append, optFields_cons_of_ne (Ne.symm ha.1), optFields_append_comma b ha.2 hb]
    rfl

/-- A field QEMU reads back as written: non-empty and without a comma. -/
def PlainField (f : String) : Prop := f ≠ "" ∧ ',' ∉ f.toList

instance : DecidablePred PlainField := fun _ => inferInstanceAs (Decidable (_ ∧ _))

/-- A plain prefix followed by a comma-free text is a plain field. -/
theorem plainField_append {a : String} (s : String) (plain : PlainField a)
    (commaFree : ',' ∉ s.toList) : PlainField (a ++ s) := by
  refine ⟨fun h => plain.1 (String.ext (List.append_eq_nil.1 (congrArg String.data h)).1), ?_⟩
  simpa [String.toList, String.data_append] using ⟨plain.2, commaFree⟩

theorem toList_optValue_cons_cons (f g : String) (fs : List String) :
    (optValue (f :: g :: fs)).toList = f.toList ++ ',' :: (optValue (g :: fs)).toList := by
  simp [optValue, String.toList]

theorem head_optValue {f : String} (fs : List String) (hf : f ≠ "") :
    (optValue (f :: fs)).toList.head? = f.toList.head? := by
  cases fs with
  | nil => rfl
  | cons g fs =>
    rw [toList_optValue_cons_cons]
    obtain ⟨c, cs, hcs⟩ : ∃ c cs, f.data = c :: cs :=
      List.exists_cons_of_ne_nil fun h => hf (String.ext h)
    simp [String.toList, hcs]

/-- Plain fields are read back exactly. -/
theorem qemuOptFields_optValue : ∀ (fs : List String), fs ≠ [] →
    (∀ f ∈ fs, PlainField f) → qemuOptFields (optValue fs) = fs
  | [f], _, h => by
    rw [qemuOptFields, optValue, optFields_of_comma_free (h f (by simp)).2]
    rfl
  | f :: g :: fs, _, h => by
    have hf := h f (by simp)
    have hg := h g (by simp)
    have hrest := qemuOptFields_optValue (g :: fs) (by simp) fun x hx => h x (by simp [hx])
    have hhead : (optValue (g :: fs)).toList.head? ≠ some ',' := by
      rw [head_optValue _ hg.1]
      exact fun h' => hg.2 (List.mem_of_mem_head? h')
    rw [qemuOptFields, toList_optValue_cons_cons, optFields_append_comma _ hf.2 hhead,
      List.map_cons, ← qemuOptFields, hrest]
    rfl

theorem decodedPairs_cons_optValue (o : String) {fs : List String} (hfs : fs ≠ [])
    (plain : ∀ f ∈ fs, PlainField f) (rest : List String) :
    decodedPairs (o :: optValue fs :: rest) = (o, fs) :: decodedPairs rest := by
  simp [decodedPairs, pairs, qemuOptFields_optValue fs hfs plain]

@[simp] theorem decodedPairs_nil : decodedPairs [] = [] := rfl

/-- A call took `b` to `b'` by appending option pairs whose values QEMU reads as
`expected`. -/
def EmitsDecoded (b b' : QemuCommandBuilder) (expected : List (String × List String)) : Prop :=
  ∃ toks, b'.args = b.args ++ toks ∧ decodedPairs toks = expected

theorem emitsDecoded_once (b : QemuCommandBuilder) {c : Category} (h : b.added c = false)
    (toks : List String) : EmitsDecoded b (b.once c (some toks)) (decodedPairs toks) := by
  rw [once_some_of_not_added b h]
  exact ⟨toks, rfl, rfl⟩

theorem commaFree_append {a s : String} (ha : ',' ∉ a.toList) (hs : ',' ∉ s.toList) :
    ',' ∉ (a ++ s).toList := by
  simpa [String.toList, String.data_append] using ⟨ha, hs⟩

theorem storageFormat_eq_some {ext f : String} (h : storageFormat ext = some f) :
    f = "raw" ∨ f = "qcow2" ∨ f = "iso" := by
  unfold storageFormat at h
  split_ifs at h <;> simp_all

/-! ## Values that carry a path

Each method that writes a path into an option value, with the path, the drive id
and the format free of commas, emits values that QEMU reads as the fields the
method writes. -/

section Embedded

variable {p q fmt i : String}

theorem decodedPairs_firmwareArgs_Q35 (code vars : PyObj) (commaFree : ',' ∉ code.toStr.toList)
    (varsCommaFree : ',' ∉ vars.toStr.toList) :
    decodedPairs (firmwareArgs .Q35 code vars) =
      [("-drive", ["if=pflash", "format=raw", "unit=0", "file=" ++ code.toStr, "readonly=on"]),
       ("-drive", ["if=pflash", "format=raw", "unit=1", "file=" ++ vars.toStr])] := by
  rw [firmwareArgs, decodedPairs_cons_optValue _ (by simp)
      (by simp +decide (disch := first | decide | assumption) [plainField_append]),
    decodedPairs_cons_optValue _ (by simp)
      (by simp +decide (disch := first | decide | assumption) [plainField_append])]
  rfl

theorem decodedPairs_firmwareArgs_SBSA (code vars : PyObj) (commaFree : ',' ∉ code.toStr.toList)
    (varsCommaFree : ',' ∉ vars.toStr.toList) :
    decodedPairs (firmwareArgs .SBSA code vars) =
      (if vars.truthy then
        [("-drive", ["if=pflash", "format=raw", "unit=0", "file=" ++ vars.toStr])] else []) ++
       [("-drive", ["if=pflash", "format=raw", "unit=1", "file=" ++ code.toStr, "readonly=on"])] := by
  have codeDrive : decodedPairs
      ["-drive", optValue ["if=pflash", "format=raw", "unit=1", "file=" ++ code.toStr, "readonly=on"]] =
      [("-drive", ["if=pflash", "format=raw", "unit=1", "file=" ++ code.toStr, "readonly=on"])] :=
    decodedPairs_cons_optValue _ (by simp)
      (by simp +decide (disch := first | decide | assumption) [plainField_append]) []
  rw [firmwareArgs]
  split
  · rw [List.cons_append, List.cons_append, decodedPairs_cons_optValue _ (by simp)
        (by simp +decide (disch := first | decide | assumption) [plainField_append]),
      List.nil_append, codeDrive]
    rfl
  · exact codeDrive

theorem decodedPairs_usbStorageArgs (commaFree : ',' ∉ p.toList)
    (fmtCommaFree : ',' ∉ fmt.toList) (idCommaFree : ',' ∉ i.toList) :
    decodedPairs (usbStorageArgs p fmt i) =
      [("-drive", ["file=" ++ p, "format=" ++ fmt, "media=disk", "if=none", "id=" ++ i]),
       ("-device", ["usb-storage", "bus=usb.0", "drive=" ++ i])] := by
  rw [usbStorageArgs, decodedPairs_cons_optValue _ (by simp)
      (by simp +decide (disch := first | decide | assumption) [plainField_append]),
    decodedPairs_cons_optValue _ (by simp)
      (by simp +decide (disch := first | decide | assumption) [plainField_append])]
  rfl

theorem decodedPairs_osStorageArgs (arch : QemuArchitecture) {file fmt : String}
    (commaFree : ',' ∉ file.toList) (fmtCommaFree : ',' ∉ fmt.toList) (notIso : fmt ≠ "iso") :
    decodedPairs (osStorageArgs arch file fmt) =
      match arch with
      | .Q35 => [("-drive", ["file=" ++ file, "format=" ++ fmt, "if=none", "id=os_nvme"]),
          ("-device", ["nvme", "serial=nvme-1", "drive=os_nvme"])]
      | .SBSA => [("-drive", ["file=" ++ file, "format=" ++ fmt, "if=none", "id=os_disk"]),
          ("-device", ["ahci", "id=ahci"]), ("-device", ["ide-hd", "drive=os_disk", "bus=ahci.0"])] := by
  rw [osStorageArgs.eq_def, if_neg notIso]
  cases arch
  all_goals
    repeat rw [decodedPairs_cons_optValue _ (by simp)
      (by simp +decide (disch := first | decide | assumption) [plainField_append])]
    rfl

theorem decodedPairs_tpmArgs (arch : QemuArchitecture) (commaFree : ',' ∉ p.toList) :
    decodedPairs (tpmArgs arch p) =
      [("-chardev", ["socket", "id=chrtpm", "path=" ++ p]),
       ("-tpmdev", ["emulator", "id=tpm0", "chardev=chrtpm"])] ++
      (match arch with
        | .Q35 => [("-device", ["tpm-tis", "tpmdev=tpm0"])]
        | .SBSA => []) := by
  unfold tpmArgs
  rw [List.cons_append, List.cons_append, decodedPairs_cons_optValue _ (by simp)
      (by simp +decide (disch := first | decide | assumption) [plainField_append]),
    List.cons_append, List.cons_append, decodedPairs_cons_optValue _ (by simp) (by decide)]
  cases arch <;> rfl

/-- The id `with_usb_storage` gives a disk: the explicit one, or the counter's. -/
theorem withUsbStorage_args (b : QemuCommandBuilder) (fs : FileSystem)
    (drive_id : Option String) (fmt : String) (nonempty : p ≠ "") :
    (b.withUsbStorage fs (some p) drive_id fmt).args = b.args ++
      let id := (given drive_id).getD ("usb_storage_" ++ toString b.usbStorageIndex)
      if fs.isfile p then usbStorageArgs p fmt id
      else if fs.isdir p then usbStorageArgs ("fat:rw:" ++ p) fmt id else [] := by
  rw [withUsbStorage, given_some, if_neg nonempty]
  cases given drive_id <;> by_cases hf : fs.isfile p <;> by_cases hd : fs.isdir p <;>
    simp [attachUsbDisk, hf, hd]

theorem usbStorageId_commaFree (b : QemuCommandBuilder) {drive_id : Option String}
    (idCommaFree : ∀ i, given drive_id = some i → ',' ∉ i.toList) :
    ',' ∉ ((given drive_id).getD ("usb_storage_" ++ toString b.usbStorageIndex)).toList := by
  cases h : given drive_id with
  | some i => exact idCommaFree i h
  | none => exact commaFree_append (by decide) (not_mem_toString (by decide) _)

variable (b : QemuCommandBuilder) (fs : FileSystem)

theorem withFirmware_emitsDecoded_Q35 (plain : PlainField p) (varsCommaFree : ',' ∉ q.toList)
    (unset : b.added .firmware = false)
    (arch : b.architecture = .Q35) :
    EmitsDecoded b (b.withFirmware (.str p) (.str q))
      [("-drive", ["if=pflash", "format=raw", "unit=0", "file=" ++ p, "readonly=on"]),
       ("-drive", ["if=pflash", "format=raw", "unit=1", "file=" ++ q])] := by
  have drives : decodedPairs (firmwareArgs .Q35 (.str p) (.str q)) =
      [("-drive", ["if=pflash", "format=raw", "unit=0", "file=" ++ p, "readonly=on"]),
       ("-drive", ["if=pflash", "format=raw", "unit=1", "file=" ++ q])] :=
    decodedPairs_firmwareArgs_Q35 (.str p) (.str q) plain.2 varsCommaFree
  rw [withFirmware, arch, if_pos (by simpa using plain.1), ← drives]
  exact emitsDecoded_once b unset _

theorem withFirmware_emitsDecoded_SBSA (plain : PlainField p) (varsCommaFree : ',' ∉ q.toList)
    (unset : b.added .firmware = false)
    (arch : b.architecture = .SBSA) :
    EmitsDecoded b (b.withFirmware (.str p) (.str q))
      ((if q = "" then [] else [("-drive", ["if=pflash", "format=raw", "unit=0", "file=" ++ q])]) ++
        [("-drive", ["if=pflash", "format=raw", "unit=1", "file=" ++ p, "readonly=on"])]) := by
  have drives : decodedPairs (firmwareArgs .SBSA (.str p) (.str q)) =
      (if q = "" then [] else [("-drive", ["if=pflash", "format=raw", "unit=0", "file=" ++ q])]) ++
        [("-drive", ["if=pflash", "format=raw", "unit=1", "file=" ++ p, "readonly=on"])] := by
    rw [decodedPairs_firmwareArgs_SBSA (.str p) (.str q) plain.2 varsCommaFree]
    by_cases hq : q = "" <;> simp [hq]
  rw [withFirmware, arch, if_pos (by simpa using plain.1), ← drives]
  exact emitsDecoded_once b unset _

section UsbStorage

variable (drive_id : Option String) (drive_format : String)

theorem withUsbStorage_emitsDecoded_file (plain : PlainField p)
    (fmtCommaFree : ',' ∉ drive_format.toList)
    (idCommaFree : ∀ i, given drive_id = some i → ',' ∉ i.toList) (isFile : fs.isfile p = true) :
    let id := (given drive_id).getD ("usb_storage_" ++ toString b.usbStorageIndex)
    EmitsDecoded b (b.withUsbStorage fs (some p) drive_id drive_format)
      [("-drive", ["file=" ++ p, "format=" ++ drive_format, "media=disk", "if=none", "id=" ++ id]),
       ("-device", ["usb-storage", "bus=usb.0", "drive=" ++ id])] := by
  have usb := withUsbStorage_args b fs drive_id drive_format plain.1
  rw [if_pos isFile] at usb
  exact ⟨_, usb, decodedPairs_usbStorageArgs plain.2 fmtCommaFree
    (usbStorageId_commaFree b idCommaFree)⟩

theorem withUsbStorage_emitsDecoded_dir (plain : PlainField p)
    (fmtCommaFree : ',' ∉ drive_format.toList)
    (idCommaFree : ∀ i, given drive_id = some i → ',' ∉ i.toList) (notFile : fs.isfile p = false)
    (isDir : fs.isdir p = true) :
    let id := (given drive_id).getD ("usb_storage_" ++ toString b.usbStorageIndex)
    EmitsDecoded b (b.withUsbStorage fs (some p) drive_id drive_format)
      [("-drive", ["file=fat:rw:" ++ p, "format=" ++ drive_format, "media=disk", "if=none",
          "id=" ++ id]),
       ("-device", ["usb-storage", "bus=usb.0", "drive=" ++ id])] := by
  have usb := withUsbStorage_args b fs drive_id drive_format plain.1
  rw [if_neg (by simp [notFile]), if_pos isDir] at usb
  have fatField : "file=fat:rw:" ++ p = "file=" ++ ("fat:rw:" ++ p) := by
    rw [← String.append_assoc]; rfl
  exact ⟨_, usb, fatField ▸ decodedPairs_usbStorageArgs (commaFree_append (by decide) plain.2)
    fmtCommaFree (usbStorageId_commaFree b idCommaFree)⟩

end UsbStorage

theorem withVirtualDrive_emitsDecoded_file (plain : PlainField p) (isFile : fs.isfile p = true) :
    EmitsDecoded b (b.withVirtualDrive fs (some p)) [("-drive", ["file=" ++ p, "if=virtio"])] := by
  have commaFree := plain.2
  simp only [withVirtualDrive, given_some, if_neg plain.1, isFile, if_true]
  exact ⟨_, rfl, decodedPairs_cons_optValue _ (by simp)
    (by simp +decide (disch := first | decide | assumption) [plainField_append]) []⟩

theorem withVirtualDrive_emitsDecoded_dir (plain : PlainField p) (notFile : fs.isfile p = false)
    (isDir : fs.isdir p = true) :
    EmitsDecoded b (b.withVirtualDrive fs (some p))
      [("-drive", ["file=fat:rw:" ++ p, "format=raw", "media=disk"])] := by
  have commaFree := plain.2
  simp only [withVirtualDrive, given_some, if_neg plain.1, notFile, isDir]
  exact ⟨_, rfl, decodedPairs_cons_optValue _ (by simp)
    (by simp +decide (disch := first | decide | assumption) [plainField_append]) []⟩

theorem withOsStorage_emitsDecoded (plain : PlainField p) {flavour : PathFlavour} {f : String}
    (known : storageFormat (osExtension (flavour.suffix p)) = some f) (notIso : f ≠ "iso") :
    ∃ b', b.withOsStorage flavour (.str p) = .ok b' ∧ EmitsDecoded b b'
      (match b.architecture with
        | .Q35 => [("-drive", ["file=" ++ p, "format=" ++ f, "if=none", "id=os_nvme"]),
            ("-device", ["nvme", "serial=nvme-1", "drive=os_nvme"])]
        | .SBSA => [("-drive", ["file=" ++ p, "format=" ++ f, "if=none", "id=os_disk"]),
            ("-device", ["ahci", "id=ahci"]), ("-device", ["ide-hd", "drive=os_disk", "bus=ahci.0"])]) := by
  have commaFree := plain.2
  have fmtCommaFree : ',' ∉ f.toList := by
    rcases storageFormat_eq_some known with rfl | rfl | rfl <;> decide
  refine ⟨b.extend (osStorageArgs b.architecture p f),
    by simp [withOsStorage, plain.1, pathSuffix, known, bind, Except.bind],
    _, rfl, decodedPairs_osStorageArgs _ commaFree fmtCommaFree notIso⟩

theorem withTpm_emitsDecoded (plain : PlainField p) (unset : b.added .tpm = false) :
    EmitsDecoded b (b.withTpm (some p))
      ([("-chardev", ["socket", "id=chrtpm", "path=" ++ p]),
        ("-tpmdev", ["emulator", "id=tpm0", "chardev=chrtpm"])] ++
       (match b.architecture with
        | .Q35 => [("-device", ["tpm-tis", "tpmdev=tpm0"])]
        | .SBSA => [])) := by
  rw [withTpm, Option.map_some', ← decodedPairs_tpmArgs _ plain.2]
  exact emitsDecoded_once b unset _

end Embedded

/-- Every value that carries a comma-free path `p` is read by QEMU as the fields
its method writes, the `file=` or `path=` field holding `p` (after `fat:rw:` for a
directory), provided the vars image, the USB drive format and the drive id have no
comma either. -/
theorem embedded_paths_decode (b : QemuCommandBuilder) (fs : FileSystem)
    (p q drive_format : String) (drive_id : Option String) (plain : PlainField p)
    (varsCommaFree : ',' ∉ q.toList) (fmtCommaFree : ',' ∉ drive_format.toList)
    (idCommaFree : ∀ i, given drive_id = some i → ',' ∉ i.toList) :
    let id := (given drive_id).getD ("usb_storage_" ++ toString b.usbStorageIndex)
    (b.added .firmware = false → b.architecture = .Q35 →
      EmitsDecoded b (b.withFirmware (.str p) (.str q))
        [("-drive", ["if=pflash", "format=raw", "unit=0", "file=" ++ p, "readonly=on"]),
         ("-drive", ["if=pflash", "format=raw", "unit=1", "file=" ++ q])]) ∧
    (b.added .firmware = false → b.architecture = .SBSA →
      EmitsDecoded b (b.withFirmware (.str p) (.str q))
        ((if q = "" then [] else
            [("-drive", ["if=pflash", "format=raw", "unit=0", "file=" ++ q])]) ++
          [("-drive", ["if=pflash", "format=raw", "unit=1", "file=" ++ p, "readonly=on"])])) ∧
    (fs.isfile p = true →
      EmitsDecoded b (b.withUsbStorage fs (some p) drive_id drive_format)
        [("-drive", ["file=" ++ p, "format=" ++ drive_format, "media=disk", "if=none", "id=" ++ id]),
         ("-device", ["usb-storage", "bus=usb.0", "drive=" ++ id])]) ∧
    (fs.isfile p = false → fs.isdir p = true →
      EmitsDecoded b (b.withUsbStorage fs (some p) drive_id drive_format)
        [("-drive", ["file=fat:rw:" ++ p, "format=" ++ drive_format, "media=disk", "if=none",
            "id=" ++ id]),
         ("-device", ["usb-storage", "bus=usb.0", "drive=" ++ id])]) ∧
    (fs.isfile p = true →
      EmitsDecoded b (b.withVirtualDrive fs (some p)) [("-drive", ["file=" ++ p, "if=virtio"])]) ∧
    (fs.isfile p = false → fs.isdir p = true →
      EmitsDecoded b (b.withVirtualDrive fs (some p))
        [("-drive", ["file=fat:rw:" ++ p, "format=raw", "media=disk"])]) ∧
    (∀ flavour f, storageFormat (osExtension (flavour.suffix p)) = some f → f ≠ "iso" →
      ∃ b', b.withOsStorage flavour (.str p) = .ok b' ∧ EmitsDecoded b b'
        (match b.architecture with
          | .Q35 => [("-drive", ["file=" ++ p, "format=" ++ f, "if=none", "id=os_nvme"]),
              ("-device", ["nvme", "serial=nvme-1", "drive=os_nvme"])]
          | .SBSA => [("-drive", ["file=" ++ p, "format=" ++ f, "if=none", "id=os_disk"]),
              ("-device", ["ahci", "id=ahci"]), ("-device", ["ide-hd", "drive=os_disk", "bus=ahci.0"])])) ∧
    (b.added .tpm = false →
      EmitsDecoded b (b.withTpm (some p))
        ([("-chardev", ["socket", "id=chrtpm", "path=" ++ p]),
          ("-tpmdev", ["emulator", "id=tpm0", "chardev=chrtpm"])] ++
         (match b.architecture with
          | .Q35 => [("-device", ["tpm-tis", "tpmdev=tpm0"])]
          | .SBSA => []))) :=
  ⟨withFirmware_emitsDecoded_Q35 b plain varsCommaFree,
    withFirmware_emitsDecoded_SBSA b plain varsCommaFree,
    withUsbStorage_emitsDecoded_file b fs drive_id drive_format plain fmtCommaFree idCommaFree,
    withUsbStorage_emitsDecoded_dir b fs drive_id drive_format plain fmtCommaFree idCommaFree,
    withVirtualDrive_emitsDecoded_file b fs plain,
    withVirtualDrive_emitsDecoded_dir b fs plain,
    fun _ _ => withOsStorage_emitsDecoded b plain,
    withTpm_emitsDecoded b plain⟩

theorem virtualDrive_disk_img_decoded :
    EmitsDecoded (init (.str "qemu-system-aarch64") .SBSA)
      ((init (.str "qemu-system-aarch64") .SBSA).withVirtualDrive
        ⟨fun _ => true, fun _ => false⟩ (some "disk.img"))
      [("-drive", ["file=" ++ "disk.img", "if=virtio"])] :=
  (embedded_paths_decode _ ⟨fun _ => true, fun _ => false⟩ "disk.img" "" "raw" none (by decide)
    (by decide) (by decide) (by simp)).2.2.2.2.1 rfl

/-- A comma in a path splits the drive's `file=` field in two. -/
theorem virtualDrive_comma_path_split :
    let b := (init (.str "qemu-system-aarch64") .SBSA).withVirtualDrive
      ⟨fun _ => true, fun _ => false⟩ (some "a,b")
    b.args = ["-drive", optValue ["file=" ++ "a,b", "if=virtio"]] ∧
      decodedPairs b.args = [("-drive", ["file=a", "b", "if=virtio"])] := by decide

end PatinaQemu
