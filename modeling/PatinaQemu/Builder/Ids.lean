import PatinaQemu.Builder.Declarations
import Mathlib.Data.List.Nodup

set_option autoImplicit false

/-!
# The ids of drives and devices

QEMU keeps one namespace of ids for block devices (the `id=` fields of `-drive`
values) and one for devices (those of `-device` values), and refuses an id declared
twice in one of them. The builder names a USB disk by its explicit id or by its
counter (`usb_storage_<n>`), the OS disk `os_nvme` (Q35) or `os_disk` (SBSA), and the
devices `usb`, `input0`, `input1` and `ahci`.

The counter only grows and the guarded methods declare their device once, so the
ids stay distinct as long as the explicit ids are distinct and not ones the builder
generates, and `with_os_storage`, which has no guard, attaches at most one disk image
(an ISO image goes to `-cdrom`, which declares no id). A second disk image declares
`os_nvme` again (`osStorage_twice_duplicates_drive_id`).

## Main definitions

* `idValue`, `declaredIds` — the `id=` values of the declarations of one kind
* `explicitUsbIds`, `GeneratedId`, `deviceOwner`

## Main results

* `driveIds_declaresRun_nodup`, `deviceIds_declaresRun_nodup` — over a run
* `declared_ids_distinct` — no id is declared twice in either namespace
-/

namespace PatinaQemu

open QemuCommandBuilder

/-- The value of an `id=` field. -/
def idValue (f : String) : Option String :=
  match f.toList with
  | 'i' :: 'd' :: '=' :: v => some ⟨v⟩
  | _ => none

@[simp] theorem idValue_id (s : String) : idValue ("id=" ++ s) = some s := rfl

/-- The ids that the declarations of kind `o` (`-drive` or `-device`) carry. -/
def declaredIds (o : String) (ds : List (String × List String)) : List String :=
  (ds.filter (·.1 = o)).flatMap fun d => d.2.filterMap idValue

@[simp] theorem declaredIds_nil (o : String) : declaredIds o [] = [] := rfl

@[simp] theorem declaredIds_append (o : String) (ds es : List (String × List String)) :
    declaredIds o (ds ++ es) = declaredIds o ds ++ declaredIds o es := by
  simp [declaredIds]

/-- Declarations without an `id=` field declare no id, of either kind. -/
theorem declaredIds_eq_nil {o : String} {ds : List (String × List String)}
    (noId : ∀ d ∈ ds, d.2.filterMap idValue = []) : declaredIds o ds = [] :=
  List.flatMap_eq_nil_iff.2 fun d hd => noId d (List.mem_of_mem_filter hd)

/-- The ids passed explicitly to `with_usb_storage`. -/
def explicitUsbIds : List Call → List String
  | [] => []
  | .withUsbStorage _ _ i _ :: xs => (given i).toList ++ explicitUsbIds xs
  | _ :: xs => explicitUsbIds xs

/-- Whether the call is a `with_os_storage` that attaches its image as a disk: a truthy path
of a known type other than an ISO image. Whether it does depends on the call alone, as the
method has no guard. -/
def Call.attachesOsDisk : Call → Bool
  | .withOsStorage flavour p =>
    match osFormat flavour p with
    | some f => f != "iso"
    | none => false
  | _ => false

/-- An id the builder generates itself: a counted USB disk's or the OS disk's. -/
def GeneratedId (i : String) : Prop :=
  (∃ n : Nat, i = "usb_storage_" ++ toString n) ∨ i = "os_nvme" ∨ i = "os_disk"

/-- The guarded category whose method declares the device with id `i`. -/
def deviceOwner (i : String) : Option Category :=
  if i = "usb" then some .usbController
  else if i = "input0" then some .usbMouse
  else if i = "input1" then some .usbKeyboard
  else none

/-! ## The ids one call declares -/

section Declares

variable (b : QemuCommandBuilder)

theorem declaredIds_flashDrives (o : String) (arch : QemuArchitecture) (code vars : PyObj) :
    declaredIds o (Call.flashDrives arch code vars) = [] := by
  refine declaredIds_eq_nil ?_
  unfold Call.flashDrives
  cases arch <;> [skip; cases vars.truthy] <;>
    simp only [Bool.false_eq_true, if_true, if_false, List.nil_append,
      List.singleton_append, List.forall_mem_cons, List.not_mem_nil, false_implies, implies_true,
      and_true] <;>
    repeat' constructor

theorem declaredIds_usbDisk (file fmt id : String) :
    declaredIds "-drive" (Call.usbDisk file fmt id) = [id] ∧
      declaredIds "-device" (Call.usbDisk file fmt id) = [] := ⟨rfl, rfl⟩

theorem declaredIds_osDisk (arch : QemuArchitecture) (file fmt : String) :
    declaredIds "-drive" (Call.osDisk arch file fmt) =
        [match arch with | .Q35 => "os_nvme" | .SBSA => "os_disk"] ∧
      declaredIds "-device" (Call.osDisk arch file fmt) =
        match arch with | .Q35 => [] | .SBSA => ["ahci"] := by
  cases arch <;> exact ⟨rfl, rfl⟩

/-- A call declares at most one drive id: an explicit USB id, the counter's id when it
takes one, or the OS disk's. -/
theorem driveIds_declares (x : Call) :
    (declaredIds "-drive" (x.declares b)).length ≤ 1 ∧
    ∀ i ∈ declaredIds "-drive" (x.declares b),
      i ∈ explicitUsbIds [x] ∨
      (i = "usb_storage_" ++ toString b.usbStorageIndex ∧ x.takesUsbIndex = true) ∨
      ((i = "os_nvme" ∨ i = "os_disk") ∧ x.attachesOsDisk = true) := by
  cases x with
  | withFirmware code vars =>
    simp only [Call.declares]
    split_ifs <;> simp [declaredIds_flashDrives]
  | withUsbStorage fs f i fmt =>
    simp only [Call.declares]
    split
    · simp
    · rename_i p hp
      split_ifs <;> simp only [(declaredIds_usbDisk _ _ _).1, declaredIds_nil] <;>
        cases hi : given i <;> simp [explicitUsbIds, Call.takesUsbIndex, hp, hi]
  | withOsStorage flavour p =>
    simp only [Call.declares]
    split
    · rename_i f format
      split_ifs with iso
      · simp
      · cases b.architecture <;> simp [(declaredIds_osDisk _ _ _).1, Call.attachesOsDisk, format, iso]
    · simp
  | _ =>
    simp only [Call.declares]
    (try split) <;> (try split_ifs) <;> (try split) <;> exact ⟨Nat.zero_le _, fun _ h => by cases h⟩

theorem once_added_self {c : Category} (h : b.added c = false) (toks : List String) :
    (b.once c (some toks)).added c = true := by
  simp [once_some_of_not_added b h]

/-- A device that a call declares while its category is unconfigured, and whose id names that
category. -/
theorem guardedDevice_declares {x : Call} {c : Category} {toks : List String} {i : String}
    (declared : x.declares b = if b.added c then [] else [("-device", toks)])
    (named : toks.filterMap idValue = [i]) (owner : deviceOwner i = some c)
    (configures : b.added c = false → (step b x).added c = true) :
    (declaredIds "-device" (x.declares b)).length ≤ 1 ∧
    ∀ i ∈ declaredIds "-device" (x.declares b),
      (∃ c, deviceOwner i = some c ∧ b.added c = false ∧ (step b x).added c = true) ∨
      (i = "ahci" ∧ x.attachesOsDisk = true) := by
  rw [declared]
  cases unset : b.added c
  · have ids : declaredIds "-device" [("-device", toks)] = [i] := by simp [declaredIds, named]
    simp only [Bool.false_eq_true, if_false, ids]
    exact ⟨le_refl _, fun i' hi => .inl ⟨c, List.mem_singleton.1 hi ▸ owner, unset, configures unset⟩⟩
  · exact ⟨Nat.zero_le _, fun _ h => by cases h⟩

/-- A call declares at most one device id: that of a guarded device whose category it
configures now, or `ahci` when it attaches an OS image on SBSA. -/
theorem deviceIds_declares (x : Call) :
    (declaredIds "-device" (x.declares b)).length ≤ 1 ∧
    ∀ i ∈ declaredIds "-device" (x.declares b),
      (∃ c, deviceOwner i = some c ∧ b.added c = false ∧ (step b x).added c = true) ∨
      (i = "ahci" ∧ x.attachesOsDisk = true) := by
  cases x with
  | withUsbController => exact guardedDevice_declares b rfl rfl rfl (once_added_self b · _)
  | withUsbMouse => exact guardedDevice_declares b rfl rfl rfl (once_added_self b · _)
  | withUsbKeyboard => exact guardedDevice_declares b rfl rfl rfl (once_added_self b · _)
  | withFirmware code vars =>
    simp only [Call.declares]
    split_ifs <;> simp [declaredIds_flashDrives]
  | withOsStorage flavour p =>
    simp only [Call.declares]
    split
    · rename_i f format
      split_ifs with iso
      · exact ⟨Nat.zero_le _, fun _ h => by cases h⟩
      · cases b.architecture <;> simp [(declaredIds_osDisk _ _ _).2, Call.attachesOsDisk, format, iso]
    · exact ⟨Nat.zero_le _, fun _ h => by cases h⟩
  | withNetwork e f u =>
    have none : declaredIds "-device" ((Call.withNetwork e f u).declares b) = [] := by
      simp only [Call.declares]
      split_ifs <;> first | rfl | (rcases netdevConfig f with _ | _ <;> rfl)
    simp [none]
  | _ =>
    simp only [Call.declares]
    (try split) <;> (try split_ifs) <;> exact ⟨Nat.zero_le _, fun _ h => by cases h⟩

end Declares

/-! ## Over a run -/

theorem explicitUsbIds_cons (x : Call) (xs : List Call) :
    explicitUsbIds (x :: xs) = explicitUsbIds [x] ++ explicitUsbIds xs := by
  cases x <;> simp [explicitUsbIds]

theorem counterId_injective {m n : Nat}
    (h : "usb_storage_" ++ toString m = "usb_storage_" ++ toString n) : m = n := by
  apply toString_injective
  have := congrArg String.toList h
  simp only [String.toList, String.data_append, List.append_cancel_left_eq] at this
  exact String.ext this

theorem counterId_ne_os (n : Nat) :
    "os_nvme" ≠ "usb_storage_" ++ toString n ∧ "os_disk" ≠ "usb_storage_" ++ toString n :=
  ⟨ne_append_of_not_isPrefix (by decide) _, ne_append_of_not_isPrefix (by decide) _⟩

theorem nodup_of_length_le_one {l : List String} (h : l.length ≤ 1) : l.Nodup := by
  match l, h with
  | [], _ => exact List.nodup_nil
  | [_], _ => exact List.nodup_singleton _

theorem length_filter_le_of_cons (p : Call → Bool) (x : Call) (xs : List Call) :
    (xs.filter p).length ≤ ((x :: xs).filter p).length :=
  ((List.sublist_cons_self x xs).filter p).length_le

/-- Every drive id a run declares is an explicit id of one of its calls, a counter id
from the counter's value on, or an OS disk's id from one of its `with_os_storage`
calls. -/
theorem driveIds_declaresRun_mem {b : QemuCommandBuilder} (xs : List Call) :
    ∀ i ∈ declaredIds "-drive" (declaresRun b xs),
      i ∈ explicitUsbIds xs ∨
      (∃ k, b.usbStorageIndex ≤ k ∧ i = "usb_storage_" ++ toString k) ∨
      ((i = "os_nvme" ∨ i = "os_disk") ∧ ∃ x ∈ xs, x.attachesOsDisk = true) := by
  induction xs generalizing b with
  | nil => simp [declaresRun]
  | cons x xs ih =>
    intro i hi
    rw [declaresRun, declaredIds_append, List.mem_append] at hi
    rw [explicitUsbIds_cons]
    rcases hi with hi | hi
    · rcases (driveIds_declares b x).2 i hi with h | ⟨rfl, -⟩ | ⟨h, hos⟩
      · exact .inl (List.mem_append_left _ h)
      · exact .inr (.inl ⟨_, le_rfl, rfl⟩)
      · exact .inr (.inr ⟨h, x, List.mem_cons_self _ _, hos⟩)
    · rcases ih i hi with h | ⟨k, hk, rfl⟩ | ⟨h, y, hy, hos⟩
      · exact .inl (List.mem_append_right _ h)
      · have step := usbStorageIndex_step b x
        exact .inr (.inl ⟨k, by split at step <;> omega, rfl⟩)
      · exact .inr (.inr ⟨h, y, List.mem_cons_of_mem _ hy, hos⟩)

/-- Every device id a run declares belongs to a guarded device still unconfigured when
the run starts, or is `ahci` from one of its `with_os_storage` calls. -/
theorem deviceIds_declaresRun_mem {b : QemuCommandBuilder} (xs : List Call) :
    ∀ i ∈ declaredIds "-device" (declaresRun b xs),
      (∃ c, deviceOwner i = some c ∧ b.added c = false) ∨
      (i = "ahci" ∧ ∃ x ∈ xs, x.attachesOsDisk = true) := by
  induction xs generalizing b with
  | nil => simp [declaresRun]
  | cons x xs ih =>
    intro i hi
    rw [declaresRun, declaredIds_append, List.mem_append] at hi
    rcases hi with hi | hi
    · rcases (deviceIds_declares b x).2 i hi with ⟨c, hc, hb, -⟩ | ⟨h, hos⟩
      · exact .inl ⟨c, hc, hb⟩
      · exact .inr ⟨h, x, List.mem_cons_self _ _, hos⟩
    · rcases ih i hi with ⟨c, hc, hs⟩ | ⟨h, y, hy, hos⟩
      · refine .inl ⟨c, hc, ?_⟩
        cases hb : b.added c
        · rfl
        · simp [added_step_of_added x hb] at hs
      · exact .inr ⟨h, y, List.mem_cons_of_mem _ hy, hos⟩

section Distinct

variable {b : QemuCommandBuilder}

/-- The drive ids of a run are distinct when its explicit USB ids are distinct and none
is an id the builder generates, and at most one of its calls attaches an OS disk. -/
theorem driveIds_declaresRun_nodup (xs : List Call)
    (explicitDistinct : (explicitUsbIds xs).Nodup)
    (explicitOwn : ∀ i ∈ explicitUsbIds xs, ¬ GeneratedId i)
    (oneOsStorage : (xs.filter Call.attachesOsDisk).length ≤ 1) :
    (declaredIds "-drive" (declaresRun b xs)).Nodup := by
  induction xs generalizing b with
  | nil => simp [declaresRun]
  | cons x xs ih =>
    rw [explicitUsbIds_cons] at explicitDistinct explicitOwn
    have hx := driveIds_declares b x
    rw [declaresRun, declaredIds_append, List.nodup_append]
    refine ⟨nodup_of_length_le_one hx.1,
      ih (explicitDistinct.sublist (List.sublist_append_right _ _))
        (fun i hi => explicitOwn i (List.mem_append_right _ hi))
        ((length_filter_le_of_cons _ x xs).trans oneOsStorage), fun i hi hj => ?_⟩
    rcases hx.2 i hi with h | ⟨rfl, ht⟩ | ⟨h, hos⟩ <;>
      rcases driveIds_declaresRun_mem xs _ hj with h' | ⟨k, hk, e⟩ | ⟨h', y, hy, hos'⟩
    · exact List.disjoint_of_nodup_append explicitDistinct h h'
    · exact explicitOwn i (List.mem_append_left _ h) (.inl ⟨k, e⟩)
    · exact explicitOwn i (List.mem_append_left _ h) (.inr h')
    · exact explicitOwn _ (List.mem_append_right _ h') (.inl ⟨_, rfl⟩)
    · have step := usbStorageIndex_step b x
      rw [if_pos ht] at step
      have := counterId_injective e
      omega
    · rcases h' with h' | h'
      · exact (counterId_ne_os _).1 h'.symm
      · exact (counterId_ne_os _).2 h'.symm
    · exact explicitOwn _ (List.mem_append_right _ h') (.inr h)
    · rcases h with rfl | rfl
      · exact (counterId_ne_os k).1 e
      · exact (counterId_ne_os k).2 e
    · have : 2 ≤ ((x :: xs).filter Call.attachesOsDisk).length := by
        rw [List.filter_cons_of_pos hos, List.length_cons]
        exact Nat.succ_le_succ (List.length_pos_of_mem (List.mem_filter.2 ⟨hy, hos'⟩))
      omega

/-- The device ids of a run are distinct when at most one of its calls attaches an OS disk. -/
theorem deviceIds_declaresRun_nodup (xs : List Call)
    (oneOsStorage : (xs.filter Call.attachesOsDisk).length ≤ 1) :
    (declaredIds "-device" (declaresRun b xs)).Nodup := by
  induction xs generalizing b with
  | nil => simp [declaresRun]
  | cons x xs ih =>
    have hx := deviceIds_declares b x
    rw [declaresRun, declaredIds_append, List.nodup_append]
    refine ⟨nodup_of_length_le_one hx.1,
      ih ((length_filter_le_of_cons _ x xs).trans oneOsStorage), fun i hi hj => ?_⟩
    rcases hx.2 i hi with ⟨c, hc, -, hset⟩ | ⟨rfl, hos⟩ <;>
      rcases deviceIds_declaresRun_mem xs _ hj with ⟨c', hc', hunset⟩ | ⟨h', y, hy, hos'⟩
    · rw [hc] at hc'
      cases hc'
      simp [hset] at hunset
    · subst h'
      simp [deviceOwner] at hc
    · simp [deviceOwner] at hc'
    · have : 2 ≤ ((x :: xs).filter Call.attachesOsDisk).length := by
        rw [List.filter_cons_of_pos hos, List.length_cons]
        exact Nat.succ_le_succ (List.length_pos_of_mem (List.mem_filter.2 ⟨hy, hos'⟩))
      omega

end Distinct

/-- In every run without `with_custom` whose paths, drive ids and formats contain no
comma, whose explicit USB ids are distinct and never an id the builder generates, and
in which at most one `with_os_storage` call attaches a disk image (any number may skip
`None`, attach an ISO image or raise), no id is declared twice: the `id=` values of the
`-drive` values are distinct, and so are those of the `-device` values. -/
theorem declared_ids_distinct (executable : PyObj) (arch : QemuArchitecture) (xs : List Call)
    (noCustom : ∀ x ∈ xs, x.isCustom = false) (commaFree : ∀ x ∈ xs, x.commaFree = true)
    (explicitDistinct : (explicitUsbIds xs).Nodup)
    (explicitOwn : ∀ i ∈ explicitUsbIds xs, ¬ GeneratedId i)
    (oneOsStorage : (xs.filter Call.attachesOsDisk).length ≤ 1) :
    (declaredIds "-drive" (declarations (run (init executable arch) xs).build.2)).Nodup ∧
      (declaredIds "-device" (declarations (run (init executable arch) xs).build.2)).Nodup := by
  have initIds : ∀ o, declaredIds o (declarations (init executable arch).args) = [] := by
    intro o
    cases arch <;> simp +decide [init, declarations_initialArgs, declaredIds, idValue,
      String.toList, List.filter_cons]
  rw [build, declarations_run _ xs (length_initialArgs_even arch) noCustom commaFree,
    declaredIds_append, declaredIds_append, initIds, initIds, List.nil_append, List.nil_append]
  exact ⟨driveIds_declaresRun_nodup xs explicitDistinct explicitOwn oneOsStorage,
    deviceIds_declaresRun_nodup xs oneOsStorage⟩

/-- Two counted USB disks, an installer ISO image and an OS disk on SBSA: every id once. -/
theorem declared_ids_distinct_usb_disks :
    let xs := [Call.withUsbController,
      .withUsbStorage ⟨fun _ => true, fun _ => false⟩ (some "boot.img") none "raw",
      .withUsbStorage ⟨fun _ => false, fun _ => true⟩ (some "share") none "raw",
      .withOsStorage .posix (.str "install.iso"), .withOsStorage .posix (.str "os.qcow2")]
    let args := (run (init (.str "qemu-system-aarch64") .SBSA) xs).build.2
    (declaredIds "-drive" (declarations args)).Nodup ∧
      (declaredIds "-device" (declarations args)).Nodup :=
  declared_ids_distinct _ _ _ (by decide) (by decide) (by decide) (by simp [explicitUsbIds])
    (by decide)

/-- `with_os_storage` has no guard: a second disk image declares `os_nvme` again. -/
theorem osStorage_twice_duplicates_drive_id :
    let args := (run (init (.str "qemu-system-x86_64") .Q35)
      [.withOsStorage .posix (.str "os.vhd"), .withOsStorage .posix (.str "os.vhd")]).build.2
    declaredIds "-drive" (declarations args) = ["os_nvme", "os_nvme"] := by decide

end PatinaQemu
