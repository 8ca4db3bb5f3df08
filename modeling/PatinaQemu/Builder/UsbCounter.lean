import PatinaQemu.Builder.Ids

set_option autoImplicit false

/-!
# The ids of the USB disks the builder numbers itself

`with_usb_storage` names a disk given without an id `usb_storage_<n>`, with `n` the builder's
counter, and advances the counter as soon as it has a drive file, before it asks whether the
file exists. No other method touches the counter (`usbStorageIndex_step`). So, counted from the
builder's creation, the n-th call with a drive file and no id uses `usb_storage_n`, whatever
calls come between and whether or not the earlier ones found their file, and the numbers of the
disks that reach the argument list grow strictly along it.

## Main definitions

* `Call.attachesUsbDisk` — a `with_usb_storage` call whose drive file is a file or a directory
* `autoUsbIds` — the numbers of the disks a run names by the counter, in argument order

## Main results

* `usbStorageIndex_run` — the counter counts the calls that number a disk
* `autoUsbIds_pairwise`, `autoUsbIds_sublist` — those numbers increase strictly, and the disks'
  `-device` values stand in the arguments in that order
* `usbStorage_auto_ids` — from the builder's creation, the n-th such call uses `usb_storage_n`,
  and the numbered disks' ids are distinct and increase with their position in the arguments
-/

namespace PatinaQemu

open QemuCommandBuilder

/-- Whether the call attaches a USB disk: `with_usb_storage` with a drive file that is a file
or a directory. -/
def Call.attachesUsbDisk : Call → Bool
  | .withUsbStorage fs drive_file _ _ =>
    match given drive_file with
    | some f => fs.isfile f || fs.isdir f
    | none => false
  | _ => false

/-- The counter values under which a run attaches the disks it names by the counter, in the
order their tokens reach the argument list. -/
def autoUsbIds (b : QemuCommandBuilder) : List Call → List Nat
  | [] => []
  | x :: xs =>
    (if x.takesUsbIndex && x.attachesUsbDisk then [b.usbStorageIndex] else []) ++
      autoUsbIds (step b x) xs

/-- The counter counts the calls that number a disk. -/
theorem usbStorageIndex_run (b : QemuCommandBuilder) (xs : List Call) :
    (run b xs).usbStorageIndex = b.usbStorageIndex + xs.countP Call.takesUsbIndex := by
  induction xs generalizing b with
  | nil => rfl
  | cons x xs ih =>
    rw [run_cons, ih, usbStorageIndex_step, List.countP_cons]
    omega

/-- A call with a drive file and no id names its disk by the counter and advances it. -/
theorem withUsbStorage_of_noId (b : QemuCommandBuilder) (fs : FileSystem) {drive_file : String}
    (nonempty : drive_file ≠ "") {drive_id : Option String} (noId : given drive_id = none)
    (drive_format : String) :
    b.withUsbStorage fs (some drive_file) drive_id drive_format =
      { b with usbStorageIndex := b.usbStorageIndex + 1 }.attachUsbDisk fs drive_file drive_format
        ("usb_storage_" ++ toString b.usbStorageIndex) := by
  simp [withUsbStorage, given_some, nonempty, noId]

/-- A call that attaches a disk it numbers appends the disk's `-device` value. -/
theorem args_step_of_attaches (b : QemuCommandBuilder) {x : Call}
    (counts : (x.takesUsbIndex && x.attachesUsbDisk) = true) :
    List.Sublist (b.args ++ [optValue ["usb-storage", "bus=usb.0", "drive=" ++ ("usb_storage_" ++
      toString b.usbStorageIndex)]]) (step b x).args := by
  cases x with
  | withUsbStorage fs f i fmt =>
    cases hf : given f with
    | none => simp [Call.takesUsbIndex, hf] at counts
    | some p =>
      simp only [Call.takesUsbIndex, Call.attachesUsbDisk, hf, Option.isSome_some, Bool.true_and,
        Bool.and_eq_true, Option.isNone_iff_eq_none] at counts
      simp only [step, Call.apply, withUsbStorage, hf, counts.1, attachUsbDisk]
      have attached : ∀ f, List.Sublist (b.args ++ [optValue ["usb-storage", "bus=usb.0",
          "drive=" ++ ("usb_storage_" ++ toString b.usbStorageIndex)]])
          (b.args ++ usbStorageArgs f fmt ("usb_storage_" ++ toString b.usbStorageIndex)) :=
        fun f => (List.singleton_sublist.2 (by simp [usbStorageArgs])).append_left b.args
      rcases Bool.or_eq_true_iff.1 counts.2 with file | dir
      · simpa [file] using attached p
      · by_cases file : fs.isfile p
        · simpa [file] using attached p
        · simpa [file, dir] using attached ("fat:rw:" ++ p)
  | _ => simp [Call.takesUsbIndex] at counts

theorem le_of_mem_autoUsbIds {b : QemuCommandBuilder} {xs : List Call} {k : Nat}
    (mem : k ∈ autoUsbIds b xs) : b.usbStorageIndex ≤ k := by
  induction xs generalizing b with
  | nil => cases mem
  | cons x xs ih =>
    simp only [autoUsbIds, List.mem_append] at mem
    rcases mem with head | tail
    · split at head <;> simp_all
    · have counter := usbStorageIndex_step b x
      have := ih tail
      omega

/-- The numbers a run gives the disks it attaches increase strictly. -/
theorem autoUsbIds_pairwise (b : QemuCommandBuilder) (xs : List Call) :
    (autoUsbIds b xs).Pairwise (· < ·) := by
  induction xs generalizing b with
  | nil => exact .nil
  | cons x xs ih =>
    simp only [autoUsbIds]
    split
    · rename_i counts
      have advanced : (step b x).usbStorageIndex = b.usbStorageIndex + 1 := by
        simp_all [usbStorageIndex_step]
      exact .cons (fun k hk => by have := le_of_mem_autoUsbIds hk; omega) (ih _)
    · exact ih _

/-- The `-device` values of the disks a run numbers stand in the arguments in the run's
order, after the arguments it started from. -/
theorem autoUsbIds_sublist (b : QemuCommandBuilder) (xs : List Call) :
    List.Sublist (b.args ++ (autoUsbIds b xs).map fun n =>
      optValue ["usb-storage", "bus=usb.0", "drive=" ++ ("usb_storage_" ++ toString n)])
      (run b xs).args := by
  induction xs generalizing b with
  | nil => simp [autoUsbIds]
  | cons x xs ih =>
    simp only [autoUsbIds, List.map_append, ← List.append_assoc, run_cons]
    refine List.Sublist.trans (List.Sublist.append_right ?_ _) (ih (step b x))
    split
    · exact args_step_of_attaches b ‹_›
    · simpa using (args_prefix_step b x).sublist

/-- On either machine, counted from the builder's creation, the n-th `with_usb_storage` call
with a drive file and no id names its disk `usb_storage_n`, whatever calls come between and
whether or not the earlier ones attached a disk; and along every run the ids of the disks so
named are distinct and increase strictly with the position of their `-device` values in the
arguments. -/
theorem usbStorage_auto_ids (executable : PyObj) (arch : QemuArchitecture) :
    (∀ (pre : List Call) (fs : FileSystem) (drive_file : String) (drive_id : Option String)
        (drive_format : String), drive_file ≠ "" → given drive_id = none →
      step (run (init executable arch) pre) (.withUsbStorage fs (some drive_file) drive_id drive_format) =
        { run (init executable arch) pre with
            usbStorageIndex := pre.countP Call.takesUsbIndex + 1 }.attachUsbDisk fs drive_file
          drive_format ("usb_storage_" ++ toString (pre.countP Call.takesUsbIndex))) ∧
    ∀ xs : List Call,
      (autoUsbIds (init executable arch) xs).Pairwise (· < ·) ∧
      ((autoUsbIds (init executable arch) xs).map fun n => "usb_storage_" ++ toString n).Nodup ∧
      List.Sublist ((autoUsbIds (init executable arch) xs).map fun n =>
        optValue ["usb-storage", "bus=usb.0", "drive=" ++ ("usb_storage_" ++ toString n)])
        (run (init executable arch) xs).args := by
  refine ⟨fun pre fs drive_file drive_id drive_format nonempty noId => ?_, fun xs => ?_⟩
  · have counted : (run (init executable arch) pre).usbStorageIndex =
        pre.countP Call.takesUsbIndex :=
      (usbStorageIndex_run _ pre).trans (Nat.zero_add _)
    rw [step, Call.apply, withUsbStorage_of_noId _ fs nonempty noId, counted]
  · have increasing := autoUsbIds_pairwise (init executable arch) xs
    refine ⟨increasing, ?_, (List.sublist_append_right _ _).trans (autoUsbIds_sublist _ xs)⟩
    exact List.Nodup.map (fun _ _ => counterId_injective) (increasing.imp ne_of_lt)

/-- A missing file and a directory, each without an id and with another call between them,
then a file: the file's disk is `usb_storage_2`. -/
theorem usbStorage_third_auto_id :
    (step (run (init (.str "qemu-system-x86_64") .Q35)
        [.withUsbStorage ⟨fun _ => false, fun _ => false⟩ (some "missing.img") none "raw",
          .withMemory 2048, .withUsbStorage ⟨fun _ => false, fun _ => true⟩ (some "shared") none "raw"])
      (.withUsbStorage ⟨fun _ => true, fun _ => false⟩ (some "disk.img") none "raw")).args =
      (run (init (.str "qemu-system-x86_64") .Q35)
        [.withUsbStorage ⟨fun _ => false, fun _ => false⟩ (some "missing.img") none "raw",
          .withMemory 2048, .withUsbStorage ⟨fun _ => false, fun _ => true⟩ (some "shared") none "raw"]).args ++
        usbStorageArgs "disk.img" "raw" "usb_storage_2" := by
  rw [(usbStorage_auto_ids _ _).1 _ _ "disk.img" none "raw" (by decide) rfl]
  rfl

example : autoUsbIds (init (.str "qemu-system-x86_64") .Q35)
    [.withUsbStorage ⟨fun _ => true, fun _ => false⟩ (some "a.img") none "raw",
      .withUsbStorage ⟨fun _ => true, fun _ => false⟩ (some "b.img") none "raw",
      .withUsbStorage ⟨fun _ => true, fun _ => false⟩ (some "c.img") none "raw"] = [0, 1, 2] := by
  decide

end PatinaQemu
