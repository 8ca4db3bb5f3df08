import PatinaQemu.Script.Main
import PatinaQemu.Builder.Args

set_option autoImplicit false

/-!
# The firmware image through the pipeline

`_patch_rust_binary` copies the firmware image `code_fd` to the reference image `ref_fd`,
runs the patch tool with `-r ref_fd -o code_fd` and deletes `ref_fd`; `_run_qemu` then runs
the QEMU command that `_configure_settings` built, in which `with_firmware` attached `code_fd`
as the read-only pflash drive. `ref_fd` is `code_fd.with_suffix(".ref.fd")`, and the suffix it
replaces holds at most one dot, so the two paths never meet: the stage never copies the image
onto itself and never deletes it.

## Main results

* `stages_fst_cases` — the events of every run: builds, a prefix of the patch stage, and the
  QEMU stage only after the whole patch stage
* `configureSettings_image` — the settings tie the reference image, the patch command and the
  QEMU command to the firmware image
* `scriptMain_deletes_only_copies` — every run copies between two different paths and deletes
  only a path it copied to, never one it copied from
* `scriptMain_boots_patched_image` — a run that reaches QEMU boots, read-only, the image the
  patch tool wrote, after deleting the reference copy
* `scriptMain_steps_in_order` — every run is a prefix of build, copy, patch, delete and the
  QEMU stage, cut at the first failure, and a run that exits with status 0 did them all
-/

namespace PatinaQemu

open QemuCommandBuilder

/-! ## The firmware drive of the QEMU command -/

/-- The read-only pflash drive of the code image, on unit 0 for Q35 and unit 1 for SBSA. -/
theorem firmwareArgs_readonly (arch : QemuArchitecture) (code vars : PyObj) :
    ∃ unit, ["-drive", optValue ["if=pflash", "format=raw", "unit=" ++ unit,
      "file=" ++ code.toStr, "readonly=on"]] <:+: firmwareArgs arch code vars := by
  cases arch with
  | Q35 => exact ⟨"0", [], _, rfl⟩
  | SBSA => exact ⟨"1", _, [], List.append_nil _⟩

/-! ## The settings -/

section Settings

variable {host : ScriptHost} {args : ScriptArgs}

/-- Where `_configure_settings` puts the firmware image: the reference image is derived from
it, the patch tool reads the one and writes the other, and the builder attached it read-only. -/
def ImageSettings (code_fd ref_fd : PurePath) (patch_cmd qemu_args : List String) : Prop :=
  code_fd.withSuffix ".ref.fd" = .ok ref_fd ∧ ["-r", ref_fd.toString, "-o", code_fd.toString] <:+ patch_cmd ∧
    ∃ unit, ["-drive", optValue ["if=pflash", "format=raw", "unit=" ++ unit,
      "file=" ++ code_fd.toString, "readonly=on"]] <:+: qemu_args

theorem patchCmd_suffix (config_file efi_file ref_fd code_fd : PurePath) :
    ["-r", ref_fd.toString, "-o", code_fd.toString] <:+ patchCmd config_file efi_file ref_fd code_fd :=
  ⟨["python", "patch.py", "-c", config_file.toString, "-i", efi_file.toString], rfl⟩

theorem q35ScriptCalls_firmware (executable : PyObj) (host : ScriptHost) (args : ScriptArgs)
    (code_fd : PurePath) (var_store : String) (serial_port : Int) :
    firmwareArgs .Q35 (.path code_fd) (.str var_store) <:+:
      (run (init executable .Q35) (q35ScriptCalls host args code_fd var_store serial_port)).args :=
  firmwareArgs_infix_run (init executable .Q35) [_, _, _] (by simp [Call.category]) rfl (.path code_fd)
    rfl _ _

theorem sbsaScriptCalls_firmware (executable : PyObj) (host : ScriptHost) (args : ScriptArgs)
    (code_fd : PurePath) (var_store : String) :
    firmwareArgs .SBSA (.path code_fd) (.str var_store) <:+:
      (run (init executable .SBSA) (sbsaScriptCalls host args code_fd var_store)).args :=
  firmwareArgs_infix_run (init executable .SBSA) [_, _, _] (by simp [Call.category]) rfl (.path code_fd)
    rfl _ _

theorem q35Configuration_image {c : PlatformSettings} (configured : q35Configuration host args = .ok c) :
    ImageSettings c.code_fd c.ref_fd c.patch_cmd c.builder.args := by
  obtain ⟨-, suffixed, -, patched, built⟩ := q35Configuration_of_ok configured
  obtain ⟨unit, drive⟩ := firmwareArgs_readonly .Q35 (.path c.code_fd) (.str _)
  refine ⟨suffixed, patched ▸ patchCmd_suffix _ _ _ _, unit, drive.trans ?_⟩
  rw [built]
  exact q35ScriptCalls_firmware _ _ _ _ _ _

theorem sbsaConfiguration_image {c : PlatformSettings} (configured : sbsaConfiguration host args = .ok c) :
    ImageSettings c.code_fd c.ref_fd c.patch_cmd c.builder.args := by
  obtain ⟨-, suffixed, -, patched, -, built⟩ := sbsaConfiguration_of_ok configured
  obtain ⟨unit, drive⟩ := firmwareArgs_readonly .SBSA (.path c.code_fd) (.str _)
  refine ⟨suffixed, patched ▸ patchCmd_suffix _ _ _ _, unit, drive.trans ?_⟩
  rw [built]
  exact sbsaScriptCalls_firmware _ _ _ _ _

/-- Every settings record `_configure_settings` returns derives the reference image from the
firmware image, passes both to the patch tool, and boots QEMU from the firmware image. -/
theorem configureSettings_image {settings : Settings} (built : configureSettings host args = .ok settings) :
    settings.code_fd.withSuffix ".ref.fd" = .ok settings.ref_fd ∧
      ["-r", settings.ref_fd.toString, "-o", settings.code_fd.toString] <:+ settings.patch_cmd ∧
      ∃ unit, ["-drive", optValue ["if=pflash", "format=raw", "unit=" ++ unit,
        "file=" ++ settings.code_fd.toString, "readonly=on"]] <:+: settings.qemu_cmd := by
  obtain ⟨c, configured, built⟩ := bind_eq_ok.1 built
  have image : ImageSettings c.code_fd c.ref_fd c.patch_cmd c.builder.args := by
    unfold platformConfiguration at configured
    split at configured
    · exact q35Configuration_image configured
    · split at configured
      · exact sbsaConfiguration_image configured
      · cases configured
  obtain ⟨suffixed, patched, unit, drive⟩ := image
  rcases hexe : c.builder.executable with _ | _ | _ | exe | _ <;>
    simp only [QemuCommandBuilder.build, hexe, pure, Except.pure, reduceCtorEq] at built
  cases built
  exact ⟨suffixed, patched, unit, List.infix_cons drive⟩

end Settings

/-- The reference image is never the firmware image. -/
theorem configureSettings_ref_fd_ne {host : ScriptHost} {args : ScriptArgs} {settings : Settings}
    (built : configureSettings host args = .ok settings) :
    settings.ref_fd.toString ≠ settings.code_fd.toString :=
  PurePath.withSuffix_toString_ne (by decide) (configureSettings_image built).1

/-! ## The events of a run -/

section Events

variable (host : PipelineHost) (settings : Settings)

theorem thenStage_fst (first next : List ScriptEvent × StageEnd) :
    (thenStage first next).1 = if first.2 = .done then first.1 ++ next.1 else first.1 := by
  rcases first with ⟨events, _ | _ | _ | _⟩ <;> rfl

/-- The patch stage copies, patches and deletes, stopping early only when it does not end
normally. -/
theorem patchRustBinary_fst :
    (patchRustBinary host settings).1 <+: [.copy settings.code_fd.toString settings.ref_fd.toString,
        .patch settings.patch_cmd settings.fw_patch_repo.toString, .unlink settings.ref_fd.toString] ∧
      ((patchRustBinary host settings).2 = .done → (patchRustBinary host settings).1 =
        [.copy settings.code_fd.toString settings.ref_fd.toString,
          .patch settings.patch_cmd settings.fw_patch_repo.toString, .unlink settings.ref_fd.toString]) := by
  unfold patchRustBinary
  dsimp only
  cases host.copyError settings.code_fd.toString settings.ref_fd.toString with
  | some e => exact ⟨List.nil_prefix, by simp⟩
  | none =>
    cases runChecked host settings.patch_cmd <;> dsimp only
    · cases host.unlinkError settings.ref_fd.toString with
      | none => exact ⟨List.prefix_refl _, fun _ => rfl⟩
      | some e => exact ⟨⟨[.unlink _], rfl⟩, by simp⟩
    all_goals exact ⟨⟨[.unlink _], rfl⟩, by simp⟩

theorem mem_runQemu_fst {e : ScriptEvent} (mem : e ∈ (runQemu host settings).1) :
    e = .runQemu settings.qemu_cmd ∨ (∃ m, e = .saveConsoleMode m) ∨ ∃ m, e = .restoreConsoleMode m := by
  simp only [runQemu, List.mem_append, List.mem_map, List.mem_singleton] at mem
  rcases mem with (⟨m, -, rfl⟩ | rfl) | ⟨m, -, rfl⟩
  · exact .inr (.inl ⟨m, rfl⟩)
  · exact .inl rfl
  · exact .inr (.inr ⟨m, rfl⟩)

/-- Every run is some builds, a prefix of the patch stage, and the QEMU stage only after the
whole patch stage. -/
theorem stages_fst_cases :
    ∃ build patched qemu, (stages host settings).1 = build ++ patched ++ qemu ∧
      (∀ e ∈ build, ∃ cmd b, e = .build cmd b) ∧
      patched <+: [.copy settings.code_fd.toString settings.ref_fd.toString,
        .patch settings.patch_cmd settings.fw_patch_repo.toString, .unlink settings.ref_fd.toString] ∧
      (qemu = [] ∨ patched = [.copy settings.code_fd.toString settings.ref_fd.toString,
        .patch settings.patch_cmd settings.fw_patch_repo.toString, .unlink settings.ref_fd.toString] ∧
        qemu = (runQemu host settings).1) := by
  have builds : ∀ e ∈ (if settings.custom_efi then ([], StageEnd.done)
      else buildRustDxeCore host settings).1, ∃ cmd b, e = .build cmd b := by
    split
    · simp
    · intro e mem
      exact ⟨_, _, List.mem_singleton.1 mem⟩
  obtain ⟨started, complete⟩ := patchRustBinary_fst host settings
  simp only [stages, thenStage_fst]
  generalize (if settings.custom_efi then ([], StageEnd.done) else buildRustDxeCore host settings) =
    first at builds ⊢
  generalize patchRustBinary host settings = patched at started complete ⊢
  by_cases built : first.2 = .done
  · by_cases done : patched.2 = .done
    · simp only [built, done, if_true]
      exact ⟨_, _, _, (List.append_assoc _ _ _).symm, builds, started, .inr ⟨complete done, rfl⟩⟩
    · simp only [built, done, if_true, if_false]
      exact ⟨_, _, [], by simp, builds, started, .inl rfl⟩
  · simp only [built, if_false]
    exact ⟨_, [], [], by simp, builds, List.nil_prefix, .inl rfl⟩

/-- What an event of a run can be. -/
theorem mem_stages_fst {e : ScriptEvent} (mem : e ∈ (stages host settings).1) :
    (∃ cmd b, e = .build cmd b) ∨
      e ∈ [.copy settings.code_fd.toString settings.ref_fd.toString,
        .patch settings.patch_cmd settings.fw_patch_repo.toString, .unlink settings.ref_fd.toString] ∨
      e = .runQemu settings.qemu_cmd ∨ (∃ m, e = .saveConsoleMode m) ∨ ∃ m, e = .restoreConsoleMode m := by
  obtain ⟨build, patched, qemu, events, builds, started, tail⟩ := stages_fst_cases host settings
  rw [events, List.mem_append, List.mem_append] at mem
  rcases mem with (mem | mem) | mem
  · exact .inl (builds e mem)
  · exact .inr (.inl (started.subset mem))
  · rcases tail with rfl | ⟨-, rfl⟩
    · cases mem
    · exact .inr (.inr (mem_runQemu_fst host settings mem))

/-- The arguments of the copy, the deletion and the QEMU command of a run. -/
theorem mem_stages_fst_eq :
    (∀ src dst, ScriptEvent.copy src dst ∈ (stages host settings).1 →
      src = settings.code_fd.toString ∧ dst = settings.ref_fd.toString) ∧
    (∀ path, ScriptEvent.unlink path ∈ (stages host settings).1 → path = settings.ref_fd.toString) ∧
    ∀ cmd, ScriptEvent.runQemu cmd ∈ (stages host settings).1 → cmd = settings.qemu_cmd := by
  refine ⟨fun src dst mem => ?_, fun path mem => ?_, fun cmd mem => ?_⟩ <;>
    rcases mem_stages_fst host settings mem with ⟨_, _, h⟩ | mem | h | ⟨_, h⟩ | ⟨_, h⟩ <;>
    first | exact ScriptEvent.runQemu.inj h | cases h | simp_all

/-- A prefix of copy, patch, delete that deletes is the whole stage. -/
theorem eq_of_prefix_of_unlink {l : List ScriptEvent} {a b : ScriptEvent} {path : String}
    (started : l <+: [a, b, .unlink path]) (deleted : .unlink path ∈ l)
    (ha : .unlink path ≠ a) (hb : .unlink path ≠ b) : l = [a, b, .unlink path] := by
  obtain ⟨t, ht⟩ := started
  rcases l with _ | ⟨x, _ | ⟨y, _ | ⟨z, l⟩⟩⟩
  · cases deleted
  · simp_all
  · simp_all
  · cases l <;> simp_all

/-- An event that is neither a build, the copy nor the patch (the deletion of the reference
image, or an event of the QEMU stage) comes after the whole patch stage. -/
theorem stages_fst_of_late {e : ScriptEvent} (mem : e ∈ (stages host settings).1)
    (notBuild : ∀ cmd b, e ≠ .build cmd b)
    (notCopy : e ≠ .copy settings.code_fd.toString settings.ref_fd.toString)
    (notPatch : e ≠ .patch settings.patch_cmd settings.fw_patch_repo.toString) :
    ∃ build qemu, (stages host settings).1 = build ++ [.copy settings.code_fd.toString
        settings.ref_fd.toString, .patch settings.patch_cmd settings.fw_patch_repo.toString,
        .unlink settings.ref_fd.toString] ++ qemu ∧
      (e = .unlink settings.ref_fd.toString ∨ e ∈ qemu) := by
  obtain ⟨build, patched, qemu, events, builds, started, tail⟩ := stages_fst_cases host settings
  rw [events, List.mem_append, List.mem_append] at mem
  rcases mem with (mem | mem) | mem
  · obtain ⟨cmd, b, rfl⟩ := builds e mem
    exact absurd rfl (notBuild cmd b)
  · obtain rfl : e = .unlink settings.ref_fd.toString := by
      simpa [notCopy, notPatch] using started.subset mem
    exact ⟨build, qemu, by rw [events, eq_of_prefix_of_unlink started mem (by simp) (by simp)],
      .inl rfl⟩
  · rcases tail with rfl | ⟨rfl, -⟩
    · cases mem
    · exact ⟨build, qemu, events, .inr mem⟩

/-- Where the first stage, once complete, is `F` and the next is a prefix of `N`, the two
stages in sequence are a prefix of `F ++ N`. -/
theorem isPrefix_thenStage_fst {first next : List ScriptEvent × StageEnd} {F N : List ScriptEvent}
    (started : first.1 <+: F) (complete : first.2 = .done → first.1 = F) (rest : next.1 <+: N) :
    (thenStage first next).1 <+: F ++ N := by
  rw [thenStage_fst]
  split
  · rename_i done
    rw [complete done]
    exact (List.prefix_append_right_inj F).2 rest
  · exact started.trans (List.prefix_append F N)

theorem thenStage_fst_of_done {first next : List ScriptEvent × StageEnd} {F N : List ScriptEvent}
    (complete : first.2 = .done → first.1 = F) (rest : next.2 = .done → next.1 = N)
    (done : (thenStage first next).2 = .done) : (thenStage first next).1 = F ++ N := by
  rw [thenStage_snd] at done
  split at done
  · rename_i first_done
    rw [thenStage_fst, if_pos first_done, complete first_done, rest done]
  · contradiction

/-! ## The run, step by step -/

/-- The events of steps run in order up to the first that does not end normally, whose own
events are the last. -/
def untilFailure : List (List ScriptEvent × Bool) → List ScriptEvent
  | [] => []
  | (events, ok) :: rest => events ++ if ok then untilFailure rest else []

/-- The build step, unless a custom EFI file is given, with whether it ends normally. -/
def buildSteps : List (List ScriptEvent × Bool) :=
  if settings.custom_efi then []
  else [([.build settings.build_cmd true], runChecked host settings.build_cmd = .done)]

/-- The steps of the patch stage: the copy of the image to the reference image, the patch
tool and the deletion of the reference image, each recorded only when it happens. -/
def patchSteps : List (List ScriptEvent × Bool) :=
  [(if (host.copyError settings.code_fd.toString settings.ref_fd.toString).isNone
      then [.copy settings.code_fd.toString settings.ref_fd.toString] else [],
    (host.copyError settings.code_fd.toString settings.ref_fd.toString).isNone),
   ([.patch settings.patch_cmd settings.fw_patch_repo.toString],
    runChecked host settings.patch_cmd = .done),
   (if (host.unlinkError settings.ref_fd.toString).isNone then [.unlink settings.ref_fd.toString]
      else [],
    (host.unlinkError settings.ref_fd.toString).isNone)]

/-- The steps of `main` once the settings are built: the build, the patch stage's three steps
and the QEMU stage. -/
def pipelineSteps : List (List ScriptEvent × Bool) :=
  buildSteps host settings ++ patchSteps host settings ++ [((runQemu host settings).1, true)]

theorem untilFailure_append (xs ys : List (List ScriptEvent × Bool)) :
    untilFailure (xs ++ ys) = untilFailure xs ++ if xs.all (·.2) then untilFailure ys else [] := by
  induction xs with
  | nil => simp [untilFailure]
  | cons x xs ih =>
    obtain ⟨events, _ | _⟩ := x
    · simp [untilFailure]
    · cases all : xs.all (·.2) <;> simp [untilFailure, ih, all]

/-- A stage that records what its steps do up to the first failure, and ends normally exactly
when they all do, followed by a stage that records what its own steps do. -/
theorem untilFailure_thenStage {xs ys : List (List ScriptEvent × Bool)}
    {first next : List ScriptEvent × StageEnd} (hx : untilFailure xs = first.1)
    (all : xs.all (·.2) = decide (first.2 = .done)) (hy : untilFailure ys = next.1) :
    untilFailure (xs ++ ys) = (thenStage first next).1 := by
  rw [untilFailure_append, thenStage_fst, hx, all, hy]
  by_cases done : first.2 = .done <;> simp [done]

theorem buildSteps_stage (unstable : "-Zunstable-options" ∈ settings.build_cmd) :
    untilFailure (buildSteps host settings) =
        (if settings.custom_efi then ([], StageEnd.done) else buildRustDxeCore host settings).1 ∧
      (buildSteps host settings).all (·.2) =
        decide ((if settings.custom_efi then ([], StageEnd.done)
          else buildRustDxeCore host settings).2 = .done) := by
  unfold buildSteps
  split
  · simp [untilFailure]
  · simp only [untilFailure, buildRustDxeCore, unstable]
    cases runChecked host settings.build_cmd <;> simp

theorem patchSteps_stage :
    untilFailure (patchSteps host settings) = (patchRustBinary host settings).1 ∧
      (patchSteps host settings).all (·.2) = decide ((patchRustBinary host settings).2 = .done) := by
  unfold patchSteps patchRustBinary
  dsimp only
  cases host.copyError settings.code_fd.toString settings.ref_fd.toString with
  | some e => simp [untilFailure]
  | none =>
    cases runChecked host settings.patch_cmd <;>
      cases host.unlinkError settings.ref_fd.toString <;> simp [untilFailure]

/-- The stages record what the steps do, up to the first that does not end normally. -/
theorem stages_fst_untilFailure (unstable : "-Zunstable-options" ∈ settings.build_cmd) :
    (stages host settings).1 = untilFailure (pipelineSteps host settings) := by
  obtain ⟨build, buildDone⟩ := buildSteps_stage host settings unstable
  obtain ⟨patch, patchDone⟩ := patchSteps_stage host settings
  rw [pipelineSteps, List.append_assoc, stages,
    untilFailure_thenStage build buildDone (untilFailure_thenStage patch patchDone
      (show untilFailure [((runQemu host settings).1, true)] = (runQemu host settings).1 by
        simp [untilFailure]))]

/-- A stage end that reports a status reports a non-zero one. -/
def StageEnd.NonZero (s : StageEnd) : Prop :=
  ∀ r, s = .calledProcessError r ∨ s = .systemExit r → r ≠ 0

theorem StageEnd.eq_done_of_outcome {s : StageEnd} (nonZero : s.NonZero)
    (exited : s.outcome = .exit 0) : s = .done := by
  cases s with
  | done => rfl
  | calledProcessError r => exact absurd (ScriptOutcome.exit.inj exited) (nonZero r (.inl rfl))
  | systemExit r => exact absurd (ScriptOutcome.exit.inj exited) (nonZero r (.inr rfl))
  | raised e => cases exited

theorem runChecked_nonZero (cmd : List String) : (runChecked host cmd).NonZero := by
  intro r hr
  unfold runChecked at hr
  split at hr
  · simp at hr
  · split at hr <;> simp_all

theorem thenStage_nonZero {first next : List ScriptEvent × StageEnd} (hf : first.2.NonZero)
    (hn : next.2.NonZero) : (thenStage first next).2.NonZero := by
  rw [thenStage_snd]
  split
  · exact hn
  · exact hf

theorem stages_nonZero : (stages host settings).2.NonZero := by
  have build : (buildRustDxeCore host settings).2.NonZero := fun r hr => by
    have := runChecked_nonZero host settings.build_cmd r
    unfold buildRustDxeCore at hr
    split at hr <;> simp_all
  have patch : (patchRustBinary host settings).2.NonZero := fun r hr => by
    have := runChecked_nonZero host settings.patch_cmd r
    unfold patchRustBinary at hr
    dsimp only at hr
    split at hr
    · simp at hr
    · split at hr
      · split at hr <;> simp at hr
      · simp_all
  have skipped : (if settings.custom_efi then ([], StageEnd.done)
      else buildRustDxeCore host settings).2.NonZero := by
    split
    · intro r hr
      simp at hr
    · exact build
  exact thenStage_nonZero skipped (thenStage_nonZero patch (runChecked_nonZero host settings.qemu_cmd))

end Events

theorem scriptMain_of_error (host : ScriptHost) (pipeline : PipelineHost) (args : ScriptArgs)
    {e : PyError} (failed : configureSettings host (parseArguments args) = .error e) :
    (scriptMain host pipeline args).1 = [] := by
  simp only [scriptMain, failed]
  split <;> simp_all

/-- In every run of the script, every copy goes between two different paths, and every path
it deletes is one it copied to earlier and never one it copied from: the firmware image is
never deleted. -/
theorem scriptMain_deletes_only_copies (host : ScriptHost) (pipeline : PipelineHost)
    (args : ScriptArgs) :
    (∀ src dst, ScriptEvent.copy src dst ∈ (scriptMain host pipeline args).1 → src ≠ dst) ∧
    ∀ path, ScriptEvent.unlink path ∈ (scriptMain host pipeline args).1 →
      (∃ src before after, (scriptMain host pipeline args).1 = before ++ .copy src path :: after ∧
        ScriptEvent.unlink path ∈ after) ∧
      ∀ dst, ScriptEvent.copy path dst ∉ (scriptMain host pipeline args).1 := by
  cases built : configureSettings host (parseArguments args) with
  | error e => simp [scriptMain_of_error host pipeline args built]
  | ok settings =>
    have ne := configureSettings_ref_fd_ne built
    obtain ⟨copies, unlinks, -⟩ := mem_stages_fst_eq pipeline settings
    rw [scriptMain_of_built host pipeline args built]
    refine ⟨fun src dst mem => ?_, fun path mem => ?_⟩
    · obtain ⟨rfl, rfl⟩ := copies src dst mem
      exact fun h => ne h.symm
    · obtain rfl := unlinks path mem
      obtain ⟨build, qemu, events, -⟩ :=
        stages_fst_of_late pipeline settings mem (by simp) (by simp) (by simp)
      refine ⟨⟨settings.code_fd.toString, build, .patch settings.patch_cmd
        settings.fw_patch_repo.toString :: .unlink settings.ref_fd.toString :: qemu,
        by rw [events]; simp, by simp⟩, fun dst copied => ne (copies _ dst copied).1⟩

/-- Every run of the script does its steps in one order and stops at the first that fails: its
events are a prefix of the build (unless a custom EFI file is given), the copy of the image,
the patch, the deletion of the reference image and the QEMU stage, and they end with the first
step that does not end normally (`untilFailure`). A run that exits with status 0 did all of
them. -/
theorem scriptMain_steps_in_order (host : ScriptHost) (pipeline : PipelineHost) (args : ScriptArgs)
    {settings : Settings} (built : configureSettings host (parseArguments args) = .ok settings) :
    (scriptMain host pipeline args).1 <+:
        (if settings.custom_efi then [] else [.build settings.build_cmd true]) ++
          [.copy settings.code_fd.toString settings.ref_fd.toString,
            .patch settings.patch_cmd settings.fw_patch_repo.toString,
            .unlink settings.ref_fd.toString] ++ (runQemu pipeline settings).1 ∧
      ((scriptMain host pipeline args).2 = .exit 0 → (scriptMain host pipeline args).1 =
        (if settings.custom_efi then [] else [.build settings.build_cmd true]) ++
          [.copy settings.code_fd.toString settings.ref_fd.toString,
            .patch settings.patch_cmd settings.fw_patch_repo.toString,
            .unlink settings.ref_fd.toString] ++ (runQemu pipeline settings).1) ∧
      (scriptMain host pipeline args).1 = untilFailure (pipelineSteps pipeline settings) := by
  have build : (if settings.custom_efi then ([], StageEnd.done)
      else buildRustDxeCore pipeline settings).1 =
      if settings.custom_efi then [] else [.build settings.build_cmd true] := by
    split <;> simp [buildRustDxeCore, unstable_mem_build_cmd built]
  obtain ⟨started, complete⟩ := patchRustBinary_fst pipeline settings
  rw [scriptMain_of_built host pipeline args built, List.append_assoc]
  exact ⟨isPrefix_thenStage_fst (build ▸ List.prefix_refl _) (fun _ => build)
      (isPrefix_thenStage_fst started complete (List.prefix_refl _)),
    fun exited => thenStage_fst_of_done (fun _ => build) (thenStage_fst_of_done complete fun _ => rfl)
      (StageEnd.eq_done_of_outcome (stages_nonZero pipeline settings) exited),
    stages_fst_untilFailure pipeline settings (unstable_mem_build_cmd built)⟩

/-- The default command line on a Linux host. -/
theorem scriptMain_steps_in_order_default :
    ∃ settings, configureSettings linuxHost (parseArguments defaultArgs) = .ok settings ∧
      (scriptMain linuxHost ⟨"posix", fun _ => .ok 1, fun _ _ => none, fun _ => none, 0, none⟩
          defaultArgs).1 <+:
        (if settings.custom_efi then [] else [.build settings.build_cmd true]) ++
          [.copy settings.code_fd.toString settings.ref_fd.toString,
            .patch settings.patch_cmd settings.fw_patch_repo.toString,
            .unlink settings.ref_fd.toString] ++
          (runQemu ⟨"posix", fun _ => .ok 1, fun _ _ => none, fun _ => none, 0, none⟩ settings).1 ∧
      ((scriptMain linuxHost ⟨"posix", fun _ => .ok 1, fun _ _ => none, fun _ => none, 0, none⟩
          defaultArgs).2 = .exit 0 →
        (scriptMain linuxHost ⟨"posix", fun _ => .ok 1, fun _ _ => none, fun _ => none, 0, none⟩
          defaultArgs).1 =
        (if settings.custom_efi then [] else [.build settings.build_cmd true]) ++
          [.copy settings.code_fd.toString settings.ref_fd.toString,
            .patch settings.patch_cmd settings.fw_patch_repo.toString,
            .unlink settings.ref_fd.toString] ++
          (runQemu ⟨"posix", fun _ => .ok 1, fun _ _ => none, fun _ => none, 0, none⟩ settings).1) ∧
      (scriptMain linuxHost ⟨"posix", fun _ => .ok 1, fun _ _ => none, fun _ => none, 0, none⟩
          defaultArgs).1 =
        untilFailure (pipelineSteps ⟨"posix", fun _ => .ok 1, fun _ _ => none, fun _ => none, 0, none⟩
          settings) :=
  ⟨_, rfl, scriptMain_steps_in_order linuxHost
    ⟨"posix", fun _ => .ok 1, fun _ _ => none, fun _ => none, 0, none⟩ defaultArgs rfl⟩

/-- QEMU runs when the settings build, the build (if any) and the patch tool exit with status
0, and the image copies and the reference image deletes. -/
theorem scriptMain_runs_qemu (host : ScriptHost) (pipeline : PipelineHost) (args : ScriptArgs)
    {settings : Settings} (built : configureSettings host (parseArguments args) = .ok settings)
    (buildOk : settings.custom_efi = false → pipeline.spawn settings.build_cmd = .ok 0)
    (copied : pipeline.copyError settings.code_fd.toString settings.ref_fd.toString = none)
    (patchOk : pipeline.spawn settings.patch_cmd = .ok 0)
    (unlinked : pipeline.unlinkError settings.ref_fd.toString = none) :
    ScriptEvent.runQemu settings.qemu_cmd ∈ (scriptMain host pipeline args).1 := by
  have patched := patchRustBinary_of_spawn pipeline settings copied patchOk unlinked
  rw [scriptMain_of_built host pipeline args built]
  cases efi : settings.custom_efi
  · simp [stages, efi, buildRustDxeCore_of_spawn pipeline settings (buildOk efi), patched,
      thenStage, runQemu]
  · simp [stages, efi, patched, thenStage, runQemu]

/-- In every run of the script that reaches QEMU, QEMU boots read-only the image the patch
tool wrote: the script copied the image to another path, ran the patch tool with the copy as
its reference (`-r`) and the image as its output (`-o`), deleted the copy, and only then ran
QEMU, whose command holds the image as a read-only pflash drive. -/
theorem scriptMain_boots_patched_image (host : ScriptHost) (pipeline : PipelineHost)
    (args : ScriptArgs) {cmd : List String}
    (ran : ScriptEvent.runQemu cmd ∈ (scriptMain host pipeline args).1) :
    ∃ image reference patch_cmd cwd unit before after, reference ≠ image ∧
      (scriptMain host pipeline args).1 =
        before ++ [.copy image reference, .patch patch_cmd cwd, .unlink reference] ++ after ∧
      ScriptEvent.runQemu cmd ∈ after ∧ ["-r", reference, "-o", image] <:+ patch_cmd ∧
      ["-drive", optValue ["if=pflash", "format=raw", "unit=" ++ unit, "file=" ++ image,
        "readonly=on"]] <:+: cmd := by
  cases built : configureSettings host (parseArguments args) with
  | error e => simp [scriptMain_of_error host pipeline args built] at ran
  | ok settings =>
    obtain ⟨-, patchArgs, unit, drive⟩ := configureSettings_image built
    rw [scriptMain_of_built host pipeline args built] at ran ⊢
    obtain rfl := (mem_stages_fst_eq pipeline settings).2.2 cmd ran
    obtain ⟨build, qemu, events, late⟩ :=
      stages_fst_of_late pipeline settings ran (by simp) (by simp) (by simp)
    exact ⟨_, _, _, _, unit, build, qemu, configureSettings_ref_fd_ne built, events,
      late.resolve_left (by simp), patchArgs, drive⟩

/-- The default command line on a Linux host where every command succeeds boots the patched
Q35 image. -/
theorem scriptMain_boots_patched_default :
    ∃ cmd, ScriptEvent.runQemu cmd ∈ (scriptMain linuxHost
      ⟨"posix", fun _ => .ok 0, fun _ _ => none, fun _ => none, 0, none⟩ defaultArgs).1 ∧
    ∃ image reference patch_cmd cwd unit before after, reference ≠ image ∧
      (scriptMain linuxHost
        ⟨"posix", fun _ => .ok 0, fun _ _ => none, fun _ => none, 0, none⟩ defaultArgs).1 =
        before ++ [.copy image reference, .patch patch_cmd cwd, .unlink reference] ++ after ∧
      ScriptEvent.runQemu cmd ∈ after ∧ ["-r", reference, "-o", image] <:+ patch_cmd ∧
      ["-drive", optValue ["if=pflash", "format=raw", "unit=" ++ unit, "file=" ++ image,
        "readonly=on"]] <:+: cmd :=
  have ran := scriptMain_runs_qemu linuxHost
    ⟨"posix", fun _ => .ok 0, fun _ _ => none, fun _ => none, 0, none⟩ defaultArgs rfl
    (fun _ => rfl) rfl rfl rfl
  ⟨_, ran, scriptMain_boots_patched_image _ _ _ ran⟩

end PatinaQemu
