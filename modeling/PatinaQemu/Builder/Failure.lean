import PatinaQemu.Builder.Args

set_option autoImplicit false

/-!
# Calls that raise

Two methods of the builder can raise: `with_os_storage`, on an image whose extension it does
not know, before it touches the builder; and `with_network`, when it iterates a
`forward_ports` that is not iterable, after it has set its flag. A caller that catches the
exception and goes on therefore keeps a builder whose network is marked configured but
holds no network option: every later `with_network` returns at its guard, and the command
line ends up with neither `-net none` nor a `-netdev`.

## Main results

* `step_of_raises` — what a call that raises leaves behind
* `owned_run_of_added` — once a category is configured, no later call but `with_custom`
  writes an option of that category
* `raised_call_effect` — from every reachable state, a call that raises changes nothing, or
  only the network flag, after which no run without `with_custom` writes a network option
-/

namespace PatinaQemu

open QemuCommandBuilder

/-- A call that raises is `with_os_storage`, which leaves the builder as it was, or
`with_network` on an unconfigured network, which leaves it marked configured and nothing
else. -/
theorem step_of_raises {b : QemuCommandBuilder} {x : Call} {e : PyError}
    (raised : (x.apply b).2 = some e) :
    (∃ flavour p, x = .withOsStorage flavour p ∧ step b x = b) ∨
      ∃ enabled forward_ports use_virtio, x = .withNetwork enabled forward_ports use_virtio ∧
        b.added .network = false ∧ step b x = b.mark .network := by
  cases x with
  | withOsStorage flavour p =>
    simp only [Call.apply] at raised
    split at raised
    · cases raised
    · rename_i h
      exact .inl ⟨flavour, p, rfl, by simp only [step, Call.apply, h]⟩
  | withNetwork en fp u =>
    refine .inr ⟨en, fp, u, rfl, ?_⟩
    simp only [Call.apply, withNetwork] at raised
    by_cases unset : b.added .network
    · simp [unset] at raised
    refine ⟨Bool.eq_false_iff.2 unset, ?_⟩
    by_cases enabled : en.truthy
    · cases config : netdevConfig fp with
      | error e' => simp [step, Call.apply, withNetwork, unset, enabled, config]
      | ok cfg => simp [unset, enabled, config] at raised
    · simp [unset, enabled] at raised
  | _ => simp [Call.apply] at raised

section Configured

variable {b : QemuCommandBuilder} {c : Category}

/-- A call other than `with_custom` writes no option of a category already configured. -/
theorem owned_step_of_added (even : b.args.length % 2 = 0) (set : b.added c = true) (x : Call)
    (hx : x.isCustom = false) :
    owned c (pairs (step b x).args) = owned c (pairs b.args) ∧ (step b x).args.length % 2 = 0 := by
  have foreign : ∀ {c' : Option Category} {toks : List String}, c' ≠ some c → Chunk c' toks →
      owned c (pairs toks) = [] := fun ne chunk =>
    List.filter_eq_nil_iff.2 fun p hp => by
      rcases chunk.owner p hp with h | h <;> simp [h, ne]
  rcases effect_step b x hx with ⟨c', toks, unset, chunk, hargs, -⟩ | ⟨toks, chunk, hargs, -⟩ <;>
    rw [hargs, List.length_append, pairs_append even, owned_append] <;>
    refine ⟨?_, by have := chunk.even; omega⟩
  · rw [foreign (fun h => by cases h; simp [set] at unset) chunk, List.append_nil]
  · rw [foreign (by simp) chunk, List.append_nil]

theorem owned_run_of_added (even : b.args.length % 2 = 0) (set : b.added c = true)
    (ys : List Call) (hys : ∀ y ∈ ys, y.isCustom = false) :
    owned c (pairs (run b ys).args) = owned c (pairs b.args) := by
  induction ys generalizing b with
  | nil => rfl
  | cons y ys ih =>
    have hy := owned_step_of_added even set y (hys y (List.mem_cons_self _ _))
    rw [run_cons, ih hy.2 (added_step_of_added y set) fun z hz => hys z (List.mem_cons_of_mem _ hz),
      hy.1]

/-- The options of a category in a run are the ones its first call wrote, when no later call
is of that category. -/
theorem owned_run_cons_of_forall_ne (inv : ArgsInv b) (x : Call) (post : List Call)
    (others : ∀ y ∈ post, y.category ≠ some c)
    (noCustom : ∀ y ∈ x :: post, y.isCustom = false) :
    owned c (pairs (run b (x :: post)).args) = owned c (pairs (step b x).args) := by
  have stepped := argsInv_step inv x (noCustom x (List.mem_cons_self _ _))
  have rest : ∀ y ∈ post, y.isCustom = false := fun y hy => noCustom y (List.mem_cons_of_mem _ hy)
  rw [run_cons]
  cases set : (step b x).added c
  · rw [(argsInv_run stepped post rest).unset c ((added_run_of_forall_ne others).trans set),
      stepped.unset c set]
  · exact owned_run_of_added stepped.even set post rest

end Configured

/-- The options of a category in a fixed chain from a new builder are the ones its only call
of that category wrote. The chain's side conditions are read off it by evaluation. -/
theorem owned_run_of_only {executable : PyObj} {arch : QemuArchitecture} {c : Category}
    {pre post : List Call} {x : Call} {toks : List String}
    (before : (pre.all fun y => y.category != some c) = true)
    (after : (post.all fun y => y.category != some c) = true)
    (noCustom : ((pre ++ x :: post).all fun y => !y.isCustom) = true)
    (wrote : (run (init executable arch) pre).added c = false →
      (step (run (init executable arch) pre) x).args = (run (init executable arch) pre).args ++ toks) :
    owned c (pairs (run (init executable arch) (pre ++ x :: post)).args) = owned c (pairs toks) := by
  have noCustom := noCustom_of_all noCustom
  have unset : (run (init executable arch) pre).added c = false :=
    (added_run_of_forall_ne (notCategory_of_all before)).trans rfl
  have inv := argsInv_run (argsInv_init executable arch) pre
    fun y hy => noCustom y (List.mem_append_left _ hy)
  rw [run_append, owned_run_cons_of_forall_ne inv x post (notCategory_of_all after)
      fun y hy => noCustom y (List.mem_append_right _ hy), wrote unset, pairs_append inv.even,
    owned_append, inv.unset c unset, List.nil_append]

/-- From every state a run without `with_custom` reaches, a call that raises is either
`with_os_storage`, which leaves the builder as it was, or `with_network` on an unconfigured
network, which leaves the arguments as they were but marks the network configured. After
that, whatever calls other than `with_custom` follow, the network stays marked and the
command line holds no `-net` or `-netdev` option: a retried `with_network` does nothing, and
not even `-net none` is written. -/
theorem raised_call_effect (executable : PyObj) (arch : QemuArchitecture) (pre : List Call)
    (noCustom : ∀ x ∈ pre, x.isCustom = false) (x : Call) {e : PyError}
    (raised : (x.apply (run (init executable arch) pre)).2 = some e) :
    (∃ flavour p, x = .withOsStorage flavour p ∧
      step (run (init executable arch) pre) x = run (init executable arch) pre) ∨
      ∃ enabled forward_ports use_virtio, x = .withNetwork enabled forward_ports use_virtio ∧
        (step (run (init executable arch) pre) x).args = (run (init executable arch) pre).args ∧
        ∀ ys : List Call, (∀ y ∈ ys, y.isCustom = false) →
          (run (init executable arch) (pre ++ x :: ys)).added .network = true ∧
          ∀ p ∈ pairs (run (init executable arch) (pre ++ x :: ys)).args,
            p.1 ≠ "-net" ∧ p.1 ≠ "-netdev" := by
  have inv := argsInv_run (argsInv_init executable arch) pre noCustom
  rcases step_of_raises raised with osStorage | ⟨en, fp, u, rfl, unset, marked⟩
  · exact .inl osStorage
  refine .inr ⟨en, fp, u, rfl, by rw [marked, mark_args], fun ys hys => ?_⟩
  have set : (step (run (init executable arch) pre) (.withNetwork en fp u)).added .network = true := by
    simp [marked]
  have even : (step (run (init executable arch) pre) (.withNetwork en fp u)).args.length % 2 = 0 := by
    rw [marked, mark_args]
    exact inv.even
  rw [run_append, run_cons]
  refine ⟨added_run_of_added ys set, fun p hp => ?_⟩
  have none : owned .network (pairs (run (step (run (init executable arch) pre) (.withNetwork en fp u))
      ys).args) = [] := by
    rw [owned_run_of_added even set ys hys, marked, mark_args]
    exact inv.unset .network unset
  have notOwned := List.filter_eq_nil_iff.1 none p hp
  constructor <;> rintro h <;> simp [h, optionOwner] at notOwned

/-- Forwarding a port given as a bare number raises; a retried `with_network(True)` is then
skipped, and the command line has no network option. -/
theorem network_lost_after_raise :
    (run (init (.str "qemu-system-x86_64") .Q35)
        [.withNetwork (.obj (.bool true)) (.obj (.int 8270)) (.bool false),
          .withNetwork (.obj (.bool true)) (.obj .none) (.bool false)]).added .network = true ∧
    ∀ p ∈ pairs (run (init (.str "qemu-system-x86_64") .Q35)
        [.withNetwork (.obj (.bool true)) (.obj (.int 8270)) (.bool false),
          .withNetwork (.obj (.bool true)) (.obj .none) (.bool false)]).args,
      p.1 ≠ "-net" ∧ p.1 ≠ "-netdev" :=
  match raised_call_effect (.str "qemu-system-x86_64") .Q35 [] (by decide)
      (.withNetwork (.obj (.bool true)) (.obj (.int 8270)) (.bool false)) rfl with
  | .inl ⟨_, _, h, _⟩ => by cases h
  | .inr ⟨_, _, _, _, _, after⟩ => after [.withNetwork (.obj (.bool true)) (.obj .none) (.bool false)] (by decide)

end PatinaQemu
