import PatinaQemu.Python.Text

set_option autoImplicit false

/-!
# The QEMU version probe

`QueryQemuVersion(exec)` (the same function in both runners) runs `exec --version`
and reads the version off its output with `re.search(r"version\s*([\d.]+)", res)`,
returning the match's group split at `.`. It returns `None` when there is no
executable or the command fails, and raises `AttributeError` when the output holds no
match: `re.search` then gives `None`, whose `.group` does not exist.

`searchVersion` is the search as the regular-expression engine performs it: the
pattern tried at each position from the left, and at a position `\s*` and `[\d.]+`
taking as many characters as they can. Because no whitespace character is a digit or a
dot, no backtracking ever changes that outcome, and `searchVersion_eq_some_iff` shows
it agrees with the declarative reading `FirstMatch`: the leftmost decomposition
`pre ++ "version" ++ spaces ++ number ++ post` with `number` a maximal run of digits
and dots.

## Main definitions

* `Probe` — the exit status and output of `exec --version`
* `searchVersion`, `MatchesAt`, `FirstMatch` — the search, and what it finds
* `queryQemuVersion` — `QueryQemuVersion`

## Main results

* `searchVersion_eq_some_iff` — the search finds exactly the first match
* `queryQemuVersion_result` — what the probe returns, for every output
-/

namespace PatinaQemu

/-- What `RunCmd(exec, "--version", outstream=result)` gives back: the exit status and
the text written to `result`. -/
structure Probe where
  status : Int
  stdout : String
  deriving DecidableEq, Repr

/-- A character of `[\d.]`. -/
def isVersionChar (c : Char) : Bool := isDecimal c || c == '.'

theorem not_isPySpace_of_isVersionChar {c : Char} (h : isVersionChar c = true) :
    isPySpace c = false := by
  rcases Bool.or_eq_true_iff.1 h with h | h
  · exact not_isPySpace_of_isDecimal h
  · rw [beq_iff_eq] at h
    subst h
    decide

/-- The pattern `version\s*([\d.]+)` tried at the start of `s`: group 1 when it
matches there. -/
def versionAt (s : List Char) : Option (List Char) :=
  if "version".toList.isPrefixOf s then
    let number := ((s.drop 7).dropWhile isPySpace).takeWhile isVersionChar
    if number = [] then none else some number
  else none

/-- `re.search(r"version\s*([\d.]+)", s)`: group 1 of the match at the leftmost
position where the pattern matches. -/
def searchVersion : List Char → Option (List Char)
  | [] => none
  | c :: rest =>
    match versionAt (c :: rest) with
    | some g => some g
    | none => searchVersion rest

/-- `s` matches the pattern after the prefix `pre`, with group `g`: the word, some
whitespace, then `g`, a run of digits and dots that ends where `s` does or at a
character of neither kind. -/
def MatchesAt (s pre g : List Char) : Prop :=
  ∃ ws post, s = pre ++ "version".toList ++ ws ++ g ++ post ∧ (∀ c ∈ ws, isPySpace c) ∧
    g ≠ [] ∧ (∀ c ∈ g, isVersionChar c) ∧ ∀ c ∈ post.head?, isVersionChar c = false

/-- The match `re.search` reports: the one with the shortest prefix. -/
def FirstMatch (s pre g : List Char) : Prop :=
  MatchesAt s pre g ∧ ∀ pre' g', MatchesAt s pre' g' → pre.length ≤ pre'.length

/-! ## The search finds the first match -/

theorem length_version : "version".toList.length = 7 := rfl

theorem versionAt_eq_some_iff {s g : List Char} : versionAt s = some g ↔ MatchesAt s [] g := by
  constructor
  · intro h
    unfold versionAt at h
    dsimp only at h
    split at h
    · rename_i hpre
      obtain ⟨t, rfl⟩ : ∃ t, s = "version".toList ++ t :=
        ⟨_, (List.prefix_iff_eq_append.1 (List.isPrefixOf_iff_prefix.1 hpre)).symm⟩
      rw [List.drop_left' length_version] at h
      split at h
      · cases h
      · rename_i hne
        cases h
        refine ⟨t.takeWhile isPySpace, (t.dropWhile isPySpace).dropWhile isVersionChar, ?_,
          fun c hc => List.mem_takeWhile_imp hc, hne, fun c hc => List.mem_takeWhile_imp hc, ?_⟩
        · simp
        · intro c hc
          have := List.head?_dropWhile_not isVersionChar (t.dropWhile isPySpace)
          rw [hc] at this
          exact this
    · cases h
  · rintro ⟨ws, post, rfl, hws, hg, hgv, hpost⟩
    obtain ⟨g₀, gs, rfl⟩ := List.exists_cons_of_ne_nil hg
    have hpre : "version".toList.isPrefixOf ([] ++ "version".toList ++ ws ++ (g₀ :: gs) ++ post) :=
      List.isPrefixOf_iff_prefix.2 ⟨ws ++ (g₀ :: gs) ++ post, by simp⟩
    have hsp : isPySpace g₀ = false := not_isPySpace_of_isVersionChar (hgv g₀ (by simp))
    have htail : post.takeWhile isVersionChar = [] := by
      cases post with
      | nil => rfl
      | cons p ps => simp [List.takeWhile_cons_of_neg, hpost p rfl]
    simp only [versionAt, hpre, if_true, List.nil_append, List.append_assoc]
    rw [List.drop_left' length_version, List.dropWhile_append_of_pos (fun c hc => hws c hc),
      List.cons_append, List.dropWhile_cons_of_neg (by simp [hsp]), ← List.cons_append,
      List.takeWhile_append_of_pos hgv, htail, List.append_nil]
    simp

theorem not_matchesAt_nil (pre g : List Char) : ¬ MatchesAt [] pre g := by
  rintro ⟨ws, post, h, -⟩
  have := congrArg List.length h
  simp at this
  omega

theorem matchesAt_cons_cons {c d : Char} {s pre g : List Char} :
    MatchesAt (c :: s) (d :: pre) g ↔ c = d ∧ MatchesAt s pre g := by
  simp only [MatchesAt, List.cons_append, List.cons.injEq]
  constructor
  · rintro ⟨ws, post, ⟨rfl, h⟩, rest⟩
    exact ⟨rfl, ws, post, h, rest⟩
  · rintro ⟨rfl, ws, post, h, rest⟩
    exact ⟨ws, post, ⟨rfl, h⟩, rest⟩

/-- The search returns the group of the first match, and nothing when there is none. -/
theorem searchVersion_eq_some_iff (s g : List Char) :
    searchVersion s = some g ↔ ∃ pre, FirstMatch s pre g := by
  induction s generalizing g with
  | nil =>
    simp only [searchVersion, reduceCtorEq, false_iff, not_exists]
    exact fun pre h => not_matchesAt_nil pre g h.1
  | cons c rest ih =>
    cases hv : versionAt (c :: rest) with
    | some g₀ =>
      have m₀ := versionAt_eq_some_iff.1 hv
      simp only [searchVersion, hv, Option.some.injEq]
      constructor
      · rintro rfl
        exact ⟨[], m₀, fun _ _ _ => Nat.zero_le _⟩
      · rintro ⟨pre, hm, hmin⟩
        have hpre : pre = [] := List.eq_nil_of_length_eq_zero (Nat.le_zero.1 (hmin [] g₀ m₀))
        subst hpre
        exact Option.some.inj (hv.symm.trans (versionAt_eq_some_iff.2 hm))
    | none =>
      have noMatch : ∀ g', ¬ MatchesAt (c :: rest) [] g' := fun g' h => by
        rw [← versionAt_eq_some_iff, hv] at h
        cases h
      simp only [searchVersion, hv, ih]
      constructor
      · rintro ⟨pre, hm, hmin⟩
        refine ⟨c :: pre, matchesAt_cons_cons.2 ⟨rfl, hm⟩, fun pre' g' h' => ?_⟩
        cases pre' with
        | nil => exact absurd h' (noMatch g')
        | cons d pre' =>
          obtain ⟨rfl, hrest⟩ := matchesAt_cons_cons.1 h'
          exact Nat.succ_le_succ (hmin pre' g' hrest)
      · rintro ⟨pre, hm, hmin⟩
        cases pre with
        | nil => exact absurd hm (noMatch g)
        | cons d pre =>
          obtain ⟨rfl, hrest⟩ := matchesAt_cons_cons.1 hm
          exact ⟨pre, hrest, fun pre' g' h' =>
            Nat.le_of_succ_le_succ (hmin (c :: pre') g' (matchesAt_cons_cons.2 ⟨rfl, h'⟩))⟩

/-- `ver_str.split(".")`. -/
def versionParts (g : List Char) : List String := (g.splitOn '.').map String.mk

theorem map_toList_versionParts (g : List Char) :
    (versionParts g).map String.toList = g.splitOn '.' := by
  rw [versionParts, List.map_map]
  exact List.map_id _

/-- `QueryQemuVersion(exec)`, for the report `probe` that running `exec --version`
gives. -/
def queryQemuVersion (exec : Option String) (probe : Probe) :
    Except PyError (Option (List String)) :=
  match exec with
  | none => .ok none
  | some _ =>
    if probe.status ≠ 0 then .ok none
    else
      match searchVersion probe.stdout.toList with
      | none => .error (.attributeError "'NoneType' object has no attribute 'group'")
      | some g => .ok (some (versionParts g))

/-- A probe that succeeds with a match gives the first match's group split at `.`. -/
theorem queryQemuVersion_of_firstMatch (exec : String) {probe : Probe}
    (succeeded : probe.status = 0) {pre g : List Char}
    (first : FirstMatch probe.stdout.toList pre g) :
    queryQemuVersion (some exec) probe = .ok (some (versionParts g)) := by
  unfold queryQemuVersion
  rw [if_neg (by simp [succeeded]), (searchVersion_eq_some_iff _ _).2 ⟨pre, first⟩]

/-- Each piece of `xs.splitOn x` is made of characters of `xs` other than `x`. -/
theorem mem_of_mem_splitOn (x : Char) : ∀ (xs : List Char), ∀ part ∈ xs.splitOn x,
    ∀ c ∈ part, c ∈ xs ∧ c ≠ x
  | [] => by simp [List.splitOn_nil]
  | y :: ys => by
    have ih := mem_of_mem_splitOn x ys
    simp only [List.splitOn] at ih ⊢
    rw [List.splitOnP_cons]
    split
    · intro part hpart c hc
      rcases List.mem_cons.1 hpart with rfl | hpart
      · simp at hc
      · exact ⟨List.mem_cons_of_mem _ (ih part hpart c hc).1, (ih part hpart c hc).2⟩
    · rename_i hy
      obtain ⟨h, t, ht⟩ := List.exists_cons_of_ne_nil (List.splitOnP_ne_nil (· == x) ys)
      rw [ht] at ih ⊢
      intro part hpart c hc
      rcases List.mem_cons.1 hpart with rfl | hpart
      · rcases List.mem_cons.1 hc with rfl | hc
        · exact ⟨List.mem_cons_self _ _, by simpa using hy⟩
        · have := ih h (List.mem_cons_self _ _) c hc
          exact ⟨List.mem_cons_of_mem _ this.1, this.2⟩
      · have := ih part (List.mem_cons_of_mem _ hpart) c hc
        exact ⟨List.mem_cons_of_mem _ this.1, this.2⟩

/-- `QueryQemuVersion` returns `None` without an executable or when the probe fails.
Otherwise, when the output holds a match, it returns the group of the first match
split at `.`: parts made of decimal digits, which joined with `.` give the group back. -/
theorem queryQemuVersion_result (exec : Option String) (probe : Probe) :
    ((exec = none ∨ probe.status ≠ 0) → queryQemuVersion exec probe = .ok none) ∧
    ∀ pre g, exec ≠ none → probe.status = 0 → FirstMatch probe.stdout.toList pre g →
      ∃ parts, queryQemuVersion exec probe = .ok (some parts) ∧
        (∀ part ∈ parts, ∀ c ∈ part.toList, isDecimal c = true) ∧
        ['.'].intercalate (parts.map String.toList) = g := by
  refine ⟨fun h => ?_, fun pre g hexec hstatus hfirst => ?_⟩
  · rcases h with rfl | h
    · rfl
    · cases exec <;> simp [queryQemuVersion, h]
  · obtain ⟨e, rfl⟩ := Option.ne_none_iff_exists'.1 hexec
    refine ⟨versionParts g, queryQemuVersion_of_firstMatch e hstatus hfirst,
      fun part hpart c hc => ?_, ?_⟩
    · obtain ⟨piece, hpiece, rfl⟩ := List.mem_map.1 hpart
      obtain ⟨hmem, hdot⟩ := mem_of_mem_splitOn '.' g piece hpiece c hc
      obtain ⟨ws, post, -, -, -, hgv, -⟩ := hfirst.1
      simpa [isVersionChar, hdot] using hgv c hmem
    · rw [map_toList_versionParts]
      exact List.intercalate_splitOn g '.'

theorem queryQemuVersion_version_8_2_0 :
    ∃ parts, queryQemuVersion (some "qemu-system-x86_64")
        ⟨0, "QEMU emulator version 8.2.0"⟩ = .ok (some parts) ∧
      (∀ part ∈ parts, ∀ c ∈ part.toList, isDecimal c = true) ∧
      ['.'].intercalate (parts.map String.toList) = "8.2.0".toList := by
  obtain ⟨pre, first⟩ := (searchVersion_eq_some_iff _ _).1
    (show searchVersion "QEMU emulator version 8.2.0".toList = some "8.2.0".toList from rfl)
  exact (queryQemuVersion_result _ _).2 pre _ (by simp) rfl first

/-- A version number ending in a dot gives an empty last part. -/
theorem queryQemuVersion_trailing_dot :
    queryQemuVersion (some "qemu-system-x86_64") ⟨0, "QEMU emulator version 8."⟩ =
      .ok (some ["8", ""]) := rfl

end PatinaQemu
