import PatinaQemu.Python.Text

set_option autoImplicit false

/-!
# `pathlib` paths and the Python values the launcher passes

`PurePath` is a `pathlib.PurePosixPath` as Python 3.11 parses it: an anchor
(`""`, `"/"` or `"//"`) and the parts after it, with empty and `.` parts
dropped. Only the operations the launcher calls are modelled: `str()`,
`.name`, `.suffix`, `.with_suffix`, `.parent` and `/`.

`PureWindowsPath` is what `pathlib.Path(s)` is on Windows: a drive, a root
and the parts, with `/` read as `\`. The command builder only asks such a
path for its `str()` and its `.suffix`, so only those are modelled.
`PathFlavour` picks one of the two, as `pathlib.Path` does from `os.name`.

`PyObj` is a Python value of the kinds the launcher hands to the command
builder (`None`, booleans, integers, strings and the script's paths), with
Python's truthiness and `str()`. `PyArg` adds lists, for the one argument the
builder iterates.
-/

namespace PatinaQemu

/-- A `pathlib.PurePosixPath`: its anchor and its parts. -/
structure PurePath where
  root : String
  parts : List String
  deriving DecidableEq, Repr

namespace PurePath

/-- `PurePosixPath(s)`: `posixpath.splitroot` gives the anchor (exactly two
leading slashes are kept, one or three or more become one), and the rest is
split at `/` with empty and `.` parts dropped. -/
def parse (s : String) : PurePath :=
  let root := match s.toList with
    | '/' :: '/' :: '/' :: _ => "/"
    | '/' :: '/' :: _ => "//"
    | '/' :: _ => "/"
    | _ => ""
  ⟨root, ((s.toList.splitOn '/').map String.mk).filter fun x => x ≠ "" ∧ x ≠ "."⟩

/-- `str(path)`: the anchor and the parts joined by `/`, or `.` for an empty
relative path. -/
protected def toString (p : PurePath) : String :=
  if p.root = "" ∧ p.parts = [] then "." else p.root ++ "/".intercalate p.parts

instance : ToString PurePath := ⟨PurePath.toString⟩

/-- `path.name`: the last part, or `""` for an anchor alone. -/
def name (p : PurePath) : String := p.parts.getLast?.getD ""

/-- The suffix of a final component: from its last `.` on, provided that dot
is neither the first nor the last character (`name.rfind('.')` strictly
between `0` and `len(name) - 1`). -/
def suffixOfName (name : String) : String :=
  let r := name.toList.reverse
  let post := r.takeWhile (· ≠ '.')
  match r.dropWhile (· ≠ '.') with
  | _ :: pre => if pre ≠ [] ∧ post ≠ [] then ⟨'.' :: post.reverse⟩ else ""
  | [] => ""

/-- `path.suffix`. -/
def suffix (p : PurePath) : String := suffixOfName p.name

/-- `path.parent`: the path without its last part. -/
def parent (p : PurePath) : PurePath := ⟨p.root, p.parts.dropLast⟩

/-- `path / s`: an absolute `s` replaces the path, a relative one extends it. -/
def div (p : PurePath) (s : String) : PurePath :=
  let q := parse s
  if q.root = "" then ⟨p.root, p.parts ++ q.parts⟩ else q

/-- `path.with_suffix(suffix)` for a well-formed `suffix` (the launcher passes
the constant `".ref.fd"`): an empty name is refused, otherwise the old suffix,
if any, is replaced. -/
def withSuffix (p : PurePath) (suffix : String) : Except PyError PurePath :=
  match p.parts.getLast? with
  | none =>
    let shown := p.toString
    .error (.valueError ("PosixPath('" ++ shown ++ "') has an empty name"))
  | some name =>
    let stem : String := ⟨name.toList.take (name.length - (suffixOfName name).length)⟩
    .ok ⟨p.root, p.parts.dropLast ++ [stem ++ suffix]⟩

/-- The suffix of a name is the name's tail, and it holds at most one dot. -/
theorem suffixOfName_spec (name : String) :
    (suffixOfName name).toList <:+ name.toList ∧ (suffixOfName name).toList.count '.' ≤ 1 := by
  unfold suffixOfName
  dsimp only
  split
  · rename_i c pre h
    have dot : c = '.' := by
      have := List.head?_dropWhile_not (fun c => decide (c ≠ '.')) name.toList.reverse
      rw [h] at this
      simpa using this
    split
    · have whole := List.takeWhile_append_dropWhile (fun c => decide (c ≠ '.')) name.toList.reverse
      rw [h, dot] at whole
      have noDot : '.' ∉ name.toList.reverse.takeWhile (fun c => decide (c ≠ '.')) := fun hm => by
        simpa using List.mem_takeWhile_imp hm
      refine ⟨⟨pre.reverse, ?_⟩, ?_⟩
      · simpa using congrArg List.reverse whole
      · simp [List.count_eq_zero_of_not_mem (by simpa using noDot)]
    · exact ⟨List.nil_suffix, by simp⟩
  · exact ⟨List.nil_suffix, by simp⟩

theorem intercalate_go_append (s : String) (a : String) :
    ∀ (acc : String) (l : List String),
      String.intercalate.go acc s (l ++ [a]) = String.intercalate.go acc s l ++ s ++ a
  | _, [] => rfl
  | acc, x :: l => intercalate_go_append s a (acc ++ s ++ x) l

/-- The parts before the last one give the same text before it, whatever it is. -/
theorem intercalate_append_singleton (s : String) (l : List String) :
    ∃ pre, ∀ a, s.intercalate (l ++ [a]) = pre ++ a := by
  cases l with
  | nil => exact ⟨"", fun a => by simp [String.intercalate, String.intercalate.go]⟩
  | cons x l =>
    exact ⟨String.intercalate.go x s l ++ s, fun a => by
      simp [String.intercalate, intercalate_go_append, String.append_assoc]⟩

/-- `with_suffix` with a suffix of two dots or more never gives back the path it was applied
to, not even as a string: the old suffix holds at most one dot. -/
theorem withSuffix_toString_ne {p q : PurePath} {suffix : String}
    (dots : 2 ≤ suffix.toList.count '.') (h : p.withSuffix suffix = .ok q) :
    q.toString ≠ p.toString := by
  unfold withSuffix at h
  split at h
  · cases h
  · rename_i name last
    cases h
    obtain ⟨init, hinit⟩ := List.getLast?_eq_some_iff.1 last
    obtain ⟨pre, hpre⟩ := intercalate_append_singleton "/" init
    intro same
    simp only [PurePath.toString, hinit, List.dropLast_concat, hpre] at same
    rw [if_neg (by simp), if_neg (by simp)] at same
    have tail := congrArg String.toList same
    simp only [String.toList, String.data_append, List.append_assoc, List.append_cancel_left_eq] at tail
    have whole : name.data.take (name.length - (suffixOfName name).length) ++
        (suffixOfName name).data = name.data := List.suffix_iff_eq_append.1 (suffixOfName_spec name).1
    have same_suffix := List.append_cancel_left (tail.trans whole.symm)
    have oneDot := (suffixOfName_spec name).2
    simp only [String.toList, ← same_suffix] at dots oneDot
    omega

end PurePath

/-- A `pathlib.PureWindowsPath`: its drive, its root and its parts. -/
structure PureWindowsPath where
  drive : String
  root : String
  parts : List String
  deriving DecidableEq, Repr

namespace PureWindowsPath

/-- `s.find('\\', start)`: the first `\` at or after `start`. -/
def findSep (s : List Char) (start : Nat) : Option Nat :=
  ((s.drop start).findIdx? (· = '\\')).map (· + start)

/-- `_WindowsFlavour._split_extended_path`: a leading `\\?\` is set aside, with a `UNC`
after it, which leaves one `\` behind so that a UNC path follows. -/
def splitExtendedPath : List Char → List Char × List Char
  | '\\' :: '\\' :: '?' :: '\\' :: 'U' :: 'N' :: 'C' :: '\\' :: rest =>
    ("\\\\?\\UNC".toList, '\\' :: '\\' :: rest)
  | '\\' :: '\\' :: '?' :: '\\' :: rest => ("\\\\?\\".toList, rest)
  | s => ([], s)

/-- The UNC drive `\\machine\mountpoint` at the start of `part`, with what follows its
separator; there is none without a machine, or when two separators follow the machine. -/
def uncDrive (pre part : List Char) : Option (List Char × List Char × List Char) :=
  match part with
  | '\\' :: '\\' :: c :: _ =>
    if c = '\\' then none else
    match findSep part 2 with
    | none => none
    | some index =>
      let index2 := findSep part (index + 1)
      if index2 = some (index + 1) then none else
        let index2 := index2.getD part.length
        some (if pre = [] then part.take index2 else pre ++ (part.take index2).drop 1, ['\\'],
          part.drop (index2 + 1))
  | _ => none

/-- `_WindowsFlavour.splitroot` of a part whose `/` are already `\`: a UNC drive, else an
ASCII drive letter and its colon, then a root `\` with the separators after it. -/
def splitRoot (part : List Char) : List Char × List Char × List Char :=
  let (pre, part) := match part with
    | '\\' :: '\\' :: _ => splitExtendedPath part
    | _ => ([], part)
  match uncDrive pre part with
  | some split => split
  | none =>
    let (drv, part) := match part with
      | c :: ':' :: rest => if c.isAlpha then ([c, ':'], rest) else ([], part)
      | _ => ([], part)
    match part with
    | '\\' :: rest => (pre ++ drv, ['\\'], rest.dropWhile (· = '\\'))
    | _ => (pre ++ drv, [], part)

/-- `PureWindowsPath(s)`: every `/` becomes `\`, `splitRoot` gives the drive and the root,
and the rest is split at `\` with empty and `.` parts dropped. -/
def parse (s : String) : PureWindowsPath :=
  let (drv, root, rel) := splitRoot (s.toList.map fun c => if c = '/' then '\\' else c)
  ⟨⟨drv⟩, ⟨root⟩, ((rel.splitOn '\\').map String.mk).filter fun x => x ≠ "" ∧ x ≠ "."⟩

/-- `str(path)`: the drive, the root and the parts joined by `\`, or `.` for an empty
relative path. -/
protected def toString (p : PureWindowsPath) : String :=
  if p.drive = "" ∧ p.root = "" ∧ p.parts = [] then "."
  else p.drive ++ p.root ++ "\\".intercalate p.parts

/-- `path.name`: the last part, or `""` for an anchor alone. -/
def name (p : PureWindowsPath) : String := p.parts.getLast?.getD ""

/-- `path.suffix`. -/
def suffix (p : PureWindowsPath) : String := PurePath.suffixOfName p.name

end PureWindowsPath

/-- The class `pathlib.Path` stands for: `WindowsPath` where `os.name` is `"nt"`,
`PosixPath` elsewhere. -/
inductive PathFlavour
  | posix
  | windows
  deriving DecidableEq, Repr

namespace PathFlavour

/-- The flavour of `pathlib.Path` on a host whose `os.name` is `osName`. -/
def ofOsName (osName : String) : PathFlavour := if osName = "nt" then .windows else .posix

/-- `str(Path(s))`. -/
def str : PathFlavour → String → String
  | .posix, s => (PurePath.parse s).toString
  | .windows, s => (PureWindowsPath.parse s).toString

/-- `Path(s).suffix`. -/
def suffix : PathFlavour → String → String
  | .posix, s => (PurePath.parse s).suffix
  | .windows, s => (PureWindowsPath.parse s).suffix

@[simp] theorem ofOsName_nt : ofOsName "nt" = .windows := rfl

end PathFlavour

/-- A Python value of the kinds the launcher passes to the command builder. A path object
is one of the script's, a `PosixPath` of a POSIX host: the runners hand the builder strings
only, and the script's paths are not modelled on Windows. -/
inductive PyObj
  | none
  | bool (b : Bool)
  | int (n : Int)
  | str (s : String)
  | path (p : PurePath)
  deriving DecidableEq, Repr

namespace PyObj

/-- Python truthiness (`if x:`); a path object is always true. -/
def truthy : PyObj → Bool
  | .none => false
  | .bool b => b
  | .int n => n ≠ 0
  | .str s => s ≠ ""
  | .path _ => true

/-- `str(x)`, which is also what an f-string inserts. -/
def toStr : PyObj → String
  | .none => "None"
  | .bool true => "True"
  | .bool false => "False"
  | .int n => toString n
  | .str s => s
  | .path p => p.toString

/-- The name `type(x).__name__` gives, as Python's error messages show it. A path object is
a `PosixPath`; `ScriptHost.typeName` gives the script's host's class, `WindowsPath` where
`os.name` is `nt`. -/
def typeName : PyObj → String
  | .none => "NoneType"
  | .bool _ => "bool"
  | .int _ => "int"
  | .str _ => "str"
  | .path _ => "PosixPath"

/-- `x or default` for a value that is a string or `None`. -/
def orElse (x : Option String) (default : PyObj) : PyObj :=
  match x with
  | some s => if s = "" then default else .str s
  | Option.none => default

@[simp] theorem truthy_str (s : String) : (str s).truthy = decide (s ≠ "") := rfl
@[simp] theorem truthy_none : none.truthy = false := rfl
@[simp] theorem truthy_path (p : PurePath) : (path p).truthy = true := rfl
@[simp] theorem toStr_str (s : String) : (str s).toStr = s := rfl

end PyObj

/-- A value the builder may iterate: a plain value or a list. -/
inductive PyArg
  | obj (v : PyObj)
  | list (xs : List PyObj)
  deriving DecidableEq, Repr

namespace PyArg

/-- Python truthiness; a list is true when it is non-empty. -/
def truthy : PyArg → Bool
  | .obj v => v.truthy
  | .list xs => !xs.isEmpty

/-- `for x in arg`: a list yields its items, a string its characters, and
anything else raises `TypeError`. -/
def iter : PyArg → Except PyError (List PyObj)
  | .list xs => .ok xs
  | .obj (.str s) => .ok (s.toList.map fun c => .str (String.singleton c))
  | .obj v =>
    let t := v.typeName
    .error (.typeError ("'" ++ t ++ "' object is not iterable"))

end PyArg

/-- What `os.path.isfile` and `os.path.isdir` answer when a call asks. Neither raises: an
error of `os.stat` reads as `False`. -/
structure FileSystem where
  isfile : String → Bool
  isdir : String → Bool

end PatinaQemu
