import PatinaQemu.Builder.OptionValue

set_option autoImplicit false

/-!
# The SMBIOS records

`with_smbios` merges its overrides into a default table (`smbiosValue`) and writes
three `-smbios` records, types 0, 1 and 3. Each record is a list of `key=value`
fields separated by commas, every value but the UUID in double quotes; QEMU reads it
by splitting at the commas outside quotes, splitting each field at its first `=` and
removing the quotes around the value (`smbiosRecord`).

Nothing is escaped. A value is read back as written exactly when it holds no double
quote, and the unquoted UUID also holds no comma (`withSmbios_records`); a lone quote
in the vendor name swallows the rest of the record (`smbiosRecord_quote_in_vendor`).

## Main definitions

* `splitOutsideQuotes`, `smbiosField`, `smbiosRecord` — how a record is read
* `smbiosKeys` — the fifteen keys `with_smbios` reads

## Main results

* `withSmbios_records` — the first call writes the three records, read back as the
  merged table
-/

namespace PatinaQemu

open QemuCommandBuilder

/-- A record's text split at the commas that stand outside double quotes; `quoted`
says whether the text starts inside quotes. -/
def splitOutsideQuotes : List Char → Bool → List (List Char)
  | [], _ => [[]]
  | '"' :: rest, quoted => consHead '"' (splitOutsideQuotes rest !quoted)
  | ',' :: rest, false => [] :: splitOutsideQuotes rest false
  | c :: rest, quoted => consHead c (splitOutsideQuotes rest quoted)

/-- A value without its pair of enclosing double quotes, if it has one. -/
def unquote : List Char → List Char
  | '"' :: rest => if rest.getLast? = some '"' then rest.dropLast else '"' :: rest
  | v => v

/-- A field read as its key, up to the first `=`, and its unquoted value. -/
def smbiosField (f : List Char) : String × String :=
  (⟨f.takeWhile (· ≠ '=')⟩, ⟨unquote ((f.dropWhile (· ≠ '=')).drop 1)⟩)

/-- An `-smbios` record read field by field. -/
def smbiosRecord (r : String) : List (String × String) :=
  (splitOutsideQuotes r.toList false).map smbiosField

/-- The keys `with_smbios` reads from its merged table. -/
def smbiosKeys : List String :=
  ["smbios0_vendor", "smbios0_version", "smbios0_date", "smbios1_manufacturer",
    "smbios1_product", "smbios1_family", "smbios1_version", "smbios1_serial", "smbios1_uuid",
    "smbios3_manufacturer", "smbios3_serial", "smbios3_asset", "smbios3_sku", "smbios3_version"]

/-- A field `smbiosRecord` reads back as written: one without quotes and commas, or a key
without quotes and commas followed by a value in quotes that holds no quote. -/
inductive ReadableField : List Char → Prop
  | plain {f : List Char} : '"' ∉ f → ',' ∉ f → ReadableField f
  | quoted {k v : List Char} : '"' ∉ k → ',' ∉ k → '"' ∉ v → ReadableField (k ++ '"' :: v ++ ['"'])

section Reading

theorem splitOutsideQuotes_quote (rest : List Char) (quoted : Bool) {f : List Char}
    {fs : List (List Char)} (h : splitOutsideQuotes rest (!quoted) = f :: fs) :
    splitOutsideQuotes ('"' :: rest) quoted = ('"' :: f) :: fs := by
  rw [splitOutsideQuotes, h]; rfl

/-- Characters other than quotes, and other than commas outside quotes, join the field that
follows them. -/
theorem splitOutsideQuotes_append : ∀ {a : List Char} (rest : List Char) (quoted : Bool)
    {f : List Char} {fs : List (List Char)}, '"' ∉ a → (quoted = false → ',' ∉ a) →
    splitOutsideQuotes rest quoted = f :: fs → splitOutsideQuotes (a ++ rest) quoted = (a ++ f) :: fs
  | [], _, _, _, _, _, _, h => h
  | c :: a, rest, quoted, f, fs, noQuote, noComma, h => by
    simp only [List.mem_cons, not_or] at noQuote noComma
    rw [List.cons_append, splitOutsideQuotes.eq_4 _ _ _ (noQuote.1 ·.symm)
      (fun hc hq => (noComma hq).1 hc.symm), splitOutsideQuotes_append rest quoted noQuote.2
      (fun hq => (noComma hq).2) h]
    rfl

/-- A readable field followed by the end of the record, or by a comma, is read whole. -/
theorem splitOutsideQuotes_field {f : List Char} (readable : ReadableField f) (rest : List Char)
    {gs : List (List Char)} (h : splitOutsideQuotes rest false = [] :: gs) :
    splitOutsideQuotes (f ++ rest) false = f :: gs := by
  cases readable with
  | plain noQuote noComma =>
    simpa using splitOutsideQuotes_append rest false noQuote (fun _ => noComma) h
  | @quoted k v keyNoQuote keyNoComma valueNoQuote =>
    have closing := splitOutsideQuotes_quote rest true h
    have value := splitOutsideQuotes_append _ true valueNoQuote (by simp) closing
    have opening := splitOutsideQuotes_quote _ false value
    simpa using splitOutsideQuotes_append _ false keyNoQuote (fun _ => keyNoComma) opening

/-- A record of readable fields is split back into its fields. -/
theorem smbiosRecord_optValue : ∀ (fs : List String), fs ≠ [] →
    (∀ f ∈ fs, ReadableField f.toList) →
    smbiosRecord (optValue fs) = fs.map fun f => smbiosField f.toList
  | [f], _, h => by
    simpa [smbiosRecord, optValue] using
      congrArg (List.map smbiosField) (splitOutsideQuotes_field (h f (by simp)) [] rfl)
  | f :: g :: fs, _, h => by
    have rest := smbiosRecord_optValue (g :: fs) (by simp) fun x hx => h x (by simp [hx])
    rw [smbiosRecord, toList_optValue_cons_cons, splitOutsideQuotes_field (h f (by simp)) (',' :: _) rfl]
    exact congrArg (smbiosField f.toList :: ·) rest

@[simp] theorem unquote_quoted (v : List Char) : unquote ('"' :: (v ++ ['"'])) = v := by
  simp [unquote]

theorem unquote_of_not_mem : ∀ {v : List Char}, '"' ∉ v → unquote v = v
  | [], _ => rfl
  | c :: v, h => by
    rw [unquote.eq_2]
    rintro rest ⟨⟩
    simp at h

theorem readableField_plain {f : String} (free : '"' ∉ f.toList ∧ ',' ∉ f.toList) :
    ReadableField f.toList :=
  .plain free.1 free.2

theorem readableField_quoted {key : String} (keyFree : '"' ∉ key.toList ∧ ',' ∉ key.toList)
    {v : String} (valueFree : '"' ∉ v.toList) : ReadableField (key ++ ("\"" ++ v ++ "\"")).toList := by
  have h : ReadableField (key.toList ++ '"' :: v.toList ++ ['"']) :=
    .quoted keyFree.1 keyFree.2 valueFree
  simpa [String.toList, String.data_append] using h

theorem readableField_unquoted {key : String} (keyFree : '"' ∉ key.toList ∧ ',' ∉ key.toList)
    {v : String} (valueFree : '"' ∉ v.toList ∧ ',' ∉ v.toList) : ReadableField (key ++ v).toList :=
  .plain (by simpa [String.toList, String.data_append] using ⟨keyFree.1, valueFree.1⟩)
    (by simpa [String.toList, String.data_append] using ⟨keyFree.2, valueFree.2⟩)

end Reading

section Values

/-- `strftime("%m/%d/%Y")` writes digits and slashes only. -/
theorem not_mem_strftime {c : Char} (notDigit : isDecimal c = false) (notSlash : c ≠ '/')
    (d : Date) : c ∉ d.strftime.toList := by
  have pad : ∀ n, c ∉ (pad2 n).toList := fun n => by
    unfold pad2
    split
    · simp only [String.toList, String.data_append, List.mem_append, not_or]
      exact ⟨by rintro (_ | ⟨_, ⟨⟩⟩); exact absurd notDigit (by decide), not_mem_toString notDigit n⟩
    · exact not_mem_toString notDigit n
  simp only [Date.strftime, String.toList, String.data_append, List.mem_append, not_or]
  exact ⟨⟨⟨⟨pad _, by simpa using notSlash⟩, pad _⟩, by simpa using notSlash⟩,
    not_mem_toString notDigit _⟩

/-- No default value holds a quote or a comma, when the date holds none. -/
theorem not_mem_smbiosDefaults {c : Char} (quoteOrComma : c = '"' ∨ c = ',')
    (arch : QemuArchitecture) {date : String} (dateFree : c ∉ date.toList) :
    ∀ p ∈ smbiosDefaults arch date, c ∉ p.2.toList := by
  have dated : smbiosDefaults arch date = (smbiosDefaults arch "").take 2 ++
      ("smbios0_date", date) :: (smbiosDefaults arch "").drop 3 := by
    cases arch <;> rfl
  have undated : ∀ p ∈ (smbiosDefaults arch "").take 2 ++ (smbiosDefaults arch "").drop 3,
      c ∉ p.2.toList := by
    rcases quoteOrComma with rfl | rfl <;> cases arch <;> decide
  rw [dated]
  intro p hp
  rcases List.mem_append.1 hp with early | later
  · exact undated p (List.mem_append_left _ early)
  · rcases List.mem_cons.1 later with rfl | late
    · exact dateFree
    · exact undated p (List.mem_append_right _ late)

/-- A character kept out of the defaults and out of the overrides is kept out of the merged
table. -/
theorem not_mem_smbiosValue {c : Char} {arch : QemuArchitecture} {date : String}
    {smbios_values : String → Option String} {key : String}
    (defaults : ∀ p ∈ smbiosDefaults arch date, c ∉ p.2.toList)
    (overrides : ∀ v, smbios_values key = some v → c ∉ v.toList) :
    c ∉ (smbiosValue arch date smbios_values key).toList := by
  unfold smbiosValue
  cases h : smbios_values key with
  | some v => exact overrides v h
  | none =>
    cases hl : (smbiosDefaults arch date).lookup key with
    | none => simp
    | some v =>
      obtain ⟨l₁, l₂, hl, -⟩ := List.lookup_eq_some_iff.1 hl
      exact defaults (key, v) (by simp [hl])

end Values

/-- `with_smbios` reads its overrides at the fourteen keys only. -/
theorem withSmbios_congr (b : QemuCommandBuilder) (today : Date)
    {smbios_values other : String → Option String}
    (same : ∀ key ∈ smbiosKeys, other key = smbios_values key) :
    b.withSmbios today other = b.withSmbios today smbios_values := by
  simp only [smbiosKeys, List.forall_mem_cons, List.forall_mem_nil, and_true] at same
  simp [withSmbios, smbiosArgs, smbiosValue, same]

/-- The first `with_smbios` call writes a type 0, a type 1 and a type 3 record, and each reads
back as its fixed list of fields holding the merged table, as long as no value holds a double
quote and the unquoted UUID holds no comma; overrides of other keys change nothing. -/
theorem withSmbios_records (b : QemuCommandBuilder) (today : Date)
    (smbios_values : String → Option String) (unset : b.added .smbios = false)
    (noQuote : ∀ key ∈ smbiosKeys, ∀ v, smbios_values key = some v → '"' ∉ v.toList)
    (uuidNoComma : ∀ v, smbios_values "smbios1_uuid" = some v → ',' ∉ v.toList) :
    let value := smbiosValue b.architecture today.strftime smbios_values
    (∃ r₀ r₁ r₃, (b.withSmbios today smbios_values).args =
        b.args ++ ["-smbios", r₀, "-smbios", r₁, "-smbios", r₃] ∧
      smbiosRecord r₀ = [("type", "0"), ("vendor", value "smbios0_vendor"),
        ("version", value "smbios0_version"), ("date", value "smbios0_date"), ("uefi", "on")] ∧
      smbiosRecord r₁ = [("type", "1"), ("manufacturer", value "smbios1_manufacturer"),
        ("product", value "smbios1_product"), ("family", value "smbios1_family"),
        ("version", value "smbios1_version"), ("serial", value "smbios1_serial"),
        ("uuid", value "smbios1_uuid")] ∧
      smbiosRecord r₃ = [("type", "3"), ("manufacturer", value "smbios3_manufacturer"),
        ("serial", value "smbios3_serial"), ("asset", value "smbios3_asset"),
        ("sku", value "smbios3_sku"), ("version", value "smbios3_version")]) ∧
    ∀ other : String → Option String, (∀ key ∈ smbiosKeys, other key = smbios_values key) →
      b.withSmbios today other = b.withSmbios today smbios_values := by
  dsimp only
  have dateFree (c : Char) (hc : c = '"' ∨ c = ',') : c ∉ today.strftime.toList := by
    rcases hc with rfl | rfl <;> exact not_mem_strftime (by decide) (by decide) today
  have quoteFree : ∀ key ∈ smbiosKeys,
      '"' ∉ (smbiosValue b.architecture today.strftime smbios_values key).toList := fun key hk =>
    not_mem_smbiosValue (not_mem_smbiosDefaults (.inl rfl) _ (dateFree _ (.inl rfl)))
      (noQuote key hk)
  have uuidFree : ',' ∉ (smbiosValue b.architecture today.strftime smbios_values "smbios1_uuid").toList :=
    not_mem_smbiosValue (not_mem_smbiosDefaults (.inr rfl) _ (dateFree _ (.inr rfl))) uuidNoComma
  have uuidPlain := unquote_of_not_mem (quoteFree "smbios1_uuid" (by decide))
  simp only [String.toList] at uuidPlain
  have uuidReadable : ReadableField
      ("uuid=" ++ smbiosValue b.architecture today.strftime smbios_values "smbios1_uuid").toList :=
    readableField_unquoted (by decide) ⟨quoteFree "smbios1_uuid" (by decide), uuidFree⟩
  refine ⟨⟨_, _, _, by rw [withSmbios, once_some_of_not_added _ unset]; rfl, ?_, ?_, ?_⟩,
    fun _ => withSmbios_congr b today⟩
  all_goals
    rw [smbiosRecord_optValue _ (by simp) ?_]
    · simp +decide [smbiosField, String.data_append, uuidPlain]
    · simp (disch := first | decide | (apply quoteFree; decide)) only [List.forall_mem_cons,
        readableField_quoted, readableField_plain, uuidReadable, List.not_mem_nil, false_implies,
        implies_true, and_self]

/-- The Q35 defaults with the BIOS version overridden, on 9 November 2026. -/
theorem withSmbios_records_q35_version :
    let b := init (.str "qemu-system-x86_64") .Q35
    ∃ r₀ r₁ r₃, (b.withSmbios ⟨11, 9, 2026⟩ fun key =>
        if key = "smbios0_version" then some "1.0.0" else none).args =
          b.args ++ ["-smbios", r₀, "-smbios", r₁, "-smbios", r₃] ∧
      smbiosRecord r₀ = [("type", "0"), ("vendor", "Patina"), ("version", "1.0.0"),
        ("date", "11/09/2026"), ("uefi", "on")] ∧
      smbiosRecord r₁ = [("type", "1"), ("manufacturer", "OpenDevicePartnership"),
        ("product", "QEMU Q35"), ("family", "QEMU"), ("version", "10.0.0"),
        ("serial", "42-42-42-42"), ("uuid", "99fb60e2-181c-413a-a3cf-0a5fea8d87b0")] ∧
      smbiosRecord r₃ = [("type", "3"), ("manufacturer", "OpenDevicePartnership"),
        ("serial", "40-41-42-43"), ("asset", "Q35"), ("sku", "Q35"), ("version", "")] :=
  (withSmbios_records _ ⟨11, 9, 2026⟩ _ rfl
    (fun _ _ _ h => by split at h <;> cases h; decide)
    (fun _ h => by cases h)).1

/-- A lone double quote as the vendor name opens a quote that the record never closes: the
rest of the record is read as the vendor's value. -/
theorem smbiosRecord_quote_in_vendor :
    let b := init (.str "qemu-system-x86_64") .Q35
    ∃ r₀ rest, (b.withSmbios ⟨11, 9, 2026⟩ fun key =>
        if key = "smbios0_vendor" then some "\"" else none).args =
          b.args ++ "-smbios" :: r₀ :: rest ∧
      smbiosRecord r₀ = [("type", "0"),
        ("vendor", "\"\"\",version=\"patina-q35-patched\",date=\"11/09/2026\",uefi=on")] :=
  ⟨_, _, rfl, by decide⟩

end PatinaQemu
