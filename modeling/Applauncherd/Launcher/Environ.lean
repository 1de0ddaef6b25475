import Mathlib.Data.List.Basic

/-! The booster's process environment, which the `ENV` action edits with `putenv`. Entries are
the strings `environ` points to; glibc's `putenv` and `getenv` both look for the first entry
that starts with the name and a `'='`. Whatever the entries before, after a run of `putenv`
calls every name reads the value of the last entry that set it. -/

namespace Applauncherd.Launcher.Environ

/-- `'='`. -/
def equalsSign : UInt8 := 61

/-- The name an entry sets: its bytes before the first `'='`. -/
def entryName (entry : List UInt8) : List UInt8 := entry.takeWhile (· ≠ equalsSign)

/-- The value an entry sets: its bytes after the first `'='`. -/
def entryValue (entry : List UInt8) : List UInt8 := (entry.dropWhile (· ≠ equalsSign)).drop 1

/-- Whether `entry` defines `name`: it starts with `name` and a `'='`. -/
def Defines (name entry : List UInt8) : Bool := (name ++ [equalsSign]).isPrefixOf entry

/-- glibc `putenv` of a string with a `'='`: the string replaces the first entry that defines
its name, or is appended. -/
def putenv (entry : List UInt8) : List (List UInt8) → List (List UInt8)
  | [] => [entry]
  | other :: environ =>
      if Defines (entryName entry) other then entry :: environ else other :: putenv entry environ

/-- glibc `getenv`: the value of the first entry that defines `name`. -/
def getenv (name : List UInt8) : List (List UInt8) → Option (List UInt8)
  | [] => none
  | entry :: environ =>
      if Defines name entry then some (entry.drop (name.length + 1)) else getenv name environ

/-- `putenv_sanitize`: `strchr(s, '=')`. -/
def putenvSanitize (entry : List UInt8) : Bool := entry.contains equalsSign

/-- One pass of `receiveEnv`'s loop over a received string: `putenv` when it has a `'='`,
otherwise a warning. A failed `putenv` (no memory) is not modelled. -/
def addEntry (environ : List (List UInt8)) (entry : List UInt8) : List (List UInt8) :=
  if putenvSanitize entry then putenv entry environ else environ

/-- The spec's reading of an `ENV` list: the value the last entry with a `'='` gives `name`. -/
def lastValue (name : List UInt8) (entries : List (List UInt8)) : Option (List UInt8) :=
  (entries.filter fun entry => putenvSanitize entry && entryName entry == name).getLast?.map
    entryValue

section Names
variable {name entry : List UInt8}

theorem defines_iff : Defines name entry ↔ ∃ rest, entry = name ++ equalsSign :: rest := by
  simp only [Defines, List.isPrefixOf_iff_prefix, List.prefix_iff_eq_append]
  constructor
  · rintro same
    exact ⟨_, by rw [← same, List.append_assoc]; rfl⟩
  · rintro ⟨rest, rfl⟩
    simp

theorem entryName_append (unnamed : equalsSign ∉ name) (rest : List UInt8) :
    entryName (name ++ equalsSign :: rest) = name := by
  induction name with
  | nil => simp [entryName]
  | cons byte name ih =>
    simp only [List.mem_cons, not_or] at unnamed
    have first : byte ≠ equalsSign := fun same => unnamed.1 same.symm
    simpa [entryName, first] using ih unnamed.2

/-- An entry with a `'='` is its name, the `'='` and its value. -/
theorem entry_split (named : putenvSanitize entry) :
    entry = entryName entry ++ equalsSign :: entryValue entry := by
  induction entry with
  | nil => simp [putenvSanitize] at named
  | cons byte entry ih =>
    by_cases first : byte = equalsSign
    · simp [entryName, entryValue, first]
    · have later : putenvSanitize entry := by
        simpa [putenvSanitize, first, eq_comm] using named
      have split := ih later
      simp only [entryName, entryValue, List.takeWhile_cons, List.dropWhile_cons] at split ⊢
      simp only [ne_eq, first, not_false_eq_true, decide_True, ite_true, List.cons_append]
      exact congrArg (byte :: ·) split

@[simp] theorem drop_entryName : entry.drop ((entryName entry).length + 1) = entryValue entry := by
  induction entry with
  | nil => rfl
  | cons byte entry ih =>
    by_cases first : byte = equalsSign
    · simp [entryName, entryValue, first]
    · simpa [entryName, entryValue, first] using ih

theorem entryName_unnamed : equalsSign ∉ entryName entry := by
  intro member
  simpa using List.mem_takeWhile_imp member

/-- Two names without a `'='` that one entry defines are the same name. -/
theorem defines_unique {other : List UInt8} (unnamed : equalsSign ∉ name)
    (unnamedOther : equalsSign ∉ other) (first : Defines name entry) (second : Defines other entry) :
    name = other := by
  obtain ⟨rest, rfl⟩ := defines_iff.mp first
  obtain ⟨rest', same⟩ := defines_iff.mp second
  have names := congrArg entryName same
  rwa [entryName_append unnamed, entryName_append unnamedOther] at names

/-- For an entry with a `'='`, defining `name` is having `name` as its name. -/
theorem defines_iff_entryName (named : putenvSanitize entry) (unnamed : equalsSign ∉ name) :
    Defines name entry ↔ entryName entry = name := by
  constructor
  · intro defining
    exact (defines_unique unnamed entryName_unnamed defining
      (defines_iff.mpr ⟨_, entry_split named⟩)).symm
  · rintro rfl
    exact defines_iff.mpr ⟨_, entry_split named⟩

end Names

/-- `getenv` after one `putenv`: the new entry answers for its own name, the rest is unchanged. -/
theorem getenv_putenv {name entry : List UInt8} (named : putenvSanitize entry)
    (unnamed : equalsSign ∉ name) (environ : List (List UInt8)) :
    getenv name (putenv entry environ) =
      if entryName entry = name then some (entryValue entry) else getenv name environ := by
  induction environ with
  | nil =>
    simp only [putenv, getenv, defines_iff_entryName named unnamed]
    split_ifs with same
    · subst same; rw [drop_entryName]
    · rfl
  | cons other environ ih =>
    by_cases replaced : Defines (entryName entry) other
    · simp only [putenv, replaced, ite_true, getenv, defines_iff_entryName named unnamed]
      split_ifs with same defining
      · subst same; rw [drop_entryName]
      · exact absurd (defines_unique entryName_unnamed unnamed replaced defining) same
      · rfl
    · simp only [putenv, replaced, getenv, ih]
      split_ifs with defining same <;> try rfl
      subst same
      exact absurd defining replaced

theorem lastValue_cons (name entry : List UInt8) (entries : List (List UInt8)) :
    lastValue name (entry :: entries) = (lastValue name entries).or
      (if putenvSanitize entry && entryName entry == name then some (entryValue entry) else none) := by
  simp only [lastValue, List.filter_cons]
  split_ifs with qualifies
  · rw [List.getLast?_cons]
    cases (entries.filter _).getLast? <;> rfl
  · simp

/-- After `receiveEnv`'s loop over `entries`, every name without a `'='` reads the value of the
last entry that set it, or what it read before. -/
theorem getenv_addEntries {name : List UInt8} (unnamed : equalsSign ∉ name)
    (environ entries : List (List UInt8)) :
    getenv name (entries.foldl addEntry environ) = (lastValue name entries).or (getenv name environ) := by
  induction entries generalizing environ with
  | nil => simp [lastValue]
  | cons entry entries ih =>
    rw [List.foldl_cons, ih, lastValue_cons, Option.or_assoc]
    congr 1
    by_cases named : putenvSanitize entry
    · simp only [addEntry, named, ite_true, getenv_putenv named unnamed, Bool.true_and,
        beq_iff_eq]
      split_ifs <;> rfl
    · simp [addEntry, named]

end Applauncherd.Launcher.Environ
