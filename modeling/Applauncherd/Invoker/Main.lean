import Mathlib.Data.List.Infix

/-! The invoker's `main` up to its call of `invoke`: the check of `argv[0]`, the option loop over
`argv[1 .. argc)`, and `get_delay`. Arguments are C strings, modelled as their bytes without the
NUL; `argv[argc]` is the NULL that ends the array, and an access past it is a fault. The loop
reads no argument past `argc` and ends at the first argument that is neither an option nor the
operand of a `--delay`; the name it sends is that argument cut at its first `.launch`, wherever
that stands. `get_delay` keeps the `unsigned long` of `strtoul` in an `unsigned int`, so its test
against `ULONG_MAX` never holds and a value past `UINT_MAX` is taken modulo 2^32. -/

namespace Applauncherd.Invoker.Main

/-- The bytes of a string literal of the source (all below 128). -/
def lit (text : String) : List UInt8 := text.toList.map fun c => c.toNat.toUInt8

/-- `strstr(haystack, needle)`: the offset of the first occurrence of `needle` in `haystack`,
none for NULL. -/
def strstr (needle haystack : List UInt8) : Option Nat :=
  if needle <+: haystack then some 0
  else match haystack with
    | [] => none
    | _ :: rest => (strstr needle rest).map (· + 1)

section Delay

/-- `isspace` in the C locale: the space and `'\t'` to `'\r'`. -/
def isSpace (byte : UInt8) : Bool := byte.toNat = 32 || (9 ≤ byte.toNat && byte.toNat ≤ 13)

/-- `isdigit`. -/
def isDigit (byte : UInt8) : Bool := 48 ≤ byte.toNat && byte.toNat ≤ 57

/-- The number the decimal digits `digits` write. -/
def decimalValue (digits : List UInt8) : Nat :=
  digits.foldl (fun value digit => 10 * value + (digit.toNat - 48)) 0

/-- `ULONG_MAX` of LP64 Linux, where `unsigned long` has 64 bits. -/
def ulongMax : Nat := 18446744073709551615

/-- The C library's `strtoul(str, NULL, 10)` on LP64 Linux, and whether it set `errno` to
`ERANGE`: leading white space, an optional sign, then the longest run of decimal digits. A value
past `ULONG_MAX` gives `ULONG_MAX` and `ERANGE`; a `-` negates the value in `unsigned long`. -/
def strtoul (str : List UInt8) : Nat × Bool :=
  let str := str.dropWhile isSpace
  let signed := str.head? = some 45 ∨ str.head? = some 43
  let value := decimalValue ((if signed then str.tail else str).takeWhile isDigit)
  if ulongMax < value then (ulongMax, true)
  else if str.head? = some 45 then ((ulongMax + 1 - value) % (ulongMax + 1), false)
  else (value, false)

/-- `DEFAULT_DELAY`. -/
def defaultDelay : BitVec 32 := 0

/-- `get_delay(delay_arg)`: the `unsigned long` that `strtoul` returns, stored in the
`unsigned int delay`; `usage(1)` when `(errno == ERANGE && delay == ULONG_MAX) || delay == 0`,
where `delay` is compared with `ULONG_MAX` as an `unsigned long`. -/
def getDelay : Option (List UInt8) → Except Nat (BitVec 32)
  | none => .ok defaultDelay
  | some delayArg =>
      let delay := BitVec.ofNat 32 (strtoul delayArg).1
      if ((strtoul delayArg).2 && delay.toNat = ulongMax) || delay = 0 then .error 1 else .ok delay

/-- On a string of digits `strtoul` reads them all: their value, or `ULONG_MAX` and `ERANGE`
past it. -/
theorem strtoul_digits {digits : List UInt8} (allDigits : ∀ byte ∈ digits, isDigit byte) :
    strtoul digits =
      if ulongMax < decimalValue digits then (ulongMax, true) else (decimalValue digits, false) := by
  cases digits with
  | nil => simp [strtoul]
  | cons first rest =>
    have digit := allDigits first (List.mem_cons_self _ _)
    simp only [isDigit, Bool.and_eq_true, decide_eq_true_eq] at digit
    have notSpace : isSpace first = false := by simp [isSpace]; omega
    have unsigned : first ≠ 45 ∧ first ≠ 43 := by
      constructor <;> rintro rfl <;> exact absurd digit (by decide)
    have whole : (first :: rest).takeWhile isDigit = first :: rest :=
      List.takeWhile_eq_self_iff.mpr allDigits
    simp [strtoul, notSpace, unsigned, whole]

theorem ofNat_eq_zero_iff (value : Nat) : BitVec.ofNat 32 value = 0 ↔ value % 4294967296 = 0 := by
  rw [BitVec.toNat_eq, BitVec.toNat_ofNat]
  rfl

/-- `get_delay` on a string of decimal digits: the value `strtoul` gives (the digits' value, or
`ULONG_MAX` past it) modulo 2^32, refused only when that residue is 0. -/
theorem getDelay_digits {digits : List UInt8} (allDigits : ∀ byte ∈ digits, isDigit byte) :
    getDelay (some digits) =
      if min (decimalValue digits) ulongMax % 4294967296 = 0 then .error 1
      else .ok (BitVec.ofNat 32 (min (decimalValue digits) ulongMax)) := by
  simp only [getDelay, strtoul_digits allDigits]
  by_cases over : ulongMax < decimalValue digits
  · rw [if_pos over, Nat.min_eq_right over.le]
    rfl
  · rw [if_neg over, Nat.min_eq_left (Nat.not_lt.mp over)]
    simp only [Bool.false_and, Bool.false_or, decide_eq_true_eq, ofNat_eq_zero_iff]

/-- `--delay 4294967297` sleeps 1 second, and `--delay 18446744073709551616`, past `ULONG_MAX`,
sleeps `UINT_MAX` seconds: neither is refused. -/
theorem wrapped_delays_accepted :
    getDelay (some (lit "4294967297")) = .ok 1 ∧
      getDelay (some (lit "18446744073709551616")) = .ok 4294967295 := by
  rw [getDelay_digits (by decide), getDelay_digits (by decide)]
  constructor <;> rfl

end Delay

/-- `enum APP_TYPE` of invoker.c: `M_APP`, `QT_APP` and `UNKNOWN_APP`. -/
inductive AppType where
  | m
  | qt
  | unknown
deriving DecidableEq, Repr

/-- What the option loop sets: `app_type`, `no_wait` and `delay`. -/
structure Options where
  appType : AppType
  noWait : Bool
  delay : BitVec 32
deriving DecidableEq, Repr

/-- The options as `main` declares them. -/
def Options.init : Options := ⟨.unknown, false, defaultDelay⟩

/-- How `main` goes on from its arguments: an `exit` (of `usage`, `die` or `show_credentials`),
a fault (an access to `argv` past its NULL terminator, or `strstr` of that NULL), or the call
`invoke(prog_argc, prog_argv, prog_name, ...)` with the options set, `magic_options` being 0. -/
inductive Outcome where
  | exit (status : Nat)
  | fault
  | invoke (progArgc : Nat) (progArgv : List (List UInt8)) (progName : List UInt8) (options : Options)
deriving DecidableEq, Repr

/-- `argv[i]`: the argument below `argc`, the NULL terminator at `argc`; none for an access past
it. -/
def argAt (argv : List (List UInt8)) (i : Nat) : Option (Option (List UInt8)) :=
  if i ≤ argv.length then some argv[i]? else none

/-- `prog_argv[0]` after `*strstr(argv[i], ".launch") = '\0'`: the argument cut at its first
`.launch`, wherever that stands, and the argument itself when it has none. -/
def launchName (arg : List UInt8) : List UInt8 :=
  match strstr (lit ".launch") arg with
  | some offset => arg.take offset
  | none => arg

/-- As the spec reads the loop: whether `argv[j]` is the operand of a `--delay` option, the
argument after a `--delay` that is not itself an operand, the scan starting at `argv[1]`. -/
def delayOperand (argv : List (List UInt8)) : Nat → Bool
  | 0 => false
  | 1 => false
  | j + 2 => argv[j + 1]? = some (lit "--delay") && !delayOperand argv (j + 1)

theorem delayOperand_succ (argv : List (List UInt8)) {i : Nat} (start : 1 ≤ i) :
    delayOperand argv (i + 1) = (argv[i]? = some (lit "--delay") && !delayOperand argv i) := by
  obtain ⟨j, rfl⟩ : ∃ j, i = j + 1 := ⟨i - 1, by omega⟩
  rfl

/-- As the spec reads the loop: `i` is the least index from 1 on whose argument does not start
with `--` and is not the operand of a `--delay`. -/
structure FirstProgram (argv : List (List UInt8)) (i : Nat) : Prop where
  inside : 1 ≤ i ∧ i < argv.length
  notOption : ∀ arg, argv[i]? = some arg → ¬lit "--" <+: arg
  notOperand : delayOperand argv i = false
  least : ∀ k arg, 1 ≤ k → k < i → argv[k]? = some arg → lit "--" <+: arg ∨ delayOperand argv k = true

/-- Where the loop stands when it reaches index `i` as an option: every argument from 1 to `i`
is an option or an operand, and `argv[i]` is not an operand. -/
structure Scanned (argv : List (List UInt8)) (i : Nat) : Prop where
  start : 1 ≤ i
  notOperand : delayOperand argv i = false
  before : ∀ k arg, 1 ≤ k → k < i → argv[k]? = some arg → lit "--" <+: arg ∨ delayOperand argv k = true

theorem scanned_one (argv : List (List UInt8)) : Scanned argv 1 :=
  ⟨le_refl 1, rfl, fun _ _ start below => absurd below (by omega)⟩

/-- As the spec words it, "stripping a trailing `.launch` suffix if present": the argument with
a trailing `.launch` removed. -/
def trailingLaunchRemoved (arg : List UInt8) : List UInt8 :=
  if lit ".launch" <:+ arg then arg.take (arg.length - 7) else arg

section Loop
variable (searchProgram : List UInt8 → Option (List UInt8))

/-- The `for` loop of `main` from index `i`, with `search_program` the lookup `searchProgram`:
`--delay` takes the next argument, if not NULL, as its operand, and the loop goes on after it;
the first argument that is not an option ends the loop with the call of `invoke`. A loop that
runs out of arguments leaves `prog_name` NULL: `die(1)`. -/
def optionLoop (argv : List (List UInt8)) (options : Options) (i : Nat) : Outcome :=
  if h : i < argv.length then
    let arg := argv[i]
    if arg = lit "--delay" then
      match argAt argv (i + 1) with
      | none => .fault
      | some none => optionLoop argv options (i + 2)
      | some (some delayArg) =>
          match getDelay (some delayArg) with
          | .error status => .exit status
          | .ok delay => optionLoop argv { options with delay := delay } (i + 2)
    else if arg = lit "--help" then optionLoop argv options (i + 1)
    else if arg = lit "--creds" then optionLoop argv options (i + 1)
    else if arg = lit "--no-wait" then optionLoop argv { options with noWait := true } (i + 1)
    else if arg = lit "--type=m" then optionLoop argv { options with appType := .m } (i + 1)
    else if arg = lit "--type=qt" then optionLoop argv { options with appType := .qt } (i + 1)
    else if lit "--" <+: arg then .exit 1
    else
      match searchProgram arg with
      | none => .exit 0
      | some progName =>
          .invoke (argv.length - i) (launchName arg :: argv.drop (i + 1)) progName options
  else .exit 1
termination_by argv.length - i

/-- `main` up to `invoke`, for an invoker whose `PROG_NAME` is `progNameMacro`: called by
another name it dies; with fewer than three arguments it exits; otherwise it runs the loop. -/
def main (progNameMacro : List UInt8) (argv : List (List UInt8)) : Outcome :=
  match argAt argv 0 with
  | some (some argv0) =>
      if (strstr progNameMacro argv0).isSome then
        if argv.length < 2 then .exit 1
        else if argv.length = 2 then
          if argv[1]? = some (lit "--creds") then .exit 0
          else if argv[1]? = some (lit "--help") then .exit 0
          else .exit 1
        else optionLoop searchProgram argv Options.init 1
      else .exit 1
  | _ => .fault

/-- An argument that does not start with `--` ends the loop: `exit(0)` when `search_program` finds
nothing, otherwise the call of `invoke` for it. -/
theorem optionLoop_program (argv : List (List UInt8)) (options : Options) {i : Nat}
    {arg : List UInt8} (found : argv[i]? = some arg) (plain : ¬lit "--" <+: arg) :
    optionLoop searchProgram argv options i =
      (searchProgram arg).elim (.exit 0) fun progName =>
        .invoke (argv.length - i) (launchName arg :: argv.drop (i + 1)) progName options := by
  obtain ⟨lt, rfl⟩ := List.getElem?_eq_some_iff.mp found
  have differs : ∀ option, lit "--" <+: option → argv[i] ≠ option :=
    fun _ starts same => plain (same ▸ starts)
  rw [optionLoop, dif_pos lt]
  dsimp only
  rw [if_neg (differs _ (by decide)), if_neg (differs _ (by decide)), if_neg (differs _ (by decide)),
    if_neg (differs _ (by decide)), if_neg (differs _ (by decide)), if_neg (differs _ (by decide)),
    if_neg plain]
  cases searchProgram argv[i] <;> rfl

/-- `--type=m` sets `app_type` to `M_APP`, and the loop goes on at the next argument. -/
theorem optionLoop_typeM (argv : List (List UInt8)) (options : Options) {i : Nat}
    (found : argv[i]? = some (lit "--type=m")) :
    optionLoop searchProgram argv options i =
      optionLoop searchProgram argv { options with appType := .m } (i + 1) := by
  obtain ⟨lt, same⟩ := List.getElem?_eq_some_iff.mp found
  rw [optionLoop, dif_pos lt]
  dsimp only
  rw [same, if_neg (by decide), if_neg (by decide), if_neg (by decide), if_neg (by decide), if_pos rfl]

/-- One pass of the loop at an index below `argc`: `--delay` exits or goes on two further; another
argument that starts with `--` exits or goes on at the next; any other ends the loop, with `exit`
or with the call of `invoke` for it. -/
theorem optionLoop_step (argv : List (List UInt8)) (options : Options) {i : Nat}
    (lt : i < argv.length) :
    (argv[i] = lit "--delay" ∧
      ((∃ status, optionLoop searchProgram argv options i = .exit status) ∨
        ∃ options', optionLoop searchProgram argv options i =
          optionLoop searchProgram argv options' (i + 2))) ∨
    (argv[i] ≠ lit "--delay" ∧ lit "--" <+: argv[i] ∧
      (optionLoop searchProgram argv options i = .exit 1 ∨
        ∃ options', optionLoop searchProgram argv options i =
          optionLoop searchProgram argv options' (i + 1))) ∨
    (¬lit "--" <+: argv[i] ∧
      (optionLoop searchProgram argv options i = .exit 0 ∨
        ∃ progName, optionLoop searchProgram argv options i =
          .invoke (argv.length - i) (launchName argv[i] :: argv.drop (i + 1)) progName options)) := by
  by_cases dashes : lit "--" <+: argv[i]
  case neg =>
    refine .inr (.inr ⟨dashes, ?_⟩)
    rw [optionLoop_program searchProgram argv options (List.getElem?_eq_getElem lt) dashes]
    cases searchProgram argv[i]
    · exact .inl rfl
    · exact .inr ⟨_, rfl⟩
  rw [optionLoop, dif_pos lt]
  by_cases delay : argv[i] = lit "--delay"
  · refine .inl ⟨delay, ?_⟩
    rw [if_pos delay, argAt, if_pos (Nat.succ_le_of_lt lt)]
    split
    · contradiction
    · exact .inr ⟨options, rfl⟩
    · split
      · exact .inl ⟨_, rfl⟩
      · exact .inr ⟨_, rfl⟩
  · refine .inr (.inl ⟨delay, dashes, ?_⟩)
    rw [if_neg delay]
    split_ifs
    all_goals first | exact .inl rfl | exact .inr ⟨_, rfl⟩

/-- After an option other than `--delay`, the loop reaches the next index as an option. -/
theorem Scanned.next {argv : List (List UInt8)} {i : Nat} (scanned : Scanned argv i)
    (lt : i < argv.length) (notDelay : argv[i] ≠ lit "--delay") (dashes : lit "--" <+: argv[i]) :
    Scanned argv (i + 1) := by
  refine ⟨by omega, ?_, fun k arg start below found => ?_⟩
  · simp [delayOperand_succ argv scanned.start, List.getElem?_eq_getElem lt, notDelay]
  · rcases Nat.lt_succ_iff_lt_or_eq.mp below with earlier | rfl
    · exact scanned.before k arg start earlier found
    · rw [List.getElem?_eq_getElem lt, Option.some_inj] at found
      exact .inl (found ▸ dashes)

/-- After `--delay` and its operand, the loop reaches the index two further as an option. -/
theorem Scanned.skip {argv : List (List UInt8)} {i : Nat} (scanned : Scanned argv i)
    (lt : i < argv.length) (delay : argv[i] = lit "--delay") : Scanned argv (i + 2) := by
  have operand : delayOperand argv (i + 1) = true := by
    simp [delayOperand_succ argv scanned.start, List.getElem?_eq_getElem lt, delay, scanned.notOperand]
  refine ⟨by omega, ?_, fun k arg start below found => ?_⟩
  · simp [delayOperand_succ argv (Nat.le_succ_of_le scanned.start), operand]
  · rcases Nat.lt_or_ge k i with earlier | later
    · exact scanned.before k arg start earlier found
    · rcases (by omega : k = i ∨ k = i + 1) with rfl | rfl
      · rw [List.getElem?_eq_getElem lt, Option.some_inj, delay] at found
        exact .inl (found ▸ by decide)
      · exact .inr operand

/-- The loop from an index it reaches as an option reads no argument past `argc`, and when it
calls `invoke` it does so at the first index from 1 on that is neither an option nor an operand,
with `prog_argc` the arguments from there on and `prog_argv` those arguments, the first cut at
its first `.launch`. -/
theorem optionLoop_spec (argv : List (List UInt8)) (options : Options) {i : Nat}
    (scanned : Scanned argv i) :
    optionLoop searchProgram argv options i ≠ .fault ∧
      ∀ progArgc progArgv progName options',
        optionLoop searchProgram argv options i = .invoke progArgc progArgv progName options' →
        ∃ j, FirstProgram argv j ∧ progArgc = argv.length - j ∧
          ∃ arg, argv[j]? = some arg ∧ progArgv = launchName arg :: argv.drop (j + 1) := by
  by_cases lt : i < argv.length
  · rcases optionLoop_step searchProgram argv options lt with
      ⟨delay, ⟨status, exits⟩ | ⟨options', goes⟩⟩ | ⟨notDelay, dashes, exits | ⟨options', goes⟩⟩ |
        ⟨program, exits | ⟨progName, calls⟩⟩
    · simp [exits]
    · rw [goes]
      exact optionLoop_spec argv options' (scanned.skip lt delay)
    · simp [exits]
    · rw [goes]
      exact optionLoop_spec argv options' (scanned.next lt notDelay dashes)
    · simp [exits]
    refine ⟨by simp [calls], fun progArgc progArgv name options' invoked => ⟨i, ?_, ?_⟩⟩
    · refine ⟨⟨scanned.start, lt⟩, fun arg found => ?_, scanned.notOperand, scanned.before⟩
      rw [List.getElem?_eq_getElem lt, Option.some_inj] at found
      exact found ▸ program
    · rw [calls, Outcome.invoke.injEq] at invoked
      exact ⟨invoked.1.symm, argv[i], List.getElem?_eq_getElem lt, invoked.2.1.symm⟩
  · rw [optionLoop, dif_neg lt]
    simp
termination_by argv.length - i

/-- `main` called by its name with at least three arguments runs the option loop from `argv[1]`. -/
theorem main_eq_optionLoop {progNameMacro argv0 : List UInt8} {argv : List (List UInt8)}
    (enough : 3 ≤ argv.length) (first : argv.head? = some argv0)
    (found : (strstr progNameMacro argv0).isSome) :
    main searchProgram progNameMacro argv = optionLoop searchProgram argv Options.init 1 := by
  have atZero : argAt argv 0 = some (some argv0) := by
    rw [argAt, if_pos (Nat.zero_le _), ← first]
    cases argv <;> simp
  rw [main, atZero]
  simp only [found, if_true, if_neg (show ¬argv.length < 2 by omega),
    if_neg (show argv.length ≠ 2 by omega)]

/-- `main` with at least three arguments, called by its name: it reads no argument past `argc`,
and when it calls `invoke` it does so for the least index `i` from 1 on whose argument neither
starts with `--` nor is the operand of a `--delay`, with `prog_argc = argc - i` and `prog_argv`
the arguments from `i` on, `argv[i]` cut at its first `.launch`. -/
theorem main_hands_off (progNameMacro : List UInt8) (argv : List (List UInt8))
    (enough : 3 ≤ argv.length)
    (named : ∃ argv0, argv.head? = some argv0 ∧ (strstr progNameMacro argv0).isSome) :
    main searchProgram progNameMacro argv ≠ .fault ∧
      ∀ progArgc progArgv progName options,
        main searchProgram progNameMacro argv = .invoke progArgc progArgv progName options →
        ∃ i, FirstProgram argv i ∧ progArgc = argv.length - i ∧
          ∃ arg, argv[i]? = some arg ∧ progArgv = launchName arg :: argv.drop (i + 1) := by
  obtain ⟨argv0, first, found⟩ := named
  rw [main_eq_optionLoop searchProgram enough first found]
  exact optionLoop_spec searchProgram argv Options.init (scanned_one argv)

end Loop

/-- The loop's program argument is unique: an earlier one would be an option or an operand. -/
theorem FirstProgram.unique {argv : List (List UInt8)} {i j : Nat} (first : FirstProgram argv i)
    (second : FirstProgram argv j) : i = j := by
  have notBefore : ∀ {i j}, FirstProgram argv i → FirstProgram argv j → ¬i < j := by
    intro i j first second below
    have found := List.getElem?_eq_getElem first.inside.2
    rcases second.least i _ first.inside.1 below found with dashes | operand
    · exact first.notOption _ found dashes
    · rw [first.notOperand] at operand; cases operand
  have := notBefore first second
  have := notBefore second first
  omega

/-- An argument that starts with `.launch` is cut to the empty name. -/
theorem launchName_eq_nil {arg : List UInt8} (prefixed : lit ".launch" <+: arg) :
    launchName arg = [] := by
  rw [launchName, strstr.eq_def, if_pos prefixed]
  rfl

/-- The arguments of `invoker --type=m app.launcher`. -/
def suffixArgv : List (List UInt8) := [lit "invoker", lit "--type=m", lit "app.launcher"]

/-- `invoker --type=m app.launcher` hands off `app.launcher` with the name `app`, cut at the
`.launch` inside `.launcher`; the spec's reading, which strips only a trailing `.launch`, keeps
`app.launcher`. -/
theorem launcher_suffix_cut :
    main (fun arg => some arg) (lit "invoker") suffixArgv =
        .invoke 1 [lit "app"] (lit "app.launcher") ⟨.m, false, 0⟩ ∧
      (∃ i, FirstProgram suffixArgv i ∧ 1 = suffixArgv.length - i ∧
        ∃ arg, suffixArgv[i]? = some arg ∧ [lit "app"] = launchName arg :: suffixArgv.drop (i + 1)) ∧
      trailingLaunchRemoved (lit "app.launcher") = lit "app.launcher" := by
  have handedOff : main (fun arg => some arg) (lit "invoker") suffixArgv =
      .invoke 1 [lit "app"] (lit "app.launcher") ⟨.m, false, 0⟩ := by
    rw [@main_eq_optionLoop (fun arg => some arg) (lit "invoker") (lit "invoker") suffixArgv
      (by decide) rfl rfl, optionLoop_typeM _ _ _ rfl, optionLoop_program _ _ _ rfl (by decide)]
    decide
  exact ⟨handedOff, (main_hands_off (fun arg => some arg) (lit "invoker") suffixArgv (by decide)
    ⟨lit "invoker", rfl, rfl⟩).2 _ _ _ _ handedOff, by decide⟩

end Applauncherd.Invoker.Main
