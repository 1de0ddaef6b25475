import Mathlib.Data.List.Basic

/-! The constructor of `Daemon`: `parseArgs` over the whole command line, `argv[0]` included,
then `consoleQuiet` and `daemonize` as the flags ask. `usage` exits at the first `--help`, so a
`--help` anywhere ends the process before it silences the console or detaches; otherwise each
flag is set exactly when its option occurs, in whatever order and number. -/

namespace Applauncherd.Launcher.Startup

/-- The flags `parseArgs` sets: `m_testMode`, `m_daemon` and `m_quiet`. -/
structure Flags where
  testMode : Bool
  daemon : Bool
  quiet : Bool
deriving DecidableEq, Repr

/-- The flags as the constructor initialises them. -/
def Flags.init : Flags := ⟨false, false, false⟩

/-- `Daemon::parseArgs` over `args` from `flags`: none where `usage` exits. -/
def parseArgs : List String → Flags → Option Flags
  | [], flags => some flags
  | arg :: args, flags =>
      if arg = "--help" then none
      else if arg = "--daemon" then parseArgs args { flags with daemon := true }
      else if arg = "--quiet" then parseArgs args { flags with quiet := true }
      else if arg = "--test" then parseArgs args { flags with testMode := true }
      else parseArgs args flags

/-- What the constructor goes on to do: `consoleQuiet`, then `daemonize`. -/
inductive Effect where
  | consoleQuiet
  | daemonize
deriving DecidableEq, Repr

/-- How the constructor ends: with `exit`, or with the flags set and the effects done. -/
inductive Outcome where
  | exit (status : Nat)
  | running (flags : Flags) (effects : List Effect)
deriving DecidableEq, Repr

/-- `Daemon::Daemon` on the arguments `argv`, in a process where `created` says whether a
`Daemon` already exists: a second one exits with `EXIT_FAILURE`, `usage` with `EXIT_SUCCESS`. -/
def construct (created : Bool) (argv : List String) : Outcome :=
  if created then .exit 1
  else
    match parseArgs argv Flags.init with
    | none => .exit 0
    | some flags =>
        .running flags ((if flags.quiet then [.consoleQuiet] else []) ++
          if flags.daemon then [.daemonize] else [])

/-- `parseArgs` exits when `--help` occurs; otherwise it adds to each flag whether its option
occurs. -/
theorem parseArgs_eq (args : List String) (flags : Flags) :
    parseArgs args flags =
      if "--help" ∈ args then none
      else some ⟨flags.testMode || decide ("--test" ∈ args), flags.daemon || decide ("--daemon" ∈ args),
        flags.quiet || decide ("--quiet" ∈ args)⟩ := by
  induction args generalizing flags with
  | nil => simp [parseArgs]
  | cons arg args ih =>
    rw [parseArgs]
    by_cases help : arg = "--help"
    · simp [help]
    · rw [if_neg help]
      split_ifs <;> simp_all [eq_comm]

/-- The first `Daemon` of a process: with `--help` anywhere on its command line, `argv[0]`
included, it exits with status 0 before silencing the console or detaching; otherwise each flag
is set exactly when its option occurs anywhere, and the console is silenced before the process
detaches. -/
theorem construct_flags (argv : List String) :
    construct false argv =
      if "--help" ∈ argv then .exit 0
      else .running ⟨"--test" ∈ argv, "--daemon" ∈ argv, "--quiet" ∈ argv⟩
        ((if "--quiet" ∈ argv then [.consoleQuiet] else []) ++
          if "--daemon" ∈ argv then [.daemonize] else []) := by
  rw [construct, if_neg Bool.false_ne_true, parseArgs_eq]
  split_ifs <;> simp_all [Flags.init]

example : construct false ["applauncherd", "--quiet", "--help", "--daemon"] = .exit 0 := by decide

end Applauncherd.Launcher.Startup
