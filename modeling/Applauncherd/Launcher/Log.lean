import Mathlib.Data.List.Basic

/-! `Logger`, the launcher's log: its static members `m_isOpened`, `m_useSyslog` and
`m_echoMode`, and the two files it keeps under /var/log. What the file calls do is up to the file
system: whether /var/log exists, whether it can be made, and whether files in it can be made,
truncated, renamed and removed are facts of a `FileSystem`, and the two files are their lines.
`openLog` starts the file only while `m_useSyslog` is false, and no call sets it back to false:
once the log has gone to syslog it stays there for the life of the process, whatever becomes of
/var/log. While the file is in use each record is one line of it, and the next `openLog`, in this
process or the next, moves the file to launcher.log.old. A record is taken as the text its format
and arguments give. In echo mode `writeLog` hands `ap` to `vprintf` and then uses it again, for
syslog or for the file, which leaves what the second use formats indeterminate: that text is an
input of the call, and outside echo mode the file holds each record's own message. -/

namespace Applauncherd.Launcher.Log

/-- The two files `Logger` names in /var/log: launcher.log and launcher.log.old. -/
inductive LogFile where
  | current
  | old
deriving DecidableEq, Repr

/-- /var/log as the logger's calls find it: whether it exists, whether `mkdir` can make it,
whether files in it can be made and removed, and the lines of its two files. -/
structure FileSystem where
  dirExists : Bool
  canMakeDir : Bool
  writable : Bool
  current : Option (List String)
  old : Option (List String)
deriving DecidableEq, Repr

namespace FileSystem

/-- A file's lines; none when it does not exist. -/
def get (fs : FileSystem) : LogFile → Option (List String)
  | .current => fs.current
  | .old => fs.old

/-- The file system with a file's lines replaced, none removing it. -/
def set (fs : FileSystem) : LogFile → Option (List String) → FileSystem
  | .current, lines => { fs with current := lines }
  | .old, lines => { fs with old := lines }

/-- Whether files in /var/log can be made, truncated, renamed and removed. -/
def usable (fs : FileSystem) : Bool := fs.dirExists && fs.writable

/-- `QFile::open(QIODevice::WriteOnly)`: the file made or truncated, none when that fails. -/
def openWrite (fs : FileSystem) (file : LogFile) : Option FileSystem :=
  if fs.usable then some (fs.set file (some [])) else none

/-- `QFile::remove`, whose result every caller ignores. -/
def remove (fs : FileSystem) (file : LogFile) : FileSystem :=
  if fs.usable then fs.set file none else fs

/-- `QFile::rename` of launcher.log to launcher.log.old, which fails when launcher.log is missing
or launcher.log.old exists. -/
def rename (fs : FileSystem) : FileSystem :=
  match fs.current, fs.old with
  | some lines, none => if fs.usable then { fs with current := none, old := some lines } else fs
  | _, _ => fs

/-- `QDir::mkdir(logDirectory)`: none when it fails. -/
def mkdir (fs : FileSystem) : Option FileSystem :=
  if fs.canMakeDir then some { fs with dirExists := true } else none

/-- A line written to the open launcher.log. -/
def append (fs : FileSystem) (text : String) : FileSystem :=
  { fs with current := fs.current.map (· ++ [text]) }

@[simp] theorem usable_set (fs : FileSystem) (file : LogFile) (lines : Option (List String)) :
    (fs.set file lines).usable = fs.usable := by
  cases file <;> rfl

theorem openWrite_of_usable {fs : FileSystem} (usable : fs.usable = true) (file : LogFile) :
    fs.openWrite file = some (fs.set file (some [])) := by
  simp [openWrite, usable]

theorem remove_of_usable {fs : FileSystem} (usable : fs.usable = true) (file : LogFile) :
    fs.remove file = fs.set file none := by
  simp [remove, usable]

end FileSystem

/-- `LOG_ERR` of syslog.h. -/
def priorityErr : Nat := 3

/-- `LOG_WARNING` of syslog.h. -/
def priorityWarning : Nat := 4

/-- `LOG_NOTICE` of syslog.h. -/
def priorityNotice : Nat := 5

/-- `LOG_INFO` of syslog.h. -/
def priorityInfo : Nat := 6

/-- The tag `writeLog` puts between the date and the message in the file. -/
def priorityTag (priority : Nat) : String :=
  if priority = priorityNotice then " [NOTICE] "
  else if priority = priorityErr then " [ERROR] "
  else if priority = priorityWarning then " [WARNING] "
  else if priority = priorityInfo then " [INFO] "
  else " [N/A] "

/-- What the logger's calls put out: a line on the console, `openlog` and `closelog`, a syslog
record, or a line of launcher.log. -/
inductive Output where
  | console (text : String)
  | openlog (progName : String)
  | closelog
  | syslog (priority : Nat) (text : String)
  | line (text : String)
deriving DecidableEq, Repr

/-- The static members of `Logger` and the file system. -/
structure Logger where
  isOpened : Bool
  useSyslog : Bool
  echoMode : Bool
  fs : FileSystem
deriving DecidableEq, Repr

/-- The members as a new process starts with them, on the file system `fs`. -/
def Logger.init (fs : FileSystem) : Logger := ⟨false, false, false, fs⟩

/-- The check of /var/log at the start of `openLog`: a test file launcher.log.old is opened,
closed and removed when /var/log exists, and /var/log is made when it does not; the file system
after it, and true when it sets `m_useSyslog`. -/
def probe (fs : FileSystem) : FileSystem × Bool :=
  if fs.dirExists then
    match fs.openWrite .old with
    | some opened => (opened.remove .old, false)
    | none => (fs, true)
  else
    match fs.mkdir with
    | some made => (made, false)
    | none => (fs, true)

/-- The file branch of `openLog`: launcher.log.old removed, launcher.log renamed to it, and a new
launcher.log opened; true when that open fails and `m_useSyslog` is set. -/
def startFile (fs : FileSystem) : FileSystem × Bool :=
  match ((fs.remove .old).rename).openWrite .current with
  | some opened => (opened, false)
  | none => ((fs.remove .old).rename, true)

/-- On a usable /var/log the check removes its test file and keeps the log out of syslog. -/
theorem probe_of_usable {fs : FileSystem} (usable : fs.usable = true) :
    probe fs = ({ fs with old := none }, false) := by
  have present : fs.dirExists = true := by
    simp only [FileSystem.usable, Bool.and_eq_true] at usable; exact usable.1
  rw [probe, if_pos present, FileSystem.openWrite_of_usable usable]
  dsimp only
  rw [FileSystem.remove_of_usable (by simpa using usable)]
  rfl

/-- On a usable /var/log the file branch moves launcher.log to launcher.log.old and starts an
empty launcher.log. -/
theorem startFile_of_usable {fs : FileSystem} (usable : fs.usable = true) :
    startFile fs = ({ fs with current := some [], old := fs.current }, false) := by
  rcases fs with ⟨dirExists, canMakeDir, writable, current, old⟩
  obtain ⟨rfl, rfl⟩ : dirExists = true ∧ writable = true := by
    simpa [FileSystem.usable] using usable
  cases current <;> rfl

/-- `Logger::openLog`. -/
def openLog (progName : String) (s : Logger) : Logger × List Output :=
  if s.isOpened then (s, [])
  else
    let probed := probe s.fs
    let started := if s.useSyslog || probed.2 then (probed.1, true) else startFile probed.1
    ({ s with isOpened := true, useSyslog := started.2, fs := started.1 },
      if started.2 then [.openlog progName] else [])

/-- `Logger::closeLog`. -/
def closeLog (s : Logger) : Logger × List Output :=
  if s.isOpened then ({ s with isOpened := false }, if s.useSyslog then [.closelog] else [])
  else (s, [])

/-- `Logger::writeLog` of the record `msg` at the time `stamp` (`QDateTime::currentDateTime()` in
`dateFormat`): echoed to the console in echo mode, then sent to syslog or written as a line of
launcher.log; nothing while the log is closed. In echo mode `vprintf` has consumed `ap` before
`vsyslog` or `QString::vsprintf` uses it again, and what that second use formats, which the C
standard leaves indeterminate, is `reread`. -/
def writeLog (priority : Nat) (stamp msg reread : String) (s : Logger) : Logger × List Output :=
  if s.isOpened then
    let echoed := if s.echoMode then [Output.console msg] else []
    let formatted := if s.echoMode then reread else msg
    if s.useSyslog then (s, echoed ++ [.syslog priority formatted])
    else
      let text := stamp ++ priorityTag priority ++ formatted
      ({ s with fs := s.fs.append text }, echoed ++ [.line text])
  else (s, [])

/-- `Logger::logNotice`. -/
def logNotice (stamp msg reread : String) (s : Logger) : Logger × List Output :=
  writeLog priorityNotice stamp msg reread s

/-- `Logger::logError`, and the record `Logger::logErrorAndDie` writes before it exits. -/
def logError (stamp msg reread : String) (s : Logger) : Logger × List Output :=
  writeLog priorityErr stamp msg reread s

/-- `Logger::logWarning`. -/
def logWarning (stamp msg reread : String) (s : Logger) : Logger × List Output :=
  writeLog priorityWarning stamp msg reread s

/-- `Logger::logInfo`. -/
def logInfo (stamp msg reread : String) (s : Logger) : Logger × List Output :=
  writeLog priorityInfo stamp msg reread s

/-- `Logger::setEchoMode`. -/
def setEchoMode (enable : Bool) (s : Logger) : Logger := { s with echoMode := enable }

/-- A call of the logger, or another process changing /var/log meanwhile. -/
inductive Call where
  | openLog (progName : String)
  | closeLog
  | writeLog (priority : Nat) (stamp msg reread : String)
  | setEchoMode (enable : Bool)
  | outside (fs : FileSystem)
deriving DecidableEq, Repr

/-- One call on the logger: the members after it and what it put out. -/
def Call.apply : Call → Logger → Logger × List Output
  | .openLog progName, s => Log.openLog progName s
  | .closeLog, s => Log.closeLog s
  | .writeLog priority stamp msg reread, s => Log.writeLog priority stamp msg reread s
  | .setEchoMode enable, s => (Log.setEchoMode enable s, [])
  | .outside fs, s => ({ s with fs := fs }, [])

/-- The calls one after another: the members at the end and all they put out, in order. -/
def run (s : Logger) : List Call → Logger × List Output
  | [] => (s, [])
  | call :: calls =>
      let next := call.apply s
      let rest := run next.1 calls
      (rest.1, next.2 ++ rest.2)

/-- The lines of launcher.log among some outputs. -/
def fileLines (outputs : List Output) : List String :=
  outputs.filterMap fun
    | .line text => some text
    | _ => none

@[simp] theorem fileLines_nil : fileLines [] = [] := rfl

@[simp] theorem fileLines_append (first second : List Output) :
    fileLines (first ++ second) = fileLines first ++ fileLines second := List.filterMap_append _ _ _

/-- A writable /var/log whose two files hold lines of older runs. -/
def writableVarLog : FileSystem := ⟨true, false, true, some ["a"], some ["b"]⟩

/-- A run that records one error. -/
def errorCalls : List Call := [.writeLog priorityErr "2010-06-01 12:00:00.000" "boom" "boom"]

section Sticky

/-- Once `m_useSyslog` is set, a call leaves it set and writes no line to launcher.log. -/
theorem apply_sticky (call : Call) {s : Logger} (syslogged : s.useSyslog = true) :
    (call.apply s).1.useSyslog = true ∧ fileLines (call.apply s).2 = [] := by
  cases call with
  | openLog progName =>
    simp only [Call.apply, Log.openLog, syslogged, Bool.true_or, if_true]
    split <;> simp [syslogged, fileLines]
  | closeLog =>
    simp only [Call.apply, Log.closeLog, syslogged, if_true]
    split <;> simp [syslogged, fileLines]
  | writeLog priority stamp msg reread =>
    simp only [Call.apply, Log.writeLog, syslogged, if_true]
    split <;> simp [syslogged, fileLines]
  | setEchoMode enable => exact ⟨syslogged, rfl⟩
  | outside fs => exact ⟨syslogged, rfl⟩

/-- Once the log has gone to syslog, no later call writes a line to launcher.log, and the log
stays with syslog, whatever the calls and whatever another process does to /var/log: closing the
log and opening it again on a writable /var/log does not bring the file back. -/
theorem syslog_sticky {s : Logger} (syslogged : s.useSyslog = true) :
    ∀ calls, (run s calls).1.useSyslog = true ∧ fileLines (run s calls).2 = [] := by
  intro calls
  induction calls generalizing s with
  | nil => exact ⟨syslogged, rfl⟩
  | cons call calls ih =>
    obtain ⟨stays, noLines⟩ := apply_sticky call syslogged
    obtain ⟨staysAfter, noLinesAfter⟩ := ih stays
    exact ⟨staysAfter, by simp only [run, fileLines_append, noLines, noLinesAfter, List.nil_append]⟩

/-- A launcher that fell back to syslog; then /var/log is made writable, the log closed and opened
again, and an error logged. -/
theorem syslog_kept_after_reopen :
    (run ⟨true, true, false, writableVarLog⟩ ([.closeLog, .openLog "applauncherd"] ++ errorCalls)).1.useSyslog
        = true ∧
      fileLines (run ⟨true, true, false, writableVarLog⟩
        ([.closeLog, .openLog "applauncherd"] ++ errorCalls)).2 = [] :=
  syslog_sticky rfl _

end Sticky

section Rotation

/-- The calls that neither open nor close the log nor touch /var/log: records and the echo
mode. -/
def Call.quiet : Call → Bool
  | .writeLog .. | .setEchoMode _ => true
  | _ => false

/-- A launcher process's logging: a fresh `Logger` on the file system `fs`, `openLog`, then
`calls`. -/
def session (fs : FileSystem) (progName : String) (calls : List Call) : Logger × List Output :=
  run (Logger.init fs) (.openLog progName :: calls)

/-- `openLog` on a usable /var/log, with `m_useSyslog` clear: launcher.log.old holds what
launcher.log held, and launcher.log is new and empty. -/
theorem openLog_starts_file (progName : String) {s : Logger} (closed : s.isOpened = false)
    (fileMode : s.useSyslog = false) (usable : s.fs.usable = true) :
    openLog progName s =
      ({ s with isOpened := true, fs := { s.fs with current := some [], old := s.fs.current } }, []) := by
  have probed := probe_of_usable usable
  have started := @startFile_of_usable { s.fs with old := none } usable
  simp only [openLog, closed, fileMode, probed, started, Bool.false_or, Bool.false_eq_true, if_false]

/-- A quiet call on a log open on launcher.log appends its lines to the file, and changes nothing
else of the file system. -/
theorem apply_quiet {call : Call} (quiet : call.quiet = true) {s : Logger} (opened : s.isOpened = true)
    (fileMode : s.useSyslog = false) :
    (call.apply s).1.isOpened = true ∧ (call.apply s).1.useSyslog = false ∧
      (call.apply s).1.fs = { s.fs with current := s.fs.current.map (· ++ fileLines (call.apply s).2) } := by
  cases call with
  | writeLog priority stamp msg reread =>
    simp only [Call.apply, Log.writeLog, opened, fileMode, if_true, Bool.false_eq_true, if_false]
    split <;> simp [opened, fileMode, fileLines, FileSystem.append]
  | setEchoMode enable => simp [Call.apply, Log.setEchoMode, opened, fileMode, fileLines]
  | openLog | closeLog | outside => cases quiet

/-- Quiet calls on a log open on launcher.log append their lines to the file in order. -/
theorem run_quiet {calls : List Call} (quiet : ∀ call ∈ calls, call.quiet = true) :
    ∀ {s : Logger}, s.isOpened = true → s.useSyslog = false →
      (run s calls).1.fs = { s.fs with current := s.fs.current.map (· ++ fileLines (run s calls).2) } := by
  induction calls with
  | nil => intro s _ _; cases s; simp [run]
  | cons call calls ih =>
    intro s opened fileMode
    obtain ⟨stillOpen, stillFile, appended⟩ := apply_quiet (quiet call (.head _)) opened fileMode
    have rest := ih (fun other member => quiet other (.tail _ member)) stillOpen stillFile
    simp only [run, rest, appended, fileLines_append, Option.map_map, Function.comp_def,
      List.append_assoc]

/-- A launcher process on a usable /var/log making quiet calls after its `openLog`: launcher.log.old
gets what launcher.log held, and launcher.log exactly the lines of its calls, in order. -/
theorem session_fs {fs : FileSystem} (usable : fs.usable = true) (progName : String)
    {calls : List Call} (quiet : ∀ call ∈ calls, call.quiet = true) :
    (session fs progName calls).1.fs =
      { fs with current := some (fileLines (session fs progName calls).2), old := fs.current } := by
  simp only [session, run, Call.apply, @openLog_starts_file progName (Logger.init fs) rfl rfl usable]
  rw [run_quiet quiet rfl rfl]
  simp [Logger.init]

/-- The line `writeLog` puts in launcher.log for a call outside echo mode: the stamp, the tag of
its priority and the message for a record, nothing for the other calls. -/
def Call.record : Call → Option String
  | .writeLog priority stamp msg _ => some (stamp ++ priorityTag priority ++ msg)
  | _ => none

/-- A quiet call other than `setEchoMode(true)`, on a log open on launcher.log outside echo mode,
writes its record's line and no other, and leaves echo mode off. -/
theorem apply_quiet_lines {call : Call} (quiet : call.quiet = true)
    (notEcho : call ≠ .setEchoMode true) {s : Logger} (opened : s.isOpened = true)
    (fileMode : s.useSyslog = false) (silent : s.echoMode = false) :
    fileLines (call.apply s).2 = call.record.toList ∧ (call.apply s).1.echoMode = false := by
  cases call with
  | writeLog priority stamp msg reread =>
    simp [Call.apply, Log.writeLog, opened, fileMode, silent, fileLines, Call.record]
  | setEchoMode enable =>
    cases enable
    · exact ⟨rfl, rfl⟩
    · exact absurd rfl notEcho
  | openLog | closeLog | outside => cases quiet

/-- Quiet calls that never turn echo mode on, on a log open on launcher.log outside echo mode,
write the lines of their records, in order. -/
theorem run_quiet_lines {calls : List Call} (quiet : ∀ call ∈ calls, call.quiet = true)
    (echoOff : Call.setEchoMode true ∉ calls) :
    ∀ {s : Logger}, s.isOpened = true → s.useSyslog = false → s.echoMode = false →
      fileLines (run s calls).2 = calls.filterMap Call.record := by
  induction calls with
  | nil => intro s _ _ _; rfl
  | cons call calls ih =>
    intro s opened fileMode silent
    have notEcho : call ≠ .setEchoMode true := fun same => echoOff (same ▸ .head _)
    obtain ⟨stillOpen, stillFile, -⟩ := apply_quiet (quiet call (.head _)) opened fileMode
    obtain ⟨lines, stillSilent⟩ := apply_quiet_lines (quiet call (.head _)) notEcho opened fileMode silent
    rw [run, fileLines_append, lines, ih (fun other member => quiet other (.tail _ member))
      (fun member => echoOff (.tail _ member)) stillOpen stillFile stillSilent, List.filterMap_cons]
    cases call.record <;> rfl

/-- Two launcher processes, one after the other, on a usable /var/log, each making quiet calls
after its `openLog`: afterwards launcher.log holds exactly the lines the second wrote and
launcher.log.old exactly those the first wrote, in their order, whatever the files held before. -/
theorem log_rotates_across_runs {fs : FileSystem} (usable : fs.usable = true)
    (progName progName' : String) {calls calls' : List Call}
    (quiet : ∀ call ∈ calls, call.quiet = true) (quiet' : ∀ call ∈ calls', call.quiet = true) :
    (session (session fs progName calls).1.fs progName' calls').1.fs =
      { fs with
        current := some (fileLines (session (session fs progName calls).1.fs progName' calls').2)
        old := some (fileLines (session fs progName calls).2) } := by
  have first := session_fs usable progName quiet
  have firstUsable : (session fs progName calls).1.fs.usable = true := by rw [first]; exact usable
  rw [session_fs firstUsable progName' quiet', first]

theorem two_runs_rotate :
    (session (session writableVarLog "applauncherd" errorCalls).1.fs "applauncherd" []).1.fs =
      { writableVarLog with
        current := some (fileLines
          (session (session writableVarLog "applauncherd" errorCalls).1.fs "applauncherd" []).2)
        old := some (fileLines (session writableVarLog "applauncherd" errorCalls).2) } :=
  @log_rotates_across_runs writableVarLog rfl "applauncherd" "applauncherd" errorCalls [] (by decide)
    (by decide)

end Rotation

end Applauncherd.Launcher.Log
