import Reconcile.Fix.Environment
import Reconcile.Total

/-!
Backups: a copy of a file beside it, under a name with the time in milliseconds, and the command
that puts the copy back.
-/

namespace Reconcile

namespace Timestamp

def daysBeforeMonth (year : Int) (month : Nat) : Nat :=
  total ((List.range (month - 1)).map fun m => CalendarDate.monthLength year (m + 1))

def daysBeforeYear (year : Int) : Int :=
  365 * year + ((year + 3) / 4 - (year + 99) / 100 + (year + 399) / 400)

/-- Milliseconds since the beginning of 1970, leap seconds not counted. -/
def millis (t : Timestamp) : Int :=
  let days := daysBeforeYear t.date.year + daysBeforeMonth t.date.year t.date.month + t.date.day - 1 -
    daysBeforeYear 1970
  ((days * 24 + t.hour) * 60 + t.minute) * 60000 + t.second * 1000 + t.nano / 1000000

def isMillis (n : Int) : Bool :=
  (⟨⟨-262143, 1, 1⟩, 0, 0, 0, 0⟩ : Timestamp).millis ≤ n &&
    n ≤ (⟨⟨262142, 12, 31⟩, 23, 59, 59, 999999999⟩ : Timestamp).millis

end Timestamp

namespace Backup

def pathAt (target : String) (millis : Int) : String := target ++ ".bak." ++ toString millis

/-- The first count of milliseconds, from one on, whose backup path leads to nothing. -/
def freeMillis (disk : Disk) (target : String) : Nat → Int → Int
  | 0, millis => millis
  | fuel + 1, millis =>
    if disk.hasPath (pathAt target millis) then freeMillis disk target fuel (millis + 1) else millis

def freePath (disk : Disk) (target : String) (millis : Int) : String :=
  pathAt target (freeMillis disk target (disk.entries.length + 1) millis)

def shellWord (text : List Char) : List Char :=
  '\'' :: text.flatMap (fun c => if c = '\'' then ['\'', '\\', '\'', '\''] else [c]) ++ ['\'']

def command (backup target : String) : String :=
  String.ofList ("cp ".toList ++ shellWord backup.toList ++ [' '] ++ shellWord target.toList)

end Backup

/-- What is needed to put a file back: the path of its backup, if one was made, and its text. -/
structure Guard where
  target : String
  backup : Option String
  former : String
  deriving DecidableEq, Repr

namespace Guard

open Course

variable {ν : Type}

def command? (guard : Guard) : Option String := guard.backup.map (Backup.command · guard.target)

def create (target former : String) (wantsBackup : Bool) : Course ν Guard :=
  if wantsBackup then do
    let time ← now
    let path := Backup.freePath (← disk) target time.millis
    writeText .backUp path former
    return ⟨target, some path, former⟩
  else return ⟨target, none, former⟩

/-- The text to put back: that of the backup if it can be read. -/
def text (guard : Guard) : Course ν String :=
  match guard.backup with
  | none => return guard.former
  | some path => do
    match ← attempt (readText .readBackup path) with
    | .ok text => return text
    | .error _ => return guard.former

def restore (guard : Guard) : Course ν Unit := do
  writeText .restore guard.target (← guard.text)

end Guard

end Reconcile
