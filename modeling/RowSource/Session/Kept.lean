import RowSource.Session.Calls

/-!
# Kept statements

The engine keeps the statements that were compiled last, so that a text need not be compiled for
every run. An operation takes the statement out and gives it back as the latest when it is done, so
that host code which runs in between compiles a statement of its own.

A kept statement is compiled anew at its first step, because the tables may have changed since, and
so is one that was just compiled with a list of tables which has turned out to be outdated. Until then
it has the columns it was compiled with, and a complaint that comes so late does not point to a place
in the text.
-/

namespace RowSource

variable {H : Host} {E : Engine}

namespace Session

def keptLimit : Nat := 16

def kept? (s : Session H) (text : String) : Option StatementInfo :=
  (s.kept.find? fun known => known.1 == text).map (·.2)

def takeOut (text : String) (s : Session H) : Session H :=
  { s with kept := s.kept.filter fun known => known.1 != text }

/-- Keeps a statement as the latest, and lets the oldest go when there are too many. A text without
a statement is not kept. -/
def keep (text : String) (info : StatementInfo) (s : Session H) : Session H :=
  if info.isEmpty then s
  else
    { s with
      kept := ((text, info) :: s.kept.filter fun known => known.1 != text).take keptLimit }

end Session

/-- A statement that an operation has got hold of: kept from before, or just compiled. -/
structure HeldStatement (E : Engine) where
  info : StatementInfo
  compiled : Option E.Statement

namespace Callbacks

variable (C : Callbacks H E)

def hold (id : Nat) (text : String) : Worldly H E (Except EngineFault (HeldStatement E)) := do
  match ((← get).session id).kept? text with
  | some info =>
      modify (World.updateSession id (Session.takeOut text))
      return .ok ⟨info, none⟩
  | none =>
      match ← C.settle id (E.prepare id text) with
      | .error fault => return .error fault
      | .ok statement => return .ok ⟨E.info statement, some statement⟩

/-- Looks at the list of tables anew if a statement depends on it and it is outdated. Tells whether
that was so. -/
def refresh (id : Nat) (info : StatementInfo) : Worldly H E Bool := do
  if info.usesTables && E.isOutdated id (← get).store then
    modify (World.updateStore (E.refresh id))
    return true
  else return false

def renew (id : Nat) (text : String) (held : HeldStatement E) :
    Worldly H E (Except EngineFault E.Statement) := do
  let isOutdated ← refresh id held.info
  match held.compiled, isOutdated with
  | some statement, false => return .ok statement
  | _, _ => return (← C.settle id (E.prepare id text)).mapError EngineFault.withoutPlace

end Callbacks

end RowSource
