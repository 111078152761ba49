import RowSource.Failure

/-!
# Faults of the engine

The ways in which a call of the engine can fail, as the engine itself reports them, and the failure
that stands for each when host code has nothing to say about it.
-/

namespace RowSource

inductive EngineFault where
  | failed (extendedCode : Int) (message : Option String)
  /-- The compiler refuses the text at a place that it can point to. -/
  | refusedText (message : String) (sql : String) (offset : Nat)
  | parameterCount (got needed : Nat)
  | parameterName (name : String)
  | noRows
  | returnedRows
  | severalStatements
  | notReadonly
  | columnIndex (index : Int)
  | columnName (name : String)
  | nulByte (position : Nat)
  | table (message : String)
  deriving DecidableEq

namespace EngineFault

def primaryWords (code : Int) : Option String :=
  match code with
  | 0 => some "not an error"
  | 1 => some "SQL logic error"
  | 3 => some "access permission denied"
  | 4 => some "query aborted"
  | 5 => some "database is locked"
  | 6 => some "database table is locked"
  | 7 => some "out of memory"
  | 8 => some "attempt to write a readonly database"
  | 9 => some "interrupted"
  | 10 => some "disk I/O error"
  | 11 => some "database disk image is malformed"
  | 12 => some "unknown operation"
  | 13 => some "database or disk is full"
  | 14 => some "unable to open database file"
  | 15 => some "locking protocol"
  | 17 => some "database schema has changed"
  | 18 => some "string or blob too big"
  | 19 => some "constraint failed"
  | 20 => some "datatype mismatch"
  | 21 => some "bad parameter or other API misuse"
  | 23 => some "authorization denied"
  | 25 => some "column index out of range"
  | 26 => some "file is not a database"
  | 27 => some "notification message"
  | 28 => some "warning message"
  | _ => none

/-- The engine's own words for a code. Most extended codes share the words of their primary
code. -/
def words (code : Int) : String :=
  match code with
  | 100 => "another row available"
  | 101 => "no more rows available"
  | 516 => "abort due to ROLLBACK"
  | _ => (primaryWords (code % 256)).getD "unknown error"

def message : EngineFault → String
  | failed _ (some message) => message
  | failed code none => "Error code " ++ toString code ++ ": " ++ words code
  | refusedText message sql offset =>
      message ++ " in " ++ sql ++ " at offset " ++ toString offset
  | parameterCount got needed =>
      "Wrong number of parameters passed to query. Got " ++ toString got ++ ", needed " ++
        toString needed
  | parameterName name => "Invalid parameter name: " ++ name
  | noRows => "Query returned no rows"
  | returnedRows => "Execute returned results - did you mean to call query?"
  | severalStatements => "Multiple statements provided"
  | notReadonly => "Query is not read-only"
  | columnIndex index => "Invalid column index: " ++ toString index
  | columnName name => "Invalid column name: " ++ name
  | nulByte position => "nul byte found in provided data at position: " ++ toString position
  | table message => message

def extendedCode : EngineFault → Int
  | failed code _ => code
  | parameterCount _ _ | parameterName _ => 25
  | _ => 1

def toFailure (fault : EngineFault) : Failure := .engine ⟨fault.extendedCode, fault.message⟩

def withoutPlace : EngineFault → EngineFault
  | refusedText message _ _ => .failed 1 (some message)
  | fault => fault

def occursIn (word : List Char) : List Char → Bool
  | [] => word.isEmpty
  | c :: rest => word.isPrefixOf (c :: rest) || occursIn word rest

/-- Whether the planner gave up because no table accepted a plan. -/
def isNoQuerySolution : EngineFault → Bool
  | failed code (some message) =>
      code == 1 && occursIn "no query solution".toList message.toList
  | _ => false

end EngineFault

end RowSource
