import RowSource.Text.JsonTree
import RowSource.Value

/-!
# Options of a session

What a session is opened with, and its form as a JSON object in which every field may be left out.
-/

namespace RowSource

structure Options where
  /-- The database must not be written to, nor created. -/
  readonly : Bool := false
  mustExist : Bool := false
  /-- How long to wait for a locked database, in milliseconds. -/
  timeout : UInt64 := 5000
  integerMode : IntegerMode := .loose
  unsafeMode : Bool := false
  deriving DecidableEq

namespace Options

/-- A truth value, and nothing that could pass for one. -/
def flag? : JsonTree → Option Bool
  | .bool value => some value
  | _ => none

def milliseconds? : JsonTree → Option UInt64
  | .number digits =>
      if digits.all Char.isDigit then
        let value := digits.foldl (fun n c => n * 10 + (c.toNat - '0'.toNat)) 0
        if value < twoTo 64 then some (UInt64.ofNat value) else none
      else none
  | _ => none

def modeOfName? : Option String → Option IntegerMode
  | some "loose" => some .loose
  | some "strict" => some .strict
  | _ => none

/-- An integer mode: its name, or an object with that name alone and nothing under it. -/
def mode? : JsonTree → Option IntegerMode
  | .text name => modeOfName? name
  | .object [(name, .null)] => modeOfName? name
  | _ => none

def fieldNames : List String := ["readonly", "must_exist", "timeout_ms", "integer_mode",
  "unsafe_mode"]

/-- Reads one field. A name that is not a field's is passed over. -/
def withField (options : Options) (name : String) (value : JsonTree) : Option Options :=
  match name with
  | "readonly" => (flag? value).map fun flag => { options with readonly := flag }
  | "must_exist" => (flag? value).map fun flag => { options with mustExist := flag }
  | "timeout_ms" => (milliseconds? value).map fun timeout => { options with timeout := timeout }
  | "integer_mode" => (mode? value).map fun mode => { options with integerMode := mode }
  | "unsafe_mode" => (flag? value).map fun flag => { options with unsafeMode := flag }
  | _ => some options

/-- Reads fields one after another. No field may come twice. -/
def withFields (seen : List String) (options : Options) :
    List (Option String × JsonTree) → Option Options
  | [] => some options
  | (none, _) :: _ => none
  | (some name, value) :: rest =>
      if seen.contains name then none
      else do
        let options ← options.withField name value
        withFields (if fieldNames.contains name then name :: seen else seen) options rest

def ofText? (text : String) : Option Options :=
  match JsonTree.ofText? text with
  | some (.object fields) => withFields [] {} fields
  | _ => none

end Options

end RowSource
