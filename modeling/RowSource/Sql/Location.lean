import RowSource.Engine.Fault
import RowSource.Options
import RowSource.Text.JsonTree
import RowSource.Text.Utf8

/-!
# Locations of databases

A path names a file, a private place, or either by a URI with the scheme `file`. All files are in one
directory, and no other directory exists.
-/

namespace RowSource.Sql

structure Location where
  path : List Char
  isPrivate : Bool
  isShared : Bool := false
  isReadonly : Bool
  mayCreate : Bool

namespace Location

/-! ### Paths -/

def parts (path : List Char) : List (List Char) := path.splitOn '/'

/-- A path without the parts that lead nowhere, the last part first: an empty part and a point stay
where they are, and two points lead back. -/
def normalized (path : List Char) : List (List Char) :=
  (parts path).foldl
    (fun kept part =>
      if part = [] ∨ part = ['.'] then kept
      else if part = ['.', '.'] then if kept = [] then [part, part] else kept.tail
      else part :: kept) []

def file? (location : Location) : Option String :=
  match location.path.head?, normalized location.path with
  | some first, [name] => if first = '/' then none else some (String.ofList name)
  | _, _ => none

/-! ### URIs -/

structure Uri where
  path : List Char
  query : List (List Char × List Char)

def octet? (a b : Char) : Option UInt8 := do
  return UInt8.ofNat ((← JsonTree.hexDigit? a) * 16 + (← JsonTree.hexDigit? b))

/-- A piece of a URI as bytes, where a percent sign and two digits write a byte. A zero byte hides
the rest. -/
def decodedBytes : List Char → List UInt8
  | '%' :: a :: b :: rest =>
      match octet? a b with
      | some 0 => []
      | some byte => byte :: decodedBytes rest
      | none => '%'.toUInt8 :: decodedBytes (a :: b :: rest)
  | c :: rest => (String.singleton c).toUTF8.toList ++ decodedBytes rest
  | [] => []

def decoded (cs : List Char) : List Char := (textOfBytes (decodedBytes cs)).toList

/-- A named value of a query. One without a name is passed over. -/
def field? (cs : List Char) : Option (List Char × List Char) :=
  let name := cs.takeWhile (· ≠ '=')
  if name = [] then none else some (decoded name, decoded (cs.drop (name.length + 1)))

/-- What follows the scheme of a URI, without the authority, which can only be this machine. -/
def withoutAuthority (cs : List Char) : Except EngineFault (List Char) :=
  match cs with
  | '/' :: '/' :: rest =>
      let authority := rest.takeWhile (· ≠ '/')
      if authority = [] ∨ authority = "localhost".toList then .ok (rest.drop authority.length)
      else .error (.failed 1 (some ("invalid uri authority: " ++ String.ofList authority)))
  | _ => .ok cs

def uri (cs : List Char) : Except EngineFault Uri := do
  let cs ← withoutAuthority (cs.takeWhile (· ≠ '#'))
  let path := cs.takeWhile (· ≠ '?')
  let query := (cs.drop (path.length + 1)).splitOn '&'
  return ⟨decoded path, query.filterMap field?⟩

/-- How much a way of opening allows: to read, also to write, also to create. -/
def allowance (options : Options) : Nat :=
  if options.readonly then 1 else if options.mustExist then 2 else 6

def modeAllowance? (mode : String) : Option Nat :=
  match mode with
  | "ro" => some 1
  | "rw" => some 2
  | "rwc" => some 6
  | "memory" => some 0
  | _ => none

def ofAllowance (path : List Char) (isMemory isShared : Bool) (allowed : Nat) : Location :=
  let isPrivate := isMemory || path == ":memory:".toList || path.isEmpty
  { path := path
    isPrivate := isPrivate
    isShared := isPrivate && isShared && !path.isEmpty
    isReadonly := allowed == 1
    mayCreate := allowed == 6 }

def follow (allowed : Nat) (isMemory : Bool) :
    List (List Char × List Char) → Except EngineFault (Nat × Bool)
  | [] => .ok (allowed, isMemory)
  | (name, value) :: rest =>
      let value := String.ofList value
      if name = "mode".toList then
        match modeAllowance? value with
        | none => .error (.failed 1 (some ("no such access mode: " ++ value)))
        | some 0 => follow allowed true rest
        | some asked =>
            if allowed < asked then
              .error (.failed 3 (some ("access mode not allowed: " ++ value)))
            else follow asked isMemory rest
      else if name = "cache".toList ∧ value ≠ "shared" ∧ value ≠ "private" then
        .error (.failed 1 (some ("no such cache mode: " ++ value)))
      else if name = "vfs".toList ∧ value ≠ "unix" then
        .error (.failed 1 (some ("no such vfs: " ++ value)))
      else follow allowed isMemory rest

def ofPath (path : String) (options : Options) : Except EngineFault Location := do
  match path.toList with
  | 'f' :: 'i' :: 'l' :: 'e' :: ':' :: rest =>
      let uri ← uri rest
      let (allowed, isMemory) ← follow (allowance options) false uri.query
      let cache := (uri.query.filter fun field => field.1 == "cache".toList).getLast?.map (·.2)
      return ofAllowance uri.path isMemory (cache == some "shared".toList) allowed
  | cs => return ofAllowance cs false false (allowance options)

end Location

end RowSource.Sql
