import RowSource.Text.AsciiCase

/-!
# Functions

The functions that SQL may call: those of the values in a row, and those over all rows of a group. A
name may stand for several functions, told apart by the number of their arguments.
-/

namespace RowSource.Sql

inductive Scalar where
  | abs | sign | round
  | typeOf | subtype | likely
  | length | octetLength | upper | lower | hex | unhex | quote | unicode | char | unistr
  | unistrQuote | soundex
  | trim | trimLeft | trimRight | replace | substring | instr | concat | concatWith | format
  | like | glob | matches
  | least | greatest | nullIf | coalesce | choose
  | random | randomBlob | zeroBlob
  | changes | totalChanges | lastRowid | version | sourceId | compileOption | hasCompileOption
  | log | loadExtension
  | date | time | dateTime | julianDay | unixEpoch | formatTime | timeDifference
  | currentDate | currentTime | currentTimestamp
  | json | jsonArray | jsonArrayLength | jsonErrorPosition | jsonExtract | jsonMember | jsonValue
  | jsonInsert | jsonObject | jsonPatch | jsonPretty | jsonQuote | jsonRemove | jsonReplace | jsonSet
  | jsonType | jsonValid
  | jsonb | jsonbArray | jsonbExtract | jsonbInsert | jsonbObject | jsonbPatch | jsonbRemove
  | jsonbReplace | jsonbSet
  /-- A function that belongs to an extension and cannot be used elsewhere. -/
  | extension
  deriving DecidableEq, Inhabited

inductive Summary where
  | count | sum | total | average | least | greatest | joined
  | jsonArray | jsonObject | jsonbArray | jsonbObject
  deriving DecidableEq, Inhabited

inductive Ranking where
  | rowNumber | rank | denseRank | percentRank | cumulative | tile
  | first | last | nth | lead | lag
  deriving DecidableEq, Inhabited

inductive Function where
  | scalar (function : Scalar)
  | summary (function : Summary)
  | ranking (function : Ranking)
  deriving DecidableEq, Inhabited

namespace Function

def isSummary : Function → Bool
  | summary _ => true
  | _ => false

/-- Whether equal arguments always give equal values. -/
def isStable : Function → Bool
  | scalar .random | scalar .randomBlob | scalar .changes | scalar .totalChanges | scalar .lastRowid
  | scalar .matches | scalar .loadExtension | scalar .log | scalar .extension => false
  | scalar _ => true
  | _ => false

/-- Whether the value depends on nothing but the arguments, in this run and in later ones. -/
def isConstant (function : Function) : Bool :=
  function.isStable &&
    match function with
    | scalar .version | scalar .sourceId | scalar .compileOption | scalar .hasCompileOption
    | scalar .currentDate | scalar .currentTime | scalar .currentTimestamp
    | scalar .date | scalar .time | scalar .dateTime | scalar .julianDay | scalar .unixEpoch
    | scalar .formatTime | scalar .timeDifference => false
    | _ => true

end Function

structure Signature where
  name : String
  least : Nat
  most : Option Nat
  function : Function

namespace Signature

def exactly (name : String) (count : Nat) (function : Function) : Signature :=
  ⟨name, count, some count, function⟩

def atLeast (name : String) (count : Nat) (function : Function) : Signature :=
  ⟨name, count, none, function⟩

def texts : List Signature :=
  [exactly "length" 1 (.scalar .length), exactly "octet_length" 1 (.scalar .octetLength),
    exactly "upper" 1 (.scalar .upper), exactly "lower" 1 (.scalar .lower),
    exactly "hex" 1 (.scalar .hex), ⟨"unhex", 1, some 2, .scalar .unhex⟩,
    exactly "quote" 1 (.scalar .quote), exactly "unicode" 1 (.scalar .unicode),
    atLeast "char" 0 (.scalar .char), exactly "unistr" 1 (.scalar .unistr),
    exactly "unistr_quote" 1 (.scalar .unistrQuote), exactly "soundex" 1 (.scalar .soundex),
    ⟨"trim", 1, some 2, .scalar .trim⟩, ⟨"ltrim", 1, some 2, .scalar .trimLeft⟩,
    ⟨"rtrim", 1, some 2, .scalar .trimRight⟩, exactly "replace" 3 (.scalar .replace),
    ⟨"substr", 2, some 3, .scalar .substring⟩, ⟨"substring", 2, some 3, .scalar .substring⟩,
    exactly "instr" 2 (.scalar .instr), atLeast "concat" 1 (.scalar .concat),
    atLeast "concat_ws" 2 (.scalar .concatWith), atLeast "printf" 0 (.scalar .format),
    atLeast "format" 0 (.scalar .format), ⟨"like", 2, some 3, .scalar .like⟩,
    exactly "glob" 2 (.scalar .glob), exactly "match" 2 (.scalar .matches)]

def values : List Signature :=
  [exactly "abs" 1 (.scalar .abs), exactly "sign" 1 (.scalar .sign),
    ⟨"round", 1, some 2, .scalar .round⟩, exactly "typeof" 1 (.scalar .typeOf),
    exactly "subtype" 1 (.scalar .subtype), exactly "likely" 1 (.scalar .likely),
    exactly "unlikely" 1 (.scalar .likely), exactly "likelihood" 2 (.scalar .likely),
    exactly "nullif" 2 (.scalar .nullIf), exactly "ifnull" 2 (.scalar .coalesce),
    atLeast "coalesce" 2 (.scalar .coalesce), atLeast "iif" 2 (.scalar .choose),
    atLeast "if" 2 (.scalar .choose), exactly "random" 0 (.scalar .random),
    exactly "randomblob" 1 (.scalar .randomBlob), exactly "zeroblob" 1 (.scalar .zeroBlob),
    exactly "changes" 0 (.scalar .changes), exactly "total_changes" 0 (.scalar .totalChanges),
    exactly "last_insert_rowid" 0 (.scalar .lastRowid),
    exactly "sqlite_version" 0 (.scalar .version), exactly "sqlite_source_id" 0 (.scalar .sourceId),
    exactly "sqlite_compileoption_get" 1 (.scalar .compileOption),
    exactly "sqlite_compileoption_used" 1 (.scalar .hasCompileOption),
    exactly "sqlite_log" 2 (.scalar .log), ⟨"load_extension", 1, some 2, .scalar .loadExtension⟩,
    atLeast "snippet" 0 (.scalar .extension), exactly "offsets" 1 (.scalar .extension),
    ⟨"matchinfo", 1, some 2, .scalar .extension⟩, exactly "optimize" 1 (.scalar .extension)]

def times : List Signature :=
  [atLeast "date" 0 (.scalar .date), atLeast "time" 0 (.scalar .time),
    atLeast "datetime" 0 (.scalar .dateTime), atLeast "julianday" 0 (.scalar .julianDay),
    atLeast "unixepoch" 0 (.scalar .unixEpoch), atLeast "strftime" 0 (.scalar .formatTime),
    exactly "timediff" 2 (.scalar .timeDifference),
    exactly "current_date" 0 (.scalar .currentDate),
    exactly "current_time" 0 (.scalar .currentTime),
    exactly "current_timestamp" 0 (.scalar .currentTimestamp)]

def documents : List Signature :=
  [exactly "json" 1 (.scalar .json), atLeast "json_array" 0 (.scalar .jsonArray),
    ⟨"json_array_length", 1, some 2, .scalar .jsonArrayLength⟩,
    exactly "json_error_position" 1 (.scalar .jsonErrorPosition),
    atLeast "json_extract" 0 (.scalar .jsonExtract), exactly "->" 2 (.scalar .jsonMember),
    exactly "->>" 2 (.scalar .jsonValue), atLeast "json_insert" 0 (.scalar .jsonInsert),
    atLeast "json_object" 0 (.scalar .jsonObject), exactly "json_patch" 2 (.scalar .jsonPatch),
    ⟨"json_pretty", 1, some 2, .scalar .jsonPretty⟩, exactly "json_quote" 1 (.scalar .jsonQuote),
    atLeast "json_remove" 0 (.scalar .jsonRemove), atLeast "json_replace" 0 (.scalar .jsonReplace),
    atLeast "json_set" 0 (.scalar .jsonSet), ⟨"json_type", 1, some 2, .scalar .jsonType⟩,
    ⟨"json_valid", 1, some 2, .scalar .jsonValid⟩, exactly "jsonb" 1 (.scalar .jsonb),
    atLeast "jsonb_array" 0 (.scalar .jsonbArray), atLeast "jsonb_extract" 0 (.scalar .jsonbExtract),
    atLeast "jsonb_insert" 0 (.scalar .jsonbInsert), atLeast "jsonb_object" 0 (.scalar .jsonbObject),
    exactly "jsonb_patch" 2 (.scalar .jsonbPatch), atLeast "jsonb_remove" 0 (.scalar .jsonbRemove),
    atLeast "jsonb_replace" 0 (.scalar .jsonbReplace), atLeast "jsonb_set" 0 (.scalar .jsonbSet),
    exactly "json_group_array" 1 (.summary .jsonArray),
    exactly "json_group_object" 2 (.summary .jsonObject),
    exactly "jsonb_group_array" 1 (.summary .jsonbArray),
    exactly "jsonb_group_object" 2 (.summary .jsonbObject)]

/-- The functions over groups and windows of rows, and those of values that go by the same names. -/
def groups : List Signature :=
  [⟨"count", 0, some 1, .summary .count⟩, exactly "sum" 1 (.summary .sum),
    exactly "total" 1 (.summary .total), exactly "avg" 1 (.summary .average),
    exactly "min" 1 (.summary .least), exactly "max" 1 (.summary .greatest),
    atLeast "min" 2 (.scalar .least), atLeast "max" 2 (.scalar .greatest),
    ⟨"group_concat", 1, some 2, .summary .joined⟩, exactly "string_agg" 2 (.summary .joined),
    exactly "row_number" 0 (.ranking .rowNumber), exactly "rank" 0 (.ranking .rank),
    exactly "dense_rank" 0 (.ranking .denseRank), exactly "percent_rank" 0 (.ranking .percentRank),
    exactly "cume_dist" 0 (.ranking .cumulative), exactly "ntile" 1 (.ranking .tile),
    exactly "first_value" 1 (.ranking .first), exactly "last_value" 1 (.ranking .last),
    exactly "nth_value" 2 (.ranking .nth), ⟨"lead", 1, some 3, .ranking .lead⟩,
    ⟨"lag", 1, some 3, .ranking .lag⟩]

def all : List Signature := texts ++ values ++ times ++ documents ++ groups

def takes (signature : Signature) (count : Nat) : Bool :=
  decide (signature.least ≤ count) && signature.most.all (count ≤ ·)

end Signature

namespace Function

def named (name : String) : List Signature :=
  Signature.all.filter fun signature => sameName signature.name name

def find? (name : String) (count : Nat) : Option Function :=
  ((named name).find? (·.takes count)).map (·.function)

end Function

end RowSource.Sql
