import Mathlib.Data.List.Basic
import RowSource.Sql.Token
import RowSource.Table.Blueprint

/-!
# Schemas read back

The statement that declares a blueprint's table carries names that may be any texts at all: they may
hold quotes, commas, parentheses, or what looks like the end of the statement. Split into the tokens
of SQL it still says what was meant, because a name in quotes is one token whatever is in it.
-/

namespace RowSource

namespace Sql

/-- A token wherever it stands: its kind, and its characters. -/
abbrev Lexeme := TokenKind × String

def Token.lexeme (token : Token) : Lexeme := (token.kind, token.source)

def lexemes (text : String) : List Lexeme := (Token.ofText text).map Token.lexeme

/-! ### Splitting a text piece by piece -/

/-- Some characters are split into certain lexemes, wherever they begin, if there is fuel for all of
them. -/
def Lexes (cs : List Char) (found : List Lexeme) : Prop :=
  ∀ place fuel, cs.length ≤ fuel → (Token.scan place fuel cs).map Token.lexeme = found

namespace Lexes

variable {rest : List Char} {kind : TokenKind} {found : List Lexeme}

theorem nil : Lexes [] [] := by
  intro place fuel _enough
  cases fuel with
  | zero => rfl
  | succ fuel => rfl

theorem token (piece : List Char)
    (front : Token.atFront (piece ++ rest) = (some kind, piece.length)) (nonempty : piece ≠ [])
    (after : Lexes rest found) :
    Lexes (piece ++ rest) ((kind, String.ofList piece) :: found) := by
  intro place fuel enough
  obtain ⟨first, more, rfl⟩ := List.exists_cons_of_ne_nil nonempty
  cases fuel with
  | zero => cases enough
  | succ fuel =>
      have left : rest.length ≤ fuel := by
        simp only [List.cons_append, List.length_cons, List.length_append] at enough
        omega
      rw [List.cons_append] at front ⊢
      simp only [Token.scan, front]
      rw [← List.cons_append, List.take_left, List.drop_left, List.map_cons, after _ fuel left]
      rfl

theorem blank {first : Char} (ends : Token.isSpace first = false)
    (after : Lexes (first :: rest) found) : Lexes (' ' :: first :: rest) found := by
  have front : Token.atFront (' ' :: first :: rest) = (none, 1) := by
    change (none, 1 + ((first :: rest).takeWhile Token.isSpace).length) = _
    rw [List.takeWhile_cons_of_neg (by rw [ends]; exact Bool.false_ne_true)]
    rfl
  intro place fuel enough
  cases fuel with
  | zero => cases enough
  | succ fuel =>
      simp only [Token.scan, front]
      exact after _ fuel (Nat.le_of_succ_le_succ enough)

end Lexes

/-! ### Names in quotes -/

namespace Token

variable {quote c : Char} {name rest : List Char}

theorem quotedBody_close (ends : rest.head? ≠ some quote) :
    quotedBody quote (quote :: rest) = some ([], 1) := by
  unfold quotedBody
  rw [if_pos rfl]
  cases rest with
  | nil => rfl
  | cons next rest => exact if_neg fun same => ends (congrArg some same)

theorem quotedBody_pair :
    quotedBody quote (quote :: quote :: rest) =
      (quotedBody quote rest).map fun (cs, n) => (quote :: cs, n + 2) := by
  rw [quotedBody.eq_def]
  exact (if_pos rfl).trans (if_pos rfl)

theorem quotedBody_other (different : c ≠ quote) :
    quotedBody quote (c :: rest) = (quotedBody quote rest).map fun (cs, n) => (c :: cs, n + 1) := by
  rw [quotedBody.eq_def]
  exact if_neg different

end Token

/-- What stands between the quotes of a name: its characters, with its own quotes doubled. -/
def doubled (name : List Char) : List Char :=
  name.flatMap fun c => if c = '"' then ['"', '"'] else [c]

theorem doubled_cons_quote (name : List Char) :
    doubled ('"' :: name) = '"' :: '"' :: doubled name := by
  unfold doubled
  rw [List.flatMap_cons, if_pos rfl]
  rfl

theorem doubled_cons_other {c : Char} (other : c ≠ '"') (name : List Char) :
    doubled (c :: name) = c :: doubled name := by
  unfold doubled
  rw [List.flatMap_cons, if_neg other]
  rfl

theorem quotedIdentifier_append (name rest : List Char) :
    quotedIdentifier name ++ rest = '"' :: (doubled name ++ '"' :: rest) := by
  unfold quotedIdentifier doubled
  rw [List.append_assoc, List.cons_append, List.singleton_append]

theorem length_quotedIdentifier (name : List Char) :
    (quotedIdentifier name).length = (doubled name).length + 2 := by
  have whole := congrArg List.length (quotedIdentifier_append name [])
  rwa [List.append_nil, List.length_cons, List.length_append, List.length_singleton] at whole

/-- A name ends at its closing quote, and its own quotes are read as they were. -/
theorem Token.quotedBody_doubled (name : List Char) {rest : List Char}
    (ends : rest.head? ≠ some '"') :
    quotedBody '"' (doubled name ++ '"' :: rest) = some (name, (doubled name).length + 1) := by
  induction name with
  | nil => exact quotedBody_close ends
  | cons c name ih =>
      by_cases own : c = '"'
      · rw [own, doubled_cons_quote, List.cons_append, List.cons_append, quotedBody_pair, ih]
        rfl
      · rw [doubled_cons_other own, List.cons_append, quotedBody_other own, ih]
        rfl

theorem Token.atFront_quotedIdentifier (name rest : List Char)
    (ends : rest.head? ≠ some '"') :
    atFront (quotedIdentifier name ++ rest) =
      (some (.quotedName (String.ofList name)), (quotedIdentifier name).length) := by
  rw [quotedIdentifier_append, length_quotedIdentifier]
  simp only [atFront, quotedBody_doubled name ends, quotedToken]

/-! ### Reading a declaration -/

/-- The columns of a table from where one of them begins: a name in quotes, and the word that hides
the column or not, with commas between and a parenthesis at the end. -/
def columnsFrom? : List Lexeme → Option (List (String × Bool))
  | [(.quotedName name, _), (.symbol, ")"), (.symbol, ";")] => some [(name, false)]
  | [(.quotedName name, _), (.word, "HIDDEN"), (.symbol, ")"), (.symbol, ";")] =>
      some [(name, true)]
  | (.quotedName name, _) :: (.symbol, ",") :: rest =>
      (columnsFrom? rest).map ((name, false) :: ·)
  | (.quotedName name, _) :: (.word, "HIDDEN") :: (.symbol, ",") :: rest =>
      (columnsFrom? rest).map ((name, true) :: ·)
  | _ => none

/-- The names of the columns that a statement declares, and whether each is hidden. -/
def declaredColumns? : List Lexeme → Option (List (String × Bool))
  | (.word, "CREATE") :: (.word, "TABLE") :: (.word, "x") :: (.symbol, "(") :: rest =>
      if rest = [(.symbol, ")"), (.symbol, ";")] then some [] else columnsFrom? rest
  | _ => none

end Sql

namespace Blueprint

open Sql

variable {G : Type}

/-- The names of the columns as they are declared, parameters first, and whether each is hidden. -/
def declared (b : Blueprint G) : List (String × Bool) :=
  b.parameters.map (·, true) ++ b.columns.map (·, false)

/-- The declaration of a column. -/
def columnText (column : String × Bool) : List Char :=
  quotedIdentifier column.1.toList ++ if column.2 then " HIDDEN".toList else []

theorem columnTexts_eq (b : Blueprint G) : b.columnTexts = b.declared.map columnText := by
  unfold columnTexts declared
  rw [List.map_append, List.map_map, List.map_map]
  congr 1
  refine List.map_congr_left fun name _ => ?_
  exact (List.append_nil _).symm

/-- The lexemes of such a declaration: the name is a single one, whatever is in it. -/
def columnLexemes (column : String × Bool) : List Lexeme :=
  (.quotedName column.1, String.ofList (quotedIdentifier column.1.toList)) ::
    if column.2 then [(.word, "HIDDEN")] else []

/-- A declaration of a column that a comma or a parenthesis ends. -/
theorem lexes_columnText (column : String × Bool) {mark : Char} (ends : mark = ',' ∨ mark = ')')
    {rest : List Char} {found : List Lexeme} (after : Lexes (mark :: rest) found) :
    Lexes (columnText column ++ mark :: rest) (columnLexemes column ++ found) := by
  obtain ⟨name, hidden⟩ := column
  have notQuote : mark ≠ '"' := by
    rintro rfl
    rcases ends with ends | ends <;> cases ends
  cases hidden with
  | false =>
      have front := Token.atFront_quotedIdentifier name.toList (mark :: rest)
        fun same => notQuote (Option.some.inj same)
      rw [String.ofList_toList] at front
      change Lexes ((quotedIdentifier name.toList ++ []) ++ _) _
      rw [List.append_nil]
      exact .token _ front nofun after
  | true =>
      have front := Token.atFront_quotedIdentifier name.toList
        (" HIDDEN".toList ++ mark :: rest) nofun
      rw [String.ofList_toList] at front
      change Lexes ((quotedIdentifier name.toList ++ " HIDDEN".toList) ++ _) _
      rw [List.append_assoc]
      refine .token _ front nofun (.blank rfl ?_)
      have word : Token.atFront ("HIDDEN".toList ++ mark :: rest) = (some .word, 6) := by
        rcases ends with rfl | rfl <;> rfl
      exact .token _ word nofun after

/-- The statement from where its columns begin. -/
def columnsText (columns : List (String × Bool)) : List Char :=
  (", ".toList).intercalate (columns.map columnText) ++ ");".toList

/-- The lexemes of the statement from there. -/
def columnsLexemes (columns : List (String × Bool)) : List Lexeme :=
  [(.symbol, ",")].intercalate (columns.map columnLexemes) ++ [(.symbol, ")"), (.symbol, ";")]

section Columns

variable (column next : String × Bool) (columns : List (String × Bool))

theorem intercalate_map_cons {β : Type} (separator : List β) (piece : String × Bool → List β) :
    separator.intercalate ((column :: next :: columns).map piece) =
      piece column ++ (separator ++ separator.intercalate ((next :: columns).map piece)) := by
  rw [List.map_cons, List.map_cons, List.intercalate_cons_cons, ← List.map_cons,
    List.append_assoc]

theorem columnsText_singleton : columnsText [column] = columnText column ++ ");".toList := by
  unfold columnsText
  rw [List.map_singleton, List.intercalate_singleton]

theorem columnsText_cons :
    columnsText (column :: next :: columns) =
      columnText column ++ ',' :: ' ' :: columnsText (next :: columns) := by
  unfold columnsText
  rw [intercalate_map_cons, List.append_assoc, List.append_assoc]
  rfl

theorem columnsText_quote : ∃ more, columnsText (next :: columns) = '"' :: more := by
  cases columns with
  | nil => exact ⟨_, rfl⟩
  | cons column columns => exact ⟨_, rfl⟩

theorem columnsLexemes_singleton :
    columnsLexemes [column] = columnLexemes column ++ [(.symbol, ")"), (.symbol, ";")] := by
  unfold columnsLexemes
  rw [List.map_singleton, List.intercalate_singleton]

theorem columnsLexemes_cons :
    columnsLexemes (column :: next :: columns) =
      columnLexemes column ++ (.symbol, ",") :: columnsLexemes (next :: columns) := by
  unfold columnsLexemes
  rw [intercalate_map_cons, List.append_assoc, List.append_assoc]
  rfl

end Columns

theorem lexes_columnsText (columns : List (String × Bool)) :
    Lexes (columnsText columns) (columnsLexemes columns) := by
  have ending : Lexes [')', ';'] [(.symbol, ")"), (.symbol, ";")] :=
    .token [')'] rfl nofun (.token [';'] rfl nofun .nil)
  induction columns with
  | nil => exact ending
  | cons column columns ih =>
      cases columns with
      | nil =>
          rw [columnsText_singleton, columnsLexemes_singleton]
          exact lexes_columnText column (.inr rfl) ending
      | cons next columns =>
          -- The blank after the comma is a single one only because a name follows it.
          obtain ⟨more, quote⟩ := columnsText_quote next columns
          rw [columnsText_cons, columnsLexemes_cons]
          rw [quote] at ih ⊢
          exact lexes_columnText column (.inl rfl) (.token [','] rfl nofun (.blank rfl ih))

/-- The lexemes of the statement that declares a table. -/
theorem lexemes_schemaSql (b : Blueprint G) :
    lexemes b.schemaSql =
      [(.word, "CREATE"), (.word, "TABLE"), (.word, "x"), (.symbol, "(")] ++
        columnsLexemes b.declared := by
  have whole : Lexes ("CREATE TABLE x(".toList ++ columnsText b.declared) _ :=
    .token ['C', 'R', 'E', 'A', 'T', 'E'] rfl nofun <| .blank rfl <|
      .token ['T', 'A', 'B', 'L', 'E'] rfl nofun <| .blank rfl <|
      .token ['x'] rfl nofun <| .token ['('] rfl nofun (lexes_columnsText b.declared)
  have text : b.schemaSql.toList = "CREATE TABLE x(".toList ++ columnsText b.declared := by
    unfold schemaSql columnsText
    rw [String.toList_ofList, columnTexts_eq, List.append_assoc]
  unfold lexemes Token.ofText
  rw [← String.length_toList, text]
  exact whole 0 _ (Nat.le_refl _)

/-! ### Reading the columns back -/

theorem columnsFrom?_columnsLexemes (column : String × Bool) (columns : List (String × Bool)) :
    columnsFrom? (columnsLexemes (column :: columns)) = some (column :: columns) := by
  induction columns generalizing column with
  | nil =>
      obtain ⟨name, hidden⟩ := column
      cases hidden with
      | false => rfl
      | true => rfl
  | cons next columns ih =>
      obtain ⟨name, hidden⟩ := column
      rw [columnsLexemes_cons]
      cases hidden with
      | false =>
          change (columnsFrom? (columnsLexemes (next :: columns))).map _ = _
          rw [ih]
          rfl
      | true =>
          change (columnsFrom? (columnsLexemes (next :: columns))).map _ = _
          rw [ih]
          rfl

theorem declaredColumns?_append (rest : List Lexeme) :
    declaredColumns?
        ([(.word, "CREATE"), (.word, "TABLE"), (.word, "x"), (.symbol, "(")] ++ rest) =
      if rest = [(.symbol, ")"), (.symbol, ";")] then some [] else columnsFrom? rest := rfl

theorem declaredColumns?_schemaSql (b : Blueprint G) :
    declaredColumns? (lexemes b.schemaSql) = some b.declared := by
  rw [lexemes_schemaSql, declaredColumns?_append]
  cases b.declared with
  | nil => rfl
  | cons column columns =>
      have named : columnsLexemes (column :: columns) ≠ [(.symbol, ")"), (.symbol, ";")] := by
        intro same
        have read := columnsFrom?_columnsLexemes column columns
        rw [same] at read
        cases read
      rw [if_neg named]
      exact columnsFrom?_columnsLexemes column columns

theorem hidden_declared (b : Blueprint G) :
    (b.declared.filter fun column => column.2).map Prod.fst = b.parameters := by
  simp [declared, List.filter_append, List.filter_map, Function.comp_def, List.filter_true,
    List.filter_false]

theorem visible_declared (b : Blueprint G) :
    (b.declared.filter fun column => !column.2).map Prod.fst = b.columns := by
  simp [declared, List.filter_append, List.filter_map, Function.comp_def, List.filter_true,
    List.filter_false]

/-- The statement that declares a table is split into its words, its marks and one quoted name for
each parameter and each column, whatever these names are. Read back it names exactly the parameters,
each of them hidden, and then exactly the columns, so that different names never give the same
statement. -/
theorem schemaSql_reads_back (b : Blueprint G) :
    lexemes b.schemaSql =
        [(.word, "CREATE"), (.word, "TABLE"), (.word, "x"), (.symbol, "(")] ++
          columnsLexemes b.declared ∧
      declaredColumns? (lexemes b.schemaSql) =
        some (b.parameters.map (·, true) ++ b.columns.map (·, false)) ∧
      ∀ {H : Type} (other : Blueprint H), b.schemaSql = other.schemaSql ↔
        b.parameters = other.parameters ∧ b.columns = other.columns := by
  refine ⟨lexemes_schemaSql b, declaredColumns?_schemaSql b, fun other => ⟨fun same => ?_, ?_⟩⟩
  · have read : some b.declared = some other.declared := by
      rw [← declaredColumns?_schemaSql, ← declaredColumns?_schemaSql, same]
    have declared := Option.some.inj read
    constructor
    · rw [← hidden_declared b, declared, hidden_declared]
    · rw [← visible_declared b, declared, visible_declared]
  · rintro ⟨parameters, columns⟩
    unfold schemaSql columnTexts
    rw [parameters, columns]

/-- Names that imitate what is written around them. -/
example :
    let b : Blueprint Unit := ⟨["", "b\"); \"c"], ["a\" HIDDEN", "\"\""], (), none, false⟩
    b.schemaSql = "CREATE TABLE x(\"a\"\" HIDDEN\" HIDDEN, \"\"\"\"\"\" HIDDEN, " ++
        "\"\", \"b\"\"); \"\"c\");" ∧
      declaredColumns? (lexemes b.schemaSql) =
        some [("a\" HIDDEN", true), ("\"\"", true), ("", false), ("b\"); \"c", false)] := by
  decide +kernel

end Blueprint

end RowSource
