import SqlAudit.Dialect.Basic

/-
  The dialects that a text can be read in.

  Key definitions include:
    * `SqlAudit.Dialect.generic`
    * `SqlAudit.Dialect.postgres`
    * `SqlAudit.Dialect.mysql`
    * `SqlAudit.Dialect.sqlite`
    * `SqlAudit.Dialect.duckdb`
-/

------------------------------------------------------------
-- Shared Tables
------------------------------------------------------------

namespace SqlAudit.Dialect

/- Characters that are tokens by themselves. -/
def punctuation : List Char :=
  "()[]\x7b\x7d&^:,.-=><%!|+;/\\*~?@#\x27`\"".toList

/- Operators and phrases of several words. -/
def sharedPhrases : List (List Char) :=
  [ "\x7b%".toList, "\x7b%+".toList, "\x7b%-".toList,
    "%\x7d".toList, "+%\x7d".toList, "-%\x7d".toList,
    "\x7b\x7b+".toList, "\x7b\x7b-".toList,
    "+\x7d\x7d".toList, "-\x7d\x7d".toList, "&<".toList,
    "&>".toList, "==".toList, "::".toList, "?::".toList,
    "||".toList, "|>".toList, ">=".toList, "<=".toList,
    "<>".toList, "!=".toList, ":=".toList, "<=>".toList,
    "->".toList, "->>".toList, "=>".toList, "#>".toList,
    "#>>".toList, "<->".toList, "<<->>".toList, "&&".toList,
    "??".toList, "~~~".toList, "~~".toList, "~~*".toList,
    "~*".toList, "-|-".toList, "CLUSTER BY".toList,
    "CONNECT BY".toList, "DISTRIBUTE BY".toList,
    "FOREIGN KEY".toList, "GROUP BY".toList,
    "GROUPING SETS".toList, "ORDER BY".toList,
    "PARTITION BY".toList, "PARTITIONED BY".toList,
    "PRIMARY KEY".toList, "SIMILAR TO".toList,
    "SQL SECURITY".toList, "DOUBLE PRECISION".toList,
    "CHAR VARYING".toList, "CHARACTER VARYING".toList,
    "USER-DEFINED".toList ]

end SqlAudit.Dialect

------------------------------------------------------------
-- Dialects
------------------------------------------------------------

namespace SqlAudit.Dialect

/- SQL without the additions of any system. -/
def generic : Dialect :=
  { phrases := sharedPhrases ++
      [ "/*+".toList, "SORT BY".toList ]
    singles := punctuation
    joiners := []
    parameterMarks := [ '@' ]
    identifiers := [ ('\x22', '\x22') ]
    quotes := [ '\x27' ]
    escapes := [ '\x27' ]
    byteEscapes := [ '\x27' ]
    literals :=
      [ ⟨"n'".toList, '\x27', .plain⟩,
        ⟨"N'".toList, '\x27', .plain⟩ ]
    comments :=
      [ ⟨"--".toList, .line⟩, ⟨"/*".toList, .block '*' '/'⟩,
        ⟨"\x7b#".toList, .block '#' '}'⟩,
        ⟨"/*+".toList, .block '*' '/'⟩ ]
    nestsComments := true
    dashesNeedBlank := false
    returnEndsLine := true
    hasBinary := false
    hasHexadecimal := false
    groupsDigits := false
    namesWithDigits := false
    commands :=
      [ "EXECUTE".toList, "FETCH".toList, "RENAME".toList,
        "SHOW".toList, "CALL".toList, "EXPLAIN".toList,
        "OPTIMIZE".toList, "PREPARE".toList,
        "VACUUM".toList ]
    openings := [ "BEGIN".toList ]
    hintables :=
      [ "DELETE".toList, "INSERT".toList, "SELECT".toList,
        "UPDATE".toList ] }

/- PostgreSQL. -/
def postgres : Dialect :=
  { generic with
    phrases := sharedPhrases ++
      [ "SORT BY".toList, "~".toList, "@@".toList,
        "@?".toList, "@>".toList, "<@".toList, "?&".toList,
        "?|".toList, "#-".toList, "|/".toList, "||/".toList,
        "^@".toList ]
    singles := punctuation ++ "$".toList
    joiners := [ '$' ]
    byteEscapes := [ '\x27', '\\' ]
    literals :=
      [ ⟨"n'".toList, '\x27', .plain⟩,
        ⟨"N'".toList, '\x27', .plain⟩,
        ⟨"b'".toList, '\x27', .binary⟩,
        ⟨"B'".toList, '\x27', .binary⟩,
        ⟨"e'".toList, '\x27', .bytes⟩,
        ⟨"E'".toList, '\x27', .bytes⟩,
        ⟨"x'".toList, '\x27', .hexadecimal⟩,
        ⟨"X'".toList, '\x27', .hexadecimal⟩,
        ⟨"$".toList, '$', .tagged⟩,
        ⟨"U&'".toList, '\x27', .plain⟩,
        ⟨"u&'".toList, '\x27', .plain⟩ ]
    comments :=
      [ ⟨"--".toList, .line⟩, ⟨"/*".toList, .block '*' '/'⟩,
        ⟨"\x7b#".toList, .block '#' '}'⟩ ]
    hasBinary := true
    hasHexadecimal := true
    commands :=
      [ "EXECUTE".toList, "FETCH".toList, "LOCK".toList,
        "RENAME".toList, "SHOW".toList, "CALL".toList,
        "EXPLAIN".toList, "OPTIMIZE".toList,
        "PREPARE".toList, "VACUUM".toList, "DECLARE".toList,
        "DO".toList, "EXEC".toList, "REFRESH".toList,
        "REINDEX".toList, "RESET".toList ] }

/- MySQL. -/
def mysql : Dialect :=
  { generic with
    phrases := sharedPhrases ++
      [ "/*+".toList, "SORT BY".toList, "LOCK TABLES".toList,
        "MEMBER OF".toList, "SIGNED INTEGER".toList,
        "UNLOCK TABLES".toList, "UNSIGNED INTEGER".toList,
        "@@".toList ]
    identifiers := [ ('\x60', '\x60') ]
    quotes := [ '\x27', '\x22' ]
    escapes := [ '\x22', '\x27', '\\' ]
    byteEscapes := [ '\x22', '\x27', '\\' ]
    literals :=
      [ ⟨"n'".toList, '\x27', .plain⟩,
        ⟨"N'".toList, '\x27', .plain⟩,
        ⟨"n\"".toList, '\x22', .plain⟩,
        ⟨"N\"".toList, '\x22', .plain⟩,
        ⟨"b'".toList, '\x27', .binary⟩,
        ⟨"B'".toList, '\x27', .binary⟩,
        ⟨"x'".toList, '\x27', .hexadecimal⟩,
        ⟨"X'".toList, '\x27', .hexadecimal⟩ ]
    comments :=
      [ ⟨"--".toList, .line⟩, ⟨"#".toList, .line⟩,
        ⟨"/*".toList, .block '*' '/'⟩,
        ⟨"\x7b#".toList, .block '#' '}'⟩,
        ⟨"/*+".toList, .block '*' '/'⟩ ]
    nestsComments := false
    dashesNeedBlank := true
    returnEndsLine := false
    hasBinary := true
    hasHexadecimal := true
    namesWithDigits := true
    commands :=
      [ "EXECUTE".toList, "FETCH".toList, "RENAME".toList,
        "REPLACE".toList, "CALL".toList, "OPTIMIZE".toList,
        "PREPARE".toList, "VACUUM".toList,
        "LOCK TABLES".toList, "UNLOCK TABLES".toList ]
    openings := [ "BEGIN".toList, "START".toList ] }

/- SQLite. -/
def sqlite : Dialect :=
  { generic with
    phrases := sharedPhrases ++
      [ "SORT BY".toList, "INDEXED BY".toList ]
    identifiers := [ ('\x22', '\x22'), ('[', ']'), ('\x60', '\x60') ]
    literals :=
      [ ⟨"n'".toList, '\x27', .plain⟩,
        ⟨"N'".toList, '\x27', .plain⟩,
        ⟨"x'".toList, '\x27', .hexadecimal⟩,
        ⟨"X'".toList, '\x27', .hexadecimal⟩ ]
    comments :=
      [ ⟨"--".toList, .line⟩, ⟨"/*".toList, .block '*' '/'⟩,
        ⟨"\x7b#".toList, .block '#' '}'⟩ ]
    nestsComments := false
    returnEndsLine := false
    hasHexadecimal := true
    commands :=
      [ "EXECUTE".toList, "FETCH".toList, "RENAME".toList,
        "REPLACE".toList, "SHOW".toList, "CALL".toList,
        "EXPLAIN".toList, "OPTIMIZE".toList,
        "PREPARE".toList, "VACUUM".toList ] }

/- DuckDB. -/
def duckdb : Dialect :=
  { generic with
    phrases := sharedPhrases ++
      [ "//".toList, "**".toList, "^@".toList, "@>".toList,
        "<@".toList ]
    singles := punctuation ++ "$".toList
    joiners := [ '$' ]
    parameterMarks := [ '@', '$' ]
    byteEscapes := [ '\x27', '\\' ]
    literals :=
      [ ⟨"n'".toList, '\x27', .plain⟩,
        ⟨"N'".toList, '\x27', .plain⟩,
        ⟨"e'".toList, '\x27', .bytes⟩,
        ⟨"E'".toList, '\x27', .bytes⟩,
        ⟨"$".toList, '$', .tagged⟩ ]
    comments :=
      [ ⟨"--".toList, .line⟩, ⟨"/*".toList, .block '*' '/'⟩,
        ⟨"\x7b#".toList, .block '#' '}'⟩ ]
    groupsDigits := true
    commands :=
      [ "EXECUTE".toList, "FETCH".toList, "RENAME".toList,
        "CALL".toList, "EXPLAIN".toList, "OPTIMIZE".toList,
        "PREPARE".toList, "VACUUM".toList, "RESET".toList ] }

end SqlAudit.Dialect
