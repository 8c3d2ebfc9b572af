import SqlAudit.Rule.Message

/-
  The built-in rules about physical design.

  Key definitions include:
    * `SqlAudit.Catalog.PhysicalDesign.drafts`
-/

------------------------------------------------------------
-- Rules
------------------------------------------------------------

namespace SqlAudit.Catalog.PhysicalDesign

/- Binary fractions where exact numbers are meant. -/
def impreciseDataType : Draft where
  className := "ImpreciseDataTypeRule"
  kind := .text
  id := some (.text "physical_design.imprecise_data_type")
  title := some (.text "Imprecise Data Type")
  category := some (.text "physical_design")
  risk := some (.text "error")
  pattern := some (.text "(float)|(real)|(double precision)|(0\\.000[0-9]*)")
  message := some <| Rule.explanation
    [ "Use precise data types:",
      "Virtually any use of FLOAT, REAL, or DOUBLE PRECISION data types is suspect.",
      "Most applications that use floating-point numbers don't require the range of",
      "values supported by IEEE 754 formats. The cumulative impact of inexact",
      "floating-point numbers is severe when calculating aggregates.",
      "Instead of FLOAT or its siblings, use the NUMERIC or DECIMAL SQL data types",
      "for fixed-precision fractional numbers. These data types store numeric values",
      "exactly, up to the precision you specify in the column definition.",
      "Do not use FLOAT if you can avoid it." ]

/- A list of allowed values in the table definition. -/
def valuesInDefinition : Draft where
  className := "ValuesInDefinitionRule"
  kind := .text
  guard := some .ddl
  id := some (.text "physical_design.values_in_definition")
  title := some (.text "Values In Definition")
  category := some (.text "physical_design")
  risk := some (.text "warning")
  pattern := some (.text "(enum)|(in \\()")
  message := some <| Rule.explanation
    [ "Don't specify values in column definition:",
      "With enum, you declare the values as strings,",
      "but internally the column is stored as the ordinal number of the string",
      "in the enumerated list. The storage is therefore compact, but when you",
      "sort a query by this column, the result is ordered by the ordinal value,",
      "not alphabetically by the string value. You may not expect this behavior.",
      "There's no syntax to add or remove a value from an ENUM or check constraint;",
      "you can only redefine the column with a new set of values.",
      "Moreover, if you make a value obsolete, you could upset historical data.",
      "As a matter of policy, changing metadata (that is, changing the definition",
      "of tables and columns) should be infrequent and with attention to testing and",
      "quality assurance. There's a better solution to restrict values in a column:",
      "create a lookup table with one row for each value you allow.",
      "Then declare a foreign key constraint on the old table referencing",
      "the new table.",
      "Use metadata when validating against a fixed set of values.",
      "Use data when validating against a fluid set of values." ]

/- Files that are kept outside the database. -/
def externalFiles : Draft where
  className := "ExternalFilesRule"
  kind := .text
  id := some (.text "physical_design.external_files")
  title := some (.text "Files Are Not SQL Data Types")
  category := some (.text "physical_design")
  risk := some (.text "warning")
  pattern := some (.text "(path varchar)|(unlink\\s?\\()")
  message := some <| Rule.explanation
    [ "Resources outside the database are not managed by the database:",
      "It's common for programmers to be unequivocal that we should always",
      "store files external to the database.",
      "Files don't obey DELETE, transaction isolation, rollback, or work well with",
      "database backup tools. They do not obey SQL access privileges and are not SQL",
      "data types.",
      "Resources outside the database are not managed by the database.",
      "You should consider storing blobs inside the database instead of in",
      "external files. You can save the contents of a BLOB column to a file." ]

/- A table with three indexes or more. -/
def indexCount : Draft where
  className := "IndexCountRule"
  kind := .text
  guard := some .create
  id := some (.text "physical_design.index_count")
  title := some (.text "Too Many Indexes")
  category := some (.text "physical_design")
  risk := some (.text "warning")
  pattern := some (.text "(index)")
  leastOccurrences := some (.integer 3)
  message := some <| Rule.explanation
    [ "Don't create too many indexes:",
      "You benefit from an index only if you run queries that use that index.",
      "There's no benefit to creating indexes that you don't use.",
      "If you cover a database table with indexes, you incur a lot of overhead",
      "with no assurance of payoff.",
      "Consider dropping unnecessary indexes.",
      "If an index provides all the columns we need, then we don't need to read",
      "rows of data from the table at all. Consider using such covering indexes.",
      "Know your data, know your queries, and maintain the right set of indexes." ]

/- An index, whose columns have an order. -/
def indexAttributeOrder : Draft where
  className := "IndexAttributeOrderRule"
  kind := .text
  id := some (.text "physical_design.index_attribute_order")
  title := some (.text "Index Attribute Order")
  category := some (.text "physical_design")
  risk := some (.text "info")
  pattern := some (.text "(create index)")
  message := some <| Rule.explanation
    [ "Align index attributes with query attributes:",
      "If you create a compound index for the columns, make sure that the query",
      "attributes are in the same order as the index attributes, so that the DBMS",
      "can use the index while processing the query.",
      "If the query and index attribute orders are not aligned, then the DBMS might",
      "be unable to use the index during query processing.",
      "EX: CREATE INDEX TelephoneBook ON Accounts(last_name, first_name);",
      "SELECT * FROM Accounts ORDER BY first_name, last_name;" ]

/- The rules in the order in which they are run. -/
def drafts : List Draft :=
  [ impreciseDataType, valuesInDefinition, externalFiles,
    indexCount, indexAttributeOrder ]

end SqlAudit.Catalog.PhysicalDesign
