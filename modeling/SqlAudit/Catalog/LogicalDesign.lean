import SqlAudit.Rule.Message

/-
  The built-in rules about logical design.

  Key definitions include:
    * `SqlAudit.Catalog.LogicalDesign.drafts`
-/

------------------------------------------------------------
-- Rules
------------------------------------------------------------

namespace SqlAudit.Catalog.LogicalDesign

/- Lists of identifiers kept in a text column. -/
def multiValuedAttribute : Draft where
  className := "MultiValuedAttributeRule"
  kind := .text
  id := some (.text "logical_design.multi_valued_attribute")
  title := some (.text "Multi-Valued Attribute")
  category := some (.text "logical_design")
  risk := some (.text "error")
  pattern := some (.text "(id\\s+varchar)|(id\\s+text)|(id\\s+regexp)")
  message := some <| Rule.explanation
    [ "Store each value in its own column and row:",
      "Storing a list of IDs as a VARCHAR/TEXT column can cause performance and data integrity",
      "problems. Querying against such a column would require using pattern-matching",
      "expressions. It is awkward and costly to join a comma-separated list to matching rows.",
      "This will make it harder to validate IDs. Think about what is the greatest number of",
      "entries this list must support? Instead of using a multi-valued attribute,",
      "consider storing it in a separate table, so that each individual value of that attribute",
      "occupies a separate row. Such an intersection table implements a many-to-many relationship",
      "between the two referenced tables. This will greatly simplify querying and validating",
      "the IDs." ]

/- A table whose foreign key refers to the table itself. -/
def recursiveDependency : Draft where
  className := "RecursiveDependencyRule"
  kind := .template
  id := some (.text "logical_design.recursive_dependency")
  title := some (.text "Recursive Dependency")
  category := some (.text "logical_design")
  risk := some (.text "error")
  template := some (.text "(references\\s+\x7btable\x7d)")
  message := some <| Rule.explanation
    [ "Avoid recursive relationships:",
      "It's common for data to have recursive relationships. Data may be organized in a",
      "treelike or hierarchical way. However, creating a foreign key constraint to enforce",
      "the relationship between two columns in the same table lends to awkward querying.",
      "Each level of the tree corresponds to another join. You will need to issue recursive",
      "queries to get all descendants or all ancestors of a node.",
      "A solution is to construct an additional closure table. It involves storing all paths",
      "through the tree, not just those with a direct parent-child relationship.",
      "You might want to compare different hierarchical data designs -- closure table,",
      "path enumeration, nested sets -- and pick one based on your application's needs." ]

/- A table that is created without a primary key. -/
def primaryKeyExists : Draft where
  className := "PrimaryKeyExistsRule"
  kind := .absent
  guard := some .create
  id := some (.text "logical_design.primary_key_exists")
  title := some (.text "Primary Key Does Not Exist")
  category := some (.text "logical_design")
  risk := some (.text "warning")
  pattern := some (.text "(primary key)")
  message := some <| Rule.explanation
    [ "Consider adding a primary key:",
      "A primary key constraint is important when you need to do the following:",
      "prevent a table from containing duplicate rows,",
      "reference individual rows in queries, and",
      "support foreign key references",
      "If you don't use primary key constraints, you create a chore for yourself:",
      "checking for duplicate rows. More often than not, you will need to define",
      "a primary key for every table. Use compound keys when they are appropriate." ]

/- A column that is just called `id`. -/
def genericPrimaryKey : Draft where
  className := "GenericPrimaryKeyRule"
  kind := .text
  guard := some .ddl
  id := some (.text "logical_design.generic_primary_key")
  title := some (.text "Generic Primary Key")
  category := some (.text "logical_design")
  risk := some (.text "error")
  pattern := some (.text "(\\s+[\\(]?id\\s+)|(,id\\s+)|(\\s+id\\s+serial)")
  message := some <| Rule.explanation
    [ "Skip using a generic primary key (id):",
      "Adding an id column to every table causes several effects that make its",
      "use seem arbitrary. You might end up creating a redundant key or allow",
      "duplicate rows if you add this column in a compound key.",
      "The name id is so generic that it holds no meaning. This is especially",
      "important when you join two tables and they have the same primary",
      "key column name." ]

/- A table that is created without a foreign key. -/
def foreignKeyExists : Draft where
  className := "ForeignKeyExistsRule"
  kind := .absent
  guard := some .create
  id := some (.text "logical_design.foreign_key_exists")
  title := some (.text "Foreign Key Does Not Exist")
  category := some (.text "logical_design")
  risk := some (.text "warning")
  pattern := some (.text "(foreign key)")
  message := some <| Rule.explanation
    [ "Consider adding a foreign key:",
      "Are you leaving out the application constraints? Even though it seems at",
      "first that skipping foreign key constraints makes your database design",
      "simpler, more flexible, or speedier, you pay for this in other ways.",
      "It becomes your responsibility to write code to ensure referential integrity",
      "manually. Use foreign key constraints to enforce referential integrity.",
      "Foreign keys have another feature you can't mimic using application code:",
      "cascading updates to multiple tables. This feature allows you to",
      "update or delete the parent row and lets the database takes care of any child",
      "rows that reference it. The way you declare the ON UPDATE or ON DELETE clauses",
      "in the foreign key constraint allow you to control the result of a cascading",
      "operation. Make your database mistake-proof with constraints." ]

/- A table of attributes, where data stands for a schema. -/
def entityAttributeValue : Draft where
  className := "EntityAttributeValueRule"
  kind := .text
  guard := some (.tableHolding "attribute".toList)
  id := some (.text "logical_design.entity_attribute_value")
  title := some (.text "Entity-Attribute-Value Pattern")
  category := some (.text "logical_design")
  risk := some (.text "warning")
  pattern := some (.text "(attribute)")
  message := some <| Rule.explanation
    [ "Dynamic schema with variable attributes:",
      "Are you trying to create a schema where you can define new attributes",
      "at runtime? This involves storing attributes as rows in an attribute table.",
      "This is referred to as the Entity-Attribute-Value or schemaless pattern.",
      "When you use this pattern, you sacrifice many advantages that a conventional",
      "database design would have given you. You can't make mandatory attributes.",
      "You can't enforce referential integrity. You might find that attributes are",
      "not being named consistently. A solution is to store all related types in one table,",
      "with distinct columns for every attribute that exists in any type",
      "(Single Table Inheritance). Use one attribute to define the subtype of a given row.",
      "Many attributes are subtype-specific, and these columns must",
      "be given a null value on any row storing an object for which the attribute",
      "does not apply; the columns with non-null values become sparse.",
      "Another solution is to create a separate table for each subtype",
      "(Concrete Table Inheritance). A third solution mimics inheritance,",
      "as though tables were object-oriented classes (Class Table Inheritance).",
      "Create a single table for the base type, containing attributes common to",
      "all subtypes. Then for each subtype, create another table, with a primary key",
      "that also serves as a foreign key to the base table.",
      "If you have many subtypes or if you must support new attributes frequently,",
      "you can add a BLOB column to store data in a format such as XML or JSON,",
      "which encodes both the attribute names and their values.",
      "This design is best when you can't limit yourself to a finite set of subtypes",
      "and when you need complete flexibility to define new attributes at any time." ]

/- Columns or tables that differ by a number at the end. -/
def metadataTribbles : Draft where
  className := "MetadataTribblesRule"
  kind := .text
  guard := some .ddl
  id := some (.text "logical_design.metadata_tribbles")
  title := some (.text "Metadata Tribbles")
  category := some (.text "logical_design")
  risk := some (.text "error")
  pattern := some (.text "[A-za-z\\-_@]+[0-9]+ ")
  message := some <| Rule.explanation
    [ "Store each value with the same meaning in a single column:",
      "Creating multiple columns in a table indicates that you are trying to store",
      "a multivalued attribute. This design makes it hard to add or remove values,",
      "to ensure the uniqueness of values, and handling growing sets of values.",
      "The best solution is to create a dependent table with one column for the",
      "multivalue attribute. Store the multiple values in multiple rows instead of",
      "multiple columns. Also, define a foreign key in the dependent table to associate",
      "the values to its parent row.",
      "",
      "Breaking down a table or column by year:",
      "You might be trying to split a single column into multiple columns,",
      "using column names based on distinct values in another attribute.",
      "Each year, you will need to add one more column or table.",
      "You are mixing metadata with data. You will now need to make sure that",
      "the primary key values are unique across all the split columns or tables.",
      "The solution is to use a feature called sharding or horizontal partitioning.",
      "(PARTITION BY HASH ( YEAR(...) ). With this feature, you can gain the",
      "benefits of splitting a large table without the drawbacks.",
      "Partitioning is not defined in the SQL standard, so each brand of database",
      "implements it in their own nonstandard way.",
      "Another remedy for metadata tribbles is to create a dependent table.",
      "Instead of one row per entity with multiple columns for each year,",
      "use multiple rows. Don't let data spawn metadata." ]

/- The rules in the order in which they are run. -/
def drafts : List Draft :=
  [ multiValuedAttribute, recursiveDependency,
    primaryKeyExists, genericPrimaryKey, foreignKeyExists,
    entityAttributeValue, metadataTribbles ]

end SqlAudit.Catalog.LogicalDesign
