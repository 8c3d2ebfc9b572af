import SqlAudit.Rule.Message

/-
  The built-in rules about queries.

  Key definitions include:
    * `SqlAudit.Catalog.Query.drafts`
-/

------------------------------------------------------------
-- Rules
------------------------------------------------------------

namespace SqlAudit.Catalog.Query

/- A query for all columns. -/
def selectStar : Draft where
  className := "SelectStarRule"
  kind := .text
  id := some (.text "query.select_star")
  title := some (.text "SELECT *")
  category := some (.text "query")
  risk := some (.text "error")
  pattern := some (.text "(select\\s+\\*)")
  message := some <| Rule.explanation
    [ "Inefficiency in moving data to the consumer:",
      "When you SELECT *, you're often retrieving more columns from the database than",
      "your application really needs to function. This causes more data to move from",
      "the database server to the client, slowing access and increasing load on your",
      "machines, as well as taking more time to travel across the network. This is",
      "especially true when someone adds new columns to underlying tables that didn't",
      "exist and weren't needed when the original consumers coded their data access.",
      "",
      "Indexing issues:",
      "Consider a scenario where you want to tune a query to a high level of performance.",
      "If you were to use *, and it returned more columns than you actually needed,",
      "the server would often have to perform more expensive methods to retrieve your",
      "data than it otherwise might. For example, you wouldn't be able to create an index",
      "which simply covered the columns in your SELECT list, and even if you did",
      "(including all columns), the next person who came around and added a column",
      "to the underlying table would cause the optimizer to ignore your optimized covering",
      "index, and you'd likely find that the performance of your query would drop",
      "substantially for no readily apparent reason.",
      "",
      "Binding problems:",
      "When you SELECT *, it's possible to retrieve two columns of the same name from two",
      "different tables. This can often crash your data consumer. Imagine a query that joins",
      "two tables, both of which contain a column called \"ID\". How would a consumer know",
      "which was which? SELECT * can also confuse views (at least in some versions of SQL Server)",
      "when underlying table structures change: the view is not rebuilt, and the data which",
      "comes back can be nonsense. And the worst part of it is that you can take care to name",
      "your columns whatever you want, but the next person who comes along might have no way of",
      "knowing that they have to worry about adding a column which will collide with your",
      "already-developed names." ]

/- A use of the null value. -/
def nullUsage : Draft where
  className := "NullUsageRule"
  kind := .text
  id := some (.text "query.null_usage")
  title := some (.text "NULL Usage")
  category := some (.text "query")
  risk := some (.text "info")
  pattern := some (.text "(null)")
  message := some <| Rule.explanation
    [ "Use NULL as a unique value:",
      "NULL is not the same as zero. A number ten greater than an unknown is still an unknown.",
      "NULL is not the same as a string of zero length.",
      "Combining any string with NULL in standard SQL returns NULL.",
      "NULL is not the same as false. Boolean expressions with AND, OR, and NOT also produce",
      "results that some people find confusing.",
      "When you declare a column as NOT NULL, it should be because it would make no sense",
      "for the row to exist without a value in that column.",
      "Use null to signify a missing value for any data type." ]

/- A table with columns that must have a value. -/
def notNullUsage : Draft where
  className := "NotNullUsageRule"
  kind := .text
  guard := some .create
  id := some (.text "query.not_null_usage")
  title := some (.text "NOT NULL Usage")
  category := some (.text "query")
  risk := some (.text "warning")
  pattern := some (.text "(not null)")
  message := some <| Rule.explanation
    [ "Use NOT NULL only if the column cannot have a missing value:",
      "When you declare a column as NOT NULL, it should be because it would make no sense",
      "for the row to exist without a value in that column.",
      "Use null to signify a missing value for any data type." ]

/- Texts put together in the query. -/
def stringConcatenation : Draft where
  className := "StringConcatenationRule"
  kind := .text
  id := some (.text "query.string_concatenation")
  title := some (.text "String Concatenation")
  category := some (.text "query")
  risk := some (.text "info")
  pattern := some (.text "\\|\\|")
  message := some <| Rule.explanation
    [ "Use COALESCE for string concatenation of nullable columns:",
      "You may need to force a column or expression to be non-null for the sake of",
      "simplifying the query logic, but you don't want that value to be stored.",
      "Use COALESCE function to construct the concatenated expression so that a",
      "null-valued column doesn't make the whole expression become null.",
      "EX: SELECT first_name || COALESCE(' ' || middle_initial || ' ', ' ') || last_name",
      "AS full_name FROM Accounts;" ]

/- A query that groups its rows. -/
def groupByUsage : Draft where
  className := "GroupByUsageRule"
  kind := .text
  id := some (.text "query.group_by_usage")
  title := some (.text "GROUP BY Usage")
  category := some (.text "query")
  risk := some (.text "info")
  pattern := some (.text "(group by)")
  message := some <| Rule.explanation
    [ "Do not reference non-grouped columns:",
      "Every column in the select-list of a query must have a single value row",
      "per row group. This is called the Single-Value Rule.",
      "Columns named in the GROUP BY clause are guaranteed to be exactly one value",
      "per group, no matter how many rows the group matches.",
      "Most DBMSs report an error if you try to run any query that tries to return",
      "a column other than those columns named in the GROUP BY clause or as",
      "arguments to aggregate functions.",
      "Every expression in the select list must be contained in either an",
      "aggregate function or the GROUP BY clause.",
      "Follow the single-value rule to avoid ambiguous query results." ]

/- Rows in random order. -/
def orderByRand : Draft where
  className := "OrderByRandRule"
  kind := .text
  id := some (.text "query.order_by_rand")
  title := some (.text "ORDER BY RAND Usage")
  category := some (.text "query")
  risk := some (.text "warning")
  pattern := some (.text "(order by rand\\()")
  message := some <| Rule.explanation
    [ "Sorting by a nondeterministic expression gives poor performance:",
      "Sorting by a random expression means the sort cannot benefit from an index.",
      "The database has to generate a random value for every row, sort the whole",
      "table by that value, and then throw away most of the result.",
      "The cost grows with the size of the table, even though you usually want",
      "only a few rows.",
      "Avoid sorting the data set. Count the rows, choose a random offset in the",
      "application, and fetch the row at that offset, or pick a random key value",
      "and select the row with the nearest key." ]

/- Matching of texts against patterns. -/
def patternMatching : Draft where
  className := "PatternMatchingRule"
  kind := .text
  id := some (.text "query.pattern_matching")
  title := some (.text "Pattern Matching Usage")
  category := some (.text "query")
  risk := some (.text "error")
  pattern := some (.text "(like\\s)|(regexp\\s)")
  message := some <| Rule.explanation
    [ "Avoid using vanilla pattern matching:",
      "The most important disadvantage of pattern-matching operators is that",
      "they have poor performance. A pattern with a leading wildcard cannot use a",
      "conventional index, so the query has to scan every row in the table.",
      "A second problem of simple pattern-matching using LIKE or regular",
      "expressions is that it can find unintended matches.",
      "It's best to use a specialized search engine technology like Apache Lucene,",
      "or the full-text search feature of your database.",
      "Another alternative is to reduce the recurring cost of search by saving",
      "the result. Consider using an inverted index." ]

/- A statement of 500 characters or more. -/
def spaghettiQuery : Draft where
  className := "SpaghettiQueryRule"
  kind := .length
  id := some (.text "query.spaghetti_query")
  title := some (.text "Spaghetti Query Alert")
  category := some (.text "query")
  risk := some (.text "info")
  leastLength := some (.integer 500)
  message := some <| Rule.explanation
    [ "Split up a complex spaghetti query into several simpler queries:",
      "SQL is a very expressive language: you can accomplish a lot in a single",
      "query or statement. But that doesn't mean it's mandatory or even a good",
      "idea to approach every task with the assumption it has to be done in one",
      "line of code. One common unintended consequence of producing all your",
      "results in one query is a Cartesian product. This happens when two of the",
      "tables in the query have no condition restricting their relationship.",
      "Without such a restriction, the join of two tables pairs each row in the",
      "first table to every row in the other table. Each such pairing becomes a",
      "row of the result set, and you end up with many more rows than you expect.",
      "It's important to consider that these queries are simply hard to write,",
      "hard to modify, and hard to debug. You should expect to get regular",
      "requests for incremental enhancements to your database applications.",
      "Managers want more complex reports and more fields in a user interface.",
      "If you design intricate, monolithic SQL queries, it's more costly and",
      "time-consuming to make enhancements to them. Your time is worth something,",
      "both to you and to your project.",
      "Split up a complex spaghetti query into several simpler queries.",
      "When you split up a query, the result may be that you have several similar",
      "queries. Consider using UNION or CTEs to combine their results." ]

/- A query with five joins or more. -/
def joinCount : Draft where
  className := "JoinCountRule"
  kind := .text
  id := some (.text "query.join_count")
  title := some (.text "Reduce Number of JOINs")
  category := some (.text "query")
  risk := some (.text "info")
  pattern := some (.text "(join)")
  leastOccurrences := some (.integer 5)
  message := some <| Rule.explanation
    [ "Reduce number of JOINs:",
      "Too many JOINs is a symptom of complex spaghetti queries. Consider splitting",
      "up the complex query into many simpler queries, and reduce the number of JOINs.",
      "Every additional join multiplies the work the optimizer has to do to choose",
      "a plan, and makes it more likely that a missing join condition quietly",
      "produces a Cartesian product." ]

/- A query that asks for distinct rows twice. -/
def distinctCount : Draft where
  className := "DistinctCountRule"
  kind := .text
  id := some (.text "query.distinct_count")
  title := some (.text "Eliminate Unnecessary DISTINCT Conditions")
  category := some (.text "query")
  risk := some (.text "info")
  pattern := some (.text "(distinct)")
  leastOccurrences := some (.integer 2)
  message := some <| Rule.explanation
    [ "Eliminate unnecessary DISTINCT conditions:",
      "Too many DISTINCT conditions is a symptom of complex spaghetti queries.",
      "Consider splitting up the complex query into many simpler queries, and",
      "reduce the number of DISTINCT conditions.",
      "It is possible that the DISTINCT condition has no effect if a primary key",
      "column is part of the result set of columns." ]

/- An insertion that does not name its columns. -/
def implicitColumns : Draft where
  className := "ImplicitColumnsRule"
  kind := .text
  id := some (.text "query.implicit_columns")
  title := some (.text "Implicit Column Usage")
  category := some (.text "query")
  risk := some (.text "info")
  pattern := some (.text "(insert into \\S+ values)")
  message := some <| Rule.explanation
    [ "Explicitly name columns:",
      "Although using wildcards and unnamed columns satisfies the goal of less",
      "typing, this habit creates several hazards.",
      "This can break application refactoring and can harm performance.",
      "Always spell out all the columns you need, instead of relying on",
      "wild-cards or implicit column lists.",
      "If a column is added, dropped or reordered, an INSERT without a column",
      "list either fails or, worse, silently writes values into the wrong columns." ]

/- A condition on groups of rows. -/
def havingUsage : Draft where
  className := "HavingUsageRule"
  kind := .text
  id := some (.text "query.having_usage")
  title := some (.text "HAVING Clause Usage")
  category := some (.text "query")
  risk := some (.text "info")
  pattern := some (.text "(having)")
  message := some <| Rule.explanation
    [ "Consider rewriting HAVING clause into WHERE clause:",
      "Rewriting the query's HAVING clause into a predicate will enable the use",
      "of indexes during query processing.",
      "EX: SELECT s.cust_id, count(s.cust_id) FROM SH.sales s GROUP BY s.cust_id",
      "HAVING s.cust_id != '1660' AND s.cust_id != '2';",
      "can be rewritten as:",
      "SELECT s.cust_id, count(cust_id) FROM SH.sales s WHERE s.cust_id != '1660'",
      "AND s.cust_id != '2' GROUP BY s.cust_id;" ]

/- A query inside a query. -/
def nestedSubquery : Draft where
  className := "NestedSubqueryRule"
  kind := .text
  id := some (.text "query.nested_subquery")
  title := some (.text "Nested sub queries")
  category := some (.text "query")
  risk := some (.text "info")
  pattern := some (.text "(select)")
  leastOccurrences := some (.integer 2)
  message := some <| Rule.explanation
    [ "Un-nest sub queries:",
      "Rewriting nested queries as joins often leads to more efficient execution",
      "and more effective optimization. In general, sub-query unnesting is always",
      "done for correlated sub-queries with, at most, one table in the FROM clause,",
      "which are used in ANY, ALL, and EXISTS predicates. An uncorrelated sub-query,",
      "or a sub-query with more than one table in the FROM clause, is flattened if",
      "it can be decided, based on the query semantics, that the sub-query returns",
      "at most one row.",
      "EX: SELECT * FROM SH.products p WHERE p.prod_id = (SELECT s.prod_id FROM SH.sales",
      "s WHERE s.cust_id = 100996 AND s.quantity_sold = 1);",
      "can be rewritten as:",
      "SELECT p.* FROM SH.products p, sales s WHERE p.prod_id = s.prod_id AND",
      "s.cust_id = 100996 AND s.quantity_sold = 1;" ]

/- Alternatives in a condition. -/
def orUsage : Draft where
  className := "OrUsageRule"
  kind := .text
  id := some (.text "query.or_usage")
  title := some (.text "OR Usage")
  category := some (.text "query")
  risk := some (.text "info")
  pattern := some (.text "( or )")
  message := some <| Rule.explanation
    [ "Consider using an IN predicate when querying an indexed column:",
      "The IN-list predicate can be exploited for indexed retrieval and also,",
      "the optimizer can sort the IN-list to match the sort sequence of the index,",
      "leading to more efficient retrieval. Note that the IN-list must contain only",
      "constants, or values that are constant during one execution of the query",
      "block, such as outer references.",
      "EX: SELECT s.* FROM SH.sales s WHERE s.prod_id = 14 OR s.prod_id = 17;",
      "can be rewritten as:",
      "SELECT s.* FROM SH.sales s WHERE s.prod_id IN (14, 17);" ]

/- A union that removes duplicates. -/
def unionUsage : Draft where
  className := "UnionUsageRule"
  kind := .text
  id := some (.text "query.union_usage")
  title := some (.text "UNION Usage")
  category := some (.text "query")
  risk := some (.text "info")
  pattern := some (.text "( union )")
  message := some <| Rule.explanation
    [ "Consider using UNION ALL if you do not care about duplicates:",
      "Unlike UNION which removes duplicates, UNION ALL allows duplicate tuples.",
      "If you do not care about duplicate tuples, then using UNION ALL would be",
      "a faster option, since it skips the sort and comparison needed to",
      "eliminate duplicates." ]

/- Distinct rows of a join. -/
def distinctJoin : Draft where
  className := "DistinctJoinRule"
  kind := .text
  id := some (.text "query.distinct_join")
  title := some (.text "DISTINCT & JOIN Usage")
  category := some (.text "query")
  risk := some (.text "info")
  pattern := some (.text "(distinct.*join)")
  message := some <| Rule.explanation
    [ "Consider using a sub-query with EXISTS instead of DISTINCT:",
      "The DISTINCT keyword removes duplicates after sorting the tuples.",
      "Instead, consider using a sub-query with the EXISTS keyword, so that you",
      "can avoid having to return an entire table.",
      "EX: SELECT DISTINCT c.country_id, c.country_name FROM SH.countries c,",
      "SH.customers e WHERE e.country_id = c.country_id;",
      "can be rewritten as:",
      "SELECT c.country_id, c.country_name FROM SH.countries c WHERE EXISTS",
      "(SELECT 'X' FROM SH.customers e WHERE e.country_id = c.country_id);" ]

/- The rules in the order in which they are run. -/
def drafts : List Draft :=
  [ selectStar, nullUsage, notNullUsage,
    stringConcatenation, groupByUsage, orderByRand,
    patternMatching, spaghettiQuery, joinCount,
    distinctCount, implicitColumns, havingUsage,
    nestedSubquery, orUsage, unionUsage, distinctJoin ]

end SqlAudit.Catalog.Query
