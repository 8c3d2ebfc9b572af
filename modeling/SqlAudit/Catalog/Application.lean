import SqlAudit.Rule.Message

/-
  The built-in rules about application development.

  Key definitions include:
    * `SqlAudit.Catalog.Application.drafts`
-/

------------------------------------------------------------
-- Rules
------------------------------------------------------------

namespace SqlAudit.Catalog.Application

/- Passwords that are stored as they are. -/
def readablePasswords : Draft where
  className := "ReadablePasswordsRule"
  kind := .text
  id := some (.text "application.readable_passwords")
  title := some (.text "Readable Passwords")
  category := some (.text "application")
  risk := some (.text "error")
  pattern := some (.text "(password varchar)|(password text)|(password =)|(pwd varchar)|(pwd text)|(pwd =)")
  message := some <| Rule.explanation
    [ "Do not store readable passwords:",
      "It's not secure to store a password in clear text or even to pass it over the",
      "network in the clear. If an attacker can read the SQL statement that you use",
      "to insert a password, they can plainly see the password.",
      "Additionally, interpolating the user's input string into the SQL query in",
      "plain text exposes it to discovery by an attacker.",
      "If you can read passwords, so can a hacker.",
      "The solution is to encode the password using a one-way cryptographic hash",
      "function. This function transforms the input string into a new string,",
      "called the hash, that is unrecognizable.",
      "Use a salt to defeat dictionary attacks. Don't put the plain-text password",
      "into the SQL query. Instead, compute the hash with the salt in your",
      "application code, and use only the hash in the SQL query." ]

/- The rules in the order in which they are run. -/
def drafts : List Draft :=
  [ readablePasswords ]

end SqlAudit.Catalog.Application
