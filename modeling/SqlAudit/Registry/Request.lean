import SqlAudit.Registry

/-
  Requests to a registry, one after the other.

  A request registers a draft, clears the registry, or looks
  rules up.  Each request has a reply, and leaves behind the
  registry that the next one is made to.

  Key definitions include:
    * `SqlAudit.Registry.Request`
    * `SqlAudit.Registry.Reply`
    * `SqlAudit.Registry.serve`
    * `SqlAudit.Registry.after`
-/

------------------------------------------------------------
-- Requests And Replies
------------------------------------------------------------

namespace SqlAudit

namespace Registry

/- What can be asked of a registry. -/
inductive Request where
| register (d : Draft)
| clear
| all
| titles
| get (id : Value)
| byCategory (category : Value)
| select (ids categories : List Value)
  deriving Repr

/-
  What a request is answered. A refused draft and a lookup
  that fails are answered with an error.
-/
inductive Reply where
| done
| refused (e : Draft.Error)
| rules (found : List Rule)
| titles (entries : List (Value × Value))
| unknown (e : Selection.Error)
  deriving Repr

/- The reply to a lookup. -/
def Reply.ofLookup :
    Except Selection.Error (List Rule) → Reply
| .ok found => .rules found
| .error e => .unknown e

/- The request is to clear the registry. -/
def Request.isClear : Request → Bool
| .clear => true
| _ => false

end Registry

end SqlAudit

------------------------------------------------------------
-- Serving Requests
------------------------------------------------------------

namespace SqlAudit

namespace Registry

/- The identifiers of the rules with their titles. -/
def titles (registry : Registry) : List (Value × Value) :=
  registry.rules.map fun rule => (rule.id, rule.title)

/- The registry after a request, and the reply to it. -/
def serve
    (registry : Registry) :
    Request → Registry × Reply
| .register d =>
    match registry.register d with
    | .ok result => (result, .done)
    | .error e => (registry, .refused e)
| .clear => (.empty, .done)
| .all => (registry, .rules registry.rules)
| .titles => (registry, .titles registry.titles)
| .get id =>
    (registry, .ofLookup ((registry.get id).map ([·])))
| .byCategory category =>
    (registry, .ofLookup (registry.byCategory category))
| .select ids categories =>
    (registry, .ofLookup (registry.select ids categories))

/- The registry after requests one after the other. -/
def after
    (registry : Registry)
    (requests : List Request) : Registry :=
  requests.foldl (fun r q => (r.serve q).1) registry

/- The requests, each with the reply to it. -/
def exchanges
    (registry : Registry) :
    List Request → List (Request × Reply)
| [] => []
| q :: rest =>
    (q, (registry.serve q).2) ::
      exchanges (registry.serve q).1 rest

end Registry

end SqlAudit
