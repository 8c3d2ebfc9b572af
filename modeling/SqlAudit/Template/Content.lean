import SqlAudit.Template.Error

/-
  What a field of a template can hold.

  A field holds a text, or a part of one that a name after a
  point asks for: its kind, or one of its methods. Such parts
  can only be shown; a kind and a method have names as parts
  of their own.

  Key definitions include:
    * `SqlAudit.Template.Content`
    * `SqlAudit.Template.Content.shown`
    * `SqlAudit.Template.Content.part`
    * `SqlAudit.Template.Content.item`
-/

------------------------------------------------------------
-- Contents
------------------------------------------------------------

namespace SqlAudit

namespace Template

/-
  A text, the kind with a name, or a method of a text. Some
  methods belong to the operations that all values have.
-/
inductive Content where
| text (s : List Char)
| kind (name : List Char)
| method (isOperation : Bool) (name owner : List Char)
  deriving Repr, DecidableEq

/- The methods of a text that a field can name. -/
def methods : List String :=
  [ "capitalize", "casefold", "center", "count", "encode",
    "endswith", "expandtabs", "find", "format",
    "format_map", "index", "isalnum", "isalpha", "isascii",
    "isdecimal", "isdigit", "isidentifier", "islower",
    "isnumeric", "isprintable", "isspace", "istitle",
    "isupper", "join", "ljust", "lower", "lstrip",
    "partition", "removeprefix", "removesuffix", "replace",
    "rfind", "rindex", "rjust", "rpartition", "rsplit",
    "rstrip", "split", "splitlines", "startswith", "strip",
    "swapcase", "title", "translate", "upper", "zfill",
    "__dir__", "__format__", "__getnewargs__",
    "__getstate__", "__reduce__", "__reduce_ex__",
    "__sizeof__" ]

/- The operations of a text that a field can name. -/
def operations : List String :=
  [ "__add__", "__contains__", "__delattr__", "__eq__",
    "__ge__", "__getattribute__", "__getitem__", "__gt__",
    "__hash__", "__init__", "__iter__", "__le__",
    "__len__", "__lt__", "__mod__", "__mul__", "__ne__",
    "__repr__", "__rmod__", "__rmul__", "__setattr__",
    "__str__" ]

namespace Content

/- The name of the kind that a content has. -/
def kindName : Content → String
| .text _ => "str"
| .kind _ => "type"
| .method false _ _ => "builtin_function_or_method"
| .method true _ _ => "method-wrapper"

/- Where a text is kept, as far as it is ever shown. -/
def address : String := "0x7f0000000000"

/- The content as it is shown. -/
def shown : Content → List Char
| .text s => s
| .kind name => "<class '".toList ++ name ++ "'>".toList
| .method false name _ =>
    "<built-in method ".toList ++ name ++
      " of str object at ".toList ++ address.toList ++ ['>']
| .method true name _ =>
    "<method-wrapper '".toList ++ name ++
      "' of str object at ".toList ++ address.toList ++ ['>']

/- The content as messages quote it. -/
def literal : Content → List Char
| .text s => Text.quoted s
| content => content.shown

/- The content as a holder of parts. -/
def holder : Content → List Char
| .kind name => "type object '".toList ++ name ++ ['\x27']
| content =>
    '\x27' :: content.kindName.toList ++ "' object".toList

end Content

end Template

end SqlAudit

------------------------------------------------------------
-- Parts And Items
------------------------------------------------------------

namespace SqlAudit

namespace Template

namespace Content

/- The part of a content with a name, if there is one. -/
def part? : Content → String → Option Content
| .text s, name =>
    if name == "__class__" then
      some (.kind "str".toList)
    else if methods.contains name then
      some (.method false name.toList s)
    else if operations.contains name then
      some (.method true name.toList s)
    else
      none
| .kind called, name =>
    match name with
    | "__class__" => some (.kind "type".toList)
    | "__name__" | "__qualname__" => some (.text called)
    | "__module__" => some (.text "builtins".toList)
    | _ => none
| .method isOperation called owner, name =>
    match name with
    | "__class__" =>
        let m := Content.method isOperation called owner
        some (.kind m.kindName.toList)
    | "__name__" => some (.text called)
    | "__qualname__" => some (.text ("str.".toList ++ called))
    | "__self__" => some (.text owner)
    | _ => none

/- The part of a content with a name. -/
def part
    (content : Content)
    (name : List Char) : Except Error Content :=
  match content.part? (String.ofList name) with
  | some part => .ok part
  | none => .error (.noSuchPart content.holder name)

/- The item of a content at an index, if that is a number. -/
def item
    (content : Content)
    (index : Option Nat) : Except Error Content :=
  match content, index with
  | .text _, none => .error .indexNotNumber
  | .text s, some n =>
      match s[n]? with
      | some c => .ok (.text [c])
      | none => .error .indexTooLarge
  | .kind name, _ =>
      .error (.notIndexed ("type '".toList ++ name ++ ['\x27']))
  | content, _ => .error (.notIndexed content.holder)

end Content

end Template

end SqlAudit
