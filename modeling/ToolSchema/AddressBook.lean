import ToolSchema.Convert.Report
import ToolSchema.Declaration.Describe

/-!
# An address book

Two tools described by their declarations, a function that looks users up and a struct for the entries
of an address book, and their schemas.
-/

namespace ToolSchema

namespace AddressBook

/-- Documentation lines as attributes. -/
def documented (ls : List String) : List Attribute := ls.map .doc

/-- The type that a source text spells. -/
def typeOf (text : String) : TypeForm := .ofTokens (Token.ofText text)

/-- Looks a user up by an address. -/
def findUser : FnItem where
  name := "find_user"
  visibility := Token.ofText "pub"
  attributes :=
    documented [" Look up a user by email.", "", " @param email [String] Email address.",
      " @param include_deleted [Boolean] Also search deleted accounts."]
  inputs :=
    [.typed (.binding "email") (typeOf "String") [],
      .typed (.binding "include_deleted") (typeOf "Option<bool>") []]

/-- An entry of the book. -/
def contact : StructItem where
  name := "Contact"
  visibility := Token.ofText "pub"
  attributes :=
    documented [" An address book entry.", "", " @items_type phones String", " @max_items phones 3"]
  fields :=
    .named [("name", typeOf "String", documented [" Display name."]),
      ("phones", typeOf "Vec<String>", documented [" Phone numbers."])]

/-- The schemas of both tools. -/
def tools : Except ConvertError (List Tool) :=
  [findUser.target, contact.target].mapM fun t ↦ (t.convert {} ({} : FileTree).disk {}).result

end AddressBook

end ToolSchema
