import SchemaCheck.Json.Printer
import SchemaCheck.Files.Name

/-! A schema to start from, and a document that conforms to it. -/
namespace SchemaCheck.Sample

def count (n : Nat) : Json := .number (.ofInt n)

def words (names : List String) : Json := .array (names.map .string)

def addressSchema : Json :=
  .object [
    ("type", .string "object"),
    ("required", words ["city", "zip"]),
    ("additionalProperties", .bool false),
    ("properties", .object [
      ("city", .object [("type", .string "string")]),
      ("zip", .object [
        ("type", .string "string"), ("pattern", .string "^\\d\x7b5\x7d$")])])]

def schema : Json :=
  .object [
    ("type", .string "object"),
    ("required", words ["name", "age", "email", "roles"]),
    ("additionalProperties", .bool false),
    ("properties", .object [
      ("name", .object [("type", .string "string"), ("minLength", count 2)]),
      ("age", .object [("type", .string "integer"), ("minimum", count 18)]),
      ("email", .object [("type", .string "string"), ("format", .string "email")]),
      ("roles", .object [
        ("type", .string "array"),
        ("minItems", count 1),
        ("items", .object [
          ("type", .string "string"), ("enum", words ["admin", "editor", "viewer"])])]),
      ("address", addressSchema)])]

def document : Json :=
  .object [
    ("name", .string "Ada Lovelace"),
    ("age", count 28),
    ("email", .string "ada@example.com"),
    ("roles", words ["admin"]),
    ("address", .object [("city", .string "London"), ("zip", .string "12345")])]

/-- Both in one object. -/
def bundle : Json := .object [("schema", schema), ("document", document)]

/-- The files that hold them. -/
def files : List (String × Json) := [("schema.json", schema), ("document.json", document)]

end SchemaCheck.Sample
