import Rulebook.Validation.Metaschema.Shorthand

/-!
The schemas of schemas of version 2019-09, one for each group of keywords.
-/

namespace Rulebook
namespace Metaschema

namespace Y2019

def anySchema : Json := .object [("$recursiveRef", .string "#")]

/-- Schemas of the version, which all groups of keywords together describe. -/
def root : Json :=
  .object [
    ("$schema", .string Draft.y2019.identifier),
    ("$id", .string Draft.y2019.identifier),
    ("$recursiveAnchor", .bool true),
    ("title", .string "Core and Validation specifications meta-schema"),
    ("allOf", .array [
      refTo "meta/core",
      refTo "meta/applicator",
      refTo "meta/validation",
      refTo "meta/meta-data",
      refTo "meta/format",
      refTo "meta/content"]),
    ("type", texts ["object", "boolean"]),
    ("properties", .object [
      ("definitions", .object [
        ("type", .string "object"),
        ("additionalProperties", anySchema),
        ("default", .object [])]),
      ("dependencies", .object [
        ("type", .string "object"),
        ("additionalProperties", .object [
          ("anyOf", .array [anySchema, refTo "meta/validation#/$defs/stringArray"])])])])]

def core : Json :=
  .object [
    ("$schema", .string Draft.y2019.identifier),
    ("$id", .string (Draft.y2019.directory ++ "meta/core")),
    ("$recursiveAnchor", .bool true),
    ("title", .string "Core vocabulary meta-schema"),
    ("type", texts ["object", "boolean"]),
    ("properties", .object [
      ("$id", .object [
        ("type", .string "string"),
        ("format", .string "uri-reference"),
        ("$comment", .string "Non-empty fragments not allowed."),
        ("pattern", .string "^[^#]*#?$")]),
      ("$schema", .object [("type", .string "string"), ("format", .string "uri")]),
      ("$anchor", .object [
        ("type", .string "string"),
        ("pattern", .string "^[A-Za-z][-A-Za-z0-9.:_]*$")]),
      ("$ref", .object [("type", .string "string"), ("format", .string "uri-reference")]),
      ("$recursiveRef", .object [
        ("type", .string "string"),
        ("format", .string "uri-reference")]),
      ("$recursiveAnchor", .object [("type", .string "boolean"), ("default", .bool false)]),
      ("$vocabulary", .object [
        ("type", .string "object"),
        ("propertyNames", .object [("type", .string "string"), ("format", .string "uri")]),
        ("additionalProperties", typed "boolean")]),
      ("$comment", typed "string"),
      ("$defs", .object [
        ("type", .string "object"),
        ("additionalProperties", anySchema),
        ("default", .object [])])])]

def applicator : Json :=
  .object [
    ("$schema", .string Draft.y2019.identifier),
    ("$id", .string (Draft.y2019.directory ++ "meta/applicator")),
    ("$recursiveAnchor", .bool true),
    ("title", .string "Applicator vocabulary meta-schema"),
    ("type", texts ["object", "boolean"]),
    ("properties", .object [
      ("additionalItems", anySchema),
      ("unevaluatedItems", anySchema),
      ("items", .object [("anyOf", .array [anySchema, refTo "#/$defs/schemaArray"])]),
      ("contains", anySchema),
      ("additionalProperties", anySchema),
      ("unevaluatedProperties", anySchema),
      ("properties", .object [
        ("type", .string "object"),
        ("additionalProperties", anySchema),
        ("default", .object [])]),
      ("patternProperties", .object [
        ("type", .string "object"),
        ("additionalProperties", anySchema),
        ("propertyNames", .object [("format", .string "regex")]),
        ("default", .object [])]),
      ("dependentSchemas", .object [
        ("type", .string "object"),
        ("additionalProperties", anySchema)]),
      ("propertyNames", anySchema),
      ("if", anySchema),
      ("then", anySchema),
      ("else", anySchema),
      ("allOf", refTo "#/$defs/schemaArray"),
      ("anyOf", refTo "#/$defs/schemaArray"),
      ("oneOf", refTo "#/$defs/schemaArray"),
      ("not", anySchema)]),
    ("$defs", .object [
      ("schemaArray", .object [
        ("type", .string "array"),
        ("minItems", .ofCount 1),
        ("items", anySchema)])])]

def validation : Json :=
  .object [
    ("$schema", .string Draft.y2019.identifier),
    ("$id", .string (Draft.y2019.directory ++ "meta/validation")),
    ("$recursiveAnchor", .bool true),
    ("title", .string "Validation vocabulary meta-schema"),
    ("type", texts ["object", "boolean"]),
    ("properties", .object [
      ("multipleOf", .object [("type", .string "number"), ("exclusiveMinimum", .ofCount 0)]),
      ("maximum", typed "number"),
      ("exclusiveMaximum", typed "number"),
      ("minimum", typed "number"),
      ("exclusiveMinimum", typed "number"),
      ("maxLength", refTo "#/$defs/nonNegativeInteger"),
      ("minLength", refTo "#/$defs/nonNegativeIntegerDefault0"),
      ("pattern", .object [("type", .string "string"), ("format", .string "regex")]),
      ("maxItems", refTo "#/$defs/nonNegativeInteger"),
      ("minItems", refTo "#/$defs/nonNegativeIntegerDefault0"),
      ("uniqueItems", .object [("type", .string "boolean"), ("default", .bool false)]),
      ("maxContains", refTo "#/$defs/nonNegativeInteger"),
      ("minContains", .object [
        ("$ref", .string "#/$defs/nonNegativeInteger"),
        ("default", .ofCount 1)]),
      ("maxProperties", refTo "#/$defs/nonNegativeInteger"),
      ("minProperties", refTo "#/$defs/nonNegativeIntegerDefault0"),
      ("required", refTo "#/$defs/stringArray"),
      ("dependentRequired", .object [
        ("type", .string "object"),
        ("additionalProperties", refTo "#/$defs/stringArray")]),
      ("const", .bool true),
      ("enum", .object [("type", .string "array"), ("items", .bool true)]),
      ("type", .object [
        ("anyOf", .array [
          refTo "#/$defs/simpleTypes",
          .object [
            ("type", .string "array"),
            ("items", refTo "#/$defs/simpleTypes"),
            ("minItems", .ofCount 1),
            ("uniqueItems", .bool true)]])])]),
    ("$defs", .object [
      ("nonNegativeInteger", .object [("type", .string "integer"), ("minimum", .ofCount 0)]),
      ("nonNegativeIntegerDefault0", .object [
        ("$ref", .string "#/$defs/nonNegativeInteger"),
        ("default", .ofCount 0)]),
      ("simpleTypes", .object [
        ("enum", texts ["array", "boolean", "integer", "null", "number", "object", "string"])]),
      ("stringArray", .object [
        ("type", .string "array"),
        ("items", typed "string"),
        ("uniqueItems", .bool true),
        ("default", .array [])])])]

def metaData : Json :=
  .object [
    ("$schema", .string Draft.y2019.identifier),
    ("$id", .string (Draft.y2019.directory ++ "meta/meta-data")),
    ("$recursiveAnchor", .bool true),
    ("title", .string "Meta-data vocabulary meta-schema"),
    ("type", texts ["object", "boolean"]),
    ("properties", .object [
      ("title", typed "string"),
      ("description", typed "string"),
      ("default", .bool true),
      ("deprecated", .object [("type", .string "boolean"), ("default", .bool false)]),
      ("readOnly", .object [("type", .string "boolean"), ("default", .bool false)]),
      ("writeOnly", .object [("type", .string "boolean"), ("default", .bool false)]),
      ("examples", .object [("type", .string "array"), ("items", .bool true)])])]

def format : Json :=
  .object [
    ("$schema", .string Draft.y2019.identifier),
    ("$id", .string (Draft.y2019.directory ++ "meta/format")),
    ("$recursiveAnchor", .bool true),
    ("title", .string "Format vocabulary meta-schema"),
    ("type", texts ["object", "boolean"]),
    ("properties", .object [("format", typed "string")])]

def content : Json :=
  .object [
    ("$schema", .string Draft.y2019.identifier),
    ("$id", .string (Draft.y2019.directory ++ "meta/content")),
    ("$recursiveAnchor", .bool true),
    ("title", .string "Content vocabulary meta-schema"),
    ("type", texts ["object", "boolean"]),
    ("properties", .object [
      ("contentMediaType", typed "string"),
      ("contentEncoding", typed "string"),
      ("contentSchema", anySchema)])]

def documents : List Json :=
  [root, core, applicator, validation, metaData, format, content]

end Y2019

end Metaschema
end Rulebook
