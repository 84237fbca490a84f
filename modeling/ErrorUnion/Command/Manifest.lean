import ErrorUnion.Json.Bytes
import ErrorUnion.Options

/- Manifests: lists of models to generate from, each with its output and options. -/
namespace ErrorUnion
open Json Text

structure ManifestEntry where
  model : String
  out : String
  override : Override
deriving DecidableEq

structure Manifest where
  schemaVersion : String
  entries : List ManifestEntry
deriving DecidableEq

def Manifest.currentVersion : String := "errgen.manifest@0.1.0"

def ManifestEntry.schema : Schema :=
  .record "ManifestEntry" true
    [("model", .required, .text), ("out", .required, .text),
     ("options", .lenient, Override.schema)]

def ManifestEntry.ofVal : ManifestEntry.schema.Val → ManifestEntry
  | (model, out, override, ()) => { model, out, override := .ofVal override }

def Manifest.schema : Schema :=
  .record "Manifest" true
    [("schema_version", .required, .text), ("entries", .required, .list ManifestEntry.schema)]

def Manifest.ofVal : Manifest.schema.Val → Manifest
  | (schemaVersion, entries, ()) => { schemaVersion, entries := entries.map .ofVal }

def Manifest.parse (bytes : ByteArray) : Except Fault Manifest :=
  (Manifest.schema.parse (.ofBytes bytes)).map .ofVal

def Manifest.isCurrent (m : Manifest) : Bool := trim m.schemaVersion = Manifest.currentVersion

end ErrorUnion
