import ErrorUnion.Generation

/- Three services whose generated code can be run: a plain one, one classified by fault side, and
   one whose names overlap with those of the language and its library. -/
namespace ErrorUnion.Sample

structure Service where
  name : String
  model : ValidModel
  options : Options

def member (name : String) (target : Target) : Member := ⟨name, target, none⟩

def shape (name : String) (fault : Option FaultSide) (members : List Member) : Structure :=
  ⟨name, fault, none, none, none, members⟩

def greetingModel : Model where
  schemaVersion := Model.currentVersion
  namespaceName := "error"
  operations :=
    [⟨"Greeting", ["InvalidGreeting", "ComplexError", "FooException", "Deprecated"], none⟩]
  structures :=
    [{ shape "InvalidGreeting" (some .client) [member "message" .string] with
        retryable := some ⟨false⟩
        documentation := some "The greeting was not understood." },
     shape "FooException" (some .server) [member "message" .string],
     shape "ComplexError" (some .server) [member "abc" .string, member "other" .integer],
     { shape "Deprecated" (some .server) [] with
        deprecated := some ⟨some "no longer returned", none⟩ }]

def weatherModel : Model where
  schemaVersion := Model.currentVersion
  namespaceName := "example.weather"
  operations :=
    [⟨"GetForecast", ["ThrottledException", "ServiceUnavailable", "NoSuchCity", "LegacyFault"],
        some "Fetches the forecast for one city."⟩,
     ⟨"ListCities", [], none⟩]
  structures :=
    [{ shape "ThrottledException" (some .client) [member "Message" .string] with
        retryable := some ⟨true⟩ },
     { shape "ServiceUnavailable" (some .server)
        [member "message" .string, member "retryAfterSeconds" .long] with
        retryable := some ⟨false⟩ },
     shape "NoSuchCity" (some .client)
      [member "message" .string, ⟨"type", .string, some "Kind of lookup that failed."⟩,
       member "fuzzy" .boolean, member "confidence" .double],
     { shape "LegacyFault" (some .server) [] with
        retryable := some ⟨false⟩
        deprecated := some ⟨some "use ServiceUnavailable", some "2.0"⟩ },
     shape "Coordinates" none [member "lat" .double, member "lon" .double]]

def edgeModel : Model where
  schemaVersion := Model.currentVersion
  namespaceName := "example.edge"
  operations :=
    [⟨"Describe", ["BadInput", "Type", "Crate", "Default"],
        some "Names that overlap the generated surface.\n\n```\nnot_rust(\n```"⟩]
  structures :=
    [shape "BadInput" (some .client)
      [member "message" .string, member "default" .string, member "clone" .string,
       member "source" .string, member "fmt" .string],
     { shape "Type" (some .server) [] with retryable := some ⟨false⟩ },
     shape "Crate" (some .client) [member "message" .string],
     shape "Default" (some .client) [],
     { shape "Option" none [member "value" .long] with
        documentation := some "Shadows the prelude type.\n\n    indented_code(" }]

def greeting : Service :=
  ⟨"greeting", ⟨greetingModel, none, by decide +kernel⟩, .default⟩

def weather : Service :=
  ⟨"weather", ⟨weatherModel, none, by decide +kernel⟩,
    { Options.default with retryPolicy := .faultSide }⟩

def edge : Service := ⟨"edge", ⟨edgeModel, none, by decide +kernel⟩, .default⟩

def services : List Service := [greeting, weather, edge]

end ErrorUnion.Sample
