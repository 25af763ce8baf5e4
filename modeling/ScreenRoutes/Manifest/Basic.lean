import ScreenRoutes.Declaration
import ScreenRoutes.Manifest.Reader
import ScreenRoutes.SourceFile.Members
import ScreenRoutes.Text.Decimal

/-!
# Manifests

A manifest lists the screens of an application, and options for the code generated from them. It is
written in TOML. A record is a table whose further keys do not count, or an array of its fields in
order; a date counts as a table that has none of the fields.

| here | there |
| --- | --- |
| `Manifest.read?` | the part of `Manifest::load` that reads text |
| `ManifestOptions.standard` | `Options::default` |
| `ManifestScreen.declaration` | `ScreenConfig::declaration` |
| `ManifestParam.declared` | `ParamConfig::declared` |
-/

namespace ScreenRoutes

open Text

/-- A parameter of a screen, with at most one default of each type. -/
structure ManifestParam where
  name : String
  type : String
  defaultString : Option String
  defaultInt : Option Int32
  defaultBool : Option Bool
  deriving DecidableEq, Repr

structure ManifestScreen where
  package : String
  function : String
  route : String
  file : Option String
  params : List ManifestParam
  deriving DecidableEq, Repr

/-- The options for generated code: how the names of files begin, and how the files are written. -/
structure ManifestOptions where
  fileLead : String
  source : SourceOptions

structure Manifest where
  options : ManifestOptions
  screens : List ManifestScreen

/-- The options where nothing else is asked for. -/
def ManifestOptions.standard : ManifestOptions :=
  ⟨defaultUnitPrefix, .standard⟩

def Manifest.empty : Manifest :=
  ⟨.standard, []⟩

/-! ## Declarations -/

/-- The parameter as declared; its defaults come in the order string, number, truth value. -/
def ManifestParam.declared (p : ManifestParam) : DeclaredParam where
  name := p.name
  type := TypeRef.ofText p.type
  defaults := p.defaultString.toList.map .string ++ p.defaultInt.toList.map .int ++
    p.defaultBool.toList.map .bool

def ManifestScreen.declaration (s : ManifestScreen) : Declaration where
  package := s.package
  function := s.function
  route := s.route
  file := s.file
  params := s.params.map (·.declared)

/-! ## Reading -/

namespace Toml

def Item.string? : Item → Option String
  | .string s => some s
  | _ => none

def Item.int32? : Item → Option Int32
  | .integer n => Text.int32? n
  | _ => none

def Item.boolean? : Item → Option Bool
  | .boolean b => some b
  | _ => none

/-- The items of an array, or the tables under one header. -/
def Item.list? : Item → Option (List Item)
  | .array items => some items
  | .tables all => some (all.map (.table .header))
  | _ => none

/-- The fields of a record, each where it is given. -/
def Item.fields? (names : List String) (item : Item) : Option (List (Option Item)) :=
  match item with
  | .table _ entries => some (names.map fun name => entries.lookup name)
  | .date => some (names.map fun _ => none)
  | item => item.list?.map fun items => (List.range names.length).map fun i => items[i]?

def needed {α : Type} (read : Item → Option α) (field : Option Item) : Option α :=
  field.bind read

/-- A field that stands for `value` where it is not given. -/
def withDefault {α : Type} (value : α) (read : Item → Option α) : Option Item → Option α
  | none => some value
  | some item => read item

/-- A field that need not be given. -/
def possible {α : Type} (read : Item → Option α) : Option Item → Option (Option α)
  | none => some none
  | some item => (read item).map some

def Item.records? {α : Type} (read : Item → Option α) (item : Item) : Option (List α) :=
  item.list?.bind fun items => items.mapM read

end Toml

open Toml

def ManifestParam.ofItem? (item : Item) : Option ManifestParam := do
  match ← item.fields? ["name", "type", "default_string", "default_int", "default_bool"] with
  | [name, type, string, int, bool] =>
    pure ⟨← needed Item.string? name, ← needed Item.string? type,
      ← possible Item.string? string, ← possible Item.int32? int,
      ← possible Item.boolean? bool⟩
  | _ => none

def ManifestScreen.ofItem? (item : Item) : Option ManifestScreen := do
  match ← item.fields? ["package", "function", "route", "file", "param"] with
  | [package, function, route, file, params] =>
    pure ⟨← needed Item.string? package, ← needed Item.string? function,
      ← needed Item.string? route, ← possible Item.string? file,
      ← withDefault [] (Item.records? ManifestParam.ofItem?) params⟩
  | _ => none

def ManifestOptions.ofItem? (item : Item) : Option ManifestOptions := do
  let standard := ManifestOptions.standard
  match ← item.fields?
      ["file_prefix", "routes_package", "navigation_package", "compose_package", "indent"] with
  | [lead, routes, navigation, compose, indent] =>
    pure ⟨← withDefault standard.fileLead Item.string? lead,
      ⟨← withDefault standard.source.routesPackage Item.string? routes,
        ← withDefault standard.source.navigationPackage Item.string? navigation,
        ← withDefault standard.source.composePackage Item.string? compose,
        ← withDefault standard.source.indent Item.string? indent⟩⟩
  | _ => none

/-- Reads the text of a manifest; a blank text is the empty manifest. -/
def Manifest.read? (text : String) : Option Manifest :=
  if (trim text.toList).isEmpty then some .empty
  else do
    let entries ← Toml.read? text
    let options ←
      withDefault ManifestOptions.standard ManifestOptions.ofItem? (entries.lookup "options")
    let screens ← withDefault [] (Item.records? ManifestScreen.ofItem?) (entries.lookup "screen")
    pure ⟨options, screens⟩

end ScreenRoutes
