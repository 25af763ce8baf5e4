import ScreenRoutes.Expansion.Basic

/-!
# The code of expansions

An expansion as token trees. Everything outside the annotated function is named by its path from the
root, so nothing that the function's surroundings declare can take its place.

| here | there |
| --- | --- |
| `valueTokens` | `literal` |
| `Expansion.graphTrait` | `registration` |
| `Expansion.navigateTrait` | `trigger` |
| `NavigateFormal.tokens` | `trigger_type` |
| `Expansion.routeTrait` | `route_constant` |
| `Expansion.tokens` | `render_unit` |
-/

namespace ScreenRoutes

open Text
open TokenTree (mark rootPath)

/-! ## Pieces of code -/

/-- Words and marks set apart by blanks, as trees. -/
def code (text : String) : Tokens :=
  (text.toList.splitOn ' ').flatMap fun word =>
    if word.head?.any isIdentifierStart || word.head? == some '_' then
      [.ident (String.ofList word)]
    else mark (String.ofList word)

def parens (ts : Tokens) : Tokens :=
  [.group .paren ts]

def braces (ts : Tokens) : Tokens :=
  [.group .brace ts]

/-- Trees one after the other, with commas between them. -/
def separated (items : List Tokens) : Tokens :=
  (items.intersperse (mark ",")).flatten

def quotedTokens (s : String) : Tokens :=
  [.string s]

/-- A call of a method: `.name(arguments)`. -/
def methodCall (name : String) (arguments : Tokens) : Tokens :=
  mark "." ++ .ident name :: parens arguments

/-- Something that the runtime library declares. -/
def runtime (names : List String) : Tokens :=
  rootPath ("navgen" :: names)

/-- Something that the standard library declares. -/
def standard (names : List String) : Tokens :=
  rootPath ("std" :: names)

/-- A value that is present. -/
def someTokens (ts : Tokens) : Tokens :=
  standard ["option", "Option", "Some"] ++ parens ts

def valueTokens : Value → Tokens
  | .string s => quotedTokens s
  | .int n =>
    let magnitude : TokenTree := .literal (toString n.toInt.natAbs ++ "i32")
    if n < 0 then mark "-" ++ [magnitude] else [magnitude]
  | .bool b => [.ident (boolText b)]

def attributeTokens (inside : Tokens) : Tokens :=
  mark "#" ++ [.group .bracket inside]

/-- A trait with one method and its implementation. -/
structure TraitCode where
  doc : String
  visibility : Tokens
  name : String
  target : String
  signature : Tokens
  body : Tokens

def TraitCode.tokens (c : TraitCode) : Tokens :=
  attributeTokens (code "doc =" ++ quotedTokens c.doc) ++
    attributeTokens (code "allow" ++ parens (code "non_camel_case_types , non_snake_case")) ++
    c.visibility ++ [.ident "trait", .ident c.name] ++ braces (c.signature ++ mark ";") ++
    attributeTokens (code "allow" ++ parens (code "non_snake_case")) ++
    [.ident "impl", .ident c.name, .ident "for"] ++ runtime [c.target] ++
    braces (c.signature ++ braces c.body)

def signature (name : String) (self : Tokens) (formals : List Tokens) (result : Tokens) : Tokens :=
  [.ident "fn", .ident name] ++ parens (self ++ formals.flatMap (mark "," ++ ·)) ++
    mark "->" ++ result

/-! ## Registration -/

def handleFormal (ident : String) : Tokens :=
  .ident ident :: mark ":" ++ runtime ["NavController"]

/-- The statement that weakens a handle. -/
def weakenTokens (ident : String) : Tokens :=
  [.ident "let", .ident ident] ++ mark "=" ++ runtime ["NavController", "downgrade"] ++
    parens (mark "&" ++ [.ident ident]) ++ mark ";"

/-- The statement that regains a handle, or gives up showing the screen. -/
def regainTokens (ident : String) : Tokens :=
  .ident "let" :: someTokens [.ident ident] ++ mark "=" ++ .ident ident :: methodCall "upgrade" [] ++
    .ident "else" :: braces (code "return ;") ++ mark ";"

def Argument.tokens (a : Argument) : Tokens :=
  runtime ["NavArgument", "new"] ++
    parens (quotedTokens a.name ++ mark "," ++ runtime ["NavType", a.type.constantName]) ++
    (if a.nullable then methodCall "nullable" [.ident "true"] else []) ++
    a.default.toList.flatMap fun v => methodCall "default_value" (valueTokens v)

def getterName : ArgType → String
  | .string => "get_string"
  | .int => "get_int"
  | .bool => "get_bool"

def CallExpression.tokens : CallExpression → Tokens
  | .nothing => []
  | .handle ident optional =>
    let copy := standard ["clone", "Clone", "clone"] ++ parens (mark "&" ++ [.ident ident])
    if optional then someTokens copy else copy
  | .extract name type optional =>
    .ident "__entry" :: methodCall "arguments" [] ++
      methodCall (getterName type) (quotedTokens name) ++
      if optional then []
      else methodCall "expect" (quotedTokens ("navgen: missing argument `" ++ name ++ "`"))

/-- The closure that shows the screen. -/
def GraphMethod.content (g : GraphMethod) (function : String) : Tokens :=
  code "move | __entry : &" ++ runtime ["BackStackEntry"] ++ mark "|" ++
    braces (g.handles.flatMap regainTokens ++ .ident function ::
      parens (separated (g.call.map CallExpression.tokens)) ++ mark ";")

def Expansion.graphTrait (e : Expansion) : TraitCode where
  doc := "Registers the `" ++ e.graph.pattern ++ "` destination showing `" ++ e.function ++ "`."
  visibility := e.visibility
  name := e.unit ++ "Graph"
  target := "NavGraphBuilder"
  signature := signature e.method (code "& mut self") (e.graph.handles.map handleFormal)
    (code "& mut Self")
  body := e.graph.handles.flatMap weakenTokens ++ .ident "self" ::
    methodCall "composable"
      (quotedTokens e.graph.pattern ++ mark "," ++
        (standard ["vec"] ++ mark "!" ++
          [.group .bracket (separated (e.graph.arguments.map Argument.tokens))]) ++ mark "," ++
        e.graph.content e.function ++ mark ",")

/-! ## Navigation -/

def NavigateFormal.tokens (f : NavigateFormal) : Tokens :=
  .ident f.ident :: mark ":" ++
    if f.optional then
      standard ["option", "Option"] ++ mark "<" ++ f.type.tokens ++ mark ">"
    else f.type.tokens

/-- The statement that puts a default value in the place of an absent argument. -/
def DefaultBinding.tokens (b : DefaultBinding) : Tokens :=
  [.ident "let", .ident b.ident] ++ mark "=" ++ .ident b.ident ::
    (match b.value with
      | .string s =>
        methodCall "unwrap_or_else"
          (mark "||" ++ standard ["string", "String", "from"] ++ parens (quotedTokens s))
      | v => methodCall "unwrap_or" (valueTokens v)) ++ mark ";"

/-- The statement that puts text behind the route. -/
def pushTokens (text : Tokens) : Tokens :=
  .ident "__route" :: methodCall "push_str" text ++ mark ";"

/-- A reference to the percent-encoded text of a reference. -/
def encodedTokens (reference : Tokens) : Tokens :=
  mark "&" ++ runtime ["encode"] ++ parens reference

def Push.tokens : Push → Tokens
  | .nothing => []
  | .text s => pushTokens (quotedTokens s)
  | .encoded ident => pushTokens (encodedTokens (mark "&" ++ [.ident ident]))
  | .encodedIfPresent ident =>
    code "if let" ++ someTokens [.ident "__value"] ++ code "= &" ++ .ident ident ::
      braces (pushTokens (encodedTokens [.ident "__value"]))
  | .printed ident =>
    pushTokens (mark "&" ++ standard ["string", "ToString", "to_string"] ++
      parens (mark "&" ++ [.ident ident]))

/-- What the documentation adds where an argument may be sent as an empty text. -/
def emptyNote : String :=
  "\n\nAn empty string for an optional argument is sent as `key=` and arrives as `None`."

def Expansion.navigateTrait (e : Expansion) : TraitCode where
  doc := "Navigates to the `" ++ e.route ++ "` destination." ++
    if e.navigate.mayBeEmpty then emptyNote else ""
  visibility := e.visibility
  name := e.unit ++ "Navigate"
  target := "NavController"
  signature := signature e.method (code "& self") (e.navigate.formals.map NavigateFormal.tokens)
    (standard ["result", "Result"] ++ mark "<" ++ parens [] ++ mark "," ++
      runtime ["NavigationError"] ++ mark ">")
  body := e.navigate.bindings.flatMap DefaultBinding.tokens ++
    code "let mut __route =" ++ standard ["string", "String", "new"] ++ parens [] ++ mark ";" ++
    e.navigate.pushes.flatMap Push.tokens ++
    .ident "self" :: methodCall "navigate" (mark "&" ++ [.ident "__route"])

/-! ## The route's pattern -/

def Expansion.routeTrait (e : Expansion) : TraitCode where
  doc := "Route template `" ++ e.pattern ++ "`."
  visibility := e.visibility
  name := e.unit ++ "Route"
  target := "NavGenRoutes"
  signature := signature e.method (code "& self") [] (code "& ' static str")
  body := quotedTokens e.pattern

def Expansion.tokens (e : Expansion) : Tokens :=
  e.graphTrait.tokens ++ e.navigateTrait.tokens ++ e.routeTrait.tokens

end ScreenRoutes
