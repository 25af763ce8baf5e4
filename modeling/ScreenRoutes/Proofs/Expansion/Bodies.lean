import ScreenRoutes.Proofs.Token.Statements

/-!
# Bodies of generated methods

The bodies of the methods that register a screen and navigate to it, read back from their trees.
Each comes apart into the statements that it was put together from (`statements_graphTrait`,
`statements_navigateTrait`), as does the closure inside the first
(`GraphMethod.statements_closureBody`), unless a statement was left empty.
-/

namespace ScreenRoutes

open TokenTree (mark)

/-! ## Statements -/

/-- The closure that shows the screen, around the given body. -/
def closureTokens (body : Tokens) : Tokens :=
  code "move | __entry : &" ++ runtime ["BackStackEntry"] ++ mark "|" ++ braces body

def registerTokens (pattern : String) (descriptions closure : Tokens) : Tokens :=
  .ident "self" :: methodCall "composable"
    (quotedTokens pattern ++ mark "," ++
      (standard ["vec"] ++ mark "!" ++ [.group .bracket descriptions]) ++ mark "," ++
      closure ++ mark ",")

/-- The statement that calls the screen's function. -/
def callTokens (function : String) (arguments : Tokens) : Tokens :=
  .ident function :: parens arguments ++ mark ";"

def routeTokens : Tokens :=
  code "let mut __route =" ++ standard ["string", "String", "new"] ++ parens [] ++ mark ";"

def navigateTokens : Tokens :=
  .ident "self" :: methodCall "navigate" (mark "&" ++ [.ident "__route"])

@[simp] theorem plain_runtime (names : List String) : Plain (runtime names) :=
  plain_rootPath _

@[simp] theorem plain_standard (names : List String) : Plain (standard names) :=
  plain_rootPath _

@[simp] theorem plain_someTokens (ts : Tokens) : Plain (someTokens ts) := by
  simp [someTokens]

theorem isStatement_weakenTokens (ident : String) : IsStatement (weakenTokens ident) := by
  have hmark : Plain (mark "=") := by decide
  exact isStatement_semicolon (by simp [hmark]) (by simp)

theorem isStatement_regainTokens (ident : String) : IsStatement (regainTokens ident) := by
  have hmark : Plain (mark "=") := by decide
  have hfront : regainTokens ident =
      (.ident "let" :: someTokens [.ident ident] ++ mark "=" ++
        .ident ident :: methodCall "upgrade" [] ++ [.ident "else"]) ++ braces (code "return ;") ++
        mark ";" := by
    simp [regainTokens]
  rw [hfront]
  exact isStatement_braces_semicolon (by simp [hmark]) (by simp) _

theorem isStatement_callTokens (function : String) (arguments : Tokens) :
    IsStatement (callTokens function arguments) :=
  isStatement_semicolon (by simp) (by simp)

theorem isStatement_routeTokens : IsStatement routeTokens := by
  have hcode : Plain (code "let mut __route =") := by decide +kernel
  exact isStatement_semicolon (by simp [hcode]) (by simp [parens])

theorem isStatement_defaultBinding (b : DefaultBinding) : IsStatement b.tokens := by
  have hmark : Plain (mark "=") := by decide
  refine isStatement_semicolon ?_ (by simp)
  cases b.value <;> simp [hmark]

theorem isStatement_pushTokens (text : Tokens) : IsStatement (pushTokens text) :=
  isStatement_semicolon (by simp) (by simp)

theorem isStatement_push {push : Push} (h : push ≠ .nothing) : IsStatement push.tokens := by
  cases push with
  | nothing => exact absurd rfl h
  | text t => exact isStatement_pushTokens _
  | encoded ident => exact isStatement_pushTokens _
  | printed ident => exact isStatement_pushTokens _
  | encodedIfPresent ident =>
    have hif : Plain (code "if let") := by decide +kernel
    have hequal : Plain (code "= &") := by decide +kernel
    have hfront : (Push.encodedIfPresent ident).tokens =
        (code "if let" ++ someTokens [.ident "__value"] ++ code "= &" ++ [.ident ident]) ++
          braces (pushTokens (encodedTokens [.ident "__value"])) := by
      simp [Push.tokens]
    rw [hfront]
    exact isStatement_braces (by simp [hif, hequal]) (by simp) _

/-! ## Expressions -/

/-- An expression that is there is read back between its commas. -/
theorem plain_expression {e : CallExpression} (h : e ≠ .nothing) :
    Plain e.tokens ∧ e.tokens ≠ [] := by
  cases e with
  | nothing => exact absurd rfl h
  | handle ident optional => cases optional <;> simp [CallExpression.tokens, someTokens, parens]
  | extract name type optional => cases optional <;> simp [CallExpression.tokens]

theorem plain_argument (a : Argument) : Plain a.tokens ∧ a.tokens ≠ [] := by
  cases hnullable : a.nullable <;> cases hdefault : a.default <;>
    simp [Argument.tokens, hnullable, hdefault, parens]

/-! ## Bodies -/

/-- What stands between the braces of the closure. -/
def GraphMethod.closureBody (g : GraphMethod) (function : String) : Tokens :=
  (g.handles.map regainTokens).flatten ++
    callTokens function (separated (g.call.map CallExpression.tokens))

theorem GraphMethod.content_eq (g : GraphMethod) (function : String) :
    g.content function = closureTokens (g.closureBody function) := by
  simp only [content, closureBody, closureTokens, callTokens, List.flatMap_def, List.append_assoc]

/-- Inside the closure the handles are regained one by one, and then the function is called. -/
theorem GraphMethod.statements_closureBody (g : GraphMethod) (function : String) :
    statements (g.closureBody function) = g.handles.map regainTokens ++
      [callTokens function (separated (g.call.map CallExpression.tokens))] := by
  have hcall := isStatement_callTokens function (separated (g.call.map CallExpression.tokens))
  have hlast := hcall.cut [] rfl
  have hstart := hcall.not_startsSemicolon []
  rw [List.append_nil] at hlast hstart
  rw [closureBody, statements_flatten (List.forall_mem_map.2 fun h _ => isStatement_regainTokens h)
    hstart, hlast]
  rfl

namespace Expansion

variable (e : Expansion)

/-- The body that registers the screen weakens the handles one by one and then registers it. -/
theorem statements_graphTrait :
    statements e.graphTrait.body = e.graph.handles.map weakenTokens ++
      [registerTokens e.graph.pattern (separated (e.graph.arguments.map Argument.tokens))
        (closureTokens (e.graph.closureBody e.function))] := by
  have hbody : e.graphTrait.body = e.graph.handles.flatMap weakenTokens ++
      registerTokens e.graph.pattern (separated (e.graph.arguments.map Argument.tokens))
        (e.graph.content e.function) := rfl
  have hregister (pattern : String) (descriptions closure : Tokens) :
      startsSemicolon (registerTokens pattern descriptions closure) = false ∧
        statements (registerTokens pattern descriptions closure) =
          [registerTokens pattern descriptions closure] :=
    ⟨rfl, statements_of_plain (by simp [registerTokens]) (List.cons_ne_nil _ _)⟩
  rw [hbody, List.flatMap_def, e.graph.content_eq,
    statements_flatten (List.forall_mem_map.2 fun h _ => isStatement_weakenTokens h)
      (hregister _ _ _).1, (hregister _ _ _).2]

/-- The body that navigates binds the literals, starts the route, puts the pieces behind it and
navigates there. -/
theorem statements_navigateTrait (h : ∀ push ∈ e.navigate.pushes, push ≠ .nothing) :
    statements e.navigateTrait.body = e.navigate.bindings.map DefaultBinding.tokens ++
      [routeTokens] ++ e.navigate.pushes.map Push.tokens ++ [navigateTokens] := by
  have hbody : e.navigateTrait.body = e.navigate.bindings.flatMap DefaultBinding.tokens ++
      code "let mut __route =" ++ standard ["string", "String", "new"] ++ parens [] ++ mark ";" ++
      e.navigate.pushes.flatMap Push.tokens ++ navigateTokens := rfl
  have hflat : e.navigateTrait.body = (e.navigate.bindings.map DefaultBinding.tokens ++
      [routeTokens] ++ e.navigate.pushes.map Push.tokens).flatten ++ navigateTokens := by
    rw [hbody, List.flatten_append, List.flatten_append, List.flatten_singleton]
    simp only [routeTokens, List.flatMap_def, List.append_assoc]
  have hall : ∀ statement ∈ e.navigate.bindings.map DefaultBinding.tokens ++ [routeTokens] ++
      e.navigate.pushes.map Push.tokens, IsStatement statement := by
    rw [List.forall_mem_append, List.forall_mem_append, List.forall_mem_singleton,
      List.forall_mem_map, List.forall_mem_map]
    exact ⟨⟨fun b _ => isStatement_defaultBinding b, isStatement_routeTokens⟩,
      fun push hpush => isStatement_push (h push hpush)⟩
  have hstart : startsSemicolon navigateTokens = false := rfl
  have hnavigate : Plain navigateTokens := by simp [navigateTokens]
  rw [hflat, statements_flatten hall hstart, statements_of_plain hnavigate (List.cons_ne_nil _ _)]

end Expansion

end ScreenRoutes
