import ScreenRoutes.FunctionItem.Reader
import ScreenRoutes.Proofs.Spelling.Item

/-!
# Functions

Nested code is written as it is taken, by induction on the levels of the grammar. Then a function is
written as it was, up to re-spellings (`FunctionItem.respells_of_read`).
-/

namespace ScreenRoutes

open Reading

namespace Grammar

theorem faithful_ofDepth (n : Nat) : (ofDepth n).Faithful := by
  induction n with
  | zero =>
    exact ⟨fun _ _ => .throw, fun _ _ _ => .throw, fun _ => .throw, fun _ _ => .throw,
      fun _ _ => .throw, fun _ _ _ _ => .throw, fun _ => .throw, .throw, .throw⟩
  | succ n ih =>
    exact ⟨ih.readType, ih.readBound, ih.readPattern, ih.readExpr, ih.readOperand, ih.readOperators,
      ih.readStatement, ih.readStatements, ih.readItem⟩

theorem Faithful.functionBehind {g : Grammar} (hg : g.Faithful) :
    g.functionBehind.WritesAs (·.tokens) := by
  have hinside : (inOrder [g.innerAttributes, g.statements]).Writes :=
    .inOrder ⟨hg.innerAttributes, hg.statements⟩
  refine fun s => .bind (hg.attributeTokens s) fun attributes t hattributes => ?_
  refine .bind_writes hattributes writes_visibility fun visible u hvisible => ?_
  refine .bind_took hvisible (hg.signature false) fun signature v hsignature => ?_
  exact .bind_took hsignature (.inside .brace hinside) fun _ _ h => .pure h

end Grammar

/-- A function that is read is written as the trees it is read from, up to re-spellings. -/
theorem FunctionItem.respells_of_read {item : Tokens} {f : FunctionItem}
    (h : FunctionItem.read item = .ok f) : Respells [] item f.tokens :=
  (Grammar.faithful_ofDepth _).functionBehind.respells_of_whole h

end ScreenRoutes
