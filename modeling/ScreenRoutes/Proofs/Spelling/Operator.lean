import ScreenRoutes.Grammar.Operator
import ScreenRoutes.Proofs.Spelling.Pattern

/-!
# Operators

What comes behind an operand stays.
-/

namespace ScreenRoutes

open Reading Tokens

namespace Grammar

namespace Faithful

variable {g : Grammar} (hg : g.Faithful)

include hg

/-! ## Operands, ranges and casts -/

theorem operandBehindFor (fuel : Nat) (fields : Bool) (p : Precedence) (e : ExprText) (s : Progress) :
    (g.operandBehindFor fuel fields p e).Ensures s (TookBehind e s) := by
  induction fuel generalizing e s with
  | zero => exact .pure (.refl e s)
  | succ fuel ih =>
    unfold Grammar.operandBehindFor
    refine .bind_rest (.ite (fun _ => ?_) fun _ => .pure (.refl e s))
    refine .bind (hg.operators fields _ e s) fun more t hmore => .bind_rest ?_
    refine .ite (fun _ => ?_) fun _ => .pure hmore
    exact (ih more t).mono fun _ _ => hmore.trans

theorem operandBehind (fields : Bool) (p : Precedence) :
    (g.operandBehind fields p).WritesAs (·.tokens) := by
  refine fun s => .bind (hg.operand fields s) fun e t he => .bind_rest ?_
  refine .ite (fun _ => ?_) fun _ => .pure he.1
  exact (hg.operandBehindFor _ fields p e t).mono fun _ _ h => (he.behind h).1

theorem rangeFrom (fields : Bool) : (g.rangeFrom fields).Writes := by
  refine fun s => .bind (writesAs_rangeMark s) fun (mark, included) t hmark => .bind_ahead ?_
  refine .ite (fun _ => .pure hmark) fun _ => ?_
  exact .bind_took hmark (hg.operandBehind fields .range) fun _ _ h => .pure h

theorem castBehind : g.castBehind.Writes := by
  refine fun s => .bind (Writes.take 1 s) fun start t hstart => ?_
  refine .bind (hg.type false t) fun type u htype => .bind_rest ?_
  split
  · exact .throw
  · exact .pure (hstart.append htype.1)

/-! ## Operators behind an operand -/

theorem readOperatorsFor (fuel : Nat) (fields : Bool) (base : Precedence) (left : ExprText)
    (s : Progress) : (g.readOperatorsFor fuel fields base left).Ensures s (TookBehind left s) := by
  induction fuel generalizing left s with
  | zero => exact .pure (.refl left s)
  | succ fuel ih =>
    have hgoOn {more : Tokens} (form : ExprForm) {t : Progress} (h : Took s more t) :
        (g.readOperatorsFor fuel fields base ⟨left.tokens ++ more, form, left.fixed⟩).Ensures t
          (TookBehind left s) :=
      (ih _ t).mono fun _ _ => (TookBehind.of_took h id).trans
    unfold Grammar.readOperatorsFor
    refine .bind_rest (.ite (fun _ => .pure (.refl left s)) fun _ => ?_)
    split
    · refine .ite (fun _ => .throw) fun _ => ?_
      refine .bind (Writes.take _ s) fun operator t hoperator => ?_
      exact .bind_took hoperator (hg.operandBehind fields _) fun right u h => hgoOn _ h
    · split
      · refine .bind (Writes.take 1 s) fun mark t hmark => ?_
        exact .bind_took hmark (hg.operandBehind fields .assign) fun right u h => hgoOn _ h
      · exact .bind (hg.rangeFrom fields s) fun _ _ h =>
          .pure (.of_took h (absurd · Bool.false_ne_true))
      · exact .bind (hg.castBehind s) fun _ _ h => hgoOn _ h
      · exact .pure (.refl left s)

theorem readOperators (fields : Bool) (base : Precedence) (left : ExprText) (s : Progress) :
    (g.readOperators fields base left).Ensures s (TookBehind left s) :=
  .bind_rest (.ite (fun _ => .pure (.refl left s)) fun _ => hg.readOperatorsFor _ fields base left s)

theorem readExpr (fields : Bool) : (g.readExpr fields).WritesAs (·.tokens) := by
  refine fun s => .bind (hg.operand fields s) fun left t hleft => ?_
  exact (hg.operators fields .jump left t).mono fun _ _ h => (hleft.behind h).1

end Faithful

end Grammar

end ScreenRoutes
