import ScreenRoutes.Token.Basic

/-!
# Faults of token trees

Why trees are not the code that was looked for. A fault for want of something tells whether it was
found behind the last tree of a group or of the whole.
-/

namespace ScreenRoutes

/-- Why trees could not be read. -/
inductive TokenFault where
  | missing (what : String)
  | expected (what : String) (atEnd : Bool)
  | keyword (word : String)
  | leftover (inside : Option Delimiter)
  | unended
  | chainedComparison
  | continuedCast (how : String)
  | reservedGenerics
  | nestedAttribute
  | secondReceiver
  | lateReceiver
  | onlyLifetimes
  | noTrait
  | misplacedCapture
  | misplacedConst (bracketed : Bool)
  | relaxedBinder
  | labelledBreak
  | rangeAttribute
  | openRangeInSlice
  | suffixedIndex
  | hugeIndex
  | tooDeep
  deriving DecidableEq, Repr

/-- What a fault behind the last tree says first. -/
def endNote (atEnd : Bool) : String :=
  if atEnd then "unexpected end of input, " else ""

def TokenFault.message : TokenFault → String
  | .missing what => "expected " ++ what
  | .expected what atEnd => endNote atEnd ++ "expected " ++ what
  | .keyword word => "expected identifier, found keyword `" ++ word ++ "`"
  | .leftover none => "unexpected token"
  | .leftover (some d) => "unexpected token, expected `" ++ d.closing ++ "`"
  | .unended => "unexpected token, expected `;`"
  | .chainedComparison => "comparison operators cannot be chained"
  | .continuedCast how => "casts cannot be followed by " ++ how
  | .reservedGenerics => "generic parameters on `where` clauses are reserved for future use"
  | .nestedAttribute => "unexpected attribute inside of attribute"
  | .secondReceiver => "unexpected second method receiver"
  | .lateReceiver => "unexpected method receiver"
  | .onlyLifetimes => "at least one trait is required for an object type"
  | .noTrait => "at least one trait must be specified"
  | .misplacedCapture => "`use<...>` precise capturing syntax is not allowed here"
  | .misplacedConst bracketed =>
    (if bracketed then "`[const]`" else "`const`") ++ " is not allowed here"
  | .relaxedBinder => "`for<...>` binder not allowed with `?` trait polarity modifier"
  | .labelledBreak => "parentheses required"
  | .rangeAttribute => "attributes are not allowed on range expressions starting with `..`"
  | .openRangeInSlice => "range pattern is not allowed unparenthesized inside slice pattern"
  | .suffixedIndex => "expected unsuffixed integer"
  | .hugeIndex => "number too large to fit in target type"
  | .tooDeep => "code is nested too deeply"

end ScreenRoutes
