import ScreenRoutes.Pattern.Basic
import ScreenRoutes.Value

/-!
# Navigation errors

What can go wrong while a graph is built or a route is resolved.

| here | there |
| --- | --- |
| `NavigationError` | `NavigationError` and its texts |
-/

namespace ScreenRoutes

/-- Why a graph was not built or a route not reached. -/
inductive NavigationError where
  | graphNotSet
  | routeNotFound (route : String)
  | missingArgument (route argument : String)
  | invalidArgument (route argument : String) (type : ArgType) (value : String)
  | duplicateDestination (pattern : String)
  | invalidPattern (pattern : String) (fault : PatternFault)
  deriving DecidableEq, Repr

def NavigationError.message : NavigationError → String
  | .graphNotSet => "No graph has been set on this controller"
  | .routeNotFound route => "No destination matches route `" ++ route ++ "`"
  | .missingArgument route argument =>
    "Route `" ++ route ++ "` is missing required argument `" ++ argument ++ "`"
  | .invalidArgument route argument type value =>
    "Argument `" ++ argument ++ "` of route `" ++ route ++ "` is not a valid " ++
      type.plainName ++ ": `" ++ value ++ "`"
  | .duplicateDestination pattern =>
    "Destination `" ++ pattern ++ "` is registered more than once"
  | .invalidPattern pattern fault =>
    "Invalid route pattern `" ++ pattern ++ "`: " ++ fault.reason

end ScreenRoutes
