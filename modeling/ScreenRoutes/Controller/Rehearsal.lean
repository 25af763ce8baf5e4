import ScreenRoutes.Controller.Handles

/-!
# Rehearsals

A rehearsal drives controllers with content that is written down as a list of steps. Whenever such
content is shown, the show is noted with the depth of the stack, the steps are taken one by one, and
the outcome of each is noted too. After a fixed number of shows content takes no more steps, so that
content which keeps showing itself comes to an end.
-/

namespace ScreenRoutes

mutual

inductive Deed where
  | navigate (route : String)
  | pop
  | attach (plan : Plan)

/-- A deed, taken only while the stack is lower than `below` where that is given. -/
inductive Step where
  | mk (below : Option Nat) (deed : Deed)

/-- A destination with its content. -/
inductive Stop where
  | mk (pattern : String) (arguments : List Argument) (content : List Step)

/-- A graph to be built: destinations and the route shown first. -/
inductive Plan where
  | mk (stops : List Stop) (start : Option String)

end

namespace Plan

def build : Plan → Except NavigationError (Graph (List Step))
  | .mk stops start =>
    let pending := stops.map fun | .mk pattern arguments content => ⟨pattern, arguments, content⟩
    (GraphBuilder.build ⟨pending, start⟩).1

end Plan

inductive Note where
  | showed (entry : Entry) (depth : Nat)
  | did (deed : Deed) (reply : Reply) (depth : Nat)

/-- The number of shows so far and the notes, the latest first. -/
structure Diary where
  shows : Nat
  notes : List Note

/-- Content takes its steps in this many shows. -/
def showLimit : Nat :=
  40

/-- The request of a deed, unless its graph cannot be built. -/
def Deed.request : Deed → Except NavigationError (Request (List Step))
  | .navigate route => .ok (.navigate route)
  | .pop => .ok .pop
  | .attach plan => plan.build.map .attach

def noteDeed (deed : Deed) (reply : Reply) (next : Script (List Step) Diary) :
    Script (List Step) Diary :=
  .look fun depth diary => .leave { diary with notes := .did deed reply depth :: diary.notes } next

def takeSteps : List Step → Script (List Step) Diary
  | [] => .stop
  | .mk below deed :: steps =>
    .look fun depth _ =>
      if below.any (· ≤ depth) then takeSteps steps
      else
        match deed.request with
        | .error e => noteDeed deed (.failed e) (takeSteps steps)
        | .ok request => .ask request fun reply => noteDeed deed reply (takeSteps steps)

/-- What written content does when it is shown. -/
def rehearse (content : List Step) (entry : Entry) : Script (List Step) Diary :=
  .look fun depth diary =>
    let diary := ⟨diary.shows + 1, .showed entry depth :: diary.notes⟩
    .leave diary (if showLimit < diary.shows then .stop else takeSteps content)

/-- Requests are nested no deeper than shows, and one show beyond the limit asks for nothing. -/
def rehearsalDepth : Nat :=
  showLimit + 3

def Controller.rehearse (c : Controller (List Step)) (diary : Diary) (request : Request (List Step)) :
    Option (Reply × Session (List Step) Diary) :=
  (Session.start c diary).perform ScreenRoutes.rehearse rehearsalDepth request

end ScreenRoutes
