import BoundQuery.Fragment.Basic

/-!
# Fragments as they are given

A fragment can be given as a text, as data of a tree, as an expression to be evaluated first, or as a
callable. `Given.fragment` evaluates what has to be evaluated.
-/

namespace BoundQuery

/-- The ways to give a fragment. -/
inductive Given where
  | text (text : String)
  | node (data : Data)
  | value (body : Body)
  | callable (callable : Callable)

namespace Given

/-- The fragment, once the expressions in it have been evaluated. -/
def fragment : Given → Except Failure Fragment
  | .text s => .ok (.text s)
  | .node data =>
      match data.toTree with
      | .ok t => .ok (.value (.tree t))
      | .error issues => .error (.invalid issues)
  | .value body => do return .ofValue (← body.run)
  | .callable c => .ok (.callable c)

end Given

end BoundQuery
