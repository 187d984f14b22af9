/-!
# Failures of the documentation

Why a documentation page could not be had or queried.
-/

namespace ScriptLint

/-- A failure of the documentation. -/
inductive DocsError where
  /-- A request could not be sent or answered. -/
  | unreachable (url reason : String)
  | refused (status : Nat) (url : String)
  /-- The class is not tracked. -/
  | untracked (className : String)
  | badSelector (selector reason : String)
deriving DecidableEq, Repr

namespace DocsError

def message : DocsError → String
  | unreachable url reason => "fetch failed for " ++ url ++ ": " ++ reason
  | refused status url => "fetch failed " ++ toString status ++ " " ++ url
  | untracked className => "'" ++ className ++ "' is not a tracked API class"
  | badSelector selector reason => "invalid selector `" ++ selector ++ "`: " ++ reason

end DocsError

end ScriptLint
