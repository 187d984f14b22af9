import ScriptLint.Cache.Catalog
import ScriptLint.Lint.Rule
import ScriptLint.Lint.Settings

/-!
# Checking a script

Every call of a tracked class is shown to the rules in their order.  Rules that settings allow are
passed over, and what denied rules find is an error.  Calls of other classes are not looked up.
-/

namespace ScriptLint

/-- The rules with what settings say about them. -/
structure Engine where
  rules : List Rule
  allowed : List String
  denied : List String

namespace Engine

def ofSettings (settings : LintSettings) : Engine :=
  ⟨Rule.standing settings.maxSuggestions settings.similarityThreshold, settings.allow,
    settings.deny⟩

/-- The engine with one more rule after the others. -/
def register (engine : Engine) (rule : Rule) : Engine :=
  { engine with rules := engine.rules ++ [rule] }

def ruleNames (engine : Engine) : List String :=
  engine.rules.map Rule.name

/-- What a rule finds wrong with a call, under the settings. -/
def apply (engine : Engine) (site : CallSite) (methods : Option MethodTable) (rule : Rule) :
    Option Diagnostic :=
  if engine.allowed.contains rule.name then none
  else
    (rule.judge site methods).map fun diagnostic =>
      if engine.denied.contains rule.name then { diagnostic with severity := .error }
      else diagnostic

def judge (engine : Engine) (site : CallSite) (methods : Option MethodTable) : List Diagnostic :=
  engine.rules.filterMap (engine.apply site methods)

/-- What the rules find wrong with a list of calls, and the catalog afterwards. -/
def checkCalls (engine : Engine) (store : CacheStore) :
    List CallSite → Catalog → List Diagnostic × Catalog
  | [], catalog => ([], catalog)
  | site :: rest, catalog =>
    match TrackedClass.ofName? site.className with
    | none => checkCalls engine store rest catalog
    | some trackedClass =>
      let (methods, afterFirst) := catalog.lookUp store trackedClass
      let (later, afterAll) := checkCalls engine store rest afterFirst
      (engine.judge site methods ++ later, afterAll)

/-- What the rules find wrong with a script, and the catalog afterwards. -/
def checkSource (engine : Engine) (store : CacheStore) (source : String) (catalog : Catalog) :
    List Diagnostic × Catalog :=
  engine.checkCalls store (scanCalls source) catalog

end Engine

end ScriptLint
