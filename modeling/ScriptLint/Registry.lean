/-!
# The tracked classes

The script interface has eleven classes whose calls are checked.  Each is documented on one page.
-/

namespace ScriptLint

/-- A class of the script interface whose calls are checked. -/
inductive TrackedClass where
  | news
  | company
  | controller
  | date
  | eventController
  | storyPage
  | goal
  | sign
  | town
  | cargo
  | station
deriving DecidableEq, Repr

namespace TrackedClass

def all : List TrackedClass :=
  [news, company, controller, date, eventController, storyPage, goal, sign, town, cargo, station]

theorem mem_all (trackedClass : TrackedClass) : trackedClass ∈ all := by
  cases trackedClass <;> decide

theorem nodup_all : all.Nodup := by
  decide

def name : TrackedClass → String
  | news => "GSNews"
  | company => "GSCompany"
  | controller => "GSController"
  | date => "GSDate"
  | eventController => "GSEventController"
  | storyPage => "GSStoryPage"
  | goal => "GSGoal"
  | sign => "GSSign"
  | town => "GSTown"
  | cargo => "GSCargo"
  | station => "GSStation"

def page (trackedClass : TrackedClass) : String :=
  "class" ++ trackedClass.name ++ ".html"

/-- The tracked class of a name, which has to be spelled exactly. -/
def ofName? (name : String) : Option TrackedClass :=
  all.find? fun trackedClass => trackedClass.name == name

theorem name_injective {first second : TrackedClass} (same : first.name = second.name) :
    first = second := by
  cases first <;> cases second <;> first | rfl | exact absurd same (by decide)

@[simp]
theorem ofName?_name (trackedClass : TrackedClass) :
    ofName? trackedClass.name = some trackedClass := by
  cases trackedClass <;> decide

theorem ofName?_eq_some_iff {name : String} {trackedClass : TrackedClass} :
    ofName? name = some trackedClass ↔ trackedClass.name = name := by
  constructor
  · intro found
    simpa using List.find?_some found
  · rintro rfl
    exact ofName?_name trackedClass

def names : List String :=
  all.map name

end TrackedClass

end ScriptLint
