import ConversionTracking.Calendar.StoredMoment
import ConversionTracking.Outcome
import ConversionTracking.Store.Column

/-!
The tables: goals, conversions, events and page views; the scopes through which they are seen; and
units of work on them.
-/

namespace ConversionTracking

structure Goal where
  id : Int
  siteId : Option Int
  tenantId : Option String
  name : String
  description : Option String
  goalType : String
  conditions : Value
  valueType : String
  fixedValue : Option Binary64
  dynamicPath : Option String
  allowMultiple : Bool
  isActive : Bool
  funnelSteps : Value

structure Conversion where
  id : Int
  goalId : Int
  siteId : Option Int
  tenantId : Option String
  sessionId : Option String
  visitorId : Option String
  eventId : Option String
  pageViewId : Option String
  value : Option Binary64
  metadata : Value
  /-- What makes a second conversion of the goal a duplicate; none when duplicates are allowed. -/
  dedupeKey : Option String

structure EventFact where
  id : Int
  siteId : Option Int
  tenantId : Option String
  visitorId : Option String
  name : String
  category : Option String
  properties : Value
  createdAt : StoredMoment

structure PageViewFact where
  id : Int
  siteId : Option Int
  tenantId : Option String
  visitorId : Option String
  path : String
  createdAt : StoredMoment

/-- How the database draws the id of a row at random: any that no row has. -/
structure IdDraw where
  draw : List Int → Int
  free : ∀ ids, draw ids ∉ ids

namespace IdDraw

def lowestFree (ids : List Int) : Int :=
  let lowest := (List.range (ids.length + 1)).map fun place : Nat => (place : Int) + 1
  (lowest.find? (!ids.contains ·)).getD (ids.max?.getD 0 + 1)

theorem lowestFree_notMem (ids : List Int) : lowestFree ids ∉ ids := by
  unfold lowestFree
  cases found : ((List.range (ids.length + 1)).map fun place : Nat => (place : Int) + 1).find?
      (!ids.contains ·) with
  | some id =>
      simp only [found, Option.getD_some]
      simpa using List.find?_some found
  | none =>
      simp only [found, Option.getD_none]
      intro member
      cases highest : ids.max? with
      | none => simp [List.max?_eq_none_iff.mp highest] at member
      | some id =>
          have bound := (List.max?_eq_some_iff.mp highest).2 _ member
          simp only [highest, Option.getD_some] at bound
          omega

def lowest : IdDraw := ⟨lowestFree, lowestFree_notMem⟩

end IdDraw

structure Database where
  goals : List Goal
  conversions : List Conversion
  events : List EventFact
  pageViews : List PageViewFact
  ids : IdDraw := .lowest

namespace Database

def empty (ids : IdDraw := .lowest) : Database := ⟨[], [], [], [], ids⟩

def lastId : Int := 0x7fffffffffffffff

/-- The id of the next row: one more than the highest in use, or one that is drawn when none follows
the highest. -/
def nextId (database : Database) : List Int → Int
  | [] => 1
  | first :: rest =>
      let highest := rest.foldl max first
      if highest < lastId then highest + 1 else database.ids.draw (first :: rest)

end Database

/-- A site and a tenant. Rows of other sites and tenants are not seen; rows of none are. -/
structure Scope where
  siteId : Option Int
  tenantId : Option String
deriving DecidableEq, Repr

namespace Scope

def everything : Scope := ⟨none, none⟩

def admits {α : Type} [DecidableEq α] (wanted actual : Option α) : Bool :=
  wanted.isNone || actual.isNone || wanted == actual

def sees (scope : Scope) (siteId : Option Int) (tenantId : Option String) : Bool :=
  admits scope.siteId siteId && admits scope.tenantId tenantId

def check (scope : Scope) : Except Fault Unit :=
  match scope.siteId with
  | some site => checkWord site
  | none => .ok ()

end Scope

/-- A unit of work on the database. What was done before a failure stays done. -/
def Work (α : Type) : Type := Database → Outcome α × Database

namespace Work

protected def pure {α : Type} (value : α) : Work α := fun database => (pure value, database)

protected def bind {α β : Type} (first : Work α) (next : α → Work β) : Work β := fun database =>
  let (outcome, after) := first database
  match outcome.result with
  | .error fault => (⟨.error fault, outcome.notices⟩, after)
  | .ok value =>
      let (second, final) := next value after
      (⟨second.result, outcome.notices ++ second.notices⟩, final)

instance : Monad Work where
  pure := Work.pure
  bind := Work.bind

def ofOutcome {α : Type} (outcome : Outcome α) : Work α := fun database => (outcome, database)

def ofExcept {α : Type} (result : Except Fault α) : Work α := ofOutcome (.ofExcept result)

def inspect {α : Type} (query : Database → Outcome α) : Work α := fun database =>
  (query database, database)

def read {α : Type} (query : Database → Except Fault α) : Work α :=
  inspect fun database => .ofExcept (query database)

def change {α : Type} (update : Database → Except Fault (α × Database)) : Work α := fun database =>
  match update database with
  | .ok (value, after) => (pure value, after)
  | .error fault => (.fail fault, database)

def recover {α : Type} (attempt : Work α) (handle : Fault → Work α) : Work α := fun database =>
  let (outcome, after) := attempt database
  match outcome.result with
  | .ok value => (⟨.ok value, outcome.notices⟩, after)
  | .error fault =>
      let (second, final) := handle fault after
      (⟨second.result, outcome.notices ++ second.notices⟩, final)

def note (notice : Notice) : Work Unit := ofOutcome (.note notice)

end Work

end ConversionTracking
