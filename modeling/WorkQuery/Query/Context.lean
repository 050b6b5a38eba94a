import WorkQuery.Query.Condition

/-!
# WorkQuery.Query.Context

What a query depends on besides the filter: the project it is asked in, and the day.
-/

namespace WorkQuery

structure QueryContext where
  /-- Name of the project; without one the store takes the current project. -/
  project : Option String
  /-- The day from which quarters are counted. -/
  today : Date

namespace QueryContext

/-- A context for a project; a blank name is no project. -/
def ofProject (project : Option String) (today : Date) : QueryContext :=
  ⟨project.filter fun p => !Text.isBlankText p, today⟩

/-- No project, and the first day of the epoch. -/
def default : QueryContext := ⟨none, Date.epoch⟩

instance : Inhabited QueryContext := ⟨default⟩

/-- The condition that scopes a query to the project. -/
def scope (ctx : QueryContext) : Condition :=
  match ctx.project with
  | some project => .comparison ⟨FieldDef.teamProject, .eq, [.text project]⟩
  | none => .comparison ⟨FieldDef.teamProject, .eq, [.currentProject]⟩

end QueryContext
end WorkQuery
