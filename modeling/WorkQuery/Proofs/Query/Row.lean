import WorkQuery.Proofs.Query.WellFormed

/-!
# WorkQuery.Proofs.Query.Row

Rows of the store and the comparisons that they satisfy. What = and IN mean is fixed, whatever
values are; what literals stand for and what the other operators mean is left to the store.

* `Row.Satisfies`: whether a row satisfies a comparison.
* `Row.confined_of_pins`: a comparison that pins the project confines the rows that satisfy it to
  its operands.
-/

namespace WorkQuery

/-- What the store makes of operands that are no fields, and of operators besides = and IN. -/
structure Store (α : Type) where
  constant : WrittenValue → α
  compares : Operator → α → List α → Prop

/-- A value for every field. A field may be named in any case. -/
structure Row (α : Type) where
  cell : String → α
  caseless : ∀ a b, Text.sameIgnoringCase a b = true → cell a = cell b

namespace Row

variable {α : Type} (row : Row α) (store : Store α)

def operand : WrittenValue → α
  | .field name => row.cell name
  | w => store.constant w

def Satisfies (c : WrittenComparison) : Prop :=
  if c.operator.pinsValue then ∃ w ∈ c.operands, row.cell c.reference = row.operand store w
  else store.compares c.operator (row.cell c.reference) (c.operands.map (row.operand store))

def project : α := row.cell Reference.teamProject

end Row

/-- Whether the comparison is one with = or IN on the field that holds the project. -/
def WrittenComparison.pinsProject (c : WrittenComparison) : Bool :=
  c.operator.pinsValue && Text.sameIgnoringCase c.reference Reference.teamProject

/-- Whether the operand names a project: as a literal or a number, or as the current one. -/
def WrittenValue.namesProject : WrittenValue → Bool
  | .literal _ => true
  | .number _ _ => true
  | .named name shift => name == "@Project" && shift.isNone
  | .field _ => false

/-- The operand that names the project of the context. -/
def QueryContext.projectOperand (ctx : QueryContext) : WrittenValue :=
  match ctx.project with
  | some project => .literal (Quote.escape project)
  | none => .named "@Project" none

/-- A comparison that is taken to pin the project does so as it is written. -/
theorem Comparison.pinsProject_written {c : Comparison} (h : c.pinsProject = true) :
    c.written.pinsProject = true := by
  simp only [Comparison.pinsProject, FieldDef.isTeamProject, Bool.and_eq_true] at h
  have htrim : Text.trim Reference.teamProject = Reference.teamProject :=
    (ownFields_bare FieldDef.teamProject (by simp [ownFields])).1
  have hsame := Text.sameIgnoringCase_trim h.2
  rw [htrim] at hsame
  simp [WrittenComparison.pinsProject, Comparison.written, h.1, hsame]

theorem scope_holds {v : WrittenComparison → Prop} (ctx : QueryContext) :
    ctx.scope.Holds v ↔ v ⟨Reference.teamProject, .eq, [ctx.projectOperand]⟩ := by
  have hown : FieldDef.teamProject ∈ ownFields := by simp [ownFields]
  obtain ⟨project, today⟩ := ctx
  cases project
  all_goals
    simp only [QueryContext.scope, Condition.holds_comparison, Comparison.written_own hown]
    rfl

/-! ## Confinement -/

namespace Row

variable {α : Type} {row : Row α} {store : Store α}

theorem operand_of_namesProject {w : WrittenValue} (h : w.namesProject = true) :
    row.operand store w = store.constant w := by
  cases w with
  | field name => cases h
  | _ => rfl

theorem confined_of_pins {c : WrittenComparison} (hpins : c.pinsProject = true)
    (h : row.Satisfies store c) : ∃ w ∈ c.operands, row.project = row.operand store w := by
  simp only [WrittenComparison.pinsProject, Bool.and_eq_true] at hpins
  rw [Satisfies, if_pos hpins.1, row.caseless _ _ hpins.2] at h
  exact h

theorem project_of_scope {ctx : QueryContext} (h : ctx.scope.Holds (row.Satisfies store)) :
    row.project = store.constant ctx.projectOperand := by
  rw [scope_holds] at h
  obtain ⟨project, today⟩ := ctx
  cases project <;>
    simpa [Satisfies, Operator.pinsValue, operand, QueryContext.projectOperand, Row.project] using h

end Row
end WorkQuery
