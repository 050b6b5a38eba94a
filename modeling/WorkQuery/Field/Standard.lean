import WorkQuery.Field.Reference
import WorkQuery.Field.ValueType

/-!
# WorkQuery.Field.Standard

The standard vocabulary: fields of the system, common and scheduling groups under their friendly
keys, aliases of those keys, and synonyms of work item types.
-/

namespace WorkQuery
namespace Standard

/-- Friendly key, reference name and type of each field. -/
def fields : List (String × String × ValueType) := [
  ("id", Reference.id, .integer),
  ("title", Reference.title, .string),
  ("description", Reference.description, .plainText),
  ("state", Reference.state, .string),
  ("workitemtype", Reference.workItemType, .string),
  ("assignedto", Reference.assignedTo, .identity),
  ("createdby", "System.CreatedBy", .identity),
  ("changedby", "System.ChangedBy", .identity),
  ("createddate", Reference.createdDate, .dateTime),
  ("changeddate", Reference.changedDate, .dateTime),
  ("areapath", Reference.areaPath, .treePath),
  ("iterationpath", Reference.iterationPath, .treePath),
  ("teamproject", Reference.teamProject, .string),
  ("reason", "System.Reason", .string),
  ("tags", Reference.tags, .string),
  ("history", "System.History", .plainText),
  ("rev", "System.Rev", .integer),
  ("commentcount", "System.CommentCount", .integer),
  ("priority", Reference.priority, .integer),
  ("severity", "Microsoft.VSTS.Common.Severity", .string),
  ("triage", "Microsoft.VSTS.Common.Triage", .string),
  ("valuearea", "Microsoft.VSTS.Common.ValueArea", .string),
  ("risk", "Microsoft.VSTS.Common.Risk", .string),
  ("stackrank", "Microsoft.VSTS.Common.StackRank", .integer),
  ("closedby", "Microsoft.VSTS.Common.ClosedBy", .identity),
  ("closeddate", "Microsoft.VSTS.Common.ClosedDate", .dateTime),
  ("resolvedby", "Microsoft.VSTS.Common.ResolvedBy", .identity),
  ("resolveddate", "Microsoft.VSTS.Common.ResolvedDate", .dateTime),
  ("activatedby", "Microsoft.VSTS.Common.ActivatedBy", .identity),
  ("activateddate", "Microsoft.VSTS.Common.ActivatedDate", .dateTime),
  ("statechangedate", "Microsoft.VSTS.Common.StateChangeDate", .dateTime),
  ("effort", "Microsoft.VSTS.Scheduling.Effort", .integer),
  ("storypoints", "Microsoft.VSTS.Scheduling.StoryPoints", .integer),
  ("originalestimate", "Microsoft.VSTS.Scheduling.OriginalEstimate", .integer),
  ("remainingwork", "Microsoft.VSTS.Scheduling.RemainingWork", .integer),
  ("completedwork", "Microsoft.VSTS.Scheduling.CompletedWork", .integer),
  ("activity", "Microsoft.VSTS.Scheduling.Activity", .string),
  ("startdate", "Microsoft.VSTS.Scheduling.StartDate", .dateTime),
  ("finishdate", "Microsoft.VSTS.Scheduling.FinishDate", .dateTime),
  ("targetdate", "Microsoft.VSTS.Scheduling.TargetDate", .dateTime),
  ("duedate", "Microsoft.VSTS.Scheduling.DueDate", .dateTime)]

/-- Other keys, each with the friendly key that it stands for. -/
def aliases : List (String × String) := [
  ("area", "areapath"), ("iteration", "iterationpath"), ("sprint", "iterationpath"),
  ("type", "workitemtype"), ("wit", "workitemtype"), ("assignee", "assignedto"),
  ("owner", "assignedto"), ("changed", "changeddate"), ("updated", "changeddate"),
  ("modified", "changeddate"), ("lastchanged", "changeddate"), ("created", "createddate"),
  ("opened", "createddate"), ("closed", "closeddate"), ("resolved", "resolveddate"),
  ("tag", "tags"), ("project", "teamproject"), ("pri", "priority"), ("points", "storypoints"),
  ("sev", "severity"), ("body", "description")]

/-- Keys of work item types, each with the type's name in the store. -/
def workItemTypes : List (String × String) := [
  ("epic", "Epic"), ("feature", "Feature"), ("userstory", "User Story"), ("story", "User Story"),
  ("task", "Task"), ("bug", "Bug"), ("defect", "Bug"), ("issue", "Issue"), ("ticket", "Issue"),
  ("productbacklogitem", "Product Backlog Item"), ("pbi", "Product Backlog Item"),
  ("backlogitem", "Product Backlog Item"), ("requirement", "Requirement"),
  ("changerequest", "Change Request"), ("review", "Review"),
  ("riskassessment", "Risk Assessment"), ("impediment", "Impediment"), ("testcase", "Test Case"),
  ("item", "Item")]

end Standard
end WorkQuery
