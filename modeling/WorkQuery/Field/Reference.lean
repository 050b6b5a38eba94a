/-!
# WorkQuery.Field.Reference

Reference names of the fields that the program itself asks for.
-/

namespace WorkQuery
namespace Reference

def id : String := "System.Id"

def title : String := "System.Title"

def description : String := "System.Description"

def state : String := "System.State"

def workItemType : String := "System.WorkItemType"

def assignedTo : String := "System.AssignedTo"

def changedDate : String := "System.ChangedDate"

def createdDate : String := "System.CreatedDate"

/-- Project, the field that scopes a query. -/
def teamProject : String := "System.TeamProject"

def areaPath : String := "System.AreaPath"

def iterationPath : String := "System.IterationPath"

def tags : String := "System.Tags"

/-- Priority; 1 is the highest. -/
def priority : String := "Microsoft.VSTS.Common.Priority"

end Reference
end WorkQuery
