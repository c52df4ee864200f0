import CooperativeTasks.Session

set_option autoImplicit false

/-! Publishing what a finished task leaves to its caller.

The future goes to the variable that it was bound to, and a method's instance to the variable
on which the method was called. Both go to the scope that held the variable: the live one
while it is on the stack, otherwise the one saved in the task that owns it. A scope that is
gone receives nothing. -/

namespace CooperativeTasks

namespace Session

def savedSiteScope? (site : BindingSite) (session : Session) : Option Scope := do
  let owner ← site.owner
  let task ← session.scheduler.task? owner
  let scope ← task.scope
  if scope.holds site.frame then some scope else none

/-- The scope that a site points at, on the stack or saved. -/
def siteScope? (site : BindingSite) (session : Session) : Option Scope :=
  match session.executor.scopes.frame? site.frame with
  | some scope => some scope
  | none => session.savedSiteScope? site

def modifySite (site : BindingSite) (change : Scope → Scope) (session : Session) : Session :=
  match session.executor.scopes.modifyFrame? site.frame change with
  | some scopes => { session with executor := { session.executor with scopes } }
  | none =>
      match site.owner, session.savedSiteScope? site with
      | some owner, some scope =>
          { session with
            scheduler :=
              session.scheduler.modifyTask owner fun task => { task with scope := some (change scope) } }
      | _, _ => session

end Session

/-- Overwrites a caller's variable and the entries beside it that hold its fields. -/
def Scope.writeBack (name : String) (value : Value) (members : List (String × Value))
    (scope : Scope) : Scope :=
  members.foldl
    (fun written (member, memberValue) => written.assignExisting (memberName name member) memberValue)
    (scope.assignExisting name value)

namespace Act

def publishFuture (id : TaskId) (site : BindingSite) (value : Value) : Act Unit := do
  let target ← read (Session.siteScope? site)
  if target.any (Scope.contains site.name) then
    update (Session.modifySite site (Scope.assignExisting site.name value))
  else
    note (.futureSiteGone id site.name)

def publishReceiver (id : TaskId) (site : BindingSite) (value : Value)
    (members : List (String × Value)) : Act Unit := do
  let target ← read (Session.siteScope? site)
  if target.isSome then
    update (Session.modifySite site (Scope.writeBack site.name value members))
  else
    note (.receiverSiteGone id site.name)

/-- Publishes a finished task's results, once. -/
def finalize (id : TaskId) : Act Unit := do
  match (← scheduler).task? id with
  | none => return
  | some task =>
      if task.isFinished && !task.isPublished then
        let members := task.receiverMembers
        let receiver := task.receiver.map fun receiver =>
          { receiver with value := receiver.value.mergeMembers members }
        updateScheduler fun scheduler =>
          scheduler.modifyTask id fun task => { task with isPublished := true, receiver }
        count fun statistics =>
          { statistics with tasksCompleted := statistics.tasksCompleted + 1 }
        match task.futureSite with
        | none => pure ()
        | some site => publishFuture id site (task.future.toValue (some id))
        match receiver with
        | some { site := some site, value } => publishReceiver id site value members
        | _ => pure ()
        note (.finalized id)

end Act

end CooperativeTasks
