import TeamSync.Library.Interleaving
import TeamSync.Library.Collection
import TeamSync.Cloud.Service
import TeamSync.Model.LeMieAttivita
import TeamSync.Model.Progetto
import TeamSync.Repository.TodoRepository
import TeamSync.ViewModel.ProgettoViewModel
import TeamSync.Cloud.Participants
import TeamSync.Projects.Calls
import TeamSync.Projects.Moves
import TeamSync.Projects.System
import TeamSync.Projects.Abandonment
import TeamSync.Projects.Cleanup
import TeamSync.Projects.Editing
import TeamSync.Tasks.Delegation
import TeamSync.Tasks.ConcurrentDelegation
import TeamSync.ViewModel.LeMieAttivitaViewModel
import TeamSync.Library.Sequence
import TeamSync.Tasks.Runs
import TeamSync.Projects.Runs
import TeamSync.Team.Calls
import TeamSync.Team.Deletion
import TeamSync.Team.Orphans
import TeamSync.Team.Assignees
import TeamSync.View.LeMieAttivitaUI
import TeamSync.View.ModificaProgetto
import TeamSync.Tasks.Edit
import TeamSync.Deadlines.Calls
import TeamSync.Deadlines.Bound
import TeamSync.Library.Action
import TeamSync.Dart.RegExp
import TeamSync.ViewModel.ViewModelUtente
import TeamSync.Session.Login
import TeamSync.Session.Consistency
import TeamSync.Session.Refusal
import TeamSync.Cloud.Accounts
import TeamSync.Session.Registration
import TeamSync.Session.Profile
import TeamSync.Session.EmailFormats
import TeamSync.Session.Attempts
import TeamSync.Library.Contract
import TeamSync.Library.Outcome
import TeamSync.Team.Documents
import TeamSync.Team.Participants
import TeamSync.Team.Identity
import TeamSync.Team.Codes
import TeamSync.Team.Counts
import TeamSync.Library.Guarded
import TeamSync.Screens.ProjectTasks
import TeamSync.Screens.ProjectLoads
import TeamSync.Screens.ProjectOpening
import TeamSync.Screens.DelegaTask
import TeamSync.Screens.LatestDeadline
import TeamSync.Screens.HomeProgress
import TeamSync.Library.Fields
import TeamSync.Projects.Format
import TeamSync.Tasks.Format
import TeamSync.Tasks.Saves
import TeamSync.Tasks.Repetition
import TeamSync.Deadlines.Today
import TeamSync.Deadlines.Overdue
import TeamSync.View.CreaProgettoDialog
import TeamSync.Deadlines.Dialogs
import TeamSync.Deadlines.Pickers
import TeamSync.Projects.FailedLeave
import TeamSync.Tasks.FailedRemoval
import TeamSync.Projects.JoinByCode
import TeamSync.Projects.Creation
import TeamSync.Library.Independence
import TeamSync.Cloud.Locality
import TeamSync.Team.DifferentDocuments
import TeamSync.Team.Workspace
import TeamSync.Team.Acknowledged
import TeamSync.Team.Refinement
import TeamSync.Library.Warrant
import TeamSync.Repository.Profili
import TeamSync.View.TodoItem
import TeamSync.Screens.Visits
import TeamSync.Library.Moments
import TeamSync.Screens.Authorization
import TeamSync.Cloud.Births
import TeamSync.Screens.TaskIdentity
import TeamSync.Screens.Delegations
import TeamSync.Screens.HomeCounts
import TeamSync.View.InfoProgettoUI
import TeamSync.Screens.People
import TeamSync.View.NavGraph
import TeamSync.Session.Navigation
import TeamSync.Session.Logout
import TeamSync.Session.Forms
import TeamSync.Team.Rounds
import TeamSync.Session.Services
import TeamSync.Session.Enrolment
import TeamSync.Cloud.Known
import TeamSync.Team.Entry
