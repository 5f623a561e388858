import ChannelAccess.Access.Rehearsal
import ChannelAccess.Access.Session
import ChannelAccess.Main
import ChannelAccess.Proofs.ArmedTimers
import ChannelAccess.Proofs.Engine.Reactions
import ChannelAccess.Proofs.Engine.Stages
import ChannelAccess.Proofs.Engine.Runs
import ChannelAccess.Proofs.Engine.PendingAction
import ChannelAccess.Proofs.Engine.Verdicts
import ChannelAccess.Proofs.SymbolTime
import ChannelAccess.Proofs.Simulation.Sequential
import ChannelAccess.Proofs.Simulation.Steps
import ChannelAccess.Proofs.Simulation.Events
import ChannelAccess.Proofs.Simulation.Refinement
import ChannelAccess.Proofs.Engine.Bound
import ChannelAccess.Proofs.Access.Lockstep
import ChannelAccess.Proofs.Access.Passes
import ChannelAccess.Proofs.Access.Agreement
import ChannelAccess.Proofs.Engine.Deliveries
import ChannelAccess.Proofs.Simulation.Settling
import ChannelAccess.Proofs.Simulation.Budget
import ChannelAccess.Proofs.Simulation.Queue
import ChannelAccess.Proofs.Simulation.Heaps
import ChannelAccess.Proofs.Simulation.Histories
import ChannelAccess.Proofs.Simulation.Proceeding
import ChannelAccess.Proofs.Engine.Deferral
import ChannelAccess.Proofs.Access.Observed
import ChannelAccess.Proofs.Access.Questions
import ChannelAccess.Proofs.Access.Ending
import ChannelAccess.Proofs.Engine.Tallies
import ChannelAccess.Proofs.Engine.FreshStart
import ChannelAccess.Proofs.Simulation.Completion
import ChannelAccess.Proofs.Access.Punctuality
import ChannelAccess.Proofs.Engine.LateDeliveries
import ChannelAccess.Proofs.Engine.Footprint
import ChannelAccess.Proofs.Engine.Plainness
import ChannelAccess.Proofs.Simulation.Consecutive
import ChannelAccess.Proofs.Simulation.Growth
import ChannelAccess.Proofs.Simulation.Headroom
import ChannelAccess.Proofs.Report.Series
import ChannelAccess.Proofs.Report.Scenarios
import ChannelAccess.Proofs.Report.Print
import ChannelAccess.Proofs.Report.Completeness
import ChannelAccess.Proofs.Report.Beacons
import ChannelAccess.Proofs.Conversions
import ChannelAccess.Proofs.Boundaries
import ChannelAccess.Proofs.Engine.CapFit
import ChannelAccess.Proofs.Engine.Reckonings
import ChannelAccess.Proofs.Engine.WorkingRange
import ChannelAccess.Proofs.TransactionCost
import ChannelAccess.Proofs.Simulation.Chronicle
import ChannelAccess.Proofs.Engine.Feasibility
import ChannelAccess.Proofs.Engine.Draws
import ChannelAccess.Proofs.Engine.Refusals
import ChannelAccess.Proofs.ContentionPeriods
import ChannelAccess.Proofs.PrintedTimes
import ChannelAccess.Proofs.ChannelPatterns
import ChannelAccess.Proofs.Engine.Epochs
import ChannelAccess.Proofs.Access.Epochs
import ChannelAccess.Proofs.LiveTimers
import ChannelAccess.Proofs.AgendaOrder
import ChannelAccess.Proofs.WaitingLists
