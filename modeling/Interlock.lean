import Interlock.Counter.Bank
import Interlock.Menu.Catalog
import Interlock.Menu.Tree
import Interlock.Bench
import Interlock.Main
import Interlock.Settings.Encode
import Interlock.Simulator.Session
import Interlock.Proofs.Jet.Head
import Interlock.Proofs.Level.History
import Interlock.Proofs.Level.Recovery
import Interlock.Proofs.Jet.Pause
import Interlock.Proofs.Jet.Cutting
import Interlock.Proofs.Jet.NewJob
import Interlock.Proofs.Tank.Pause
import Interlock.Proofs.Jet.Unrequested
import Interlock.Proofs.Jet.Resume
import Interlock.Proofs.Jet.Suspension
import Interlock.Proofs.Jet.Work
import Interlock.Proofs.Jet.Undoing
import Interlock.Proofs.Jet.Priming
import Interlock.Proofs.Jet.Clearance
import Interlock.Proofs.Jet.Overfull
import Interlock.Proofs.Controller.ClosedLoop
import Interlock.Proofs.Controller.Feedback
import Interlock.Proofs.Menu.Items
import Interlock.Proofs.Number.Order
import Interlock.Proofs.Timer.Operation
import Interlock.Proofs.Timer.Once
import Interlock.Proofs.Timer.Period
import Interlock.Proofs.Counter.History
import Interlock.Proofs.Jet.Edges
import Interlock.Proofs.Switch.Refusal
import Interlock.Proofs.Controller.Suspension
import Interlock.Proofs.Alarm.Limit
import Interlock.Proofs.Tank.Verdict
import Interlock.Proofs.Jet.Told
import Interlock.Proofs.Controller.Lights
import Interlock.Proofs.Menu.Definition
import Interlock.Proofs.Jet.Delivery
import Interlock.Proofs.Jet.Inactive
import Interlock.Proofs.Controller.Door
import Interlock.Proofs.Switch.Target
import Interlock.Proofs.Menu.Up
import Interlock.Proofs.Controller.MenuLines
import Interlock.Proofs.Menu.Scroll
import Interlock.Proofs.Menu.Marks
import Interlock.Proofs.Menu.Browse
import Interlock.Proofs.Pin.Output
import Interlock.Proofs.Pin.Modules
import Interlock.Proofs.Console.Grammar
import Interlock.Proofs.Timer.Replay
import Interlock.Proofs.Alarm.Cadence
import Interlock.Proofs.Jet.Invalid
import Interlock.Proofs.Alarm.OnScreen
import Interlock.Proofs.Schedule.Drift
import Interlock.Proofs.Json.Grammar
import Interlock.Proofs.Settings.Document
import Interlock.Proofs.Menu.Selection
