import FieldMachine.Activity
import FieldMachine.Activity.Step
import FieldMachine.Actor
import FieldMachine.Assembly
import FieldMachine.Assembly.Words
import FieldMachine.Comparison
import FieldMachine.Config
import FieldMachine.Config.Stored
import FieldMachine.Console.Folder
import FieldMachine.Console.Host
import FieldMachine.Console.Options
import FieldMachine.Console.Play
import FieldMachine.Console.Program
import FieldMachine.Console.Settings
import FieldMachine.Cursor
import FieldMachine.Easing
import FieldMachine.Effect
import FieldMachine.Fault
import FieldMachine.Geometry
import FieldMachine.Host
import FieldMachine.Host.Scripted
import FieldMachine.Instruction
import FieldMachine.Instruction.Acting
import FieldMachine.Instruction.Arithmetic
import FieldMachine.Instruction.Background
import FieldMachine.Instruction.Company
import FieldMachine.Instruction.Control
import FieldMachine.Instruction.Dialogue
import FieldMachine.Instruction.Movement
import FieldMachine.Instruction.Screen
import FieldMachine.Instruction.Transition
import FieldMachine.Journal
import FieldMachine.Journal.Category
import FieldMachine.Json
import FieldMachine.Json.Read
import FieldMachine.Json.Record
import FieldMachine.Json.Token
import FieldMachine.Lane
import FieldMachine.Listing
import FieldMachine.Listing.Project
import FieldMachine.Machine
import FieldMachine.Main
import FieldMachine.Memory
import FieldMachine.Opcode
import FieldMachine.Proofs.Admission
import FieldMachine.Proofs.Advance
import FieldMachine.Proofs.Animation
import FieldMachine.Proofs.Answer
import FieldMachine.Proofs.Arithmetic
import FieldMachine.Proofs.Attendance
import FieldMachine.Proofs.Banks
import FieldMachine.Proofs.Belongings
import FieldMachine.Proofs.Bereavement
import FieldMachine.Proofs.Branch
import FieldMachine.Proofs.Budget
import FieldMachine.Proofs.CallOrder
import FieldMachine.Proofs.Calls
import FieldMachine.Proofs.Calm
import FieldMachine.Proofs.Computation
import FieldMachine.Proofs.Confinement
import FieldMachine.Proofs.Countdown
import FieldMachine.Proofs.Dealing
import FieldMachine.Proofs.Desk
import FieldMachine.Proofs.Destination
import FieldMachine.Proofs.Disassembly
import FieldMachine.Proofs.Docket
import FieldMachine.Proofs.Dump
import FieldMachine.Proofs.Errand
import FieldMachine.Proofs.Event
import FieldMachine.Proofs.FadeChange
import FieldMachine.Proofs.Fading
import FieldMachine.Proofs.Failure
import FieldMachine.Proofs.Gathering
import FieldMachine.Proofs.Header
import FieldMachine.Proofs.Instruction
import FieldMachine.Proofs.Instruction.Acting
import FieldMachine.Proofs.Instruction.Arithmetic
import FieldMachine.Proofs.Instruction.Background
import FieldMachine.Proofs.Instruction.Company
import FieldMachine.Proofs.Instruction.Control
import FieldMachine.Proofs.Instruction.Dialogue
import FieldMachine.Proofs.Instruction.Movement
import FieldMachine.Proofs.Instruction.Screen
import FieldMachine.Proofs.Instruction.Transition
import FieldMachine.Proofs.Inventory
import FieldMachine.Proofs.Isolation
import FieldMachine.Proofs.Ledger
import FieldMachine.Proofs.Leg
import FieldMachine.Proofs.Length
import FieldMachine.Proofs.Limits
import FieldMachine.Proofs.Listing
import FieldMachine.Proofs.Lookup
import FieldMachine.Proofs.MainLoop
import FieldMachine.Proofs.Materia
import FieldMachine.Proofs.Membership
import FieldMachine.Proofs.Moment
import FieldMachine.Proofs.Motion
import FieldMachine.Proofs.Noninterference
import FieldMachine.Proofs.Observer
import FieldMachine.Proofs.Operand
import FieldMachine.Proofs.Outcome
import FieldMachine.Proofs.Ownership
import FieldMachine.Proofs.Palette
import FieldMachine.Proofs.Plan
import FieldMachine.Proofs.Polling
import FieldMachine.Proofs.Pose
import FieldMachine.Proofs.Presence
import FieldMachine.Proofs.Procession
import FieldMachine.Proofs.Prudence
import FieldMachine.Proofs.Punctuality
import FieldMachine.Proofs.Queueing
import FieldMachine.Proofs.Reading
import FieldMachine.Proofs.Recolor
import FieldMachine.Proofs.Release
import FieldMachine.Proofs.Remnant
import FieldMachine.Proofs.Removal
import FieldMachine.Proofs.Replica
import FieldMachine.Proofs.Retention
import FieldMachine.Proofs.Roster
import FieldMachine.Proofs.Rounding
import FieldMachine.Proofs.Run
import FieldMachine.Proofs.Schedule
import FieldMachine.Proofs.Scratch
import FieldMachine.Proofs.Section
import FieldMachine.Proofs.Section.Access
import FieldMachine.Proofs.Section.Draft
import FieldMachine.Proofs.Section.Format
import FieldMachine.Proofs.Shade
import FieldMachine.Proofs.Single
import FieldMachine.Proofs.Stage
import FieldMachine.Proofs.Stride
import FieldMachine.Proofs.Token
import FieldMachine.Proofs.Train
import FieldMachine.Proofs.Turn
import FieldMachine.Proofs.Upkeep
import FieldMachine.Proofs.Waiting
import FieldMachine.Proofs.Walk
import FieldMachine.Proofs.Window
import FieldMachine.Random
import FieldMachine.Reading
import FieldMachine.Scheduler
import FieldMachine.Section
import FieldMachine.Section.Draft
import FieldMachine.Session
import FieldMachine.Session.Change
import FieldMachine.Session.Inventory
import FieldMachine.Session.Party
import FieldMachine.Snapshot
import FieldMachine.Stage
import FieldMachine.Text.Blank
import FieldMachine.Text.HexBytes
import FieldMachine.Text.Numeral
import FieldMachine.Text.Quoted
import FieldMachine.Text.Unprintable
import FieldMachine.Text.Utf8
import FieldMachine.World
import FieldMachine.Yaml
import FieldMachine.Yaml.Plain
import FieldMachine.Yaml.Scalar
