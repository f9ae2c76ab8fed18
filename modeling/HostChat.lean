import HostChat.ChatError
import HostChat.Command
import HostChat.CommandLine.Args
import HostChat.CommandLine.Help
import HostChat.Config
import HostChat.Console
import HostChat.Exchange
import HostChat.Host.Basic
import HostChat.Host.Directory
import HostChat.Host.ErrorNumber
import HostChat.Host.Fault
import HostChat.Host.ObjectName
import HostChat.Limits
import HostChat.Main
import HostChat.Memory.Basic
import HostChat.Memory.Bytes
import HostChat.Memory.FirstIndex
import HostChat.Memory.Header
import HostChat.Memory.Mailbox
import HostChat.Memory.Registry
import HostChat.Message
import HostChat.Notification.Basic
import HostChat.Notification.Processes
import HostChat.Notification.Signal
import HostChat.Participant
import HostChat.Program
import HostChat.Proofs.Exchange
import HostChat.Proofs.Host.Directory
import HostChat.Proofs.Host.Memory
import HostChat.Proofs.Host.ObjectKeys
import HostChat.Proofs.Meeting.Backlog
import HostChat.Proofs.Meeting.ExactlyOnce
import HostChat.Proofs.Meeting.Founding
import HostChat.Proofs.Meeting.Housing
import HostChat.Proofs.Meeting.Letters
import HostChat.Proofs.Meeting.Order
import HostChat.Proofs.Meeting.System
import HostChat.Proofs.Meeting.Wiring
import HostChat.Proofs.Memory.Contents
import HostChat.Proofs.Memory.Participants
import HostChat.Proofs.Memory.Upkeep
import HostChat.Proofs.Memory.Usable
import HostChat.Proofs.Occupancy.Departure
import HostChat.Proofs.Occupancy.Lifetime
import HostChat.Proofs.Occupancy.Reachability
import HostChat.Proofs.Occupancy.Settled
import HostChat.Proofs.Occupancy.System
import HostChat.Proofs.Participant
import HostChat.Proofs.Program.Departure
import HostChat.Proofs.Replay
import HostChat.Proofs.Room.Creation
import HostChat.Proofs.Room.Frame
import HostChat.Proofs.Room.Ledger
import HostChat.Proofs.Room.Lifetime
import HostChat.Proofs.Room.Traffic
import HostChat.Proofs.Session.Clearing
import HostChat.Proofs.Session.Effects
import HostChat.Proofs.Session.Held
import HostChat.Proofs.Session.Messages
import HostChat.Proofs.Session.Upkeep
import HostChat.Proofs.Text.Utf8
import HostChat.Room.Basic
import HostChat.Room.Error
import HostChat.Room.Names
import HostChat.Scenario.Consoles
import HostChat.Scenario.Memory
import HostChat.Scenario.Processes
import HostChat.Scenario.Rooms
import HostChat.Scenario.Sessions
import HostChat.Scenario.Signals
import HostChat.Session
import HostChat.Table
import HostChat.Text.Blank
import HostChat.Text.Decimal
import HostChat.Text.GraphemeExtend
import HostChat.Text.Quoted
import HostChat.Text.Terminal
import HostChat.Text.Unprintable
import HostChat.Text.Utf8
import HostChat.Proofs.Console.Dealing
import HostChat.Proofs.Console.Discipline
import HostChat.Proofs.Console.Ending
import HostChat.Proofs.Console.Lines
import HostChat.Proofs.Console.Moments
import HostChat.Proofs.Session.Working
import HostChat.Proofs.Chat.System
import HostChat.Proofs.Chat.Fidelity
import HostChat.Proofs.Meeting.Approvals
import HostChat.Proofs.Answers
import HostChat.Proofs.Exchange.Routes
import HostChat.Proofs.Memory.Pending
import HostChat.Proofs.Memory.Seating
import HostChat.Proofs.Memory.Vacancies
import HostChat.Proofs.Locking.Script
import HostChat.Proofs.Locking.Discipline
import HostChat.Proofs.Locking.Access
import HostChat.Proofs.Locking.Balance
import HostChat.Proofs.Session.Allotment
import HostChat.Proofs.Session.Broadcast
import HostChat.Proofs.Command.Grammar
import HostChat.Proofs.Session.Telling
import HostChat.Proofs.Memory.Places
import HostChat.Proofs.Session.Joining
import HostChat.Proofs.Memory.Frames
import HostChat.Proofs.Locking.Reach
import HostChat.Proofs.Room.Apart
import HostChat.Proofs.Room.Attaching
import HostChat.Proofs.Room.Staying
import HostChat.Proofs.Notification.Records
import HostChat.Proofs.Notification.Transport
import HostChat.Proofs.Console.Decoding
import HostChat.Proofs.Console.Recoding
import HostChat.Proofs.Notification.Codec
import HostChat.Proofs.Text.Numerals
import HostChat.Proofs.Exchange.Switch
import HostChat.Proofs.Exchange.Delivery
