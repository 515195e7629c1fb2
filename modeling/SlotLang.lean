import SlotLang.Host.CommandLine
import SlotLang.Main
import SlotLang.Proofs.Table.FiniteMap
import SlotLang.Proofs.Names.Distance
import SlotLang.Proofs.Names.Suggestion
import SlotLang.Proofs.Machine.Simulation
import SlotLang.Proofs.Machine.Bound
import SlotLang.Proofs.Machine.Layout
import SlotLang.Proofs.Machine.Evolution
import SlotLang.Proofs.Json.Brackets
import SlotLang.Proofs.Json.Passing
import SlotLang.Proofs.Json.Reading
import SlotLang.Proofs.Json.Writing
import SlotLang.Proofs.Program.RoundTrip
import SlotLang.Proofs.Machine.CallDepth
import SlotLang.Proofs.Machine.DepthLimit
import SlotLang.Proofs.Machine.LocalScope
import SlotLang.Proofs.Machine.Termination
import SlotLang.Proofs.Machine.Discipline
import SlotLang.Proofs.Machine.NewNames
import SlotLang.Proofs.Host.Reset
import SlotLang.Proofs.Machine.Reach
import SlotLang.Proofs.Machine.OutputLimit
import SlotLang.Proofs.Program.Readability
import SlotLang.Proofs.Machine.Reassociation
import SlotLang.Proofs.Program.Spellings
import SlotLang.Proofs.Program.Extent
import SlotLang.Proofs.Host.Conversation
import SlotLang.Proofs.Machine.Constructs
import SlotLang.Proofs.Machine.MissingNames
import SlotLang.Proofs.Machine.Construction
import SlotLang.Proofs.Machine.Calling
import SlotLang.Proofs.Machine.Printing
import SlotLang.Proofs.Text.Positions
import SlotLang.Proofs.Host.Texts
import SlotLang.Proofs.Program.Literals
import SlotLang.Proofs.Machine.ArrayMemory
import SlotLang.Proofs.Machine.IntegerLaws
import SlotLang.Proofs.Settings.Overrides
import SlotLang.Proofs.Table.Growth
