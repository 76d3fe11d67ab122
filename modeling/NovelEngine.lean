import NovelEngine.Decimal.Binary
import NovelEngine.Decimal.Whole
import NovelEngine.Document
import NovelEngine.Document.Fields
import NovelEngine.Command
import NovelEngine.Context
import NovelEngine.Decimal.Shortest
import NovelEngine.Decimal.Layout
import NovelEngine.Decimal.Reading
import NovelEngine.Decimal.Remainder
import NovelEngine.Dice
import NovelEngine.Document.Number
import NovelEngine.Document.Quoted
import NovelEngine.Document.Reader
import NovelEngine.Document.Writer
import NovelEngine.Registry
import NovelEngine.Error
import NovelEngine.Variable
import NovelEngine.WaitReason
import NovelEngine.SavedState
import NovelEngine.Text.Blank
import NovelEngine.Text.CaseTable
import NovelEngine.Text.LetterCase
import NovelEngine.Value
import NovelEngine.Slots
import NovelEngine.Variable.Bank
import NovelEngine.Variable.Store
import NovelEngine.Operand
import NovelEngine.Stage
import NovelEngine.Script.Instruction
import NovelEngine.Script.Opcode
import NovelEngine.Script.Decode
import NovelEngine.Script
import NovelEngine.Engine.Activation
import NovelEngine.MessageBox
import NovelEngine.Mixer
import NovelEngine.Project
import NovelEngine.SnippetEngine
import NovelEngine.Engine.World
import NovelEngine.Notice
import NovelEngine.Engine.Outcome
import NovelEngine.Engine.Calls
import NovelEngine.Engine.Flow
import NovelEngine.Engine.Changes
import NovelEngine.Engine.Dialogue
import NovelEngine.Engine.Staging
import NovelEngine.Engine.Perform
import NovelEngine.Engine.Thread
import NovelEngine.Engine.Host
import NovelEngine.Engine.HostEvent
import NovelEngine.Game
import NovelEngine.Player.Answers
import NovelEngine.Snippet.Token
import NovelEngine.Snippet.Program
import NovelEngine.Snippet.Datum
import NovelEngine.Snippet.Eval
import NovelEngine.Snippet
import NovelEngine.Player
import NovelEngine.Main
import NovelEngine.Proofs.Effect
import NovelEngine.Proofs.Execution
import NovelEngine.Proofs.Blocks
import NovelEngine.Proofs.LoopReentry
import NovelEngine.Proofs.Suspension
import NovelEngine.Proofs.Decoding
import NovelEngine.Proofs.PromptSaving
import NovelEngine.Proofs.Likeness
import NovelEngine.Proofs.Resuming
import NovelEngine.Proofs.BoxLock
import NovelEngine.Proofs.Starting
import NovelEngine.Proofs.GameLock
import NovelEngine.Proofs.WaitState
import NovelEngine.Proofs.Calling
import NovelEngine.Proofs.BoxExclusion
import NovelEngine.Proofs.ActiveEvents
import NovelEngine.Proofs.Locals
import NovelEngine.Proofs.CommandBudget
import NovelEngine.Proofs.SceneTransitions
import NovelEngine.Proofs.Temporaries
import NovelEngine.Proofs.Endings
import NovelEngine.Proofs.BudgetDelay
import NovelEngine.Proofs.AbandonedLoops
import NovelEngine.Proofs.CallDepth
import NovelEngine.Proofs.Position
import NovelEngine.Proofs.PlainCommands
import NovelEngine.Proofs.Programs
import NovelEngine.Proofs.Walks
import NovelEngine.Proofs.LoopBodies
import NovelEngine.Proofs.LoopPasses
import NovelEngine.Proofs.Conditionals
import NovelEngine.Proofs.LoopRounds
import NovelEngine.Proofs.Pacing
import NovelEngine.Proofs.FastForward
import NovelEngine.Proofs.Resaving
import NovelEngine.Proofs.Jumping
import NovelEngine.Proofs.Answering
import NovelEngine.Proofs.Cells
import NovelEngine.Proofs.SlotRanges
import NovelEngine.Proofs.FailedCommands
import NovelEngine.Proofs.EventDelivery
import NovelEngine.Proofs.Readback
import NovelEngine.Proofs.Stillness
import NovelEngine.Proofs.Stopping
import NovelEngine.Proofs.Upkeep
import NovelEngine.Proofs.Labels
import NovelEngine.Proofs.SlotBounds
import NovelEngine.Proofs.StorageLimit
import NovelEngine.Proofs.Finishing
import NovelEngine.Proofs.Parameters
import NovelEngine.Proofs.RangeWrites
import NovelEngine.Proofs.DocumentText
import NovelEngine.Proofs.SnapshotForm
import NovelEngine.Proofs.IndependentCells
import NovelEngine.Proofs.Preparation
import NovelEngine.Proofs.ObjectCommands
